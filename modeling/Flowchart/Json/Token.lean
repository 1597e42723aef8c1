import Flowchart.Json.Number

/-! # JSON tokens

A text is cut into tokens. A text that goes wrong in the middle of a token ends in a broken token,
and nothing after it is looked at. There are two ways of going wrong: the text may end too early,
or it may be malformed.

A reader may also skip a token without looking at what it stands for. Skipping is more lenient: it
takes numbers of any size and surrogate escapes without a partner. And it judges a number that is
cut off by the end of the text differently. A broken token says both what its reader finds and
what one who skips it finds.

`Token.next?` takes one token off the front of a text and leaves a shorter one, which is why
`tokenize` ends.
-/

namespace Flowchart.Json

/-- The ways in which a text fails to be JSON. -/
inductive Fault where
  /-- The text ends too early. -/
  | cut
  /-- The text goes on in a way that JSON does not. -/
  | malformed
  deriving DecidableEq, Repr, Inhabited

/-- What is found where a text goes wrong. -/
structure Break where
  /-- By one who reads on. -/
  seen : Fault
  /-- By one who skips what stands there. -/
  skipped : Fault
  deriving DecidableEq, Repr, Inhabited

/-- A place at which all find the same. -/
def Break.plain (f : Fault) : Break := ⟨f, f⟩

/-- The fault of a text that should go on: it ends, or it goes on with something else. -/
def Break.before {α : Type} : List α → Break
  | [] => .plain .cut
  | _ => .plain .malformed

/-- A lexical unit. -/
inductive Token where
  | openList
  | closeList
  | openObject
  | closeObject
  | comma
  | colon
  | null
  | bool (value : Bool)
  /-- A number, absent if it is too large. -/
  | number (value : Option Number)
  /-- A string, absent if a surrogate in it stands alone. -/
  | string (value : Option String)
  /-- A string in which the text goes wrong. -/
  | brokenString (fault : Break)
  /-- Anything else in which the text goes wrong. -/
  | broken (fault : Break)
  deriving DecidableEq, Repr

/-! ## Strings -/

/-- A part of a string: a character, or one half of a surrogate pair. -/
inductive Part where
  | char (c : Char)
  | half (unit : Nat)
  deriving DecidableEq, Repr

/-- The first half of a surrogate pair. -/
def isHighHalf (n : Nat) : Bool :=
  decide (0xD800 ≤ n) && decide (n < 0xDC00)

/-- Either half of a surrogate pair. -/
def isHalf (n : Nat) : Bool :=
  decide (0xD800 ≤ n) && decide (n < 0xE000)

/-- The part that an escaped code unit stands for. -/
def Part.ofUnit (n : Nat) : Part :=
  if isHalf n then .half n else .char (Char.ofNat n)

/-- The character of a surrogate pair. -/
def joinHalves (high low : Nat) : Char :=
  Char.ofNat (0x10000 + (high - 0xD800) * 0x400 + (low - 0xDC00))

/-- The characters of a string, if each half has its partner. -/
def Part.chars? : List Part → Option (List Char)
  | [] => some []
  | .char c :: rest => (chars? rest).map (c :: ·)
  | .half high :: .half low :: rest =>
    if isHighHalf high && !isHighHalf low then (chars? rest).map (joinHalves high low :: ·)
    else none
  | .half _ :: _ => none

/-- Tells whether some half is known to have no partner, however the string may go on. -/
def Part.hasLoneHalf : List Part → Bool
  | [] => false
  | .char _ :: rest => hasLoneHalf rest
  | [.half n] => !isHighHalf n
  | .half high :: .half low :: rest =>
    if isHighHalf high && !isHighHalf low then hasLoneHalf rest else true
  | .half _ :: .char _ :: _ => true

/-- The value of a hexadecimal digit. -/
def hexValue? (c : Char) : Option Nat :=
  if c.isDigit then some (c.toNat - 48)
  else if 'a' ≤ c ∧ c ≤ 'f' then some (c.toNat - 87)
  else if 'A' ≤ c ∧ c ≤ 'F' then some (c.toNat - 55)
  else none

/-- The code unit of four hexadecimal digits. -/
def hexUnit? (a b c d : Char) : Option Nat := do
  some (4096 * (← hexValue? a) + 256 * (← hexValue? b) + 16 * (← hexValue? c) + (← hexValue? d))

/-- The character of a one-letter escape. -/
def escaped? : Char → Option Char
  | '\x22' => some '\x22'
  | '\\' => some '\\'
  | '/' => some '/'
  | 'b' => some '\x08'
  | 'f' => some '\x0c'
  | 'n' => some '\n'
  | 'r' => some '\r'
  | 't' => some '\t'
  | _ => none

/-- The number of bytes of a text in UTF-8. -/
def byteCount (cs : List Char) : Nat :=
  (String.ofList cs).utf8ByteSize

/-- The fault of a code unit escape with too few characters after it: the text is taken to end too
early if fewer than four bytes are left. -/
def shortEscape (cs : List Char) : Fault :=
  if byteCount cs < 4 then .cut else .malformed

/-- One part more in front of what was scanned. -/
def Part.before (p : Part) (r : List Part × Except Fault (List Char)) :
    List Part × Except Fault (List Char) :=
  (p :: r.1, r.2)

/-- The parts of a string up to its closing quote, and the text after that or what goes wrong. -/
def scanString : List Char → List Part × Except Fault (List Char)
  | [] => ([], .error .cut)
  | c :: cs =>
    if c = '\x22' then ([], .ok cs)
    else if c = '\\' then
      match cs with
      | [] => ([], .error .cut)
      | 'u' :: cs =>
        match cs with
        | x :: y :: z :: w :: rest =>
          match hexUnit? x y z w with
          | some n => (Part.ofUnit n).before (scanString rest)
          | none => ([], .error .malformed)
        | short => ([], .error (shortEscape short))
      | e :: cs =>
        match escaped? e with
        | some c => (Part.char c).before (scanString cs)
        | none => ([], .error .malformed)
    else if c.toNat < 0x20 then ([], .error .malformed)
    else (Part.char c).before (scanString cs)

/-- A string token, after its opening quote. -/
def stringToken (cs : List Char) : Token × List Char :=
  match scanString cs with
  | (parts, .ok rest) => (.string ((Part.chars? parts).map String.ofList), rest)
  | (parts, .error f) =>
    (.brokenString ⟨if Part.hasLoneHalf parts then .malformed else f, f⟩, [])

/-! ## Numbers and literals -/

/-- A number that lacks a digit: one who skips it does not mind where the text ends. -/
def missingDigit (cs : List Char) : Break :=
  ⟨(Break.before cs).seen, .malformed⟩

/-- The fraction of a number, if it has one, and the rest. -/
def scanFraction : List Char → Except Break (Option (List Char) × List Char)
  | '.' :: cs =>
    let rest := cs.dropWhile Char.isDigit
    match cs.takeWhile Char.isDigit with
    | [] => .error (missingDigit cs)
    | ds => .ok (some ds, rest)
  | cs => .ok (none, cs)

/-- The exponent of a number, if it has one, and the rest. -/
def scanExponent : List Char → Except Break (Option (Bool × List Char) × List Char)
  | [] => .ok (none, [])
  | e :: cs =>
    if e = 'e' ∨ e = 'E' then
      let (negative, digits) := Decimal.takeSign cs
      let rest := digits.dropWhile Char.isDigit
      match digits.takeWhile Char.isDigit with
      | [] => .error (missingDigit digits)
      | ds => .ok (some (negative, ds), rest)
    else .ok (none, e :: cs)

/-- A number, after its sign. -/
def scanNumber (negative : Bool) (cs : List Char) : Except Break (NumberText × List Char) :=
  let rest := cs.dropWhile Char.isDigit
  match cs.takeWhile Char.isDigit with
  | [] => .error (missingDigit cs)
  | '0' :: _ :: _ => .error (.plain .malformed)
  | whole => do
    let (fraction, rest) ← scanFraction rest
    let (exponent, rest) ← scanExponent rest
    .ok (⟨negative, whole, fraction, exponent⟩, rest)

/-- A number token, after its sign. -/
def numberToken (negative : Bool) (cs : List Char) : Token × List Char :=
  match scanNumber negative cs with
  | .ok (text, rest) => (.number text.value?, rest)
  | .error b => (.broken b, [])

/-- The rest of a text that should begin with a word. -/
def expectWord : List Char → List Char → Except Fault (List Char)
  | [], cs => .ok cs
  | _ :: _, [] => .error .cut
  | w :: ws, c :: cs => if w = c then expectWord ws cs else .error .malformed

/-- A literal token, after its first letter. -/
def wordToken (token : Token) (word cs : List Char) : Token × List Char :=
  match expectWord word cs with
  | .ok rest => (token, rest)
  | .error f => (.broken (.plain f), [])

/-! ## The text as tokens -/

/-- The blanks that may stand between tokens. -/
def isSpace (c : Char) : Bool :=
  c = ' ' || c = '\t' || c = '\n' || c = '\r'

/-- The token that begins with a character, and the text after it. -/
def Token.start (c : Char) (cs : List Char) : Token × List Char :=
  if c = '[' then (.openList, cs)
  else if c = ']' then (.closeList, cs)
  else if c = '\x7b' then (.openObject, cs)
  else if c = '\x7d' then (.closeObject, cs)
  else if c = ',' then (.comma, cs)
  else if c = ':' then (.colon, cs)
  else if c = '\x22' then stringToken cs
  else if c = '-' then numberToken true cs
  else if c.isDigit then numberToken false (c :: cs)
  else if c = 'n' then wordToken .null ['u', 'l', 'l'] cs
  else if c = 't' then wordToken (.bool true) ['r', 'u', 'e'] cs
  else if c = 'f' then wordToken (.bool false) ['a', 'l', 's', 'e'] cs
  else (.broken (.plain .malformed), [])

/-- The first token of a text and the text after it, if there is more than blanks. -/
def Token.next? (cs : List Char) : Option (Token × List Char) :=
  match cs.dropWhile isSpace with
  | [] => none
  | c :: rest => some (Token.start c rest)

theorem length_dropWhile_le {α : Type} (p : α → Bool) (l : List α) :
    (l.dropWhile p).length ≤ l.length :=
  (List.dropWhile_sublist p).length_le

theorem length_scanString {cs rest : List Char} (h : (scanString cs).2 = .ok rest) :
    rest.length < cs.length := by
  fun_induction scanString cs generalizing rest with
  | case1 => simp at h
  | case2 => simp_all
  | case3 => simp at h
  | case4 _ _ _ _ _ _ _ _ ih =>
    have := ih h
    simp only [List.length_cons]
    omega
  | case5 => simp at h
  | case6 => simp at h
  | case7 _ _ _ _ _ _ ih =>
    have := ih h
    simp only [List.length_cons]
    omega
  | case8 => simp at h
  | case9 => simp at h
  | case10 _ _ _ _ _ ih =>
    have := ih h
    simp only [List.length_cons]
    omega

theorem length_stringToken (cs : List Char) : (stringToken cs).2.length ≤ cs.length := by
  unfold stringToken
  split
  · next parts rest h =>
    have hrest : (scanString cs).2 = .ok rest := by rw [h]
    exact Nat.le_of_lt (length_scanString hrest)
  · simp

theorem length_scanFraction {cs rest : List Char} {o : Option (List Char)}
    (h : scanFraction cs = .ok (o, rest)) : rest.length ≤ cs.length := by
  unfold scanFraction at h
  split at h
  · next tail =>
    dsimp only at h
    split at h
    · simp at h
    · simp only [Except.ok.injEq, Prod.mk.injEq] at h
      have := length_dropWhile_le Char.isDigit tail
      rw [← h.2, List.length_cons]
      omega
  · simp only [Except.ok.injEq, Prod.mk.injEq] at h
    exact h.2 ▸ Nat.le_refl _

theorem length_takeSign (cs : List Char) : (Decimal.takeSign cs).2.length ≤ cs.length := by
  unfold Decimal.takeSign
  split <;> simp

theorem length_scanExponent {cs rest : List Char} {o : Option (Bool × List Char)}
    (h : scanExponent cs = .ok (o, rest)) : rest.length ≤ cs.length := by
  unfold scanExponent at h
  split at h
  · simp_all
  · next e tail =>
    split at h
    · dsimp only at h
      split at h
      · simp at h
      · simp only [Except.ok.injEq, Prod.mk.injEq] at h
        have h1 := length_dropWhile_le Char.isDigit (Decimal.takeSign tail).2
        have h2 := length_takeSign tail
        rw [← h.2, List.length_cons]
        omega
    · simp only [Except.ok.injEq, Prod.mk.injEq] at h
      exact h.2 ▸ Nat.le_refl _

theorem length_scanNumber {negative : Bool} {cs rest : List Char} {text : NumberText}
    (h : scanNumber negative cs = .ok (text, rest)) :
    rest.length ≤ (cs.dropWhile Char.isDigit).length := by
  unfold scanNumber at h
  dsimp only at h
  split at h
  · simp at h
  · simp at h
  · simp only [bind, Except.bind] at h
    split at h
    · simp at h
    · next f hf =>
      obtain ⟨fraction, rest1⟩ := f
      dsimp only at h
      split at h
      · simp at h
      · next g hg =>
        obtain ⟨exponent, rest2⟩ := g
        simp only [Except.ok.injEq, Prod.mk.injEq] at h
        rw [← h.2]
        exact Nat.le_trans (length_scanExponent hg) (length_scanFraction hf)

theorem length_numberToken (negative : Bool) (cs : List Char) :
    (numberToken negative cs).2.length ≤ (cs.dropWhile Char.isDigit).length := by
  unfold numberToken
  split
  · next text rest h => exact length_scanNumber h
  · simp

theorem length_expectWord {word cs rest : List Char} (h : expectWord word cs = .ok rest) :
    rest.length ≤ cs.length := by
  fun_induction expectWord word cs with
  | case1 => simp_all
  | case2 => simp at h
  | case3 ws c cs ih => exact Nat.le_succ_of_le (ih h)
  | case4 => simp at h

theorem length_wordToken (token : Token) (word cs : List Char) :
    (wordToken token word cs).2.length ≤ cs.length := by
  unfold wordToken
  split
  · next rest h => exact length_expectWord h
  · simp

theorem length_ite_le {p : Prop} [Decidable p] {a b : Token × List Char} {n : Nat}
    (ha : p → a.2.length ≤ n) (hb : b.2.length ≤ n) : (if p then a else b).2.length ≤ n := by
  split
  · next hp => exact ha hp
  · exact hb

/-- What follows a token is shorter than the text by at least the first character of the token. -/
theorem length_start_le (c : Char) (cs : List Char) :
    (Token.start c cs).2.length ≤ cs.length := by
  have hnumber := length_dropWhile_le Char.isDigit cs
  unfold Token.start
  iterate 6 refine length_ite_le (fun _ => Nat.le_refl _) ?_
  refine length_ite_le (fun _ => length_stringToken cs) ?_
  refine length_ite_le (fun _ => Nat.le_trans (length_numberToken true cs) hnumber) ?_
  refine length_ite_le (fun hdigit => ?_) ?_
  · have := length_numberToken false (c :: cs)
    rw [List.dropWhile_cons_of_pos hdigit] at this
    exact Nat.le_trans this hnumber
  · iterate 3 refine length_ite_le (fun _ => length_wordToken _ _ cs) ?_
    exact Nat.zero_le _

theorem length_next? {cs rest : List Char} {t : Token} (h : Token.next? cs = some (t, rest)) :
    rest.length < cs.length := by
  unfold Token.next? at h
  split at h
  · simp at h
  · next c tail hc =>
    simp only [Option.some.injEq] at h
    have hstart := length_start_le c tail
    have hdrop := length_dropWhile_le isSpace cs
    rw [hc, List.length_cons] at hdrop
    rw [h] at hstart
    exact Nat.lt_of_le_of_lt hstart hdrop

/-- The tokens of a text. -/
def tokenize (cs : List Char) : List Token :=
  match _h : Token.next? cs with
  | none => []
  | some (t, rest) => t :: tokenize rest
termination_by cs.length
decreasing_by exact length_next? _h

end Flowchart.Json
