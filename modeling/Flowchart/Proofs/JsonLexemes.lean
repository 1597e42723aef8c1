import Flowchart.Json.Token
import Mathlib.Data.List.Chain
import Mathlib.Data.List.TakeWhile

/-!
# How JSON tokens are written

A token may be written in several ways: the characters of a string may be escaped, an exponent may
have a sign, and blanks may stand before each token. This module says which texts a list of tokens
has (`Spread`), without regard to how a text is read. The main statement is `tokenize_spread`, that
each of these texts is read as these tokens.
-/

namespace Flowchart.Json

/-! ## Strings -/

/-- A hexadecimal digit, in small or capital letters. -/
def HexDigit (n : Nat) (d : Char) : Prop :=
  n < 16 ∧ (d = Nat.digitChar n ∨ d = (Nat.digitChar n).toUpper)

/-- A code unit in four hexadecimal digits. -/
inductive UnitSpelling (n : Nat) : List Char → Prop where
  | digits {a b c d : Nat} {w x y z : Char} (h : n = ((a * 16 + b) * 16 + c) * 16 + d)
      (hw : HexDigit a w) (hx : HexDigit b x) (hy : HexDigit c y) (hz : HexDigit d z) :
      UnitSpelling n [w, x, y, z]

/-- The letters of the short escapes, with the characters that they stand for. -/
def shortEscapes : List (Char × Char) :=
  [('\x22', '\x22'), ('\\', '\\'), ('/', '/'), ('b', '\x08'), ('f', '\x0c'), ('n', '\n'),
    ('r', '\r'), ('t', '\t')]

/-- The ways to write a character in a string: as it is, by a short escape, by its code unit, or,
beyond the basic plane, by its two surrogates. -/
inductive CharSpelling (c : Char) : List Char → Prop where
  | plain (hcontrol : 0x20 ≤ c.toNat) (hquote : c ≠ '\x22') (hslash : c ≠ '\\') :
      CharSpelling c [c]
  | short {e : Char} (h : (e, c) ∈ shortEscapes) : CharSpelling c ['\\', e]
  | unit {cs : List Char} (h : c.toNat < 0x10000) (hcs : UnitSpelling c.toNat cs) :
      CharSpelling c ('\\' :: 'u' :: cs)
  | pair {cs ds : List Char} (h : 0x10000 ≤ c.toNat)
      (hcs : UnitSpelling (0xD800 + (c.toNat - 0x10000) / 0x400) cs)
      (hds : UnitSpelling (0xDC00 + (c.toNat - 0x10000) % 0x400) ds) :
      CharSpelling c ('\\' :: 'u' :: cs ++ '\\' :: 'u' :: ds)

/-- The ways to write some characters in a string, one after the other. -/
inductive StringSpelling : List Char → List Char → Prop where
  | nil : StringSpelling [] []
  | cons {c : Char} {s cs ds : List Char} (h : CharSpelling c cs) (rest : StringSpelling s ds) :
      StringSpelling (c :: s) (cs ++ ds)

/-- Tells whether a character needs no escape. -/
def isPlain (c : Char) : Bool :=
  decide (0x20 ≤ c.toNat) && c != '\x22' && c != '\\'

/-- Characters that need no escape may be written as they are. -/
theorem StringSpelling.plain {s : List Char} (h : s.all isPlain) : StringSpelling s s := by
  induction s with
  | nil => exact .nil
  | cons c s ih =>
    rw [List.all_cons, Bool.and_eq_true] at h
    obtain ⟨⟨hcontrol, hquote⟩, hslash⟩ : (0x20 ≤ c.toNat ∧ c ≠ '\x22') ∧ c ≠ '\\' := by
      simpa [isPlain] using h.1
    exact .cons (.plain hcontrol hquote hslash) (ih h.2)

theorem HexDigit.hexValue? {n : Nat} {d : Char} (h : HexDigit n d) : hexValue? d = some n := by
  have hall : ∀ m ∈ List.range 16, Json.hexValue? (Nat.digitChar m) = some m ∧
      Json.hexValue? (Nat.digitChar m).toUpper = some m := by decide
  obtain ⟨hsmall, hcapital⟩ := hall n (List.mem_range.mpr h.1)
  rcases h.2 with rfl | rfl
  · exact hsmall
  · exact hcapital

/-- A unit is read off its four digits. -/
theorem UnitSpelling.scanString {n : Nat} {cs : List Char} (h : UnitSpelling n cs)
    (rest : List Char) : scanString ('\\' :: 'u' :: (cs ++ rest))
      = (Part.ofUnit n).before (Json.scanString rest) := by
  obtain ⟨heq, hw, hx, hy, hz⟩ := h
  have hunit : ∀ {a b c d : Nat} {w x y z : Char}, hexValue? w = some a → hexValue? x = some b →
      hexValue? y = some c → hexValue? z = some d →
      hexUnit? w x y z = some (((a * 16 + b) * 16 + c) * 16 + d) := by
    intro a b c d w x y z hw hx hy hz
    simp only [hexUnit?, hw, hx, hy, hz, Option.bind_eq_bind, Option.bind_some, Option.some.injEq]
    omega
  simp only [List.cons_append, List.nil_append, Json.scanString,
    hunit hw.hexValue? hx.hexValue? hy.hexValue? hz.hexValue?, ← heq]
  rfl

/-- No character is a half of a surrogate pair. -/
theorem Part.ofUnit_toNat (c : Char) : Part.ofUnit c.toNat = .char c := by
  have hvalid : c.toNat < 0xD800 ∨ 0xDFFF < c.toNat ∧ c.toNat < 0x110000 := c.valid
  have hhalf : isHalf c.toNat = false := by
    simp only [isHalf, Bool.and_eq_false_iff, decide_eq_false_iff_not]
    omega
  rw [Part.ofUnit, hhalf, Char.ofNat_toNat]
  rfl

theorem Part.ofUnit_of_half {n : Nat} (h : 0xD800 ≤ n) (h' : n < 0xE000) :
    Part.ofUnit n = .half n := by
  simp [Part.ofUnit, isHalf, h, h']

/-- Where a character is written, it is scanned as some parts, which stand for it. -/
theorem CharSpelling.exists_parts {c : Char} {cs : List Char} (h : CharSpelling c cs) :
    ∃ ps, (∀ rest, Json.scanString (cs ++ rest)
        = (ps ++ (Json.scanString rest).1, (Json.scanString rest).2)) ∧
      ∀ qs, Part.chars? (ps ++ qs) = (Part.chars? qs).map (c :: ·) := by
  cases h with
  | plain hcontrol hquote hslash =>
    refine ⟨[.char c], fun rest => ?_, fun qs => rfl⟩
    have : ¬ c.toNat < 0x20 := by omega
    rw [List.singleton_append, Json.scanString.eq_def]
    simp [hquote, hslash, this, Part.before]
  | short h =>
    refine ⟨[.char c], fun rest => ?_, fun qs => rfl⟩
    simp only [shortEscapes, List.mem_cons, Prod.mk.injEq, List.not_mem_nil, or_false] at h
    rcases h with ⟨rfl, rfl⟩ | ⟨rfl, rfl⟩ | ⟨rfl, rfl⟩ | ⟨rfl, rfl⟩ | ⟨rfl, rfl⟩ | ⟨rfl, rfl⟩ |
      ⟨rfl, rfl⟩ | ⟨rfl, rfl⟩ <;> rfl
  | unit h hcs =>
    refine ⟨[.char c], fun rest => ?_, fun qs => rfl⟩
    rw [List.cons_append, List.cons_append, hcs.scanString, Part.ofUnit_toNat]
    rfl
  | pair h hcs hds =>
    have hvalid : c.toNat < 0xD800 ∨ 0xDFFF < c.toNat ∧ c.toNat < 0x110000 := c.valid
    have hhigh := Part.ofUnit_of_half (n := 0xD800 + (c.toNat - 0x10000) / 0x400)
      (by omega) (by omega)
    have hlow := Part.ofUnit_of_half (n := 0xDC00 + (c.toNat - 0x10000) % 0x400)
      (by omega) (by omega)
    refine ⟨[.half (0xD800 + (c.toNat - 0x10000) / 0x400),
      .half (0xDC00 + (c.toNat - 0x10000) % 0x400)], fun rest => ?_, fun qs => ?_⟩
    · rw [List.append_assoc, List.cons_append, List.cons_append, List.cons_append,
        List.cons_append, hcs.scanString, hds.scanString, hhigh, hlow]
      rfl
    · have hjoin : joinHalves (0xD800 + (c.toNat - 0x10000) / 0x400)
          (0xDC00 + (c.toNat - 0x10000) % 0x400) = c := by
        rw [joinHalves, show 0x10000 + (0xD800 + (c.toNat - 0x10000) / 0x400 - 0xD800) * 0x400
          + (0xDC00 + (c.toNat - 0x10000) % 0x400 - 0xDC00) = c.toNat by omega, Char.ofNat_toNat]
      have hpair : (isHighHalf (0xD800 + (c.toNat - 0x10000) / 0x400) &&
          !isHighHalf (0xDC00 + (c.toNat - 0x10000) % 0x400)) = true := by
        simp only [isHighHalf, Bool.and_eq_true, decide_eq_true_eq, Bool.not_eq_true',
          Bool.and_eq_false_iff, decide_eq_false_iff_not]
        omega
      rw [List.cons_append, List.singleton_append, Part.chars?, if_pos hpair, hjoin]

/-- A string is read as the characters that it was written for, up to its closing quote. -/
theorem StringSpelling.stringToken {s cs : List Char} (h : StringSpelling s cs)
    (rest : List Char) :
    Json.stringToken (cs ++ '\x22' :: rest) = (.string (some (String.ofList s)), rest) := by
  have hscan : ∃ ps, Json.scanString (cs ++ '\x22' :: rest) = (ps, .ok rest) ∧
      Part.chars? ps = some s := by
    induction h with
    | nil =>
      refine ⟨[], ?_, rfl⟩
      rw [List.nil_append, Json.scanString.eq_def]
      simp
    | @cons c s cs ds h _ ih =>
      obtain ⟨qs, hqs, hchars⟩ := ih
      obtain ⟨ps, hps, hjoin⟩ := h.exists_parts
      refine ⟨ps ++ qs, ?_, ?_⟩
      · rw [List.append_assoc, hps, hqs]
      · rw [hjoin, hchars]
        rfl
  obtain ⟨ps, hps, hchars⟩ := hscan
  rw [Json.stringToken, hps]
  simp [hchars]

/-! ## Numbers -/

/-- A row of decimal digits. -/
def Digits (ds : List Char) : Prop :=
  ds ≠ [] ∧ ∀ d ∈ ds, d.isDigit

theorem Digits.of_all {d : Char} {ds : List Char} (h : (d :: ds).all Char.isDigit) :
    Digits (d :: ds) :=
  ⟨List.cons_ne_nil d ds, List.all_eq_true.mp h⟩

/-- The fraction of a number, behind its point. -/
inductive FractionSpelling : Option (List Char) → List Char → Prop where
  | none : FractionSpelling none []
  | some {ds : List Char} (h : Digits ds) : FractionSpelling (some ds) ('.' :: ds)

/-- The sign of an exponent: a plus may be left out. -/
inductive SignSpelling : Bool → List Char → Prop where
  | minus : SignSpelling true ['-']
  | plus : SignSpelling false ['+']
  | none : SignSpelling false []

/-- The exponent of a number, behind a small or a capital letter. -/
inductive ExponentSpelling : Option (Bool × List Char) → List Char → Prop where
  | none : ExponentSpelling none []
  | some {negative : Bool} {e : Char} {sign ds : List Char} (he : e = 'e' ∨ e = 'E')
      (hsign : SignSpelling negative sign) (hds : Digits ds) :
      ExponentSpelling (some (negative, ds)) (e :: (sign ++ ds))

/-- The ways to write a number without its sign. No zero stands before other digits. -/
inductive NumberSpelling (n : NumberText) : List Char → Prop where
  | parts {fraction exponent : List Char} (hwhole : Digits n.whole)
      (hzero : n.whole.head? = some '0' → n.whole = ['0'])
      (hfraction : FractionSpelling n.fraction fraction)
      (hexponent : ExponentSpelling n.exponent exponent) :
      NumberSpelling n (n.whole ++ (fraction ++ exponent))

/-- A number ends before a text that cannot belong to it. -/
def EndsNumber (rest : List Char) : Prop :=
  ∀ c ∈ rest.head?, c.isDigit = false ∧ c ≠ '.' ∧ c ≠ 'e' ∧ c ≠ 'E'

theorem takeWhile_digits {ds rest : List Char} (hds : Digits ds)
    (hrest : ∀ c ∈ rest.head?, c.isDigit = false) :
    (ds ++ rest).takeWhile Char.isDigit = ds ∧ (ds ++ rest).dropWhile Char.isDigit = rest := by
  rw [List.takeWhile_append_of_pos hds.2, List.dropWhile_append_of_pos hds.2]
  cases rest with
  | nil => simp
  | cons c rest =>
    have hc : c.isDigit = false := hrest c rfl
    simp [hc]

theorem FractionSpelling.scanFraction {fraction : Option (List Char)} {cs rest : List Char}
    (h : FractionSpelling fraction cs)
    (hrest : ∀ c ∈ rest.head?, c.isDigit = false ∧ c ≠ '.') :
    Json.scanFraction (cs ++ rest) = .ok (fraction, rest) := by
  cases h with
  | none =>
    cases rest with
    | nil => rfl
    | cons c rest =>
      rw [List.nil_append, Json.scanFraction]
      rintro tail ⟨⟩
      exact (hrest '.' rfl).2 rfl
  | @some ds h =>
    obtain ⟨htake, hdrop⟩ := takeWhile_digits h fun c hc => (hrest c hc).1
    obtain ⟨d, ds, rfl⟩ := List.exists_cons_of_ne_nil h.1
    rw [List.cons_append, Json.scanFraction]
    simp only [htake, hdrop]

theorem ExponentSpelling.scanExponent {exponent : Option (Bool × List Char)}
    {cs rest : List Char} (h : ExponentSpelling exponent cs) (hrest : EndsNumber rest) :
    Json.scanExponent (cs ++ rest) = .ok (exponent, rest) := by
  cases h with
  | none =>
    cases rest with
    | nil => rfl
    | cons c rest =>
      have hc := hrest c rfl
      rw [List.nil_append, Json.scanExponent, if_neg (by simp [hc.2.2.1, hc.2.2.2])]
  | @some negative e sign ds he hsign hds =>
    obtain ⟨htake, hdrop⟩ := takeWhile_digits hds fun c hc => (hrest c hc).1
    obtain ⟨d, ds, rfl⟩ := List.exists_cons_of_ne_nil hds.1
    have hsigned : Decimal.takeSign (sign ++ (d :: ds ++ rest)) = (negative, d :: ds ++ rest) := by
      cases hsign with
      | minus => rfl
      | plus => rfl
      | none =>
        have hd : d.isDigit = true := hds.2 d List.mem_cons_self
        rw [List.nil_append, List.cons_append, Decimal.takeSign]
        · rintro tail ⟨⟩
          exact absurd hd (by decide)
        · rintro tail ⟨⟩
          exact absurd hd (by decide)
    rw [List.cons_append, List.append_assoc, Json.scanExponent, if_pos he]
    simp only [hsigned, htake, hdrop]

/-- A number ends at the first character that cannot belong to it. -/
theorem NumberSpelling.scanNumber {n : NumberText} {cs rest : List Char}
    (h : NumberSpelling n cs) (hrest : EndsNumber rest) :
    Json.scanNumber n.negative (cs ++ rest) = .ok (n, rest) := by
  obtain ⟨negative, whole, o, o'⟩ := n
  obtain @⟨fraction, exponent, hwhole, hzero, hfraction, hexponent⟩ := h
  have hexp : ∀ c ∈ (exponent ++ rest).head?, c.isDigit = false ∧ c ≠ '.' := by
    cases hexponent with
    | none => exact fun c hc => ⟨(hrest c hc).1, (hrest c hc).2.1⟩
    | some he =>
      rintro c ⟨⟩
      rcases he with rfl | rfl <;> decide
  have hfrac : ∀ c ∈ (fraction ++ (exponent ++ rest)).head?, c.isDigit = false := by
    cases hfraction with
    | none => exact fun c hc => (hexp c hc).1
    | some =>
      rintro c ⟨⟩
      rfl
  obtain ⟨htake, hdrop⟩ := takeWhile_digits hwhole hfrac
  obtain ⟨d, ds, rfl⟩ := List.exists_cons_of_ne_nil hwhole.1
  rw [List.append_assoc, List.append_assoc, Json.scanNumber, htake, hdrop,
    hfraction.scanFraction hexp]
  have hscan := hexponent.scanExponent hrest
  by_cases hd : d = '0'
  · subst hd
    obtain rfl : ds = [] := by simpa using hzero rfl
    simp [hscan, bind, Except.bind]
  · simp [hd, hscan, bind, Except.bind]

/-! ## Tokens -/

/-- The ways to write a token. -/
inductive Token.Spelling : Token → List Char → Prop where
  | openList : Spelling .openList ['[']
  | closeList : Spelling .closeList [']']
  | openObject : Spelling .openObject ['\x7b']
  | closeObject : Spelling .closeObject ['\x7d']
  | comma : Spelling .comma [',']
  | colon : Spelling .colon [':']
  | null : Spelling .null ['n', 'u', 'l', 'l']
  | boolTrue : Spelling (.bool true) ['t', 'r', 'u', 'e']
  | boolFalse : Spelling (.bool false) ['f', 'a', 'l', 's', 'e']
  | positive {n : NumberText} {cs : List Char} (hn : n.negative = false)
      (h : NumberSpelling n cs) : Spelling (.number n.value?) cs
  | negative {n : NumberText} {cs : List Char} (hn : n.negative = true)
      (h : NumberSpelling n cs) : Spelling (.number n.value?) ('-' :: cs)
  | string {s : String} {cs : List Char} (h : StringSpelling s.toList cs) :
      Spelling (.string (some s)) ('\x22' :: (cs ++ ['\x22']))

/-- A string whose characters need no escape may be written as it is. -/
theorem Token.Spelling.plain {s : String} (h : s.toList.all isPlain) :
    (Token.string (some s)).Spelling ('\x22' :: (s.toList ++ ['\x22'])) :=
  .string (.plain h)

/-- Blanks between two tokens. -/
def Blanks (cs : List Char) : Prop :=
  ∀ c ∈ cs, isSpace c

/-- The texts of some tokens, each behind as many blanks as one likes. -/
inductive Spread : List Token → List Char → Prop where
  | nil {blanks : List Char} (h : Blanks blanks) : Spread [] blanks
  | cons {t : Token} {ts : List Token} {blanks cs rest : List Char} (h : Blanks blanks)
      (ht : t.Spelling cs) (hrest : Spread ts rest) : Spread (t :: ts) (blanks ++ (cs ++ rest))

/-- Tokens may be written without blanks. -/
theorem Spread.flatten {ts : List Token} {texts : List (List Char)}
    (h : List.Forall₂ Token.Spelling ts texts) : Spread ts texts.flatten := by
  induction h with
  | nil => exact .nil fun c hc => absurd hc List.not_mem_nil
  | cons ht _ ih => exact .cons (fun c hc => absurd hc List.not_mem_nil) ht ih

/-- Tells whether a token may stand behind a value. -/
def Token.closes : Token → Bool
  | .comma | .closeList | .closeObject => true
  | _ => false

/-- Tells whether a token can end at another one without a blank between them: any can, but for a
number, which must end at a token that may stand behind a value. -/
def Token.meets : Token → Token → Bool
  | .number _, next => next.closes
  | _, _ => true

theorem ne_of_isDigit {c x : Char} (h : c.isDigit) (hx : x.isDigit = false) : c ≠ x := by
  rintro rfl
  exact absurd h (Bool.eq_false_iff.mp hx)

theorem Token.start_digit {c : Char} (h : c.isDigit) (cs : List Char) :
    Token.start c cs = numberToken false (c :: cs) := by
  have hlist : c ≠ '[' ∧ c ≠ ']' := ⟨ne_of_isDigit h rfl, ne_of_isDigit h rfl⟩
  have hobject : c ≠ '\x7b' ∧ c ≠ '\x7d' := ⟨ne_of_isDigit h rfl, ne_of_isDigit h rfl⟩
  have hmark : c ≠ ',' ∧ c ≠ ':' := ⟨ne_of_isDigit h rfl, ne_of_isDigit h rfl⟩
  have hsign : c ≠ '\x22' ∧ c ≠ '-' := ⟨ne_of_isDigit h rfl, ne_of_isDigit h rfl⟩
  simp only [Token.start, hlist, hobject, hmark, hsign, h, if_true, if_false]

theorem isSpace_of_isDigit {c : Char} (h : c.isDigit) : isSpace c = false := by
  have hspace : c ≠ ' ' ∧ c ≠ '\t' := ⟨ne_of_isDigit h rfl, ne_of_isDigit h rfl⟩
  have hline : c ≠ '\n' ∧ c ≠ '\r' := ⟨ne_of_isDigit h rfl, ne_of_isDigit h rfl⟩
  simp [isSpace, hspace, hline]

/-- A token begins with a character that is no blank, and is read up to its end. -/
theorem Token.Spelling.start {t : Token} {cs : List Char} (h : t.Spelling cs) {rest : List Char}
    (hrest : ∀ v, t = .number v → EndsNumber rest) :
    ∃ c ds, cs = c :: ds ∧ isSpace c = false ∧ Token.start c (ds ++ rest) = (t, rest) := by
  cases h with
  | @positive n cs hn h =>
    have hscan := h.scanNumber (hrest _ rfl)
    have hcons : ∃ d ds, cs = d :: ds ∧ d.isDigit = true := by
      obtain @⟨fraction, exponent, hwhole, -, -, -⟩ := h
      obtain ⟨d, ds, hd⟩ := List.exists_cons_of_ne_nil hwhole.1
      exact ⟨d, ds ++ (fraction ++ exponent), by rw [hd, List.cons_append],
        hwhole.2 d (hd ▸ List.mem_cons_self)⟩
    obtain ⟨d, ds, rfl, hd⟩ := hcons
    refine ⟨d, ds, rfl, isSpace_of_isDigit hd, ?_⟩
    rw [Token.start_digit hd, numberToken, ← List.cons_append, ← hn, hscan]
  | negative hn h =>
    refine ⟨_, _, rfl, rfl, ?_⟩
    simp [Token.start, numberToken, ← hn, h.scanNumber (hrest _ rfl)]
  | @string s cs h =>
    refine ⟨_, _, rfl, rfl, ?_⟩
    have := h.stringToken rest
    rw [String.ofList_toList] at this
    simpa [Token.start] using this
  | _ => exact ⟨_, _, rfl, rfl, rfl⟩

theorem Token.Spelling.of_closes {t : Token} {cs : List Char} (h : t.Spelling cs)
    (hcloses : t.closes) : cs = [','] ∨ cs = [']'] ∨ cs = ['\x7d'] := by
  cases h with
  | comma => exact .inl rfl
  | closeList => exact .inr (.inl rfl)
  | closeObject => exact .inr (.inr rfl)
  | _ => exact absurd hcloses Bool.false_ne_true

/-- What follows a number ends it, if it begins with blanks or with what may stand behind a
value. -/
theorem Spread.endsNumber {ts : List Token} {cs : List Char} (h : Spread ts cs)
    (hts : ∀ t ∈ ts.head?, t.closes) : EndsNumber cs := by
  have hspace : ∀ x, isSpace x = true → x.isDigit = false ∧ x ≠ '.' ∧ x ≠ 'e' ∧ x ≠ 'E' := by
    intro x hx
    simp only [isSpace, Bool.or_eq_true, decide_eq_true_eq] at hx
    rcases hx with ((rfl | rfl) | rfl) | rfl <;> decide
  intro c hc
  cases h with
  | nil hblanks => exact hspace c (hblanks c (List.mem_of_mem_head? hc))
  | @cons t ts blanks cs rest hblanks ht hrest =>
    cases blanks with
    | cons b blanks =>
      obtain rfl : b = c := Option.some.inj hc
      exact hspace b (hblanks b List.mem_cons_self)
    | nil =>
      rcases ht.of_closes (hts t rfl) with rfl | rfl | rfl <;> obtain rfl := Option.some.inj hc <;>
        decide

theorem next?_append {blanks cs rest : List Char} {t : Token} (h : Blanks blanks)
    (ht : t.Spelling cs) (hrest : ∀ v, t = .number v → EndsNumber rest) :
    Token.next? (blanks ++ (cs ++ rest)) = some (t, rest) := by
  obtain ⟨c, ds, rfl, hc, hstart⟩ := ht.start hrest
  rw [Token.next?, List.dropWhile_append_of_pos h, List.cons_append,
    List.dropWhile_cons_of_neg (by simp [hc])]
  exact congrArg some hstart

/-- Tokens that can meet are read off each of their texts. -/
theorem tokenize_spread {ts : List Token} {cs : List Char} (h : Spread ts cs)
    (hts : ts.IsChain fun t next => t.meets next) : tokenize cs = ts := by
  induction h with
  | @nil blanks h =>
    have hnone : Token.next? blanks = none := by
      rw [Token.next?, List.dropWhile_eq_nil_iff.mpr h]
    rw [tokenize.eq_def]
    split
    · rfl
    · next hsome => simp [hnone] at hsome
  | @cons t ts blanks cs rest h ht hrest ih =>
    have hends : ∀ v, t = .number v → EndsNumber rest := by
      rintro v rfl
      refine hrest.endsNumber fun next hnext => ?_
      exact (List.isChain_cons.mp hts).1 next hnext
    have hnext := next?_append h ht hends
    rw [tokenize.eq_def]
    split
    · next hnone => simp [hnext] at hnone
    · next u rest' hsome =>
      obtain ⟨rfl, rfl⟩ : t = u ∧ rest = rest' := by simpa [hnext] using hsome
      rw [ih (List.isChain_cons.mp hts).2]

end Flowchart.Json
