import Flowchart.Proofs.Labels

/-!
# Shapes and their brackets

A shape is told by the delimiters that its brackets begin with, but for five shapes: a rectangle
and the four slanted ones all begin with a square bracket. The slanted ones have strokes between
these brackets and the text (`Shape.strokes?`), and a stroke is not a delimiter. So a text with
strokes at both ends, in a rectangle, is written like the text between them in a slanted shape. The
main statement, `Shape.wrap_determines`, is that this is the only case in which a text in brackets
does not tell its shape.
-/

namespace Flowchart.Shape

open Text

variable {s s' : Shape} {t u : String}

/-! ## Strokes -/

/-- The strokes of a slanted shape before and after its text. -/
def strokes? : Shape → Option (Char × Char)
  | parallelogram => some ('/', '/')
  | parallelogramAlt => some ('\\', '\\')
  | trapezoid => some ('/', '\\')
  | trapezoidAlt => some ('\\', '/')
  | _ => none

theorem eq_of_strokes? {p : Char × Char} (h : s.strokes? = some p) (h' : s'.strokes? = some p) :
    s = s' := by
  revert h'
  rw [← h]
  revert h
  cases s <;> cases s' <;> simp [strokes?]

theorem brackets_of_strokes? {a b : Char} (h : s.strokes? = some (a, b)) :
    s.opening.toList = ['[', a] ∧ s.closing.toList = [b, ']'] := by
  cases s <;> cases h <;> decide

theorem stroke_not_mem_delimiters {a b : Char} (h : s.strokes? = some (a, b)) :
    a ∉ delimiters ∧ b ∉ delimiters := by
  cases s <;> cases h <;> decide

/-- A text in a rectangle that is written like another one in a slanted shape. -/
def Mimics (t : String) (s : Shape) (u : String) : Prop :=
  ∃ a b, s.strokes? = some (a, b) ∧ t.toList = a :: (u.toList ++ [b]) ∧ Undelimited u.toList

/-! ## Brackets at the beginning -/

/-- A delimiter that is not a quote. -/
def isBracket (c : Char) : Bool :=
  delimiters.contains c && c != '\x22'

/-- A label of a text begins with a quote or with no delimiter. -/
theorem exists_quoteLabel_eq (ht : t ≠ "") :
    ∃ c rest, (quoteLabel t).toList = c :: rest ∧ isBracket c = false := by
  rcases quoteLabel_cases t with ⟨hfree, hlabel⟩ | ⟨-, hlabel⟩
  · obtain ⟨c, rest, hcs⟩ := List.exists_cons_of_ne_nil (mt String.toList_eq_nil_iff.mp ht)
    refine ⟨c, rest, by rw [hlabel, hcs], ?_⟩
    have hc : c ∉ delimiters := hfree c (hcs ▸ List.mem_cons_self)
    simp [isBracket, hc]
  · exact ⟨_, _, hlabel, rfl⟩

theorem takeWhile_append_cons {α : Type} {p : α → Bool} {c : α} (hc : p c = false)
    (as rest : List α) : (as ++ c :: rest).takeWhile p = as.takeWhile p := by
  induction as with
  | nil => simp [hc]
  | cons a as ih => rw [List.cons_append, List.takeWhile_cons, List.takeWhile_cons, ih]

/-- Whatever the text, the brackets at the beginning are those of the shape. -/
theorem takeWhile_wrap (s : Shape) (ht : t ≠ "") :
    (s.wrap (quoteLabel t)).toList.takeWhile isBracket = s.opening.toList.takeWhile isBracket := by
  obtain ⟨c, rest, hlabel, hc⟩ := exists_quoteLabel_eq ht
  rw [wrap, String.toList_append, String.toList_append, List.append_assoc, hlabel,
    List.cons_append, takeWhile_append_cons hc]

/-- Only the rectangle and the slanted shapes begin with the same brackets. -/
theorem eq_or_square (h : s.opening.toList.takeWhile isBracket
      = s'.opening.toList.takeWhile isBracket) :
    s = s' ∨ (s = rect ∨ s.strokes?.isSome) ∧ (s' = rect ∨ s'.strokes?.isSome) := by
  revert h
  cases s <;> cases s' <;> decide

/-! ## Texts in square brackets -/

theorem toList_rect_wrap (t : String) : (rect.wrap t).toList = '[' :: (t.toList ++ [']']) := by
  simp [wrap, opening, closing]

theorem toList_wrap_of_strokes? {a b : Char} (h : s.strokes? = some (a, b)) (t : String) :
    (s.wrap t).toList = '[' :: a :: (t.toList ++ [b] ++ [']']) := by
  obtain ⟨hopening, hclosing⟩ := brackets_of_strokes? h
  simp [wrap, hopening, hclosing]

theorem wrap_inj : s.wrap t = s.wrap u ↔ t = u := by
  simp [wrap]

/-- Two slanted shapes differ in the stroke before the text or in the one after it. -/
theorem eq_of_slanted {p p' : Char × Char} (hs : s.strokes? = some p) (hs' : s'.strokes? = some p')
    (h : s.wrap t = s'.wrap u) : s = s' := by
  have hlists := congrArg String.toList h
  rw [toList_wrap_of_strokes? hs, toList_wrap_of_strokes? hs'] at hlists
  obtain ⟨hbefore, hrest⟩ := List.cons.inj (List.cons.inj hlists).2
  have hafter : [p.2] = [p'.2] := (List.append_inj' (List.append_cancel_right hrest) rfl).2
  have hstrokes : p = p' := Prod.ext hbefore (List.cons.inj hafter).1
  exact eq_of_strokes? hs (hstrokes ▸ hs')

/-- A rectangle is written like a slanted shape exactly if its text mimics it. -/
theorem rect_wrap_eq_iff {p : Char × Char} (hs : s.strokes? = some p) :
    rect.wrap (quoteLabel t) = s.wrap (quoteLabel u) ↔ Mimics t s u := by
  obtain ⟨a, b⟩ := p
  have hstrokes := stroke_not_mem_delimiters hs
  have hwrap : rect.wrap (quoteLabel t) = s.wrap (quoteLabel u) ↔
      (quoteLabel t).toList = a :: ((quoteLabel u).toList ++ [b]) := by
    rw [← String.toList_inj, toList_rect_wrap, toList_wrap_of_strokes? hs, List.cons_inj_right,
      ← List.cons_append, List.append_left_inj]
  rw [hwrap]
  constructor
  · intro h
    -- A stroke is no quote, so the text is not quoted, and then no text within it is quoted either.
    obtain ⟨htfree, htlabel⟩ : Undelimited t.toList ∧ quoteLabel t = t := by
      rcases quoteLabel_cases t with hplain | ⟨-, hquoted⟩
      · exact hplain
      · rw [hquoted] at h
        have hquote : a = '\x22' := (List.cons.inj h).1.symm
        exact absurd (by rw [hquote]; decide) hstrokes.1
    rw [htlabel] at h
    rcases quoteLabel_cases u with ⟨hufree, hulabel⟩ | ⟨-, hquoted⟩
    · rw [hulabel] at h
      exact ⟨a, b, hs, h, hufree⟩
    · rw [hquoted] at h
      exact absurd (by simp [h]) htfree.quote_not_mem
  · rintro ⟨a', b', hs', ht, hu⟩
    obtain ⟨rfl, rfl⟩ : a = a' ∧ b = b' := by simpa [hs] using hs'
    have htfree : Undelimited t.toList := by
      intro c hc
      rw [ht, List.mem_cons, List.mem_append, List.mem_singleton] at hc
      rcases hc with rfl | hc | rfl
      · exact hstrokes.1
      · exact hu c hc
      · exact hstrokes.2
    rw [quoteLabel_of_undelimited htfree, quoteLabel_of_undelimited hu, ht]

/-- Labels in brackets are written alike exactly if shapes and labels are the same, or if one of the
shapes is a rectangle whose text mimics the other one. -/
theorem wrap_eq_wrap_iff (ht : t ≠ "") (hu : u ≠ "") :
    s.wrap (quoteLabel t) = s'.wrap (quoteLabel u) ↔
      s = s' ∧ quoteLabel t = quoteLabel u ∨
        s = rect ∧ Mimics t s' u ∨ s' = rect ∧ Mimics u s t := by
  constructor
  · intro h
    by_cases hshapes : s = s'
    · subst hshapes
      exact .inl ⟨rfl, wrap_inj.mp h⟩
    right
    have hrun : s.opening.toList.takeWhile isBracket = s'.opening.toList.takeWhile isBracket := by
      rw [← takeWhile_wrap s ht, h, takeWhile_wrap s' hu]
    obtain ⟨hs, hs'⟩ := (eq_or_square hrun).resolve_left hshapes
    rcases hs with rfl | hs
    · obtain ⟨p, hp⟩ := Option.isSome_iff_exists.mp (hs'.resolve_left (Ne.symm hshapes))
      exact .inl ⟨rfl, (rect_wrap_eq_iff hp).mp h⟩
    · obtain ⟨p, hp⟩ := Option.isSome_iff_exists.mp hs
      rcases hs' with rfl | hs'
      · exact .inr ⟨rfl, (rect_wrap_eq_iff hp).mp h.symm⟩
      · obtain ⟨p', hp'⟩ := Option.isSome_iff_exists.mp hs'
        exact absurd (eq_of_slanted hp hp' h) hshapes
  · rintro (⟨rfl, hlabels⟩ | ⟨rfl, hmimics⟩ | ⟨rfl, hmimics⟩)
    · rw [hlabels]
    · obtain ⟨a, b, hstrokes, -⟩ := id hmimics
      exact (rect_wrap_eq_iff hstrokes).mpr hmimics
    · obtain ⟨a, b, hstrokes, -⟩ := id hmimics
      exact ((rect_wrap_eq_iff hstrokes).mpr hmimics).symm

theorem not_mimics_rect (t u : String) : ¬ Mimics t rect u := by
  rintro ⟨a, b, hstrokes, -⟩
  cases hstrokes

/-- A text in brackets tells the shape unless one of the shapes is a rectangle whose text is that of
the other one, between the strokes of this other shape and without delimiters. What a text in
brackets tells, so does the declaration of a node. -/
theorem wrap_determines (s s' : Shape) (ht : t ≠ "") (hu : u ≠ "") :
    ((s.wrap (quoteLabel t) = s'.wrap (quoteLabel u) → s = s') ↔
      ¬ (s = rect ∧ Mimics t s' u) ∧ ¬ (s' = rect ∧ Mimics u s t)) ∧
    ∀ m n : Node, m.id = n.id → m.text = t → n.text = u →
      m.shape.getD .rect = s → n.shape.getD .rect = s' →
      (m.declaration = n.declaration ↔ s.wrap (quoteLabel t) = s'.wrap (quoteLabel u)) := by
  constructor
  · rw [wrap_eq_wrap_iff ht hu, ← not_or]
    constructor
    · intro h hmimics
      have hshapes : s = s' := h (.inr hmimics)
      rcases hmimics with ⟨rfl, hmimics⟩ | ⟨rfl, hmimics⟩
      · exact not_mimics_rect t u (hshapes ▸ hmimics)
      · exact not_mimics_rect u t (hshapes ▸ hmimics)
    · rintro hnot (⟨hshapes, -⟩ | hmimics)
      · exact hshapes
      · exact absurd hmimics hnot
  · rintro m n hid rfl rfl rfl rfl
    rw [Node.declaration, Node.declaration, if_neg ht, if_neg hu, hid, String.append_right_inj]

/-- A rectangle whose text has the strokes of a trapezoid at its ends. -/
def strokedRectangle : Node where
  id := "n"
  text := "/a b\\"

/-- A trapezoid around the text between these strokes. -/
def plainTrapezoid : Node where
  id := "n"
  text := "a b"
  shape := some .trapezoid

/-- The rectangle is declared like the trapezoid, and no circle is. -/
theorem wrap_determines_trapezoid :
    strokedRectangle.text ≠ "" ∧ plainTrapezoid.text ≠ "" ∧
      rect ≠ trapezoid ∧ Mimics strokedRectangle.text trapezoid plainTrapezoid.text ∧
      strokedRectangle.declaration = plainTrapezoid.declaration ∧
      circle.wrap (quoteLabel strokedRectangle.text)
        ≠ trapezoid.wrap (quoteLabel plainTrapezoid.text) := by
  have hrectangle : strokedRectangle.text ≠ "" := by decide
  have htrapezoid : plainTrapezoid.text ≠ "" := by decide
  have hmimics : Mimics strokedRectangle.text trapezoid plainTrapezoid.text :=
    ⟨'/', '\\', rfl, by decide, by decide⟩
  obtain ⟨hrect, hdeclaration⟩ := wrap_determines rect trapezoid hrectangle htrapezoid
  obtain ⟨hcircle, -⟩ := wrap_determines circle trapezoid hrectangle htrapezoid
  refine ⟨hrectangle, htrapezoid, by decide, hmimics, ?_, fun h => ?_⟩
  · refine (hdeclaration strokedRectangle plainTrapezoid rfl rfl rfl rfl rfl).mpr ?_
    by_contra hne
    exact (hrect.mp fun h => absurd h hne).1 ⟨rfl, hmimics⟩
  · exact absurd (hcircle.mpr ⟨by simp, by simp⟩ h) (by decide)

/-- A text between slashes in a rectangle is written like a parallelogram. -/
theorem rect_wrap_eq_parallelogram_wrap :
    rect.wrap (quoteLabel "/a/") = "[/a/]" ∧ parallelogram.wrap (quoteLabel "a") = "[/a/]" ∧
      ¬ ∀ (s s' : Shape) (t u : String), t ≠ "" → u ≠ "" →
        s.wrap (quoteLabel t) = s'.wrap (quoteLabel u) → s = s' := by
  have hrect : rect.wrap (quoteLabel "/a/") = "[/a/]" := by decide
  have hparallelogram : parallelogram.wrap (quoteLabel "a") = "[/a/]" := by decide
  refine ⟨hrect, hparallelogram, fun h => ?_⟩
  exact absurd (h _ _ _ _ (by decide) (by decide) (hrect.trans hparallelogram.symm)) (by decide)

end Flowchart.Shape
