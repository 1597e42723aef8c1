/-! # Classes of characters as ranges of code points

A property of the Unicode character database is a list of ranges in rising order. Membership
stops at the first range that lies above the code point, so a table costs an ASCII character
next to nothing.
-/

namespace Flowchart.Text

/-- A class of characters: ranges of code points with both ends included, in rising order. -/
abbrev Ranges := List (Nat × Nat)

/-- Tells whether a code point lies in one of the ranges. -/
def Ranges.covers : Ranges → Nat → Bool
  | [], _ => false
  | (lo, hi) :: rest, n =>
    if n < lo then false else if n ≤ hi then true else Ranges.covers rest n

/-- Each range is a range, and begins above the end of the one before it. -/
def Ranges.rising : Ranges → Bool
  | [] => true
  | [(lo, hi)] => decide (lo ≤ hi)
  | (lo, hi) :: (lo', hi') :: rest =>
    decide (lo ≤ hi) && decide (hi < lo') && Ranges.rising ((lo', hi') :: rest)

/-- Membership is what the ranges say, as long as they rise. -/
theorem Ranges.covers_iff {rs : Ranges} (h : rs.rising = true) (n : Nat) :
    rs.covers n = true ↔ ∃ r ∈ rs, r.1 ≤ n ∧ n ≤ r.2 := by
  induction rs with
  | nil => simp [Ranges.covers]
  | cons r rest ih =>
    obtain ⟨lo, hi⟩ := r
    have htail : Ranges.rising rest = true ∧ ∀ q ∈ rest, hi < q.1 := by
      clear ih
      induction rest generalizing lo hi with
      | nil => simp [Ranges.rising]
      | cons q tail ih =>
        obtain ⟨lo', hi'⟩ := q
        simp only [Ranges.rising, Bool.and_eq_true, decide_eq_true_eq] at h
        obtain ⟨⟨_, hlt⟩, hrest⟩ := h
        refine ⟨hrest, ?_⟩
        have hle : lo' ≤ hi' := by
          cases tail with
          | nil => simpa [Ranges.rising] using hrest
          | cons _ _ =>
            simp only [Ranges.rising, Bool.and_eq_true, decide_eq_true_eq] at hrest
            exact hrest.1.1
        have hbound := (ih lo' hi' hrest).2
        intro q hq
        rcases List.mem_cons.1 hq with rfl | hq
        · exact hlt
        · have := hbound q hq
          omega
    rw [Ranges.covers]
    split
    · next hlo =>
      simp only [Bool.false_eq_true, false_iff, List.mem_cons, not_exists, not_and]
      rintro q (rfl | hq) hq1
      · exact absurd hq1 (by simpa using hlo)
      · have := htail.2 q hq
        have hle : lo ≤ hi := by
          cases rest with
          | nil => simpa [Ranges.rising] using h
          | cons p _ =>
            obtain ⟨_, _⟩ := p
            simp only [Ranges.rising, Bool.and_eq_true, decide_eq_true_eq] at h
            exact h.1.1
        omega
    · next hlo =>
      split
      · next hhi =>
        simp only [true_iff]
        exact ⟨(lo, hi), by simp, by simpa using hlo, hhi⟩
      · next hhi =>
        rw [ih htail.1]
        constructor
        · rintro ⟨q, hq, hq'⟩
          exact ⟨q, List.mem_cons_of_mem _ hq, hq'⟩
        · rintro ⟨q, hq, hq'⟩
          rcases List.mem_cons.1 hq with rfl | hq
          · exact absurd hq'.2 (by simpa using hhi)
          · exact ⟨q, hq, hq'⟩

/-- Tells whether a character lies in one of the ranges. -/
def Ranges.has (rs : Ranges) (c : Char) : Bool :=
  rs.covers c.toNat

end Flowchart.Text
