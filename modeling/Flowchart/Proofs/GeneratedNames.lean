import Flowchart.Names
import Flowchart.Text.Split
import Mathlib.Data.List.Basic

/-!
# Generated names

A generated name can be read back, since its digits begin after its last underscore: names are
different if their stubs or their numbers are (`generatedName_inj`).

Names of several kinds may be drawn in any order. Those of each kind are numbered on from its count
(`Names.namesOf_drawAll`), and all of them are different (`Names.nodup_drawAll`).
-/

namespace Flowchart

/-! ## Single names -/

theorem underscore_not_mem_toDigits (n : Nat) : '_' ∉ Nat.toDigits 10 n := fun h =>
  absurd (Nat.isDigit_of_mem_toDigits (by decide) (by decide) h) (by decide)

/-- The digits of a generated name begin after its last underscore, whatever the stub is. -/
theorem splitFirst?_reverse_generatedName (stub : String) (n : Nat) :
    Text.splitFirst? '_' (generatedName stub n).toList.reverse
      = some ((Nat.toDigits 10 n).reverse, stub.toList.reverse) := by
  have htext : (generatedName stub n).toList.reverse
      = (Nat.toDigits 10 n).reverse ++ '_' :: stub.toList.reverse := by
    simp [generatedName]
  rw [htext, Text.splitFirst?_append]
  simp [underscore_not_mem_toDigits n]

theorem generatedName_inj {stub stub' : String} {m n : Nat} :
    generatedName stub m = generatedName stub' n ↔ stub = stub' ∧ m = n := by
  refine ⟨fun h => ?_, fun ⟨hstub, hn⟩ => by rw [hstub, hn]⟩
  have hsplit := splitFirst?_reverse_generatedName stub m
  rw [h, splitFirst?_reverse_generatedName] at hsplit
  obtain ⟨hdigits, hstub⟩ := Prod.mk.inj (Option.some.inj hsplit)
  refine ⟨String.toList_injective (List.reverse_injective hstub).symm, ?_⟩
  calc
    m = Nat.ofDigitChars 10 (Nat.toDigits 10 m) 0 := Nat.ofDigitChars_ten_toDigits.symm
    _ = Nat.ofDigitChars 10 (Nat.toDigits 10 n) 0 := by rw [List.reverse_injective hdigits]
    _ = n := Nat.ofDigitChars_ten_toDigits

theorem generatedName_ne_empty (stub : String) (n : Nat) : generatedName stub n ≠ "" := by
  simp [generatedName]

/-! ## Drawing one name after the other -/

namespace Names

/-- Names of some kinds, drawn one after the other, and the counts after them. -/
def drawAll (n : Names) : List NameKind → List (NameKind × String) × Names
  | [] => ([], n)
  | kind :: kinds =>
    let (name, n) := n.draw kind
    let (names, n) := n.drawAll kinds
    ((kind, name) :: names, n)

@[simp]
theorem drawn_empty (kind : NameKind) : ({} : Names).drawn kind = 0 := by
  cases kind <;> rfl

/-- The names of one kind among some names. -/
def namesOf (kind : NameKind) (names : List (NameKind × String)) : List String :=
  (names.filter fun x => x.1 = kind).map (·.2)

theorem stub_injective : Function.Injective stub := by
  intro a b h
  cases a <;> cases b <;> first | rfl | exact absurd h (by decide)

variable (n : Names) (kinds kinds' : List NameKind)

theorem drawAll_cons (kind : NameKind) :
    n.drawAll (kind :: kinds) =
      ((kind, (n.draw kind).1) :: ((n.draw kind).2.drawAll kinds).1,
        ((n.draw kind).2.drawAll kinds).2) :=
  rfl

theorem drawAll_append :
    n.drawAll (kinds ++ kinds') =
      ((n.drawAll kinds).1 ++ ((n.drawAll kinds).2.drawAll kinds').1,
        ((n.drawAll kinds).2.drawAll kinds').2) := by
  induction kinds generalizing n with
  | nil => rfl
  | cons kind kinds ih => simp only [List.cons_append, drawAll_cons, ih]

theorem map_fst_drawAll : (n.drawAll kinds).1.map (·.1) = kinds := by
  induction kinds generalizing n with
  | nil => rfl
  | cons kind kinds ih => exact congrArg (kind :: ·) (ih _)

/-- The count of a kind moves on by the names of this kind. -/
theorem drawn_drawAll (kind : NameKind) :
    (n.drawAll kinds).2.drawn kind = n.drawn kind + kinds.count kind := by
  induction kinds generalizing n with
  | nil => rfl
  | cons first kinds ih =>
    rw [drawAll_cons, ih, drawn_draw, List.count_cons]
    by_cases h : kind = first
    · rw [if_pos h, if_pos (beq_iff_eq.mpr h.symm)]
      omega
    · rw [if_neg h, if_neg (fun heq => h (beq_iff_eq.mp heq).symm)]
      omega

/-- The names of a kind are numbered on from its count, whatever is drawn between them. -/
theorem namesOf_drawAll (kind : NameKind) :
    namesOf kind (n.drawAll kinds).1
      = (List.range' (n.drawn kind) (kinds.count kind)).map (generatedName (stub kind)) := by
  induction kinds generalizing n with
  | nil => rfl
  | cons first kinds ih =>
    have hrest := ih (n.draw first).2
    rw [drawn_draw] at hrest
    by_cases h : kind = first
    · subst h
      rw [if_pos rfl] at hrest
      rw [List.count_cons_self, List.range'_succ, List.map_cons, ← hrest, drawAll_cons, namesOf,
        List.filter_cons_of_pos (by simp), List.map_cons]
      rfl
    · rw [if_neg h] at hrest
      rw [List.count_cons_of_ne (Ne.symm h), ← hrest, drawAll_cons, namesOf,
        List.filter_cons_of_neg (by simpa using Ne.symm h)]
      rfl

variable {n kinds}

/-- A name that is drawn has the stub of its kind and a number that has not been reached before. -/
theorem mem_drawAll {kind : NameKind} {name : String} (h : (kind, name) ∈ (n.drawAll kinds).1) :
    ∃ i, n.drawn kind ≤ i ∧ generatedName (stub kind) i = name := by
  have hmem : name ∈ namesOf kind (n.drawAll kinds).1 :=
    List.mem_map.mpr ⟨_, List.mem_filter.mpr ⟨h, decide_eq_true rfl⟩, rfl⟩
  rw [namesOf_drawAll, List.mem_map] at hmem
  obtain ⟨i, hi, hname⟩ := hmem
  exact ⟨i, (List.mem_range'_1.mp hi).1, hname⟩

variable (n kinds)

/-- Names are different by their numbers if they are of one kind, and else by their stubs. -/
theorem nodup_drawAll : ((n.drawAll kinds).1.map (·.2)).Nodup := by
  induction kinds generalizing n with
  | nil => exact List.nodup_nil
  | cons kind kinds ih =>
    rw [drawAll_cons, List.map_cons, List.nodup_cons]
    refine ⟨fun hmem => ?_, ih _⟩
    obtain ⟨⟨kind', name⟩, hdrawn, hname⟩ := List.mem_map.mp hmem
    obtain ⟨i, hle, hi⟩ := mem_drawAll hdrawn
    obtain ⟨hstub, rfl⟩ := generatedName_inj.mp (hi.trans hname)
    obtain rfl : kind' = kind := stub_injective hstub
    rw [drawn_draw, if_pos rfl] at hle
    omega

end Names

theorem Generator.take_eq (g : Generator) (count : Nat) :
    g.take count = ((List.range' g.next count).map (generatedName g.stub),
      { g with next := g.next + count }) := by
  induction count generalizing g with
  | zero => rfl
  | succ count ih =>
    simp only [take, ih, draw, List.range'_succ, List.map_cons, Nat.add_assoc, Nat.add_comm 1]

end Flowchart
