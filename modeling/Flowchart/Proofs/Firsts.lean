import Flowchart.Store.Membership
import Mathlib.Data.List.Induction

/-!
# First occurrences

Of the elements of a list that share a key, the first one stands for all. The list of these keeps
the order of first appearance, and grows only at its end as the list does (`firstsBy_append`).
-/

namespace Flowchart

variable {α β : Type} [DecidableEq β] {key : α → β}

/-- The elements of a list that are the first with their key, in order. -/
def firstsBy (key : α → β) : List α → List α
  | [] => []
  | x :: xs => x :: (firstsBy key xs).filter fun y => key y ≠ key x

theorem mem_of_mem_firstsBy {x : α} {xs : List α} (h : x ∈ firstsBy key xs) : x ∈ xs := by
  induction xs with
  | nil => exact h
  | cons y ys ih =>
    rcases List.mem_cons.mp h with rfl | h
    · exact List.mem_cons_self
    · exact List.mem_cons_of_mem _ (ih (List.mem_filter.mp h).1)

theorem mem_map_firstsBy {b : β} {xs : List α} :
    b ∈ (firstsBy key xs).map key ↔ b ∈ xs.map key := by
  induction xs with
  | nil => rfl
  | cons x xs ih =>
    simp only [firstsBy, List.map_cons, List.mem_cons, ← ih]
    by_cases hb : b = key x
    · simp [hb]
    · simp only [hb, false_or, List.mem_map, List.mem_filter, decide_eq_true_eq]
      constructor
      · rintro ⟨y, ⟨hy, -⟩, rfl⟩
        exact ⟨y, hy, rfl⟩
      · rintro ⟨y, hy, rfl⟩
        exact ⟨y, ⟨hy, hb⟩, rfl⟩

theorem nodup_map_firstsBy (xs : List α) : ((firstsBy key xs).map key).Nodup := by
  induction xs with
  | nil => exact List.nodup_nil
  | cons x xs ih =>
    rw [firstsBy, List.map_cons, List.nodup_cons]
    refine ⟨fun h => ?_, ih.sublist (List.filter_sublist.map key)⟩
    obtain ⟨y, hy, hxy⟩ := List.mem_map.mp h
    exact of_decide_eq_true (List.mem_filter.mp hy).2 hxy

/-- With each element as its own key no member is lost. -/
theorem mem_firstsBy_self {b : β} {bs : List β} : b ∈ firstsBy (fun b => b) bs ↔ b ∈ bs := by
  have h : b ∈ (firstsBy (fun b => b) bs).map (fun b => b) ↔ b ∈ bs.map (fun b => b) :=
    mem_map_firstsBy
  rwa [List.map_id', List.map_id'] at h

theorem nodup_firstsBy_self (bs : List β) : (firstsBy (fun b => b) bs).Nodup := by
  have h : ((firstsBy (fun b => b) bs).map fun b => b).Nodup := nodup_map_firstsBy bs
  rwa [List.map_id'] at h

/-- The keys of the first elements are the first keys. -/
theorem map_firstsBy (xs : List α) :
    (firstsBy key xs).map key = firstsBy (fun b => b) (xs.map key) := by
  induction xs with
  | nil => rfl
  | cons x xs ih =>
    rw [firstsBy, List.map_cons, List.map_cons, firstsBy, ← ih, List.filter_map]
    rfl

/-- What comes later adds the first elements of the keys that are new. -/
theorem firstsBy_append (xs ys : List α) :
    firstsBy key (xs ++ ys)
      = firstsBy key xs ++ (firstsBy key ys).filter fun y => key y ∉ xs.map key := by
  induction xs with
  | nil =>
    rw [List.nil_append, firstsBy, List.nil_append]
    exact (List.filter_eq_self.mpr fun _ _ => by simp).symm
  | cons x xs ih =>
    rw [List.cons_append, firstsBy, firstsBy, ih, List.filter_append, List.filter_filter,
      List.cons_append]
    congr 2
    apply List.filter_congr
    intro y _
    simp

theorem firstsBy_append_of_mem {xs : List α} {y : α} (h : key y ∈ xs.map key) :
    firstsBy key (xs ++ [y]) = firstsBy key xs := by
  simpa [firstsBy_append, firstsBy] using h

theorem firstsBy_append_of_not_mem {xs : List α} {y : α} (h : key y ∉ xs.map key) :
    firstsBy key (xs ++ [y]) = firstsBy key xs ++ [y] := by
  simpa [firstsBy_append, firstsBy] using h

/-- A map that keeps different elements different keeps first occurrences. -/
theorem firstsBy_map {γ : Type} [DecidableEq γ] {f : β → γ} {bs : List β}
    (hf : ∀ b ∈ bs, ∀ b' ∈ bs, f b = f b' → b = b') :
    firstsBy (fun c => c) (bs.map f) = (firstsBy (fun b => b) bs).map f := by
  induction bs with
  | nil => rfl
  | cons b bs ih =>
    have hbs := ih fun x hx y hy => hf x (List.mem_cons_of_mem _ hx) y (List.mem_cons_of_mem _ hy)
    rw [List.map_cons, firstsBy, firstsBy, List.map_cons, hbs, List.filter_map]
    congr 2
    apply List.filter_congr
    intro y hy
    have hmem := List.mem_cons_of_mem b (mem_of_mem_firstsBy hy)
    exact decide_eq_decide.mpr
      (not_congr ⟨hf y hmem b List.mem_cons_self, congrArg f⟩)

/-- An element with a new key comes right after the first elements of the keys before it. -/
theorem exists_firstsBy_append_cons {xs : List α} {y : α} (h : key y ∉ xs.map key)
    (ys : List α) : ∃ rest, firstsBy key (xs ++ y :: ys) = firstsBy key xs ++ y :: rest := by
  rw [firstsBy_append, firstsBy, List.filter_cons_of_pos (by simpa using h)]
  exact ⟨_, rfl⟩

/-- Among elements that are chosen by their keys, the same ones come first. -/
theorem firstsBy_filter (p : β → Bool) (xs : List α) :
    firstsBy key (xs.filter fun x => p (key x)) = (firstsBy key xs).filter fun x => p (key x) := by
  induction xs with
  | nil => rfl
  | cons x xs ih =>
    by_cases hp : p (key x) = true
    · simp only [List.filter_cons, hp, if_true, firstsBy, ih, List.filter_filter, Bool.and_comm]
    · simp only [List.filter_cons, hp, Bool.false_eq_true, if_false, firstsBy, ih,
        List.filter_filter]
      -- No element that is chosen has the key of the one that is not.
      apply List.filter_congr
      intro y _
      by_cases hy : p (key y) = true
      · have hne : key y ≠ key x := fun heq => hp (heq ▸ hy)
        simp [hy, hne]
      · simp [hy]

/-- The first element with its key is found by its key. -/
theorem find?_of_mem_firstsBy {xs : List α} {x : α} (h : x ∈ firstsBy key xs) :
    xs.find? (fun y => key y == key x) = some x := by
  induction xs with
  | nil => exact absurd h List.not_mem_nil
  | cons y ys ih =>
    rcases List.mem_cons.mp h with rfl | h
    · exact List.find?_cons_of_pos (by simp)
    · obtain ⟨hx, hne⟩ := List.mem_filter.mp h
      rw [List.find?_cons_of_neg (by simpa using Ne.symm (of_decide_eq_true hne)), ih hx]

theorem withMember_of_mem {bs : List β} {b : β} (h : b ∈ bs) : withMember bs b = bs :=
  if_pos h

theorem withMember_of_not_mem {bs : List β} {b : β} (h : b ∉ bs) : withMember bs b = bs ++ [b] :=
  if_neg h

/-! ## Newcomers -/

/-- The elements of a list that are not in another one, each once, in the order of first
appearance. -/
def newcomers (xs ys : List β) : List β :=
  (firstsBy (fun b => b) ys).filter (· ∉ xs)

theorem mem_newcomers {xs ys : List β} {b : β} : b ∈ newcomers xs ys ↔ b ∈ ys ∧ b ∉ xs := by
  rw [newcomers, List.mem_filter, mem_firstsBy_self, decide_eq_true_eq]

/-- What comes later adds those that have not come before. -/
theorem newcomers_append (xs ys zs : List β) :
    newcomers xs (ys ++ zs) = newcomers xs ys ++ newcomers (xs ++ newcomers xs ys) zs := by
  rw [newcomers, firstsBy_append, List.filter_append, List.filter_filter]
  congr 1
  apply List.filter_congr
  intro b _
  simp only [List.mem_append, mem_newcomers, List.map_id', ← Bool.decide_and, decide_eq_decide]
  tauto

theorem newcomers_singleton_of_mem {xs : List β} {b : β} (h : b ∈ xs) : newcomers xs [b] = [] := by
  simp [newcomers, firstsBy, h]

theorem newcomers_singleton_of_not_mem {xs : List β} {b : β} (h : b ∉ xs) :
    newcomers xs [b] = [b] := by
  simp [newcomers, firstsBy, h]

/-- Members that join one after the other are the newcomers among them. -/
theorem withMembers_eq (xs ys : List β) : withMembers xs ys = xs ++ newcomers xs ys := by
  induction ys using List.reverseRecOn with
  | nil => exact (List.append_nil xs).symm
  | append_singleton ys b ih =>
    have hstep : withMembers xs (ys ++ [b]) = withMember (withMembers xs ys) b := by
      rw [withMembers, List.foldl_append]
      rfl
    rw [hstep, ih, newcomers_append, ← List.append_assoc]
    by_cases hb : b ∈ xs ++ newcomers xs ys
    · rw [withMember_of_mem hb, newcomers_singleton_of_mem hb, List.append_nil]
    · rw [withMember_of_not_mem hb, newcomers_singleton_of_not_mem hb]

theorem prefix_withMembers (xs ys : List β) : xs <+: withMembers xs ys :=
  withMembers_eq xs ys ▸ List.prefix_append _ _

theorem withMembers_nil (bs : List β) : withMembers [] bs = firstsBy (fun b => b) bs := by
  rw [withMembers_eq, List.nil_append, newcomers]
  exact List.filter_eq_self.mpr fun b _ => decide_eq_true List.not_mem_nil

end Flowchart
