import Flowchart.Proofs.Firsts
import Flowchart.Proofs.GeneratedNames
import Flowchart.Store.Workspace
import Mathlib.Data.List.Nodup

/-!
# The nodes that texts make

In a connection a text stands for the node of the chart that has its slug as identifier, or else for
a new one; a text without a slug stands for a new node under a generated name. Which nodes are made
for some texts depends on the texts, on the identifiers in the chart and on how many names have been
drawn, and on nothing else (`newNodes`).

If every text has a slug, these are the nodes of the slugs that come first (`newNodes_eq_firstsBy`).
A generated name is not looked up in the chart, so the identifiers are all different as long as no
name is drawn that is the slug of an earlier text (`nodup_ids_newNodes_nil`).
-/

namespace Flowchart

open Text (slugify)

-- Which slug a text has is never computed here.
attribute [local irreducible] Text.slugify

/-! ## The nodes that texts make -/

/-- The nodes that are made for some texts, one after the other, where some identifiers are taken
and some names have been drawn. -/
def newNodes (ids : List String) (drawn : Nat) : List String → List Node
  | [] => []
  | t :: ts =>
    if slugify t = "" then
      { id := generatedName "node" drawn, text := t }
        :: newNodes (ids ++ [generatedName "node" drawn]) (drawn + 1) ts
    else if slugify t ∈ ids then newNodes ids drawn ts
    else { id := slugify t, text := t } :: newNodes (ids ++ [slugify t]) drawn ts

section NewNodes

variable {ids ts us : List String} {drawn : Nat} {t : String}

theorem newNodes_cons_of_eq (h : slugify t = "") :
    newNodes ids drawn (t :: ts) = { id := generatedName "node" drawn, text := t }
      :: newNodes (ids ++ [generatedName "node" drawn]) (drawn + 1) ts := by
  rw [newNodes, if_pos h]

theorem newNodes_cons_of_mem (h : slugify t ≠ "") (hmem : slugify t ∈ ids) :
    newNodes ids drawn (t :: ts) = newNodes ids drawn ts := by
  rw [newNodes, if_neg h, if_pos hmem]

theorem newNodes_cons_of_not_mem (h : slugify t ≠ "") (hmem : slugify t ∉ ids) :
    newNodes ids drawn (t :: ts)
      = { id := slugify t, text := t } :: newNodes (ids ++ [slugify t]) drawn ts := by
  rw [newNodes, if_neg h, if_neg hmem]

/-- The number of texts that have no slug. -/
def slugless (ts : List String) : Nat :=
  ts.countP fun t => slugify t = ""

theorem slugless_append : slugless (ts ++ us) = slugless ts + slugless us :=
  List.countP_append

theorem slugless_cons_of_eq (h : slugify t = "") : slugless (t :: ts) = slugless ts + 1 :=
  List.countP_cons_of_pos (decide_eq_true h)

theorem slugless_cons_of_ne (h : slugify t ≠ "") : slugless (t :: ts) = slugless ts :=
  List.countP_cons_of_neg (by simpa using h)

/-- Later texts find the identifiers of the nodes that have been made. -/
theorem newNodes_append : newNodes ids drawn (ts ++ us) = newNodes ids drawn ts
      ++ newNodes (ids ++ (newNodes ids drawn ts).map (·.id)) (drawn + slugless ts) us := by
  induction ts generalizing ids drawn with
  | nil => simp [newNodes, slugless]
  | cons t ts ih =>
    rw [List.cons_append]
    by_cases h : slugify t = ""
    · rw [newNodes_cons_of_eq h, newNodes_cons_of_eq h, slugless_cons_of_eq h, ih]
      simp [Nat.add_assoc, Nat.add_comm 1]
    · rw [slugless_cons_of_ne h]
      by_cases hmem : slugify t ∈ ids
      · rw [newNodes_cons_of_mem h hmem, newNodes_cons_of_mem h hmem, ih]
      · rw [newNodes_cons_of_not_mem h hmem, newNodes_cons_of_not_mem h hmem, ih]
        simp

/-- If every text has a slug, a node is made for each slug that is not taken, under the first text
that has it. -/
theorem newNodes_eq_firstsBy (h : ∀ t ∈ ts, slugify t ≠ "") :
    newNodes ids drawn ts = (firstsBy slugify (ts.filter fun t => slugify t ∉ ids)).map
      fun t => { id := slugify t, text := t } := by
  induction ts generalizing ids with
  | nil => rfl
  | cons t ts ih =>
    obtain ⟨hslug, hrest⟩ := List.forall_mem_cons.mp h
    by_cases hmem : slugify t ∈ ids
    · rw [newNodes_cons_of_mem hslug hmem, ih hrest, List.filter_cons_of_neg (by simpa using hmem)]
    · rw [newNodes_cons_of_not_mem hslug hmem, ih hrest,
        List.filter_cons_of_pos (by simpa using hmem), firstsBy, List.map_cons]
      -- The rest leaves out the slug that has just been taken.
      have hsplit : (ts.filter fun u => slugify u ∉ ids ++ [slugify t])
          = (ts.filter fun u => slugify u ∉ ids).filter fun u => slugify u ≠ slugify t := by
        rw [List.filter_filter]
        apply List.filter_congr
        intro u _
        simp [and_comm]
      rw [hsplit, firstsBy_filter fun b => decide (b ≠ slugify t)]

/-- A name that has not been drawn is taken in the end if it was at first or is a slug. -/
theorem generatedName_mem_ids {k : Nat} (hk : drawn + slugless ts ≤ k) :
    generatedName "node" k ∈ ids ++ (newNodes ids drawn ts).map (·.id) ↔
      generatedName "node" k ∈ ids ∨ generatedName "node" k ∈ ts.map slugify := by
  induction ts generalizing ids drawn with
  | nil => simp [newNodes]
  | cons t ts ih =>
    rw [List.map_cons, List.mem_cons]
    by_cases h : slugify t = ""
    · rw [slugless_cons_of_eq h] at hk
      have hne : generatedName "node" k ≠ generatedName "node" drawn := by
        intro heq
        have := (generatedName_inj.mp heq).2
        omega
      rw [newNodes_cons_of_eq h, List.map_cons, List.append_cons, ih (by omega), List.mem_append,
        List.mem_singleton, or_iff_left hne, h, or_iff_right (generatedName_ne_empty _ _)]
    · rw [slugless_cons_of_ne h] at hk
      by_cases hmem : slugify t ∈ ids
      · rw [newNodes_cons_of_mem h hmem, ih hk, ← or_assoc]
        have hids : generatedName "node" k ∈ ids ∨ generatedName "node" k = slugify t ↔
            generatedName "node" k ∈ ids := or_iff_left_of_imp fun heq => heq ▸ hmem
        rw [hids]
      · rw [newNodes_cons_of_not_mem h hmem, List.map_cons, List.append_cons, ih hk,
          List.mem_append, List.mem_singleton, or_assoc]

/-- What holds at each place of a list holds at the first one and, of the rest, at each place. -/
theorem forall_place_cons {α : Type} {P : List α → α → Prop} {x : α} {xs : List α} :
    (∀ before y rest, x :: xs = before ++ y :: rest → P before y) ↔
      P [] x ∧ ∀ before y rest, xs = before ++ y :: rest → P (x :: before) y := by
  constructor
  · intro h
    refine ⟨h [] x xs rfl, fun before y rest hxs => h (x :: before) y rest ?_⟩
    rw [hxs, List.cons_append]
  · rintro ⟨hfirst, hrest⟩ before y rest hxs
    cases before with
    | nil =>
      obtain ⟨rfl, -⟩ := List.cons.inj hxs
      exact hfirst
    | cons z before =>
      obtain ⟨rfl, htail⟩ := List.cons.inj hxs
      exact hrest before y rest htail

theorem nodup_append_singleton {α : Type} {xs : List α} {x : α} :
    (xs ++ [x]).Nodup ↔ xs.Nodup ∧ x ∉ xs := by
  rw [← List.concat_eq_append, List.nodup_concat, and_comm]

/-- Identifiers that are all different stay so as long as no name is drawn that is taken by then. -/
theorem nodup_ids_newNodes : (ids ++ (newNodes ids drawn ts).map (·.id)).Nodup ↔
    ids.Nodup ∧ ∀ before t rest, ts = before ++ t :: rest → slugify t = "" →
      generatedName "node" (drawn + slugless before)
        ∉ ids ++ (newNodes ids drawn before).map (·.id) := by
  induction ts generalizing ids drawn with
  | nil => simp [newNodes]
  | cons t ts ih =>
    rw [forall_place_cons (P := fun before t => slugify t = "" →
      generatedName "node" (drawn + slugless before)
        ∉ ids ++ (newNodes ids drawn before).map (·.id))]
    have hfirst : ids ++ (newNodes ids drawn []).map (·.id) = ids := List.append_nil ids
    rw [hfirst]
    by_cases h : slugify t = ""
    · have hlater (before : List String) : drawn + slugless (t :: before)
          = drawn + 1 + slugless before := by
        rw [slugless_cons_of_eq h]
        omega
      have hids (before : List String) : ids ++ (newNodes ids drawn (t :: before)).map (·.id)
          = ids ++ [generatedName "node" drawn] ++ (newNodes (ids ++ [generatedName "node" drawn])
            (drawn + 1) before).map (·.id) := by
        rw [newNodes_cons_of_eq h, List.map_cons, List.append_cons]
      simp only [hids, hlater, ih, nodup_append_singleton, h, true_implies, and_assoc]
      rfl
    · by_cases hmem : slugify t ∈ ids
      · simp only [newNodes_cons_of_mem h hmem, ih, slugless_cons_of_ne h, h, false_implies,
          true_and]
      · have hids (before : List String) : ids ++ (newNodes ids drawn (t :: before)).map (·.id)
            = ids ++ [slugify t] ++ (newNodes (ids ++ [slugify t]) drawn before).map (·.id) := by
          rw [newNodes_cons_of_not_mem h hmem, List.map_cons, List.append_cons]
        simp only [hids, ih, nodup_append_singleton, slugless_cons_of_ne h, h, false_implies,
          true_and, hmem, not_false_eq_true, and_true]

/-- In a new chart, a name must not be drawn that is the slug of a text before. -/
theorem nodup_ids_newNodes_nil : ((newNodes [] drawn ts).map (·.id)).Nodup ↔
    ∀ before t rest, ts = before ++ t :: rest → slugify t = "" →
      generatedName "node" (drawn + slugless before) ∉ before.map slugify := by
  rw [← List.nil_append ((newNodes [] drawn ts).map _), nodup_ids_newNodes]
  simp only [List.nodup_nil, true_and, generatedName_mem_ids (Nat.le_refl _), List.not_mem_nil,
    false_or]

end NewNodes

end Flowchart
