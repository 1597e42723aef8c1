import Flowchart.Chart.Region
import Mathlib.Data.Finset.Card
import Mathlib.Data.Finset.Filter
import Mathlib.Data.Finset.Range
import Mathlib.Logic.Relation

/-!
# Nesting without cycles

Charts refer to each other freely, so their nesting may have cycles, and then a chart has no
region. The main statement is `region?_isSome_iff`: a chart has a region exactly if no chart in
its nesting is nested in itself. The bound on the depth is no restriction: along a chain of
subgraphs the number of charts still below goes down.

A region that is found unfolds the references (`Region.Unfolds`), so its charts are those that
are nested in its own one at any depth (`mem_charts`).
-/

namespace Flowchart

variable {s : Store} {c d : ChartId} {r : Region}

namespace Store

/-- The second chart is a subgraph of the first. -/
def Holds (s : Store) (c d : ChartId) : Prop :=
  d ∈ (s.chart c).subgraphs

/-- The second chart is the first one or nested in it at some depth. -/
def Nested (s : Store) : ChartId → ChartId → Prop :=
  Relation.ReflTransGen s.Holds

/-- No chart in the nesting of a chart is nested in itself. -/
def Acyclic (s : Store) (c : ChartId) : Prop :=
  ∀ d, s.Nested c d → ¬ Relation.TransGen s.Holds d d

theorem Acyclic.of_holds (h : s.Acyclic c) (hd : s.Holds c d) : s.Acyclic d :=
  fun e he => h e (.head hd he)

theorem Acyclic.not_self (h : s.Acyclic c) : ¬ Relation.TransGen s.Holds c c :=
  h c .refl

/-- A chart is without cycles if its subgraphs are: a cycle through it comes back to it from one
of them. -/
theorem acyclic_of_forall_holds (h : ∀ d, s.Holds c d → s.Acyclic d) : s.Acyclic c := by
  intro e he hcycle
  rcases Relation.ReflTransGen.cases_head he with rfl | ⟨d, hd, hde⟩
  · obtain ⟨d, hd, hback⟩ := Relation.TransGen.head'_iff.mp hcycle
    exact (h d hd).not_self (Relation.TransGen.tail' hback hd)
  · exact h d hd e hde hcycle

/-! ## Charts that are not in the store -/

/-- A reference to a place that is not there reads as a chart without subgraphs. -/
theorem subgraphs_eq_nil (h : s.charts.size ≤ c.index) : (s.chart c).subgraphs = [] := by
  have hnone : s.charts.items[c.index]? = none := Array.getElem?_eq_none h
  simp only [chart, Shelf.get, hnone, Option.getD_none]
  rfl

/-! ## How deep a nesting goes -/

open scoped Classical in
/-- The charts of the store below a chart, by their places. -/
noncomputable def below (s : Store) (c : ChartId) : Finset Nat :=
  (Finset.range s.charts.size).filter fun i => Relation.TransGen s.Holds c ⟨i⟩

theorem mem_below {i : Nat} :
    i ∈ s.below c ↔ i < s.charts.size ∧ Relation.TransGen s.Holds c ⟨i⟩ := by
  classical
  rw [below, Finset.mem_filter, Finset.mem_range]

/-- Fewer charts are below a subgraph, for it is not below itself. -/
theorem card_below_lt (h : s.Acyclic c) (hd : s.Holds c d) (hlt : d.index < s.charts.size) :
    (s.below d).card < (s.below c).card := by
  apply Finset.card_lt_card
  refine ⟨fun i hi => ?_, fun hsub => ?_⟩
  · obtain ⟨hi, hdi⟩ := mem_below.mp hi
    exact mem_below.mpr ⟨hi, .head hd hdi⟩
  · have hmem : d.index ∈ s.below c := mem_below.mpr ⟨hlt, .single hd⟩
    exact (h.of_holds hd).not_self (mem_below.mp (hsub hmem)).2

theorem card_below_lt_size (h : s.Acyclic c) (hlt : c.index < s.charts.size) :
    (s.below c).card < s.charts.size := by
  rw [← Finset.card_range s.charts.size]
  apply Finset.card_lt_card
  refine ⟨fun i hi => Finset.mem_range.mpr (mem_below.mp hi).1, fun hsub => ?_⟩
  exact h.not_self (mem_below.mp (hsub (Finset.mem_range.mpr hlt))).2

end Store

/-! ## Finding regions -/

theorem map_eq_of_mapM_eq_some {α β : Type} {f : α → Option β} {as : List α} {bs : List β}
    (h : as.mapM f = some bs) : as.map f = bs.map some := by
  induction as generalizing bs with
  | nil =>
    obtain rfl : [] = bs := by simpa using h
    rfl
  | cons a as ih =>
    simp only [List.mapM_cons, Option.bind_eq_bind, Option.bind_eq_some_iff, Option.pure_def,
      Option.some.injEq] at h
    obtain ⟨b, hb, bs, hbs, rfl⟩ := h
    rw [List.map_cons, List.map_cons, hb, ih hbs]

theorem exists_mapM_eq_some {α β : Type} {f : α → Option β} {as : List α}
    (h : ∀ a ∈ as, (f a).isSome) : ∃ bs, as.mapM f = some bs := by
  induction as with
  | nil => exact ⟨[], rfl⟩
  | cons a as ih =>
    obtain ⟨b, hb⟩ := Option.isSome_iff_exists.mp (h a List.mem_cons_self)
    obtain ⟨bs, hbs⟩ := ih fun x hx => h x (List.mem_cons_of_mem _ hx)
    exact ⟨b :: bs, by rw [List.mapM_cons, hb, hbs]; rfl⟩

namespace Region

/-- A region that says of each of its charts which subgraphs it has. -/
inductive Unfolds (s : Store) : Region → Prop where
  | mk {c : ChartId} {rs : List Region} (inner_charts : rs.map chart = (s.chart c).subgraphs)
      (inner : ∀ r ∈ rs, Unfolds s r) : Unfolds s (.mk c rs)

end Region

namespace Store

theorem exists_of_regionWithin?_succ {depth : Nat} (h : s.regionWithin? (depth + 1) c = some r) :
    ∃ rs, (s.chart c).subgraphs.map (s.regionWithin? depth) = rs.map some ∧ r = .mk c rs := by
  rw [regionWithin?, Option.map_eq_some_iff] at h
  obtain ⟨rs, hrs, rfl⟩ := h
  exact ⟨rs, map_eq_of_mapM_eq_some hrs, rfl⟩

/-- A region that is found is that of the chart, and unfolds its nesting. -/
theorem unfolds_of_regionWithin? {depth : Nat} (h : s.regionWithin? depth c = some r) :
    r.chart = c ∧ r.Unfolds s := by
  induction depth generalizing c r with
  | zero => simp [regionWithin?] at h
  | succ depth ih =>
    obtain ⟨rs, hrs, rfl⟩ := exists_of_regionWithin?_succ h
    -- Each region found stands for the subgraph that it was looked up for.
    have hchart : ∀ d ∈ (s.chart c).subgraphs,
        (s.regionWithin? depth d).map Region.chart = some d := by
      intro d hd
      have hmem : s.regionWithin? depth d ∈ rs.map some := by
        rw [← hrs]; exact List.mem_map_of_mem hd
      obtain ⟨r, -, hr⟩ := List.mem_map.mp hmem
      rw [← hr, Option.map_some, (ih hr.symm).1]
    refine ⟨rfl, .mk ?_ fun r hr => ?_⟩
    · apply List.map_injective_iff.mpr (Option.some_injective _)
      calc (rs.map Region.chart).map some
          = (rs.map some).map (Option.map Region.chart) := by simp
        _ = (s.chart c).subgraphs.map fun d => (s.regionWithin? depth d).map Region.chart := by
            rw [← hrs, List.map_map]; rfl
        _ = (s.chart c).subgraphs.map some := List.map_congr_left hchart
    · have hmem : some r ∈ (s.chart c).subgraphs.map (s.regionWithin? depth) := by
        rw [hrs]; exact List.mem_map_of_mem hr
      obtain ⟨d, -, hd⟩ := List.mem_map.mp hmem
      exact (ih hd).2

/-- A region that is found has no cycles in it. -/
theorem acyclic_of_regionWithin? {depth : Nat} (h : s.regionWithin? depth c = some r) :
    s.Acyclic c := by
  induction depth generalizing c r with
  | zero => simp [regionWithin?] at h
  | succ depth ih =>
    obtain ⟨rs, hrs, rfl⟩ := exists_of_regionWithin?_succ h
    refine acyclic_of_forall_holds fun d hd => ?_
    have hmem : s.regionWithin? depth d ∈ rs.map some := by
      rw [← hrs]; exact List.mem_map_of_mem hd
    obtain ⟨r, -, hr⟩ := List.mem_map.mp hmem
    exact ih hr.symm

/-- Without cycles a depth that exceeds the number of charts below by two is deep enough: one for
the chart itself, one for subgraphs that are not in the store. -/
theorem regionWithin?_isSome {depth : Nat} (h : s.Acyclic c)
    (hdepth : (s.below c).card + 1 < depth) : (s.regionWithin? depth c).isSome := by
  induction depth generalizing c with
  | zero => omega
  | succ depth ih =>
    have hsub : ∀ d ∈ (s.chart c).subgraphs, (s.regionWithin? depth d).isSome := by
      intro d hd
      by_cases hlt : d.index < s.charts.size
      · have := card_below_lt h hd hlt
        exact ih (h.of_holds hd) (by omega)
      · obtain ⟨depth, rfl⟩ : ∃ k, depth = k + 1 := ⟨depth - 1, by omega⟩
        simp [regionWithin?, subgraphs_eq_nil (s := s) (c := d) (by omega)]
    obtain ⟨rs, hrs⟩ := exists_mapM_eq_some hsub
    simp [regionWithin?, hrs]

/-- A chart has a region exactly if its nesting is without cycles. -/
theorem region?_isSome_iff : (s.region? c).isSome ↔ s.Acyclic c := by
  constructor
  · intro h
    obtain ⟨r, hr⟩ := Option.isSome_iff_exists.mp h
    exact acyclic_of_regionWithin? hr
  · intro h
    by_cases hlt : c.index < s.charts.size
    · have := card_below_lt_size h hlt
      exact regionWithin?_isSome h (by omega)
    · simp [region?, regionWithin?, subgraphs_eq_nil (s := s) (c := c) (by omega)]

/-- The region of a chart whose nesting is without cycles. -/
theorem Acyclic.exists_region (h : s.Acyclic c) :
    ∃ r, s.region? c = some r ∧ r.chart = c ∧ r.Unfolds s := by
  obtain ⟨r, hr⟩ := Option.isSome_iff_exists.mp (region?_isSome_iff.mpr h)
  exact ⟨r, hr, unfolds_of_regionWithin? hr⟩

end Store

/-- A chart, the third, with the first one nested in it twice: directly and inside the second.
All three share the node `a`, and the third shares its edge with the first. -/
def Store.nestedTwice : Store where
  nodes := ⟨#[{ id := "a", text := "A" }, { id := "b", text := "B" }]⟩
  edges := ⟨#[{ Edge.arrowTo ⟨0⟩ ⟨1⟩ with
    link := some { name := "red", properties := { stroke := some "#f00" } } }]⟩
  charts := ⟨#[{ name := "inner", nodes := [⟨0⟩, ⟨1⟩], edges := [⟨0⟩] },
    { name := "middle", nodes := [⟨0⟩], subgraphs := [⟨0⟩] },
    { name := "outer", nodes := [⟨0⟩, ⟨1⟩], edges := [⟨0⟩], subgraphs := [⟨0⟩, ⟨1⟩] }]⟩

theorem Store.acyclic_nestedTwice : ∀ c, Store.nestedTwice.Acyclic c := by
  intro c
  rw [← region?_isSome_iff]
  match c with
  | ⟨0⟩ | ⟨1⟩ | ⟨2⟩ => decide
  | ⟨_ + 3⟩ => rfl

/-! ## The charts of a region -/

namespace Region

theorem chartsOfAll_eq_flatMap (rs : List Region) : chartsOfAll rs = rs.flatMap charts := by
  induction rs with
  | nil => rfl
  | cons r rest ih => rw [chartsOfAll, ih, List.flatMap_cons]

theorem chart_mem_charts (r : Region) : r.chart ∈ r.charts := by
  cases r
  exact List.mem_cons_self

/-- The charts of a region are those that are nested in its own one. -/
theorem Unfolds.mem_charts (h : r.Unfolds s) : d ∈ r.charts ↔ s.Nested r.chart d := by
  induction h with
  | @mk c rs hinner hrs ih =>
    rw [charts, chartsOfAll_eq_flatMap, List.mem_cons, List.mem_flatMap, Store.Nested,
      Relation.ReflTransGen.cases_head_iff]
    show d = c ∨ _ ↔ c = d ∨ _
    refine or_congr eq_comm ⟨?_, ?_⟩
    · rintro ⟨r, hr, hd⟩
      refine ⟨r.chart, ?_, (ih r hr).mp hd⟩
      show r.chart ∈ (s.chart c).subgraphs
      rw [← hinner]; exact List.mem_map_of_mem hr
    · rintro ⟨e, he, hde⟩
      have hmem : e ∈ rs.map chart := by rw [hinner]; exact he
      obtain ⟨r, hr, rfl⟩ := List.mem_map.mp hmem
      exact ⟨r, hr, (ih r hr).mpr hde⟩

end Region

end Flowchart
