import Flowchart.Proofs.Members
import Flowchart.Proofs.Nesting

/-!
# How nestings get cycles

A chart is never a subgraph of itself, but it may become nested in itself through others: a step
that adds a subgraph looks at the two charts only, and not at what is nested in the subgraph. The
main statement is `Session.acyclic_runAll_iff`, that a run of a session leaves no cycles exactly if
none of its steps nests a chart in one that is nested in it (`Session.Closes`).

All other steps keep the nesting without cycles. A new chart is empty or a copy, and nothing holds
it yet; and new subgraphs of one chart close a cycle only if there is a way back from one of them.
-/

namespace Flowchart

namespace Store

variable {s after : Store} {c : ChartId}

/-! ## Cycles -/

theorem forall_acyclic_iff : (∀ c, s.Acyclic c) ↔ ∀ c, ¬ Relation.TransGen s.Holds c c :=
  ⟨fun h c => (h c).not_self, fun h _ d _ => h d⟩

/-- Where more is held, a cycle stays. -/
theorem cyclic_of_holds (h : ∀ a b, s.Holds a b → after.Holds a b)
    (hcycle : ¬ ∀ c, s.Acyclic c) : ¬ ∀ c, after.Acyclic c := by
  intro hafter
  rw [forall_acyclic_iff] at hcycle hafter
  exact hcycle fun c hc => hafter c (Relation.TransGen.mono h c c hc)

/-- Charts that nothing holds close no cycle. -/
theorem acyclic_of_fresh (hs : ∀ c, s.Acyclic c)
    (hplaced : ∀ a b, s.Holds a b → b.index < s.charts.size)
    (h : ∀ a b, after.Holds a b → s.Holds a b ∨ s.charts.size ≤ a.index ∧ ∃ d, s.Holds d b) :
    ∀ c, after.Acyclic c := by
  rw [forall_acyclic_iff] at hs ⊢
  have hold : ∀ a b, after.Holds a b → a.index < s.charts.size → s.Holds a b := fun a b hab hlt =>
    (h a b hab).resolve_right fun hnew => Nat.not_le_of_lt hlt hnew.1
  have hheld : ∀ a b, after.Holds a b → b.index < s.charts.size := by
    intro a b hab
    rcases h a b hab with hab | ⟨-, d, hdb⟩
    · exact hplaced a b hab
    · exact hplaced d b hdb
  -- A way that begins at an old chart passes old charts only.
  have hway : ∀ a b, a.index < s.charts.size → Relation.TransGen after.Holds a b →
      Relation.TransGen s.Holds a b := by
    intro a b hlt hab
    induction hab with
    | single hab => exact .single (hold _ _ hab hlt)
    | tail hmid hlast ih =>
      obtain ⟨d, -, hd⟩ := Relation.TransGen.tail'_iff.mp hmid
      exact ih.tail (hold _ _ hlast (hheld _ _ hd))
  intro c hcycle
  obtain ⟨d, -, hd⟩ := Relation.TransGen.tail'_iff.mp hcycle
  exact hs c (hway c c (hheld d c hd) hcycle)

/-- New subgraphs of one chart close no cycle if the chart is not nested in any of them. -/
theorem acyclic_of_added {news : ChartId → Prop} (hs : ∀ c, s.Acyclic c)
    (hback : ∀ d, news d → ¬ s.Nested d c)
    (h : ∀ a b, after.Holds a b → s.Holds a b ∨ a = c ∧ news b) : ∀ c, after.Acyclic c := by
  rw [forall_acyclic_iff] at hs ⊢
  -- A way is an old one, or its last new subgraph parts it into two old ones.
  have hway : ∀ a b, after.Nested a b →
      s.Nested a b ∨ ∃ d, news d ∧ s.Nested a c ∧ s.Nested d b := by
    intro a b hab
    induction hab with
    | refl => exact .inl .refl
    | tail _ hlast ih =>
      rcases h _ _ hlast with hold | ⟨rfl, hnew⟩
      · refine ih.imp (·.tail hold) ?_
        rintro ⟨d, hd, hac, hdb⟩
        exact ⟨d, hd, hac, hdb.tail hold⟩
      · refine .inr ⟨_, hnew, ?_, .refl⟩
        exact ih.elim id fun ⟨_, _, hac, _⟩ => hac
  intro x hcycle
  obtain ⟨y, hxy, hyx⟩ := Relation.TransGen.tail'_iff.mp hcycle
  rcases hway x y hxy with hxy | ⟨d, hd, hxc, hdy⟩
  · rcases h y x hyx with hold | ⟨rfl, hnew⟩
    · exact hs x (.tail' hxy hold)
    · exact hback x hnew hxy
  · rcases h y x hyx with hold | ⟨rfl, -⟩
    · exact hback d hd ((hdy.tail hold).trans hxc)
    · exact hback d hd hdy

end Store

/-! ## Changes that let no chart join -/

namespace Workspace

variable {given : Thing → Prop} {scope : Scope} {w after : Workspace}

theorem Change.acyclic (h : w.Change given after) (hw : w.store.Orderly)
    (hgiven : ∀ d, ¬ given (.chart d)) (hacyclic : ∀ c, w.store.Acyclic c) :
    ∀ c, after.store.Acyclic c := by
  refine Store.acyclic_of_fresh hacyclic hw.placed fun a b hab => ?_
  rcases h.chart_cases a with hjoined | ⟨ha, ⟨name, hnew⟩ | ⟨d, hcopy⟩⟩
  · exact .inl ((hjoined.mem_subgraphs hab).resolve_right (hgiven b))
  · rw [Store.Holds, hnew] at hab
    exact absurd hab List.not_mem_nil
  · rw [Store.Holds, hcopy] at hab
    exact .inr ⟨Nat.le_of_eq ha.symm, d, hab⟩

theorem Changes.acyclic (h : w.Changes given after) (hw : w.store.Orderly)
    (hgiven : ∀ x, ¬ given x) (hacyclic : ∀ c, w.store.Acyclic c) :
    ∀ c, after.store.Acyclic c := by
  induction h with
  | refl => exact hacyclic
  | tail hmid h ih =>
    have horderly := Changes.orderly hmid hw fun x hx => absurd hx (hgiven x)
    exact h.acyclic horderly (fun d => hgiven (.chart d)) ih

theorem Move.acyclic (h : w.Move scope after) (hw : w.store.Orderly)
    (hgiven : ∀ x, ¬ scope.given x) (hacyclic : ∀ c, w.store.Acyclic c) :
    ∀ c, after.store.Acyclic c := by
  rcases h.changes_or_charts_eq with hchanges | ⟨hcharts, -⟩
  · exact hchanges.acyclic hw hgiven hacyclic
  · have hholds : after.store.Holds = w.store.Holds := by
      unfold Store.Holds
      rw [Store.chart_eq_of_charts_eq hcharts]
    unfold Store.Acyclic Store.Nested at hacyclic ⊢
    rwa [hholds]

end Workspace

/-! ## Steps -/

namespace Session

variable {s : Session} {st : Step} {c d : ChartId}

/-- A step adds a chart to the subgraphs of another one. -/
def Nests (s : Session) (st : Step) (c d : ChartId) : Prop :=
  ∃ h members cs, st = .chart h (.add .subgraph members) ∧ s.find Thing.chart? h = .ok c ∧
    s.findAll Thing.chart? members = .ok cs ∧ d ∈ cs ∧ d ≠ c

/-- A step nests a chart in one that is nested in it. -/
def Closes (s : Session) (st : Step) : Prop :=
  ∃ c d, s.Nests st c d ∧ s.workspace.store.Nested d c

theorem mem_addSubgraphs {store : Store} {x : Chart} {cs : List ChartId} :
    d ∈ (x.addSubgraphs store c cs).subgraphs ↔ d ∈ x.subgraphs ∨ d ∈ cs ∧ d ≠ c := by
  rw [Chart.addSubgraphs_eq]
  show d ∈ x.subgraphs ++ newcomers x.subgraphs (cs.filter (· ≠ c)) ↔ _
  rw [← withMembers_eq, mem_withMembers, List.mem_filter, decide_eq_true_eq]

/-- Only subgraphs that are added join the subgraphs of a chart. -/
theorem yields_addition_subgraphs (s : Session) (c : ChartId) (members : List Handle)
    (list : Membership) :
    Yields (s.addition c members list) fun f => ∀ x d, d ∈ (f x).subgraphs →
      d ∈ x.subgraphs ∨ list = .subgraph ∧ ∃ cs, s.findAll Thing.chart? members = .ok cs ∧
        d ∈ cs ∧ d ≠ c := by
  cases list with
  | node | classStyle | directive => exact yields_bind fun _ _ => yields_ok fun x d hd => .inl hd
  | edge =>
    refine yields_bind fun es _ => yields_ok fun x d hd => .inl ?_
    rwa [Chart.addEdges_eq] at hd
  | subgraph =>
    refine yields_bind fun cs hcs => yields_ok fun x d hd => ?_
    exact (mem_addSubgraphs.mp hd).imp_right fun hnew => ⟨rfl, cs, hcs, hnew⟩

/-- Adding to a chart gives new subgraphs to this chart alone, and these are the ones that the step
adds. -/
theorem Orderly.holds_step_add (hs : s.Orderly) {h : Handle} {list : Membership}
    {members : List Handle} (hst : st = .chart h (.add list members))
    (hcd : (s.step st).1.workspace.store.Holds c d) :
    s.workspace.store.Holds c d ∨ s.Nests st c d := by
  subst hst
  rcases s.step_add_cases h list members with hfailed | ⟨place, f, hplace, hf⟩
  · rw [hfailed] at hcd
    exact .inl hcd
  rw [Store.Holds, hs.chart_step_add hplace hf, Function.update_apply] at hcd
  split at hcd
  · next hc =>
    rw [← hc] at hplace hf hcd
    refine (yields_addition_subgraphs s c members list f hf _ d hcd).imp_right ?_
    rintro ⟨rfl, cs, hcs, hd⟩
    exact ⟨h, members, cs, rfl, hplace, hcs, hd⟩
  · exact .inl hcd

theorem Orderly.holds_of_nests (hs : s.Orderly) (h : s.Nests st c d) :
    (s.step st).1.workspace.store.Holds c d := by
  obtain ⟨h, members, cs, rfl, hc, hcs, hd⟩ := h
  have hf : s.addition c members .subgraph
      = .ok (·.addSubgraphs s.workspace.store c cs) := by
    rw [addition, hcs]
    rfl
  rw [Store.Holds, hs.chart_step_add hc hf, Function.update_self]
  exact mem_addSubgraphs.mpr (.inr hd)

/-- What is held stays so. -/
theorem holds_step (st : Step) (h : s.workspace.store.Holds c d) :
    (s.step st).1.workspace.store.Holds c d :=
  (grows_step s st c).subgraphs.subset h

/-- All charts to which a step adds subgraphs are the same one. -/
theorem Nests.eq {c' d' : ChartId} (h : s.Nests st c d) (h' : s.Nests st c' d') : c' = c := by
  obtain ⟨h, members, cs, rfl, hc, -⟩ := h
  obtain ⟨h', members', cs', heq, hc', -⟩ := h'
  cases heq
  exact Except.ok.inj (hc'.symm.trans hc)

/-- A step that nests no chart in one that is nested in it keeps the nesting without cycles. -/
theorem Orderly.acyclic_step (hs : s.Orderly) (hst : ¬ s.Closes st)
    (hacyclic : ∀ c, s.workspace.store.Acyclic c) :
    ∀ c, (s.step st).1.workspace.store.Acyclic c := by
  by_cases hadd : ∃ h list members, st = .chart h (.add list members)
  · obtain ⟨h, list, members, heq⟩ := hadd
    by_cases hnests : ∃ c d, s.Nests st c d
    · obtain ⟨c, d, hnew⟩ := hnests
      refine Store.acyclic_of_added hacyclic (fun e he hback => hst ⟨c, e, he, hback⟩)
        fun a b hab => (hs.holds_step_add heq hab).imp_right fun hab => ?_
      obtain rfl := hnew.eq hab
      exact ⟨rfl, hab⟩
    · refine Store.acyclic_of_fresh hacyclic hs.store.placed fun a b hab => .inl ?_
      exact (hs.holds_step_add heq hab).resolve_right fun hnew => hnests ⟨a, b, hnew⟩
  · -- Any other step asks for nothing to join a chart.
    have hgiven (x : Thing) (hx : (s.asks st).given x) : False := hadd (exists_add_of_asks hx)
    exact (s.move_step st).acyclic hs.store hgiven hacyclic

theorem Orderly.cyclic_step (hs : s.Orderly) (hst : s.Closes st) :
    ¬ ∀ c, (s.step st).1.workspace.store.Acyclic c := by
  obtain ⟨c, d, hnests, hback⟩ := hst
  have hback' : (s.step st).1.workspace.store.Nested d c :=
    Relation.ReflTransGen.mono (fun _ _ => holds_step st) d c hback
  exact fun hacyclic => (hacyclic c).not_self (.head' (hs.holds_of_nests hnests) hback')

/-! ## Runs -/

theorem cyclic_runAll (steps : List Step) (h : ¬ ∀ c, s.workspace.store.Acyclic c) :
    ¬ ∀ c, (s.runAll steps).1.workspace.store.Acyclic c := by
  induction steps generalizing s with
  | nil => exact h
  | cons st rest ih => exact ih (Store.cyclic_of_holds (fun _ _ => holds_step st) h)

/-- A run that begins without cycles ends without them exactly if no step closes one. -/
theorem Orderly.forall_acyclic_runAll (hs : s.Orderly) (steps : List Step)
    (hacyclic : ∀ c, s.workspace.store.Acyclic c) :
    (∀ c, (s.runAll steps).1.workspace.store.Acyclic c) ↔
      ∀ before st rest, steps = before ++ st :: rest → ¬ (s.runAll before).1.Closes st := by
  induction steps generalizing s with
  | nil =>
    refine iff_of_true hacyclic fun before st rest h => ?_
    exact absurd h.symm (List.append_ne_nil_of_right_ne_nil before (List.cons_ne_nil st rest))
  | cons st steps ih =>
    by_cases hst : s.Closes st
    · refine iff_of_false (cyclic_runAll steps (hs.cyclic_step hst)) fun h => ?_
      exact h [] st steps rfl hst
    · refine (ih (hs.step st) (hs.acyclic_step hst hacyclic)).trans ⟨fun h => ?_, fun h => ?_⟩
      · rintro (_ | ⟨x, before⟩) st' rest heq
        · cases heq
          exact hst
        · cases heq
          exact h before st' rest rfl
      · exact fun before st' rest heq => h (st :: before) st' rest (congrArg _ heq)

/-- However a session is run, no chart is a subgraph of itself, and the descent into the subgraphs
of a chart ends, so that there is a text of the chart, exactly if no chart in its nesting is nested
in itself. None is anywhere exactly if no step has nested a chart in one that was nested in it. -/
theorem acyclic_runAll_iff (steps : List Step) :
    let w := (runAll {} steps).1.workspace
    let s := w.store
    (∀ c, ¬ s.Holds c c) ∧
    (∀ c, ((w.render? c).isSome ↔ ∃ depth, (s.regionWithin? depth c).isSome) ∧
      ((w.render? c).isSome ↔ s.Acyclic c)) ∧
    ((∀ c, s.Acyclic c) ↔
      ∀ before st rest, steps = before ++ st :: rest → ¬ (runAll {} before).1.Closes st) := by
  intro w s
  have hs : (runAll {} steps).1.Orderly := orderly_empty.runAll steps
  refine ⟨fun c => (hs.store.distinct c).not_self, fun c => ?_, ?_⟩
  · have hregion : (w.render? c).isSome ↔ s.Acyclic c := by
      rw [Workspace.render?, Store.render?, Option.isSome_map, Option.isSome_map,
        Store.region?_isSome_iff]
    refine ⟨hregion.trans ⟨fun h => ⟨_, Store.region?_isSome_iff.mpr h⟩, ?_⟩, hregion⟩
    rintro ⟨depth, h⟩
    obtain ⟨r, hr⟩ := Option.isSome_iff_exists.mp h
    exact Store.acyclic_of_regionWithin? hr
  · refine orderly_empty.forall_acyclic_runAll steps (Store.forall_acyclic_iff.mpr fun c hc => ?_)
    obtain ⟨d, -, hd⟩ := Relation.TransGen.tail'_iff.mp hc
    exact List.not_mem_nil hd

/-- Two charts, each nested in the other. -/
def mutualCharts : List Step :=
  [.newChart "a", .newChart "b", .chart "a" (.add .subgraph ["b"]),
    .chart "b" (.add .subgraph ["a"])]

/-- No chart is a subgraph of itself, yet the first one is nested in itself and has no text. -/
theorem cycle_mutualCharts :
    let w := (runAll {} mutualCharts).1.workspace
    (∀ c, ¬ w.store.Holds c c) ∧ Relation.TransGen w.store.Holds ⟨0⟩ ⟨0⟩ ∧
      w.render? ⟨0⟩ = none := by
  intro w
  have hs : (runAll {} mutualCharts).1.Orderly := orderly_empty.runAll mutualCharts
  have hfirst : w.store.Holds ⟨0⟩ ⟨1⟩ := by
    show _ ∈ (w.store.chart ⟨0⟩).subgraphs
    decide +kernel
  have hsecond : w.store.Holds ⟨1⟩ ⟨0⟩ := by
    show _ ∈ (w.store.chart ⟨1⟩).subgraphs
    decide +kernel
  exact ⟨fun c => (hs.store.distinct c).not_self, .tail (.single hfirst) hsecond, rfl⟩

end Session

end Flowchart
