import Flowchart.Proofs.Members
import Flowchart.Proofs.Repeat

/-!
# Copies of charts

A copy of a chart shares the nodes, the edges, the class styles, the directives and the subgraphs
of the original, but its lists and its settings are its own. The main statement is
`Session.copyChart_runAll`: steps about one of the two leave the other as it is, and as long as no
step is about either of them, both have the same text, whatever becomes of the things that they
share. The name of a chart does not stand in its own text (`Store.statements_congr_chart`), and a
subgraph has the same region in both.
-/

namespace Flowchart

/-! ## Charts that hold the same -/

namespace Store

variable {s : Store} {c d : ChartId}

theorem carriers_congr (h : s.chart d = s.chart c) (k : ClassId) :
    s.carriers d k = s.carriers c k := by
  unfold carriers
  rw [h]

theorem classStatements_congr (h : s.chart d = s.chart c) :
    s.classStatements d = s.classStatements c := by
  funext k
  unfold classStatements
  rw [carriers_congr h]

/-- Two charts that hold the same have the same statements, if the same is nested in both. -/
theorem statements_congr_chart (h : s.chart d = s.chart c) (seen : Mentioned) (rs : List Region) :
    s.statements seen (.mk d rs) = s.statements seen (.mk c rs) := by
  simp only [statements, Region.chart, Region.script, Region.links, h, classStatements_congr h]

theorem mentionedAfter_congr (h : s.chart d = s.chart c) (seen : Mentioned) (rs : List Region) :
    s.mentionedAfter seen (.mk d rs) = s.mentionedAfter seen (.mk c rs) := by
  have hscript : (Region.mk d rs).script s false = (Region.mk c rs).script s false := by
    simp only [Region.script, h]
  have hnodes : s.nodesOf d = s.nodesOf c := by
    unfold nodesOf
    rw [h]
  rw [mentionedAfter, mentionedAfter, hscript]
  show Mentioned.release _ s d = Mentioned.release _ s c
  rw [Mentioned.release, Mentioned.release, hnodes]

/-- Two charts that hold the same have the same text, if they have one. -/
theorem render?_congr (h : s.chart d = s.chart c) (seen : Mentioned) :
    s.render? seen d = s.render? seen c := by
  unfold render? region? regionWithin?
  rw [h, Option.map_map, Option.map_map]
  congr 1
  funext rs
  simp only [Function.comp_apply, renderRegion, statements_congr_chart h, mentionedAfter_congr h]

end Store

theorem Workspace.render?_congr {w : Workspace} {c d : ChartId}
    (h : w.store.chart d = w.store.chart c) : w.render? d = w.render? c := by
  unfold Workspace.render?
  rw [Store.render?_congr h]

/-- Where no node counts as mentioned, two charts that hold the same can be written one after the
other. -/
theorem Workspace.exists_renderAll?_eq_some {w : Workspace} {c d : ChartId}
    (h : w.store.chart d = w.store.chart c) (hacyclic : w.store.Acyclic c) (hseen : w.seen = []) :
    ∃ text, w.renderAll? [c, d] = some ([text, text], w) := by
  obtain ⟨text, htext⟩ := exists_render?_eq_some_self hacyclic hseen
  have hall : ∀ e ∈ [c, d], w.render? e = some (text, w) := by
    intro e he
    rcases List.mem_cons.mp he with rfl | he
    · exact htext
    · rw [List.mem_singleton.mp he, render?_congr h, htext]
  exact ⟨text, @renderAll?_eq_some w (fun _ => text) _ hall⟩

/-! ## Charts that no step is about -/

namespace Session

variable {s : Session} {c : ChartId}

/-- The chart that a step is to change. -/
def edits? (s : Session) : Step → Option ChartId
  | .chart h _ => (s.handles.get? h).bind Thing.chart?
  | _ => none

/-- The charts that the steps of a run are to change, by whatever handles they call them. -/
def edited : Session → List Step → List ChartId
  | _, [] => []
  | s, st :: rest => (s.edits? st).toList ++ edited (s.step st).1 rest

theorem edits?_eq_some_of_works {st : Step} (h : (s.asks st).works c) : s.edits? st = some c := by
  obtain ⟨handle, x, rfl, hfind⟩ := h
  rw [edits?, find_chart_eq_ok.mp hfind]
  rfl

/-- A step leaves the charts as they are that it is not to change. -/
theorem chart_step_of_not_edits (hc : c.index < s.workspace.store.charts.size) {st : Step}
    (h : s.edits? st ≠ some c) :
    (s.step st).1.workspace.store.chart c = s.workspace.store.chart c :=
  (s.move_step st).chart_eq hc fun hworks => h (edits?_eq_some_of_works hworks)

theorem index_lt_step (hc : c.index < s.workspace.store.charts.size) (st : Step) :
    c.index < (s.step st).1.workspace.store.charts.size :=
  (s.move_step st).placed (x := .chart c) hc

/-- A run leaves the charts as they are that none of its steps is to change. -/
theorem chart_runAll_of_not_edited (hc : c.index < s.workspace.store.charts.size)
    {steps : List Step} (h : c ∉ s.edited steps) :
    (s.runAll steps).1.workspace.store.chart c = s.workspace.store.chart c := by
  induction steps generalizing s with
  | nil => rfl
  | cons st rest ih =>
    rw [edited, List.mem_append, not_or, Option.mem_toList] at h
    have hstep := chart_step_of_not_edits hc h.1
    have hrest := ih (index_lt_step hc st) h.2
    exact hrest.trans hstep

/-! ## Copying -/

/-- A copy stands at the next place and is named by the handle that the step gives. -/
theorem step_copyChart {copy source : Handle} (hc : s.find Thing.chart? source = .ok c) :
    (s.step (.copyChart copy source)).1.workspace = (s.workspace.copyChart c).2 ∧
      (s.step (.copyChart copy source)).1.find Thing.chart? copy
        = .ok ⟨s.workspace.store.charts.size⟩ := by
  have hrun : s.run (.copyChart copy source)
      = .ok ((s.setHandle copy (.chart (s.workspace.copyChart c).1)).answerChart
          (s.workspace.copyChart c).2 (s.workspace.copyChart c).1) := by
    rw [run, hc]
    rfl
  unfold step
  rw [hrun]
  refine ⟨rfl, find_chart_eq_ok.mpr ?_⟩
  exact Dict.get?_insert_self s.handles copy _

/-- The copy holds what the chart does, and the charts that there were are as before. -/
theorem chart_step_copyChart {copy source : Handle} (hc : s.find Thing.chart? source = .ok c)
    (e : ChartId) : (s.step (.copyChart copy source)).1.workspace.store.chart e
      = if e.index = s.workspace.store.charts.size then s.workspace.store.chart c
        else s.workspace.store.chart e := by
  rw [(step_copyChart hc).1]
  exact Workspace.chart_addChart _ _ _

theorem size_step_copyChart {copy source : Handle} (hc : s.find Thing.chart? source = .ok c) :
    (s.step (.copyChart copy source)).1.workspace.store.charts.size
      = s.workspace.store.charts.size + 1 := by
  rw [(step_copyChart hc).1]
  exact Shelf.size_push _ _

/-- In a session that has been run, a copy of a chart is another chart that holds the same. Whatever
is done then, a chart of the two that no step is to change keeps its lists and its settings; and if
neither is changed, they have the same text, whether it can be written or not. A chart without
cycles can be written, and where no node counts as mentioned, the two are written one after the
other with the same text. -/
theorem copyChart_runAll (history : List Step) {copy source : Handle} {c : ChartId}
    (hc : (runAll {} history).1.find Thing.chart? source = .ok c) :
    let s := (runAll {} history).1
    let copied := (s.step (.copyChart copy source)).1
    ∃ d, copied.find Thing.chart? copy = .ok d ∧ d ≠ c ∧
      copied.workspace.store.chart d = s.workspace.store.chart c ∧
      ∀ steps, let w := (copied.runAll steps).1.workspace
        (c ∉ copied.edited steps → w.store.chart c = s.workspace.store.chart c) ∧
        (d ∉ copied.edited steps → w.store.chart d = s.workspace.store.chart c) ∧
        (c ∉ copied.edited steps → d ∉ copied.edited steps →
          w.render? d = w.render? c ∧
          (w.store.Acyclic c → (w.render? c).isSome) ∧
          (w.store.Acyclic c → w.seen = [] →
            ∃ text, w.renderAll? [c, d] = some ([text, text], w))) := by
  intro s copied
  have hs : s.Orderly := orderly_empty.runAll history
  have hplaced : c.index < s.workspace.store.charts.size :=
    hs.given (.chart c) ⟨source, find_chart_eq_ok.mp hc⟩
  -- The place of the copy is a new one.
  have hd : copied.workspace.store.chart ⟨s.workspace.store.charts.size⟩
      = s.workspace.store.chart c :=
    (chart_step_copyChart hc _).trans (if_pos rfl)
  have hold : copied.workspace.store.chart c = s.workspace.store.chart c :=
    (chart_step_copyChart hc c).trans (if_neg (Nat.ne_of_lt hplaced))
  have hsize : copied.workspace.store.charts.size = s.workspace.store.charts.size + 1 :=
    size_step_copyChart hc
  refine ⟨_, (step_copyChart hc).2, fun heq => ?_, hd, fun steps => ?_⟩
  · rw [← heq] at hplaced
    exact Nat.lt_irrefl _ hplaced
  intro w
  have hkept : c ∉ copied.edited steps → w.store.chart c = s.workspace.store.chart c := by
    intro h
    rw [← hold]
    exact chart_runAll_of_not_edited (by omega) h
  have hcopy : ⟨s.workspace.store.charts.size⟩ ∉ copied.edited steps →
      w.store.chart ⟨s.workspace.store.charts.size⟩ = s.workspace.store.chart c := by
    intro h
    rw [← hd]
    exact chart_runAll_of_not_edited (hsize ▸ Nat.lt_succ_self _) h
  refine ⟨hkept, hcopy, fun hnot hnot' => ?_⟩
  have hsame : w.store.chart ⟨s.workspace.store.charts.size⟩ = w.store.chart c :=
    (hcopy hnot').trans (hkept hnot).symm
  refine ⟨Workspace.render?_congr hsame, fun hacyclic => ?_, fun hacyclic hseen => ?_⟩
  · obtain ⟨text, seen, htext, -⟩ := Workspace.exists_render?_eq_some hacyclic
    rw [htext]
    rfl
  · exact Workspace.exists_renderAll?_eq_some hsame hacyclic hseen

/-- A chart with another one nested in it. -/
def sharedInner : List Step :=
  [.newNode "a" "a" "A", .newNode "b" "b" "B", .newChart "inner", .newChart "outer",
    .chart "outer" (.add .node ["b"]), .chart "outer" (.add .subgraph ["inner"])]

/-- The subgraph that the outer chart shares with its copy gets a node, and the copy another name
and another node. -/
theorem copyChart_runAll_sharedInner :
    let s := (runAll {} sharedInner).1
    let copied := (s.step (.copyChart "twin" "outer")).1
    let shared := [.chart "inner" (.add .node ["a"]), .node "b" (.text "C")]
    let own := [.chart "twin" (.named "twin"), .chart "twin" (.add .node ["a"])]
    s.find Thing.chart? "outer" = .ok ⟨1⟩ ∧
      ∃ d, copied.find Thing.chart? "twin" = .ok d ∧
        (copied.runAll shared).1.workspace.render? d
          = (copied.runAll shared).1.workspace.render? ⟨1⟩ ∧
        ((copied.runAll shared).1.workspace.render? d).map (·.1) = some ("\n".intercalate
          ["flowchart TB", "b[C]", "subgraph subgraph_0", "a[A]", "end"]) ∧
        ((copied.runAll own).1.workspace.store.chart ⟨1⟩).nodes = [⟨1⟩] := by
  intro s copied shared own
  have hc : s.find Thing.chart? "outer" = .ok ⟨1⟩ := by rfl
  refine ⟨hc, ?_⟩
  obtain ⟨d, hd, -, -, hruns⟩ := @copyChart_runAll sharedInner "twin" "outer" ⟨1⟩ hc
  have hplace : copied.find Thing.chart? "twin" = .ok ⟨2⟩ := by rfl
  obtain rfl : ⟨2⟩ = d := Except.ok.inj (hplace.symm.trans hd)
  obtain ⟨-, -, hboth⟩ := hruns shared
  obtain ⟨hrender, -, -⟩ := hboth (by decide +kernel) (by decide +kernel)
  obtain ⟨hkept, -, -⟩ := hruns own
  refine ⟨⟨2⟩, hd, hrender, by decide +kernel, ?_⟩
  rw [hkept (by decide +kernel)]
  decide +kernel

end Session

end Flowchart
