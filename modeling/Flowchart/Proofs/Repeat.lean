import Flowchart.Proofs.Nesting
import Flowchart.Store.Workspace

/-!
# Rendering leaves nothing behind

While a chart is written, the nodes that have been mentioned are kept; they are shared with every
other chart. A block takes its own nodes back when it ends, which may be nodes of the charts
around it as well, and the chart takes back the rest. The main statement on one region is
`mem_mentionedAfter`: what is left are the nodes that were mentioned before and belong to none of
its charts. So a chart can be written again and again, in between any others.
-/

namespace Flowchart

variable {s : Store} {n : NodeId}

theorem Store.mem_nodesOf {c : ChartId} :
    n ∈ s.nodesOf c ↔ n ∈ (s.chart c).nodes ∨ ∃ e ∈ (s.chart c).edges, n ∈ (s.edge e).nodes := by
  rw [Store.nodesOf, List.mem_append, List.mem_flatMap]

/-! ## Playing one event more, and one block more -/

theorem playAll_cons (s : Store) (seen : Mentioned) (e : Event) (rest : List Event) :
    playAll s seen (e :: rest) =
      ((e.play s seen).1.toList ++ (playAll s (e.play s seen).2 rest).1,
        (playAll s (e.play s seen).2 rest).2) :=
  rfl

/-- What a block writes, and the blocks after it. -/
theorem playAll_blocks_cons (r : Region) (rest : List Region) (seen : Mentioned) :
    (playAll s seen (Region.blocks s (r :: rest))).1
      = .opening r.chart :: ((playAll s seen (r.script s true)).1 ++ [.closing r.chart])
        ++ (playAll s ((playAll s seen (r.script s true)).2.release s r.chart)
          (Region.blocks s rest)).1 := by
  simp [Region.blocks, playAll, Event.play, playAll_append]

/-! ## The nodes mentioned after a script -/

/-- An edge mentions its source and its target. -/
theorem mem_add_add {e : Edge} {seen : Mentioned} :
    n ∈ (seen.add e.source.node).add e.target.node ↔ n ∈ seen ∨ n ∈ e.nodes := by
  simp only [Mentioned.mem_add, Edge.nodes, List.mem_cons, List.not_mem_nil, or_false]
  tauto

theorem mem_playAll_edges (nested : Bool) (es : List EdgeId) (seen : Mentioned) :
    n ∈ (playAll s seen (es.map (.edge nested))).2
      ↔ n ∈ seen ∨ ∃ e ∈ es, n ∈ (s.edge e).nodes := by
  induction es generalizing seen with
  | nil => simp [playAll]
  | cons e rest ih =>
    simp only [List.map_cons, playAll, Event.play, ih, mem_add_add, List.mem_cons,
      exists_eq_or_imp, or_assoc]

theorem mem_playAll_members (ns : List NodeId) (seen : Mentioned) :
    n ∈ (playAll s seen (ns.map .member)).2 ↔ n ∈ seen ∨ n ∈ ns := by
  induction ns generalizing seen with
  | nil => simp [playAll]
  | cons m rest ih =>
    simp only [List.map_cons, playAll, Event.play]
    split
    · next hm =>
      rw [ih, List.mem_cons]
      constructor
      · rintro (h | h)
        · exact .inl h
        · exact .inr (.inr h)
      · rintro (h | rfl | h)
        · exact .inl h
        · exact .inl hm
        · exact .inr h
    · rw [ih, Mentioned.mem_add, List.mem_cons]
      tauto

/-- After the edges and the nodes of a chart, all of its nodes have been mentioned. -/
theorem mem_playAll_own (nested : Bool) (c : ChartId) (seen : Mentioned) :
    n ∈ (playAll s seen
        ((s.chart c).edges.map (.edge nested) ++ (s.chart c).nodes.map .member)).2
      ↔ n ∈ seen ∨ n ∈ s.nodesOf c := by
  rw [playAll_append, mem_playAll_members, mem_playAll_edges, Store.mem_nodesOf, or_assoc,
    or_comm (b := n ∈ (s.chart c).nodes)]

mutual

theorem mem_playAll_script (nested : Bool) : ∀ (r : Region) (seen : Mentioned),
    n ∈ (playAll s seen (r.script s nested)).2
      ↔ (n ∈ seen ∨ n ∈ s.nodesOf r.chart) ∧ ∀ d ∈ Region.chartsOfAll r.inner, n ∉ s.nodesOf d
  | .mk c rs, seen => by
    rw [Region.script, playAll_append]
    show n ∈ (playAll s _ (Region.blocks s rs)).2 ↔ _
    rw [mem_playAll_blocks rs, mem_playAll_own]
    rfl

/-- The blocks of some subgraphs take back the nodes of each chart in them. -/
theorem mem_playAll_blocks : ∀ (rs : List Region) (seen : Mentioned),
    n ∈ (playAll s seen (Region.blocks s rs)).2
      ↔ n ∈ seen ∧ ∀ d ∈ Region.chartsOfAll rs, n ∉ s.nodesOf d
  | [], seen => by simp [Region.blocks, Region.chartsOfAll, playAll]
  | r :: rest, seen => by
    obtain ⟨c, rs⟩ := r
    have hscript := mem_playAll_script true (.mk c rs) seen
    simp only [Region.chart, Region.inner] at hscript
    simp only [Region.blocks, Region.chart, playAll, Event.play, playAll_append,
      mem_playAll_blocks rest, Mentioned.mem_release, hscript, Region.chartsOfAll, Region.charts,
      List.cons_append, List.forall_mem_cons, List.forall_mem_append]
    tauto

end

/-- What counts as mentioned after a region, in a block or not, is what did before, but for the
nodes of its charts. -/
theorem mem_release_script (nested : Bool) (r : Region) (seen : Mentioned) :
    n ∈ (playAll s seen (r.script s nested)).2.release s r.chart
      ↔ n ∈ seen ∧ ∀ d ∈ r.charts, n ∉ s.nodesOf d := by
  obtain ⟨c, rs⟩ := r
  rw [Mentioned.mem_release, mem_playAll_script, Region.charts, List.forall_mem_cons]
  simp only [Region.chart, Region.inner]
  tauto

theorem mem_mentionedAfter (r : Region) (seen : Mentioned) :
    n ∈ s.mentionedAfter seen r ↔ n ∈ seen ∧ ∀ d ∈ r.charts, n ∉ s.nodesOf d :=
  mem_release_script false r seen

/-! ## Charts one after the other -/

namespace Workspace

variable {w : Workspace} {c : ChartId}

/-- The texts of charts that are written one after the other, if their nestings end. -/
def renderAll? (w : Workspace) : List ChartId → Option (List String × Workspace)
  | [] => some ([], w)
  | c :: rest => do
    let (text, w) ← w.render? c
    let (texts, w) ← w.renderAll? rest
    some (text :: texts, w)

theorem render?_eq_some {r : Region} (hr : w.store.region? c = some r) :
    w.render? c = some (w.store.renderRegion w.seen r,
      { w with seen := w.store.mentionedAfter w.seen r }) := by
  rw [render?, Store.render?, hr]
  rfl

/-- Writing a chart changes nothing but what counts as mentioned, and takes its own nodes and
those of the charts nested in it out of that. -/
theorem exists_render?_eq_some (h : w.store.Acyclic c) :
    ∃ text seen, w.render? c = some (text, { w with seen }) ∧
      ∀ n, n ∈ seen ↔ n ∈ w.seen ∧ ∀ d, w.store.Nested c d → n ∉ w.store.nodesOf d := by
  obtain ⟨r, hr, rfl, hunfolds⟩ := h.exists_region
  refine ⟨_, _, render?_eq_some hr, fun n => ?_⟩
  rw [mem_mentionedAfter]
  simp only [hunfolds.mem_charts]

/-- With no node mentioned, writing a chart changes nothing at all. -/
theorem exists_render?_eq_some_self (h : w.store.Acyclic c) (hseen : w.seen = []) :
    ∃ text, w.render? c = some (text, w) := by
  obtain ⟨text, seen, hrender, hmem⟩ := exists_render?_eq_some h
  have hnil : seen = w.seen := by
    rw [hseen]
    refine List.eq_nil_iff_forall_not_mem.mpr fun n hn => ?_
    have := ((hmem n).mp hn).1
    rw [hseen] at this
    exact List.not_mem_nil this
  subst hnil
  exact ⟨text, hrender⟩

theorem renderAll?_eq_some {text : ChartId → String} {cs : List ChartId}
    (h : ∀ c ∈ cs, w.render? c = some (text c, w)) :
    w.renderAll? cs = some (cs.map text, w) := by
  induction cs with
  | nil => rfl
  | cons c rest ih =>
    rw [renderAll?, h c List.mem_cons_self]
    show (do let (texts, w) ← w.renderAll? rest; some (text c :: texts, w)) = _
    rw [ih fun d hd => h d (List.mem_cons_of_mem _ hd)]
    rfl

/-- Writing a chart leaves the store and the generated names as they are. None of the nodes of the
chart and of the charts nested in it counts as mentioned afterwards, and every other node counts
as it did. So where no node counts as mentioned, a chart has one text, which it has in every
sequence of charts that are written one after the other. -/
theorem render?_repeatable (w : Workspace) :
    (∀ c, w.store.Acyclic c → ∃ text seen, w.render? c = some (text, { w with seen }) ∧
      ∀ n, n ∈ seen ↔ n ∈ w.seen ∧ ∀ d, w.store.Nested c d → n ∉ w.store.nodesOf d) ∧
    (w.seen = [] → ∃ text : ChartId → String, ∀ cs : List ChartId,
      (∀ c ∈ cs, w.store.Acyclic c) → w.renderAll? cs = some (cs.map text, w)) := by
  refine ⟨fun c h => exists_render?_eq_some h, fun hseen => ?_⟩
  refine ⟨fun c => ((w.render? c).map (·.1)).getD "", fun cs hcs => ?_⟩
  apply renderAll?_eq_some
  intro c hc
  obtain ⟨text, htext⟩ := exists_render?_eq_some_self (hcs c hc) hseen
  simp [htext]

/-- Three charts that share a node and an edge, the outer one written before and after the two
that are nested in it. -/
theorem renderAll?_nestedTwice :
    Store.nestedTwice.Acyclic ⟨2⟩ ∧
    (∃ text seen, render? { store := .nestedTwice, seen := [⟨0⟩, ⟨5⟩] } ⟨2⟩
        = some (text, { store := .nestedTwice, seen }) ∧
      ∀ n, n ∈ seen ↔ n ∈ [⟨0⟩, (⟨5⟩ : NodeId)] ∧
        ∀ d, Store.nestedTwice.Nested ⟨2⟩ d → n ∉ Store.nestedTwice.nodesOf d) ∧
    ∃ text : ChartId → String,
      renderAll? { store := .nestedTwice } [⟨2⟩, ⟨0⟩, ⟨1⟩, ⟨2⟩]
        = some ([text ⟨2⟩, text ⟨0⟩, text ⟨1⟩, text ⟨2⟩], { store := .nestedTwice }) := by
  refine ⟨Store.acyclic_nestedTwice _, ?_, ?_⟩
  · exact (render?_repeatable _).1 ⟨2⟩ (Store.acyclic_nestedTwice _)
  · obtain ⟨text, htext⟩ := (render?_repeatable { store := .nestedTwice }).2 rfl
    exact ⟨text, htext [⟨2⟩, ⟨0⟩, ⟨1⟩, ⟨2⟩] fun c _ => Store.acyclic_nestedTwice c⟩

end Workspace

end Flowchart
