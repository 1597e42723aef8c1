import Flowchart.Proofs.Blocks
import Flowchart.Proofs.Parts
import Flowchart.Proofs.Rerender

/-!
# The nodes that carry a class

After the definition of a class a chart lists those of its own nodes that carry the class. The
nodes of its edges and of its subgraphs are among its own ones, for these parts bring their nodes
along when they join. But they bring only what they have then: an edge may be given other ends
later, and a subgraph other nodes, and these are mentioned in the text without being listed.

The main statement is `Session.classLines_runAll`: every node that is mentioned and carries the
class is listed, unless the chart or one nested in it misses the node, which a part has gained since
it joined that chart (`Session.Misses`).
-/

namespace Flowchart

variable {n : NodeId}

/-! ## Nodes that a chart misses -/

namespace Session

/-- A chart does not have a node that one of its parts has, for the part has gained the node since
it joined the chart. -/
def Misses (steps : List Step) (d : ChartId) (n : NodeId) : Prop :=
  let s := (runAll {} steps).1.workspace.store
  n ∉ (s.chart d).nodes ∧
    ∃ x, (s.chart d).HasPart x ∧ s.Carries x (.node n) ∧ GainsSince steps d x (.node n)

/-- A chart has the nodes of its parts, but for those that it misses. -/
theorem mem_nodes_or_misses (steps : List Step) {d : ChartId} {x : Thing}
    (hx : ((runAll {} steps).1.workspace.store.chart d).HasPart x)
    (hn : (runAll {} steps).1.workspace.store.Carries x (.node n)) :
    n ∈ ((runAll {} steps).1.workspace.store.chart d).nodes ∨ Misses steps d n := by
  by_cases hmem : n ∈ ((runAll {} steps).1.workspace.store.chart d).nodes
  · exact .inl hmem
  · exact .inr ⟨hmem, x, hx, hn, (has_or_gainsSince steps hx hn).resolve_left hmem⟩

/-- A chart has the nodes of the charts nested in it, but for those that it or one of them
misses. -/
theorem mem_nodes_of_nested (steps : List Step) {c d : ChartId}
    (hd : (runAll {} steps).1.workspace.store.Nested c d)
    (hn : n ∈ (runAll {} steps).1.workspace.store.nodesOf d) :
    let s := (runAll {} steps).1.workspace.store
    n ∈ (s.chart c).nodes ∨ ∃ e, s.Nested c e ∧ Misses steps e n := by
  intro s
  have hown : n ∈ (s.chart d).nodes ∨ Misses steps d n := by
    rcases Store.mem_nodesOf.mp hn with hn | ⟨e, he, hend⟩
    · exact .inl hn
    · exact mem_nodes_or_misses (x := .edge e) steps he ⟨n, hend, rfl⟩
  induction hd using Relation.ReflTransGen.head_induction_on with
  | refl => exact hown.imp_right fun hmisses => ⟨d, .refl, hmisses⟩
  | @head c c' hholds hd ih =>
    rcases ih with hn | ⟨e, he, hmisses⟩
    · exact (mem_nodes_or_misses (x := .chart c') steps hholds hn).imp_right fun hmisses =>
        ⟨c, .refl, hmisses⟩
    · exact .inr ⟨e, .head hholds he, hmisses⟩

end Session

/-! ## What the text says -/

section Text

variable {s : Store} {seen : Mentioned} {r : Region}

/-- Each class of a chart has its statements in the text. -/
theorem exists_classStatements {k : ClassId} (hk : k ∈ (s.chart r.chart).classes) :
    ∃ before after, s.statements seen r = before ++ s.classStatements r.chart k ++ after := by
  have hregroup (as bs cs ds es fs : List Statement) :
      as ++ (bs ++ (cs ++ ds)) ++ es ++ fs = (as ++ bs) ++ cs ++ (ds ++ es ++ fs) := by
    simp only [List.append_assoc]
  obtain ⟨ks, ks', hks⟩ := List.append_of_mem hk
  simp only [Store.statements, hks, List.flatMap_append, List.flatMap_cons]
  exact ⟨_, _, hregroup ..⟩

theorem mem_carriers {c : ChartId} {k : ClassId} :
    n ∈ s.carriers c k ↔ n ∈ (s.chart c).nodes ∧ (s.node n).classStyle = some k := by
  rw [Store.carriers, List.mem_filter, beq_iff_eq]

end Text

namespace Session

/-- However a session is run, the text of a chart without cycles, written where no node counts as
mentioned, follows the definition of each class of the chart by a line of those nodes of the chart
that carry the class, if there are any. Every node that is mentioned in the body and carries the
class is among them, unless the chart or one nested in it does not have the node although an edge or
a subgraph of it does, which has gained the node since it joined that chart. -/
theorem classLines_runAll (steps : List Step) (c : ChartId)
    (h : (runAll {} steps).1.workspace.store.Acyclic c) :
    let w := (runAll {} steps).1.workspace
    let s := w.store
    ∃ r seen, s.region? c = some r ∧
      ({ w with seen := [] } : Workspace).render? c
        = some ("\n".intercalate ((s.statements [] r).map (Statement.text s)),
          { w with seen }) ∧
      ∀ k ∈ (s.chart c).classes, ∃ before ns after,
        s.statements [] r = before
          ++ (.classDefinition k :: if ns = [] then [] else [.classMembers ns k]) ++ after ∧
        (∀ n, n ∈ ns ↔ n ∈ (s.chart c).nodes ∧ (s.node n).classStyle = some k) ∧
        ∀ n, MentionedIn n (marks (s.statements [] r)) → (s.node n).classStyle = some k →
          n ∈ ns ∨ ∃ d, s.Nested c d ∧ Misses steps d n := by
  intro w s
  obtain ⟨r, hr, rfl, hunfolds⟩ := Store.Acyclic.exists_region h
  refine ⟨r, s.mentionedAfter [] r, hr, Workspace.render?_eq_some hr, fun k hk => ?_⟩
  obtain ⟨before, after, hstatements⟩ :
      ∃ before after, s.statements [] r = before ++ s.classStatements r.chart k ++ after :=
    exists_classStatements hk
  refine ⟨before, s.carriers r.chart k, after, hstatements, fun n => mem_carriers,
    fun n hmentioned hcarries => ?_⟩
  obtain ⟨d, hd, hn⟩ := exists_chart_of_mentionedIn hmentioned
  exact (mem_nodes_of_nested steps (hunfolds.mem_charts.mp hd) hn).imp_left fun hown =>
    mem_carriers.mpr ⟨hown, hcarries⟩

/-- A chart with a subgraph that gets a second node once it is nested; both carry a class. -/
def lateMember : List Step :=
  [.newNode "a" "a" "A", .newNode "b" "b" "B", .newClass "hot" "hot" "fill:#f00",
    .node "a" (.classStyle (some "hot")), .node "b" (.classStyle (some "hot")),
    .newChart "inner", .newChart "outer", .chart "inner" (.add .node ["a"]),
    .chart "outer" (.add .subgraph ["inner"]), .chart "outer" (.add .classStyle ["hot"]),
    .chart "inner" (.add .node ["b"])]

/-- The first node is listed; the second one is not, for it came to the subgraph later. -/
theorem classLines_lateMember :
    let s := (runAll {} lateMember).1.workspace.store
    s.Acyclic ⟨1⟩ ∧ ∃ r before ns after, s.region? ⟨1⟩ = some r ∧
      s.statements [] r = before
        ++ (.classDefinition ⟨0⟩ :: if ns = [] then [] else [.classMembers ns ⟨0⟩]) ++ after ∧
      ⟨0⟩ ∈ ns ∧ ⟨1⟩ ∉ ns ∧
      ∃ d, s.Nested ⟨1⟩ d ∧ Misses lateMember d ⟨1⟩ := by
  intro s
  have hacyclic : s.Acyclic ⟨1⟩ := by
    rw [← Store.region?_isSome_iff]
    decide +kernel
  refine ⟨hacyclic, ?_⟩
  obtain ⟨r, -, hr, -, hclasses⟩ := classLines_runAll lateMember ⟨1⟩ hacyclic
  obtain ⟨before, ns, after, hstatements, hns, hlisted⟩ := hclasses ⟨0⟩ (by decide +kernel)
  have hregion : s.region? ⟨1⟩ = some (.mk ⟨1⟩ [.mk ⟨0⟩ []]) := rfl
  obtain rfl : .mk ⟨1⟩ [.mk ⟨0⟩ []] = r := Option.some.inj (hregion.symm.trans hr)
  have hnot : ⟨1⟩ ∉ ns := fun hmem => absurd ((hns ⟨1⟩).mp hmem).1 (by decide +kernel)
  have hmentioned : MentionedIn ⟨1⟩ (marks (s.statements [] (.mk ⟨1⟩ [.mk ⟨0⟩ []]))) :=
    ⟨.mention ⟨⟨1⟩, true⟩, by decide +kernel, rfl⟩
  exact ⟨_, before, ns, after, hr, hstatements, (hns ⟨0⟩).mpr (by decide +kernel), hnot,
    (hlisted ⟨1⟩ hmentioned (by decide +kernel)).resolve_left hnot⟩

/-- An edge that is given another target once it is in a chart; the new target carries a class. -/
def lateTarget : List Step :=
  [.newNode "a" "a" "A", .newNode "b" "b" "B", .newNode "c" "c" "C",
    .newClass "hot" "hot" "fill:#f00", .node "b" (.classStyle (some "hot")),
    .newEdge "e" "a" "c" none, .newChart "g", .chart "g" (.add .classStyle ["hot"]),
    .chart "g" (.add .edge ["e"]), .edge "e" (.target "b" false none)]

/-- The class is defined and the new target mentioned, and no line says that it carries the
class. -/
theorem unlisted_lateTarget :
    let w := (runAll {} lateTarget).1.workspace
    let s := w.store
    ⟨0⟩ ∈ (s.chart ⟨0⟩).classes ∧ (s.node ⟨1⟩).classStyle = some ⟨0⟩ ∧ w.seen = [] ∧
      (w.render? ⟨0⟩).map (·.1) = some ("\n".intercalate
        ["flowchart TB", "a[A] --- b[B]", "c[C]", "classDef hot fill:#f00"]) ∧
      ∃ r, s.region? ⟨0⟩ = some r ∧ MentionedIn ⟨1⟩ (marks (s.statements [] r)) ∧
        ∀ ns, .classMembers ns ⟨0⟩ ∉ s.statements [] r := by
  intro w s
  refine ⟨by decide +kernel, by decide +kernel, by decide +kernel, by decide +kernel,
    .mk ⟨0⟩ [], rfl, ⟨.mention ⟨⟨1⟩, true⟩, by decide +kernel, rfl⟩, fun ns hns => ?_⟩
  have hstatements : s.statements [] (.mk ⟨0⟩ [])
      = [.header .topBottom, .body (.edge false ⟨0⟩ ⟨⟨0⟩, true⟩ ⟨⟨1⟩, true⟩),
        .body (.node ⟨⟨2⟩, true⟩), .classDefinition ⟨0⟩] := by
    decide +kernel
  rw [hstatements] at hns
  simp at hns

end Session

end Flowchart
