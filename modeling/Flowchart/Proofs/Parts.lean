import Flowchart.Proofs.Members

/-!
# What the parts of a chart bring along

The edges and the subgraphs of a chart are its parts. A part that joins a chart brings along what it
carries: an edge its nodes, and a subgraph its nodes and its class styles. But an edge may be given
other ends later, and a subgraph more members, and a part that is there already brings nothing when
it is added again.

So a chart has what its parts carry, but for what a part has gained since it joined the chart, or
the one that the chart is a copy of (`Session.has_or_gainsSince`). The main statement is
`Session.carried_runAll`, which says the same of what has just been added, be it new to the chart or
not.
-/

namespace Flowchart

/-! ## Parts and what they carry -/

/-- The edges and the subgraphs of a chart are its parts. -/
def Chart.HasPart (c : Chart) : Thing → Prop
  | .edge e => e ∈ c.edges
  | .chart d => d ∈ c.subgraphs
  | _ => False

/-- The nodes and the class styles of a chart. -/
def Chart.Has (c : Chart) : Thing → Prop
  | .node n => n ∈ c.nodes
  | .classStyle k => k ∈ c.classes
  | _ => False

/-- What a part brings along when it joins a chart. -/
def Store.Carries (s : Store) : Thing → Thing → Prop
  | .edge e, y => ∃ n ∈ (s.edge e).nodes, y = .node n
  | .chart d, y => (s.chart d).Has y
  | _, _ => False

namespace Chart

variable {a b : Chart} {x y : Thing}

/-- What parts a chart has depends on its edges and its subgraphs. -/
theorem hasPart_congr (hedges : a.edges = b.edges) (hsubgraphs : a.subgraphs = b.subgraphs) :
    a.HasPart x ↔ b.HasPart x := by
  cases x <;> simp only [HasPart, hedges, hsubgraphs]

theorem not_hasPart_empty (name : String) : ¬ ({ name } : Chart).HasPart x := by
  intro hx
  cases x with
  | edge | chart => exact absurd hx List.not_mem_nil
  | _ => exact hx

theorem Grows.has (h : a.Grows b) (hy : a.Has y) : b.Has y := by
  cases y with
  | node n => exact h.nodes.subset hy
  | classStyle k => exact h.classes.subset hy
  | _ => exact hy

/-- A part that is new to a chart brings along what it carries, and is not the chart itself. -/
theorem Change.part_cases {given : Thing → Prop} {s : Store} {self : ChartId}
    {f : Chart → Chart} (h : Chart.Change given s self f) (c : Chart) (hx : (f c).HasPart x) :
    c.HasPart x ∨ x ≠ .chart self ∧ ∀ y, s.Carries x y → (f c).Has y := by
  induction h generalizing c with
  | addNodes | addClasses | addDirectives => exact .inl ((hasPart_congr rfl rfl).mp hx)
  | settings same =>
    obtain ⟨-, hedges, -, -, hsubgraphs⟩ := same c
    exact .inl ((hasPart_congr hedges hsubgraphs).mp hx)
  | @addEdges es _ =>
    simp only [addEdges_eq] at hx ⊢
    cases x with
    | edge e =>
      refine (List.mem_append.mp hx).imp_right fun hnew => ⟨nofun, fun y hy => ?_⟩
      obtain ⟨n, hn, rfl⟩ := hy
      show n ∈ c.nodes ++ newcomers c.nodes _
      rw [← withMembers_eq, mem_withMembers, List.mem_flatMap]
      exact .inr ⟨e, hnew, hn⟩
    | _ => exact .inl hx
  | @addSubgraphs cs _ =>
    simp only [addSubgraphs_eq] at hx ⊢
    cases x with
    | chart d =>
      refine (List.mem_append.mp hx).imp_right fun hnew => ⟨fun heq => ?_, fun y hy => ?_⟩
      · obtain ⟨-, hne⟩ := List.mem_filter.mp (mem_newcomers.mp hnew).1
        exact of_decide_eq_true hne (Thing.chart.inj heq)
      · cases y with
        | node n =>
          show n ∈ c.nodes ++ newcomers c.nodes _
          rw [← withMembers_eq, mem_withMembers, List.mem_flatMap]
          exact .inr ⟨d, hnew, hy⟩
        | classStyle k =>
          show k ∈ c.classes ++ newcomers c.classes _
          rw [← withMembers_eq, mem_withMembers, List.mem_flatMap]
          exact .inr ⟨d, hnew, hy⟩
        | _ => exact hy.elim
    | _ => exact .inl hx
  | @comp f g _ second ih ih' =>
    have hgrows : (f c).Grows (g (f c)) := (second.joined (f c)).grows
    rcases ih' (f c) hx with hold | hnew
    · exact (ih c hold).imp_right fun hnew => ⟨hnew.1, fun y hy => hgrows.has (hnew.2 y hy)⟩
    · exact .inr hnew

end Chart

/-- In a store in order, the parts of a chart are there, and none is the chart itself. -/
theorem Store.Orderly.placed_of_part {s : Store} (hs : s.Orderly) {c : ChartId} {x : Thing}
    (hx : (s.chart c).HasPart x) : x.Placed s ∧ x ≠ .chart c := by
  cases x with
  | edge e => exact ⟨hs.edges c e hx, nofun⟩
  | chart d =>
    refine ⟨hs.placed c d hx, ?_⟩
    rintro ⟨⟩
    exact (hs.distinct c).not_self hx
  | _ => exact hx.elim

/-! ## Parts in a workspace -/

namespace Workspace

variable {given : Thing → Prop} {scope : Scope} {w after : Workspace} {c d : ChartId} {x y : Thing}

/-- Whatever is there carries what it did, but for the chart that changes. -/
theorem ChangeAt.carries_iff (h : w.ChangeAt given c after) (hx : x.Placed w.store)
    (hne : x ≠ .chart c) : after.store.Carries x y ↔ w.store.Carries x y := by
  cases x with
  | edge e =>
    simp only [Store.Carries]
    rw [h.change.edge_eq hx]
  | chart d =>
    simp only [Store.Carries]
    rw [h.chart_eq (fun heq => hne (congrArg Thing.chart heq)) hx]
  | _ => exact Iff.rfl

/-- A chart has had its parts before, or it is the one that changes, and has what they carry. -/
theorem ChangeAt.part_cases (h : w.ChangeAt given c after)
    (hx : (after.store.chart d).HasPart x) :
    (w.store.chart d).HasPart x ∨
      d = c ∧ ∀ y, after.store.Carries x y → (after.store.chart d).Has y := by
  cases h with
  | aside _ hcharts =>
    rw [Store.chart_eq_of_charts_eq hcharts] at hx
    exact .inl hx
  | addChart name =>
    rw [chart_addChart] at hx
    split at hx
    · exact absurd hx (Chart.not_hasPart_empty name)
    · exact .inl hx
  | @updateChart f hf =>
    by_cases hd : d = c ∧ c.index < w.store.charts.size
    · rw [chart_updateChart, if_pos hd] at hx ⊢
      obtain ⟨rfl, -⟩ := hd
      refine (hf.part_cases _ hx).imp_right fun ⟨hne, hcarries⟩ => ⟨rfl, fun y hy => ?_⟩
      apply hcarries
      -- The part is an edge or another chart, which are as before.
      cases x with
      | chart e =>
        have hother : ¬ (e = d ∧ d.index < w.store.charts.size) :=
          fun heq => hne (congrArg Thing.chart heq.1)
        simp only [Store.Carries] at hy
        rwa [chart_updateChart, if_neg hother] at hy
      | _ => exact hy
    · rw [chart_updateChart, if_neg hd] at hx
      exact .inl hx

theorem ChangesAt.part_cases (h : w.ChangesAt given c after) (hw : w.store.Orderly)
    (hgiven : ∀ x, given x → x.Placed w.store) (hx : (after.store.chart d).HasPart x) :
    (w.store.chart d).HasPart x ∨
      d = c ∧ ∀ y, after.store.Carries x y → (after.store.chart d).Has y := by
  induction h with
  | refl => exact .inl hx
  | @tail mid after hmid h ih =>
    rcases h.part_cases hx with hold | hnew
    · -- The part has joined before the last change, which leaves it as it is.
      refine (ih hold).imp_right fun ⟨hd, hcarries⟩ => ⟨hd, fun y hy => ?_⟩
      subst hd
      have hmid : mid.store.Orderly := (ChangesAt.changes hmid).orderly hw hgiven
      obtain ⟨hplaced, hne⟩ := hmid.placed_of_part hold
      rw [h.carries_iff hplaced hne] at hy
      exact (h.change.grows d).has (hcarries y hy)
    · exact .inr hnew

/-- A chart has taken over its parts, from itself or from the chart that it is a copy of, or it has
what they carry. -/
theorem Move.part_cases (h : w.Move scope after) (hw : w.store.Orderly)
    (hgiven : ∀ x, scope.given x → x.Placed w.store) (hx : (after.store.chart c).HasPart x) :
    (∃ d, (d = c ∨ scope.copies d ∧ c.index = w.store.charts.size) ∧
        (w.store.chart d).HasPart x ∧
        ∀ y, (w.store.chart d).Has y → (after.store.chart c).Has y) ∨
      ∀ y, after.store.Carries x y → (after.store.chart c).Has y := by
  rcases h.charts_cases with ⟨d, -, hchanges⟩ | ⟨d, hd, rfl⟩ | ⟨hcharts, -⟩
  · rcases hchanges.part_cases hw hgiven hx with hold | ⟨-, hcarries⟩
    · exact .inl ⟨c, .inl rfl, hold, fun y => (h.grows c).has⟩
    · exact .inr hcarries
  · rw [Workspace.copyChart, chart_addChart] at hx ⊢
    split at hx
    · next hc =>
      rw [if_pos hc]
      exact .inl ⟨d, .inr ⟨hd, hc⟩, hx, fun y => id⟩
    · next hc =>
      rw [if_neg hc]
      exact .inl ⟨c, .inl rfl, hx, fun y => id⟩
  · rw [Store.chart_eq_of_charts_eq hcharts] at hx ⊢
    exact .inl ⟨c, .inl rfl, hx, fun y => id⟩

end Workspace

/-! ## What parts gain -/

namespace Session

variable {s : Session} {steps : List Step} {st : Step} {c d : ChartId} {x y : Thing}

/-- A chart goes on after a step as itself, and as the copy that the step makes of it. -/
def Continues (s : Session) (st : Step) (d c : ChartId) : Prop :=
  d = c ∨ (s.asks st).copies d ∧ c.index = s.workspace.store.charts.size

/-- A chart goes on after a run as itself, as its copies, as copies of these, and so on. -/
def Descends : Session → List Step → ChartId → ChartId → Prop
  | _, [], d, c => d = c
  | s, st :: rest, d, c => ∃ e, s.Continues st d e ∧ Descends (s.step st).1 rest e c

theorem Descends.append_singleton {e : ChartId} (h : s.Descends steps d e)
    (h' : (s.runAll steps).1.Continues st e c) : s.Descends (steps ++ [st]) d c := by
  induction steps generalizing s d with
  | nil =>
    cases h
    exact ⟨c, h', rfl⟩
  | cons first rest ih =>
    obtain ⟨e', hfirst, hrest⟩ := h
    exact ⟨e', hfirst, ih hrest h'⟩

/-- In a run, a step gives a node or a class style to a part of a chart that goes on as another
one. -/
def GainsSince (steps : List Step) (c : ChartId) (x y : Thing) : Prop :=
  ∃ before st rest, steps = before ++ st :: rest ∧
    let s := (runAll {} before).1
    let after := (s.step st).1
    (∃ d, s.Descends (st :: rest) d c ∧ (s.workspace.store.chart d).HasPart x) ∧
      ¬ s.workspace.store.Carries x y ∧ after.workspace.store.Carries x y

theorem GainsSince.append_singleton (h : GainsSince steps d x y)
    (hc : (runAll {} steps).1.Continues st d c) : GainsSince (steps ++ [st]) c x y := by
  obtain ⟨before, st', rest, rfl, ⟨e, hdescends, hpart⟩, hgains⟩ := h
  rw [runAll_append] at hc
  exact ⟨before, st', rest ++ [st], List.append_assoc .., ⟨e, hdescends.append_singleton hc, hpart⟩,
    hgains⟩

/-- Whatever a step does, a chart has taken over its parts, or has what they carry. -/
theorem Orderly.part_step_cases (hs : s.Orderly) (st : Step)
    (hx : ((s.step st).1.workspace.store.chart c).HasPart x) :
    (∃ d, s.Continues st d c ∧ (s.workspace.store.chart d).HasPart x ∧
        ∀ y, (s.workspace.store.chart d).Has y → ((s.step st).1.workspace.store.chart c).Has y) ∨
      ∀ y, (s.step st).1.workspace.store.Carries x y →
        ((s.step st).1.workspace.store.chart c).Has y :=
  (s.move_step st).part_cases hs.store (fun x hx => hs.given x (given_of_asks hx)) hx

/-- However a session is run, a chart has what its parts carry, but for what they have gained since
they joined it. -/
theorem has_or_gainsSince (steps : List Step)
    (hx : ((runAll {} steps).1.workspace.store.chart c).HasPart x)
    (hy : (runAll {} steps).1.workspace.store.Carries x y) :
    ((runAll {} steps).1.workspace.store.chart c).Has y ∨ GainsSince steps c x y := by
  induction steps using List.reverseRecOn generalizing c with
  | nil => exact absurd hx (Chart.not_hasPart_empty _)
  | append_singleton steps st ih =>
    have hs : (runAll {} steps).1.Orderly := orderly_empty.runAll steps
    rw [runAll_append] at hx hy ⊢
    rcases hs.part_step_cases st hx with ⟨d, hd, hpart, hkept⟩ | hcarries
    · -- The part has gained it just now, or had it before.
      by_cases hold : (runAll {} steps).1.workspace.store.Carries x y
      · exact (ih hpart hold).imp (hkept y) (·.append_singleton hd)
      · exact .inr ⟨steps, st, [], rfl, ⟨d, ⟨c, hd, rfl⟩, hpart⟩, hold, hy⟩
    · exact .inl (hcarries y hy)

/-! ## What is added -/

/-- A chart that something is added to has what its parts carry, but for what parts that it has had
before have gained since. -/
theorem has_or_gainsSince_step_add (steps : List Step) {h : Handle} {members : List Handle}
    {list : Membership} {f : Chart → Chart} :
    let s := (runAll {} steps).1
    let after := (s.step (.chart h (.add list members))).1.workspace.store
    s.find Thing.chart? h = .ok c → s.addition c members list = .ok f →
      (after.chart c).HasPart x → after.Carries x y →
      (after.chart c).Has y ∨ (s.workspace.store.chart c).HasPart x ∧ GainsSince steps c x y := by
  intro s after hc hf hx hy
  have hs : s.Orderly := orderly_empty.runAll steps
  have hchange : Yields (s.addition c members list)
      (Chart.Change (s.asks (.chart h (.add list members))).given s.workspace.store c) :=
    yields_addition s c members list fun m hm x hx => ⟨h, list, members, rfl, m, hm, hx⟩
  have hat := Workspace.ChangeAt.updateChart (hchange f hf)
  have hafter : after = (s.workspace.updateChart c f).store :=
    congrArg Workspace.store (workspace_step_add hc hf)
  rw [hafter] at hx hy ⊢
  rcases hat.part_cases hx with hold | ⟨-, hcarries⟩
  · obtain ⟨hplaced, hne⟩ := hs.store.placed_of_part hold
    rw [hat.carries_iff hplaced hne] at hy
    exact (has_or_gainsSince steps hold hy).imp (hat.change.grows c).has fun h => ⟨hold, h⟩
  · exact .inl (hcarries y hy)

/-- However a session is run, once edges have been added to a chart, the nodes of their ends are
members of it, and once subgraphs have been added, the nodes and the class styles of these are; all
but those that the edge or the subgraph, having been a part of the chart or of one that the chart
was copied from, has gained since. -/
theorem carried_runAll (steps : List Step) {h : Handle} {c : ChartId} (members : List Handle)
    (hc : (runAll {} steps).1.find Thing.chart? h = .ok c) :
    let s := (runAll {} steps).1
    let before := s.workspace.store
    let after := fun list => (s.step (.chart h (.add list members))).1.workspace.store
    (∀ es, s.findAll Thing.edge? members = .ok es → ∀ e ∈ es,
      ∀ n ∈ ((after .edge).edge e).nodes, n ∈ ((after .edge).chart c).nodes ∨
        e ∈ (before.chart c).edges ∧ GainsSince steps c (.edge e) (.node n)) ∧
    (∀ cs, s.findAll Thing.chart? members = .ok cs → ∀ d ∈ cs, d ≠ c →
      (∀ n ∈ ((after .subgraph).chart d).nodes, n ∈ ((after .subgraph).chart c).nodes ∨
        d ∈ (before.chart c).subgraphs ∧ GainsSince steps c (.chart d) (.node n)) ∧
      (∀ k ∈ ((after .subgraph).chart d).classes, k ∈ ((after .subgraph).chart c).classes ∨
        d ∈ (before.chart c).subgraphs ∧ GainsSince steps c (.chart d) (.classStyle k))) := by
  intro s before after
  have hs : s.Orderly := orderly_empty.runAll steps
  refine ⟨fun es hes e he n hn => ?_, fun cs hcs d hd hne => ?_⟩
  · have hadd : s.addition c members .edge = .ok (·.addEdges before es) := by
      rw [addition, hes]
      rfl
    have hpart : ((after .edge).chart c).HasPart (.edge e) := by
      rw [hs.chart_step_add hc hadd, Function.update_self, Chart.addEdges_eq]
      simp only [Chart.HasPart, ← withMembers_eq]
      exact mem_withMembers.mpr (.inr he)
    exact has_or_gainsSince_step_add steps hc hadd (y := .node n) hpart ⟨n, hn, rfl⟩
  · have hadd : s.addition c members .subgraph = .ok (·.addSubgraphs before c cs) := by
      rw [addition, hcs]
      rfl
    have hpart : ((after .subgraph).chart c).HasPart (.chart d) := by
      rw [hs.chart_step_add hc hadd, Function.update_self, Chart.addSubgraphs_eq]
      simp only [Chart.HasPart, ← withMembers_eq]
      exact mem_withMembers.mpr (.inr (List.mem_filter.mpr ⟨hd, by simpa using hne⟩))
    refine ⟨fun n hn => ?_, fun k hk => ?_⟩
    · exact has_or_gainsSince_step_add steps hc hadd (y := .node n) hpart hn
    · exact has_or_gainsSince_step_add steps hc hadd (y := .classStyle k) hpart hk

/-- An edge and a subgraph of a chart; the edge is given another end and the subgraph a node and a
class style after they have joined. -/
def gainingParts : List Step :=
  [.newNode "a" "a" "A", .newNode "b" "b" "B", .newNode "x" "x" "X",
    .newClass "hot" "hot" "fill:#f00", .newEdge "e" "a" "b" none, .newChart "inner",
    .newChart "outer", .chart "outer" (.add .edge ["e"]),
    .chart "outer" (.add .subgraph ["inner"]), .edge "e" (.target "x" false none),
    .chart "inner" (.add .node ["x"]), .chart "inner" (.add .classStyle ["hot"])]

/-- The edge is added again: its first end is a member, and the other one is new to the edge. -/
theorem carried_runAll_gainingParts :
    let s := (runAll {} gainingParts).1
    let after := (s.step (.chart "outer" (.add .edge ["e"]))).1.workspace.store
    s.find Thing.chart? "outer" = .ok ⟨1⟩ ∧ s.findAll Thing.edge? ["e"] = .ok [⟨0⟩] ∧
      (after.edge ⟨0⟩).nodes = [⟨0⟩, ⟨2⟩] ∧ ⟨0⟩ ∈ (after.chart ⟨1⟩).nodes ∧
      GainsSince gainingParts ⟨1⟩ (.edge ⟨0⟩) (.node ⟨2⟩) := by
  intro s after
  have hc : s.find Thing.chart? "outer" = .ok ⟨1⟩ := by rfl
  have hes : s.findAll Thing.edge? ["e"] = .ok [⟨0⟩] := by rfl
  have hends : (after.edge ⟨0⟩).nodes = [⟨0⟩, ⟨2⟩] := by rfl
  have hcarried := (carried_runAll gainingParts ["e"] hc).1 _ hes ⟨0⟩ List.mem_cons_self
  refine ⟨hc, hes, hends, by decide +kernel, ?_⟩
  have hnot : ⟨2⟩ ∉ (after.chart ⟨1⟩).nodes := by decide +kernel
  exact ((hcarried ⟨2⟩ (hends ▸ by decide)).resolve_left hnot).2

/-- Neither the new end of the edge nor the new members of the subgraph join the chart as these are
added again. -/
theorem not_joined_gainingParts :
    let s := (runAll {} gainingParts).1
    let after := fun list h => (s.step (.chart "outer" (.add list [h]))).1.workspace.store
    s.find Thing.chart? "outer" = .ok ⟨1⟩ ∧
      s.findAll Thing.edge? ["e"] = .ok [⟨0⟩] ∧
      ⟨2⟩ ∈ ((after .edge "e").edge ⟨0⟩).nodes ∧
      ⟨2⟩ ∉ ((after .edge "e").chart ⟨1⟩).nodes ∧
      s.findAll Thing.chart? ["inner"] = .ok [⟨0⟩] ∧
      ⟨2⟩ ∈ ((after .subgraph "inner").chart ⟨0⟩).nodes ∧
      ⟨2⟩ ∉ ((after .subgraph "inner").chart ⟨1⟩).nodes ∧
      ⟨0⟩ ∈ ((after .subgraph "inner").chart ⟨0⟩).classes ∧
      ⟨0⟩ ∉ ((after .subgraph "inner").chart ⟨1⟩).classes := by
  intro s after
  refine ⟨by rfl, by rfl, by decide +kernel, by decide +kernel, by rfl, by decide +kernel,
    by decide +kernel, by decide +kernel, by decide +kernel⟩

end Session

end Flowchart
