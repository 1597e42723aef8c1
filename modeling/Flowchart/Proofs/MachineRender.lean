import Flowchart.Proofs.Placing
import Flowchart.Proofs.Repeat
import Flowchart.Proofs.Restyling

/-!
# The text of a machine from its chart

Writing out the chart of a machine gives the text that is read off the machine. The lines of the
transitions need an invariant (`Machine.MentionedBy`): the nodes that count as mentioned are those
of the vertices that the transitions before have. The other lines are read off what the chart
holds. The main statement is `Machine.render_eq_directText`.
-/

namespace Flowchart

/-! ## Playing edges and members -/

/-- Members that are all different are declared where they have not been mentioned. -/
theorem playAll_members {s : Store} {ns : List NodeId} (h : ns.Nodup) (seen : Mentioned) :
    (playAll s seen (ns.map .member)).1
      = (ns.filter fun n => n ∉ seen).map fun n => .node ⟨n, true⟩ := by
  induction ns generalizing seen with
  | nil => rfl
  | cons n rest ih =>
    obtain ⟨hn, hrest⟩ := List.nodup_cons.mp h
    rw [List.map_cons, playAll, Event.play]
    by_cases hseen : n ∈ seen
    · rw [if_pos hseen, List.filter_cons_of_neg (by simpa using hseen)]
      exact ih hrest seen
    · -- The node does not come again, so it is no matter that it counts as mentioned from here on.
      have hfilter : (rest.filter fun m => m ∉ seen.add n) = rest.filter fun m => m ∉ seen := by
        apply List.filter_congr
        intro m hm
        have hne : m ≠ n := fun heq => hn (heq ▸ hm)
        simp [Mentioned.mem_add, hne]
      rw [if_neg hseen, List.filter_cons_of_pos (by simpa using hseen), List.map_cons, ← hfilter,
        ← ih hrest]
      simp [Mentioned.mention, hseen]

/-- Where no block ends, each line of the body is one statement. -/
theorem flatMap_bodyStatements_playAll {s : Store} {es : List Event} (h : ∀ c, .closing c ∉ es)
    (seen : Mentioned) :
    (playAll s seen es).1.flatMap s.bodyStatements = (playAll s seen es).1.map .body := by
  induction es generalizing seen with
  | nil => rfl
  | cons e rest ih =>
    have hrest : ∀ c, .closing c ∉ rest := fun c hc => h c (List.mem_cons_of_mem _ hc)
    rw [playAll, List.flatMap_append, List.map_append, ih hrest]
    congr 1
    cases e with
    | closing c => exact absurd List.mem_cons_self (h c)
    | edge | opening => rfl
    | member n =>
      rw [Event.play]
      split <;> rfl

/-! ## The settings -/

/-- Entries that are put in leave something there. -/
theorem Dict.entries_insertAll_eq_nil_iff {α : Type} {es : List (String × α)} :
    (Dict.empty.insertAll es).entries = [] ↔ es = [] := by
  constructor
  · intro h
    induction es using List.reverseRecOn with
    | nil => rfl
    | append_singleton es e _ =>
      have hget := Dict.get?_insert_self (Dict.empty.insertAll es) e.1 e.2
      have hstep : Dict.empty.insertAll (es ++ [e]) = (Dict.empty.insertAll es).insert e.1 e.2 := by
        rw [insertAll, List.foldl_append]
        rfl
      rw [hstep] at h
      rw [get?, h] at hget
      cases hget
  · rintro rfl
    rfl

/-- The object of what some settings set. -/
theorem MachineSettings.toJson_eq (settings : MachineSettings) :
    ((({ theme := settings.theme : Directive }.setCurve settings.curve).setVariables
      settings.themeVariables).toJson) = .object settings.initMembers := by
  obtain ⟨curve, themeVariables, theme, direction, line⟩ := settings
  have htheme : Directive.textMember "theme" theme
      = theme.toList.map fun theme => ("theme", .string theme) := by
    cases theme <;> rfl
  have hvariables : Directive.dictMember "themeVariables"
        ((Dict.ofList themeVariables).map fun _ value => .string value)
      = if themeVariables = [] then []
        else [("themeVariables",
          .object ((Dict.ofList themeVariables).map fun _ value => .string value).entries)] := by
    rw [Directive.dictMember]
    refine if_congr ?_ rfl rfl
    rw [Dict.map, List.map_eq_nil_iff]
    exact Dict.entries_insertAll_eq_nil_iff
  have hcurve : Directive.dictMember "flowchart" (Directive.setCurve {} curve).options
      = curve.toList.map fun curve => ("flowchart", .object [("curve", .string curve.name)]) := by
    cases curve <;> rfl
  rw [initMembers, ← htheme, ← hvariables, ← hcurve, Directive.toJson]
  cases curve <;> exact congrArg (fun ms => Json.Value.object (ms ++ _ ++ _)) (List.append_nil _)

/-- The line about the settings is there exactly if there is something to set. -/
theorem MachineSettings.map_text_directive? (settings : MachineSettings) :
    settings.directive?.toList.map Directive.text = settings.initLines := by
  rw [directive?, initLines]
  by_cases hnone : settings.curve = none ∧ settings.themeVariables = [] ∧ settings.theme = none
  · rw [if_pos hnone, hnone.1, hnone.2.1, hnone.2.2]
    rfl
  · rw [if_neg hnone, if_neg (by simpa [and_assoc] using hnone)]
    show [Directive.text _] = _
    rw [Directive.text, toJson_eq]

/-! ## Transitions and states -/

/-- Of the vertices of a machine those that some transitions have count as mentioned. -/
def Machine.MentionedBy (m : Machine) (w : Workspace) (as : List Arc) (seen : Mentioned) : Prop :=
  ∀ v ∈ m.vertices, m.vertexRef w v ∈ seen ↔ v ∈ as.flatMap m.ends

namespace Drawn

open Machine

variable {m : Machine} {rules : InstalledTable} {line : LineStyle} {w x : Workspace} {c : ChartId}
  {chart : Chart} {v : Vertex} {before : List Vertex} {seen : Mentioned} {e : EdgeId} {a : Arc}
  {earlier : List Arc}
  (h : Drawn m rules line w c m.vertices m.arcs chart x)

include h

theorem node_drawnState {e : String × MachineState} (he : e ∈ m.drawnStates) :
    x.store.node (m.vertexRef w (.state (entryId e))) = entryNode rules e := by
  rw [h.node_ref _ (state_mem_vertices he), vertexNode_of_mem_drawnStates he]

/-- A mention of a vertex, if the nodes that count as mentioned are those of some vertices. -/
theorem text_mention (hv : v ∈ m.vertices) (hseen : m.vertexRef w v ∈ seen ↔ v ∈ before) :
    (seen.mention (m.vertexRef w v)).text x.store
      = m.mentionText (rules.styling x.store) before v := by
  rw [Mention.text, mentionText]
  show (if decide (m.vertexRef w v ∉ seen) = true then (x.store.node (m.vertexRef w v)).declaration
    else (x.store.node (m.vertexRef w v)).id) = _
  rw [h.node_ref v hv, vertexNode_id, declaration_vertexNode]
  by_cases hmem : v ∈ before
  · rw [if_pos hmem, if_neg (by simpa using hseen.mpr hmem)]
  · rw [if_neg hmem, if_pos (by simpa using mt hseen.mp hmem)]

omit h in
/-- The vertices of one more transition. -/
theorem mentionedBy_play (he : x.store.edge e = m.arcEdge w line a)
    (hseen : m.MentionedBy w earlier seen) :
    m.MentionedBy w (earlier ++ [a]) ((Event.edge false e).play x.store seen).2 := by
  intro v hv
  have hnodes : (m.arcEdge w line a).nodes = (m.ends a).map (m.vertexRef w) := rfl
  show _ ∈ (seen.add _).add _ ↔ _
  rw [mem_add_add, he, hnodes, hseen v hv, vertexRef_mem_map hv, List.flatMap_append,
    List.mem_append, List.flatMap_singleton]

/-- The line of one more transition. -/
theorem text_play (ha : a ∈ m.arcs) (he : x.store.edge e = m.arcEdge w line a)
    (hseen : m.MentionedBy w earlier seen) :
    ((Event.edge false e).play x.store seen).1.toList.map (BodyLine.text x.store)
      = [m.arcLine (rules.styling x.store) line earlier a] := by
  have hsource : m.vertex a.state ∈ m.vertices := mem_vertices_of_mem_ends ha (by simp [ends])
  have htarget : m.vertex a.transition.target ∈ m.vertices :=
    mem_vertices_of_mem_ends ha (by simp [ends])
  -- The source counts as mentioned where the target is written.
  have hbetween : m.vertexRef w (m.vertex a.transition.target)
        ∈ seen.add (m.vertexRef w (m.vertex a.state))
      ↔ m.vertex a.transition.target ∈ earlier.flatMap m.ends ++ [m.vertex a.state] := by
    rw [Mentioned.mem_add, hseen _ htarget, vertexRef_inj htarget, List.mem_append,
      List.mem_singleton, or_comm]
  have hfirst := h.text_mention hsource (hseen _ hsource)
  have hsecond := h.text_mention htarget hbetween
  show ["" ++ (x.store.edge e).text ((seen.mention (x.store.edge e).source.node).text x.store)
    (((seen.add (x.store.edge e).source.node).mention
      (x.store.edge e).target.node).text x.store)] = _
  rw [he]
  show ["" ++ (m.arcEdge w line a).text
    ((seen.mention (m.vertexRef w (m.vertex a.state))).text x.store)
    (((seen.add (m.vertexRef w (m.vertex a.state))).mention
      (m.vertexRef w (m.vertex a.transition.target))).text x.store)] = _
  rw [hfirst, hsecond, Edge.text, middle_arcEdge, arcLine, String.empty_append]
  simp only [String.append_assoc]

/-- The lines of some transitions, and what counts as mentioned after them. -/
theorem text_playAll_edges {es : List EdgeId} {as : List Arc}
    (hes : es.map x.store.edge = as.map (m.arcEdge w line)) (has : ∀ a ∈ as, a ∈ m.arcs)
    (hseen : m.MentionedBy w earlier seen) :
    (playAll x.store seen (es.map (.edge false))).1.map (BodyLine.text x.store)
        = as.mapIdx (fun i a => m.arcLine (rules.styling x.store) line (earlier ++ as.take i) a) ∧
      m.MentionedBy w (earlier ++ as) (playAll x.store seen (es.map (.edge false))).2 := by
  -- Of the transitions the first goes over to the earlier ones.
  induction as generalizing es earlier seen with
  | nil =>
    obtain rfl := List.map_eq_nil_iff.mp hes
    rw [List.append_nil]
    exact ⟨rfl, hseen⟩
  | cons a rest ih =>
    obtain ⟨e, es, rfl⟩ := List.exists_cons_of_ne_nil (l := es) (by rintro rfl; cases hes)
    rw [List.map_cons, List.map_cons, List.cons.injEq] at hes
    obtain ⟨he, hes⟩ := hes
    have ha := has a List.mem_cons_self
    obtain ⟨hlines, hafter⟩ := ih hes (fun a ha => has a (List.mem_cons_of_mem _ ha))
      (mentionedBy_play he hseen)
    rw [List.map_cons, playAll, List.mapIdx_cons, List.map_append, h.text_play ha he hseen, hlines]
    constructor
    · simp
    · rwa [List.append_assoc] at hafter

/-- The lines of the nodes that no transition mentions: these are all states. -/
theorem text_playAll_members (hnodes : chart.nodes = m.vertices.map (m.vertexRef w))
    (hseen : m.MentionedBy w m.arcs seen) :
    (playAll x.store seen (chart.nodes.map .member)).1.map (BodyLine.text x.store)
      = m.isolatedLines (rules.styling x.store) := by
  have hnodup : chart.nodes.Nodup := by
    rw [hnodes]
    exact List.Nodup.map_on (fun v hv v' _ => (vertexRef_inj hv).mp) m.nodup_vertices
  have hfilter : chart.nodes.filter (fun n => n ∉ seen)
      = (m.vertices.filter fun v => v ∉ m.arcs.flatMap m.ends).map (m.vertexRef w) := by
    rw [hnodes, List.filter_map]
    congr 1
    apply List.filter_congr
    intro v hv
    exact decide_eq_decide.mpr (not_congr (hseen v hv))
  have hundeclared : ∀ name ∈ m.undeclaredNames m.arcs,
      decide (.undeclared name ∉ m.arcs.flatMap m.ends) = false := by
    intro name hname
    obtain ⟨hnot, a, ha, rfl⟩ := mem_undeclaredNames.mp hname
    apply decide_eq_false
    rw [not_not, ← vertex_of_not_contains hnot]
    exact List.mem_flatMap.mpr ⟨a, ha, by simp [ends]⟩
  rw [playAll_members hnodup, List.map_map, hfilter, List.map_map, filter_vertices hundeclared,
    List.map_map, isolatedLines]
  apply List.map_congr_left
  intro e he
  show (x.store.node (m.vertexRef w (.state (entryId e)))).declaration = _
  rw [h.node_drawnState (List.mem_filter.mp he).1]
  rfl

/-! ## Classes -/

/-- The nodes that carry a class, by their identifiers. -/
theorem map_id_carriers (hnodes : chart.nodes = m.vertices.map (m.vertexRef w)) (k : ClassId) :
    (x.store.carriers c k).map (fun n => (x.store.node n).id)
      = (m.drawnStates.filter fun e => entryClass (rules.styling x.store) e = some k).map
          entryId := by
  have hundeclared : ∀ name ∈ m.undeclaredNames m.arcs,
      ((m.vertexNode rules (.undeclared name)).classStyle == some k) = false := fun _ _ => rfl
  have hfilter : x.store.carriers c k = (m.vertices.filter fun v =>
      (m.vertexNode rules v).classStyle == some k).map (m.vertexRef w) := by
    rw [Store.carriers, h.chart_eq, hnodes, List.filter_map]
    congr 1
    apply List.filter_congr
    intro v hv
    show ((x.store.node (m.vertexRef w v)).classStyle == some k) = _
    rw [h.node_ref v hv]
  have hclass : (m.drawnStates.filter fun e =>
        (m.vertexNode rules (.state (entryId e))).classStyle == some k)
      = m.drawnStates.filter fun e => entryClass (rules.styling x.store) e = some k := by
    apply List.filter_congr
    intro e he
    rw [vertexNode_of_mem_drawnStates he]
    exact beq_eq_decide _ _
  rw [hfilter, filter_vertices hundeclared, hclass, List.map_map, List.map_map]
  apply List.map_congr_left
  intro e he
  show (x.store.node (m.vertexRef w (.state (entryId e)))).id = entryId e
  rw [h.node_drawnState (List.mem_filter.mp he).1]
  rfl

/-- The lines of a class that some state has. -/
theorem text_classStatements (hnodes : chart.nodes = m.vertices.map (m.vertexRef w)) {k : ClassId}
    (hk : k ∈ m.usedClasses (rules.styling x.store)) :
    (x.store.classStatements c k).map (Statement.text x.store)
      = m.classLines (rules.styling x.store) k := by
  have hids := h.map_id_carriers hnodes k
  have hne : x.store.carriers c k ≠ [] := by
    intro hnil
    rw [hnil, List.map_nil] at hids
    obtain ⟨e, he, hclass⟩ := List.mem_filterMap.mp (mem_firstsBy_self.mp hk)
    have hmem : e ∈ m.drawnStates.filter fun e => entryClass (rules.styling x.store) e = some k :=
      List.mem_filter.mpr ⟨he, by simpa using hclass⟩
    rw [List.map_eq_nil_iff.mp hids.symm] at hmem
    exact absurd hmem List.not_mem_nil
  rw [Store.classStatements, if_neg hne, classLines, ← hids]
  rfl

/-- The lines of all classes. -/
theorem text_classes (hnodes : chart.nodes = m.vertices.map (m.vertexRef w))
    (hclasses : chart.classes = entryClasses rules m.states.entries) :
    (chart.classes.flatMap (x.store.classStatements c)).map (Statement.text x.store)
      = (m.usedClasses (rules.styling x.store)).flatMap
          (m.classLines (rules.styling x.store)) := by
  have hused : chart.classes = m.usedClasses (rules.styling x.store) :=
    hclasses.trans (withMembers_nil _)
  rw [hused, List.map_flatMap]
  apply List.flatMap_congr
  intro k hk
  exact h.text_classStatements hnodes hk

/-! ## The other lines -/

/-- The line about the settings. -/
theorem text_directives {settings : MachineSettings} {ds : List DirectiveId}
    (hds : ds.map w.store.directive = settings.directive?.toList) :
    (ds.map Statement.directive).map (Statement.text x.store) = settings.initLines := by
  rw [← settings.map_text_directive?, ← hds, List.map_map, List.map_map]
  apply List.map_congr_left
  intro d _
  show (x.store.directives.get d.index).text = (w.store.directives.get d.index).text
  rw [h.directives_eq]

/-- No transition has a style of its own. -/
theorem linkStatements_eq_nil (hedges : chart.edges = arcRefs w m.arcs.length) :
    x.store.linkStatements chart.edges = [] := by
  apply List.filterMap_eq_nil_iff.mpr
  rintro ⟨e, number⟩ he
  have hmem : x.store.edge e ∈ chart.edges.map x.store.edge :=
    List.mem_map_of_mem (List.fst_mem_of_mem_zipIdx he)
  rw [hedges, h.map_edge] at hmem
  obtain ⟨a, -, ha⟩ := List.mem_map.mp hmem
  show (x.store.edge e).link.map _ = none
  rw [← ha]
  rfl

/-- The lines of the transitions and of the states that these do not mention. -/
theorem text_body (hedges : chart.edges = arcRefs w m.arcs.length)
    (hnodes : chart.nodes = m.vertices.map (m.vertexRef w))
    (hseen : ∀ v ∈ m.vertices, m.vertexRef w v ∉ seen) :
    ((playAll x.store seen
        (chart.edges.map (.edge false) ++ chart.nodes.map .member)).1.flatMap
          x.store.bodyStatements).map (Statement.text x.store)
      = m.arcLines (rules.styling x.store) line ++ m.isolatedLines (rules.styling x.store) := by
  have hclosing : ∀ c, Event.closing c ∉ chart.edges.map (.edge false) ++ chart.nodes.map .member :=
    by simp
  have hes : chart.edges.map x.store.edge = m.arcs.map (m.arcEdge w line) := by
    rw [hedges, h.map_edge]
  have hnone : m.MentionedBy w [] seen :=
    fun v hv => iff_of_false (hseen v hv) List.not_mem_nil
  obtain ⟨harcs, hafter⟩ := h.text_playAll_edges hes (fun _ ha => ha) hnone
  have hmembers := h.text_playAll_members hnodes hafter
  rw [flatMap_bodyStatements_playAll hclosing, List.map_map, playAll_append, List.map_append]
  exact congrArg₂ (· ++ ·) harcs hmembers

end Drawn

/-! ## All lines -/

open Machine in
/-- The lines of a machine that has been drawn. -/
theorem Drawn.map_text_statements {m : Machine} {rules : InstalledTable} {w x : Workspace}
    {c : ChartId} {settings : MachineSettings} {name : String} {ds : List DirectiveId}
    (h : Drawn m rules settings.line w c m.vertices m.arcs
      (m.placedChart rules w (settings.startChart name ds) m.states.entries m.arcs) x)
    (hds : ds.map w.store.directive = settings.directive?.toList)
    (hseen : ∀ n ∈ w.seen, n.index < w.store.nodes.size) :
    ["---", "title: " ++ m.id, "---"]
        ++ (x.store.statements x.seen (.mk c [])).map (Statement.text x.store)
      = m.directLines (rules.styling x.store) settings := by
  have hunseen : ∀ v ∈ m.vertices, m.vertexRef w v ∉ x.seen := by
    intro v _ hv
    rw [h.seen_eq] at hv
    have hlt : w.store.nodes.size + m.vertices.idxOf v < w.store.nodes.size := hseen _ hv
    omega
  have hbody : ((playAll x.store x.seen ((arcRefs w m.arcs.length).map (.edge false)
        ++ (m.vertices.map (m.vertexRef w)).map .member)).1.flatMap
          x.store.bodyStatements).map (Statement.text x.store)
      = m.arcLines (rules.styling x.store) settings.line
        ++ m.isolatedLines (rules.styling x.store) :=
    h.text_body rfl rfl hunseen
  have hdirectives := h.text_directives hds
  have hclasses : ((entryClasses rules m.states.entries).flatMap
        (x.store.classStatements c)).map (Statement.text x.store)
      = (m.usedClasses (rules.styling x.store)).flatMap
          (m.classLines (rules.styling x.store)) :=
    h.text_classes rfl rfl
  have hlinks := h.linkStatements_eq_nil rfl
  have hstatements : x.store.statements x.seen (.mk c [])
      = ds.map .directive ++ [.header (settings.direction.getD .topBottom)]
        ++ (playAll x.store x.seen ((arcRefs w m.arcs.length).map (.edge false)
            ++ (m.vertices.map (m.vertexRef w)).map .member)).1.flatMap x.store.bodyStatements
        ++ (entryClasses rules m.states.entries).flatMap (x.store.classStatements c)
        ++ [.defaultLink transitionLink] := by
    simp only [Store.statements, Region.chart, Region.script, Region.blocks, Region.links,
      Region.linksOfAll, h.chart_eq, List.append_nil, hlinks]
    simp [placedChart, MachineSettings.startChart, vertices]
  have hlast : Statement.text x.store (.defaultLink transitionLink)
      = "linkStyle default stroke:#fff" := by
    show transitionLink.definition "default" = "linkStyle default stroke:#fff"
    decide
  rw [hstatements, directLines]
  simp only [List.map_append, hdirectives, hbody, hclasses, List.map_singleton, hlast,
    List.append_assoc]
  rfl

/-! ## The text -/

/-- The title and some lines that follow it. -/
theorem titleBlock_append (id : String) {lines : List String} (h : lines ≠ []) :
    titleBlock id ++ "\n" ++ "\n".intercalate lines
      = "\n".intercalate (["---", "title: " ++ id, "---"] ++ lines) := by
  have hfirst : "---\ntitle: " = "---" ++ "\n" ++ "title: " := by decide
  have hlast : "\n---" = "\n" ++ "---" := by decide
  rw [String.intercalate_append_of_ne_nil (List.cons_ne_nil _ _) h, String.intercalate_cons_cons,
    String.intercalate_cons_cons, String.intercalate_singleton, titleBlock, hfirst, hlast]
  simp only [String.append_assoc]

/-- Class styles that are the same give the same styling. -/
theorem InstalledTable.styling_eq {rules : InstalledTable} {s s' : Store}
    (h : s.classes = s'.classes) : rules.styling s = rules.styling s' := by
  have hstyle : s.classStyle = s'.classStyle := by
    funext k
    rw [Store.classStyle, h]
    rfl
  rw [styling, styling, hstyle]

theorem Workspace.renderMachine_eq {m : Machine} {settings : MachineSettings}
    (hset : MachineSettings.ofTags m.tags = .ok settings) (w : Workspace) (rules : InstalledTable)
    (hseen : ∀ n ∈ w.seen, n.index < w.store.nodes.size) :
    w.renderMachine m rules = .ok (m.directText (rules.styling w.store) settings) := by
  obtain ⟨c, name, ds, base, x, hdraw, hbase, hdrawn⟩ := w.drawMachine_eq_ok rules hset
  have hseenBase : ∀ n ∈ base.seen, n.index < base.store.nodes.size := by
    rw [hbase.seen_eq, hbase.nodes_eq]
    exact hseen
  have hlines := hdrawn.map_text_statements hbase.directives_eq hseenBase
  have hne : (x.store.statements x.seen (.mk c [])).map (Statement.text x.store) ≠ [] := by
    simp [Store.statements]
  rw [InstalledTable.styling_eq (hdrawn.classes_eq.trans hbase.classes_eq)] at hlines
  rw [renderMachine, hdraw, Machine.directText, ← hlines, ← titleBlock_append _ hne]
  rfl

/-- The text of a machine whose tags are all right is the one that is read off the machine: for
every style table, and also where rules share class styles of a store. -/
theorem Machine.render_eq_directText {m : Machine} {settings : MachineSettings}
    (hset : MachineSettings.ofTags m.tags = .ok settings) :
    (∀ t : StyleTable, m.render t = .ok (m.directText t.styling settings)) ∧
      ∀ (w : Workspace) (rules : InstalledTable),
        (∀ n ∈ w.seen, n.index < w.store.nodes.size) →
          w.renderMachine m rules = .ok (m.directText (rules.styling w.store) settings) := by
  constructor
  · intro t
    have hrender : m.render t = ({ store := (t.install {}).2 } : Workspace).renderMachine m
      (t.install {}).1 := rfl
    rw [hrender, Workspace.renderMachine_eq hset _ _ fun _ hn => absurd hn List.not_mem_nil,
      directText_of_restyles (t.restyles_install {})]
  · exact Workspace.renderMachine_eq hset

/-- A machine in which the first two states share an identifier and both have transitions, which
lead to the first one and to a state that is not declared; the last state has an empty label and no
transitions. -/
def Machine.detours : Machine where
  id := "detours"
  tags := ["curve:basis", "link:dotted"]
  states := ⟨[
    ("in use", { kind := some "final", on := ⟨[("stay", { target := "in use" }),
      ("leave", { target := "gone", description := some "a|b" })]⟩ }),
    ("in  use", { tags := ["parallel"], on := ⟨[("back", { target := "in use" }),
      ("lose", { target := "gone", description := some "late" })]⟩ }),
    ("idle", { tags := ["history"], description := some "" })]⟩

/-- A workspace with a node that counts as mentioned, and one class style. -/
def Workspace.oneClass : Workspace where
  store :=
    { nodes := ⟨#[{ id := "in_use" }]⟩
      classes := ⟨#[{ name := "busy", properties := { color := some "red" } }]⟩ }
  seen := [⟨0⟩]

/-- The machine with the built-in table, and with two rules for one class. -/
theorem Machine.render_detours :
    MachineSettings.ofTags detours.tags = .ok { curve := some .basis, line := .dotted } ∧
      detours.render .builtIn = .ok ("\n".intercalate ["---", "title: detours", "---",
        "%%\x7binit: \x7b\x22flowchart\x22:\x7b\x22curve\x22:\x22basis\x22\x7d\x7d\x7d%%",
        "flowchart TB",
        "in_use(((in use))) -.-> in_use",
        "in_use -.->|\x22a|b\x22| gone",
        "in_use -.-> in_use",
        "in_use -.->|late| gone",
        "idle",
        "classDef final fill:#1f2937,stroke:#fff,stroke-width:3px",
        "class in_use final",
        "classDef history stroke-dasharray:4 2",
        "class idle history",
        "linkStyle default stroke:#fff"]) ∧
      (∀ n ∈ Workspace.oneClass.seen, n.index < Workspace.oneClass.store.nodes.size) ∧
      Workspace.oneClass.renderMachine detours
          ⟨[("final", ⟨0⟩, some .circle), ("history", ⟨0⟩, none)]⟩
        = .ok ("\n".intercalate ["---", "title: detours", "---",
          "%%\x7binit: \x7b\x22flowchart\x22:\x7b\x22curve\x22:\x22basis\x22\x7d\x7d\x7d%%",
          "flowchart TB",
          "in_use((in use)) -.-> in_use",
          "in_use -.->|\x22a|b\x22| gone",
          "in_use -.-> in_use",
          "in_use -.->|late| gone",
          "idle",
          "classDef busy color:red",
          "class in_use,idle busy",
          "linkStyle default stroke:#fff"]) := by
  have hset : MachineSettings.ofTags detours.tags
      = .ok { curve := some .basis, line := .dotted } := rfl
  have hseen : ∀ n ∈ Workspace.oneClass.seen,
      n.index < Workspace.oneClass.store.nodes.size := by decide
  obtain ⟨htable, hstore⟩ := render_eq_directText hset
  refine ⟨hset, (htable _).trans ?_, hseen, (hstore _ _ hseen).trans ?_⟩
  · exact congrArg Except.ok (by decide +kernel)
  · exact congrArg Except.ok (by decide +kernel)

end Flowchart
