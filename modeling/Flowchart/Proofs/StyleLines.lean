import Flowchart.Proofs.MachineChart
import Flowchart.Proofs.Nesting

/-!
# The lines that define a style

A line that defines the style of nodes, of edges or of the frame of a subgraph ends in the
declarations of the style, and a style may set nothing at all. Only the line of a frame is left out
then. The main statement is `Machine.declared_statements_iff`: every such line in the text of
a machine has a declaration exactly if every rule that one of its states is drawn with sets
something, and in the text of a chart exactly if every style that the chart defines does.
-/

namespace Flowchart

/-! ## Declarations -/

namespace StyleProperties

variable {p : StyleProperties} {q : StyleProperty} {value : String}

/-- Some property is set. -/
def Declares (p : StyleProperties) : Prop :=
  ∃ q value, p.get q = some value

theorem isEmpty_eq_false_iff : p.isEmpty = false ↔ p.Declares := by
  rw [isEmpty, List.all_eq_false]
  constructor
  · rintro ⟨q, -, hq⟩
    exact ⟨q, Option.ne_none_iff_exists'.mp fun hnone => hq (by rw [hnone]; rfl)⟩
  · rintro ⟨q, value, hq⟩
    exact ⟨q, by cases q <;> decide, by simp [hq]⟩

instance (p : StyleProperties) : Decidable p.Declares :=
  decidable_of_iff _ isEmpty_eq_false_iff

theorem declaration_ne_empty (q : StyleProperty) (value : String) : declaration q value ≠ "" := by
  simp [declaration]

/-- The declarations of a style that sets something begin with one of them. -/
theorem Declares.exists_declarations_eq (h : p.Declares) :
    ∃ q value rest, p.declarations = declaration q value ++ rest := by
  obtain ⟨q, value, hq⟩ := h
  have hmem : declaration q value ∈ p.declarationList :=
    List.mem_filterMap.mpr ⟨q, by cases q <;> decide, by rw [hq]; rfl⟩
  obtain ⟨d, ds, hlist⟩ := List.exists_cons_of_ne_nil (List.ne_nil_of_mem hmem)
  obtain ⟨first, -, hfirst⟩ := List.mem_filterMap.mp (hlist ▸ List.mem_cons_self)
  obtain ⟨v, -, rfl⟩ := Option.map_eq_some_iff.mp hfirst
  rw [declarations, hlist]
  cases ds with
  | nil => exact ⟨first, v, "", by rw [String.intercalate_singleton, String.append_empty]⟩
  | cons e es =>
    refine ⟨first, v, "," ++ ",".intercalate (e :: es), ?_⟩
    rw [String.intercalate_cons_cons, String.append_assoc]

theorem declarations_eq_empty_iff : p.declarations = "" ↔ ¬ p.Declares := by
  constructor
  · intro hempty h
    obtain ⟨q, value, rest, heq⟩ := h.exists_declarations_eq
    rw [heq, String.append_eq_empty_iff] at hempty
    exact declaration_ne_empty q value hempty.1
  · intro h
    have hnil : p.declarationList = [] := by
      apply List.filterMap_eq_nil_iff.mpr
      intro q _
      cases hq : p.get q with
      | none => rfl
      | some value => exact absurd ⟨q, value, hq⟩ h
    rw [declarations, hnil, String.intercalate_nil]

end StyleProperties

open StyleProperties

variable {s : Store} {seen : Mentioned} {r : Region} {c : ChartId} {k : ClassId}

/-! ## Statements about a style -/

namespace Statement

variable {st : Statement} {head : String} {p : StyleProperties}

/-- What a statement about a style begins with, and the properties that it declares. -/
def styling? (s : Store) : Statement → Option (String × StyleProperties)
  | frame c k => some ("style " ++ (s.chart c).name, (s.classStyle k).properties)
  | defaultClass k => some ("classDef default", (s.classStyle k).properties)
  | classDefinition k => some ("classDef " ++ (s.classStyle k).name, (s.classStyle k).properties)
  | defaultLink l => some ("linkStyle default", l.properties)
  | link number l => some ("linkStyle " ++ toString number, l.properties)
  | directive _ | header _ | body _ | classMembers _ _ => none

/-- In the line of a statement, if it is about a style, a declaration follows the beginning. -/
def Declared (s : Store) (st : Statement) : Prop :=
  ∀ head p, st.styling? s = some (head, p) →
    ∃ q value rest, st.text s = head ++ " " ++ (declaration q value ++ rest)

theorem text_eq_of_styling? (h : st.styling? s = some (head, p)) :
    st.text s = head ++ " " ++ p.declarations := by
  cases st with
  | directive | header | body | classMembers => cases h
  | frame | defaultClass | classDefinition | defaultLink | link =>
    obtain ⟨rfl, rfl⟩ := Prod.mk.inj (Option.some.inj h)
    rfl

theorem declared_iff (h : st.styling? s = some (head, p)) : st.Declared s ↔ p.Declares := by
  rw [Declared, text_eq_of_styling? h]
  constructor
  · intro hall
    obtain ⟨q, value, rest, heq⟩ := hall head p h
    by_contra hnot
    have hempty := (String.append_right_inj _).mp heq
    rw [declarations_eq_empty_iff.mpr hnot, eq_comm, String.append_eq_empty_iff] at hempty
    exact declaration_ne_empty q value hempty.1
  · intro hp head' p' h'
    obtain ⟨rfl, rfl⟩ := Prod.mk.inj (Option.some.inj (h.symm.trans h'))
    obtain ⟨q, value, rest, heq⟩ := hp.exists_declarations_eq
    exact ⟨q, value, rest, by rw [heq]⟩

theorem declared_of_styling?_eq_none (h : st.styling? s = none) : st.Declared s := by
  intro head p h'
  rw [h] at h'
  cases h'

end Statement

/-! ## The statements of a chart -/

namespace Store

open Statement

/-- Every style that the text of a region defines sets a property. A style of frames is not among
them. -/
structure StylesDeclare (s : Store) (r : Region) : Prop where
  defaultClass : ∀ k ∈ (s.chart r.chart).defaultClass, (s.classStyle k).properties.Declares
  classes : ∀ k ∈ (s.chart r.chart).classes, (s.classStyle k).properties.Declares
  defaultLink : ∀ l ∈ (s.chart r.chart).defaultLink, l.properties.Declares
  links : ∀ e ∈ r.links s, ∀ l ∈ (s.edge e).link, l.properties.Declares

/-- The line about a frame is left out if the style sets nothing. -/
theorem declared_frameOf (s : Store) (c : ChartId) : ∀ st ∈ s.frameOf c, st.Declared s := by
  intro st hst
  unfold frameOf at hst
  split at hst
  · split at hst
    · cases hst
    · next hne =>
      obtain rfl := List.mem_singleton.mp hst
      exact (declared_iff rfl).mpr (not_not.mp (mt declarations_eq_empty_iff.mpr hne))
  · cases hst

theorem declared_bodyStatements (s : Store) (line : BodyLine) :
    ∀ st ∈ s.bodyStatements line, st.Declared s := by
  have hbody : (Statement.body line).Declared s := declared_of_styling?_eq_none rfl
  cases line with
  | closing c => exact List.forall_mem_cons.mpr ⟨hbody, s.declared_frameOf c⟩
  | edge | node | opening => exact List.forall_mem_singleton.mpr hbody

theorem declared_classStatements_iff :
    (∀ st ∈ s.classStatements c k, st.Declared s) ↔ (s.classStyle k).properties.Declares := by
  have hdefinition : (Statement.classDefinition k).Declared s
      ↔ (s.classStyle k).properties.Declares := declared_iff rfl
  rw [classStatements, List.forall_mem_cons, hdefinition]
  refine and_iff_left fun st hst => ?_
  split at hst
  · cases hst
  · obtain rfl := List.mem_singleton.mp hst
    exact declared_of_styling?_eq_none rfl

theorem declared_linkStatements_iff {es : List EdgeId} :
    (∀ st ∈ s.linkStatements es, st.Declared s)
      ↔ ∀ e ∈ es, ∀ l ∈ (s.edge e).link, l.properties.Declares := by
  constructor
  · intro h e he l hl
    obtain ⟨number, hnumber⟩ := List.getElem?_of_mem he
    have hmem : .link number l ∈ s.linkStatements es :=
      List.mem_filterMap.mpr ⟨(e, number), List.mk_mem_zipIdx_iff_getElem?.mpr hnumber,
        Option.map_eq_some_iff.mpr ⟨l, hl, rfl⟩⟩
    exact (declared_iff rfl).mp (h _ hmem)
  · intro h st hst
    obtain ⟨⟨e, number⟩, he, hst⟩ := List.mem_filterMap.mp hst
    obtain ⟨l, hl, rfl⟩ := Option.map_eq_some_iff.mp hst
    exact (declared_iff rfl).mpr (h e (List.fst_mem_of_mem_zipIdx he) l hl)

/-- The statement about a style that a chart may have for all its nodes or edges. -/
theorem declared_default_iff {α : Type} {style : Option α} {f : α → Statement} {head : String}
    {g : α → StyleProperties} (h : ∀ a, (f a).styling? s = some (head, g a)) :
    (∀ st ∈ style.toList.map f, st.Declared s) ↔ ∀ a ∈ style, (g a).Declares := by
  rw [List.forall_mem_map]
  exact forall_congr' fun a => imp_congr Option.mem_toList (declared_iff (h a))

/-- Only the styles of nodes and of edges can be without declarations in a text. -/
theorem forall_declared_iff :
    (∀ st ∈ s.statements seen r, st.Declared s) ↔ s.StylesDeclare r := by
  have hdirectives : ∀ st ∈ (s.chart r.chart).directives.map .directive, Statement.Declared s st :=
    List.forall_mem_map.mpr fun _ _ => declared_of_styling?_eq_none rfl
  have hheader : ∀ st ∈ [.header (s.chart r.chart).direction], Statement.Declared s st :=
    List.forall_mem_singleton.mpr (declared_of_styling?_eq_none rfl)
  have hbody : ∀ line ∈ (playAll s seen (r.script s false)).1,
      ∀ st ∈ s.bodyStatements line, st.Declared s := fun line _ => s.declared_bodyStatements line
  simp only [statements, List.forall_mem_append, List.forall_mem_flatMap,
    declared_default_iff (f := .defaultClass) fun _ => rfl,
    declared_default_iff (f := .defaultLink) fun _ => rfl,
    declared_linkStatements_iff, declared_classStatements_iff]
  constructor
  · rintro ⟨⟨⟨⟨-, hclass⟩, hclasses⟩, hlink⟩, hlinks⟩
    exact ⟨hclass, hclasses, hlink, hlinks⟩
  · rintro ⟨hclass, hclasses, hlink, hlinks⟩
    exact ⟨⟨⟨⟨⟨⟨hdirectives, hheader⟩, hbody⟩, hclass⟩, hclasses⟩, hlink⟩, hlinks⟩

/-- Statements about frames stand in the body, so they are there with declarations only. -/
theorem declared_of_frame_mem (h : .frame c k ∈ s.statements seen r) :
    Statement.Declared s (.frame c k) := by
  simp only [statements, List.mem_append, List.mem_map, List.mem_singleton, reduceCtorEq, and_false,
    exists_false, false_or, or_false] at h
  rcases h with (hbody | hclasses) | hlinks
  · obtain ⟨line, -, hline⟩ := List.mem_flatMap.mp hbody
    exact s.declared_bodyStatements line _ hline
  · obtain ⟨k', -, hk⟩ := List.mem_flatMap.mp hclasses
    simp only [classStatements, List.mem_cons, reduceCtorEq, false_or] at hk
    split at hk <;> simp at hk
  · obtain ⟨⟨e, number⟩, -, hst⟩ := List.mem_filterMap.mp hlinks
    obtain ⟨l, -, hl⟩ := Option.map_eq_some_iff.mp hst
    cases hl

end Store

/-! ## The statements of a machine -/

/-- Once a table is in a store, the class of a state has the style of the rule of the state. -/
theorem StyleTable.map_classStyle_forState? (t : StyleTable) (s : Store) (state : MachineState) :
    ((t.install s).1.forState? state).map (fun rule => (t.install s).2.classStyle rule.1)
      = (t.forState? state).map StyleRule.style := by
  have hrule := congrFun (t.forState?_install s) state
  rw [hrule, Dict.forState?_eq_bind t]
  cases (state.kind.toList ++ state.tags).find? t.contains with
  | none => rfl
  | some tag =>
    simp only [Option.bind_some]
    cases hr : t.get? tag with
    | none => rfl
    | some rule => exact congrArg some (classStyle_installRules hr)

open Store Machine in
/-- The chart of a machine defines the styles of the rules that its states are drawn with, and the
style of all transitions, which sets a color. -/
theorem Drawn.stylesDeclare_iff {m : Machine} {rules : InstalledTable} {settings : MachineSettings}
    {w x : Workspace} {name : String} {ds : List DirectiveId}
    (h : Drawn m rules settings.line w c m.vertices m.arcs
      (m.placedChart rules w (settings.startChart name ds) m.states.entries m.arcs) x) :
    x.store.StylesDeclare (.mk c []) ↔ ∀ e ∈ m.drawnStates, ∀ rule ∈ rules.forState? e.2,
      (x.store.classStyle rule.1).properties.Declares := by
  have hclasses : ∀ k, k ∈ (x.store.chart c).classes
      ↔ ∃ e ∈ m.drawnStates, ∃ rule ∈ rules.forState? e.2, rule.1 = k := by
    intro k
    rw [h.depicted.classes_eq, mem_firstsBy_self, List.mem_filterMap]
    simp only [Option.map_eq_some_iff, Option.mem_def]
  constructor
  · intro hall e he rule hrule
    exact hall.classes _ ((hclasses _).mpr ⟨e, he, rule, hrule, rfl⟩)
  · intro hall
    refine
      { defaultClass := fun k hk => ?_
        classes := fun k hk => ?_
        defaultLink := fun l hl => ?_
        links := fun e he l hl => ?_ }
    · rw [Region.chart, h.chart_eq] at hk
      cases hk
    · obtain ⟨e, he, rule, hrule, rfl⟩ := (hclasses k).mp hk
      exact hall e he rule hrule
    · rw [Region.chart, h.chart_eq] at hl
      obtain rfl := Option.mem_some.mp hl
      decide
    · have hmem : x.store.edge e ∈ (x.store.chart c).edges.map x.store.edge := by
        rw [Region.links, Region.linksOfAll, List.append_nil] at he
        exact List.mem_map_of_mem he
      rw [h.depicted.map_edge] at hmem
      obtain ⟨a, -, ha⟩ := List.mem_map.mp hmem
      rw [← ha] at hl
      cases hl

/-- The lines about styles in the text of a machine whose tags are all right: they have declarations
if every rule does that a state is drawn with. -/
theorem Machine.declared_buildChart_iff {m : Machine} {settings : MachineSettings}
    (hset : MachineSettings.ofTags m.tags = .ok settings) (t : StyleTable) :
    ∃ c x, ({} : Workspace).buildChart m t = .ok (c, x) ∧
      m.render t = .ok (titleBlock m.id ++ "\n" ++ x.store.renderRegion x.seen (.mk c [])) ∧
      ((∀ st ∈ x.store.statements x.seen (.mk c []), st.Declared x.store)
        ↔ ∀ e ∈ m.drawnStates, ∀ rule ∈ t.forState? e.2, rule.style.properties.Declares) := by
  obtain ⟨c, name, ds, base, x, hdraw, hbase, hdrawn⟩ :=
    ({ store := (t.install {}).2 } : Workspace).drawMachine_eq_ok (t.install {}).1 hset
  refine ⟨c, x, hdraw, ?_, ?_⟩
  · show ({ store := (t.install {}).2 } : Workspace).renderMachine m (t.install {}).1 = _
    rw [Workspace.renderMachine, hdraw]
    rfl
  · have hclass (k : ClassId) : x.store.classStyle k = (t.install {}).2.classStyle k := by
      rw [Store.classStyle, hdrawn.classes_eq, hbase.classes_eq]
      rfl
    rw [Store.forall_declared_iff, hdrawn.stylesDeclare_iff]
    refine forall₂_congr fun e _ => ?_
    calc (∀ rule ∈ (t.install {}).1.forState? e.2, (x.store.classStyle rule.1).properties.Declares)
        ↔ ∀ style ∈ ((t.install {}).1.forState? e.2).map
            fun rule => (t.install {}).2.classStyle rule.1, style.properties.Declares := by
          simp only [hclass, Option.forall_mem_map]
      _ ↔ ∀ style ∈ (t.forState? e.2).map StyleRule.style, style.properties.Declares := by
          rw [t.map_classStyle_forState?]
      _ ↔ ∀ rule ∈ t.forState? e.2, rule.style.properties.Declares := Option.forall_mem_map

/-- A state is drawn with one of the rules of the table. -/
theorem StyleTable.exists_of_mem_forState? {t : StyleTable} {state : MachineState}
    {rule : StyleRule} (h : rule ∈ t.forState? state) : ∃ tag, (tag, rule) ∈ t.entries := by
  rw [Dict.forState?_eq_bind, Option.mem_def, Option.bind_eq_some_iff] at h
  obtain ⟨tag, -, hget⟩ := h
  obtain ⟨before, after, hentries, -⟩ := List.lookup_eq_some_iff.mp hget
  exact ⟨tag, by simp [hentries]⟩

/-- With a table in which every rule sets something, all lines about styles have declarations. -/
theorem Machine.declared_of_forall_declares {m : Machine} {settings : MachineSettings}
    (hset : MachineSettings.ofTags m.tags = .ok settings) {t : StyleTable}
    (ht : ∀ e ∈ t.entries, e.2.style.properties.Declares) :
    ∃ c x, ({} : Workspace).buildChart m t = .ok (c, x) ∧
      m.render t = .ok (titleBlock m.id ++ "\n" ++ x.store.renderRegion x.seen (.mk c [])) ∧
      ∀ st ∈ x.store.statements x.seen (.mk c []), st.Declared x.store := by
  obtain ⟨c, x, hbuild, hrender, hiff⟩ := declared_buildChart_iff hset t
  refine ⟨c, x, hbuild, hrender, hiff.mpr fun e _ rule hrule => ?_⟩
  obtain ⟨tag, hmem⟩ := StyleTable.exists_of_mem_forState? hrule
  exact ht _ hmem

example : ∀ e ∈ StyleTable.builtIn.entries, e.2.style.properties.Declares := by decide +kernel

/-! ## The lines of a text -/

/-- A line that defines a style may be without declarations. The chart of a machine has no such line
exactly if every rule that a state is drawn with sets something. More generally, a chart without
cycles has one for each style of its nodes and edges that sets nothing, and none about a frame. -/
theorem Machine.declared_statements_iff {m : Machine} {settings : MachineSettings}
    (hset : MachineSettings.ofTags m.tags = .ok settings) (t : StyleTable) :
    (∃ c x, ({} : Workspace).buildChart m t = .ok (c, x) ∧
      m.render t = .ok (titleBlock m.id ++ "\n" ++ "\n".intercalate
        ((x.store.statements x.seen (.mk c [])).map (Statement.text x.store))) ∧
      ((∀ st ∈ x.store.statements x.seen (.mk c []), st.Declared x.store)
        ↔ ∀ e ∈ m.drawnStates, ∀ rule ∈ t.forState? e.2, rule.style.properties.Declares)) ∧
    ∀ (s : Store) (seen : Mentioned) (c : ChartId), s.Acyclic c → ∃ r, s.region? c = some r ∧
      (s.render? seen c).map (·.1)
        = some ("\n".intercalate ((s.statements seen r).map (Statement.text s))) ∧
      ((∀ st ∈ s.statements seen r, st.Declared s) ↔ s.StylesDeclare r) ∧
      ∀ d k, .frame d k ∈ s.statements seen r → Statement.Declared s (.frame d k) := by
  refine ⟨declared_buildChart_iff hset t, fun s seen c h => ?_⟩
  obtain ⟨r, hr, -⟩ := h.exists_region
  refine ⟨r, hr, ?_, Store.forall_declared_iff, fun _ _ => Store.declared_of_frame_mem⟩
  rw [Store.render?, hr]
  rfl

/-- A chart, the third, with two subgraphs. The style of the first one's frame sets a color, that of
the second one's sets nothing. -/
def Store.framedTwice : Store where
  nodes := ⟨#[{ id := "a" }, { id := "b" }]⟩
  edges := ⟨#[{ Edge.arrowTo ⟨0⟩ ⟨1⟩ with
    link := some { name := "red", properties := { stroke := some "#f00" } } }]⟩
  classes := ⟨#[{ name := "gray", properties := { fill := some "#eee" } }, { name := "plain" }]⟩
  charts := ⟨#[{ name := "left", edges := [⟨0⟩], style := some ⟨0⟩ },
    { name := "right", nodes := [⟨0⟩], style := some ⟨1⟩ },
    { name := "outer", subgraphs := [⟨0⟩, ⟨1⟩] }]⟩

/-- A machine with the built-in table, and a chart with a frame and an edge that are styled: all
lines that define styles have declarations. -/
theorem Machine.declared_detours :
    MachineSettings.ofTags detours.tags = .ok { curve := some .basis, line := .dotted } ∧
      (∃ c x, ({} : Workspace).buildChart detours .builtIn = .ok (c, x) ∧
        ∀ st ∈ x.store.statements x.seen (.mk c []), st.Declared x.store) ∧
      Store.framedTwice.Acyclic ⟨2⟩ ∧
      ∃ r, Store.framedTwice.region? ⟨2⟩ = some r ∧
        (∀ st ∈ Store.framedTwice.statements [] r, st.Declared Store.framedTwice) ∧
        .frame ⟨0⟩ ⟨0⟩ ∈ Store.framedTwice.statements [] r ∧
        Statement.Declared Store.framedTwice (.frame ⟨0⟩ ⟨0⟩) := by
  have hset : MachineSettings.ofTags detours.tags
      = .ok { curve := some .basis, line := .dotted } := rfl
  have hacyclic : Store.framedTwice.Acyclic ⟨2⟩ := Store.region?_isSome_iff.mp rfl
  obtain ⟨⟨c, x, hbuild, -, hdetours⟩, hcharts⟩ := declared_statements_iff hset .builtIn
  obtain ⟨r, hr, -, hframed, hframes⟩ := hcharts Store.framedTwice [] ⟨2⟩ hacyclic
  obtain rfl : Region.mk ⟨2⟩ [.mk ⟨0⟩ [], .mk ⟨1⟩ []] = r :=
    Option.some.inj ((rfl : Store.framedTwice.region? ⟨2⟩ = some _).symm.trans hr)
  have hframe : .frame ⟨0⟩ ⟨0⟩
      ∈ Store.framedTwice.statements [] (.mk ⟨2⟩ [.mk ⟨0⟩ [], .mk ⟨1⟩ []]) := by decide
  exact ⟨hset, ⟨c, x, hbuild, hdetours.mpr (by decide +kernel)⟩, hacyclic, _, hr,
    hframed.mpr (by constructor <;> decide), hframe, hframes _ _ hframe⟩

deriving instance DecidableEq for Dict, MachineState, Machine

/-- The text of a machine with one state. -/
def Machine.loneState : String :=
  "\x7b\"id\":\"m\",\"states\":\x7b\"a\":\x7b\"type\":\"x\"\x7d\x7d\x7d"

/-- The text of a style table with a rule that gives a shape only. -/
def StyleTable.shapeOnly : String :=
  "\x7b\"x\":\x7b\"shape\":\"circle\"\x7d\x7d"

/-- The class of a rule that gives a shape only is defined without declarations. -/
theorem Machine.not_declared_shapeOnly :
    ∃ m t c x k, Machine.read Machine.loneState = .ok m ∧
      StyleTable.read StyleTable.shapeOnly = .ok t ∧
      MachineSettings.ofTags m.tags = .ok {} ∧
      ({} : Workspace).buildChart m t = .ok (c, x) ∧
      .classDefinition k ∈ x.store.statements x.seen (.mk c []) ∧
      (Statement.classDefinition k).text x.store = "classDef x " ∧
      ¬ (Statement.classDefinition k).Declared x.store ∧
      renderMachineText Machine.loneState (some StyleTable.shapeOnly)
        = .ok ("\n".intercalate ["---", "title: m", "---", "flowchart TB", "a((a))", "classDef x ",
          "class a x", "linkStyle default stroke:#fff"]) := by
  refine ⟨{ id := "m", states := ⟨[("a", { kind := some "x" })]⟩ },
    ⟨[("x", ⟨{ name := "x" }, some .circle⟩)]⟩, _, _, ⟨0⟩, ?_, ?_, rfl, rfl, ?_, ?_, ?_, ?_⟩
  · decide +kernel
  · decide +kernel
  · decide +kernel
  · decide +kernel
  · rw [Statement.declared_iff rfl]
    decide +kernel
  · decide +kernel

end Flowchart
