import Flowchart.Chart.Render

/-!
# What a reader of a chart meets

Statements are written in reading order. From them a reader picks out the lines of the body
(`bodyLines_statements`), the styles of numbered links (`styledLinks_statements`), the edges, and
the marks: where a node is mentioned and where the block of a subgraph ends.
-/

namespace Flowchart

variable {s : Store} {seen : Mentioned} {r : Region}

/-! ## The lines of the body and the numbered links -/

/-- The line of the body that a statement is. -/
def Statement.body? : Statement → Option BodyLine
  | .body line => some line
  | _ => none

/-- The number and the style of the link that a statement is about. -/
def Statement.link? : Statement → Option (Nat × LinkStyle)
  | .link number style => some (number, style)
  | _ => none

/-- The lines of the body among some statements. -/
def bodyLines (statements : List Statement) : List BodyLine :=
  statements.filterMap Statement.body?

/-- The styles of numbered links among some statements, in reading order. -/
def styledLinks (statements : List Statement) : List (Nat × LinkStyle) :=
  statements.filterMap Statement.link?

/-- A statement that belongs neither to the body nor to a numbered link. -/
def Statement.Plain (st : Statement) : Prop :=
  st.body? = none ∧ st.link? = none

section Pick

variable {β : Type} {f : Statement → Option β} (hf : ∀ st : Statement, st.Plain → f st = none)

include hf

theorem filterMap_of_plain {statements : List Statement} (h : ∀ st ∈ statements, st.Plain) :
    statements.filterMap f = [] :=
  List.filterMap_eq_nil_iff.mpr fun st hst => hf st (h st hst)

theorem filterMap_frameOf (c : ChartId) : (s.frameOf c).filterMap f = [] := by
  apply filterMap_of_plain hf
  unfold Store.frameOf
  split
  · split <;> simp [Statement.Plain, Statement.body?, Statement.link?]
  · simp

theorem filterMap_bodyStatements (line : BodyLine) :
    (s.bodyStatements line).filterMap f = (f (.body line)).toList := by
  cases line with
  | closing c =>
    show (.body (.closing c) :: s.frameOf c).filterMap f = _
    rw [List.filterMap_cons, filterMap_frameOf hf]
    cases f (.body (.closing c)) <;> rfl
  | edge | node | opening =>
    simp only [Store.bodyStatements, List.filterMap_cons, List.filterMap_nil]
    split <;> simp_all

theorem filterMap_flatMap_bodyStatements (lines : List BodyLine) :
    (lines.flatMap s.bodyStatements).filterMap f = lines.filterMap fun line => f (.body line) := by
  induction lines with
  | nil => rfl
  | cons line rest ih =>
    rw [List.flatMap_cons, List.filterMap_append, filterMap_bodyStatements hf, ih,
      List.filterMap_cons]
    cases f (.body line) <;> rfl

theorem filterMap_classStatements (c : ChartId) (ks : List ClassId) :
    (ks.flatMap (s.classStatements c)).filterMap f = [] := by
  apply filterMap_of_plain hf
  intro st hst
  obtain ⟨k, -, hk⟩ := List.mem_flatMap.mp hst
  unfold Store.classStatements at hk
  rcases List.mem_cons.mp hk with rfl | hk
  · exact ⟨rfl, rfl⟩
  · split at hk
    · exact absurd hk List.not_mem_nil
    · rw [List.mem_singleton.mp hk]
      exact ⟨rfl, rfl⟩

/-- What is picked from the text of a chart comes from its body or from the numbered links. -/
theorem filterMap_statements :
    (s.statements seen r).filterMap f
      = ((playAll s seen (r.script s false)).1.filterMap fun line => f (.body line))
        ++ (s.linkStatements (r.links s)).filterMap f := by
  have hmap {α : Type} (as : List α) (g : α → Statement) (hg : ∀ a, (g a).Plain) :
      (as.map g).filterMap f = [] := by
    apply filterMap_of_plain hf
    simpa using fun a _ => hg a
  have hheader (d : Direction) : [Statement.header d].filterMap f = [] :=
    filterMap_of_plain hf (by simp [Statement.Plain, Statement.body?, Statement.link?])
  simp only [Store.statements, List.filterMap_append, filterMap_flatMap_bodyStatements hf,
    filterMap_classStatements hf, hheader, hmap _ Statement.directive fun _ => ⟨rfl, rfl⟩,
    hmap _ Statement.defaultClass fun _ => ⟨rfl, rfl⟩,
    hmap _ Statement.defaultLink fun _ => ⟨rfl, rfl⟩, List.append_nil, List.nil_append]

end Pick

/-- The lines of the body are what the script plays. -/
theorem bodyLines_statements :
    bodyLines (s.statements seen r) = (playAll s seen (r.script s false)).1 := by
  have hlinks : (s.linkStatements (r.links s)).filterMap Statement.body? = [] := by
    apply List.filterMap_eq_nil_iff.mpr
    intro st hst
    obtain ⟨⟨e, number⟩, -, he⟩ := List.mem_filterMap.mp hst
    obtain ⟨l, -, rfl⟩ := Option.map_eq_some_iff.mp he
    rfl
  rw [bodyLines, filterMap_statements fun _ h => h.1, hlinks, List.append_nil]
  exact List.filterMap_some

/-- The numbered links are those of the edges of the region that have a style. -/
theorem styledLinks_statements :
    styledLinks (s.statements seen r)
      = (r.links s).zipIdx.filterMap fun (e, number) => (s.edge e).link.map (number, ·) := by
  have hbody : ((playAll s seen (r.script s false)).1.filterMap
      fun line => Statement.link? (.body line)) = [] :=
    List.filterMap_eq_nil_iff.mpr fun _ _ => rfl
  rw [styledLinks, filterMap_statements fun _ h => h.2, hbody, List.nil_append,
    Store.linkStatements, List.filterMap_filterMap]
  congr 1
  funext ⟨e, number⟩
  show ((s.edge e).link.map (.link number)).bind Statement.link? = (s.edge e).link.map (number, ·)
  cases (s.edge e).link <;> rfl

/-! ## Marks -/

/-- What happens to the nodes as the body is read: one is mentioned, or a block ends. -/
inductive Mark where
  | mention (mention : Mention)
  | closing (chart : ChartId)
  deriving DecidableEq, Repr

/-- The marks of a line of the body, the source of an edge before its target. -/
def BodyLine.marks : BodyLine → List Mark
  | .edge _ _ source target => [.mention source, .mention target]
  | .node m => [.mention m]
  | .opening _ => []
  | .closing c => [.closing c]

/-- The marks of some statements in reading order. -/
def marks (statements : List Statement) : List Mark :=
  (bodyLines statements).flatMap BodyLine.marks

/-- The node of a mark is mentioned there. -/
def Mark.Mentions (n : NodeId) : Mark → Prop
  | .mention m => m.node = n
  | .closing _ => False

/-- Some mark mentions a node. -/
def MentionedIn (n : NodeId) (ms : List Mark) : Prop :=
  ∃ m ∈ ms, m.Mentions n

/-! ## Edges -/

/-- The edge that a line of the body writes. -/
def BodyLine.edge? : BodyLine → Option EdgeId
  | .edge _ e _ _ => some e
  | _ => none

/-- The edges that some statements write, in reading order. -/
def writtenEdges (statements : List Statement) : List EdgeId :=
  (bodyLines statements).filterMap BodyLine.edge?

end Flowchart
