import Flowchart.Proofs.Nesting
import Flowchart.Proofs.Reading

/-!
# The numbers of links

The style of a link names its edge by a number. Numbers come from the list of the links of a
region, edges are written where the script has them, and the two recursions have to meet the edges
in one order. They do (`filterMap_edge?_script`): in the text the edges stand in the order of the
list, each as often as it occurs there.
-/

namespace Flowchart

variable {s : Store} {seen : Mentioned}

/-! ## Edges of a script -/

/-- The edge that an event writes. -/
def Event.edge? : Event → Option EdgeId
  | .edge _ e => some e
  | _ => none

/-- The edges and the nodes of one chart. -/
theorem filterMap_edge?_own (nested : Bool) (es : List EdgeId) (ns : List NodeId) :
    (es.map (Event.edge nested) ++ ns.map Event.member).filterMap Event.edge? = es := by
  have hedges : (es.map (Event.edge nested)).filterMap Event.edge? = es := by
    rw [List.filterMap_map]
    exact List.filterMap_some
  have hmembers : (ns.map Event.member).filterMap Event.edge? = [] := by
    apply List.filterMap_eq_nil_iff.mpr
    intro e he
    obtain ⟨n, -, rfl⟩ := List.mem_map.mp he
    rfl
  rw [List.filterMap_append, hedges, hmembers, List.append_nil]

mutual

/-- A script has the edges of its region in the order in which they are numbered. -/
theorem filterMap_edge?_script (nested : Bool) : ∀ r : Region,
    (r.script s nested).filterMap Event.edge? = r.links s
  | .mk c rs => by
    rw [Region.script, List.filterMap_append, filterMap_edge?_own, filterMap_edge?_blocks rs,
      Region.links]

theorem filterMap_edge?_blocks : ∀ rs : List Region,
    (Region.blocks s rs).filterMap Event.edge? = Region.linksOfAll s rs
  | [] => rfl
  | r :: rest => by
    have hopening : Event.edge? (.opening r.chart) = none := rfl
    have hclosing : Event.edge? (.closing r.chart) = none := rfl
    rw [Region.blocks, List.filterMap_cons_none hopening, List.filterMap_append,
      List.filterMap_cons_none hclosing, filterMap_edge?_script true r,
      filterMap_edge?_blocks rest, Region.linksOfAll]

end

/-! ## Edges of the text -/

/-- An event writes its edge and no other, whatever counts as mentioned. -/
theorem filterMap_edge?_play (e : Event) (seen : Mentioned) :
    (e.play s seen).1.toList.filterMap BodyLine.edge? = e.edge?.toList := by
  cases e with
  | edge | opening | closing => rfl
  | member n =>
    rw [Event.play]
    split <;> rfl

theorem filterMap_edge?_playAll (es : List Event) (seen : Mentioned) :
    (playAll s seen es).1.filterMap BodyLine.edge? = es.filterMap Event.edge? := by
  induction es generalizing seen with
  | nil => rfl
  | cons e rest ih =>
    simp only [playAll, List.filterMap_append, ih, filterMap_edge?_play, List.filterMap_cons]
    cases e.edge? <;> rfl

/-- The edges of the text are the links of the region. -/
theorem writtenEdges_statements (r : Region) :
    writtenEdges (s.statements seen r) = r.links s := by
  rw [writtenEdges, bodyLines_statements, filterMap_edge?_playAll, filterMap_edge?_script]

/-! ## Styles of numbered links -/

/-- Styles picked by number from a list that is numbered from some number on. -/
theorem filterMap_zipIdx_eq {α β : Type} (f : α → Option β) (as : List α) (start : Nat) :
    ((as.zipIdx start).filterMap fun (a, number) => (f a).map (number, ·))
      = (List.range as.length).filterMap fun i => (as[i]?.bind f).map (start + i, ·) := by
  induction as generalizing start with
  | nil => rfl
  | cons a rest ih =>
    rw [List.zipIdx_cons, List.filterMap_cons, ih (start + 1), List.length_cons,
      List.range_succ_eq_map, List.filterMap_cons, List.filterMap_map]
    simp [Nat.add_assoc, Nat.add_comm 1]

theorem Statement.text_of_link?_eq_some {st : Statement} {k : Nat} {l : LinkStyle}
    (h : st.link? = some (k, l)) :
    st.text s = "linkStyle " ++ toString k ++ " " ++ l.properties.declarations := by
  cases st with
  | link number style =>
    obtain ⟨rfl, rfl⟩ := Prod.mk.inj (Option.some.inj h)
    rfl
  | _ => exact absurd h (by simp [link?])

namespace Store

/-- Whatever counts as mentioned, the edges of the text of a chart without cycles, in reading order
over the chart itself and all the blocks in it, are its links, each as often as it occurs there.
The numbered links are, by increasing number, those of the edges at these places that have a
style, each written with its number and the declarations of that style. -/
theorem writtenEdges_eq_links (s : Store) (seen : Mentioned) (c : ChartId) (h : s.Acyclic c) :
    ∃ r, s.region? c = some r ∧
      (s.render? seen c).map (·.1)
        = some ("\n".intercalate ((s.statements seen r).map (Statement.text s))) ∧
      writtenEdges (s.statements seen r) = r.links s ∧
      styledLinks (s.statements seen r)
        = ((List.range (r.links s).length).filterMap fun k =>
          ((r.links s)[k]?.bind fun e => (s.edge e).link).map (k, ·)) ∧
      ∀ st ∈ s.statements seen r, ∀ k l, st.link? = some (k, l) →
        st.text s = "linkStyle " ++ toString k ++ " " ++ l.properties.declarations := by
  obtain ⟨r, hr, rfl, -⟩ := h.exists_region
  refine ⟨r, hr, by rw [render?, hr]; rfl, writtenEdges_statements r, ?_, ?_⟩
  · rw [styledLinks_statements, filterMap_zipIdx_eq (fun e => (s.edge e).link) (r.links s) 0]
    simp only [Nat.zero_add]
  · exact fun st _ k l hlink => Statement.text_of_link?_eq_some hlink

/-- An edge that stands in a text three times has three numbers. -/
theorem writtenEdges_nestedTwice :
    nestedTwice.Acyclic ⟨2⟩ ∧ ∃ r, nestedTwice.region? ⟨2⟩ = some r ∧
      writtenEdges (nestedTwice.statements [⟨0⟩] r) = [⟨0⟩, ⟨0⟩, ⟨0⟩] ∧
      (styledLinks (nestedTwice.statements [⟨0⟩] r)).map (·.1) = [0, 1, 2] := by
  refine ⟨acyclic_nestedTwice _, ?_⟩
  obtain ⟨r, hr, -, hwritten, hstyled, -⟩ :=
    writtenEdges_eq_links nestedTwice [⟨0⟩] ⟨2⟩ (acyclic_nestedTwice _)
  obtain rfl : .mk ⟨2⟩ [.mk ⟨0⟩ [], .mk ⟨1⟩ [.mk ⟨0⟩ []]] = r := Option.some.inj hr
  exact ⟨_, hr, by rw [hwritten]; rfl, by rw [hstyled]; rfl⟩

end Store

end Flowchart
