import Flowchart.Proofs.Declaration

/-!
# How often a node is declared

The end of a block takes back what has been mentioned, so a node may be declared more than once in
one text (`declared_twice_siblings`). How often is a matter of how many blocks hold it: not more
often than there are such blocks, and so just once where no two blocks hold it
(`count_declaration_le`).

The count goes along the nesting. What is not taken back in between is declared once at most
(`Told.countP_declares`), and a block takes back only what it holds. After the end of the last
block that holds a node, the node is not mentioned any more.
-/

namespace Flowchart

variable {s : Store} {n : NodeId} {seen last : Mentioned} {ms : List Mark}

/-! ## Counting declarations -/

/-- Tells whether a mark is a declaration of a node. -/
def Mark.declares (n : NodeId) : Mark → Bool
  | .mention m => decide (m.node = n) && m.declares
  | .closing _ => false

/-- How many declarations of a node there are in some lines. -/
def declarations (n : NodeId) (lines : List BodyLine) : Nat :=
  (lines.flatMap BodyLine.marks).countP (Mark.declares n)

theorem declarations_append (as bs : List BodyLine) :
    declarations n (as ++ bs) = declarations n as + declarations n bs := by
  rw [declarations, List.flatMap_append, List.countP_append]
  rfl

/-- A mark at which a node is not taken back declares it exactly if the node counts as mentioned
only from there on. -/
theorem Mark.Fits.declares_add {x : Mark} (h : x.Fits seen) (hkept : ¬ x.Releases s n) :
    (if x.declares n then 1 else 0) + (if n ∈ seen then 1 else 0)
      = if n ∈ seen.after s x then 1 else 0 := by
  cases x with
  | closing c =>
    have hmem : n ∈ seen.release s c ↔ n ∈ seen := by
      rw [Mentioned.mem_release]
      exact and_iff_left hkept
    simp [Mark.declares, Mentioned.after, hmem]
  | mention m =>
    have hm : m.declares = decide (m.node ∉ seen) := congrArg Mention.declares h
    by_cases hnode : m.node = n
    · subst hnode
      by_cases hseen : m.node ∈ seen <;>
        simp [Mark.declares, Mentioned.after, Mentioned.mem_add, hm, hseen]
    · have hne : n ≠ m.node := Ne.symm hnode
      simp [Mark.declares, Mentioned.after, Mentioned.mem_add, hnode, hne]

/-- A node that is not taken back in between is declared once if it comes to count as mentioned,
and not at all otherwise. -/
theorem Told.countP_declares (h : Told s seen ms last) (hkept : ∀ x ∈ ms, ¬ x.Releases s n) :
    ms.countP (Mark.declares n) + (if n ∈ seen then 1 else 0) = if n ∈ last then 1 else 0 := by
  induction h with
  | nil => simp
  | @cons seen last x rest fits _ ih =>
    have hx := fits.declares_add (s := s) (hkept x List.mem_cons_self)
    have hrest := ih fun y hy => hkept y (List.mem_cons_of_mem _ hy)
    rw [List.countP_cons, ← hrest, ← hx, Nat.add_assoc]

/-- A node that is mentioned and does not count as such at first is declared somewhere. -/
theorem Told.countP_declares_pos (h : Told s seen ms last) (hn : n ∉ seen)
    (hmentioned : MentionedIn n ms) : 0 < ms.countP (Mark.declares n) := by
  induction h with
  | nil => exact absurd hmentioned not_mentionedIn_nil
  | @cons seen last x rest fits _ ih =>
    rw [List.countP_cons]
    by_cases hx : x.Mentions n
    · cases x with
      | closing c => exact absurd hx id
      | mention m =>
        obtain rfl : m.node = n := hx
        have hm : m.declares = decide (m.node ∉ seen) := congrArg Mention.declares fits
        simp [Mark.declares, hm, hn]
    · have hrest := (mentionedIn_cons.mp hmentioned).resolve_left hx
      have hafter := (Mentioned.not_mem_after (s := s)).mpr ⟨hx, .inl hn⟩
      exact Nat.add_pos_left (ih hafter hrest) _

/-! ## The edges and the nodes of one chart -/

/-- A block ends only where the script says so. -/
theorem closing_mem_of_mem_marks {c : ChartId} {es : List Event}
    (h : .closing c ∈ (playAll s seen es).1.flatMap BodyLine.marks) : .closing c ∈ es := by
  obtain ⟨line, hline, hx⟩ := List.mem_flatMap.mp h
  obtain ⟨e, he, past, hplay⟩ := exists_event_of_mem hline
  cases e with
  | closing d =>
    cases hplay
    obtain rfl : c = d := by simpa [BodyLine.marks] using hx
    exact he
  | edge | opening =>
    cases hplay
    simp [BodyLine.marks] at hx
  | member m =>
    rw [Event.play] at hplay
    split at hplay <;> cases hplay
    simp [BodyLine.marks] at hx

/-- The edges and the nodes of a chart declare each node of the chart that does not count as
mentioned, once, and no other node. -/
theorem declarations_own (nested : Bool) (c : ChartId) (seen : Mentioned) :
    declarations n (playAll s seen
        ((s.chart c).edges.map (.edge nested) ++ (s.chart c).nodes.map .member)).1
      + (if n ∈ seen then 1 else 0) = if n ∈ seen ∨ n ∈ s.nodesOf c then 1 else 0 := by
  refine ((told_playAll _ seen).countP_declares fun x hx => ?_).trans ?_
  · cases x with
    | mention m => exact id
    | closing d => exact absurd (closing_mem_of_mem_marks hx) (by simp)
  · exact if_congr (mem_playAll_own nested c seen) rfl rfl

/-! ## Along the nesting -/

/-- How many of some charts hold a node or join it by an edge. -/
def holders (s : Store) (n : NodeId) (cs : List ChartId) : Nat :=
  cs.countP fun c => decide (n ∈ s.nodesOf c)

theorem holders_cons (c : ChartId) (cs : List ChartId) :
    holders s n (c :: cs) = holders s n cs + if n ∈ s.nodesOf c then 1 else 0 := by
  simp [holders, List.countP_cons]

theorem holders_append (cs ds : List ChartId) :
    holders s n (cs ++ ds) = holders s n cs + holders s n ds :=
  List.countP_append

theorem holders_eq_zero {cs : List ChartId} :
    holders s n cs = 0 ↔ ∀ c ∈ cs, n ∉ s.nodesOf c := by
  simp [holders, List.countP_eq_zero]

/-- A block takes a node back exactly if a chart in it holds the node. -/
theorem mem_release_iff_holders (nested : Bool) (r : Region) (seen : Mentioned) :
    n ∈ (playAll s seen (r.script s nested)).2.release s r.chart
      ↔ n ∈ seen ∧ holders s n r.charts = 0 := by
  rw [mem_release_script, holders_eq_zero]

/-- The lines around a block declare nothing. -/
theorem declarations_block (c : ChartId) (lines : List BodyLine) :
    declarations n (.opening c :: (lines ++ [.closing c])) = declarations n lines := by
  show declarations n (lines ++ [.closing c]) = _
  rw [declarations_append]
  rfl

mutual

/-- A chart declares a node no more often than there are charts in it that hold the node, and once
less if the node counts as mentioned already. -/
theorem declarations_script_le (nested : Bool) : ∀ (r : Region) (seen : Mentioned),
    declarations n (playAll s seen (r.script s nested)).1
      ≤ holders s n r.charts - if n ∈ seen then 1 else 0
  | .mk c rs, seen => by
    have hown := declarations_own (s := s) (n := n) nested c seen
    have hinner := declarations_blocks_le rs (playAll s seen
      ((s.chart c).edges.map (.edge nested) ++ (s.chart c).nodes.map .member)).2
    rw [if_congr (mem_playAll_own nested c seen) rfl rfl] at hinner
    rw [Region.script, playAll_append, declarations_append, Region.charts, holders_cons]
    by_cases hc : n ∈ s.nodesOf c
    · simp only [hc, or_true, if_true] at hown hinner ⊢
      omega
    · simp only [hc, or_false, if_false] at hown hinner ⊢
      omega

theorem declarations_blocks_le : ∀ (rs : List Region) (seen : Mentioned),
    declarations n (playAll s seen (Region.blocks s rs)).1
      ≤ holders s n (Region.chartsOfAll rs) - if n ∈ seen then 1 else 0
  | [], _ => Nat.zero_le _
  | r :: rest, seen => by
    have hfirst := declarations_script_le true r seen
    have hrest := declarations_blocks_le rest
      ((playAll s seen (r.script s true)).2.release s r.chart)
    rw [if_congr (mem_release_iff_holders true r seen) rfl rfl] at hrest
    rw [playAll_blocks_cons, declarations_append, declarations_block, Region.chartsOfAll,
      holders_append]
    -- A block that does not hold the node leaves it as it was; any other takes it back.
    by_cases hholds : holders s n r.charts = 0
    · simp only [hholds, and_true] at hfirst hrest ⊢
      omega
    · simp only [hholds, and_false, if_false] at hrest
      by_cases hseen : n ∈ seen
      · rw [if_pos hseen] at hfirst ⊢
        omega
      · rw [if_neg hseen] at hfirst ⊢
        omega

end

/-- The chart itself declares a node if it holds it, and the first block that does not any more. -/
theorem declarations_region_le (r : Region) :
    declarations n (playAll s [] (r.script s false)).1
      ≤ max 1 (holders s n (Region.chartsOfAll r.inner)) := by
  obtain ⟨c, rs⟩ := r
  have hown := declarations_own (s := s) (n := n) false c []
  have hinner := declarations_blocks_le (s := s) (n := n) rs (playAll s []
    ((s.chart c).edges.map (.edge false) ++ (s.chart c).nodes.map .member)).2
  rw [if_congr (mem_playAll_own false c []) rfl rfl] at hinner
  rw [Region.script, playAll_append, declarations_append, Region.inner]
  by_cases hc : n ∈ s.nodesOf c
  · simp only [hc, or_true, if_true, List.not_mem_nil, if_false] at hown hinner
    omega
  · simp only [hc, or_false, if_false, List.not_mem_nil] at hown hinner
    omega

/-! ## Mentions in the text -/

/-- The text of a mark if it mentions a node. -/
def Mark.mentionText? (s : Store) (n : NodeId) : Mark → Option String
  | .mention m => if m.node = n then some (m.text s) else none
  | .closing _ => none

/-- How a node is written wherever it is mentioned, in reading order. -/
def mentionTexts (s : Store) (n : NodeId) (ms : List Mark) : List String :=
  ms.filterMap (Mark.mentionText? s n)

/-- A node with a text is written as its declaration exactly where a mark declares it. -/
theorem count_mentionTexts (htext : (s.node n).text ≠ "") (ms : List Mark) :
    (mentionTexts s n ms).count ((s.node n).id
        ++ ((s.node n).shape.getD .rect).wrap (Text.quoteLabel (s.node n).text))
      = ms.countP (Mark.declares n) := by
  rw [mentionTexts, List.count, List.countP_filterMap]
  apply List.countP_congr
  intro x _
  cases x with
  | closing c => simp [Mark.mentionText?, Mark.declares]
  | mention m =>
    by_cases hnode : m.node = n
    · subst hnode
      simp [Mark.mentionText?, Mark.declares, Mention.text_eq_declaration_iff htext]
    · simp [Mark.mentionText?, Mark.declares, hnode]

/-- A node is written as its declaration or as its bare identifier. -/
theorem eq_of_mem_mentionTexts {t : String} (htext : (s.node n).text ≠ "")
    (h : t ∈ mentionTexts s n ms) :
    t = (s.node n).id
        ++ ((s.node n).shape.getD .rect).wrap (Text.quoteLabel (s.node n).text)
      ∨ t = (s.node n).id := by
  obtain ⟨x, -, hx⟩ := List.mem_filterMap.mp h
  cases x with
  | closing c => cases hx
  | mention m =>
    obtain ⟨rfl, rfl⟩ : m.node = n ∧ m.text s = t := by simpa [Mark.mentionText?] using hx
    by_cases hdeclares : m.declares = true
    · exact .inl ((Mention.text_eq_declaration_iff htext).mpr hdeclares)
    · exact .inr (Mention.text_eq_id_of_not_declares hdeclares)

namespace Store

/-- Where no node counts as mentioned, a chart without cycles is written with every node that has a
text as its declaration or as its bare identifier, wherever it is mentioned. It is declared once at
most if no two blocks hold it, and otherwise no more often than there are blocks that do. A node
that the chart or a chart nested in it holds is declared at least once. -/
theorem count_declaration_le (s : Store) (c : ChartId) (h : s.Acyclic c) :
    ∃ r, s.region? c = some r ∧
      (s.render? [] c).map (·.1)
        = some ("\n".intercalate ((s.statements [] r).map (Statement.text s))) ∧
      ∀ n, (s.node n).text ≠ "" →
        let declaration := (s.node n).id
          ++ ((s.node n).shape.getD .rect).wrap (Text.quoteLabel (s.node n).text)
        let texts := mentionTexts s n (marks (s.statements [] r))
        (∀ t ∈ texts, t = declaration ∨ t = (s.node n).id) ∧
          texts.count declaration ≤ max 1 (holders s n (Region.chartsOfAll r.inner)) ∧
          ∀ d, s.Nested c d → n ∈ s.nodesOf d → 1 ≤ texts.count declaration := by
  obtain ⟨r, hr, rfl, hunfolds⟩ := h.exists_region
  refine ⟨r, hr, by rw [render?, hr]; rfl, fun n htext => ?_⟩
  refine ⟨fun t ht => eq_of_mem_mentionTexts htext ht, ?_, fun d hd hn => ?_⟩
  · rw [count_mentionTexts htext, marks, bodyLines_statements]
    exact declarations_region_le r
  · rw [count_mentionTexts htext]
    have hmentioned := mentionedIn_of_mem_charts (hunfolds.mem_charts.mpr hd) hn
    rw [marks, bodyLines_statements] at hmentioned ⊢
    exact (told_playAll _ []).countP_declares_pos List.not_mem_nil hmentioned

/-- A chart with two subgraphs that hold the same edge. -/
def siblings : Store where
  nodes := ⟨#[{ id := "a", text := "A" }, { id := "b", text := "B" }]⟩
  edges := ⟨#[Edge.plain ⟨0⟩ ⟨1⟩]⟩
  charts := ⟨#[{ name := "left", nodes := [⟨0⟩, ⟨1⟩], edges := [⟨0⟩] },
    { name := "right", nodes := [⟨0⟩, ⟨1⟩], edges := [⟨0⟩] },
    { name := "outer", nodes := [⟨0⟩, ⟨1⟩], subgraphs := [⟨0⟩, ⟨1⟩] }]⟩

theorem acyclic_siblings : siblings.Acyclic ⟨2⟩ := by
  rw [← region?_isSome_iff]
  decide

/-- Both nodes are declared at the top, and again in the second block, since the first one has
taken them back. -/
theorem declared_twice_siblings :
    siblings.Acyclic ⟨2⟩ ∧ (siblings.node ⟨0⟩).text = "A" ∧
      (siblings.render? [] ⟨2⟩).map (·.1) = some ("\n".intercalate ["flowchart TB", "a[A]", "b[B]",
        "subgraph left", "    a --- b", "end", "subgraph right", "    a[A] --- b[B]", "end"]) ∧
      ∃ r, siblings.region? ⟨2⟩ = some r ∧
        mentionTexts siblings ⟨0⟩ (marks (siblings.statements [] r)) = ["a[A]", "a", "a[A]"] := by
  refine ⟨acyclic_siblings, rfl, by decide +kernel, _, rfl, by decide +kernel⟩

/-- Two blocks hold the node, and it is declared twice. -/
theorem count_declaration_siblings :
    siblings.Acyclic ⟨2⟩ ∧ ∃ r, siblings.region? ⟨2⟩ = some r ∧
      1 ≤ (mentionTexts siblings ⟨0⟩ (marks (siblings.statements [] r))).count "a[A]" ∧
      (mentionTexts siblings ⟨0⟩ (marks (siblings.statements [] r))).count "a[A]" ≤ 2 := by
  refine ⟨acyclic_siblings, ?_⟩
  obtain ⟨r, hr, -, hcount⟩ := count_declaration_le siblings ⟨2⟩ acyclic_siblings
  obtain rfl : .mk ⟨2⟩ [.mk ⟨0⟩ [], .mk ⟨1⟩ []] = r := Option.some.inj hr
  obtain ⟨-, hle, hpos⟩ := hcount ⟨0⟩ (by decide)
  exact ⟨_, hr, hpos ⟨2⟩ .refl (by decide), hle⟩

end Store

end Flowchart
