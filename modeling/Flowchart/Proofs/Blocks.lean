import Flowchart.Proofs.Declaration

/-!
# What a block shows

A subgraph is written as a block, and its lines are those up to the end that matches its beginning
(`blockLines`). They are what the script of its region plays (`exists_block_of_opening`): the
blocks inside it are all ended where it ends (`level_script`).

A block need not show all of its nodes. One that counts as mentioned where the block begins is left
out (`left_out_cluster`), unless an edge in the block has it at an end, or a block inside takes it
back and a later one holds it again (`HeldAgain`). These are all the reasons there are
(`mentionedIn_blockLines_iff`).
-/

namespace Flowchart

variable {s : Store} {n : NodeId} {d : ChartId} {r : Region} {seen : Mentioned}

/-! ## The end of a block -/

/-- The lines up to the end of the block that they stand in, given how many blocks have begun in it
and not ended. -/
def linesToEnd : Nat → List BodyLine → List BodyLine
  | _, [] => []
  | depth, .opening c :: rest => .opening c :: linesToEnd (depth + 1) rest
  | 0, .closing _ :: _ => []
  | depth + 1, .closing c :: rest => .closing c :: linesToEnd depth rest
  | depth, .edge nested e source target :: rest =>
    .edge nested e source target :: linesToEnd depth rest
  | depth, .node m :: rest => .node m :: linesToEnd depth rest

/-- The lines of a block, given what follows its beginning. -/
def blockLines (rest : List BodyLine) : List BodyLine :=
  linesToEnd 0 rest

/-- Lines in which every block that begins ends, and no other. -/
def Level (lines : List BodyLine) : Prop :=
  ∀ depth rest, linesToEnd depth (lines ++ rest) = lines ++ linesToEnd depth rest

theorem level_nil : Level [] :=
  fun _ _ => rfl

theorem Level.append {as bs : List BodyLine} (ha : Level as) (hb : Level bs) :
    Level (as ++ bs) := by
  intro depth rest
  rw [List.append_assoc, ha, hb, List.append_assoc]

theorem level_edge (nested : Bool) (e : EdgeId) (source target : Mention) :
    Level [.edge nested e source target] :=
  fun depth _ => by cases depth <;> rfl

theorem level_node (m : Mention) : Level [.node m] :=
  fun depth _ => by cases depth <;> rfl

theorem Level.block {inside : List BodyLine} (h : Level inside) (c : ChartId) :
    Level (.opening c :: (inside ++ [.closing c])) := by
  intro depth rest
  have hinside := h (depth + 1) (.closing c :: rest)
  simp only [List.cons_append, List.append_assoc, List.nil_append, linesToEnd, hinside]

/-- A block ends where the lines are level. -/
theorem Level.blockLines_eq {inside : List BodyLine} (h : Level inside) (c : ChartId)
    (after : List BodyLine) : blockLines (inside ++ .closing c :: after) = inside := by
  rw [blockLines, h 0 (.closing c :: after), linesToEnd, List.append_nil]

theorem level_own (nested : Bool) (es : List EdgeId) (ns : List NodeId) (seen : Mentioned) :
    Level (playAll s seen (es.map (.edge nested) ++ ns.map .member)).1 := by
  induction es generalizing seen with
  | cons e es ih => exact (level_edge nested e _ _).append (ih _)
  | nil =>
    show Level (playAll s seen (ns.map .member)).1
    induction ns generalizing seen with
    | nil => exact level_nil
    | cons n ns ih =>
      rw [List.map_cons, playAll_cons, Event.play]
      split
      · exact ih seen
      · exact (level_node _).append (ih _)

mutual

theorem level_script (nested : Bool) : ∀ (r : Region) (seen : Mentioned),
    Level (playAll s seen (r.script s nested)).1
  | .mk c rs, seen => by
    rw [Region.script, playAll_append]
    exact (level_own nested _ _ seen).append (level_blocks rs _)

theorem level_blocks : ∀ (rs : List Region) (seen : Mentioned),
    Level (playAll s seen (Region.blocks s rs)).1
  | [], _ => level_nil
  | r :: rest, seen => by
    rw [playAll_blocks_cons]
    exact ((level_script true r seen).block r.chart).append (level_blocks rest _)

end

/-! ## From the beginning of a block to its end -/

theorem eq_opening_of_play {e : Event} (h : (e.play s seen).1 = some (.opening d)) :
    e = .opening d := by
  cases e with
  | opening c =>
    obtain rfl : c = d := by simpa [Event.play] using h
    rfl
  | edge | closing => simp [Event.play] at h
  | member n =>
    rw [Event.play] at h
    split at h <;> simp at h

/-- The edges and the nodes of a chart begin no block. -/
theorem opening_not_mem_own (nested : Bool) (es : List EdgeId) (ns : List NodeId) :
    .opening d ∉ es.map (Event.edge nested) ++ ns.map .member := by
  simp

mutual

/-- After the beginning of a block a script goes on with the region of the subgraph and the end of
the block. -/
theorem exists_block_of_script (nested : Bool) : ∀ r : Region, r.Unfolds s →
    ∀ {as bs : List Event}, r.script s nested = as ++ .opening d :: bs →
      ∃ (inner : Region) (after : List Event), inner.chart = d ∧ inner.Unfolds s ∧
        bs = inner.script s true ++ .closing d :: after
  | .mk c rs, hr, as, bs, h => by
    have hrs : ∀ r ∈ rs, r.Unfolds s := by cases hr; assumption
    rw [Region.script, List.append_eq_append_iff] at h
    rcases h with ⟨as, -, hblocks⟩ | ⟨own, hown, hblocks⟩
    · exact exists_block_of_blocks rs hrs hblocks
    · cases own with
      | nil =>
        have hblocks' : Region.blocks s rs = [] ++ .opening d :: bs := hblocks.symm
        exact exists_block_of_blocks rs hrs hblocks'
      | cons e own =>
        obtain ⟨rfl, -⟩ := List.cons.inj hblocks
        have hmem : .opening d ∈ (s.chart c).edges.map (Event.edge nested)
            ++ (s.chart c).nodes.map .member := by
          rw [hown]
          exact List.mem_append_right _ List.mem_cons_self
        exact absurd hmem (opening_not_mem_own nested _ _)

theorem exists_block_of_blocks : ∀ rs : List Region, (∀ r ∈ rs, r.Unfolds s) →
    ∀ {as bs : List Event}, Region.blocks s rs = as ++ .opening d :: bs →
      ∃ (inner : Region) (after : List Event), inner.chart = d ∧ inner.Unfolds s ∧
        bs = inner.script s true ++ .closing d :: after
  | [], _, _, _, h => absurd h (by simp [Region.blocks])
  | r :: rest, hrs, as, bs, h => by
    obtain ⟨hr, hrest⟩ := List.forall_mem_cons.mp hrs
    cases as with
    | nil =>
      obtain ⟨hchart, hbs⟩ := List.cons.inj h
      obtain rfl : r.chart = d := Event.opening.inj hchart
      exact ⟨r, Region.blocks s rest, rfl, hr, hbs.symm⟩
    | cons e as =>
      obtain ⟨-, htail⟩ := List.cons.inj h
      rcases List.append_eq_append_iff.mp htail with ⟨as, -, hlater⟩ | ⟨cs, hscript, hbs⟩
      · -- The block begins after the end of the first one.
        cases as with
        | nil => cases hlater
        | cons e as => exact exists_block_of_blocks rest hrest (List.cons.inj hlater).2
      · -- The block begins inside the first one.
        cases cs with
        | nil => cases hbs
        | cons e cs =>
          obtain ⟨rfl, rfl⟩ := List.cons.inj hbs
          obtain ⟨inner, after, hchart, hinner, rfl⟩ := exists_block_of_script true r hr hscript
          exact ⟨inner, after ++ .closing r.chart :: Region.blocks s rest, hchart, hinner,
            by simp⟩

end

/-- Where a block begins in the text of a region, its lines are played from what counts as mentioned
there, by the script of its subgraph. -/
theorem exists_block_of_opening {before rest : List BodyLine} {nested : Bool} (hr : r.Unfolds s)
    (h : (playAll s seen (r.script s nested)).1 = before ++ .opening d :: rest) :
    ∃ (inner : Region) (mid : Mentioned) (after : List BodyLine), inner.chart = d ∧
      inner.Unfolds s ∧ Told s seen (before.flatMap BodyLine.marks) mid ∧
      blockLines rest = (playAll s mid (inner.script s true)).1 ∧
      rest = blockLines rest ++ .closing d :: after := by
  obtain ⟨es₁, e, es₂, hscript, hbefore, hplay, hrest⟩ := exists_event_of_line h
  obtain rfl := eq_opening_of_play hplay
  obtain ⟨inner, after, rfl, hinner, rfl⟩ := exists_block_of_script nested r hr hscript
  have htold := told_playAll (s := s) es₁ seen
  rw [hbefore] at htold
  have hsplit : rest = (playAll s (playAll s seen es₁).2 (inner.script s true)).1
      ++ .closing inner.chart :: (playAll s ((playAll s (playAll s seen es₁).2
        (inner.script s true)).2.release s inner.chart) after).1 := by
    rw [← hrest, playAll_append]
    rfl
  have hblock : blockLines rest = (playAll s (playAll s seen es₁).2 (inner.script s true)).1 := by
    rw [hsplit]
    exact (level_script true inner _).blockLines_eq inner.chart _
  rw [← hblock] at hsplit
  exact ⟨inner, _, _, rfl, hinner, htold, hblock, hsplit⟩

mutual

/-- Every subgraph has a block. -/
theorem block_mem_script (nested : Bool) : ∀ r : Region, d ∈ Region.chartsOfAll r.inner →
    .opening d ∈ r.script s nested ∧ .closing d ∈ r.script s nested
  | .mk _ rs, hd => by
    obtain ⟨hopening, hclosing⟩ := block_mem_blocks rs hd
    exact ⟨List.mem_append_right _ hopening, List.mem_append_right _ hclosing⟩

theorem block_mem_blocks : ∀ rs : List Region, d ∈ Region.chartsOfAll rs →
    .opening d ∈ Region.blocks s rs ∧ .closing d ∈ Region.blocks s rs
  | [], hd => absurd hd List.not_mem_nil
  | .mk c rs :: rest, hd => by
    simp only [Region.blocks, List.mem_cons, List.mem_append]
    rcases List.mem_append.mp hd with hd | hd
    · rcases List.mem_cons.mp hd with rfl | hd
      · exact ⟨.inl rfl, .inr (.inr (.inl rfl))⟩
      · obtain ⟨hopening, hclosing⟩ := block_mem_script true (.mk c rs) hd
        exact ⟨.inr (.inl hopening), .inr (.inl hclosing)⟩
    · obtain ⟨hopening, hclosing⟩ := block_mem_blocks rest hd
      exact ⟨.inr (.inr (.inr hopening)), .inr (.inr (.inr hclosing))⟩

end

/-- An event that writes a line whatever counts as mentioned has it among the lines of a script. -/
theorem mem_playAll_of_mem {e : Event} {line : BodyLine} {es : List Event} (he : e ∈ es)
    (hplay : ∀ seen, (e.play s seen).1 = some line) (seen : Mentioned) :
    line ∈ (playAll s seen es).1 := by
  obtain ⟨es₁, es₂, rfl⟩ := List.append_of_mem he
  rw [playAll_append, playAll_cons, hplay]
  exact List.mem_append_right _ List.mem_cons_self

/-- The blocks of some subgraphs have a beginning and an end for each chart in them. -/
theorem lines_mem_blocks {rs : List Region} (hd : d ∈ Region.chartsOfAll rs) (seen : Mentioned) :
    .opening d ∈ (playAll s seen (Region.blocks s rs)).1 ∧
      .closing d ∈ (playAll s seen (Region.blocks s rs)).1 := by
  obtain ⟨hopening, hclosing⟩ := block_mem_blocks (s := s) rs hd
  exact ⟨mem_playAll_of_mem hopening (fun _ => rfl) seen,
    mem_playAll_of_mem hclosing (fun _ => rfl) seen⟩

theorem Region.Unfolds.mem_chartsOfAll_inner (h : r.Unfolds s) :
    d ∈ Region.chartsOfAll r.inner ↔ Relation.TransGen s.Holds r.chart d := by
  obtain ⟨hinner, hrs⟩ := h
  rw [Relation.TransGen.head'_iff, Region.inner, chartsOfAll_eq_flatMap, List.mem_flatMap]
  constructor
  · rintro ⟨r, hr, hd⟩
    refine ⟨r.chart, ?_, (hrs r hr).mem_charts.mp hd⟩
    rw [Store.Holds, Region.chart, ← hinner]
    exact List.mem_map_of_mem hr
  · rintro ⟨c, hc, hcd⟩
    rw [Store.Holds, Region.chart, ← hinner] at hc
    obtain ⟨r, hr, rfl⟩ := List.mem_map.mp hc
    exact ⟨r, hr, (hrs r hr).mem_charts.mpr hcd⟩

theorem exists_opening_line {nested : Bool} (hd : d ∈ Region.chartsOfAll r.inner) :
    ∃ before rest, (playAll s seen (r.script s nested)).1 = before ++ .opening d :: rest :=
  List.append_of_mem
    (mem_playAll_of_mem (block_mem_script (s := s) nested r hd).1 (fun _ => rfl) seen)

/-! ## What is mentioned in a block -/

/-- An edge mentions the nodes at its ends, whatever counts as mentioned. -/
theorem mentionedIn_playAll_edges {e : EdgeId} {es : List EdgeId} (nested : Bool) (he : e ∈ es)
    (hn : n ∈ (s.edge e).nodes) (seen : Mentioned) :
    MentionedIn n ((playAll s seen (es.map (.edge nested))).1.flatMap BodyLine.marks) := by
  induction es generalizing seen with
  | nil => exact absurd he List.not_mem_nil
  | cons x es ih =>
    rw [List.map_cons, playAll_cons, List.flatMap_append, mentionedIn_append]
    rcases List.mem_cons.mp he with rfl | he
    · left
      simpa [Event.play, BodyLine.marks, MentionedIn, Mark.Mentions, Mentioned.mention, Edge.nodes,
        eq_comm] using hn
    · exact .inr (ih he _)

/-- The ends of all edges of a region are mentioned in its text. -/
theorem mentionedIn_script_of_edge {e : EdgeId} (nested : Bool) (hd : d ∈ r.charts)
    (he : e ∈ (s.chart d).edges) (hn : n ∈ (s.edge e).nodes) :
    MentionedIn n ((playAll s seen (r.script s nested)).1.flatMap BodyLine.marks) := by
  obtain ⟨nested', as, bs, hscript⟩ := exists_own_of_mem_charts (s := s) nested r hd
  simp only [hscript, playAll_append, List.flatMap_append, mentionedIn_append]
  exact .inl (.inr (.inl (mentionedIn_playAll_edges nested' he hn _)))

/-- A node that counts as mentioned is left out of the lines for the nodes of a chart. -/
theorem not_mem_of_mentionedIn_members {ns : List NodeId}
    (h : MentionedIn n ((playAll s seen (ns.map .member)).1.flatMap BodyLine.marks)) :
    n ∉ seen := by
  induction ns generalizing seen with
  | nil => exact absurd h not_mentionedIn_nil
  | cons m ns ih =>
    rw [List.map_cons, playAll_cons, Event.play] at h
    split at h
    · exact ih h
    · next hm =>
      rw [Option.toList_some, List.singleton_append, List.flatMap_cons, mentionedIn_append] at h
      rcases h with h | h
      · obtain rfl : m = n := mentionedIn_singleton.mp h
        exact hm
      · exact fun hn => ih h (Mentioned.mem_add.mpr (.inr hn))

theorem edge_or_not_mem_of_mentionedIn_own {nested : Bool} {c : ChartId}
    (h : MentionedIn n ((playAll s seen ((s.chart c).edges.map (.edge nested)
      ++ (s.chart c).nodes.map .member)).1.flatMap BodyLine.marks)) :
    (∃ edge ∈ (s.chart c).edges, n ∈ (s.edge edge).nodes) ∨ n ∉ seen := by
  rw [playAll_append, List.flatMap_append, mentionedIn_append] at h
  rcases h with h | h
  · obtain ⟨e, he, hn⟩ := exists_event_of_mentionedIn h
    obtain ⟨edge, hedge, rfl⟩ := List.mem_map.mp he
    exact .inl ⟨edge, hedge, hn⟩
  · refine .inr fun hn => not_mem_of_mentionedIn_members h ?_
    exact (mem_playAll_edges nested _ seen).mpr (.inl hn)

/-! ## Blocks that hold a node again -/

/-- Among some lines a block ends that holds a node, and after that one begins that holds it. -/
def HeldAgain (s : Store) (n : NodeId) (lines : List BodyLine) : Prop :=
  ∃ c d, n ∈ s.nodesOf c ∧ n ∈ s.nodesOf d ∧ [.closing c, .opening d].Sublist lines

theorem HeldAgain.mono {as bs : List BodyLine} (h : HeldAgain s n as) (hsub : as.Sublist bs) :
    HeldAgain s n bs := by
  obtain ⟨c, d, hc, hd, hlines⟩ := h
  exact ⟨c, d, hc, hd, hlines.trans hsub⟩

theorem HeldAgain.of_mem_append {c : ChartId} {as bs : List BodyLine} (hc : n ∈ s.nodesOf c)
    (hd : n ∈ s.nodesOf d) (has : .closing c ∈ as) (hbs : .opening d ∈ bs) :
    HeldAgain s n (as ++ bs) :=
  ⟨c, d, hc, hd, (List.singleton_sublist.mpr has).append (List.singleton_sublist.mpr hbs)⟩

/-- A block that takes a node back, and later blocks that mention the node. -/
theorem heldAgain_of_mentionedIn_blocks {c : ChartId} {rest : List Region} {later : Mentioned}
    (hc : c ∈ r.charts) (hn : n ∈ s.nodesOf c)
    (h : MentionedIn n ((playAll s later (Region.blocks s rest)).1.flatMap BodyLine.marks)) :
    HeldAgain s n (.opening r.chart :: ((playAll s seen (r.script s true)).1 ++ [.closing r.chart])
      ++ (playAll s later (Region.blocks s rest)).1) := by
  obtain ⟨e, he, hne⟩ := exists_event_of_mentionedIn h
  obtain ⟨d, hd, hnd⟩ := exists_chart_of_mem_blocks rest he hne
  have hclosing : .closing c ∈ (playAll s seen (Region.blocks s [r])).1 :=
    (lines_mem_blocks (by simpa [Region.chartsOfAll] using hc) seen).2
  rw [playAll_blocks_cons] at hclosing
  exact .of_mem_append hn hnd (by simpa [Region.blocks, playAll] using hclosing)
    (lines_mem_blocks hd later).1

mutual

/-- A region mentions a node for an edge, or because it does not count as mentioned, or because a
block inside has taken it back before another one that holds it. -/
theorem reason_of_mentionedIn_script (nested : Bool) : ∀ (r : Region) (seen : Mentioned),
    MentionedIn n ((playAll s seen (r.script s nested)).1.flatMap BodyLine.marks) →
      (∃ e ∈ r.charts, ∃ edge ∈ (s.chart e).edges, n ∈ (s.edge edge).nodes) ∨ n ∉ seen ∨
        HeldAgain s n (playAll s seen (r.script s nested)).1
  | .mk c rs, seen, h => by
    rw [Region.script, playAll_append] at h ⊢
    rw [List.flatMap_append, mentionedIn_append] at h
    rcases h with h | h
    · rcases edge_or_not_mem_of_mentionedIn_own h with hedge | hn
      · exact .inl ⟨c, List.mem_cons_self, hedge⟩
      · exact .inr (.inl hn)
    · rcases reason_of_mentionedIn_blocks rs _ h with ⟨e, he, hedge⟩ | hn | hagain
      · exact .inl ⟨e, List.mem_cons_of_mem _ he, hedge⟩
      · exact .inr (.inl fun hseen => hn ((mem_playAll_own nested c seen).mpr (.inl hseen)))
      · exact .inr (.inr (hagain.mono (List.sublist_append_right _ _)))

theorem reason_of_mentionedIn_blocks : ∀ (rs : List Region) (seen : Mentioned),
    MentionedIn n ((playAll s seen (Region.blocks s rs)).1.flatMap BodyLine.marks) →
      (∃ e ∈ Region.chartsOfAll rs, ∃ edge ∈ (s.chart e).edges, n ∈ (s.edge edge).nodes) ∨
        n ∉ seen ∨ HeldAgain s n (playAll s seen (Region.blocks s rs)).1
  | [], _, h => absurd h not_mentionedIn_nil
  | r :: rest, seen, h => by
    rw [playAll_blocks_cons] at h ⊢
    rw [List.flatMap_append, mentionedIn_append] at h
    rcases h with h | h
    · -- The lines around a block mention nothing.
      have hscript : MentionedIn n
          ((playAll s seen (r.script s true)).1.flatMap BodyLine.marks) := by
        simpa [BodyLine.marks, mentionedIn_append, mentionedIn_singleton, Mark.Mentions] using h
      rcases reason_of_mentionedIn_script true r seen hscript with ⟨e, he, hedge⟩ | hn | hagain
      · exact .inl ⟨e, List.mem_append_left _ he, hedge⟩
      · exact .inr (.inl hn)
      · refine .inr (.inr (hagain.mono ?_))
        exact (List.sublist_append_left _ _).trans
          ((List.sublist_cons_self _ _).trans (List.sublist_append_left _ _))
    · rcases reason_of_mentionedIn_blocks rest _ h with ⟨e, he, hedge⟩ | hn | hagain
      · exact .inl ⟨e, List.mem_append_right _ he, hedge⟩
      · -- Either the node did not count as mentioned before the block, or the block took it back.
        rw [mem_release_script, not_and_or] at hn
        refine .inr (hn.imp_right fun hn => ?_)
        obtain ⟨c, hc, hnc⟩ : ∃ c ∈ r.charts, n ∈ s.nodesOf c := by simpa using hn
        exact heldAgain_of_mentionedIn_blocks hc hnc h
      · exact .inr (.inr (hagain.mono (List.sublist_append_right _ _)))

end

/-- What a block has taken back does not count as mentioned until it is mentioned again. -/
theorem Told.not_mem_of_releases {last : Mentioned} {x : Mark} {ms : List Mark}
    (h : Told s seen ms last) (hx : x ∈ ms) (hrel : x.Releases s n) (hms : ¬ MentionedIn n ms) :
    n ∉ last := by
  induction h with
  | nil => exact absurd hx List.not_mem_nil
  | @cons seen last y rest _ tail ih =>
    rw [mentionedIn_cons, not_or] at hms
    rcases List.mem_cons.mp hx with rfl | hx
    · have hafter : n ∉ seen.after s x := Mentioned.not_mem_after.mpr ⟨hms.1, .inr hrel⟩
      exact fun hlast => (tail.mem_or_mentionedIn hlast).elim hafter hms.2
    · exact ih hx hms.2

/-- A node is mentioned again where a block begins that holds it, after one that has taken it
back. -/
theorem HeldAgain.mentionedIn {nested : Bool} (hr : r.Unfolds s)
    (h : HeldAgain s n (playAll s seen (r.script s nested)).1) :
    MentionedIn n ((playAll s seen (r.script s nested)).1.flatMap BodyLine.marks) := by
  obtain ⟨c, d, hc, hd, hsub⟩ := h
  obtain ⟨as, bs, hlines, has, hbs⟩ := List.cons_sublist_iff.mp hsub
  obtain ⟨bs, rest, rfl⟩ := List.append_of_mem (List.singleton_sublist.mp hbs)
  rw [← List.append_assoc] at hlines
  obtain ⟨inner, mid, after, rfl, hinner, htold, hblock, hrest⟩ := exists_block_of_opening hr hlines
  rw [hlines, List.flatMap_append, mentionedIn_append]
  by_cases hbefore : MentionedIn n ((as ++ bs).flatMap BodyLine.marks)
  · exact .inl hbefore
  · have hclosing : .closing c ∈ (as ++ bs).flatMap BodyLine.marks :=
      List.mem_flatMap.mpr ⟨.closing c, List.mem_append_left _ has, List.mem_singleton_self _⟩
    have hmid : n ∉ mid := htold.not_mem_of_releases hclosing hc hbefore
    have hmentioned := mentionedIn_script_of_not_mem true inner.chart_mem_charts hd hmid
    rw [← hblock] at hmentioned
    refine .inr ?_
    rw [hrest, List.flatMap_cons, List.flatMap_append, mentionedIn_append, mentionedIn_append]
    exact .inr (.inl hmentioned)

/-- The reasons for which a region mentions a node of its chart. -/
theorem mentionedIn_script_iff (nested : Bool) (hr : r.Unfolds s) (hn : n ∈ s.nodesOf r.chart) :
    MentionedIn n ((playAll s seen (r.script s nested)).1.flatMap BodyLine.marks) ↔
      (∃ e ∈ r.charts, ∃ edge ∈ (s.chart e).edges, n ∈ (s.edge edge).nodes) ∨ n ∉ seen ∨
        HeldAgain s n (playAll s seen (r.script s nested)).1 := by
  refine ⟨reason_of_mentionedIn_script nested r seen, ?_⟩
  rintro (⟨e, he, edge, hedge, hend⟩ | hseen | hagain)
  · exact mentionedIn_script_of_edge nested he hedge hend
  · exact mentionedIn_script_of_not_mem nested r.chart_mem_charts hn hseen
  · exact hagain.mentionedIn hr

/-! ## What the text says -/

/-- At any moment the nodes that do not count as mentioned are those that are due. -/
theorem Told.not_mem_iff_due {last : Mentioned} {before ms : List Mark} (h : Told s seen ms last)
    (hist : ∀ n, n ∉ seen ↔ Due s n before) : ∀ n, n ∉ last ↔ Due s n (before ++ ms) := by
  induction h generalizing before with
  | nil =>
    rw [List.append_nil]
    exact hist
  | @cons seen last x rest _ _ ih =>
    rw [List.append_cons]
    exact ih (not_mem_after_iff_due hist)

namespace Store

/-- Where no node counts as mentioned, a chart without cycles is written with a block for every
subgraph at any depth. In each block of a subgraph, between its beginning and the matching end, a
node of the subgraph is mentioned exactly for one of four reasons: it is at an end of an edge of the
subgraph or of a chart nested in that; it has not been mentioned before the block; since it was last
mentioned before the block, a block that holds it has ended; or inside the block such a block ends
and after it another one begins. -/
theorem mentionedIn_blockLines_iff (s : Store) (c : ChartId) (h : s.Acyclic c) :
    ∃ r, s.region? c = some r ∧
      (s.render? [] c).map (·.1)
        = some ("\n".intercalate ((s.statements [] r).map (Statement.text s))) ∧
      ∀ d, Relation.TransGen s.Holds c d →
        (∃ before rest, bodyLines (s.statements [] r) = before ++ .opening d :: rest) ∧
        ∀ before rest, bodyLines (s.statements [] r) = before ++ .opening d :: rest →
          (∃ after, rest = blockLines rest ++ .closing d :: after) ∧
          ∀ n ∈ s.nodesOf d,
            (MentionedIn n ((blockLines rest).flatMap BodyLine.marks) ↔
              (∃ e, s.Nested d e ∧ ∃ edge ∈ (s.chart e).edges, n ∈ (s.edge edge).nodes) ∨
                ¬ MentionedIn n (before.flatMap BodyLine.marks) ∨
                ReleasedSince s n (before.flatMap BodyLine.marks) ∨
                HeldAgain s n (blockLines rest)) := by
  obtain ⟨r, hr, rfl, hunfolds⟩ := h.exists_region
  refine ⟨r, hr, by rw [render?, hr]; rfl, fun d hd => ?_⟩
  rw [bodyLines_statements]
  refine ⟨exists_opening_line (hunfolds.mem_chartsOfAll_inner.mpr hd), fun before rest hlines => ?_⟩
  obtain ⟨inner, mid, after, rfl, hinner, htold, hblock, hrest⟩ :=
    exists_block_of_opening hunfolds hlines
  refine ⟨⟨after, hrest⟩, fun n hn => ?_⟩
  -- What counts as mentioned where the block begins can be told from the lines before it.
  have hist : ∀ n, n ∉ ([] : Mentioned) ↔ Due s n [] := fun n => by simp [due_nil]
  have hmid : n ∉ mid ↔ Due s n (before.flatMap BodyLine.marks) := htold.not_mem_iff_due hist n
  rw [hblock, mentionedIn_script_iff true hinner hn, hmid, Due, or_assoc]
  simp only [hinner.mem_charts]

/-- Two subgraphs of a subgraph; they and the charts around them hold the same node. -/
def twins : Store where
  nodes := ⟨#[{ id := "x", text := "X" }]⟩
  charts := ⟨#[{ name := "first", nodes := [⟨0⟩] }, { name := "second", nodes := [⟨0⟩] },
    { name := "pair", nodes := [⟨0⟩], subgraphs := [⟨0⟩, ⟨1⟩] },
    { name := "outer", nodes := [⟨0⟩], subgraphs := [⟨2⟩] }]⟩

/-- The node is left out of the first twin, whose end takes it back, and so it is mentioned in the
second one and in the block of the pair. -/
theorem mentionedIn_blockLines_twins :
    twins.Acyclic ⟨3⟩ ∧
      (twins.render? [] ⟨3⟩).map (·.1) = some ("\n".intercalate ["flowchart TB", "x[X]",
        "subgraph pair", "subgraph first", "end", "subgraph second", "x[X]", "end", "end"]) ∧
      ∃ r before rest after, twins.region? ⟨3⟩ = some r ∧
        bodyLines (twins.statements [] r)
          = before ++ .opening ⟨2⟩ :: .opening ⟨0⟩ :: rest ∧
        rest = .closing ⟨0⟩ :: after ∧
        MentionedIn ⟨0⟩ ((blockLines (.opening ⟨0⟩ :: rest)).flatMap BodyLine.marks) ∧
        ¬ MentionedIn ⟨0⟩ ((blockLines rest).flatMap BodyLine.marks) := by
  have hacyclic : twins.Acyclic ⟨3⟩ := by
    rw [← region?_isSome_iff]
    decide
  refine ⟨hacyclic, by decide +kernel, ?_⟩
  obtain ⟨r, hr, -, hblocks⟩ := mentionedIn_blockLines_iff twins ⟨3⟩ hacyclic
  obtain rfl : .mk ⟨3⟩ [.mk ⟨2⟩ [.mk ⟨0⟩ [], .mk ⟨1⟩ []]] = r := Option.some.inj hr
  let after : List BodyLine := [.opening ⟨1⟩, .node ⟨⟨0⟩, true⟩, .closing ⟨1⟩, .closing ⟨2⟩]
  have hlines : bodyLines (twins.statements [] (.mk ⟨3⟩ [.mk ⟨2⟩ [.mk ⟨0⟩ [], .mk ⟨1⟩ []]]))
      = [.node ⟨⟨0⟩, true⟩] ++ .opening ⟨2⟩ :: .opening ⟨0⟩ :: .closing ⟨0⟩ :: after := rfl
  have hpair : Relation.TransGen twins.Holds ⟨3⟩ ⟨2⟩ :=
    .single (show (⟨2⟩ : ChartId) ∈ (twins.chart ⟨3⟩).subgraphs by decide)
  obtain ⟨-, hmentioned⟩ := (hblocks ⟨2⟩ hpair).2 _ _ hlines
  refine ⟨_, _, _, after, hr, hlines, rfl, ?_, not_mentionedIn_nil⟩
  refine (hmentioned ⟨0⟩ (by decide)).mpr (.inr (.inr (.inr ⟨⟨0⟩, ⟨1⟩, ?_, ?_, ?_⟩)))
  · decide
  · decide
  · decide

/-- A chart that has taken over the only node of its subgraph. -/
def cluster : Store where
  nodes := ⟨#[{ id := "x", text := "X" }]⟩
  charts := ⟨#[{ name := "cluster", nodes := [⟨0⟩] },
    { name := "outer", nodes := [⟨0⟩], subgraphs := [⟨0⟩] }]⟩

/-- The block of the subgraph is empty, for its node is written before it. -/
theorem left_out_cluster :
    cluster.Acyclic ⟨1⟩ ∧ Relation.TransGen cluster.Holds ⟨1⟩ ⟨0⟩ ∧
      ⟨0⟩ ∈ (cluster.chart ⟨0⟩).nodes ∧
      (cluster.render? [] ⟨1⟩).map (·.1)
        = some ("\n".intercalate ["flowchart TB", "x[X]", "subgraph cluster", "end"]) ∧
      ∃ r before rest, cluster.region? ⟨1⟩ = some r ∧
        bodyLines (cluster.statements [] r) = before ++ .opening ⟨0⟩ :: rest ∧
        rest = [.closing ⟨0⟩] ∧ blockLines rest = [] ∧
        ¬ MentionedIn ⟨0⟩ ((blockLines rest).flatMap BodyLine.marks) := by
  have hacyclic : cluster.Acyclic ⟨1⟩ := by
    rw [← region?_isSome_iff]
    decide
  have hholds : (⟨0⟩ : ChartId) ∈ (cluster.chart ⟨1⟩).subgraphs := by decide
  refine ⟨hacyclic, .single hholds, by decide, by decide +kernel, _, [.node ⟨⟨0⟩, true⟩], _, rfl,
    rfl, rfl, rfl, ?_⟩
  exact not_mentionedIn_nil

end Store

end Flowchart
