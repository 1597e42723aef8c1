import Flowchart.Proofs.Reading
import Flowchart.Proofs.Repeat

/-!
# Where a node is declared

Whether a mention declares its node is decided, while a chart is written, by what counts as
mentioned. A reader of the text can tell it from the past alone: a node is declared where it is
mentioned for the first time, and again where a block that holds it has ended since it was last
mentioned (`Due`).

The two agree because each mark, a mention or the end of a block, changes both in the same way:
`due_append_singleton` is the step for the reader, `Mentioned.not_mem_after` the one for the
writer, and `Told` says that the marks of a text are those of such a writer.
-/

namespace Flowchart

variable {s : Store} {n : NodeId} {seen last : Mentioned} {x : Mark} {before ms : List Mark}

/-! ## What a reader knows -/

/-- A block ends that holds a node. -/
def Mark.Releases (s : Store) (n : NodeId) : Mark → Prop
  | .mention _ => False
  | .closing c => n ∈ s.nodesOf c

/-- Since a node was last mentioned, a block has ended that holds it. -/
def ReleasedSince (s : Store) (n : NodeId) (before : List Mark) : Prop :=
  ∃ past m since, before = past ++ m :: since ∧ m.Mentions n ∧ ¬ MentionedIn n since ∧
    ∃ x ∈ since, x.Releases s n

/-- A node that would be declared if it were mentioned next. -/
def Due (s : Store) (n : NodeId) (before : List Mark) : Prop :=
  ¬ MentionedIn n before ∨ ReleasedSince s n before

theorem not_mentionedIn_nil : ¬ MentionedIn n [] :=
  fun ⟨_, hx, _⟩ => List.not_mem_nil hx

theorem mentionedIn_append {as bs : List Mark} :
    MentionedIn n (as ++ bs) ↔ MentionedIn n as ∨ MentionedIn n bs := by
  simp [MentionedIn, or_and_right, exists_or]

theorem mentionedIn_cons : MentionedIn n (x :: ms) ↔ x.Mentions n ∨ MentionedIn n ms := by
  simp [MentionedIn]

theorem mentionedIn_singleton : MentionedIn n [x] ↔ x.Mentions n := by
  simp [MentionedIn]

/-- A node that is mentioned has a last mention. -/
theorem exists_last_mention (h : MentionedIn n ms) :
    ∃ past m since, ms = past ++ m :: since ∧ m.Mentions n ∧ ¬ MentionedIn n since := by
  induction ms with
  | nil => exact absurd h not_mentionedIn_nil
  | cons x rest ih =>
    by_cases hrest : MentionedIn n rest
    · obtain ⟨past, m, since, rfl, hm, hsince⟩ := ih hrest
      exact ⟨x :: past, m, since, rfl, hm, hsince⟩
    · exact ⟨[], x, rest, rfl, (mentionedIn_cons.mp h).resolve_right hrest, hrest⟩

theorem releasedSince_append_singleton :
    ReleasedSince s n (before ++ [x])
      ↔ ¬ x.Mentions n ∧ (ReleasedSince s n before ∨ MentionedIn n before ∧ x.Releases s n) := by
  constructor
  · rintro ⟨past, m, since, heq, hm, hsince, y, hy, hrel⟩
    -- The last mark is the last one since the mention, for some mark has come since.
    rcases List.eq_nil_or_concat' since with rfl | ⟨init, z, rfl⟩
    · exact absurd hy List.not_mem_nil
    have heq' : before ++ [x] = (past ++ m :: init) ++ [z] := by simpa using heq
    obtain ⟨rfl, hxz⟩ := List.append_inj' heq' rfl
    obtain rfl := List.singleton_inj.mp hxz
    rw [mentionedIn_append, mentionedIn_singleton, not_or] at hsince
    refine ⟨hsince.2, ?_⟩
    rcases List.mem_append.mp hy with hy | hy
    · exact .inl ⟨past, m, init, rfl, hm, hsince.1, y, hy, hrel⟩
    · rw [List.mem_singleton] at hy
      exact .inr ⟨mentionedIn_append.mpr (.inr (mentionedIn_cons.mpr (.inl hm))), hy ▸ hrel⟩
  · rintro ⟨hx, ⟨past, m, since, rfl, hm, hsince, y, hy, hrel⟩ | ⟨hbefore, hrel⟩⟩
    · refine ⟨past, m, since ++ [x], by simp, hm, ?_, y, List.mem_append_left _ hy, hrel⟩
      rw [mentionedIn_append, mentionedIn_singleton]
      exact not_or.mpr ⟨hsince, hx⟩
    · obtain ⟨past, m, since, rfl, hm, hsince⟩ := exists_last_mention hbefore
      refine ⟨past, m, since ++ [x], by simp, hm, ?_, x, by simp, hrel⟩
      rw [mentionedIn_append, mentionedIn_singleton]
      exact not_or.mpr ⟨hsince, hx⟩

theorem due_nil : Due s n [] :=
  .inl not_mentionedIn_nil

/-- One mark more: a mention of the node settles it, the end of a block that holds it makes it due
again, and any other mark changes nothing. -/
theorem due_append_singleton :
    Due s n (before ++ [x]) ↔ ¬ x.Mentions n ∧ (Due s n before ∨ x.Releases s n) := by
  rw [Due, Due, releasedSince_append_singleton, mentionedIn_append, mentionedIn_singleton]
  tauto

/-! ## What the writer does -/

/-- What counts as mentioned after a mark. -/
def Mentioned.after (seen : Mentioned) (s : Store) : Mark → Mentioned
  | .mention m => seen.add m.node
  | .closing c => seen.release s c

theorem Mentioned.not_mem_after :
    n ∉ seen.after s x ↔ ¬ x.Mentions n ∧ (n ∉ seen ∨ x.Releases s n) := by
  cases x with
  | mention m =>
    simp only [after, mem_add, Mark.Mentions, Mark.Releases, eq_comm (a := n)]
    tauto
  | closing c =>
    simp only [after, mem_release, Mark.Mentions, Mark.Releases]
    tauto

/-- A mention declares its node if that does not count as mentioned. -/
def Mark.Fits (seen : Mentioned) : Mark → Prop
  | .mention m => m = seen.mention m.node
  | .closing _ => True

/-- The marks that a writer leaves who starts with some nodes mentioned, and the nodes mentioned
at the end. -/
inductive Told (s : Store) : Mentioned → List Mark → Mentioned → Prop where
  | nil (seen : Mentioned) : Told s seen [] seen
  | cons {seen last : Mentioned} {x : Mark} {rest : List Mark} (fits : x.Fits seen)
      (tail : Told s (seen.after s x) rest last) : Told s seen (x :: rest) last

theorem Told.append {mid : Mentioned} {as bs : List Mark} (has : Told s seen as mid)
    (hbs : Told s mid bs last) : Told s seen (as ++ bs) last := by
  induction has with
  | nil => exact hbs
  | cons fits _ ih => exact .cons fits (ih hbs)

theorem told_play (e : Event) (seen : Mentioned) :
    Told s seen ((e.play s seen).1.toList.flatMap BodyLine.marks) (e.play s seen).2 := by
  cases e with
  | edge nested e => exact .cons rfl (.cons rfl (.nil _))
  | member n =>
    rw [Event.play]
    split
    · exact .nil _
    · exact .cons rfl (.nil _)
  | opening c => exact .nil _
  | closing c => exact .cons trivial (.nil _)

/-- Playing a script leaves such marks. -/
theorem told_playAll (es : List Event) (seen : Mentioned) :
    Told s seen ((playAll s seen es).1.flatMap BodyLine.marks) (playAll s seen es).2 := by
  induction es generalizing seen with
  | nil => exact .nil _
  | cons e rest ih =>
    simp only [playAll, List.flatMap_append]
    exact (told_play e seen).append (ih _)

/-! ## The two agree -/

theorem not_mem_after_iff_due (hist : ∀ n, n ∉ seen ↔ Due s n before) :
    ∀ n, n ∉ seen.after s x ↔ Due s n (before ++ [x]) := by
  intro n
  rw [Mentioned.not_mem_after, due_append_singleton, hist]

/-- A mention declares its node exactly if the reader expects it to. -/
theorem Told.declares_iff {m : Mention} {as bs : List Mark} (h : Told s seen ms last)
    (hist : ∀ n, n ∉ seen ↔ Due s n before) (hms : ms = as ++ .mention m :: bs) :
    m.declares = true ↔ Due s m.node (before ++ as) := by
  induction h generalizing before as with
  | nil => exact absurd hms (by simp)
  | @cons seen last x rest fits _ ih =>
    cases as with
    | nil =>
      obtain ⟨rfl, rfl⟩ := List.cons.inj hms
      have hm : m.declares = decide (m.node ∉ seen) := congrArg Mention.declares fits
      rw [hm, decide_eq_true_iff, List.append_nil]
      exact hist m.node
    | cons y as =>
      obtain ⟨rfl, hrest⟩ := List.cons.inj hms
      rw [ih (not_mem_after_iff_due hist) hrest, List.append_assoc, List.singleton_append]

theorem Told.mem_or_mentionedIn (h : Told s seen ms last) (hn : n ∈ last) :
    n ∈ seen ∨ MentionedIn n ms := by
  induction h with
  | nil => exact .inl hn
  | @cons seen last x rest _ _ ih =>
    rw [mentionedIn_cons]
    rcases ih hn with hafter | hrest
    · by_cases hseen : n ∈ seen
      · exact .inl hseen
      · have := mt (Mentioned.not_mem_after (s := s) (x := x)).mpr (not_not.mpr hafter)
        tauto
    · exact .inr (.inr hrest)

/-! ## From a line back to its event -/

/-- A line of the body is written by an event, and the lines before and after it by the events
before and after that. -/
theorem exists_event_of_line {line : BodyLine} {before rest : List BodyLine} {es : List Event}
    (h : (playAll s seen es).1 = before ++ line :: rest) :
    ∃ es₁ e es₂, es = es₁ ++ e :: es₂ ∧ (playAll s seen es₁).1 = before ∧
      (e.play s (playAll s seen es₁).2).1 = some line ∧
      (playAll s (e.play s (playAll s seen es₁).2).2 es₂).1 = rest := by
  induction es generalizing seen before with
  | nil => exact absurd h (by simp [playAll])
  | cons e es ih =>
    rw [playAll_cons] at h
    cases hline : (e.play s seen).1 with
    | none =>
      -- The event writes nothing, so the line comes from a later one.
      rw [hline] at h
      obtain ⟨es₁, e', es₂, rfl, hbefore, hplay, hrest⟩ := ih h
      refine ⟨e :: es₁, e', es₂, rfl, ?_, hplay, hrest⟩
      rw [playAll_cons, hline, hbefore]
      rfl
    | some first =>
      rw [hline, Option.toList_some, List.singleton_append] at h
      cases before with
      | nil =>
        obtain ⟨rfl, hrest⟩ := List.cons.inj h
        exact ⟨[], e, es, rfl, rfl, hline, hrest⟩
      | cons x before =>
        obtain ⟨rfl, htail⟩ := List.cons.inj h
        obtain ⟨es₁, e', es₂, rfl, hbefore, hplay, hrest⟩ := ih htail
        refine ⟨e :: es₁, e', es₂, rfl, ?_, hplay, hrest⟩
        rw [playAll_cons, hline, hbefore]
        rfl

theorem exists_event_of_mem {line : BodyLine} {es : List Event} (h : line ∈ (playAll s seen es).1) :
    ∃ e ∈ es, ∃ seen, (e.play s seen).1 = some line := by
  obtain ⟨lines, rest, h⟩ := List.append_of_mem h
  obtain ⟨es₁, e, es₂, rfl, -, hplay, -⟩ := exists_event_of_line h
  exact ⟨e, List.mem_append_right _ List.mem_cons_self, _, hplay⟩

/-- What a line of the body says. An edge stands between the mentions of its present ends, with a
blank or an arrowhead before its line and a blank or the quoted label behind it, and is set off in a
block; a node stands alone; and a block begins with the name of its subgraph. -/
theorem text_of_mem_bodyLines {r : Region} {line : BodyLine}
    (h : line ∈ bodyLines (s.statements seen r)) :
    (∃ (nested : Bool) (e : EdgeId) (source target : Mention),
        line = .edge nested e source target ∧
        source.node = (s.edge e).source.node ∧ target.node = (s.edge e).target.node ∧
        line.text s = (if nested then "    " else "") ++ source.text s
          ++ (if (s.edge e).source.arrow then "" else " ") ++ (s.edge e).connector
          ++ (s.edge e).label.elim " " (fun label => "|" ++ Text.quoteLabel label ++ "| ")
          ++ target.text s) ∨
      (∃ m, line = .node m ∧ line.text s = m.text s) ∨
      (∃ c, line = .opening c ∧ line.text s = "subgraph " ++ (s.chart c).name) ∨
      ∃ c, line = .closing c ∧ line.text s = "end" := by
  rw [bodyLines_statements] at h
  obtain ⟨e, -, past, hplay⟩ := exists_event_of_mem h
  cases e with
  | edge nested e =>
    cases hplay
    refine .inl ⟨nested, e, _, _, rfl, rfl, rfl, ?_⟩
    rw [BodyLine.text, Edge.text, Edge.middle, blockIndent]
    cases (s.edge e).label <;> simp only [Option.elim, String.append_assoc]
  | member n =>
    rw [Event.play] at hplay
    split at hplay <;> cases hplay
    exact .inr (.inl ⟨_, rfl, rfl⟩)
  | opening c =>
    cases hplay
    exact .inr (.inr (.inl ⟨c, rfl, rfl⟩))
  | closing c =>
    cases hplay
    exact .inr (.inr (.inr ⟨c, rfl, rfl⟩))

/-! ## Every node is mentioned -/

mutual

/-- The edges and the nodes of each chart of a region stand side by side in its script. -/
theorem exists_own_of_mem_charts {d : ChartId} (nested : Bool) : ∀ r : Region, d ∈ r.charts →
    ∃ nested' as bs, r.script s nested
      = as ++ ((s.chart d).edges.map (.edge nested') ++ (s.chart d).nodes.map .member) ++ bs
  | .mk c rs, hd => by
    rcases List.mem_cons.mp hd with rfl | hd
    · exact ⟨nested, [], Region.blocks s rs, by simp [Region.script]⟩
    · obtain ⟨nested', as, bs, hblocks⟩ := exists_own_of_mem_chartsOfAll rs hd
      exact ⟨nested', (s.chart c).edges.map (.edge nested) ++ (s.chart c).nodes.map .member ++ as,
        bs, by simp [Region.script, hblocks]⟩

theorem exists_own_of_mem_chartsOfAll {d : ChartId} : ∀ rs : List Region,
    d ∈ Region.chartsOfAll rs →
    ∃ nested as bs, Region.blocks s rs
      = as ++ ((s.chart d).edges.map (.edge nested) ++ (s.chart d).nodes.map .member) ++ bs
  | [], hd => absurd hd List.not_mem_nil
  | r :: rest, hd => by
    rcases List.mem_append.mp hd with hd | hd
    · obtain ⟨nested, as, bs, hscript⟩ := exists_own_of_mem_charts true r hd
      exact ⟨nested, .opening r.chart :: as, bs ++ .closing r.chart :: Region.blocks s rest,
        by simp [Region.blocks, hscript]⟩
    · obtain ⟨nested, as, bs, hblocks⟩ := exists_own_of_mem_chartsOfAll rest hd
      exact ⟨nested, .opening r.chart :: (r.script s true ++ .closing r.chart :: as), bs,
        by simp [Region.blocks, hblocks]⟩

end

/-- A node of a chart counts as mentioned once the edges and the nodes of the chart are written,
so if it did not at first, it is mentioned somewhere. -/
theorem mentionedIn_script_of_not_mem {r : Region} {d : ChartId} (nested : Bool)
    (hd : d ∈ r.charts) (hn : n ∈ s.nodesOf d) (hseen : n ∉ seen) :
    MentionedIn n ((playAll s seen (r.script s nested)).1.flatMap BodyLine.marks) := by
  obtain ⟨nested', as, bs, hscript⟩ := exists_own_of_mem_charts (s := s) nested r hd
  rw [hscript, playAll_append, List.flatMap_append, mentionedIn_append]
  refine .inl ?_
  have hlast : n ∈ (playAll s seen (as ++ ((s.chart d).edges.map (.edge nested')
      ++ (s.chart d).nodes.map .member))).2 := by
    rw [playAll_append]
    exact (mem_playAll_own nested' d _).mpr (.inr hn)
  exact ((told_playAll _ seen).mem_or_mentionedIn hlast).resolve_left hseen

theorem mentionedIn_of_mem_charts {r : Region} {d : ChartId} (hd : d ∈ r.charts)
    (hn : n ∈ s.nodesOf d) : MentionedIn n (marks (s.statements [] r)) := by
  rw [marks, bodyLines_statements]
  exact mentionedIn_script_of_not_mem false hd hn List.not_mem_nil

/-! ## No other node is mentioned -/

/-- The nodes that an event is about. -/
def Event.nodes (s : Store) : Event → List NodeId
  | .edge _ e => (s.edge e).nodes
  | .member n => [n]
  | .opening _ | .closing _ => []

/-- An event mentions only nodes that it is about. -/
theorem mem_nodes_of_play {e : Event} {line : BodyLine} (hplay : (e.play s seen).1 = some line)
    (h : MentionedIn n line.marks) : n ∈ e.nodes s := by
  cases e with
  | edge nested e =>
    cases hplay
    rw [BodyLine.marks, mentionedIn_cons, mentionedIn_singleton] at h
    rcases h with rfl | rfl
    · exact List.mem_cons_self
    · exact List.mem_cons_of_mem _ List.mem_cons_self
  | member m =>
    rw [Event.play] at hplay
    split at hplay <;> cases hplay
    rw [BodyLine.marks, mentionedIn_singleton] at h
    exact List.mem_singleton.mpr h.symm
  | opening c =>
    cases hplay
    exact absurd h not_mentionedIn_nil
  | closing c =>
    cases hplay
    exact absurd (mentionedIn_singleton.mp h) id

theorem exists_event_of_mentionedIn {es : List Event}
    (h : MentionedIn n ((playAll s seen es).1.flatMap BodyLine.marks)) :
    ∃ e ∈ es, n ∈ e.nodes s := by
  obtain ⟨x, hx, hmentions⟩ := h
  obtain ⟨line, hline, hx⟩ := List.mem_flatMap.mp hx
  obtain ⟨e, he, past, hplay⟩ := exists_event_of_mem hline
  exact ⟨e, he, mem_nodes_of_play hplay ⟨x, hx, hmentions⟩⟩

/-- The edges and the nodes of a chart are about nodes of the chart. -/
theorem mem_nodesOf_of_mem_own {c : ChartId} {nested : Bool} {e : Event}
    (he : e ∈ (s.chart c).edges.map (.edge nested) ++ (s.chart c).nodes.map .member)
    (hn : n ∈ e.nodes s) : n ∈ s.nodesOf c := by
  rw [Store.mem_nodesOf]
  rcases List.mem_append.mp he with he | he
  · obtain ⟨edge, hedge, rfl⟩ := List.mem_map.mp he
    exact .inr ⟨edge, hedge, hn⟩
  · obtain ⟨m, hm, rfl⟩ := List.mem_map.mp he
    rw [Event.nodes, List.mem_singleton] at hn
    exact .inl (hn ▸ hm)

mutual

/-- A script is about the nodes of the charts of its region. -/
theorem exists_chart_of_mem_script {nested : Bool} {e : Event} : ∀ r : Region,
    e ∈ r.script s nested → n ∈ e.nodes s → ∃ d ∈ r.charts, n ∈ s.nodesOf d
  | .mk c rs, he, hn => by
    rcases List.mem_append.mp he with he | he
    · exact ⟨c, List.mem_cons_self, mem_nodesOf_of_mem_own he hn⟩
    · obtain ⟨d, hd, hmem⟩ := exists_chart_of_mem_blocks rs he hn
      exact ⟨d, List.mem_cons_of_mem _ hd, hmem⟩

theorem exists_chart_of_mem_blocks {e : Event} : ∀ rs : List Region,
    e ∈ Region.blocks s rs → n ∈ e.nodes s → ∃ d ∈ Region.chartsOfAll rs, n ∈ s.nodesOf d
  | [], he, _ => absurd he List.not_mem_nil
  | r :: rest, he, hn => by
    rcases List.mem_cons.mp he with rfl | he
    · exact absurd hn List.not_mem_nil
    rcases List.mem_append.mp he with he | he
    · obtain ⟨d, hd, hmem⟩ := exists_chart_of_mem_script r he hn
      exact ⟨d, List.mem_append_left _ hd, hmem⟩
    rcases List.mem_cons.mp he with rfl | he
    · exact absurd hn List.not_mem_nil
    · obtain ⟨d, hd, hmem⟩ := exists_chart_of_mem_blocks rest he hn
      exact ⟨d, List.mem_append_right _ hd, hmem⟩

end

/-- The text of a region mentions only nodes of its charts. -/
theorem exists_chart_of_mentionedIn {r : Region}
    (h : MentionedIn n (marks (s.statements seen r))) : ∃ d ∈ r.charts, n ∈ s.nodesOf d := by
  rw [marks, bodyLines_statements] at h
  obtain ⟨e, he, hn⟩ := exists_event_of_mentionedIn h
  exact exists_chart_of_mem_script r he hn

/-! ## Declarations in the text -/

theorem Shape.length_wrap_pos (shape : Shape) (text : String) : 0 < (shape.wrap text).length := by
  have hopening : 0 < shape.opening.length := by cases shape <;> decide
  rw [wrap, String.length_append, String.length_append]
  omega

theorem Mention.text_eq_id_of_not_declares {m : Mention} (h : ¬ m.declares = true) :
    m.text s = (s.node m.node).id := by
  rw [Mention.text, if_neg h]

theorem Mention.text_eq_id_of_text_eq_empty {m : Mention} (h : (s.node m.node).text = "") :
    m.text s = (s.node m.node).id := by
  rw [Mention.text, Node.declaration, if_pos h, ite_self]

theorem Mention.text_eq_declaration_iff {m : Mention} (htext : (s.node m.node).text ≠ "") :
    m.text s = (s.node m.node).id
        ++ ((s.node m.node).shape.getD .rect).wrap (Text.quoteLabel (s.node m.node).text)
      ↔ m.declares = true := by
  constructor
  · intro h
    by_contra hbare
    rw [text_eq_id_of_not_declares hbare] at h
    have hlength := congrArg String.length h
    have hpos := Shape.length_wrap_pos ((s.node m.node).shape.getD .rect)
      (Text.quoteLabel (s.node m.node).text)
    rw [String.length_append] at hlength
    omega
  · intro h
    rw [Mention.text, if_pos h, Node.declaration, if_neg htext]

namespace Store

/-- Where no node counts as mentioned, a chart without cycles is written with a mention of every
node that it or a chart nested in it holds or joins by an edge. A mention of a node with a text
is its declaration, the identifier and the text in its shape, exactly if it is the first one, or
a block that holds the node has ended since the previous one; any other is the bare identifier. -/
theorem declares_iff_first_or_released (s : Store) (c : ChartId) (h : s.Acyclic c) :
    ∃ r, s.region? c = some r ∧
      (s.render? [] c).map (·.1)
        = some ("\n".intercalate ((s.statements [] r).map (Statement.text s))) ∧
      (∀ d, s.Nested c d → ∀ n ∈ s.nodesOf d, MentionedIn n (marks (s.statements [] r))) ∧
      ∀ before m after, marks (s.statements [] r) = before ++ .mention m :: after →
        ((s.node m.node).text ≠ "" →
          (m.text s = (s.node m.node).id
              ++ ((s.node m.node).shape.getD .rect).wrap (Text.quoteLabel (s.node m.node).text)
            ↔ ¬ MentionedIn m.node before ∨ ReleasedSince s m.node before)) ∧
        ((s.node m.node).text = "" ∨
            ¬ (¬ MentionedIn m.node before ∨ ReleasedSince s m.node before) →
          m.text s = (s.node m.node).id) := by
  obtain ⟨r, hr, rfl, hunfolds⟩ := h.exists_region
  refine ⟨r, hr, by rw [render?, hr]; rfl, fun d hd n hn => ?_, fun before m after hmarks => ?_⟩
  · exact mentionedIn_of_mem_charts (hunfolds.mem_charts.mpr hd) hn
  · rw [marks, bodyLines_statements] at hmarks
    have hist : ∀ n, n ∉ ([] : Mentioned) ↔ Due s n [] := fun n => by simp [due_nil]
    have hdeclares := (told_playAll (s := s) _ []).declares_iff hist hmarks
    rw [List.nil_append, Due] at hdeclares
    refine ⟨fun htext => (Mention.text_eq_declaration_iff htext).trans hdeclares, ?_⟩
    rintro (hempty | hbare)
    · exact Mention.text_eq_id_of_text_eq_empty hempty
    · exact Mention.text_eq_id_of_not_declares (mt hdeclares.mp hbare)

/-- A node that is mentioned, taken back at the end of a block, and declared again. -/
theorem declares_again_nestedTwice :
    nestedTwice.Acyclic ⟨2⟩ ∧ ∃ r before m after, nestedTwice.region? ⟨2⟩ = some r ∧
      marks (nestedTwice.statements [] r) = before ++ .mention m :: after ∧
      MentionedIn m.node before ∧ m.text nestedTwice = "a" ++ Shape.rect.wrap "A" := by
  refine ⟨acyclic_nestedTwice _, ?_⟩
  obtain ⟨r, hr, -, -, hdeclares⟩ :=
    declares_iff_first_or_released nestedTwice ⟨2⟩ (acyclic_nestedTwice _)
  obtain rfl : .mk ⟨2⟩ [.mk ⟨0⟩ [], .mk ⟨1⟩ [.mk ⟨0⟩ []]] = r := Option.some.inj hr
  let top : List Mark := [.mention ⟨⟨0⟩, true⟩, .mention ⟨⟨1⟩, true⟩]
  let block : List Mark := [.mention ⟨⟨0⟩, false⟩, .mention ⟨⟨1⟩, false⟩, .closing ⟨0⟩]
  refine ⟨_, top ++ block, ⟨⟨0⟩, true⟩, _, hr, rfl, ?_, ?_⟩
  · exact ⟨.mention ⟨⟨0⟩, true⟩, by decide, rfl⟩
  · refine ((hdeclares (top ++ block) ⟨⟨0⟩, true⟩ _ rfl).1 (by decide)).mpr (.inr ?_)
    refine ⟨top, .mention ⟨⟨0⟩, false⟩, block.tail, rfl, rfl, ?_, .closing ⟨0⟩, by decide, ?_⟩
    · rintro ⟨x, hx, hmentions⟩
      simp only [block, List.tail_cons, List.mem_cons, List.not_mem_nil, or_false] at hx
      rcases hx with rfl | rfl
      · exact absurd (show (⟨1⟩ : NodeId) = ⟨0⟩ from hmentions) (by decide)
      · exact hmentions
    · show (⟨0⟩ : NodeId) ∈ nestedTwice.nodesOf ⟨0⟩
      decide

end Store

end Flowchart
