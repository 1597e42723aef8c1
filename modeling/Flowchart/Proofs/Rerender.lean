import Flowchart.Proofs.Blocks
import Flowchart.Proofs.Redeclaration
import Flowchart.Proofs.Steps

/-!
# Rendering a chart twice

The text of a chart depends on what counts as mentioned when it is written, and a session may write
a node or an edge by itself, outside of any chart. The nodes that it mentions so count as mentioned
until they are reset or a chart that holds them is written: the first text of such a chart leaves
their declarations out, or the nodes themselves, and the second one does not
(`text_differs_loneMember`).

The main statement is `Session.render?_twice`. From the second time on the text is the one that the
chart has where no node counts as mentioned; the statements of the first text are the same exactly
if no node of the chart or of a chart nested in it counts as mentioned (`statements_eq_iff`); and
in a session that writes no node and no edge by itself none ever does
(`Session.seen_runAll_subset`).
-/

namespace Flowchart

variable {s : Store} {n : NodeId} {a b last : Mentioned} {r : Region} {ms : List Mark}

/-! ## Pasts that agree -/

/-- Two pasts agree on some nodes. -/
def AgreeOn (P : NodeId → Prop) (a b : Mentioned) : Prop :=
  ∀ n, P n → (n ∈ a ↔ n ∈ b)

section Agree

variable {P : NodeId → Prop}

theorem AgreeOn.mention_eq (h : AgreeOn P a b) (hn : P n) : a.mention n = b.mention n := by
  simp only [Mentioned.mention, h n hn]

theorem AgreeOn.add (h : AgreeOn P a b) (n : NodeId) : AgreeOn P (a.add n) (b.add n) := by
  intro m hm
  rw [Mentioned.mem_add, Mentioned.mem_add, h m hm]

theorem AgreeOn.release (h : AgreeOn P a b) (s : Store) (c : ChartId) :
    AgreeOn P (a.release s c) (b.release s c) := by
  intro m hm
  rw [Mentioned.mem_release, Mentioned.mem_release, h m hm]

/-- An event that is about nodes on which two pasts agree writes the same after both. -/
theorem AgreeOn.play (h : AgreeOn P a b) {e : Event} (he : ∀ n ∈ e.nodes s, P n) :
    (e.play s a).1 = (e.play s b).1 ∧ AgreeOn P (e.play s a).2 (e.play s b).2 := by
  cases e with
  | edge nested e =>
    have hsource : P (s.edge e).source.node := he _ (by simp [Event.nodes, Edge.nodes])
    have htarget : P (s.edge e).target.node := he _ (by simp [Event.nodes, Edge.nodes])
    have hafter := h.add (s.edge e).source.node
    refine ⟨?_, hafter.add _⟩
    simp only [Event.play, h.mention_eq hsource, hafter.mention_eq htarget]
  | member n =>
    have hn : P n := he n (by simp [Event.nodes])
    -- The node is written after both pasts or after neither.
    by_cases ha : n ∈ a
    · have hb : n ∈ b := (h n hn).mp ha
      simp only [Event.play, if_pos ha, if_pos hb]
      exact ⟨trivial, h⟩
    · have hb : n ∉ b := mt (h n hn).mpr ha
      simp only [Event.play, if_neg ha, if_neg hb, h.mention_eq hn]
      exact ⟨trivial, h.add n⟩
  | opening c => exact ⟨rfl, h⟩
  | closing c => exact ⟨rfl, h.release s c⟩

theorem AgreeOn.playAll {es : List Event} (h : AgreeOn P a b)
    (hes : ∀ e ∈ es, ∀ n ∈ e.nodes s, P n) : (playAll s a es).1 = (playAll s b es).1 := by
  induction es generalizing a b with
  | nil => rfl
  | cons e rest ih =>
    obtain ⟨hline, hafter⟩ := h.play (hes e List.mem_cons_self)
    rw [playAll_cons, playAll_cons, hline,
      ih hafter fun e he => hes e (List.mem_cons_of_mem _ he)]

end Agree

/-- The statements of a region depend only on which of its own nodes count as mentioned. -/
theorem statements_congr (h : AgreeOn (fun n => ∃ d ∈ r.charts, n ∈ s.nodesOf d) a b) :
    s.statements a r = s.statements b r := by
  have hlines : (playAll s a (r.script s false)).1 = (playAll s b (r.script s false)).1 :=
    h.playAll fun e he n hn => exists_chart_of_mem_script r he hn
  rw [Store.statements, Store.statements, hlines]

/-! ## Pasts that differ -/

/-- If some block that holds a node ends, the node has been mentioned before that. -/
inductive MentionedFirst (s : Store) (n : NodeId) : List Mark → Prop where
  | nil : MentionedFirst s n []
  | mentioned {x : Mark} {rest : List Mark} (h : x.Mentions n) : MentionedFirst s n (x :: rest)
  | cons {x : Mark} {rest : List Mark} (h : ¬ x.Releases s n) (tail : MentionedFirst s n rest) :
      MentionedFirst s n (x :: rest)

theorem MentionedFirst.append {as bs : List Mark} (h : MentionedFirst s n as)
    (hbs : MentionedIn n as ∨ MentionedFirst s n bs) : MentionedFirst s n (as ++ bs) := by
  induction h with
  | nil => exact hbs.resolve_left not_mentionedIn_nil
  | mentioned h => exact .mentioned h
  | @cons x rest h _ ih =>
    by_cases hx : x.Mentions n
    · exact .mentioned hx
    · exact .cons h (ih (hbs.imp_left fun hm => (mentionedIn_cons.mp hm).resolve_left hx))

theorem mentionedFirst_of_forall (h : ∀ x ∈ ms, ¬ x.Releases s n) : MentionedFirst s n ms := by
  induction ms with
  | nil => exact .nil
  | cons x rest ih =>
    exact .cons (h x List.mem_cons_self) (ih fun y hy => h y (List.mem_cons_of_mem _ hy))

/-- The end of a block is no matter if the node is mentioned before it or is not held by it. -/
theorem MentionedFirst.append_closing {c : ChartId} {as bs : List Mark}
    (h : MentionedFirst s n as) (hc : n ∈ s.nodesOf c → MentionedIn n as)
    (hbs : MentionedIn n as ∨ MentionedFirst s n bs) :
    MentionedFirst s n (as ++ .closing c :: bs) := by
  refine h.append ?_
  by_cases hn : n ∈ s.nodesOf c
  · exact .inl (hc hn)
  · exact hbs.imp_right (.cons hn)

mutual

/-- A region mentions each of its nodes before a block takes it back. -/
theorem mentionedFirst_script (nested : Bool) : ∀ (r : Region) (seen : Mentioned), n ∉ seen →
    MentionedFirst s n ((playAll s seen (r.script s nested)).1.flatMap BodyLine.marks)
  | .mk c rs, seen, hn => by
    -- Among the edges and the nodes of the chart itself no block ends.
    have hown : MentionedFirst s n ((playAll s seen ((s.chart c).edges.map (.edge nested)
        ++ (s.chart c).nodes.map .member)).1.flatMap BodyLine.marks) := by
      apply mentionedFirst_of_forall
      rintro (m | d) hx hrel
      · exact hrel
      · simpa using closing_mem_of_mem_marks hx
    rw [Region.script, playAll_append, List.flatMap_append]
    refine hown.append ?_
    -- After them the node has been mentioned, or the blocks begin as the chart did.
    by_cases hlast : n ∈ (playAll s seen ((s.chart c).edges.map (.edge nested)
        ++ (s.chart c).nodes.map .member)).2
    · exact .inl (((told_playAll _ seen).mem_or_mentionedIn hlast).resolve_left hn)
    · exact .inr (mentionedFirst_blocks rs _ hlast)

theorem mentionedFirst_blocks : ∀ (rs : List Region) (seen : Mentioned), n ∉ seen →
    MentionedFirst s n ((playAll s seen (Region.blocks s rs)).1.flatMap BodyLine.marks)
  | [], _, _ => .nil
  | r :: rest, seen, hn => by
    have hmarks : (playAll s seen (Region.blocks s (r :: rest))).1.flatMap BodyLine.marks
        = (playAll s seen (r.script s true)).1.flatMap BodyLine.marks ++ .closing r.chart
          :: (playAll s ((playAll s seen (r.script s true)).2.release s r.chart)
            (Region.blocks s rest)).1.flatMap BodyLine.marks := by
      rw [playAll_blocks_cons]
      simp [BodyLine.marks]
    rw [hmarks]
    refine (mentionedFirst_script true r seen hn).append_closing (fun hc => ?_) ?_
    · exact mentionedIn_script_of_not_mem true r.chart_mem_charts hc hn
    · by_cases hlast : n ∈ (playAll s seen (r.script s true)).2.release s r.chart
      · have hinside := (Mentioned.mem_release.mp hlast).1
        exact .inl (((told_playAll _ seen).mem_or_mentionedIn hinside).resolve_left hn)
      · exact .inr (mentionedFirst_blocks rest _ hlast)

end

/-- A mark that suits two writers mentions no node that counts as mentioned for one of them only. -/
theorem Mark.Fits.not_mentions {x : Mark} (ha : x.Fits a) (hb : x.Fits b) (hna : n ∉ a)
    (hnb : n ∈ b) : ¬ x.Mentions n := by
  cases x with
  | closing c => exact id
  | mention m =>
    rintro rfl
    have hmention : a.mention m.node = b.mention m.node := ha.symm.trans hb
    simp [Mentioned.mention, hna, hnb] at hmention

/-- Two writers leave different marks if a node counts as mentioned for one of them only, and is
mentioned before a block takes it back. -/
theorem Told.not_mentionedIn {last' : Mentioned} (ha : Told s a ms last) (hb : Told s b ms last')
    (hna : n ∉ a) (hnb : n ∈ b) (hfirst : MentionedFirst s n ms) : ¬ MentionedIn n ms := by
  induction hfirst generalizing a b with
  | nil => exact not_mentionedIn_nil
  | @mentioned x rest hx =>
    cases ha with | cons fita _ =>
    cases hb with | cons fitb _ =>
    exact absurd hx (fita.not_mentions fitb hna hnb)
  | @cons x rest hrel _ ih =>
    cases ha with | cons fita resta =>
    cases hb with | cons fitb restb =>
    have hx := fita.not_mentions fitb hna hnb
    have hna' : n ∉ a.after s x := Mentioned.not_mem_after.mpr ⟨hx, .inl hna⟩
    have hnb' : n ∈ b.after s x := by
      by_contra hout
      rcases (Mentioned.not_mem_after.mp hout).2 with h | h
      · exact h hnb
      · exact hrel h
    rw [mentionedIn_cons]
    exact not_or.mpr ⟨hx, ih resta restb hna' hnb'⟩

/-- The statements of a region after two pasts, of which one is empty, are the same exactly if none
of its nodes counts as mentioned in the other. -/
theorem statements_eq_iff :
    s.statements a r = s.statements [] r ↔ ∀ d ∈ r.charts, ∀ n ∈ s.nodesOf d, n ∉ a := by
  constructor
  · intro heq d hd n hn hna
    -- Where the node is mentioned first, only the writer without a past declares it.
    have ha := told_playAll (s := s) (r.script s false) a
    have hempty := told_playAll (s := s) (r.script s false) []
    have hmarks := congrArg marks heq
    rw [marks, marks, bodyLines_statements, bodyLines_statements] at hmarks
    rw [hmarks] at ha
    exact hempty.not_mentionedIn ha List.not_mem_nil hna
      (mentionedFirst_script false r [] List.not_mem_nil)
      (mentionedIn_script_of_not_mem false hd hn List.not_mem_nil)
  · intro h
    apply statements_congr
    rintro n ⟨d, hd, hn⟩
    simp [h d hd n hn]

/-! ## What sessions leave -/

variable {given : Thing → Prop}

theorem Workspace.Change.seen_eq {w after : Workspace} (h : w.Change given after) :
    after.seen = w.seen := by
  cases h <;> rfl

theorem Workspace.Changes.seen_eq {w after : Workspace} (h : w.Changes given after) :
    after.seen = w.seen := by
  induction h with
  | refl => rfl
  | tail _ h ih => rw [h.seen_eq, ih]

/-- A move that writes nothing alone adds nothing to what counts as mentioned. -/
theorem Workspace.Move.seen_subset {scope : Scope} {w after : Workspace}
    (h : w.Move scope after) (halone : ¬ scope.alone) : after.seen ⊆ w.seen := by
  cases h with
  | changes _ h => exact h.changes.seen_eq ▸ List.Subset.refl _
  | copyChart | updateNode | updateEdge | updateClass | updateDirective => exact List.Subset.refl _
  | @render c text _ h =>
    obtain ⟨⟨text', seen⟩, hrender, heq⟩ := Option.map_eq_some_iff.mp h
    obtain ⟨r, -, hr⟩ := Option.map_eq_some_iff.mp hrender
    cases heq
    cases hr
    exact fun n hn => ((mem_mentionedAfter r w.seen).mp hn).1
  | renderNode h => exact absurd h halone
  | renderEdge h => exact absurd h halone
  | resetNode n => exact List.filter_subset_self _

namespace Session

theorem seen_step_subset {s : Session} {st : Step} (h : ¬ st.WritesAlone) :
    (s.step st).1.workspace.seen ⊆ s.workspace.seen :=
  (s.move_step st).seen_subset h

/-- Where no step writes a node or an edge by itself, nothing comes to count as mentioned. -/
theorem seen_runAll_subset {steps : List Step} (h : ∀ st ∈ steps, ¬ st.WritesAlone) (s : Session) :
    (s.runAll steps).1.workspace.seen ⊆ s.workspace.seen := by
  induction steps generalizing s with
  | nil => exact List.Subset.refl _
  | cons st rest ih =>
    have hrest := ih (fun st hst => h st (List.mem_cons_of_mem _ hst)) (s.step st).1
    exact List.Subset.trans hrest (seen_step_subset (h st List.mem_cons_self))

/-- After any steps, a chart without cycles can be written twice in a row. The second text is the
one that the chart has where no node counts as mentioned, and it mentions every node that the chart
or a chart nested in it holds or joins by an edge. So does the first text, except perhaps for nodes
that count as mentioned already and are at no end of an edge; and the statements of the two are the
same exactly if none of the nodes counts as mentioned already. If no step has written a node or an
edge by itself, none does. -/
theorem render?_twice (steps : List Step) (c : ChartId)
    (h : (runAll {} steps).1.workspace.store.Acyclic c) :
    let w := (runAll {} steps).1.workspace
    let s := w.store
    ∃ r after last, s.region? c = some r ∧
      w.render? c = some ("\n".intercalate ((s.statements w.seen r).map (Statement.text s)),
        { w with seen := after }) ∧
      ({ w with seen := after } : Workspace).render? c
        = some ("\n".intercalate ((s.statements [] r).map (Statement.text s)),
          { w with seen := last }) ∧
      (∀ n, n ∈ last ↔ n ∈ after) ∧
      (∀ d, s.Nested c d → ∀ n ∈ s.nodesOf d,
        MentionedIn n (marks (s.statements [] r)) ∧
          (n ∉ w.seen ∨ (∃ e ∈ (s.chart d).edges, n ∈ (s.edge e).nodes) →
            MentionedIn n (marks (s.statements w.seen r)))) ∧
      (s.statements w.seen r = s.statements [] r
        ↔ ∀ d, s.Nested c d → ∀ n ∈ s.nodesOf d, n ∉ w.seen) ∧
      ((∀ st ∈ steps, ¬ st.WritesAlone) → w.seen = []) := by
  intro w s
  obtain ⟨r, hr, rfl, hunfolds⟩ := Store.Acyclic.exists_region h
  have hafter : ∀ d ∈ r.charts, ∀ n ∈ s.nodesOf d, n ∉ s.mentionedAfter w.seen r :=
    fun d hd n hn hmem => ((mem_mentionedAfter r w.seen).mp hmem).2 d hd hn
  refine ⟨r, s.mentionedAfter w.seen r, s.mentionedAfter (s.mentionedAfter w.seen r) r, hr,
    Workspace.render?_eq_some hr, ?_, fun n => ?_, fun d hd n hn => ⟨?_, fun hreason => ?_⟩, ?_,
    fun halone => ?_⟩
  · -- After the first text none of the nodes counts as mentioned.
    rw [← statements_eq_iff.mpr hafter]
    exact Workspace.render?_eq_some hr
  · rw [mem_mentionedAfter, and_iff_left_iff_imp]
    exact fun hn d hd hnode => hafter d hd n hnode hn
  · exact mentionedIn_of_mem_charts (hunfolds.mem_charts.mpr hd) hn
  · rw [marks, bodyLines_statements]
    rcases hreason with hseen | ⟨e, he, hend⟩
    · exact mentionedIn_script_of_not_mem false (hunfolds.mem_charts.mpr hd) hn hseen
    · exact mentionedIn_script_of_edge false (hunfolds.mem_charts.mpr hd) he hend
  · rw [statements_eq_iff]
    simp only [hunfolds.mem_charts]
    exact Iff.rfl
  · exact List.eq_nil_of_subset_nil (seen_runAll_subset halone {})

/-- A chart with one edge, which is written by itself before its source is reset. -/
def loneEdge : List Step :=
  [.newNode "a" "a" "A", .newNode "b" "b" "B", .newEdge "e" "a" "b" none, .newChart "c",
    .chart "c" (.add .edge ["e"]), .edge "e" .render, .node "a" .reset]

/-- The target of the edge is declared in the second text only, and mentioned in both. -/
theorem render?_twice_loneEdge :
    let w := (runAll {} loneEdge).1.workspace
    w.store.Acyclic ⟨0⟩ ∧ ∃ r after last, w.store.region? ⟨0⟩ = some r ∧
      w.render? ⟨0⟩ = some ("\n".intercalate ["flowchart TB", "a[A] --- b"],
        { w with seen := after }) ∧
      ({ w with seen := after } : Workspace).render? ⟨0⟩
        = some ("\n".intercalate ["flowchart TB", "a[A] --- b[B]"], { w with seen := last }) ∧
      MentionedIn ⟨1⟩ (marks (w.store.statements w.seen r)) ∧
      w.store.statements w.seen r ≠ w.store.statements [] r := by
  intro w
  have hacyclic : w.store.Acyclic ⟨0⟩ := by
    rw [← Store.region?_isSome_iff]
    decide +kernel
  refine ⟨hacyclic, ?_⟩
  obtain ⟨r, after, last, hr, hfirst, hsecond, -, hmentioned, hsame, -⟩ :=
    render?_twice loneEdge ⟨0⟩ hacyclic
  have hregion : w.store.region? ⟨0⟩ = some (.mk ⟨0⟩ []) := rfl
  obtain rfl : .mk ⟨0⟩ [] = r := Option.some.inj (hregion.symm.trans hr)
  have hholds : (⟨1⟩ : NodeId) ∈ w.store.nodesOf ⟨0⟩ := by decide +kernel
  have hend : ∃ e ∈ (w.store.chart ⟨0⟩).edges, ⟨1⟩ ∈ (w.store.edge e).nodes := by decide +kernel
  have hseen : (⟨1⟩ : NodeId) ∈ w.seen := by decide +kernel
  have hfirstText : (w.store.statements w.seen (.mk ⟨0⟩ [])).map (Statement.text w.store)
      = ["flowchart TB", "a[A] --- b"] := by decide +kernel
  have hsecondText : (w.store.statements [] (.mk ⟨0⟩ [])).map (Statement.text w.store)
      = ["flowchart TB", "a[A] --- b[B]"] := by decide +kernel
  refine ⟨_, after, last, hr, ?_, ?_, ?_, fun heq => ?_⟩
  · rw [← hfirstText]
    exact hfirst
  · rw [← hsecondText]
    exact hsecond
  · exact (hmentioned ⟨0⟩ .refl ⟨1⟩ hholds).2 (.inr hend)
  · exact hsame.mp heq ⟨0⟩ .refl ⟨1⟩ hholds hseen

/-- A chart with one node, which is written by itself. -/
def loneMember : List Step :=
  [.newNode "a" "a" "A", .newChart "c", .chart "c" (.add .node ["a"]), .node "a" .render]

/-- The first text leaves the node out, and the second does not. -/
theorem text_differs_loneMember :
    let w := (runAll {} loneMember).1.workspace
    w.store.Acyclic ⟨0⟩ ∧ ⟨0⟩ ∈ (w.store.chart ⟨0⟩).nodes ∧
      (w.renderAll? [⟨0⟩, ⟨0⟩]).map (·.1)
        = some ["flowchart TB", "\n".intercalate ["flowchart TB", "a[A]"]] ∧
      ∃ r, w.store.region? ⟨0⟩ = some r ∧
        ¬ MentionedIn ⟨0⟩ (marks (w.store.statements w.seen r)) := by
  intro w
  have hacyclic : w.store.Acyclic ⟨0⟩ := by
    rw [← Store.region?_isSome_iff]
    decide +kernel
  refine ⟨hacyclic, by decide +kernel, by decide +kernel, .mk ⟨0⟩ [], rfl, ?_⟩
  have hmarks : marks (w.store.statements w.seen (.mk ⟨0⟩ [])) = [] := by decide +kernel
  rw [hmarks]
  exact not_mentionedIn_nil

end Session

end Flowchart
