import Flowchart.Chart.Types
import Mathlib.Data.List.Basic

/-!
# Connectors

A connector is an arrowhead or none, a line, and an arrowhead or none. A glyph of a line is never an
arrowhead, so the three parts can be told apart again (`Framed.eq_of_append_eq`), and the first two
glyphs of a line tell its stroke (`LineStyle.Draws.take_two`). The main statement is
`Edge.connector_decodable`: a connector has this form, and nothing that it shows is lost in it but
whether a dotted line is one rank longer.
-/

namespace Flowchart

/-! ## Texts in a frame -/

/-- A text of some characters in a frame of others. -/
structure Framed (p : Char → Bool) (before text after : List Char) : Prop where
  free_before : ∀ c ∈ before, p c = false
  all_text : ∀ c ∈ text, p c = true
  text_ne_nil : text ≠ []
  free_after : ∀ c ∈ after, p c = false

namespace Framed

variable {p : Char → Bool} {before text after before' text' after' : List Char}

/-- The frame ends at the first character of the text. -/
theorem span_before (h : Framed p before text after) :
    (before ++ (text ++ after)).takeWhile (!p ·) = before ∧
      (before ++ (text ++ after)).dropWhile (!p ·) = text ++ after := by
  have hbefore : ∀ c ∈ before, (!p c) = true := fun c hc => by simp [h.free_before c hc]
  obtain ⟨c, rest, rfl⟩ := List.exists_cons_of_ne_nil h.text_ne_nil
  have hc : p c = true := h.all_text c List.mem_cons_self
  rw [List.takeWhile_append_of_pos hbefore, List.dropWhile_append_of_pos hbefore]
  simp [hc]

/-- The text ends at the next character of the frame. -/
theorem span_text (h : Framed p before text after) :
    (text ++ after).takeWhile p = text ∧ (text ++ after).dropWhile p = after := by
  rw [List.takeWhile_append_of_pos h.all_text, List.dropWhile_append_of_pos h.all_text]
  cases hafter : after with
  | nil => simp
  | cons c rest =>
    have hc : p c = false := h.free_after c (hafter ▸ List.mem_cons_self)
    simp [hc]

/-- A text can be told from its frame. -/
theorem eq_of_append_eq (h : Framed p before text after) (h' : Framed p before' text' after')
    (heq : before ++ (text ++ after) = before' ++ (text' ++ after')) :
    before = before' ∧ text = text' ∧ after = after' := by
  have hbefore : before = before' := by rw [← h.span_before.1, heq, h'.span_before.1]
  have hrest : text ++ after = text' ++ after' := by
    rw [← h.span_before.2, heq, h'.span_before.2]
  refine ⟨hbefore, ?_, ?_⟩
  · rw [← h.span_text.1, hrest, h'.span_text.1]
  · rw [← h.span_text.2, hrest, h'.span_text.2]

end Framed

/-! ## Arrowheads -/

/-- The arrowhead that is drawn at an end of an edge. -/
def Endpoint.arrowhead? (p : Endpoint) : Option ArrowStyle :=
  if p.arrow then some p.style else none

theorem ArrowStyle.glyph_injective (x : End) : Function.Injective (ArrowStyle.glyph · x) := by
  intro a b
  cases a <;> cases b <;> cases x <;> decide

/-- The characters of a line. -/
def LineStyle.isGlyph (c : Char) : Bool :=
  c == '-' || c == '=' || c == '.'

theorem ArrowStyle.isGlyph_glyph (a : ArrowStyle) (x : End) :
    LineStyle.isGlyph (a.glyph x) = false := by
  cases a <;> cases x <;> rfl

namespace Edge

variable {e f : Edge}

/-- What an edge has at one end. -/
def atEnd (e : Edge) : End → Endpoint
  | .source => e.source
  | .target => e.target

theorem head_eq (e : Edge) (x : End) :
    e.head x = ((e.atEnd x).arrowhead?.map (ArrowStyle.glyph · x)).toList := by
  unfold head Endpoint.arrowhead?
  cases x with
  | source => cases h : e.source.arrow <;> simp [atEnd, h]
  | target => cases h : e.target.arrow <;> simp [atEnd, h]

theorem head_eq_iff {x : End} :
    e.head x = f.head x ↔ (e.atEnd x).arrowhead? = (f.atEnd x).arrowhead? := by
  rw [head_eq, head_eq]
  cases (e.atEnd x).arrowhead? <;> cases (f.atEnd x).arrowhead? <;>
    simp [(ArrowStyle.glyph_injective x).eq_iff]

theorem isGlyph_of_mem_head {x : End} {c : Char} (h : c ∈ e.head x) :
    LineStyle.isGlyph c = false := by
  rw [head_eq, Option.mem_toList, Option.map_eq_some_iff] at h
  obtain ⟨a, -, rfl⟩ := h
  exact a.isGlyph_glyph x

end Edge

/-! ## Lines -/

namespace LineStyle

/-- The lines of a stroke: at least two glyphs, all the same, or an odd number of them, at least
three, where `-` and `.` take turns and `-` comes first and last. -/
def Draws : LineStyle → List Char → Prop
  | solid, cs => ∃ n, 2 ≤ n ∧ cs = List.replicate n '-'
  | dotted, cs => ∃ n, 1 ≤ n ∧ cs = '-' :: (List.replicate n ['.', '-']).flatten
  | thick, cs => ∃ n, 2 ≤ n ∧ cs = List.replicate n '='

theorem map_glyph_dotted (n : Nat) :
    (List.range (2 * n + 1)).map dotted.glyph = '-' :: (List.replicate n ['.', '-']).flatten := by
  induction n with
  | zero => rfl
  | succ n ih =>
    have hdot : dotted.glyph (2 * n + 1) = '.' := by
      rw [glyph, if_neg (by omega)]
    have hdash : dotted.glyph (2 * n + 2) = '-' := by
      rw [glyph, if_pos (by omega)]
    rw [show 2 * (n + 1) + 1 = 2 * n + 1 + 1 + 1 by omega, List.range_succ, List.range_succ,
      List.map_append, List.map_append, ih, List.replicate_succ', List.flatten_append]
    simp [hdot, hdash]

/-- The lines of a stroke are its glyphs in turn, of which there are at least two. -/
theorem draws_iff {l : LineStyle} {cs : List Char} :
    l.Draws cs ↔ ∃ n, 2 ≤ n ∧ (l = dotted → n % 2 = 1) ∧ cs = (List.range n).map l.glyph := by
  have hconst (c : Char) (n : Nat) : (List.range n).map (fun _ => c) = List.replicate n c := by
    rw [List.map_const', List.length_range]
  cases l with
  | solid =>
    refine exists_congr fun n => and_congr_right fun _ => ?_
    rw [← hconst]
    exact (and_iff_right fun h => by cases h).symm
  | dotted =>
    constructor
    · rintro ⟨n, hn, rfl⟩
      exact ⟨2 * n + 1, by omega, fun _ => by omega, (map_glyph_dotted n).symm⟩
    · rintro ⟨n, hn, hodd, rfl⟩
      obtain ⟨k, rfl⟩ : ∃ k, n = 2 * k + 1 := ⟨n / 2, by have := hodd rfl; omega⟩
      exact ⟨k, by omega, map_glyph_dotted k⟩
  | thick =>
    refine exists_congr fun n => and_congr_right fun _ => ?_
    rw [← hconst]
    exact (and_iff_right fun h => by cases h).symm

/-- The first two glyphs of a line are those of its stroke. -/
theorem Draws.take_two {l : LineStyle} {cs : List Char} (h : l.Draws cs) :
    cs.take 2 = [l.glyph 0, l.glyph 1] := by
  obtain ⟨n, hn, -, rfl⟩ := draws_iff.mp h
  rw [← List.map_take, List.take_range, Nat.min_eq_left hn]
  rfl

/-- A line has one stroke. -/
theorem Draws.eq {l l' : LineStyle} {cs : List Char} (h : l.Draws cs) (h' : l'.Draws cs) :
    l = l' := by
  have hglyphs : [l.glyph 0, l.glyph 1] = [l'.glyph 0, l'.glyph 1] :=
    h.take_two.symm.trans h'.take_two
  revert hglyphs
  cases l <;> cases l' <;> decide

theorem isGlyph_glyph (l : LineStyle) (i : Nat) : isGlyph (l.glyph i) = true := by
  cases l with
  | solid | thick => rfl
  | dotted =>
    rw [glyph]
    split <;> rfl

theorem Draws.isGlyph_of_mem {l : LineStyle} {cs : List Char} (h : l.Draws cs) {c : Char}
    (hc : c ∈ cs) : isGlyph c = true := by
  obtain ⟨n, -, -, rfl⟩ := draws_iff.mp h
  obtain ⟨i, -, rfl⟩ := List.mem_map.mp hc
  exact l.isGlyph_glyph i

theorem Draws.ne_nil {l : LineStyle} {cs : List Char} (h : l.Draws cs) : cs ≠ [] := by
  rintro rfl
  exact absurd h.take_two (by simp)

end LineStyle

namespace Edge

variable {e f : Edge}

/-- The number of glyphs of the line that an arrowhead takes the place of. -/
def arrowRoom (e : Edge) : Nat :=
  if (e.atEnd .source).arrowhead?.isSome || (e.atEnd .target).arrowhead?.isSome then 1 else 0

theorem arrowRoom_le (e : Edge) : e.arrowRoom ≤ 1 := by
  unfold arrowRoom
  split <;> omega

/-- A dotted line has the next odd number of glyphs. -/
theorem lineLength_eq (e : Edge) :
    e.lineLength = if e.line = .dotted then 2 * ((3 + e.depth - e.arrowRoom) / 2) + 1
      else 3 + e.depth - e.arrowRoom := by
  have hroom : (if e.source.arrow || e.target.arrow then 1 else 0) = e.arrowRoom := by
    unfold arrowRoom atEnd Endpoint.arrowhead?
    cases e.source.arrow <;> cases e.target.arrow <;> rfl
  unfold lineLength
  rw [hroom]
  by_cases h : e.line = .dotted
  · simp only [h, true_and, if_true]
    split <;> omega
  · simp only [h, false_and, if_false]

theorem two_le_lineLength (e : Edge) : 2 ≤ e.lineLength := by
  have hroom := e.arrowRoom_le
  rw [lineLength_eq]
  split <;> omega

theorem length_body (e : Edge) : e.body.length = e.lineLength := by
  rw [body, List.length_map, List.length_range]

theorem draws_body (e : Edge) : e.line.Draws e.body := by
  refine LineStyle.draws_iff.mpr ⟨e.lineLength, e.two_le_lineLength, fun h => ?_, rfl⟩
  rw [lineLength_eq, if_pos h]
  omega

theorem framed_body (e : Edge) :
    Framed LineStyle.isGlyph (e.head .source) e.body (e.head .target) where
  free_before := fun _ hc => isGlyph_of_mem_head hc
  all_text := fun _ hc => e.draws_body.isGlyph_of_mem hc
  text_ne_nil := e.draws_body.ne_nil
  free_after := fun _ hc => isGlyph_of_mem_head hc

theorem body_eq_iff : e.body = f.body ↔ e.line = f.line ∧ e.lineLength = f.lineLength := by
  constructor
  · intro h
    refine ⟨e.draws_body.eq (h ▸ f.draws_body), ?_⟩
    rw [← e.length_body, h, f.length_body]
  · rintro ⟨hline, hlength⟩
    rw [body, hline, hlength, body]

/-- Connectors are the same exactly if their three parts are. -/
theorem connector_eq_iff :
    e.connector = f.connector ↔
      (∀ x, (e.atEnd x).arrowhead? = (f.atEnd x).arrowhead?) ∧ e.line = f.line ∧
        e.lineLength = f.lineLength := by
  rw [connector, connector, String.ofList_inj, List.append_assoc, List.append_assoc]
  constructor
  · intro h
    obtain ⟨hsource, hbody, htarget⟩ := e.framed_body.eq_of_append_eq f.framed_body h
    refine ⟨fun x => ?_, body_eq_iff.mp hbody⟩
    cases x with
    | source => exact head_eq_iff.mp hsource
    | target => exact head_eq_iff.mp htarget
  · rintro ⟨hheads, hline⟩
    rw [head_eq_iff.mpr (hheads .source), head_eq_iff.mpr (hheads .target), body_eq_iff.mpr hline]

/-- Lines of one stroke between the same arrowheads differ in length if their depths do, but for
dotted lines of neighbouring depths. -/
theorem depth_cases (hheads : ∀ x, (e.atEnd x).arrowhead? = (f.atEnd x).arrowhead?)
    (hline : e.line = f.line) (hlength : e.lineLength = f.lineLength) :
    e.depth = f.depth ∨ e.line = .dotted ∧ (e.depth = f.depth + 1 ∨ f.depth = e.depth + 1) := by
  have hroom : e.arrowRoom = f.arrowRoom := by
    rw [arrowRoom, hheads .source, hheads .target, arrowRoom]
  have hle := f.arrowRoom_le
  rw [lineLength_eq, lineLength_eq, hroom, hline] at hlength
  rw [hline]
  by_cases hdotted : f.line = .dotted
  · rw [if_pos hdotted, if_pos hdotted] at hlength
    by_cases hdepth : e.depth = f.depth
    · exact .inl hdepth
    · exact .inr ⟨hdotted, by omega⟩
  · rw [if_neg hdotted, if_neg hdotted] at hlength
    exact .inl (by omega)

/-- A connector is an arrowhead or none, a line of its stroke and length, and an arrowhead or none.
Two edges with one connector have the same arrowheads at the same ends, the same stroke and the same
depth, but for dotted lines, whose depths may differ by one. -/
theorem connector_decodable :
    (∀ e : Edge, ∃ source line target : List Char,
      e.connector.toList = source ++ line ++ target ∧
      source ∈ [[], ['<'], ['o'], ['x']] ∧ target ∈ [[], ['>'], ['o'], ['x']] ∧
      line.length = e.lineLength ∧ e.line.Draws line) ∧
    ∀ e f : Edge, e.connector = f.connector →
      (∀ x, (e.atEnd x).arrowhead? = (f.atEnd x).arrowhead?) ∧ e.line = f.line ∧
      (e.depth = f.depth ∨
        e.line = .dotted ∧ (e.depth = f.depth + 1 ∨ f.depth = e.depth + 1)) := by
  constructor
  · intro e
    refine ⟨e.head .source, e.body, e.head .target, String.toList_ofList, ?_, ?_,
      e.length_body, e.draws_body⟩
    · rw [head_eq]
      rcases (e.atEnd .source).arrowhead? with _ | _ | _ | _ <;> decide
    · rw [head_eq]
      rcases (e.atEnd .target).arrowhead? with _ | _ | _ | _ <;> decide
  · intro e f h
    obtain ⟨hheads, hline, hlength⟩ := connector_eq_iff.mp h
    exact ⟨hheads, hline, depth_cases hheads hline hlength⟩

/-- A dotted line of some depth between a round arrowhead and a cross. -/
def roundToCross (depth : Nat) : Edge where
  source := { node := ⟨0⟩, arrow := true, style := .round }
  target := { node := ⟨1⟩, arrow := true, style := .cross }
  depth
  line := .dotted

/-- Two neighbouring depths have the connector `o-.-.-x`. -/
theorem connector_roundToCross :
    (roundToCross 2).connector = (roundToCross 3).connector ∧
      (∀ x, ((roundToCross 2).atEnd x).arrowhead? = ((roundToCross 3).atEnd x).arrowhead?) ∧
      (roundToCross 2).line = (roundToCross 3).line ∧
      ((roundToCross 2).depth = (roundToCross 3).depth ∨ (roundToCross 2).line = .dotted ∧
        ((roundToCross 2).depth = (roundToCross 3).depth + 1 ∨
          (roundToCross 3).depth = (roundToCross 2).depth + 1)) := by
  have h : (roundToCross 2).connector = (roundToCross 3).connector := by decide
  exact ⟨h, connector_decodable.2 _ _ h⟩

end Edge

end Flowchart
