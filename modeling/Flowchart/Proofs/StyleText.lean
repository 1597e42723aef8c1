import Flowchart.Proofs.Separated
import Flowchart.Style

/-!
# Styles as text

The declarations of a style are written without any escapes. A value can thus be read again only
if no comma in it ends its declaration early and no blank at its ends is trimmed off. The main
statement is `parse_declarations`: these are the only values that are lost, and what was once read
is read again from its own declarations.
-/

namespace Flowchart.StyleProperties

open Text

/-- A value that a declaration can hold: it may be empty and hold colons. -/
structure Declarable (value : String) : Prop where
  noComma : ',' ∉ value.toList
  trimmed : Trimmed isBlank value.toList

/-- Every value that is set can be held by a declaration. -/
def Legible (s : StyleProperties) : Prop :=
  ∀ p, ∀ value ∈ s.get p, Declarable value

/-! ## Reading gives legible styles -/

theorem legible_empty : Legible {} := by
  intro p value hvalue
  cases p <;> simp [get] at hvalue

theorem Legible.set {s : StyleProperties} (h : s.Legible) (p : StyleProperty) {value : String}
    (hvalue : Declarable value) : (s.set p (some value)).Legible := by
  intro q v hv
  rw [get_set] at hv
  split at hv
  · obtain rfl : value = v := by simpa using hv
    exact hvalue
  · exact h q v hv

theorem Legible.setAll {s : StyleProperties} (h : s.Legible)
    {entries : List (StyleProperty × String)} (hentries : ∀ e ∈ entries, Declarable e.2) :
    (s.setAll (entries.map fun e => (e.1, some e.2))).Legible := by
  induction entries generalizing s with
  | nil => exact h
  | cons e entries ih =>
    have hset := h.set e.1 (hentries e List.mem_cons_self)
    exact ih hset fun e' he' => hentries e' (List.mem_cons_of_mem _ he')

/-- The value of a declaration is a part of it, without the blanks at its ends. -/
theorem declarable_of_readDeclaration? {text : List Char} (htext : ',' ∉ text)
    {e : StyleProperty × String} (h : readDeclaration? text = some e) : Declarable e.2 := by
  unfold readDeclaration? at h
  obtain ⟨⟨key, value⟩, hsplit, h⟩ := Option.bind_eq_some_iff.mp h
  obtain ⟨p, -, h⟩ := Option.bind_eq_some_iff.mp h
  obtain rfl := Option.some.inj h
  constructor
  · rw [String.toList_ofList]
    intro hcomma
    rw [eq_append_of_splitFirst? hsplit] at htext
    have hvalue : ',' ∈ value := mem_of_mem_trimBy hcomma
    simp [hvalue] at htext
  · rw [String.toList_ofList]
    exact trimmed_trimBy isBlank value

theorem legible_parse (text : String) : (parse text).Legible := by
  refine legible_empty.setAll fun e he => ?_
  obtain ⟨piece, hpiece, hread⟩ := List.mem_filterMap.mp he
  refine declarable_of_readDeclaration? (fun hcomma => ?_) hread
  have hfree := (of_mem_splitOnP hpiece ',' hcomma).2
  simp at hfree

/-! ## Legible styles are read again -/

theorem splitFirst?_declaration (p : StyleProperty) (value : String) :
    splitFirst? ':' (declaration p value).toList = some (p.key.toList, value.toList) := by
  have hcolon : ':' ∉ p.key.toList := by cases p <;> decide
  have htext : (declaration p value).toList = p.key.toList ++ ':' :: value.toList := by
    simp [declaration]
  rw [htext, splitFirst?_append hcolon]

theorem readDeclaration?_declaration (p : StyleProperty) {value : String}
    (h : Trimmed isBlank value.toList) :
    readDeclaration? (declaration p value).toList = some (p, value) := by
  have hkey : trim p.key.toList = p.key.toList := by cases p <;> decide
  have hvalue : trim value.toList = value.toList := trimBy_eq_self_iff.mpr h
  rw [readDeclaration?, splitFirst?_declaration]
  simp [hkey, hvalue, StyleProperty.ofKey?_key]

/-- The properties that are set, in the order of their declarations. -/
def settings (s : StyleProperties) : List (StyleProperty × String) :=
  StyleProperty.members.filterMap fun p => (s.get p).map fun value => (p, value)

theorem declarationList_eq (s : StyleProperties) :
    s.declarationList = s.settings.map fun e => declaration e.1 e.2 := by
  simp [declarationList, settings, List.map_filterMap, Function.comp_def]

theorem mem_settings {s : StyleProperties} {e : StyleProperty × String} (h : e ∈ s.settings) :
    e.2 ∈ s.get e.1 := by
  obtain ⟨p, -, he⟩ := List.mem_filterMap.mp h
  obtain ⟨value, hvalue, rfl⟩ := Option.map_eq_some_iff.mp he
  exact hvalue

/-- The declarations of a legible style are cut where they were joined. -/
theorem Legible.filterMap_splitOn {s : StyleProperties} (h : s.Legible) :
    (s.declarations.toList.splitOn ',').filterMap readDeclaration? = s.settings := by
  have htext : s.declarations.toList
      = [','].intercalate (s.settings.map fun e => (declaration e.1 e.2).toList) := by
    rw [declarations, String.toList_intercalate, declarationList_eq, List.map_map]
    rfl
  have hcomma : ∀ piece ∈ s.settings.map fun e => (declaration e.1 e.2).toList, ',' ∉ piece := by
    intro piece hpiece
    obtain ⟨e, he, rfl⟩ := List.mem_map.mp hpiece
    have hkey : ',' ∉ e.1.key.toList := by cases e.1 <;> decide
    simpa [declaration, hkey] using (h e.1 e.2 (mem_settings he)).noComma
  have hread : ∀ e ∈ s.settings, readDeclaration? (declaration e.1 e.2).toList = some e :=
    fun e he => readDeclaration?_declaration e.1 (h e.1 e.2 (mem_settings he)).trimmed
  rw [htext]
  by_cases hnil : s.settings = []
  · rw [hnil]
    rfl
  · rw [List.splitOn_intercalate ',' hcomma (by simpa using hnil), List.filterMap_map]
    exact (List.filterMap_congr hread).trans List.filterMap_some

/-- Applying the settings of some properties gives these properties their values. -/
theorem get_setAll_filterMap (s t : StyleProperties) (ps : List StyleProperty)
    (q : StyleProperty) :
    (t.setAll (ps.filterMap fun p => (s.get p).map fun value => (p, some value))).get q
      = if q ∈ ps then (s.get q).or (t.get q) else t.get q := by
  induction ps generalizing t with
  | nil => rfl
  | cons p ps ih =>
    cases hp : s.get p with
    | none =>
      rw [List.filterMap_cons_none (by simp [hp]), ih]
      by_cases hq : q = p <;> simp [hq, hp]
    | some value =>
      rw [List.filterMap_cons_some (by simp [hp]; rfl)]
      change (setAll (t.set p (some value)) _).get q = _
      rw [ih, get_set]
      by_cases hq : q = p <;> simp [hq, hp]

theorem setAll_settings (s : StyleProperties) :
    setAll {} (s.settings.map fun e => (e.1, some e.2)) = s := by
  apply ext_get
  intro q
  have hmem : q ∈ StyleProperty.members := by cases q <;> decide
  have hempty : ({} : StyleProperties).get q = none := by cases q <;> rfl
  rw [settings, List.map_filterMap]
  simp only [Option.map_map, Function.comp_def]
  rw [get_setAll_filterMap, if_pos hmem, hempty, Option.or_none]

/-- A style is read from its own declarations exactly if it is legible, and what is read from any
text is legible. -/
theorem parse_declarations :
    (∀ s : StyleProperties, parse s.declarations = s ↔ s.Legible) ∧
      ∀ text : String, parse (parse text).declarations = parse text := by
  have hlegible : ∀ s : StyleProperties, parse s.declarations = s ↔ s.Legible := by
    intro s
    constructor
    · intro h
      rw [← h]
      exact legible_parse s.declarations
    · intro h
      rw [parse, h.filterMap_splitOn, setAll_settings]
  exact ⟨hlegible, fun text => (hlegible (parse text)).mpr (legible_parse text)⟩

/-- A value may hold colons and other keys, or be empty. -/
example : parse "stroke:a=b,fill: url:color:red ,opacity:0.5,stroke:"
    = { fill := some "url:color:red", stroke := some "" } := by
  decide

end Flowchart.StyleProperties
