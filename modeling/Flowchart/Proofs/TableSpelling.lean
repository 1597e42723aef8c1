import Flowchart.Proofs.MachineSpelling
import Flowchart.StyleTable.Decode

/-!
# How style tables are written

A style table is written as a JSON object, with the same freedom as a machine. A tag may have more
than one rule; then it stands where it stands first, and its last rule is the one that counts
(`lastEntries`). The main statement is `StyleTable.read_lastEntries`: only the rules that count are
looked at, and the first one of them whose shape is unknown is what a table is refused for.
-/

namespace Flowchart

open Json

/-! ## Last entries -/

/-- For each key, in the order of first appearance, its last value. -/
def lastEntries {α : Type} (entries : List (String × α)) : List (String × α) :=
  (firstsBy (fun key => key) (entries.map (·.1))).filterMap fun key =>
    (entries.reverse.lookup key).map fun a => (key, a)

/-- A dictionary without repeated keys is given by its keys and their values. -/
theorem filterMap_lookup_keys {α : Type} {es : List (String × α)} (h : (es.map (·.1)).Nodup) :
    ((es.map (·.1)).filterMap fun key => (es.lookup key).map fun a => (key, a)) = es := by
  induction es with
  | nil => rfl
  | cons e es ih =>
    obtain ⟨key, a⟩ := e
    obtain ⟨hnew, hnodup⟩ := List.nodup_cons.mp h
    have hrest : ((es.map (·.1)).filterMap fun k => (((key, a) :: es).lookup k).map fun b => (k, b))
        = es := by
      refine (List.filterMap_congr fun k hk => ?_).trans (ih hnodup)
      have hne : (k == key) = false := by
        refine beq_false_of_ne ?_
        rintro rfl
        exact hnew hk
      rw [List.lookup_cons, hne]
    rw [List.map_cons, List.filterMap_cons, hrest]
    simp

theorem Dict.entries_ofList {α : Type} (entries : List (String × α)) :
    (Dict.ofList entries).entries = lastEntries entries := by
  have hkeys : ((Dict.ofList entries).entries.map (·.1))
      = firstsBy (fun key => key) (entries.map (·.1)) := Dict.keys_ofList entries
  have hnodup : ((Dict.ofList entries).entries.map (·.1)).Nodup := by
    rw [hkeys]
    exact nodup_firstsBy_self _
  rw [← filterMap_lookup_keys hnodup, hkeys, lastEntries]
  refine List.filterMap_congr fun key _ => ?_
  exact congrArg _ (Dict.get?_ofList entries key)

/-! ## Forms -/

/-- A style; members of other keys may hold anything. -/
inductive StyleForm : Content → StyleText → Prop where
  | object {members : List (String × Content)}
      {name color fill stroke strokeWidth strokeDash : Option (Option String)}
      (hname : FieldForm "name" OptionalForm members name)
      (hcolor : FieldForm "color" OptionalForm members color)
      (hfill : FieldForm "fill" OptionalForm members fill)
      (hstroke : FieldForm "stroke" OptionalForm members stroke)
      (hstrokeWidth : FieldForm "strokeWidth" OptionalForm members strokeWidth)
      (hstrokeDash : FieldForm "strokeDash" OptionalForm members strokeDash) :
      StyleForm (.object members)
        { name := name.getD none, color := color.getD none, fill := fill.getD none,
          stroke := stroke.getD none, strokeWidth := strokeWidth.getD none,
          strokeDash := strokeDash.getD none }

/-- A rule; members of other keys may hold anything. -/
inductive RuleForm : Content → RuleText → Prop where
  | object {members : List (String × Content)} {style : Option StyleText}
      {shape : Option (Option String)}
      (hstyle : FieldForm "style" StyleForm members style)
      (hshape : FieldForm "shape" OptionalForm members shape) :
      RuleForm (.object members) { style := style.getD {}, shape := shape.getD none }

/-! ## Decoders of forms -/

/-- The fields of a style are read off its members. -/
theorem StyleFields.readMembers_add {members : List (String × Content)} {f g : StyleFields}
    (hname : Settles "name" (ReadBy Tree.optionalText) f.name members g.name)
    (hcolor : Settles "color" (ReadBy Tree.optionalText) f.color members g.color)
    (hfill : Settles "fill" (ReadBy Tree.optionalText) f.fill members g.fill)
    (hstroke : Settles "stroke" (ReadBy Tree.optionalText) f.stroke members g.stroke)
    (hwidth : Settles "strokeWidth" (ReadBy Tree.optionalText) f.strokeWidth members g.strokeWidth)
    (hdash : Settles "strokeDash" (ReadBy Tree.optionalText) f.strokeDash members g.strokeDash) :
    readMembers StyleFields.add f (memberTrees members) none = .ok g := by
  induction members generalizing f with
  | nil =>
    obtain ⟨name, color, fill, stroke, width, dash⟩ := g
    obtain rfl : name = f.name := hname.eq_of_nil
    obtain rfl : color = f.color := hcolor.eq_of_nil
    obtain rfl : fill = f.fill := hfill.eq_of_nil
    obtain rfl : stroke = f.stroke := hstroke.eq_of_nil
    obtain rfl : width = f.strokeWidth := hwidth.eq_of_nil
    obtain rfl : dash = f.strokeDash := hdash.eq_of_nil
    rfl
  | cons m members ih =>
    obtain ⟨key, c⟩ := m
    obtain ⟨name, hname, hname1, hname2⟩ := hname.step
    obtain ⟨color, hcolor, hcolor1, hcolor2⟩ := hcolor.step
    obtain ⟨fill, hfill, hfill1, hfill2⟩ := hfill.step
    obtain ⟨stroke, hstroke, hstroke1, hstroke2⟩ := hstroke.step
    obtain ⟨width, hwidth, hwidth1, hwidth2⟩ := hwidth.step
    obtain ⟨dash, hdash, hdash1, hdash2⟩ := hdash.step
    -- The field of the key takes the member, and the others are as they were.
    have hadd : f.add key c.tree = .ok ⟨name, color, fill, stroke, width, dash⟩ := by
      unfold add
      split_ifs <;> simp_all [c.skip_tree, bind, Except.bind]
    rw [memberTrees, readMembers, hadd]
    exact ih hname hcolor hfill hstroke hwidth hdash

theorem StyleForm.decodeStyle {c : Content} {s : StyleText} (h : StyleForm c s) (room : Nat) :
    Flowchart.decodeStyle (room + 1) c.tree = .ok s := by
  obtain ⟨hname, hcolor, hfill, hstroke, hwidth, hdash⟩ := h
  rename_i members name color fill stroke width dash
  have hread := StyleFields.readMembers_add (f := {})
    (g := ⟨name, color, fill, stroke, width, dash⟩)
    (hname.settles_self fun _ _ h => h.optionalText)
    (hcolor.settles_self fun _ _ h => h.optionalText)
    (hfill.settles_self fun _ _ h => h.optionalText)
    (hstroke.settles_self fun _ _ h => h.optionalText)
    (hwidth.settles_self fun _ _ h => h.optionalText)
    (hdash.settles_self fun _ _ h => h.optionalText)
  rw [Content.tree, Flowchart.decodeStyle]
  change (readMembers StyleFields.add {} (memberTrees members) none
    >>= fun fields => .ok fields.text) = _
  rw [hread]
  rfl

/-- The fields of a rule are read off its members. -/
theorem RuleFields.readMembers_add (room : Nat) {members : List (String × Content)}
    {f g : RuleFields}
    (hstyle : Settles "style" (ReadBy (decodeStyle room)) f.style members g.style)
    (hshape : Settles "shape" (ReadBy Tree.optionalText) f.shape members g.shape) :
    readMembers (RuleFields.add room) f (memberTrees members) none = .ok g := by
  induction members generalizing f with
  | nil =>
    obtain ⟨style, shape⟩ := g
    obtain rfl : style = f.style := hstyle.eq_of_nil
    obtain rfl : shape = f.shape := hshape.eq_of_nil
    rfl
  | cons m members ih =>
    obtain ⟨key, c⟩ := m
    obtain ⟨style, hstyle, hstyle1, hstyle2⟩ := hstyle.step
    obtain ⟨shape, hshape, hshape1, hshape2⟩ := hshape.step
    have hadd : f.add room key c.tree = .ok ⟨style, shape⟩ := by
      unfold add
      split_ifs <;> simp_all [c.skip_tree, bind, Except.bind]
    rw [memberTrees, readMembers, hadd]
    exact ih hstyle hshape

theorem RuleForm.decodeRule {c : Content} {r : RuleText} (h : RuleForm c r) (room : Nat) :
    Flowchart.decodeRule (room + 2) c.tree = .ok r := by
  obtain ⟨hstyle, hshape⟩ := h
  rename_i members style shape
  have hread := RuleFields.readMembers_add (room + 1) (f := {}) (g := ⟨style, shape⟩)
    (hstyle.settles_self fun _ _ h => h.decodeStyle room)
    (hshape.settles_self fun _ _ h => h.optionalText)
  rw [Content.tree, Flowchart.decodeRule]
  change (readMembers (RuleFields.add (room + 1)) {} (memberTrees members) none
    >>= fun fields => .ok fields.text) = _
  rw [hread]
  rfl

/-! ## Rules -/

/-- What a style gives to the property of a key. -/
def StyleText.value? (s : StyleText) (key : String) : Option String :=
  match key with
  | "color" => s.color
  | "fill" => s.fill
  | "stroke" => s.stroke
  | "stroke-width" => s.strokeWidth
  | "stroke-dasharray" => s.strokeDash
  | _ => none

/-- A rule that is what a text under a tag says. -/
structure StyleRule.Carries (rule : StyleRule) (tag : String) (r : RuleText) : Prop where
  name : rule.style.name = r.style.name.getD tag
  properties : ∀ p, rule.style.properties.get p = r.style.value? p.key
  shape : rule.shape.map Shape.name = r.shape

/-- The name of the shape of a rule, if no shape has it. -/
def RuleText.unknownShape? (r : RuleText) : Option String :=
  r.shape.filter fun name => name ∉ Keyword.names Shape

theorem RuleText.carries_classStyle {s : Option Shape} {tag : String} {r : RuleText}
    (h : s.map Shape.name = r.shape) :
    (⟨r.style.classStyle tag, s⟩ : StyleRule).Carries tag r where
  name := rfl
  properties p := by cases p <;> rfl
  shape := h

theorem RuleText.rule_eq_error {r : RuleText} {name : String} (h : r.unknownShape? = some name)
    (tag : String) : r.rule tag = .error (Keyword.unknown Shape name) := by
  obtain ⟨hshape, hname⟩ := Option.filter_eq_some_iff.mp h
  have hnone : (Keyword.ofName? name : Option Shape) = none := by
    refine Option.eq_none_iff_forall_ne_some.mpr fun s hs => of_decide_eq_true hname ?_
    rw [← Shape.ofName?_eq_some_iff.mp hs]
    cases s <;> decide
  rw [rule, hshape]
  simp only [Keyword.parse, hnone]
  rfl

theorem RuleText.rule_eq_ok {r : RuleText} (h : r.unknownShape? = none) (tag : String) :
    ∃ rule, r.rule tag = .ok rule ∧ rule.Carries tag r := by
  cases hshape : r.shape with
  | none =>
    refine ⟨⟨r.style.classStyle tag, none⟩, ?_, carries_classStyle hshape.symm⟩
    rw [rule, hshape]
  | some name =>
    have hname : name ∈ Keyword.names Shape := by
      rw [unknownShape?, hshape] at h
      simpa using h
    obtain ⟨s, -, rfl⟩ := List.mem_map.mp hname
    refine ⟨⟨r.style.classStyle tag, some s⟩, ?_, carries_classStyle hshape.symm⟩
    have hparse : Keyword.parse Shape (Keyword.name s) = .ok s :=
      Keyword.parse_eq_ok_iff.mpr (Shape.ofName?_name s)
    rw [rule, hshape]
    simp only [hparse]
    rfl

/-- The rules are looked at in order, up to the first one whose shape is unknown. -/
theorem ruleEntries_eq_error {rules : List (String × RuleText)} {name : String}
    (h : rules.findSome? (fun e => e.2.unknownShape?) = some name) :
    ruleEntries rules = .error (Keyword.unknown Shape name) := by
  induction rules with
  | nil => contradiction
  | cons e rest ih =>
    obtain ⟨tag, r⟩ := e
    rw [List.findSome?_cons] at h
    rw [ruleEntries]
    cases hshape : r.unknownShape? with
    | some first =>
      rw [hshape] at h
      obtain rfl := Option.some.inj h
      rw [r.rule_eq_error hshape]
      rfl
    | none =>
      rw [hshape] at h
      obtain ⟨rule, hrule, -⟩ := r.rule_eq_ok hshape tag
      rw [hrule, ih h]
      rfl

theorem ruleEntries_eq_ok {rules : List (String × RuleText)}
    (h : rules.findSome? (fun e => e.2.unknownShape?) = none) :
    ∃ entries, ruleEntries rules = .ok entries ∧
      List.Forall₂ (fun e f => f.1 = e.1 ∧ f.2.Carries e.1 e.2) rules entries := by
  induction rules with
  | nil => exact ⟨[], rfl, .nil⟩
  | cons e rest ih =>
    obtain ⟨tag, r⟩ := e
    obtain ⟨hshape, hrest⟩ := List.forall_mem_cons.mp (List.findSome?_eq_none_iff.mp h)
    obtain ⟨rule, hrule, hcarries⟩ := r.rule_eq_ok hshape tag
    obtain ⟨entries, hread, hentries⟩ := ih (List.findSome?_eq_none_iff.mpr hrest)
    refine ⟨(tag, rule) :: entries, ?_, .cons ⟨rfl, hcarries⟩ hentries⟩
    rw [ruleEntries, hrule, hread]
    rfl

/-! ## Tables -/

/-- A text of the rules of a table is read as these: under each tag, in the order of first
appearance, its last rule. If the shapes of some of these rules are unknown, the table is refused
with the name of the first. -/
theorem StyleTable.read_lastEntries {c : Content} {text : String}
    {entries : List (String × RuleText)} (hform : DictForm RuleForm c entries)
    (htext : c.Spells text) :
    (lastEntries entries).map (·.1) = firstsBy (fun tag => tag) (entries.map (·.1)) ∧
    (∀ name, (lastEntries entries).findSome? (fun e => e.2.unknownShape?) = some name →
      ∃ e, StyleTable.read text = .error (.data e) ∧
        e.message = "Invalid shape: '" ++ name ++ "' (expected one of: "
          ++ ", ".intercalate (Keyword.names Shape) ++ ")") ∧
    ((lastEntries entries).findSome? (fun e => e.2.unknownShape?) = none →
      ∃ table, StyleTable.read text = .ok table ∧
        List.Forall₂ (fun e f => f.1 = e.1 ∧ f.2.Carries e.1 e.2) (lastEntries entries)
          table.entries) := by
  have hroom : maxDepth = maxDepth - 3 + 2 + 1 := rfl
  have hdict : decodeDict decodeRule maxDepth c.tree = .ok (Dict.ofList entries) := by
    rw [hroom]
    simpa using hform.decodeDict (f := id) fun _ _ h => h.decodeRule (maxDepth - 3)
  refine ⟨?_, ?_, ?_⟩
  · rw [← Dict.entries_ofList]
    exact Dict.keys_ofList entries
  · intro name hfirst
    have hkind : "Invalid " ++ "shape" ++ ": '" = "Invalid shape: '" := by decide
    refine ⟨.unknownName (Keyword.unknown Shape name), ?_, ?_⟩
    · simp only [StyleTable.read, decode, Document.read_of_spells htext, decodeStyleTable, hdict,
        Dict.entries_ofList, ruleEntries_eq_error hfirst, bind, Except.bind]
    · rw [← hkind]
      rfl
  · intro hnone
    obtain ⟨rules, hrules, hcarries⟩ := ruleEntries_eq_ok hnone
    refine ⟨⟨rules⟩, ?_, hcarries⟩
    simp only [StyleTable.read, decode, Document.read_of_spells htext, decodeStyleTable, hdict,
      Dict.entries_ofList, hrules, bind, Except.bind]
    rfl

/-- The members of a text in which the first rule of a tag, whose shape is unknown, is replaced. -/
def replacedRule : Content :=
  .object [("end", .object [("shape", .string "blob")]),
    ("wait", .object [("note", .list [.null]),
      ("style", .object [("strokeDash", .string "4 2"), ("fill", .null)])]),
    ("end", .object [("shape", .string "circle"), ("style", .object [("name", .string "last")])])]

/-- Its rules. -/
def replacedRuleEntries : List (String × RuleText) :=
  [("end", { shape := some "blob" }), ("wait", { style := { strokeDash := some "4 2" } }),
    ("end", { style := { name := some "last" }, shape := some "circle" })]

theorem dictForm_replacedRule : DictForm RuleForm replacedRule replacedRuleEntries := by
  have hfirst : RuleForm (.object [("shape", .string "blob")]) { shape := some "blob" } :=
    .object (.absent rfl) (.present rfl (.string "blob"))
  have hdash : StyleForm (.object [("strokeDash", .string "4 2"), ("fill", .null)])
      { strokeDash := some "4 2" } :=
    .object (.absent rfl) (.absent rfl) (.present rfl .null) (.absent rfl) (.absent rfl)
      (.present rfl (.string "4 2"))
  have hname : StyleForm (.object [("name", .string "last")]) { name := some "last" } :=
    .object (.present rfl (.string "last")) (.absent rfl) (.absent rfl) (.absent rfl) (.absent rfl)
      (.absent rfl)
  exact .object (.cons ⟨rfl, hfirst⟩ (.cons ⟨rfl, .object (.present rfl hdash) (.absent rfl)⟩
    (.cons ⟨rfl, .object (.present rfl hname) (.present rfl (.string "circle"))⟩ .nil)))

/-- A text of `replacedRule`. -/
def replacedRuleText : String :=
  String.join ["\x7b", "\"end\"", ":", "\x7b", "\"shape\"", ":", "\"blob\"", "\x7d", ",",
    "\"wait\"", ":", "\x7b", "\"note\"", ":", "[", "null", "]", ",", "\"style\"", ":", "\x7b",
    "\"strokeDash\"", ":", "\"4 2\"", ",", "\"fill\"", ":", "null", "\x7d", "\x7d", ",",
    "\"end\"", ":", "\x7b", "\"shape\"", ":", "\"circle\"", ",", "\"style\"", ":", "\x7b",
    "\"name\"", ":", "\"last\"", "\x7d", "\x7d", "\x7d"]

theorem spells_replacedRule : replacedRule.Spells replacedRuleText := by
  rw [Content.Spells, replacedRuleText, String.toList_join, List.flatMap_def]
  refine .flatten ?_
  simp only [replacedRule, Content.tokens, moreItems, moreMembers,
    List.cons_append, List.nil_append, List.map_cons, List.map_nil, List.forall₂_cons]
  exact ⟨.openObject, .plain rfl, .colon, .openObject, .plain rfl, .colon, .plain rfl, .closeObject,
    .comma, .plain rfl, .colon, .openObject, .plain rfl, .colon, .openList, .null, .closeList,
    .comma, .plain rfl, .colon, .openObject, .plain rfl, .colon, .plain rfl, .comma, .plain rfl,
    .colon, .null, .closeObject, .closeObject, .comma, .plain rfl, .colon, .openObject, .plain rfl,
    .colon, .plain rfl, .comma, .plain rfl, .colon, .openObject, .plain rfl, .colon, .plain rfl,
    .closeObject, .closeObject, .closeObject, .nil⟩

/-- The members of a text in which the later one of two unknown shapes is that of an earlier tag. -/
def unknownShapes : Content :=
  .object [("end", .object []), ("wait", .object [("shape", .string "blob")]),
    ("end", .object [("shape", .string "star")])]

/-- Its rules. -/
def unknownShapesEntries : List (String × RuleText) :=
  [("end", {}), ("wait", { shape := some "blob" }), ("end", { shape := some "star" })]

theorem dictForm_unknownShapes : DictForm RuleForm unknownShapes unknownShapesEntries :=
  .object (.cons ⟨rfl, .object (.absent rfl) (.absent rfl)⟩
    (.cons ⟨rfl, .object (.absent rfl) (.present rfl (.string "blob"))⟩
      (.cons ⟨rfl, .object (.absent rfl) (.present rfl (.string "star"))⟩ .nil)))

/-- A text of `unknownShapes`. -/
def unknownShapesText : String :=
  String.join ["\x7b", "\"end\"", ":", "\x7b", "\x7d", ",", "\"wait\"", ":", "\x7b", "\"shape\"",
    ":", "\"blob\"", "\x7d", ",", "\"end\"", ":", "\x7b", "\"shape\"", ":", "\"star\"", "\x7d",
    "\x7d"]

theorem spells_unknownShapes : unknownShapes.Spells unknownShapesText := by
  rw [Content.Spells, unknownShapesText, String.toList_join, List.flatMap_def]
  refine .flatten ?_
  simp only [unknownShapes, Content.tokens, moreMembers,
    List.cons_append, List.nil_append, List.map_cons, List.map_nil, List.forall₂_cons]
  exact ⟨.openObject, .plain rfl, .colon, .openObject, .closeObject, .comma, .plain rfl, .colon,
    .openObject, .plain rfl, .colon, .plain rfl, .closeObject, .comma, .plain rfl, .colon,
    .openObject, .plain rfl, .colon, .plain rfl, .closeObject, .closeObject, .nil⟩

theorem StyleTable.read_replacedRule :
    DictForm RuleForm replacedRule replacedRuleEntries ∧
      replacedRule.Spells replacedRuleText ∧
      (∃ table, StyleTable.read replacedRuleText = .ok table ∧
        List.Forall₂ (fun e f => f.1 = e.1 ∧ f.2.Carries e.1 e.2)
          [("end", { style := { name := some "last" }, shape := some "circle" }),
            ("wait", { style := { strokeDash := some "4 2" } })] table.entries) ∧
      DictForm RuleForm unknownShapes unknownShapesEntries ∧
      unknownShapes.Spells unknownShapesText ∧
      ∃ e, StyleTable.read unknownShapesText = .error (.data e) ∧
        e.message = "Invalid shape: '" ++ "star" ++ "' (expected one of: "
          ++ ", ".intercalate (Keyword.names Shape) ++ ")" := by
  have hlast : lastEntries replacedRuleEntries
      = [("end", { style := { name := some "last" }, shape := some "circle" }),
          ("wait", { style := { strokeDash := some "4 2" } })] := by decide
  obtain ⟨-, -, hread⟩ := StyleTable.read_lastEntries dictForm_replacedRule spells_replacedRule
  rw [hlast] at hread
  obtain ⟨-, hrefused, -⟩ :=
    StyleTable.read_lastEntries dictForm_unknownShapes spells_unknownShapes
  exact ⟨dictForm_replacedRule, spells_replacedRule, hread (by decide), dictForm_unknownShapes,
    spells_unknownShapes, hrefused "star" (by decide)⟩

end Flowchart
