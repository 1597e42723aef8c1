import Flowchart.Proofs.MachineRender
import Flowchart.Proofs.Separated
import Mathlib.Data.List.Infix

/-!
# The settings of many tags

What the tags of a machine set can be told from the tags of each kind alone. The kind of a tag is
that of the first rule that fits it (`TagKind.ofText`). Reading the tags fails with the first one
that has a fault by itself (`fault?`); if there is none, the last tag of a kind decides, and
variables add up (`SetBy`). So tags of different kinds may change places, which is the main
statement, `ofTags_by_kind`.
-/

namespace Flowchart

/-! ## Kinds of tags -/

/-- What a tag of a machine sets. -/
inductive TagKind where
  | curve
  | themeVariables
  | theme
  | direction
  | line
  | neutral
  deriving DecidableEq, Repr

/-- The kind of a tag, by the first rule that fits. -/
def TagKind.ofText (tag : String) : TagKind :=
  if "curve:".toList <+: tag.toList then .curve
  else if "var:".toList <+: tag.toList then .themeVariables
  else if "theme:".toList <+: tag.toList then .theme
  else if "direction:".toList <+: tag.toList then .direction
  else if "link".toList <:+: tag.toList ∧ ':' ∈ tag.toList then .line
  else .neutral

/-- What stands after the first colon of a tag. -/
def afterColon (tag : String) : List Char :=
  match Text.splitFirst? ':' tag.toList with
  | some (_, after) => after
  | none => []

/-- The name that a tag gives: what stands after its first colon, where a tag about links gives
only what stands before the next one. -/
def givenName (tag : String) : String :=
  match TagKind.ofText tag with
  | .line => trimmed ((afterColon tag).takeWhile (· != ':'))
  | _ => trimmed (afterColon tag)

/-- The tags of a kind, in order. -/
def tagsOf (kind : TagKind) (tags : List String) : List String :=
  tags.filter fun tag => TagKind.ofText tag = kind

/-- The last tag of a kind. -/
def lastOf (kind : TagKind) (tags : List String) : Option String :=
  (tagsOf kind tags).getLast?

/-! ## Reading one tag -/

section Reading

variable {tag : String}

theorem afterColon_eq {before after : List Char} (htag : tag.toList = before ++ ':' :: after)
    (hbefore : ':' ∉ before) : afterColon tag = after := by
  rw [afterColon, htag, Text.splitFirst?_append hbefore]

/-- A word that ends with its only colon leaves what stands after the first colon of a tag. -/
theorem isPrefixOf?_eq_ite (word name : String) (hname : ':' ∉ name.toList)
    (hword : word.toList = name.toList ++ [':']) :
    word.toList.isPrefixOf? tag.toList
      = if word.toList <+: tag.toList then some (afterColon tag) else none := by
  split
  · next h =>
    obtain ⟨rest, hrest⟩ := h
    have htag : tag.toList = name.toList ++ ':' :: rest := by
      rw [← hrest, hword, List.append_assoc, List.singleton_append]
    rw [List.isPrefixOf?_eq_some_iff_append_eq, afterColon_eq htag hname, hrest]
  · next h =>
    refine Option.eq_none_iff_forall_ne_some.mpr fun rest hrest => h ?_
    exact ⟨rest, List.isPrefixOf?_eq_some_iff_append_eq.mp hrest⟩

/-- The part after the first colon of a tag ends at the next one. -/
theorem linkTag_eq : linkTag tag.toList
    = if ':' ∈ tag.toList then .line (trimmed ((afterColon tag).takeWhile (· != ':')))
      else .neutral := by
  split
  · next h =>
    obtain ⟨before, after, htag, hbefore⟩ := List.eq_append_cons_of_mem h
    have hsecond : (tag.toList.splitOn ':')[1]? = some (after.takeWhile (· != ':')) := by
      rw [← Text.head?_splitOn, htag, List.splitOn_append_cons_self_of_not_mem hbefore,
        List.head?_eq_getElem?]
      rfl
    rw [linkTag, hsecond, afterColon_eq htag hbefore]
  · next h =>
    rw [linkTag, List.splitOn_eq_singleton h]
    rfl

/-- What a tag sets is what its kind says. -/
theorem Tag.ofText_eq (tag : String) :
    Tag.ofText tag = match TagKind.ofText tag with
      | .curve => .curve (givenName tag)
      | .themeVariables => .themeVariables (variableSegments (afterColon tag))
      | .theme => .theme (givenName tag)
      | .direction => .direction (givenName tag)
      | .line => .line (givenName tag)
      | .neutral => .neutral := by
  unfold givenName
  simp only [Tag.ofText, isPrefixOf?_eq_ite "curve:" "curve" (by decide) rfl,
    isPrefixOf?_eq_ite "var:" "var" (by decide) rfl,
    isPrefixOf?_eq_ite "theme:" "theme" (by decide) rfl,
    isPrefixOf?_eq_ite "direction:" "direction" (by decide) rfl, Text.holdsWord_iff, linkTag_eq]
  unfold TagKind.ofText
  by_cases hcurve : "curve:".toList <+: tag.toList
  · simp only [if_pos hcurve]
  by_cases hvar : "var:".toList <+: tag.toList
  · simp only [if_neg hcurve, if_pos hvar]
  by_cases htheme : "theme:".toList <+: tag.toList
  · simp only [if_neg hcurve, if_neg hvar, if_pos htheme]
  by_cases hdirection : "direction:".toList <+: tag.toList
  · simp only [if_neg hcurve, if_neg hvar, if_neg htheme, if_pos hdirection]
  simp only [if_neg hcurve, if_neg hvar, if_neg htheme, if_neg hdirection]
  by_cases hlink : "link".toList <:+: tag.toList
  · by_cases hcolon : ':' ∈ tag.toList
    · simp only [if_pos hlink, if_pos hcolon, if_pos (And.intro hlink hcolon)]
    · simp only [if_pos hlink, if_neg hcolon, if_neg fun h => hcolon (And.right h)]
  · simp only [if_neg hlink, if_neg fun h => hlink (And.left h)]

end Reading

/-! ## One more tag -/

section Kinds

variable {kind : TagKind} {tags : List String} {tag : String}

@[simp]
theorem tagsOf_append_singleton : tagsOf kind (tags ++ [tag])
    = if TagKind.ofText tag = kind then tagsOf kind tags ++ [tag] else tagsOf kind tags := by
  rw [tagsOf, List.filter_append]
  split
  · next h => simp [tagsOf, h]
  · next h => simp [tagsOf, h]

@[simp]
theorem lastOf_append_singleton : lastOf kind (tags ++ [tag])
    = if TagKind.ofText tag = kind then some tag else lastOf kind tags := by
  rw [lastOf, tagsOf_append_singleton]
  split
  · exact List.getLast?_concat
  · rfl

end Kinds

namespace MachineSettings

/-- The settings that are made by the last tags of their kinds: the names that these give, and the
variables of all tags. -/
structure SetBy (tags : List String) (s : MachineSettings) : Prop where
  curve : s.curve.map some
    = (lastOf .curve tags).map fun tag => (Keyword.ofName? (givenName tag) : Option Curve)
  themeVariables : s.themeVariables.map some
    = ((tagsOf .themeVariables tags).flatMap fun tag => variableSegments (afterColon tag)).map
        readVariable?
  theme : s.theme = (lastOf .theme tags).map givenName
  direction : s.direction.map some
    = (lastOf .direction tags).map fun tag => (Keyword.ofName? (givenName tag) : Option Direction)
  line : some s.line
    = match lastOf .line tags with
      | some tag => Keyword.ofName? (givenName tag)
      | none => some .solid

/-- What is wrong with the name that a tag gives. -/
def nameFault? (α : Type) [Keyword α] (tag : String) : Option Refusal :=
  match (Keyword.ofName? (givenName tag) : Option α) with
  | some _ => none
  | none => some (.unknownName (Keyword.unknown α (givenName tag)))

/-- What is wrong with the segments of a tag. -/
def segmentFault? (tag : String) : Option Refusal :=
  ((variableSegments (afterColon tag)).find? fun segment => (readVariable? segment).isNone).map
    fun segment => .badTag tag (String.ofList segment)

/-- What is wrong with a tag. -/
def fault? (tag : String) : Option Refusal :=
  match TagKind.ofText tag with
  | .curve => nameFault? Curve tag
  | .themeVariables => segmentFault? tag
  | .direction => nameFault? Direction tag
  | .line => nameFault? LineStyle tag
  | .theme => none
  | .neutral => none

/-- A tag that can be read by itself. -/
def Readable (tag : String) : Prop :=
  ∃ s, ofTags [tag] = .ok s

variable {tags : List String} {tag : String} {s next : MachineSettings}

/-- What one more tag changes is what its kind says. -/
theorem add_eq (s : MachineSettings) (tag : String) :
    s.add tag = match TagKind.ofText tag with
      | .curve => (parseKeyword Curve (givenName tag)).map fun c => { s with curve := some c }
      | .themeVariables => (readVariables tag (variableSegments (afterColon tag))).map fun vs =>
        { s with themeVariables := s.themeVariables ++ vs }
      | .theme => .ok { s with theme := some (givenName tag) }
      | .direction => (parseKeyword Direction (givenName tag)).map fun d =>
        { s with direction := some d }
      | .line => (parseKeyword LineStyle (givenName tag)).map fun l => { s with line := l }
      | .neutral => .ok s := by
  unfold add
  rw [Tag.ofText_eq]
  cases TagKind.ofText tag with
  | curve =>
    dsimp only
    cases parseKeyword Curve (givenName tag) <;> rfl
  | themeVariables =>
    dsimp only
    cases readVariables tag (variableSegments (afterColon tag)) <;> rfl
  | theme => rfl
  | direction =>
    dsimp only
    cases parseKeyword Direction (givenName tag) <;> rfl
  | line =>
    dsimp only
    cases parseKeyword LineStyle (givenName tag) <;> rfl
  | neutral => rfl

theorem parseKeyword_givenName_eq_error {α : Type} [Keyword α] {r : Refusal} :
    parseKeyword α (givenName tag) = .error r ↔ nameFault? α tag = some r := by
  rw [parseKeyword_eq_error, nameFault?]
  cases (Keyword.ofName? (givenName tag) : Option α) with
  | some m => simp
  | none => simp [eq_comm]

theorem readVariables_eq_error {segments : List (List Char)} {r : Refusal} :
    readVariables tag segments = .error r ↔
      ((segments.find? fun segment => (readVariable? segment).isNone).map
        fun segment => .badTag tag (String.ofList segment)) = some r := by
  induction segments with
  | nil => exact ⟨nofun, nofun⟩
  | cons segment rest ih =>
    rw [readVariables, List.find?_cons]
    cases readVariable? segment with
    | none => simp
    | some v =>
      refine Iff.trans ?_ ih
      cases readVariables tag rest with
      | error e => exact Iff.rfl
      | ok vs => exact ⟨nofun, nofun⟩

/-- Whether a tag can be read, and what is wrong with it, does not depend on the tags before it. -/
theorem add_eq_error {r : Refusal} : s.add tag = .error r ↔ fault? tag = some r := by
  rw [add_eq, fault?]
  cases TagKind.ofText tag with
  | curve => exact map_eq_error.trans parseKeyword_givenName_eq_error
  | themeVariables => exact map_eq_error.trans readVariables_eq_error
  | theme => exact ⟨nofun, nofun⟩
  | direction => exact map_eq_error.trans parseKeyword_givenName_eq_error
  | line => exact map_eq_error.trans parseKeyword_givenName_eq_error
  | neutral => exact ⟨nofun, nofun⟩

theorem ofTags_singleton (tag : String) : ofTags [tag] = add {} tag := by
  rw [ofTags, List.foldlM_cons]
  exact bind_pure _

theorem map_some_of_readVariables {segments : List (List Char)} {vs : List (String × String)}
    (h : readVariables tag segments = .ok vs) : vs.map some = segments.map readVariable? := by
  induction segments generalizing vs with
  | nil =>
    cases h
    rfl
  | cons segment rest ih =>
    unfold readVariables at h
    split at h
    · next v hv =>
      obtain ⟨ws, hws, h⟩ := bind_eq_ok.mp h
      cases h
      rw [List.map_cons, List.map_cons, ih hws, hv]
    · contradiction

theorem SetBy.add (h : SetBy tags s) (hnext : s.add tag = .ok next) :
    SetBy (tags ++ [tag]) next := by
  rw [add_eq] at hnext
  -- Of the fields that of the kind changes alone, and of the lists of tags that of the kind grows.
  cases hkind : TagKind.ofText tag with
  | curve =>
    rw [hkind] at hnext
    obtain ⟨c, hread, rfl⟩ := map_eq_ok.mp hnext
    have hname := parseKeyword_eq_ok.mp hread
    constructor <;> simp [hkind, hname, h.themeVariables, h.theme, h.direction, h.line]
  | themeVariables =>
    rw [hkind] at hnext
    obtain ⟨vs, hread, rfl⟩ := map_eq_ok.mp hnext
    have hsegments := map_some_of_readVariables hread
    constructor <;> simp [hkind, hsegments, h.curve, h.themeVariables, h.theme, h.direction, h.line]
  | theme =>
    rw [hkind] at hnext
    obtain rfl := Except.ok.inj hnext
    constructor <;> simp [hkind, h.curve, h.themeVariables, h.direction, h.line]
  | direction =>
    rw [hkind] at hnext
    obtain ⟨d, hread, rfl⟩ := map_eq_ok.mp hnext
    have hname := parseKeyword_eq_ok.mp hread
    constructor <;> simp [hkind, hname, h.curve, h.themeVariables, h.theme, h.line]
  | line =>
    rw [hkind] at hnext
    obtain ⟨l, hread, rfl⟩ := map_eq_ok.mp hnext
    have hname := parseKeyword_eq_ok.mp hread
    constructor <;> simp [hkind, hname, h.curve, h.themeVariables, h.theme, h.direction]
  | neutral =>
    rw [hkind] at hnext
    obtain rfl := Except.ok.inj hnext
    constructor <;> simp [hkind, h.curve, h.themeVariables, h.theme, h.direction, h.line]

/-! ## All tags -/

theorem SetBy.nil : SetBy [] {} := by
  constructor <;> rfl

theorem setBy_of_ofTags_eq_ok (h : ofTags tags = .ok s) : SetBy tags s := by
  induction tags using List.reverseRecOn generalizing s with
  | nil =>
    cases h
    exact SetBy.nil
  | append_singleton tags tag ih =>
    rw [ofTags, List.foldlM_append] at h
    obtain ⟨before, hbefore, h⟩ := bind_eq_ok.mp h
    rw [List.foldlM_cons] at h
    obtain ⟨next, hnext, h⟩ := bind_eq_ok.mp h
    cases h
    exact (ih hbefore).add hnext

/-- Nothing but the tags of each kind decides the settings. -/
theorem SetBy.eq {tags' : List String} {s' : MachineSettings} (h : SetBy tags s)
    (h' : SetBy tags' s') (hkinds : ∀ kind ≠ .neutral, tagsOf kind tags = tagsOf kind tags') :
    s = s' := by
  have hlast : ∀ kind ≠ .neutral, lastOf kind tags = lastOf kind tags' := by
    intro kind hkind
    rw [lastOf, hkinds kind hkind, lastOf]
  have hcurve : s.curve = s'.curve := by
    refine Option.map_injective (Option.some_injective _) ?_
    rw [h.curve, h'.curve, hlast .curve nofun]
  have hvariables : s.themeVariables = s'.themeVariables := by
    refine List.map_injective_iff.mpr (Option.some_injective _) ?_
    rw [h.themeVariables, h'.themeVariables, hkinds .themeVariables nofun]
  have htheme : s.theme = s'.theme := by
    rw [h.theme, h'.theme, hlast .theme nofun]
  have hdirection : s.direction = s'.direction := by
    refine Option.map_injective (Option.some_injective _) ?_
    rw [h.direction, h'.direction, hlast .direction nofun]
  have hline : s.line = s'.line := by
    refine Option.some_injective _ ?_
    rw [h.line, h'.line, hlast .line nofun]
  cases s
  cases s'
  simp only [mk.injEq]
  exact ⟨hcurve, hvariables, htheme, hdirection, hline⟩

theorem readable_iff : Readable tag ↔ fault? tag = none := by
  rw [Readable, exists_eq_ok_iff, ofTags_singleton, Option.eq_none_iff_forall_ne_some]
  exact forall_congr' fun r => not_congr add_eq_error

/-- From any settings on, the refusal is that of the first tag with a fault. -/
theorem foldlM_add_eq_error (s : MachineSettings) {r : Refusal} :
    tags.foldlM add s = .error r ↔ tags.findSome? fault? = some r := by
  induction tags generalizing s with
  | nil => exact ⟨nofun, nofun⟩
  | cons tag rest ih =>
    rw [List.foldlM_cons, List.findSome?_cons]
    cases hadd : s.add tag with
    | error r' =>
      rw [add_eq_error.mp hadd]
      constructor
      · intro h
        cases h
        rfl
      · intro h
        cases h
        rfl
    | ok next =>
      have hfault : fault? tag = none := by
        refine Option.eq_none_iff_forall_ne_some.mpr fun r' hr' => ?_
        exact nomatch hadd.symm.trans (add_eq_error.mpr hr')
      rw [hfault]
      exact ih next

/-- The tags of a machine can be read if each of them can by itself, and the first one that cannot
is refused otherwise, for the fault that it has by itself; a neutral tag sets nothing. What is set
is told by the tags of each kind alone, so that machines which agree in these are drawn alike. -/
theorem ofTags_by_kind (tags : List String) :
    ((∃ s, ofTags tags = .ok s) ↔ ∀ tag ∈ tags, Readable tag) ∧
    (∀ r, ofTags tags = .error r ↔ ∃ before tag after, tags = before ++ tag :: after ∧
      (∀ u ∈ before, Readable u) ∧ ofTags [tag] = .error r) ∧
    (∀ tag r, ofTags [tag] = .error r ↔ fault? tag = some r) ∧
    (∀ tag, TagKind.ofText tag = .neutral → ofTags [tag] = .ok {}) ∧
    (∀ s, ofTags tags = .ok s → SetBy tags s) ∧
    ∀ tags' s s', ofTags tags = .ok s → ofTags tags' = .ok s' →
      (∀ kind ≠ .neutral, tagsOf kind tags = tagsOf kind tags') →
        ∀ id states t, ∃ text, Machine.render ⟨id, tags, states⟩ t = .ok text ∧
          Machine.render ⟨id, tags', states⟩ t = .ok text := by
  have herror : ∀ r, ofTags tags = .error r ↔ tags.findSome? fault? = some r :=
    fun r => foldlM_add_eq_error {}
  have hsingle : ∀ tag r, ofTags [tag] = .error r ↔ fault? tag = some r := by
    intro tag r
    rw [ofTags_singleton, add_eq_error]
  refine ⟨?_, fun r => ?_, hsingle, fun tag hneutral => ?_, fun s => setBy_of_ofTags_eq_ok, ?_⟩
  · simp only [exists_eq_ok_iff, ne_eq, herror, readable_iff]
    rw [← List.findSome?_eq_none_iff, Option.eq_none_iff_forall_ne_some]
  · rw [herror, List.findSome?_eq_some_iff]
    simp only [hsingle, readable_iff, and_comm]
  · rw [ofTags_singleton, add_eq, hneutral]
  · intro tags' s s' hs hs' hkinds id states t
    obtain rfl := (setBy_of_ofTags_eq_ok hs).eq (setBy_of_ofTags_eq_ok hs') hkinds
    have hrender : Machine.render ⟨id, tags, states⟩ t = Machine.render ⟨id, tags', states⟩ t := by
      simp only [Machine.render, Workspace.renderMachine, Workspace.drawMachine, hs, hs']
      rfl
    have hdrawn := Workspace.renderMachine_eq (m := ⟨id, tags, states⟩) hs
      { store := (t.install {}).2 } (t.install {}).1 fun _ hn => absurd hn List.not_mem_nil
    exact ⟨_, hdrawn, hrender.symm.trans hdrawn⟩

/-- Tags with colons and `link` in places where they decide nothing, in one order. -/
def scatteredTags : List String :=
  ["theme: link:dark", "curve: basis ", "var:link=a: :b==c", "x-link", "my link: dotted :x",
   "curve:linear", "var:link=b"]

/-- The same tags in another order, but for the neutral one. -/
def gatheredTags : List String :=
  ["curve: basis ", "curve:linear", "my link: dotted :x", "note:", "var:link=a: :b==c",
   "var:link=b", "theme: link:dark"]

theorem ofTags_scatteredTags :
    ofTags scatteredTags = .ok ⟨some .linear, [("link", "a"), ("b", "=c"), ("link", "b")],
      some "link:dark", none, .dotted⟩ ∧
    (∃ text, Machine.render ⟨"m", scatteredTags, {}⟩ {} = .ok text ∧
      Machine.render ⟨"m", gatheredTags, {}⟩ {} = .ok text) ∧
    ofTags (scatteredTags ++ ["var:a=1:=2", "curve:wiggly"])
      = .error (.badTag "var:a=1:=2" "=2") := by
  have hscattered : ofTags scatteredTags = .ok ⟨some .linear,
    [("link", "a"), ("b", "=c"), ("link", "b")], some "link:dark", none, .dotted⟩ := rfl
  have hgathered : ofTags gatheredTags = .ok ⟨some .linear,
    [("link", "a"), ("b", "=c"), ("link", "b")], some "link:dark", none, .dotted⟩ := rfl
  have hkinds : ∀ kind ≠ .neutral, tagsOf kind scatteredTags = tagsOf kind gatheredTags := by
    intro kind hkind
    cases kind with
    | neutral => contradiction
    | _ => decide
  obtain ⟨hok, -, -, -, -, hrender⟩ := ofTags_by_kind scatteredTags
  obtain ⟨-, herror, -⟩ := ofTags_by_kind (scatteredTags ++ ["var:a=1:=2", "curve:wiggly"])
  refine ⟨hscattered, hrender _ _ _ hscattered hgathered hkinds "m" {} {}, ?_⟩
  exact (herror _).mpr ⟨scatteredTags, _, ["curve:wiggly"], rfl, hok.mp ⟨_, hscattered⟩, rfl⟩

end MachineSettings

end Flowchart
