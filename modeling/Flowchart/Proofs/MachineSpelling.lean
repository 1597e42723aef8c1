import Flowchart.Machine.Decode
import Flowchart.Proofs.Firsts
import Flowchart.Proofs.JsonText

/-!
# How machines are written

A machine may be declared state by state, in a list in which names and events are repeated at will
(`Machine.ofEntries`). It may also be written as a JSON object, and there is much freedom in that:
fields stand in any order, some may be left out or be null, tags and transitions have a short form,
and a record may hold members of which nothing is known. The main statement is
`Machine.read_spells`, that each of these texts is read as the machine that was declared.
-/

namespace Flowchart

open Json

/-! ## Declarations -/

/-- The declaration of a state; an event may be declared more than once. -/
structure StateEntry where
  kind : Option String
  tags : List String
  description : Option String
  on : List (String × Transition)

/-- The state of a declaration: its transitions are added one after the other. -/
def StateEntry.state (e : StateEntry) : MachineState :=
  e.on.foldl (fun s t => s.addTransition t.1 t.2)
    { kind := e.kind, tags := e.tags, description := e.description }

/-- The machine of some declarations: its states are added one after the other. -/
def Machine.ofEntries (id : String) (tags : List String) (entries : List (String × StateEntry)) :
    Machine :=
  entries.foldl (fun m e => m.addState e.1 e.2.state) { id, tags }

theorem lookup_map_snd {α β : Type} (f : α → β) (entries : List (String × α)) (key : String) :
    (entries.map fun e => (e.1, f e.2)).lookup key = (entries.lookup key).map f := by
  induction entries with
  | nil => rfl
  | cons e entries ih =>
    rw [List.map_cons, List.lookup_cons, List.lookup_cons, ih]
    cases key == e.1 <;> rfl

/-- The last of the values that are put under a key stays. -/
theorem Dict.get?_ofList {α : Type} (entries : List (String × α)) (key : String) :
    (Dict.ofList entries).get? key = entries.reverse.lookup key := by
  induction entries using List.reverseRecOn with
  | nil => rfl
  | append_singleton entries e ih =>
    have hstep : Dict.ofList (entries ++ [e]) = (Dict.ofList entries).insert e.1 e.2 := by
      rw [ofList, insertAll, List.foldl_append]
      rfl
    rw [hstep, List.reverse_append, List.reverse_singleton, List.singleton_append,
      List.lookup_cons]
    by_cases hkey : key = e.1
    · subst hkey
      simp
    · rw [get?_insert_of_ne _ _ hkey, ih, beq_eq_false_iff_ne.mpr hkey]

/-- A key has its place where it is put in first. -/
theorem Dict.keys_ofList {α : Type} (entries : List (String × α)) :
    (Dict.ofList entries).keys = firstsBy (fun key => key) (entries.map (·.1)) := by
  induction entries using List.reverseRecOn with
  | nil => rfl
  | append_singleton entries e ih =>
    have hstep : Dict.ofList (entries ++ [e]) = (Dict.ofList entries).insert e.1 e.2 := by
      rw [ofList, insertAll, List.foldl_append]
      rfl
    rw [hstep, keys_insert, ih, List.map_append, List.map_singleton]
    by_cases hkey : e.1 ∈ entries.map (·.1)
    · rw [if_pos (mem_firstsBy_self.mpr hkey), firstsBy_append_of_mem (by simpa using hkey)]
    · rw [if_neg (mt mem_firstsBy_self.mp hkey),
        firstsBy_append_of_not_mem (by simpa using hkey)]

theorem StateEntry.state_eq (e : StateEntry) :
    e.state = { kind := e.kind, tags := e.tags, description := e.description,
                on := Dict.ofList e.on } := by
  have hadd : ∀ s : MachineState, e.on.foldl (fun s t => s.addTransition t.1 t.2) s
      = { s with on := s.on.insertAll e.on } := by
    induction e.on with
    | nil => exact fun s => rfl
    | cons t on ih => exact fun s => ih (s.addTransition t.1 t.2)
  exact hadd _

theorem Machine.ofEntries_eq (id : String) (tags : List String)
    (entries : List (String × StateEntry)) :
    Machine.ofEntries id tags entries
      = { id, tags, states := Dict.ofList (entries.map fun e => (e.1, e.2.state)) } := by
  have hadd : ∀ m : Machine, entries.foldl (fun m e => m.addState e.1 e.2.state) m
      = { m with states := m.states.insertAll (entries.map fun e => (e.1, e.2.state)) } := by
    induction entries with
    | nil => exact fun m => rfl
    | cons e entries ih => exact fun m => ih (m.addState e.1 e.2.state)
  exact hadd _

/-! ## Forms -/

section Forms

/-- A field of a record: one of the members is in a form of its value, or none has its key. -/
inductive FieldForm {α : Type} (key : String) (form : Content → α → Prop)
    (members : List (String × Content)) : Option α → Prop where
  | absent (h : members.filter (fun m => m.1 = key) = []) : FieldForm key form members none
  | present {c : Content} {a : α} (h : members.filter (fun m => m.1 = key) = [(key, c)])
      (ha : form c a) : FieldForm key form members (some a)

/-- An object with a member for each entry, in order; keys may be repeated. -/
inductive DictForm {α : Type} (form : Content → α → Prop) : Content → List (String × α) → Prop where
  | object {members : List (String × Content)} {entries : List (String × α)}
      (h : List.Forall₂ (fun m e => m.1 = e.1 ∧ form m.2 e.2) members entries) :
      DictForm form (.object members) entries

/-- A text. -/
inductive TextForm : Content → String → Prop where
  | string (s : String) : TextForm (.string s) s

/-- A text that may be null. -/
inductive OptionalForm : Content → Option String → Prop where
  | null : OptionalForm .null none
  | string (s : String) : OptionalForm (.string s) (some s)

/-- Tags: one tag may stand for itself. -/
inductive TagsForm : Content → List String → Prop where
  | one (tag : String) : TagsForm (.string tag) [tag]
  | list (tags : List String) : TagsForm (.list (tags.map .string)) tags

/-- How many lists and objects may be open at once in a transition: around it are open the machine,
its states, the state and its transitions. -/
def transitionRoom : Nat := maxDepth - 4

variable (fits : NumberText → Prop)

/-- A transition: its target alone, or an object, in which members of other keys may hold anything
that is not nested too deeply and whose numbers fit. -/
inductive TransitionForm : Content → Transition → Prop where
  | target (target : String) : TransitionForm (.string target) { target }
  | object {members : List (String × Content)} {target : String}
      {description : Option (Option String)}
      (htarget : FieldForm "target" TextForm members (some target))
      (hdescription : FieldForm "description" OptionalForm members description)
      (hnesting : (Content.object members).nesting ≤ transitionRoom)
      (hnumbers : ∀ n ∈ (Content.object members).numbers, fits n) :
      TransitionForm (.object members) { target, description := description.getD none }

/-- A state; members of other keys may hold anything. -/
inductive StateForm : Content → StateEntry → Prop where
  | object {members : List (String × Content)} {kind : Option (Option String)}
      {tags : Option (List String)} {description : Option (Option String)}
      {on : Option (List (String × Transition))}
      (hkind : FieldForm "type" OptionalForm members kind)
      (htags : FieldForm "tags" TagsForm members tags)
      (hdescription : FieldForm "description" OptionalForm members description)
      (hon : FieldForm "on" (DictForm (TransitionForm fits)) members on) :
      StateForm (.object members) ⟨kind.getD none, tags.getD [], description.getD none, on.getD []⟩

/-- A machine; members of other keys may hold anything. -/
inductive MachineForm :
    Content → String → List String → List (String × StateEntry) → Prop where
  | object {members : List (String × Content)} {id : String} {tags : Option (List String)}
      {states : Option (List (String × StateEntry))}
      (hid : FieldForm "id" TextForm members (some id))
      (htags : FieldForm "tags" TagsForm members tags)
      (hstates : FieldForm "states" (DictForm (StateForm fits)) members states) :
      MachineForm (.object members) id (tags.getD []) (states.getD [])

end Forms

/-! ## Fields -/

/-- What becomes of a field while the members are read one by one: it has been seen and does not
come again, or it may come yet. -/
inductive Settles {α : Type} (key : String) (form : Content → α → Prop) :
    Option α → List (String × Content) → Option α → Prop where
  | nil (seen : Option α) : Settles key form seen [] seen
  | skip {k : String} {c : Content} {members : List (String × Content)} {seen last : Option α}
      (h : k ≠ key) (rest : Settles key form seen members last) :
      Settles key form seen ((k, c) :: members) last
  | take {c : Content} {members : List (String × Content)} {a : α} {last : Option α}
      (h : form c a) (rest : Settles key form (some a) members last) :
      Settles key form none ((key, c) :: members) last

/-- A content that a decoder reads as a value. -/
def ReadBy {α : Type} (decoder : Tree → Except Problem α) (c : Content) (a : α) : Prop :=
  decoder c.tree = .ok a

section Settles

variable {α β : Type} {key : String} {form : Content → α → Prop} {seen last : Option α}
  {members : List (String × Content)}

theorem settles_of_filter_eq_nil (h : members.filter (fun m => m.1 = key) = []) :
    Settles key form seen members seen := by
  induction members with
  | nil => exact .nil seen
  | cons m members ih =>
    by_cases hm : m.1 = key
    · rw [List.filter_cons_of_pos (by simpa using hm)] at h
      exact absurd h (List.cons_ne_nil _ _)
    · rw [List.filter_cons_of_neg (by simpa using hm)] at h
      exact .skip hm (ih h)

theorem FieldForm.settles {form' : Content → β → Prop} {f : α → β}
    (h : FieldForm key form members last) (hf : ∀ c a, form c a → form' c (f a)) :
    Settles key form' none members (last.map f) := by
  cases h with
  | absent h => exact settles_of_filter_eq_nil h
  | @present c a h ha =>
    induction members with
    | nil => exact absurd h (List.cons_ne_nil _ _).symm
    | cons m members ih =>
      by_cases hm : m.1 = key
      · rw [List.filter_cons_of_pos (by simpa using hm)] at h
        obtain ⟨rfl, hrest⟩ := List.cons.inj h
        exact .take (hf c a ha) (settles_of_filter_eq_nil hrest)
      · rw [List.filter_cons_of_neg (by simpa using hm)] at h
        exact .skip hm (ih h)

/-- A field is read as its value if a decoder reads its form so. -/
theorem FieldForm.settles_self {decoder : Tree → Except Problem α}
    (h : FieldForm key form members last) (hf : ∀ c a, form c a → ReadBy decoder c a) :
    Settles key (ReadBy decoder) none members last := by
  simpa using h.settles (f := id) hf

/-- A member of another key leaves the field as it is. -/
theorem Settles.tail {k : String} {c : Content}
    (h : Settles key form seen ((k, c) :: members) last) (hk : k ≠ key) :
    Settles key form seen members last := by
  cases h with
  | skip _ rest => exact rest
  | take => exact absurd rfl hk

/-- A member of the key is the first one, and is in a form of the field. -/
theorem Settles.head {c : Content} (h : Settles key form seen ((key, c) :: members) last) :
    seen = none ∧ ∃ a, form c a ∧ Settles key form (some a) members last := by
  cases h with
  | skip hk => exact absurd rfl hk
  | take h rest => exact ⟨rfl, _, h, rest⟩

/-- A member is taken by the field of its key, and leaves every other field as it is. -/
theorem Settles.step {decoder : Tree → Except Problem α} {k : String} {c : Content}
    (h : Settles key (ReadBy decoder) seen ((k, c) :: members) last) :
    ∃ now, Settles key (ReadBy decoder) now members last ∧
      (k = key → once k seen (decoder c.tree) = .ok now) ∧ (k ≠ key → now = seen) := by
  by_cases hk : k = key
  · subst hk
    obtain ⟨rfl, a, ha, rest⟩ := h.head
    have honce : once k none (decoder c.tree) = .ok (some a) := by
      rw [once, ha]
      rfl
    exact ⟨some a, rest, fun _ => honce, fun hne => absurd rfl hne⟩
  · exact ⟨seen, h.tail hk, fun heq => absurd heq hk, fun _ => rfl⟩

theorem Settles.eq_of_nil (h : Settles key form seen [] last) : last = seen := by
  cases h
  rfl

end Settles

/-! ## Decoders of forms -/

theorem TextForm.text {c : Content} {s : String} (h : TextForm c s) : c.tree.text = .ok s := by
  cases h
  rfl

theorem OptionalForm.optionalText {c : Content} {o : Option String} (h : OptionalForm c o) :
    c.tree.optionalText = .ok o := by
  cases h <;> rfl

theorem itemValues?_map_string (tags : List String) :
    itemValues? (tags.map .string) = some (tags.map .string) := by
  induction tags with
  | nil => rfl
  | cons tag tags ih =>
    rw [List.map_cons, itemValues?, ih]
    rfl

theorem itemsNesting_map_string (tags : List String) : itemsNesting (tags.map .string) = 0 := by
  induction tags with
  | nil => rfl
  | cons tag tags ih =>
    rw [List.map_cons, itemsNesting, ih]
    rfl

theorem allStrings?_map_string (tags : List String) :
    allStrings? (tags.map .string) = some tags := by
  induction tags with
  | nil => rfl
  | cons tag tags ih =>
    rw [List.map_cons, allStrings?, ih]
    rfl

theorem TagsForm.decodeTags {c : Content} {tags : List String} (h : TagsForm c tags)
    (room : Nat) : Flowchart.decodeTags (room + 1) c.tree = .ok tags := by
  have hvalue : ∃ v, c.value? = some v ∧ c.nesting ≤ room + 1 ∧ tagsOf? v = some tags := by
    cases h with
    | one tag => exact ⟨_, rfl, Nat.zero_le _, rfl⟩
    | list =>
      refine ⟨.list (tags.map .string), ?_, ?_, allStrings?_map_string tags⟩
      · rw [Content.value?, itemValues?_map_string]
        rfl
      · rw [Content.nesting, itemsNesting_map_string]
        exact Nat.succ_le_succ (Nat.zero_le room)
  obtain ⟨v, hv, hnesting, htags⟩ := hvalue
  simp [Flowchart.decodeTags, c.value_tree hnesting hv, bind, Except.bind, htags]

/-- The fields of a transition are read off the values of its members. -/
theorem TransitionFields.foldlM_add? {members : List (String × Content)}
    {values : List (String × Value)} (hvalues : memberValues? members = some values)
    {f g : TransitionFields} (htarget : Settles "target" TextForm f.target members g.target)
    (hdescription : Settles "description" OptionalForm f.description members g.description) :
    values.foldlM (fun f m => f.add? m.1 m.2) f = some g := by
  induction members generalizing f values with
  | nil =>
    obtain rfl := Option.some.inj hvalues
    obtain ⟨target, description⟩ := g
    obtain rfl : target = f.target := htarget.eq_of_nil
    obtain rfl : description = f.description := hdescription.eq_of_nil
    rfl
  | cons m members ih =>
    obtain ⟨key, c⟩ := m
    obtain ⟨v, hv, hvalues⟩ := Option.bind_eq_some_iff.mp hvalues
    obtain ⟨ws, hws, hvalues⟩ := Option.bind_eq_some_iff.mp hvalues
    obtain rfl := Option.some.inj hvalues
    have hrest : ∀ h : TransitionFields, f.add? key v = some h →
        Settles "target" TextForm h.target members g.target →
        Settles "description" OptionalForm h.description members g.description →
        List.foldlM (fun f m => f.add? m.1 m.2) f ((key, v) :: ws) = some g := by
      intro h hadd htarget hdescription
      rw [List.foldlM_cons, hadd]
      exact ih hws htarget hdescription
    by_cases hkey : key = "target"
    · subst hkey
      obtain ⟨hseen, s, ⟨⟩, hlater⟩ := htarget.head
      obtain rfl := Option.some.inj hv
      refine hrest { f with target := some s } ?_ hlater (hdescription.tail (by decide))
      simp [add?, hseen]
    by_cases hkey' : key = "description"
    · subst hkey'
      obtain ⟨hseen, o, hform, hlater⟩ := hdescription.head
      refine hrest { f with description := some o } ?_ (htarget.tail hkey) hlater
      cases hform <;> obtain rfl := Option.some.inj hv <;> simp [add?, hseen]
    · refine hrest f ?_ (htarget.tail hkey) (hdescription.tail hkey')
      simp [add?, hkey, hkey']

theorem TransitionForm.decodeTransition {c : Content} {t : Transition}
    (h : TransitionForm NumberText.HasValue c t) :
    Flowchart.decodeTransition transitionRoom c.tree = .ok t := by
  cases h with
  | target target => rfl
  | @object members target description htarget hdescription hnesting hnumbers =>
    obtain ⟨v, hv⟩ := Content.exists_value _ hnumbers
    have htree := Content.value_tree _ hnesting hv
    obtain ⟨values, hvalues, rfl⟩ := Option.map_eq_some_iff.mp hv
    have hfields := TransitionFields.foldlM_add? hvalues (f := {})
      (g := { target := some target, description })
      (htarget.settles (f := id) fun _ _ h => h)
      (by simpa using hdescription.settles (f := id) fun _ _ h => h)
    simp [Flowchart.decodeTransition, htree, transitionOf?, hfields, bind, Except.bind]

/-- An object is read as the dictionary of its entries. -/
theorem DictForm.decodeDict {α β : Type} {form : Content → α → Prop}
    {decoder : Nat → Tree → Except Problem β} {f : α → β} {room : Nat} {c : Content}
    {entries : List (String × α)} (h : DictForm form c entries)
    (hf : ∀ c a, form c a → decoder room c.tree = .ok (f a)) :
    Flowchart.decodeDict decoder (room + 1) c.tree
      = .ok (Dict.ofList (entries.map fun e => (e.1, f e.2))) := by
  obtain @⟨members, _, h⟩ := h
  have hread : ∀ d : Dict β,
      readMembers (fun d key t => do .ok (d.insert key (← decoder room t))) d
        (memberTrees members) none = .ok (d.insertAll (entries.map fun e => (e.1, f e.2))) := by
    induction h with
    | nil => exact fun d => rfl
    | @cons m e members entries hm _ ih =>
      intro d
      rw [memberTrees, readMembers, hf _ _ hm.2]
      exact (ih _).trans (by rw [hm.1]; rfl)
  rw [Content.tree, Flowchart.decodeDict]
  exact hread {}

/-- The fields of a state are read off its members. -/
theorem StateFields.readMembers_add (room : Nat) {members : List (String × Content)}
    {f g : StateFields}
    (hkind : Settles "type" (ReadBy Tree.optionalText) f.kind members g.kind)
    (htags : Settles "tags" (ReadBy (decodeTags room)) f.tags members g.tags)
    (hdescription : Settles "description" (ReadBy Tree.optionalText) f.description members
      g.description)
    (hon : Settles "on" (ReadBy (decodeDict decodeTransition room)) f.on members g.on) :
    readMembers (StateFields.add room) f (memberTrees members) none = .ok g := by
  induction members generalizing f with
  | nil =>
    obtain ⟨kind, tags, description, on⟩ := g
    obtain rfl : kind = f.kind := hkind.eq_of_nil
    obtain rfl : tags = f.tags := htags.eq_of_nil
    obtain rfl : description = f.description := hdescription.eq_of_nil
    obtain rfl : on = f.on := hon.eq_of_nil
    rfl
  | cons m members ih =>
    obtain ⟨key, c⟩ := m
    obtain ⟨kind, hkind, hkind1, hkind2⟩ := hkind.step
    obtain ⟨tags, htags, htags1, htags2⟩ := htags.step
    obtain ⟨description, hdescription, hdescription1, hdescription2⟩ := hdescription.step
    obtain ⟨on, hon, hon1, hon2⟩ := hon.step
    -- The field of the key takes the member, and the others are as they were.
    have hadd : f.add room key c.tree = .ok ⟨kind, tags, description, on⟩ := by
      unfold add
      split_ifs <;> simp_all [c.skip_tree, bind, Except.bind]
    rw [memberTrees, readMembers, hadd]
    exact ih hkind htags hdescription hon

theorem StateForm.decodeState {c : Content} {e : StateEntry}
    (h : StateForm NumberText.HasValue c e) :
    Flowchart.decodeState (transitionRoom + 2) c.tree = .ok e.state := by
  obtain ⟨hkind, htags, hdescription, hon⟩ := h
  rename_i members kind tags description on
  have hread := StateFields.readMembers_add (transitionRoom + 1) (f := {})
    (g := { kind, tags, description, on := on.map fun ts => Dict.ofList ts })
    (hkind.settles_self fun _ _ h => h.optionalText)
    (htags.settles_self fun _ _ h => h.decodeTags transitionRoom)
    (hdescription.settles_self fun _ _ h => h.optionalText)
    (hon.settles fun c ts h => by
      simpa [ReadBy] using h.decodeDict (f := id) fun _ _ ht => ht.decodeTransition)
  rw [Content.tree, Flowchart.decodeState, StateEntry.state_eq]
  change (readMembers (StateFields.add (transitionRoom + 1)) {} (memberTrees members) none
    >>= fun fields => .ok fields.state) = _
  rw [hread]
  cases on <;> rfl

/-- The fields of a machine are read off its members. -/
theorem MachineFields.readMembers_add (room : Nat) {members : List (String × Content)}
    {f g : MachineFields}
    (hid : Settles "id" (ReadBy Tree.text) f.id members g.id)
    (htags : Settles "tags" (ReadBy (decodeTags room)) f.tags members g.tags)
    (hstates : Settles "states" (ReadBy (decodeDict decodeState room)) f.states members g.states) :
    readMembers (MachineFields.add room) f (memberTrees members) none = .ok g := by
  induction members generalizing f with
  | nil =>
    obtain ⟨id, tags, states⟩ := g
    obtain rfl : id = f.id := hid.eq_of_nil
    obtain rfl : tags = f.tags := htags.eq_of_nil
    obtain rfl : states = f.states := hstates.eq_of_nil
    rfl
  | cons m members ih =>
    obtain ⟨key, c⟩ := m
    obtain ⟨id, hid, hid1, hid2⟩ := hid.step
    obtain ⟨tags, htags, htags1, htags2⟩ := htags.step
    obtain ⟨states, hstates, hstates1, hstates2⟩ := hstates.step
    have hadd : f.add room key c.tree = .ok ⟨id, tags, states⟩ := by
      unfold add
      split_ifs <;> simp_all [c.skip_tree, bind, Except.bind]
    rw [memberTrees, readMembers, hadd]
    exact ih hid htags hstates

theorem MachineForm.decodeMachine {c : Content} {id : String} {tags : List String}
    {entries : List (String × StateEntry)} (h : MachineForm NumberText.HasValue c id tags entries) :
    Flowchart.decodeMachine c.tree = .ok (Machine.ofEntries id tags entries) := by
  obtain ⟨hid, htags, hstates⟩ := h
  rename_i members tags states
  have hread := MachineFields.readMembers_add (transitionRoom + 3) (f := {})
    (g := { id := some id, tags,
            states := states.map fun es => Dict.ofList (es.map fun e => (e.1, e.2.state)) })
    (hid.settles_self fun _ _ h => h.text)
    (htags.settles_self fun _ _ h => h.decodeTags (transitionRoom + 2))
    (hstates.settles fun c es h => h.decodeDict fun _ _ hs => hs.decodeState)
  have henter : enter maxDepth = .ok (transitionRoom + 3) := rfl
  rw [Content.tree, Flowchart.decodeMachine, Machine.ofEntries_eq, henter]
  simp only [bind, Except.bind]
  rw [hread]
  cases states <;> rfl

/-- Each text of the declarations of a machine is read as the machine that they declare, one after
the other: a name or an event that is declared again keeps its place and has its last value. -/
theorem Machine.read_spells {c : Content} {text id : String} {tags : List String}
    {entries : List (String × StateEntry)}
    (hform : MachineForm NumberText.HasValue c id tags entries) (htext : c.Spells text) :
    Machine.read text = .ok (Machine.ofEntries id tags entries) ∧
      (Machine.ofEntries id tags entries).states.keys
        = firstsBy (fun name => name) (entries.map (·.1)) ∧
      (∀ name, (Machine.ofEntries id tags entries).states.get? name
        = (entries.reverse.lookup name).map StateEntry.state) ∧
      ∀ e ∈ entries, e.2.state.on.keys = firstsBy (fun event => event) (e.2.on.map (·.1)) ∧
        ∀ event, e.2.state.on.get? event = e.2.on.reverse.lookup event := by
  refine ⟨?_, ?_, fun name => ?_, fun e _ => ?_⟩
  · rw [Machine.read, decode, Document.read_of_spells htext, hform.decodeMachine]
    rfl
  · rw [ofEntries_eq, Dict.keys_ofList, List.map_map]
    rfl
  · rw [ofEntries_eq, Dict.get?_ofList, ← List.map_reverse]
    exact lookup_map_snd StateEntry.state _ name
  · rw [StateEntry.state_eq]
    exact ⟨Dict.keys_ofList _, Dict.get?_ofList _⟩

/-- The members of a text that declares a state twice, the second time with tags and a transition,
and holds a number that has no value. -/
def twiceDeclared : Content :=
  .object [("x", .list [.number ⟨false, ['1'], none, some (false, ['9', '9', '9'])⟩]),
    ("id", .string "m"),
    ("states", .object [("a", .object []),
      ("a", .object [("tags", .string "t"), ("on", .object [("GO", .string "b")])])])]

/-- The two declarations of its state. -/
def twiceEntries : List (String × StateEntry) :=
  [("a", ⟨none, [], none, []⟩), ("a", ⟨none, ["t"], none, [("GO", { target := "b" })]⟩)]

theorem machineForm_twiceDeclared :
    MachineForm NumberText.HasValue twiceDeclared "m" [] twiceEntries := by
  have hbare : StateForm NumberText.HasValue (.object []) ⟨none, [], none, []⟩ :=
    .object (.absent rfl) (.absent rfl) (.absent rfl) (.absent rfl)
  have hfull : StateForm NumberText.HasValue
      (.object [("tags", .string "t"), ("on", .object [("GO", .string "b")])])
      ⟨none, ["t"], none, [("GO", { target := "b" })]⟩ :=
    .object (.absent rfl) (.present rfl (.one "t")) (.absent rfl)
      (.present rfl (.object (.cons ⟨rfl, .target "b"⟩ .nil)))
  exact .object (.present rfl (.string "m")) (.absent rfl)
    (.present rfl (.object (.cons ⟨rfl, hbare⟩ (.cons ⟨rfl, hfull⟩ .nil))))

/-- A text of `twiceDeclared`, which writes the second name with an escape. -/
def twiceDeclaredText : String :=
  String.join ["\x7b", "\"x\"", ":", "[", "1e999", "]", ",", "\"id\"", ":", "\"m\"", ",",
    "\"states\"", ":", "\x7b", "\"a\"", ":", "\x7b", "\x7d", ",", "\"\\u0061\"", ":", "\x7b",
    "\"tags\"", ":", "\"t\"", ",", "\"on\"", ":", "\x7b", "\"GO\"", ":", "\"b\"", "\x7d", "\x7d",
    "\x7d", "\x7d"]

theorem spells_twiceDeclared : twiceDeclared.Spells twiceDeclaredText := by
  have hnumber : NumberSpelling ⟨false, ['1'], none, some (false, ['9', '9', '9'])⟩
      ['1', 'e', '9', '9', '9'] :=
    @NumberSpelling.parts _ [] ['e', '9', '9', '9'] (.of_all rfl) (by decide) .none
      (@ExponentSpelling.some _ _ [] _ (.inl rfl) .none (.of_all rfl))
  have hunit : UnitSpelling 'a'.toNat ['0', '0', '6', '1'] :=
    @UnitSpelling.digits _ 0 0 6 1 _ _ _ _ (by decide) ⟨by decide, .inl rfl⟩ ⟨by decide, .inl rfl⟩
      ⟨by decide, .inl rfl⟩ ⟨by decide, .inl rfl⟩
  have hescaped : (Token.string (some "a")).Spelling
      ['\x22', '\\', 'u', '0', '0', '6', '1', '\x22'] :=
    @Token.Spelling.string "a" ['\\', 'u', '0', '0', '6', '1']
      (.cons (.unit (by decide) hunit) .nil)
  rw [Content.Spells, twiceDeclaredText, String.toList_join, List.flatMap_def]
  refine .flatten ?_
  simp only [twiceDeclared, Content.tokens, moreItems, moreMembers,
    List.cons_append, List.nil_append, List.map_cons, List.map_nil, List.forall₂_cons]
  exact ⟨.openObject, .plain rfl, .colon, .openList, .positive rfl hnumber, .closeList,
    .comma, .plain rfl, .colon, .plain rfl, .comma, .plain rfl, .colon,
    .openObject, .plain rfl, .colon, .openObject, .closeObject, .comma, hescaped, .colon,
    .openObject, .plain rfl, .colon, .plain rfl, .comma, .plain rfl, .colon,
    .openObject, .plain rfl, .colon, .plain rfl, .closeObject, .closeObject,
    .closeObject, .closeObject, .nil⟩

theorem Machine.read_twiceDeclared :
    MachineForm NumberText.HasValue twiceDeclared "m" [] twiceEntries ∧
      twiceDeclared.Spells twiceDeclaredText ∧
      ∃ m, Machine.read twiceDeclaredText = .ok m ∧ m.states.keys = ["a"] ∧
        m.states.get? "a" = some { tags := ["t"], on := ⟨[("GO", { target := "b" })]⟩ } := by
  obtain ⟨hread, hkeys, hget, -⟩ :=
    Machine.read_spells machineForm_twiceDeclared spells_twiceDeclared
  exact ⟨machineForm_twiceDeclared, spells_twiceDeclared, _, hread, hkeys.trans (by decide),
    (hget "a").trans (congrArg some (StateEntry.state_eq _))⟩

/-- A number that lies between the least and the greatest of the doubles. -/
def Json.NumberText.WithinDoubles (n : NumberText) : Prop :=
  Decimal.digitsValue (n.whole ++ n.fraction.getD [])
      * Nat.pow 10 (n.exponentValue - (n.fraction.getD []).length).toNat
    ≤ (Nat.pow 2 53 - 1) * Nat.pow 2 971
      * Nat.pow 10 (-(n.exponentValue - (n.fraction.getD []).length)).toNat

/-- A number of twenty digits a little below the greatest double. -/
def nearGreatest : NumberText where
  negative := false
  whole := ['1', '7', '9', '7', '6', '9', '3', '1', '3', '4', '8', '6', '2', '3', '1', '5', '7',
    '0', '8', '1']
  fraction := none
  exponent := some (false, ['2', '8', '9'])

theorem withinDoubles_nearGreatest : nearGreatest.WithinDoubles := by
  unfold NumberText.WithinDoubles
  decide +kernel

/-- Digits and power are each rounded up, and so is their product, beyond the greatest double. -/
theorem value?_nearGreatest : nearGreatest.value? = none := by
  decide +kernel

/-- The members of a text in which a transition holds this number. -/
def numberedTransition : Content :=
  .object [("id", .string "m"),
    ("states", .object [("a", .object [("on", .object [("GO", .object [("target", .string "b"),
      ("x", .number nearGreatest)])])])])]

theorem machineForm_numberedTransition :
    MachineForm NumberText.WithinDoubles numberedTransition "m" []
      [("a", ⟨none, [], none, [("GO", { target := "b" })]⟩)] := by
  have htransition : TransitionForm NumberText.WithinDoubles
      (.object [("target", .string "b"), ("x", .number nearGreatest)]) { target := "b" } :=
    .object (.present rfl (.string "b")) (.absent rfl) (by decide) (by
      intro n hn
      rw [show n = nearGreatest from List.mem_singleton.mp hn]
      exact withinDoubles_nearGreatest)
  have hstate : StateForm NumberText.WithinDoubles
      (.object [("on", .object [("GO", .object [("target", .string "b"),
        ("x", .number nearGreatest)])])])
      ⟨none, [], none, [("GO", { target := "b" })]⟩ :=
    .object (.absent rfl) (.absent rfl) (.absent rfl)
      (.present rfl (.object (.cons ⟨rfl, htransition⟩ .nil)))
  exact .object (.present rfl (.string "m")) (.absent rfl)
    (.present rfl (.object (.cons ⟨rfl, hstate⟩ .nil)))

/-- A text of `numberedTransition`. -/
def numberedTransitionText : String :=
  String.join ["\x7b", "\"id\"", ":", "\"m\"", ",", "\"states\"", ":", "\x7b", "\"a\"", ":", "\x7b",
    "\"on\"", ":", "\x7b", "\"GO\"", ":", "\x7b", "\"target\"", ":", "\"b\"", ",", "\"x\"", ":",
    "17976931348623157081e289", "\x7d", "\x7d", "\x7d", "\x7d", "\x7d"]

theorem spells_numberedTransition : numberedTransition.Spells numberedTransitionText := by
  have hnumber : NumberSpelling nearGreatest "17976931348623157081e289".toList :=
    @NumberSpelling.parts _ [] ['e', '2', '8', '9'] (.of_all rfl) (by decide) .none
      (@ExponentSpelling.some _ _ [] _ (.inl rfl) .none (.of_all rfl))
  rw [Content.Spells, numberedTransitionText, String.toList_join, List.flatMap_def]
  refine .flatten ?_
  simp only [numberedTransition, Content.tokens, moreMembers,
    List.cons_append, List.nil_append, List.map_cons, List.map_nil, List.forall₂_cons]
  exact ⟨.openObject, .plain rfl, .colon, .plain rfl, .comma, .plain rfl,
    .colon, .openObject, .plain rfl, .colon, .openObject, .plain rfl, .colon,
    .openObject, .plain rfl, .colon, .openObject, .plain rfl, .colon,
    .plain rfl, .comma, .plain rfl, .colon, .positive rfl hnumber, .closeObject,
    .closeObject, .closeObject, .closeObject, .closeObject, .nil⟩

/-- It is not enough that the numbers of a transition lie between the least and the greatest of the
doubles. -/
theorem Machine.not_read_spells_withinDoubles :
    ¬ ∀ (c : Content) (text id : String) (tags : List String)
      (entries : List (String × StateEntry)),
        MachineForm NumberText.WithinDoubles c id tags entries → c.Spells text →
          Machine.read text = .ok (Machine.ofEntries id tags entries) := by
  intro h
  have hread := h _ _ _ _ _ machineForm_numberedTransition spells_numberedTransition
  have hrefused : decodeMachine numberedTransition.tree = .error (.fault .malformed) := by
    simp only [numberedTransition, Content.tree, memberTrees, value?_nearGreatest]
    rfl
  rw [Machine.read, decode, Document.read_of_spells spells_numberedTransition, hrefused] at hread
  contradiction

end Flowchart
