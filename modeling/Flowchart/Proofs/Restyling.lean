import Flowchart.Proofs.MachineText
import Mathlib.Data.List.Basic

/-!
# Which classes are the same is all that counts

The text of a machine does not depend on what its classes are, only on which states have the same
one (`Machine.directText_of_restyles`). So it makes no difference whether the classes of a style
table go by their tags or by their places in a store (`StyleTable.restyles_install`).
-/

namespace Flowchart

variable {κ κ' : Type} {g : Styling κ} {g' : Styling κ'} {f : κ → κ'}

/-- A styling that differs from another one in what the classes are. -/
structure Styling.Restyles (g : Styling κ) (g' : Styling κ') (f : κ → κ') : Prop where
  rule_eq : ∀ s, g'.rule s = (g.rule s).map fun r => (f r.1, r.2)
  style_eq : ∀ s r, g.rule s = some r → g'.style (f r.1) = g.style r.1
  inj : ∀ s s' r r', g.rule s = some r → g.rule s' = some r' → f r.1 = f r'.1 → r.1 = r'.1

/-! ## The text under another styling -/

namespace Machine

variable {m : Machine} (h : g.Restyles g' f)

include h

theorem entryText_of_restyles : entryText g' = entryText g := by
  funext e
  rw [entryText, entryText, h.rule_eq]
  cases g.rule e.2 <;> rfl

theorem entryClass_of_restyles (e : String × MachineState) :
    entryClass g' e = (entryClass g e).map f := by
  rw [entryClass, entryClass, h.rule_eq]
  cases g.rule e.2 <;> rfl

theorem vertexText_of_restyles : m.vertexText g' = m.vertexText g := by
  funext v
  cases v with
  | state id => rw [vertexText, vertexText, entryText_of_restyles h]
  | undeclared name => rfl

theorem arcLines_of_restyles (line : LineStyle) : m.arcLines g' line = m.arcLines g line := by
  have hmention : m.mentionText g' = m.mentionText g := by
    funext before v
    rw [mentionText, mentionText, vertexText_of_restyles h]
  have harc : m.arcLine g' line = m.arcLine g line := by
    funext earlier a
    rw [arcLine, arcLine, hmention]
  rw [arcLines, arcLines, harc]

theorem isolatedLines_of_restyles : m.isolatedLines g' = m.isolatedLines g := by
  rw [isolatedLines, isolatedLines, entryText_of_restyles h]

/-- States have the same class in both stylings. -/
theorem eq_of_entryClass {e e' : String × MachineState} {k k' : κ} (hk : entryClass g e = some k)
    (hk' : entryClass g e' = some k') (heq : f k = f k') : k = k' := by
  obtain ⟨r, hr, rfl⟩ := Option.map_eq_some_iff.mp hk
  obtain ⟨r', hr', rfl⟩ := Option.map_eq_some_iff.mp hk'
  exact h.inj _ _ _ _ hr hr' heq

variable [DecidableEq κ] [DecidableEq κ']

theorem usedClasses_of_restyles : m.usedClasses g' = (m.usedClasses g).map f := by
  have hmap : m.drawnStates.filterMap (entryClass g')
      = (m.drawnStates.filterMap (entryClass g)).map f := by
    rw [List.map_filterMap]
    exact List.filterMap_congr fun e _ => entryClass_of_restyles h e
  rw [usedClasses, hmap, firstsBy_map]
  · rfl
  · intro k hk k' hk'
    obtain ⟨e, -, he⟩ := List.mem_filterMap.mp hk
    obtain ⟨e', -, he'⟩ := List.mem_filterMap.mp hk'
    exact eq_of_entryClass h he he'

theorem classLines_of_restyles {k : κ} (hk : k ∈ m.usedClasses g) :
    m.classLines g' (f k) = m.classLines g k := by
  obtain ⟨e, -, he⟩ := List.mem_filterMap.mp (mem_firstsBy_self.mp hk)
  have hstyle : g'.style (f k) = g.style k := by
    obtain ⟨r, hr, rfl⟩ := Option.map_eq_some_iff.mp he
    exact h.style_eq _ _ hr
  have hstates : (m.drawnStates.filter fun e => entryClass g' e = some (f k))
      = m.drawnStates.filter fun e => entryClass g e = some k := by
    apply List.filter_congr
    intro e' _
    rw [entryClass_of_restyles h, decide_eq_decide, Option.map_eq_some_iff]
    constructor
    · rintro ⟨k', hk', heq⟩
      rw [hk', eq_of_entryClass h hk' he heq]
    · intro hk
      exact ⟨k, hk, rfl⟩
  rw [classLines, classLines, hstyle, hstates]

/-- A machine has the same text under a styling with other classes. -/
theorem directText_of_restyles (settings : MachineSettings) :
    m.directText g' settings = m.directText g settings := by
  have hclasses : (m.usedClasses g').flatMap (m.classLines g')
      = (m.usedClasses g).flatMap (m.classLines g) := by
    rw [usedClasses_of_restyles h, List.flatMap_map]
    exact List.flatMap_congr fun k hk => classLines_of_restyles h hk
  rw [directText, directText, directLines, directLines, arcLines_of_restyles h,
    isolatedLines_of_restyles h, hclasses]

end Machine

/-! ## The rule of a state -/

theorem findSome?_eq_bind_find? {α β : Type} (p : α → Option β) (as : List α) :
    as.findSome? p = (as.find? fun a => (p a).isSome).bind p := by
  induction as with
  | nil => rfl
  | cons a as ih =>
    rw [List.findSome?_cons, List.find?_cons]
    cases ha : p a with
    | none => exact ih
    | some b => exact ha.symm

/-- A state has the rule of the first of its type and its tags that has one. -/
theorem Dict.forState?_eq_bind {α : Type} (d : Dict α) (s : MachineState) :
    d.forState? s = ((s.kind.toList ++ s.tags).find? d.contains).bind d.get? := by
  have hfirst : d.forState? s = (s.kind.toList ++ s.tags).findSome? d.get? := by
    rw [forState?, firstOf?, List.findSome?_append]
    cases s.kind with
    | none => rfl
    | some tag =>
      rw [Option.bind_some, Option.toList_some, List.findSome?_singleton]
      cases d.get? tag <;> rfl
  rw [hfirst]
  exact findSome?_eq_bind_find? _ _

/-! ## Installing a table -/

section Install

variable {s : Store} {es : List (String × StyleRule)} {tag : String} {r : StyleRule}

/-- The class of the first rule of a tag, if the class styles of some rules are added to a
store. -/
def classOf (s : Store) (es : List (String × StyleRule)) (tag : String) : ClassId :=
  ⟨s.classes.size + (es.map (·.1)).idxOf tag⟩

theorem classOf_cons_self (s : Store) (tag : String) (r : StyleRule)
    (es : List (String × StyleRule)) : classOf s ((tag, r) :: es) tag = ⟨s.classes.size⟩ := by
  rw [classOf, List.map_cons, List.idxOf_cons_self]
  rfl

theorem classOf_cons_of_ne (s : Store) {other : String} (h : other ≠ tag) (r : StyleRule)
    (es : List (String × StyleRule)) :
    classOf s ((other, r) :: es) tag = classOf (s.newClass r.style).2 es tag := by
  have hsize : (s.newClass r.style).2.classes.size = s.classes.size + 1 := Shelf.size_push _ _
  rw [classOf, classOf, List.map_cons, List.idxOf_cons_ne _ h, hsize]
  congr 1
  omega

/-- Each tag has a class of its own. -/
theorem eq_of_classOf {tag' : String} (h : tag ∈ es.map (·.1))
    (heq : classOf s es tag = classOf s es tag') : tag = tag' :=
  (List.idxOf_inj h).mp (Nat.add_left_cancel (ClassId.mk.inj heq))

theorem lookup_installRules (s : Store) (es : List (String × StyleRule)) (tag : String) :
    (installRules s es).1.lookup tag
      = (es.lookup tag).map fun r => (classOf s es tag, r.shape) := by
  induction es generalizing s with
  | nil => rfl
  | cons e es ih =>
    obtain ⟨other, r⟩ := e
    show ((other, ((s.newClass r.style).1, r.shape))
      :: (installRules (s.newClass r.style).2 es).1).lookup tag = _
    rw [List.lookup_cons, List.lookup_cons, ih]
    by_cases h : tag = other
    · rw [h, classOf_cons_self, beq_self_eq_true]
      rfl
    · rw [classOf_cons_of_ne s (Ne.symm h), beq_false_of_ne h]

/-- Adding more class styles keeps those that are there. -/
theorem classStyle_installRules_of_lt {k : ClassId} (h : k.index < s.classes.size) :
    (installRules s es).2.classStyle k = s.classStyle k := by
  induction es generalizing s with
  | nil => rfl
  | cons e es ih =>
    have hlt : k.index < (s.newClass e.2.style).2.classes.size := by
      show _ < (s.classes.push _).size
      rw [Shelf.size_push]
      exact Nat.lt_succ_of_lt h
    show (installRules (s.newClass e.2.style).2 es).2.classStyle k = _
    rw [ih hlt, Store.classStyle_newClass_of_lt h]

theorem classStyle_installRules (h : es.lookup tag = some r) :
    (installRules s es).2.classStyle (classOf s es tag) = r.style := by
  induction es generalizing s with
  | nil => cases h
  | cons e es ih =>
    obtain ⟨other, x⟩ := e
    show (installRules (s.newClass x.style).2 es).2.classStyle _ = _
    rw [List.lookup_cons] at h
    by_cases htag : tag = other
    · -- The rules that follow only add class styles.
      rw [htag, beq_self_eq_true, Option.some.injEq] at h
      rw [htag, classOf_cons_self, classStyle_installRules_of_lt, ← h]
      · exact Store.classStyle_newClass_self s x.style
      · show s.classes.size < (s.classes.push _).size
        rw [Shelf.size_push]
        exact Nat.lt_succ_self _
    · rw [beq_false_of_ne htag] at h
      rw [classOf_cons_of_ne s (Ne.symm htag)]
      exact ih h

end Install

namespace StyleTable

variable {t : StyleTable} {x : MachineState} {r : String × Option Shape}

/-- A state is styled by the rule of a tag that the table has. -/
theorem exists_of_rule_eq_some (h : t.styling.rule x = some r) :
    ∃ rule, t.get? r.1 = some rule ∧ r.2 = rule.shape := by
  obtain ⟨tag, -, htag⟩ := Option.bind_eq_some_iff.mp h
  obtain ⟨rule, hrule, hr⟩ := Option.bind_eq_some_iff.mp htag
  cases hr
  exact ⟨rule, hrule, rfl⟩

/-- The styling by a table stays what it is when the table is installed in a store. -/
theorem restyles_install (t : StyleTable) (s : Store) :
    t.styling.Restyles ((t.install s).1.styling (t.install s).2) (classOf s t.entries) := by
  have hget (tag : String) : (t.install s).1.get? tag
      = (t.get? tag).map fun r => (classOf s t.entries tag, r.shape) :=
    lookup_installRules s t.entries tag
  have hcontains : (t.install s).1.contains = t.contains := by
    funext tag
    rw [Dict.contains, hget, Option.isSome_map, Dict.contains]
  constructor
  · intro x
    show (t.install s).1.forState? x = _
    rw [Dict.forState?_eq_bind, hcontains]
    show (t.tagFor? x).bind _ = ((t.tagFor? x).bind _).map _
    cases t.tagFor? x with
    | none => rfl
    | some tag =>
      rw [Option.bind_some, Option.bind_some, hget]
      cases t.get? tag <;> rfl
  · intro x r hr
    obtain ⟨rule, hrule, -⟩ := exists_of_rule_eq_some hr
    show (installRules s t.entries).2.classStyle _ = ((t.get? r.1).getD default).style
    rw [classStyle_installRules hrule, hrule]
    rfl
  · intro x x' r r' hr hr' heq
    obtain ⟨rule, hrule, -⟩ := exists_of_rule_eq_some hr
    have hmem : r.1 ∈ t.keys := by
      rw [← Dict.contains_iff, Dict.contains, hrule]
      rfl
    exact eq_of_classOf hmem heq

end StyleTable

end Flowchart
