import Flowchart.Json.Decode
import Flowchart.Proofs.JsonLexemes

/-!
# Texts of JSON

A content is what a JSON text says, apart from how it is written. It is told here in which texts a
content is written (`Content.Spells`), and what each of the readers of a tree finds in such a text:
the tree of the content (`Document.read_of_spells`), its value, and nothing that keeps anyone from
skipping it.
-/

namespace Flowchart.Json

/-- What a text says. Numbers are kept as they are written, for a number may be too large to have a
value. -/
inductive Content where
  | null
  | bool (value : Bool)
  | number (value : NumberText)
  | string (value : String)
  | list (items : List Content)
  | object (members : List (String × Content))

mutual

/-- The tokens of a content. -/
def Content.tokens : Content → List Token
  | .null => [.null]
  | .bool b => [.bool b]
  | .number n => [.number n.value?]
  | .string s => [.string (some s)]
  | .list [] => [.openList, .closeList]
  | .list (c :: items) => .openList :: (c.tokens ++ moreItems items)
  | .object [] => [.openObject, .closeObject]
  | .object ((key, c) :: members) =>
    .openObject :: .string (some key) :: .colon :: (c.tokens ++ moreMembers members)

/-- The tokens of the items behind the first one, up to the end of the list. -/
def moreItems : List Content → List Token
  | [] => [.closeList]
  | c :: items => .comma :: (c.tokens ++ moreItems items)

/-- The tokens of the members behind the first one, up to the end of the object. -/
def moreMembers : List (String × Content) → List Token
  | [] => [.closeObject]
  | (key, c) :: members =>
    .comma :: .string (some key) :: .colon :: (c.tokens ++ moreMembers members)

end

mutual

/-- The tree of a content. -/
def Content.tree : Content → Tree
  | .null => .null
  | .bool b => .bool b
  | .number n => .number n.value?
  | .string s => .string (some s)
  | .list items => .list (itemTrees items) none
  | .object members => .object (memberTrees members) none

/-- The trees of the items of a list. -/
def itemTrees : List Content → List Tree
  | [] => []
  | c :: items => c.tree :: itemTrees items

/-- The trees of the members of an object. -/
def memberTrees : List (String × Content) → List Member
  | [] => []
  | (key, c) :: members => (some key, c.tree) :: memberTrees members

end

mutual

/-- The value of a content, absent if a number in it is too large. -/
def Content.value? : Content → Option Value
  | .null => some .null
  | .bool b => some (.bool b)
  | .number n => n.value?.map .number
  | .string s => some (.string s)
  | .list items => (itemValues? items).map .list
  | .object members => (memberValues? members).map .object

/-- The values of the items of a list. -/
def itemValues? : List Content → Option (List Value)
  | [] => some []
  | c :: items => do some ((← c.value?) :: (← itemValues? items))

/-- The values of the members of an object, under their keys. -/
def memberValues? : List (String × Content) → Option (List (String × Value))
  | [] => some []
  | (key, c) :: members => do some ((key, ← c.value?) :: (← memberValues? members))

end

mutual

/-- How many lists and objects are open at once in a content, at most. -/
def Content.nesting : Content → Nat
  | .list items => itemsNesting items + 1
  | .object members => membersNesting members + 1
  | _ => 0

/-- How many are open at once in an item of a list. -/
def itemsNesting : List Content → Nat
  | [] => 0
  | c :: items => max c.nesting (itemsNesting items)

/-- How many are open at once in a member of an object. -/
def membersNesting : List (String × Content) → Nat
  | [] => 0
  | (_, c) :: members => max c.nesting (membersNesting members)

end

mutual

/-- The numbers that stand in a content. -/
def Content.numbers : Content → List NumberText
  | .number n => [n]
  | .list items => itemsNumbers items
  | .object members => membersNumbers members
  | _ => []

/-- The numbers that stand in the items of a list. -/
def itemsNumbers : List Content → List NumberText
  | [] => []
  | c :: items => c.numbers ++ itemsNumbers items

/-- The numbers that stand in the members of an object. -/
def membersNumbers : List (String × Content) → List NumberText
  | [] => []
  | (_, c) :: members => c.numbers ++ membersNumbers members

end

/-- A number that is not too large. -/
abbrev NumberText.HasValue (n : NumberText) : Prop :=
  n.value?.isSome = true

/-- A text in which a content is written, with blanks before, between and behind its tokens, with
characters escaped in any way, and with members in their order. -/
def Content.Spells (c : Content) (text : String) : Prop :=
  Spread c.tokens text.toList

/-! ## The tree of a text -/

/-- Tokens that follow one another in a text. -/
def Meeting (ts : List Token) : Prop :=
  ts.IsChain fun t next => t.meets next

theorem Meeting.cons {ts : List Token} (h : Meeting ts) {t : Token}
    (ht : ∀ next ∈ ts.head?, t.meets next) : Meeting (t :: ts) :=
  List.isChain_cons.mpr ⟨ht, h⟩

/-- A token that is no number can meet any other. -/
theorem Meeting.cons_free {ts : List Token} (h : Meeting ts) {t : Token}
    (ht : ∀ next, t.meets next = true := by exact fun _ => rfl) : Meeting (t :: ts) :=
  h.cons fun next _ => ht next

theorem closes_head?_moreItems (items : List Content) (rest : List Token) :
    ∀ t ∈ (moreItems items ++ rest).head?, t.closes := by
  cases items <;> simp [moreItems, Token.closes]

theorem closes_head?_moreMembers (members : List (String × Content)) (rest : List Token) :
    ∀ t ∈ (moreMembers members ++ rest).head?, t.closes := by
  cases members <;> simp [moreMembers, Token.closes]

mutual

/-- Behind a value stands a token that ends a number. -/
theorem Content.meeting_tokens (c : Content) {rest : List Token} (hrest : Meeting rest)
    (hcloses : ∀ t ∈ rest.head?, t.closes) : Meeting (c.tokens ++ rest) := by
  match c with
  | .null | .bool _ | .string _ => exact hrest.cons_free
  | .number _ => exact hrest.cons hcloses
  | .list [] | .object [] => exact hrest.cons_free.cons_free
  | .list (c :: items) =>
    rw [Content.tokens, List.cons_append, List.append_assoc]
    exact (c.meeting_tokens (meeting_moreItems items hrest)
      (closes_head?_moreItems items rest)).cons_free
  | .object ((key, c) :: members) =>
    rw [Content.tokens, List.cons_append, List.cons_append, List.cons_append, List.append_assoc]
    exact (c.meeting_tokens (meeting_moreMembers members hrest)
      (closes_head?_moreMembers members rest)).cons_free.cons_free.cons_free

theorem meeting_moreItems (items : List Content) {rest : List Token} (hrest : Meeting rest) :
    Meeting (moreItems items ++ rest) := by
  match items with
  | [] => exact hrest.cons_free
  | c :: items =>
    rw [moreItems, List.cons_append, List.append_assoc]
    exact (c.meeting_tokens (meeting_moreItems items hrest)
      (closes_head?_moreItems items rest)).cons_free

theorem meeting_moreMembers (members : List (String × Content)) {rest : List Token}
    (hrest : Meeting rest) : Meeting (moreMembers members ++ rest) := by
  match members with
  | [] => exact hrest.cons_free
  | (key, c) :: members =>
    rw [moreMembers, List.cons_append, List.cons_append, List.cons_append, List.append_assoc]
    exact (c.meeting_tokens (meeting_moreMembers members hrest)
      (closes_head?_moreMembers members rest)).cons_free.cons_free.cons_free

end

/-- Reads the tokens that are left after a move. -/
def Move.resume (rest : List Token) : Move → Document
  | .go e stack => readFrom rest e stack
  | .done tree => ⟨tree, !rest.isEmpty⟩
  | .stop tree => ⟨tree, false⟩

theorem readFrom_cons (t : Token) (rest : List Token) (e : Expecting) (stack : List Frame) :
    readFrom (t :: rest) e stack = (move e stack t).resume rest := by
  rw [readFrom]
  cases move e stack t <;> rfl

/-- The first item of a list is read as any other value is. -/
theorem readFrom_firstItem (c : Content) (rest : List Token) (stack : List Frame) :
    readFrom (c.tokens ++ rest) .firstItem stack
      = readFrom (c.tokens ++ rest) .value (.item [] :: stack) := by
  match c with
  | .null | .bool _ | .string _ | .number _ | .list [] | .object [] | .list (_ :: _)
  | .object ((_, _) :: _) => rfl

mutual

/-- Where a value is expected, the tokens of a content complete its tree. -/
theorem Content.readFrom_tokens (c : Content) (rest : List Token) (stack : List Frame) :
    readFrom (c.tokens ++ rest) .value stack = (complete c.tree stack).resume rest := by
  match c with
  | .null | .bool _ | .string _ | .number _ => exact readFrom_cons _ rest .value stack
  | .list [] | .object [] =>
    rw [Content.tokens, List.cons_append, readFrom_cons]
    exact readFrom_cons _ rest _ stack
  | .list (c :: items) =>
    rw [Content.tokens, List.cons_append, readFrom_cons, List.append_assoc]
    change readFrom _ .firstItem stack = _
    rw [readFrom_firstItem, c.readFrom_tokens]
    exact readFrom_moreItems items [c.tree] rest stack
  | .object ((key, c) :: members) =>
    rw [Content.tokens, List.cons_append, List.cons_append, List.cons_append, List.append_assoc]
    change readFrom (c.tokens ++ _) .value (.member [] (some key) :: stack) = _
    rw [c.readFrom_tokens]
    exact readFrom_moreMembers members [(some key, c.tree)] rest stack

/-- Behind an item, the tokens of the other items complete the tree of the list. -/
theorem readFrom_moreItems (items : List Content) (done : List Tree) (rest : List Token)
    (stack : List Frame) :
    readFrom (moreItems items ++ rest) (.itemEnd done) stack
      = (complete (.list (done.reverse ++ itemTrees items) none) stack).resume rest := by
  match items with
  | [] =>
    rw [itemTrees, List.append_nil]
    exact readFrom_cons .closeList rest _ stack
  | c :: items =>
    rw [moreItems, List.cons_append, List.append_assoc]
    change readFrom (c.tokens ++ _) .value (.item done :: stack) = _
    rw [c.readFrom_tokens]
    refine (readFrom_moreItems items (c.tree :: done) rest stack).trans ?_
    rw [itemTrees, List.reverse_cons, List.append_assoc]
    rfl

/-- Behind a member, the tokens of the other members complete the tree of the object. -/
theorem readFrom_moreMembers (members : List (String × Content)) (done : List Member)
    (rest : List Token) (stack : List Frame) :
    readFrom (moreMembers members ++ rest) (.memberEnd done) stack
      = (complete (.object (done.reverse ++ memberTrees members) none) stack).resume rest := by
  match members with
  | [] =>
    rw [memberTrees, List.append_nil]
    exact readFrom_cons .closeObject rest _ stack
  | (key, c) :: members =>
    rw [moreMembers, List.cons_append, List.cons_append, List.cons_append, List.append_assoc]
    change readFrom (c.tokens ++ _) .value (.member done (some key) :: stack) = _
    rw [c.readFrom_tokens]
    refine (readFrom_moreMembers members ((some key, c.tree) :: done) rest stack).trans ?_
    rw [memberTrees, List.reverse_cons, List.append_assoc]
    rfl

end

/-- A text in which a content is written is read as the tree of the content, and nothing is left
over. -/
theorem Document.read_of_spells {c : Content} {text : String} (h : c.Spells text) :
    Document.read text = ⟨c.tree, false⟩ := by
  have hmeeting : Meeting (c.tokens ++ []) := c.meeting_tokens List.isChain_nil (by simp)
  rw [List.append_nil] at hmeeting
  rw [Document.read, tokenize_spread h hmeeting, ← List.append_nil c.tokens, c.readFrom_tokens]
  rfl

/-! ## Readers of the tree -/

mutual

/-- Nothing in a content keeps a reader from skipping it, whatever its numbers and its nesting. -/
theorem Content.skip_tree (c : Content) : c.tree.skip = .ok () := by
  match c with
  | .null | .bool _ | .string _ | .number _ => rfl
  | .list items =>
    rw [Content.tree, Tree.skip, skipItems_itemTrees items]
    rfl
  | .object members =>
    rw [Content.tree, Tree.skip, skipMembers_memberTrees members]
    rfl

theorem skipItems_itemTrees (items : List Content) : skipItems (itemTrees items) = .ok () := by
  match items with
  | [] => rfl
  | c :: items =>
    rw [itemTrees, skipItems, c.skip_tree]
    exact skipItems_itemTrees items

theorem skipMembers_memberTrees (members : List (String × Content)) :
    skipMembers (memberTrees members) = .ok () := by
  match members with
  | [] => rfl
  | (key, c) :: members =>
    rw [memberTrees, skipMembers, c.skip_tree]
    exact skipMembers_memberTrees members

end

mutual

/-- A content has a value if its numbers have. -/
theorem Content.exists_value (c : Content) (h : ∀ n ∈ c.numbers, n.HasValue) :
    ∃ v, c.value? = some v := by
  match c with
  | .null | .bool _ | .string _ => exact ⟨_, rfl⟩
  | .number n =>
    obtain ⟨k, hk⟩ := Option.isSome_iff_exists.mp (h n List.mem_cons_self)
    exact ⟨.number k, congrArg (Option.map Value.number) hk⟩
  | .list items =>
    obtain ⟨vs, hvs⟩ := exists_itemValues items h
    exact ⟨.list vs, congrArg (Option.map Value.list) hvs⟩
  | .object members =>
    obtain ⟨vs, hvs⟩ := exists_memberValues members h
    exact ⟨.object vs, congrArg (Option.map Value.object) hvs⟩

theorem exists_itemValues (items : List Content) (h : ∀ n ∈ itemsNumbers items, n.HasValue) :
    ∃ vs, itemValues? items = some vs := by
  match items with
  | [] => exact ⟨[], rfl⟩
  | c :: items =>
    obtain ⟨v, hv⟩ := c.exists_value fun n hn => h n (List.mem_append_left _ hn)
    obtain ⟨vs, hvs⟩ := exists_itemValues items fun n hn => h n (List.mem_append_right _ hn)
    exact ⟨v :: vs, by rw [itemValues?, hv, hvs]; rfl⟩

theorem exists_memberValues (members : List (String × Content))
    (h : ∀ n ∈ membersNumbers members, n.HasValue) :
    ∃ vs, memberValues? members = some vs := by
  match members with
  | [] => exact ⟨[], rfl⟩
  | (key, c) :: members =>
    obtain ⟨v, hv⟩ := c.exists_value fun n hn => h n (List.mem_append_left _ hn)
    obtain ⟨vs, hvs⟩ := exists_memberValues members fun n hn => h n (List.mem_append_right _ hn)
    exact ⟨(key, v) :: vs, by rw [memberValues?, hv, hvs]; rfl⟩

end

mutual

/-- A content that has a value and is not nested too deeply is read as its value. -/
theorem Content.value_tree (c : Content) {room : Nat} {v : Value} (hroom : c.nesting ≤ room)
    (hv : c.value? = some v) : c.tree.value room = .ok v := by
  match c with
  | .null | .bool _ | .string _ =>
    obtain rfl := Option.some.inj hv
    rfl
  | .number n =>
    obtain ⟨k, hk, rfl⟩ := Option.map_eq_some_iff.mp hv
    rw [Content.tree, hk]
    rfl
  | .list items =>
    obtain ⟨vs, hvs, rfl⟩ := Option.map_eq_some_iff.mp hv
    cases room with
    | zero => exact absurd hroom (Nat.not_succ_le_zero _)
    | succ room =>
      have hitems := valueItems_itemTrees items (Nat.le_of_succ_le_succ hroom) hvs
      simp [Content.tree, Tree.value, enter, hitems, closeSeen, bind, Except.bind]
  | .object members =>
    obtain ⟨vs, hvs, rfl⟩ := Option.map_eq_some_iff.mp hv
    cases room with
    | zero => exact absurd hroom (Nat.not_succ_le_zero _)
    | succ room =>
      have hmembers := valueMembers_memberTrees members (Nat.le_of_succ_le_succ hroom) hvs
      simp [Content.tree, Tree.value, enter, hmembers, closeSeen, bind, Except.bind]

theorem valueItems_itemTrees (items : List Content) {room : Nat} {vs : List Value}
    (hroom : itemsNesting items ≤ room) (hvs : itemValues? items = some vs) :
    valueItems room (itemTrees items) = .ok vs := by
  match items with
  | [] =>
    obtain rfl := Option.some.inj hvs
    rfl
  | c :: items =>
    obtain ⟨v, hv, hvs⟩ := Option.bind_eq_some_iff.mp hvs
    obtain ⟨ws, hws, hvs⟩ := Option.bind_eq_some_iff.mp hvs
    obtain rfl := Option.some.inj hvs
    rw [itemTrees, valueItems, c.value_tree (le_trans (le_max_left _ _) hroom) hv,
      valueItems_itemTrees items (le_trans (le_max_right _ _) hroom) hws]
    rfl

theorem valueMembers_memberTrees (members : List (String × Content)) {room : Nat}
    {vs : List (String × Value)} (hroom : membersNesting members ≤ room)
    (hvs : memberValues? members = some vs) :
    valueMembers room (memberTrees members) = .ok vs := by
  match members with
  | [] =>
    obtain rfl := Option.some.inj hvs
    rfl
  | (key, c) :: members =>
    obtain ⟨v, hv, hvs⟩ := Option.bind_eq_some_iff.mp hvs
    obtain ⟨ws, hws, hvs⟩ := Option.bind_eq_some_iff.mp hvs
    obtain rfl := Option.some.inj hvs
    rw [memberTrees, valueMembers, c.value_tree (le_trans (le_max_left _ _) hroom) hv,
      valueMembers_memberTrees members (le_trans (le_max_right _ _) hroom) hws]
    rfl

end

end Flowchart.Json
