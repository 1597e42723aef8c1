import Flowchart.Json.Token

/-! # JSON trees

A tree is a text as far as it can be read. Where the text goes wrong the tree has a broken leaf, or
a list or an object that is not closed; a reader that walks the tree in order meets the first
problem of the text first. Numbers that are too large and strings with lone surrogates are leaves
of a tree as well, for only a reader that wants their value minds them.

The tokens of a text are read one by one onto a stack of the lists and objects that are still
open, so that reading is by recursion on the tokens.
-/

namespace Flowchart.Json

/-- A text as far as it can be read. -/
inductive Tree where
  | null
  | bool (value : Bool)
  /-- A number, absent if it is too large. -/
  | number (value : Option Number)
  /-- A string, absent if a surrogate in it stands alone. -/
  | string (value : Option String)
  /-- Items, and what goes wrong after the last one. -/
  | list (items : List Tree) (fault : Option Break)
  /-- Members, and what goes wrong after the last one. -/
  | object (members : List (Option String × Tree)) (fault : Option Break)
  /-- A place where a value should be and the text goes wrong. -/
  | broken (fault : Break)
  deriving Inhabited

/-- A member of an object: its key, absent if a surrogate in it stands alone, and its value. -/
abbrev Member := Option String × Tree

/-- A list or an object that is still open and waits for a value; what it holds so far has the last
one first. -/
inductive Frame where
  | item (done : List Tree)
  | member (done : List Member) (key : Option String)

/-- What may come next. -/
inductive Expecting where
  /-- A value. -/
  | value
  /-- The first item of a list, or its end. -/
  | firstItem
  /-- A comma or the end of the list. -/
  | itemEnd (done : List Tree)
  /-- The first key of an object, or its end. -/
  | firstKey
  /-- A key. -/
  | key (done : List Member)
  /-- The colon after a key. -/
  | colon (done : List Member) (key : Option String)
  /-- A comma or the end of the object. -/
  | memberEnd (done : List Member)

/-- A list or an object, once its next value is known. -/
def Frame.close (t : Tree) : Frame → Tree
  | .item done => .list (t :: done).reverse none
  | .member done k => .object ((k, t) :: done).reverse none

/-- The whole tree, once the text has gone wrong in the innermost open list or object. -/
def unwind (t : Tree) (stack : List Frame) : Tree :=
  stack.foldl Frame.close t

/-- The tree, if the text goes wrong with a fault where something is expected. -/
def Expecting.fail (b : Break) (stack : List Frame) : Expecting → Tree
  | .value => unwind (.broken b) stack
  | .firstItem => unwind (.list [] (some b)) stack
  | .itemEnd done => unwind (.list done.reverse (some b)) stack
  | .firstKey => unwind (.object [] (some b)) stack
  | .key done => unwind (.object done.reverse (some b)) stack
  | .colon done k => unwind (.object ((k, .broken b) :: done).reverse none) stack
  | .memberEnd done => unwind (.object done.reverse (some b)) stack

/-- What one token does to a reader. -/
inductive Move where
  /-- It reads on. -/
  | go (next : Expecting) (stack : List Frame)
  /-- The outermost value is complete. -/
  | done (tree : Tree)
  /-- The text goes wrong. -/
  | stop (tree : Tree)

/-- A value is complete. -/
def complete (t : Tree) : List Frame → Move
  | [] => .done t
  | .item done :: stack => .go (.itemEnd (t :: done)) stack
  | .member done k :: stack => .go (.memberEnd ((k, t) :: done)) stack

/-- A token where a value should begin. -/
def beginValue (stack : List Frame) : Token → Move
  | .null => complete .null stack
  | .bool b => complete (.bool b) stack
  | .number n => complete (.number n) stack
  | .string s => complete (.string s) stack
  | .openList => .go .firstItem stack
  | .openObject => .go .firstKey stack
  | .brokenString b => .stop (unwind (.broken b) stack)
  | .broken b => .stop (unwind (.broken b) stack)
  | .closeList | .closeObject | .comma | .colon =>
    .stop (unwind (.broken (.plain .malformed)) stack)

/-- A token where a key should stand. -/
def beginKey (done : List Member) (stack : List Frame) : Token → Move
  | .string s => .go (.colon done s) stack
  | .brokenString b => .stop (unwind (.object done.reverse (some b)) stack)
  | _ => .stop (unwind (.object done.reverse (some (.plain .malformed))) stack)

/-- One token. -/
def move (e : Expecting) (stack : List Frame) (t : Token) : Move :=
  match e, t with
  | .value, t => beginValue stack t
  | .firstItem, .closeList => complete (.list [] none) stack
  | .firstItem, t => beginValue (.item [] :: stack) t
  | .itemEnd done, .comma => .go .value (.item done :: stack)
  | .itemEnd done, .closeList => complete (.list done.reverse none) stack
  | .firstKey, .closeObject => complete (.object [] none) stack
  | .firstKey, t => beginKey [] stack t
  | .key done, t => beginKey done stack t
  | .colon done k, .colon => .go .value (.member done k :: stack)
  | .memberEnd done, .comma => .go (.key done) stack
  | .memberEnd done, .closeObject => complete (.object done.reverse none) stack
  | e, _ => .stop (e.fail (.plain .malformed) stack)

/-- A tree, and whether its text goes on after the value. -/
structure Document where
  root : Tree
  trailing : Bool

/-- Reads tokens from a state of the reader on. -/
def readFrom : List Token → Expecting → List Frame → Document
  | [], e, stack => ⟨e.fail (.plain .cut) stack, false⟩
  | t :: rest, e, stack =>
    match move e stack t with
    | .go e stack => readFrom rest e stack
    | .done tree => ⟨tree, !rest.isEmpty⟩
    | .stop tree => ⟨tree, false⟩

/-- The document that a text is. -/
def Document.read (text : String) : Document :=
  readFrom (tokenize text.toList) .value []

end Flowchart.Json
