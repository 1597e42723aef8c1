/-! # Files of a working directory

A working directory holds files under paths of names. A path is walked name by name: each name but
the last has to lead to a directory, and a directory is there as far as some file lies in it. What
cannot be read or written is reported by its cause.
-/

namespace Flowchart.CommandLine

/-- Why a file cannot be read or written, or the standard input cannot be read. -/
inductive FileError where
  | notFound
  | notDirectory
  | isDirectory
  | nameTooLong
  /-- A null character, which no name can have. -/
  | nullCharacter
  /-- Any other cause, in words. -/
  | other (text : String)
  deriving DecidableEq, Repr

/-- The cause in the words of the system. -/
def FileError.message : FileError → String
  | notFound => "No such file or directory (os error 2)"
  | notDirectory => "Not a directory (os error 20)"
  | isDirectory => "Is a directory (os error 21)"
  | nameTooLong => "File name too long (os error 36)"
  | nullCharacter => "file name contained an unexpected NUL byte"
  | other text => text

/-! ## Paths -/

/-- The names along a path from the working directory, or from the root if the first name is a
slash. -/
abbrev Path := List String

/-- The root of all directories. -/
def Path.root : Path := ["/"]

/-- One more name along a path: a dot stays, and two dots go back. -/
def Path.step (p : Path) (name : String) : Path :=
  if name = "" ∨ name = "." then p
  else if name = ".." then
    if p = root then p
    else if p = [] ∨ p.getLast? = some ".." then p ++ [name]
    else p.dropLast
  else p ++ [name]

/-- Tells whether a path lies outside the working directory and leads to a directory. -/
def Path.isOutside (p : Path) : Bool :=
  p == root || p.all (· == "..")

/-- Tells whether a path leads into the working directory. -/
def Path.isInside (p : Path) : Bool :=
  p.head? != some "/" && p.head? != some ".."

/-- Where the names of a text begin, and the names. -/
def pathNames (text : String) : Path × List String :=
  match (text.toList.splitOn '/').map String.ofList with
  | "" :: name :: rest => (Path.root, name :: rest)
  | names => ([], names)

/-- The path of a text. -/
def Path.ofText (text : String) : Path :=
  let (start, names) := pathNames text
  names.foldl Path.step start

/-- The text of a path. -/
def Path.text (p : Path) : String :=
  "/".intercalate p

/-- A name of more than 255 bytes names nothing. -/
def isTooLong (name : String) : Bool :=
  decide (255 < name.utf8ByteSize)

/-- Checks the text of a path as a whole, before any name is looked at: it has no null character,
and is shorter than 4096 bytes. -/
def checkPath (text : String) : Except FileError Unit :=
  if text.toList.contains '\x00' then .error .nullCharacter
  else if 4096 ≤ text.utf8ByteSize then .error .nameTooLong
  else .ok ()

/-! ## Directories -/

/-- The files of a working directory. -/
structure Directory where
  files : List (Path × String) := []
  deriving DecidableEq, Repr, Inhabited

namespace Directory

/-- The files of some names. -/
def ofList (files : List (String × String)) : Directory :=
  ⟨files.map fun f => (Path.ofText f.1, f.2)⟩

/-- The content of a file. -/
def content? (d : Directory) (p : Path) : Option String :=
  d.files.lookup p

/-- Tells whether a path leads to a directory. -/
def isDirectory (d : Directory) (p : Path) : Bool :=
  p.isOutside || d.files.any fun f => p.isPrefixOf f.1 && p != f.1

/-- Checks that a path leads to a directory. -/
def enter (d : Directory) (p : Path) : Except FileError Unit :=
  if d.isDirectory p then .ok ()
  else .error (if (d.content? p).isSome then .notDirectory else .notFound)

/-- Walks along names. -/
def walk (d : Directory) : Path → List String → Except FileError Path
  | p, [] => .ok p
  | p, name :: rest => do
    d.enter p
    if isTooLong name then .error .nameTooLong
    else d.walk (p.step name) rest

/-- Reads a file. -/
def read (d : Directory) (text : String) : Except FileError String := do
  checkPath text
  let (start, names) := pathNames text
  let p ← d.walk start names
  if text = "" then .error .notFound
  else if d.isDirectory p then .error .isDirectory
  else
    match d.content? p with
    | some content => .ok content
    | none => .error .notFound

/-- The files with one of them replaced or added. -/
def put (d : Directory) (p : Path) (content : String) : Directory :=
  ⟨(p, content) :: d.files.filter (fun f => f.1 != p)⟩

/-- Writes a file into a directory that is there. A path that ends in a slash or in dots calls for a
directory. -/
def write (d : Directory) (text : String) (content : String) : Except FileError Directory := do
  checkPath text
  let (start, names) := pathNames text
  match names.reverse.dropWhile (· == "") with
  | [] => .error (if text = "" then .notFound else .isDirectory)
  | last :: before =>
    let p ← d.walk start before.reverse
    d.enter p
    if names.getLast? = some "" ∨ last = "." ∨ last = ".." then .error .isDirectory
    else if isTooLong last then .error .nameTooLong
    else if d.isDirectory (p.step last) then .error .isDirectory
    else .ok (d.put (p.step last) content)

/-- The files of the working directory that are new or have another content than before. -/
def changes (before after : Directory) : List (Path × String) :=
  after.files.filter fun f => f.1.isInside && before.content? f.1 != some f.2

end Directory

end Flowchart.CommandLine
