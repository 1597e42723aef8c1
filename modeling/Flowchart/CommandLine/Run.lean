import Flowchart.CommandLine.Arguments
import Flowchart.CommandLine.Files
import Flowchart.Keyword.Vocabulary
import Flowchart.Machine.Chart

/-! # Running a command

A command reads its input and its style table, works, and in the end prints a text or saves it in a
file. So nothing is printed or saved by a command that draws a machine and fails. A check prints
what it finds before it fails.
-/

namespace Flowchart.CommandLine

/-- Why a command fails: what was being done, the outermost first, and what was refused in the
end. -/
structure Failure where
  context : List String
  cause : Option Refusal := none
  deriving DecidableEq, Repr

/-- The failure in one line. -/
def Failure.message (f : Failure) : String :=
  ": ".intercalate (f.context ++ (f.cause.map Refusal.message).toList)

/-- What a command leaves behind: what it prints, what it saves, and why it fails if it does. -/
structure Report where
  printed : String := ""
  saved : Option (String × String) := none
  failure : Option Failure := none
  deriving DecidableEq, Repr

/-- What a command reads: the standard input, and files by their paths. Either may be refused. -/
structure Sources where
  stdin : Except FileError String
  read : String → Except FileError String

/-- The path of a file, unless it stands for the standard input or output. -/
def filePath? (path : Option String) : Option String :=
  path.filter (· != "-")

/-- The files that a command reads. -/
def Command.files : Command → List String
  | machine input styles _ => (filePath? input).toList ++ styles.toList
  | check input => (filePath? input).toList
  | shapes _ => []

/-- Tells whether a command reads the standard input. -/
def Command.readsStdin : Command → Bool
  | machine input _ _ | check input => (filePath? input).isNone
  | shapes _ => false

/-- Reads the input of a command. -/
def Sources.input (s : Sources) (path : Option String) : Except Failure String :=
  match filePath? path with
  | none => s.stdin.mapError fun e => ⟨[e.message], none⟩
  | some path =>
    (s.read path).mapError fun e =>
      ⟨["Failed to read input file '" ++ path ++ "': " ++ e.message], none⟩

/-- Reads the machine that a command works on. -/
def Sources.machine (s : Sources) (path : Option String) : Except Failure Machine := do
  let text ← s.input path
  (Machine.read text).mapError fun p => ⟨["Failed to parse state machine"], some (.json p)⟩

/-- Reads the style table of a command. -/
def Sources.table (s : Sources) (path : Option String) : Except Failure StyleTable :=
  match path with
  | none => .ok .builtIn
  | some path => do
    let text ← (s.read path).mapError fun e =>
      (⟨["Failed to read style table '" ++ path ++ "': " ++ e.message], none⟩ : Failure)
    (StyleTable.read text).mapError fun p =>
      ⟨["Invalid style table '" ++ path ++ "'"], some (.json p)⟩

/-- A text as it is printed: it ends in a line break, unless it is empty. -/
def printedText (text : String) : String :=
  if text = "" ∨ text.toList.getLast? = some '\n' then text else text ++ "\n"

/-- Draws a machine. -/
def drawMachine (s : Sources) (input styles : Option String) : Except Failure String := do
  let machine ← s.machine input
  let table ← s.table styles
  (machine.render table).mapError fun r => ⟨[], some r⟩

/-- The line about a transition to a state that is not declared. -/
def danglingLine (a : Arc) : String :=
  "✗ " ++ a.state ++ " --" ++ a.event ++ "--> " ++ a.transition.target
    ++ ": target state is not declared\n"

/-- The report on a machine: a line for each transition to a state that is not declared, or one line
if there are none. -/
def checkReport (m : Machine) : Report :=
  match m.danglingArcs with
  | [] =>
    { printed := "✓ Valid state machine '" ++ m.id ++ "' (" ++ toString m.states.size
        ++ " states, " ++ toString m.transitionCount ++ " transitions)\n" }
  | arcs =>
    { printed := String.join (arcs.map danglingLine)
      failure := some
        ⟨[toString arcs.length ++ " transition(s) in '" ++ m.id ++ "' target undeclared states"],
          none⟩ }

/-- The vocabulary as JSON. -/
def vocabularyJson : Json.Value :=
  .object (Vocabulary.sections.map fun s => (s.key, .list (s.names.map .string)))

/-- Runs a command, up to saving a file. -/
def Command.run (s : Sources) : Command → Report
  | machine input styles output =>
    match drawMachine s input styles with
    | .error failure => { failure := some failure }
    | .ok text =>
      match filePath? output with
      | some path => { saved := some (path, text) }
      | none => { printed := printedText text }
  | check input =>
    match s.machine input with
    | .error failure => { failure := some failure }
    | .ok m => checkReport m
  | shapes json =>
    { printed := if json then vocabularyJson.indented 0 ++ "\n" else Vocabulary.listing }

/-- The failure of a command whose output cannot be saved. -/
def saveFailure (path : String) (e : FileError) : Failure :=
  ⟨["Failed to write output file '" ++ path ++ "': " ++ e.message], none⟩

/-! ## In a working directory -/

/-- What is left once a command has run. -/
structure Finish where
  printed : String
  directory : Directory
  failure : Option Failure
  deriving DecidableEq, Repr

/-- Zero if the command did what it was asked to do. -/
def Finish.status (f : Finish) : Nat :=
  if f.failure.isSome then 1 else 0

/-- Saves what a report asks for. -/
def Report.finish (r : Report) (d : Directory) : Finish :=
  match r.saved with
  | none => ⟨r.printed, d, r.failure⟩
  | some (path, text) =>
    match d.write path text with
    | .ok d => ⟨r.printed, d, r.failure⟩
    | .error e => ⟨r.printed, d, some (saveFailure path e)⟩

/-- Runs a command line that reads from some sources and saves in a working directory. -/
def runFrom (s : Sources) (d : Directory) (args : List String) : Except Declined Finish := do
  let invocation ← readArguments args
  .ok ((invocation.command.run s).finish d)

/-- Runs a command line in a working directory. -/
def runIn (d : Directory) (stdin : String) (args : List String) : Except Declined Finish :=
  runFrom ⟨.ok stdin, d.read⟩ d args

/-- The status of a command line that is not run. -/
def Declined.status : Declined → Nat
  | refused => 2
  | helpAsked | versionAsked => 0

end Flowchart.CommandLine
