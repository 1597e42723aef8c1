import Flowchart.CommandLine.Run

/-! # The program

The outer layer of the command line: it reads the standard input and the files that a command names,
runs the command, and prints or saves what the command leaves behind.
-/

namespace Flowchart.Program

open Flowchart.CommandLine

/-- How the program is called. -/
def usage : String :=
  "Usage: flowchart [OPTIONS] <COMMAND>\n\n"
    ++ "Commands:\n"
    ++ "  machine  Draw a state machine (-i INPUT, -s STYLES, -o OUTPUT)\n"
    ++ "  check    Look for transitions to undeclared states (-i INPUT)\n"
    ++ "  shapes   List the names of shapes, curves, arrows, lines and options (--json)\n"
    ++ "  help     Tell how the program is called\n\n"
    ++ "Options:\n"
    ++ "  -v, --verbose        Tell what is done\n"
    ++ "  --log-level LEVEL    trace, debug, info, warn or error\n"
    ++ "  --log-format FORMAT  compact, pretty or json\n"
    ++ "  -h, --help           Tell how the program is called\n"
    ++ "  -V, --version        Tell the version\n"

/-- The version of the program. -/
def version : String :=
  "flowchart 0.1.0\n"

/-- The cause of an error of the system. -/
def fileError : IO.Error → FileError
  | .noFileOrDirectory _ _ _ => .notFound
  | .inappropriateType _ 20 _ => .notDirectory
  | .inappropriateType _ 21 _ => .isDirectory
  | .invalidArgument _ 36 _ => .nameTooLong
  | e => .other e.toString

/-- Reads a file. -/
def readFile (path : String) : IO (Except FileError String) := do
  try
    return .ok (← IO.FS.readFile path)
  catch e =>
    return .error (fileError e)

/-- Reads what is left of a stream. -/
partial def readRest (stream : IO.FS.Stream) (before : String) : IO String := do
  let line ← stream.getLine
  if line = "" then return before else readRest stream (before ++ line)

/-- Reads the standard input. -/
def readStdin : IO (Except FileError String) := do
  try
    return .ok (← readRest (← IO.getStdin) "")
  catch e =>
    return .error (fileError e)

/-- Reads what a command reads. -/
def sources (command : Command) : IO Sources := do
  let files ← command.files.mapM fun path => return (path, ← readFile path)
  let stdin ← if command.readsStdin then readStdin else pure (.ok "")
  return ⟨stdin, fun path => (files.lookup path).getD (.error .notFound)⟩

/-- Saves what a report asks for, and tells why the command fails if it does. -/
def save (report : Report) : IO (Option Failure) := do
  match report.saved with
  | none => return report.failure
  | some (path, text) =>
    try
      IO.FS.writeFile path text
      return report.failure
    catch e =>
      return some (saveFailure path (fileError e))

/-- Runs a command line that makes sense. -/
def run (invocation : Invocation) : IO UInt32 := do
  let report := invocation.command.run (← sources invocation.command)
  IO.print report.printed
  match ← save report with
  | none =>
    if invocation.verbose then IO.eprintln "Done"
    return 0
  | some failure =>
    IO.eprintln ("Error: " ++ failure.message)
    return 1

/-- Answers a command line that is not run. -/
def decline (declined : Declined) : IO UInt32 := do
  match declined with
  | .refused => IO.eprint usage
  | .helpAsked => IO.print usage
  | .versionAsked => IO.print version
  return declined.status.toUInt32

/-- Runs the program with its arguments. -/
def start (args : List String) : IO UInt32 :=
  match readArguments args with
  | .ok invocation => run invocation
  | .error declined => decline declined

end Flowchart.Program

def main (args : List String) : IO UInt32 :=
  Flowchart.Program.start args
