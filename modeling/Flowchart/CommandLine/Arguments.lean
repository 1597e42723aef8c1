/-! # Arguments

A command line has options of the program, then a subcommand, then options of the subcommand. An
option has a long name, and some have a letter; letters may be joined behind one dash. A value
stands behind an equals sign, right behind a letter, or in the next argument, where it may not
begin with a dash unless it is a dash alone. No option may be given twice.

Arguments are read from left to right. A value in an argument of its own is looked at only when
the next option comes, or when all is read, the options of the subcommand included; help and
version are answered as soon as they are met.
-/

namespace Flowchart.CommandLine

/-- What the program is asked to do. -/
inductive Command where
  /-- Draw a machine. -/
  | machine (input styles output : Option String)
  /-- Look for transitions to states that are not declared. -/
  | check (input : Option String)
  /-- List the vocabulary. -/
  | shapes (json : Bool)
  deriving DecidableEq, Repr

/-- Arguments that are not run. -/
inductive Declined where
  /-- They make no sense. -/
  | refused
  | helpAsked
  | versionAsked
  deriving DecidableEq, Repr

/-- A command line that makes sense. -/
structure Invocation where
  verbose : Bool := false
  logLevel : Option String := none
  logFormat : Option String := none
  command : Command
  deriving DecidableEq, Repr

/-! ## Options -/

/-- The options of the program and of its subcommands. -/
inductive Opt where
  | verbose
  | logLevel
  | logFormat
  | input
  | styles
  | output
  | json
  | help
  | version
  deriving DecidableEq, Repr

/-- Tells whether an option has a value. -/
def Opt.takesValue : Opt → Bool
  | logLevel | logFormat | input | styles | output => true
  | verbose | json | help | version => false

/-- Tells whether a value is one that an option can have; a path is not empty. -/
def Opt.accepts : Opt → String → Bool
  | logLevel, v => ["trace", "debug", "info", "warn", "error"].contains v
  | logFormat, v => ["compact", "pretty", "json"].contains v
  | _, v => v != ""

/-- The options that may stand in one part of a command line. -/
structure Level where
  long : List (String × Opt)
  short : List (Char × Opt)

/-- The options before the subcommand. -/
def programLevel : Level where
  long := [("verbose", .verbose), ("log-level", .logLevel), ("log-format", .logFormat),
    ("help", .help), ("version", .version)]
  short := [('v', .verbose), ('h', .help), ('V', .version)]

/-- The subcommands. -/
inductive Subcommand where
  | machine
  | check
  | shapes
  | help
  deriving DecidableEq, Repr

/-- The subcommand of a name. -/
def Subcommand.ofName? : String → Option Subcommand
  | "machine" => some .machine
  | "check" => some .check
  | "shapes" => some .shapes
  | "help" => some .help
  | _ => none

/-- The options behind a subcommand. -/
def Subcommand.level : Subcommand → Level
  | machine =>
    ⟨[("input", .input), ("styles", .styles), ("output", .output), ("help", .help)],
      [('i', .input), ('s', .styles), ('o', .output), ('h', .help)]⟩
  | check => ⟨[("input", .input), ("help", .help)], [('i', .input), ('h', .help)]⟩
  | shapes => ⟨[("json", .json), ("help", .help)], [('h', .help)]⟩
  | help => ⟨[], []⟩

/-! ## Reading options -/

/-- An option whose value is still to come or still to be looked at. -/
inductive Pending where
  | nothing
  | wants (option : Opt)
  | holds (option : Opt) (value : String)
  deriving DecidableEq, Repr

/-- What has been read of one part of a command line. -/
structure Options where
  given : List (Opt × String) := []
  pending : Pending := .nothing
  deriving DecidableEq, Repr

namespace Options

/-- Tells whether an option has been given. -/
def has (o : Options) (option : Opt) : Bool :=
  (o.given.lookup option).isSome

/-- Takes an option with its value. -/
def settle (o : Options) (option : Opt) (value : String) : Except Declined Options :=
  if o.has option || !option.accepts value then .error .refused
  else .ok { o with given := (option, value) :: o.given }

/-- Looks at the value that is pending. -/
def resolve (o : Options) : Except Declined Options :=
  match o.pending with
  | .nothing => .ok o
  | .wants _ => .error .refused
  | .holds option value => { o with pending := .nothing }.settle option value

/-- An option without a value. -/
def flag (o : Options) (option : Opt) : Except Declined Options := do
  let o ← o.resolve
  match option with
  | .help => .error .helpAsked
  | .version => .error .versionAsked
  | _ => o.settle option "true"

/-- An option with a value, if that stands in the same argument. -/
def valued (o : Options) (option : Opt) (value : Option String) : Except Declined Options := do
  let o ← o.resolve
  match value with
  | some v => o.settle option v
  | none => .ok { o with pending := .wants option }

/-- An argument with a long name. -/
def long (level : Level) (o : Options) (text : List Char) : Except Declined Options :=
  let name := String.ofList (text.takeWhile (· != '='))
  let value := match text.dropWhile (· != '=') with
    | [] => none
    | _ :: v => some (String.ofList v)
  match level.long.lookup name with
  | none => .error .refused
  | some option =>
    if option.takesValue then o.valued option value
    else if value.isSome then .error .refused
    else o.flag option

/-- An argument of joined letters. -/
def short (level : Level) (o : Options) : List Char → Except Declined Options
  | [] => .ok o
  | c :: cs =>
    match level.short.lookup c with
    | none => .error .refused
    | some option =>
      if option.takesValue then
        o.valued option (match cs with
          | [] => none
          | '=' :: v => some (String.ofList v)
          | v => some (String.ofList v))
      else do short level (← o.flag option) cs

/-- An argument that begins with a dash, or a value. -/
def argument (level : Level) (o : Options) (arg : String) : Except Declined Options :=
  match arg.toList with
  | '-' :: '-' :: text => o.long level text
  | '-' :: c :: text => o.short level (c :: text)
  | _ =>
    match o.pending with
    | .wants option => .ok { o with pending := .holds option arg }
    | _ => .error .refused

end Options

/-- Reads the arguments behind a subcommand. Nothing may follow two dashes. -/
def readOptions (level : Level) : Options → List String → Except Declined Options
  | o, [] => o.resolve
  | o, arg :: rest =>
    if arg = "--" then if rest = [] then o.resolve else .error .refused
    else do readOptions level (← o.argument level arg) rest

/-- Reads the arguments before the subcommand: the options, the subcommand and what follows it. -/
def readProgram : Options → List String → Except Declined (Options × Subcommand × List String)
  | _, [] => .error .refused
  | o, arg :: rest =>
    let sub := match o.pending with
      | .wants _ => none
      | _ => Subcommand.ofName? arg
    match sub with
    | some sub => .ok (o, sub, rest)
    | none =>
      if arg = "--" then .error .refused
      else do readProgram (← o.argument programLevel arg) rest

/-- The answer to a call for help about some subcommands. -/
def declineHelp : List String → Declined
  | [] => .helpAsked
  | [name] => if (Subcommand.ofName? name).isSome then .helpAsked else .refused
  | _ => .refused

/-- The command of a subcommand and its options. -/
def commandOf (o : Options) : Subcommand → Command
  | .machine =>
    .machine (o.given.lookup .input) (o.given.lookup .styles) (o.given.lookup .output)
  | .check => .check (o.given.lookup .input)
  | .shapes | .help => .shapes (o.has .json)

/-- Reads a command line, without the name of the program. -/
def readArguments (args : List String) : Except Declined Invocation := do
  let (program, sub, rest) ← readProgram {} args
  if sub = .help then .error (declineHelp rest)
  else
    let own ← readOptions sub.level {} rest
    let program ← program.resolve
    .ok { verbose := program.has .verbose
          logLevel := program.given.lookup .logLevel
          logFormat := program.given.lookup .logFormat
          command := commandOf own sub }

end Flowchart.CommandLine
