/-! # Log settings

The level and the format of the log are those asked for; failing that, those of the environment;
failing that, `info` and the compact format. A level is taken as it is, whatever it says. An empty
variable counts as set.
-/

namespace Flowchart.Logging

/-- The formats of the log. -/
inductive Format where
  | compact
  | pretty
  | json
  deriving DecidableEq, Repr, Inhabited

/-- What the environment says about the log. -/
structure Environment where
  /-- The level for this program. -/
  level : Option String := none
  /-- The format for this program. -/
  format : Option String := none
  /-- The level for all programs that look at it. -/
  commonLevel : Option String := none

/-- A name of no format, in small letters. -/
structure UnknownFormat where
  name : String
  deriving DecidableEq, Repr

/-- The name of a format. -/
def Format.name : Format → String
  | compact => "compact"
  | pretty => "pretty"
  | json => "json"

/-- Every format. -/
def Format.members : List Format :=
  [.compact, .pretty, .json]

/-- The error in words. -/
def UnknownFormat.message (e : UnknownFormat) : String :=
  "Unknown log format: " ++ e.name ++ " (expected one of: "
    ++ ", ".intercalate (Format.members.map Format.name) ++ ")"

/-- A text with its ASCII letters in small ones. -/
def smallLetters (text : String) : String :=
  String.ofList (text.toList.map Char.toLower)

/-- Reads the name of a format, without regard to the case of its ASCII letters. -/
def Format.parse (text : String) : Except UnknownFormat Format :=
  match Format.members.find? (fun f => f.name == smallLetters text) with
  | some f => .ok f
  | none => .error ⟨smallLetters text⟩

/-- The level of the log. -/
def resolveLevel (asked : Option String) (env : Environment) : String :=
  (asked <|> env.level <|> env.commonLevel).getD "info"

/-- The format of the log. -/
def resolveFormat (asked : Option String) (env : Environment) : Except UnknownFormat Format :=
  match asked <|> env.format with
  | some name => Format.parse name
  | none => .ok .compact

end Flowchart.Logging
