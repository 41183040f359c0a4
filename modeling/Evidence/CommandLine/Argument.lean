import Evidence.ControllerNamespace
import Evidence.Path
import Evidence.Time.Rfc3339

/-!
# Arguments

The options and flags of the command line, and the values that they take.

Main definitions:

- `Argument`, `Argument.long`, `Argument.short?` and `Argument.kind`: an argument, how it is
  spelled, and what it takes.
- `Given`: the value of an argument.
- `Stop`: why no command is run.
- `Argument.read`: the value that a text is for an argument.
-/

namespace Evidence.CommandLine

/-! ## What can be given -/

/-- An argument of a command. -/
inductive Argument where
  | verbose
  | help
  | controllers
  | context
  | since
  | outputDir
  | testName
  | startedAt
  | endedAt
  | passed
  | skipLogs
  | write
  | podsNamespace
  /-- The file to read, which is told by its place and has no name of its own. -/
  | file
deriving DecidableEq, Repr

/-- What an argument takes. -/
inductive Kind where
  /-- Nothing: it is there or not. -/
  | flag
  /-- Any text. -/
  | text
  /-- A text that is not empty. -/
  | path
  /-- A timestamp. -/
  | time
  /-- A namespace with or without a label. -/
  | controller
deriving DecidableEq, Repr

namespace Argument

/-- The name behind two hyphens. -/
def long : Argument → Text
  | verbose => "verbose".toList
  | help => "help".toList
  | controllers => "namespace".toList
  | context => "context".toList
  | since => "since".toList
  | outputDir => "output-dir".toList
  | testName => "test-name".toList
  | startedAt => "started-at".toList
  | endedAt => "ended-at".toList
  | passed => "passed".toList
  | skipLogs => "skip-logs".toList
  | write => "write".toList
  | podsNamespace => "pods-namespace".toList
  | file => "file".toList

/-- The letter behind one hyphen. -/
def short? : Argument → Option Char
  | verbose => some 'v'
  | help => some 'h'
  | controllers => some 'n'
  | outputDir => some 'o'
  | podsNamespace => some 'N'
  | _ => none

/-- What an argument takes. -/
def kind : Argument → Kind
  | verbose | help | passed | skipLogs | write => .flag
  | context | testName | podsNamespace => .text
  | outputDir | file => .path
  | since | startedAt | endedAt => .time
  | controllers => .controller

/-- Whether an argument takes a value. -/
def takesValue (a : Argument) : Bool :=
  a.kind != .flag

/-- Whether an argument may be given more than once. -/
def repeats : Argument → Bool
  | controllers => true
  | _ => false

/-- The name of the value in the usage of an argument. -/
def valueName : Argument → Text
  | controllers => "NAMESPACES".toList
  | a => a.long.map fun c => if c = '-' then '_' else c.toUpper

/-- An argument as usage shows it. -/
def usage (a : Argument) : Text :=
  "--".toList ++ a.long ++ " <".toList ++ a.valueName ++ ['>']

end Argument

/-- The value of an argument. -/
inductive Given where
  | flag
  | text (t : Text)
  | path (p : Path)
  | time (i : Instant)
  | controller (ns : ControllerNamespace)
deriving DecidableEq

/-! ## Why no command is run -/

/-- Why no command is run. -/
inductive Stop where
  /-- Help was asked for. -/
  | help
  /-- Nothing at all was given. -/
  | nothingGiven
  /-- There is no command. -/
  | missingCommand
  /-- A word that should be a command is none. -/
  | unknownCommand
  /-- An argument that is not known here. -/
  | unknownArgument
  /-- An argument that was given before. -/
  | repeated
  /-- A value for a flag. -/
  | unneededValue
  /-- No value, or an empty one, where there must be one. -/
  | missingValue
  /-- No argument where there must be one. -/
  | missingArgument
  /-- A value that is not one for its argument. -/
  | badValue (argument : Argument) (reason : Text)
deriving DecidableEq, Repr

/-! ## Reading values -/

/-- The value that a text is for an argument. -/
def Argument.read (a : Argument) (t : Text) : Except Stop Given :=
  match a.kind with
  | .flag => .error .unneededValue
  | .text => .ok (.text t)
  | .path => if t = [] then .error .missingValue else .ok (.path ⟨t⟩)
  | .time =>
    match Rfc3339.parse t with
    | .ok i => .ok (.time i)
    | .error refusal => .error (.badValue a refusal.message)
  | .controller =>
    match ControllerNamespace.parse t with
    | .ok ns => .ok (.controller ns)
    | .error refusal => .error (.badValue a refusal.message)

end Evidence.CommandLine
