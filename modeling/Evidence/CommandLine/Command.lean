import Evidence.CommandLine.Reading

/-!
# Commands

The commands of the program, and the command lines that ask for them.

Main definitions:

- `Command` and `Invocation`: what a run is asked to do.
- `Command.Name`: the words that commands are called by.
- `Command.ofGiven?`: the command that some arguments make.
- `Invocation.parse`: reading a command line.
-/

namespace Evidence.CommandLine

/-! ## Commands -/

/-- Which part of a cluster is asked for logs. -/
structure ClusterChoice where
  /-- The namespaces to ask; the default ones when there are none. -/
  namespaces : List ControllerNamespace
  context : Option Text
deriving DecidableEq

/-- The namespaces that a choice asks. -/
def ClusterChoice.asked (choice : ClusterChoice) : List ControllerNamespace :=
  if choice.namespaces.isEmpty then ControllerNamespace.defaults else choice.namespaces

/-- What a run is asked to do. -/
inductive Command where
  /-- Collect logs and store them. -/
  | collect (cluster : ClusterChoice) (since : Option Instant) (outputDir : Option Path)
      (testName : Option Text)
  /-- Print the part of a log from an instant on. -/
  | filter (since : Instant) (file : Option Path)
  /-- Report on a run of a test. -/
  | report (cluster : ClusterChoice) (testName : Text) (startedAt : Instant)
      (endedAt : Option Instant) (passed skipLogs write : Bool)
  /-- Store whole logs where controller logs are kept. -/
  | storeControllerLogs (cluster : ClusterChoice)
  /-- Store the pods of a namespace. -/
  | dumpPods (ns : Text) (context testName : Option Text)
deriving DecidableEq

/-- A command, and whether the run should talk about itself. -/
structure Invocation where
  command : Command
  verbose : Bool
deriving DecidableEq

/-! ## Names -/

namespace Command

/-- The commands by name. -/
inductive Name where
  | collect
  | filter
  | report
  | storeControllerLogs
  | dumpPods
deriving DecidableEq, Repr

namespace Name

/-- All names. -/
def all : List Name :=
  [collect, filter, report, storeControllerLogs, dumpPods]

/-- The word that a command is called by. -/
def text : Name → Text
  | collect => "collect".toList
  | filter => "filter".toList
  | report => "report".toList
  | storeControllerLogs => "store-controller-logs".toList
  | dumpPods => "dump-pods".toList

/-- The command that a word calls. -/
def ofText? (t : Text) : Option Name :=
  all.find? fun name => name.text == t

/-- The arguments that a command has of its own. -/
def arguments : Name → List Argument
  | collect => [.controllers, .context, .since, .outputDir, .testName]
  | filter => [.since]
  | report =>
    [.controllers, .context, .testName, .startedAt, .endedAt, .passed, .skipLogs, .write]
  | storeControllerLogs => [.controllers, .context]
  | dumpPods => [.podsNamespace, .context, .testName]

/-- The arguments that are known behind the word of a command. -/
def grammar (name : Name) : Grammar where
  known := name.arguments ++ [.verbose, .help]
  takesFile := name == filter

end Name

/-- The command that is called by a name. -/
def name : Command → Name
  | collect .. => .collect
  | filter .. => .filter
  | report .. => .report
  | storeControllerLogs .. => .storeControllerLogs
  | dumpPods .. => .dumpPods

end Command

/-! ## From arguments -/

namespace Arguments

variable (given : List (Argument × Given))

/-- The values of an argument, in the order in which they were given. -/
def values (a : Argument) : List Given :=
  (given.filter fun g => g.1 == a).map (·.2)

/-- Whether a flag was given. -/
def flag (a : Argument) : Bool :=
  given.any fun g => g.1 == a

/-- The text of an argument. -/
def text? (a : Argument) : Option Text :=
  (values given a).findSome? fun
    | .text t => some t
    | _ => none

/-- The path of an argument. -/
def path? (a : Argument) : Option Path :=
  (values given a).findSome? fun
    | .path p => some p
    | _ => none

/-- The time of an argument. -/
def time? (a : Argument) : Option Instant :=
  (values given a).findSome? fun
    | .time i => some i
    | _ => none

/-- The namespaces that were given, in their order. -/
def namespaces : List ControllerNamespace :=
  (values given .controllers).filterMap fun
    | .controller ns => some ns
    | _ => none

/-- The choice of a cluster that was given. -/
def cluster : ClusterChoice :=
  ⟨namespaces given, text? given .context⟩

end Arguments

open Arguments in
/-- The command that some arguments make; none when one that it needs was not given. -/
def Command.ofGiven? (given : List (Argument × Given)) : Command.Name → Option Command
  | .collect =>
    some (.collect (cluster given) (time? given .since) (path? given .outputDir)
      (text? given .testName))
  | .filter => do
    let since ← time? given .since
    return .filter since (path? given .file)
  | .report => do
    let testName ← text? given .testName
    let startedAt ← time? given .startedAt
    return .report (cluster given) testName startedAt (time? given .endedAt) (flag given .passed)
      (flag given .skipLogs) (flag given .write)
  | .storeControllerLogs => some (.storeControllerLogs (cluster given))
  | .dumpPods => do
    let ns ← text? given .podsNamespace
    return .dumpPods ns (text? given .context) (text? given .testName)

/-! ## From words -/

namespace Invocation

/-- The arguments that are known before the word of a command. -/
def frontGrammar : Grammar where
  known := [.verbose, .help]
  takesFile := false

/-- Read what stands behind the word of a command. -/
def behind (name : Command.Name) (verbose : Bool) (ts : List Text) : Except Stop Invocation := do
  let given ← Reading.words name.grammar ts
  match Command.ofGiven? given name with
  | some command => return ⟨command, verbose || Arguments.flag given .verbose⟩
  | none => throw .missingArgument

/-- The answer to a call for help: the words that follow may name one command. -/
def helpFor : List Text → Stop
  | [] => .help
  | [t] => if t = "help".toList ∨ (Command.Name.ofText? t).isSome then .help else .unknownCommand
  | _ => .unknownCommand

/-- Read words up to the one of a command, and what stands behind it. -/
def front (r : Reading) : List Text → Except Stop Invocation
  | [] => .error (if r.given.isEmpty then .nothingGiven else .missingCommand)
  | t :: rest =>
    match Command.Name.ofText? t with
    | some name =>
      if r.literal then .error .unknownArgument else behind name (r.has .verbose) rest
    | none =>
      if t = "help".toList then .error (if r.literal then .unknownArgument else helpFor rest)
      else if r.literal || t.head? != some '-' || t == ['-'] then .error .unknownCommand
      else do
        let r ← r.step frontGrammar t
        front r rest

/-- Read a command line. -/
def parse (ts : List Text) : Except Stop Invocation :=
  front .start ts

end Invocation

end Evidence.CommandLine
