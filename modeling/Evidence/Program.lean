import Evidence.CommandLine.Command
import Evidence.Kubernetes.Config
import Evidence.Kubernetes.Dump
import Evidence.Report

/-!
# The program

What a run does to the world around it, for each command.

Main definitions:

- `World`: what a run is surrounded by.
- `Outcome` and `Ending`: what is left behind by a run, and how it ends.
- `Program.perform`: carrying out a command.
- `Program.run`: a run with the words of a command line.

Main results:

- `Program.run_of_stop` and `Program.run_of_command`: what becomes of the words.
- `Program.run_cases`: a run that changes the tree carries out a command.
-/

namespace Evidence

open CommandLine Kubernetes

/-! ## Before and after a run -/

/-- What a run is surrounded by. -/
structure World where
  environment : Environment
  /-- The working directory, which may be gone. -/
  cwd : Location
  tree : FileTree
  /-- What stands on standard input. -/
  input : Blob
  access : Access
  now : Instant
  /-- What is said to words that make no command: the help, or what is wrong with them.  The
  wording is left to the reader of command lines. -/
  usage : (ts : List Text) → Stop → Text

/-- How a run ends. -/
inductive Ending where
  /-- The command was carried out. -/
  | done
  /-- The command failed. -/
  | failed (why : Failure)
  /-- No command was run, and what was said to that. -/
  | stopped (why : Stop) (said : Text)

namespace Ending

/-- The exit code that tells how a run ended. -/
def code : Ending → Nat
  | done => 0
  | failed _ => 1
  | stopped .help _ => 0
  | stopped _ _ => 2

/-- What a run says about how it ended. -/
def message : Ending → Text
  | done => []
  | failed why => why.report
  | stopped _ said => said

/-- The end of a run that had to store artifacts. -/
def ofSave : Except StoreError Path → Ending
  | .ok _ => done
  | .error e => failed e.failure

end Ending

/-- What is left behind by a run: how it ended, what it printed, the tree, and the requests that
it sent. -/
structure Outcome where
  ending : Ending
  output : Text
  tree : FileTree
  requests : List Request

namespace World

/-- The settings of a run. -/
def settings (w : World) : Settings :=
  .ofEnvironment w.environment (.ofLocation w.cwd)

/-- A run that leaves the world as it was. -/
def untouched (w : World) (ending : Ending) : Outcome :=
  ⟨ending, [], w.tree, []⟩

/-- A run without a command.  Help is printed, and anything else is said at the end. -/
def stopped (w : World) (ts : List Text) (why : Stop) : Outcome :=
  if why = .help then { w.untouched (.stopped why []) with output := w.usage ts why }
  else w.untouched (.stopped why (w.usage ts why))

/-- A run without a command leaves the tree as it was. -/
@[simp] theorem tree_stopped (w : World) (ts : List Text) (why : Stop) :
    (w.stopped ts why).tree = w.tree := by
  rw [stopped]
  split <;> rfl

end World

namespace Program

/-! ## Reading a log -/

/-- The text that a content is. -/
def asText (content : Blob) : Except Text Text :=
  match Utf8.decode? content with
  | some t => .ok t
  | none => .error "stream did not contain valid UTF-8".toList

/-- The log to filter: a file, or what stands on standard input. -/
def readLog (w : World) : (file : Option Path) → Except Failure Text
  | none => (asText w.input).mapError fun cause => ⟨"Failed to read stdin".toList, [cause]⟩
  | some path =>
    let content := (w.tree.readFile w.cwd path).mapError FileTree.Cause.message
    (content.bind asText).mapError fun cause =>
      ⟨"Failed to read ".toList ++ path.text, [cause]⟩

/-! ## Commands -/

/-- Print the part of a log from an instant on. -/
def filter (w : World) (since : Instant) (file : Option Path) : Outcome :=
  match readLog w file with
  | .error why => w.untouched (.failed why)
  | .ok log => { w.untouched .done with output := Log.since since log }

/-- Collect the logs of some namespaces and store them. -/
def collect (w : World) (cluster : ClusterChoice) (since : Option Instant)
    (outputDir : Option Path) (testName : Option Text) : Outcome :=
  match w.access.connect cluster.context with
  | .error why => w.untouched (.failed why)
  | .ok server =>
    let capture := (since.map Capture.since).getD .whole
    let (logs, requests) := (Collection.ofNamespaces server.source capture cluster.asked).run []
    let (tree, answer) :=
      (Collection.artifacts logs).save w.settings testName outputDir w.cwd w.tree
    ⟨.ofSave answer, [], tree, requests⟩

/-- The source that a report asks for logs, if it asks one. -/
def reportSource (w : World) (cluster : ClusterChoice) (skipLogs : Bool) :
    Except Failure (Option (PodSource (List Request))) :=
  if skipLogs then .ok none
  else (w.access.connect cluster.context).map fun server => some server.source

/-- Print the report on a run of a test, and store it if that is asked for.  Nothing is printed
on a test that did not fail. -/
def report (w : World) (cluster : ClusterChoice) (run : TestRun) (skipLogs write : Bool) :
    Outcome :=
  match reportSource w cluster skipLogs with
  | .error why => w.untouched (.failed why)
  | .ok source =>
    let (entries, requests) := (Report.entries source cluster.asked w.settings run).run []
    if entries.isEmpty then { w.untouched .done with requests }
    else
      let output := Report.render entries ++ ['\n']
      if write then
        let (tree, answer) :=
          (Report.artifacts entries).save w.settings (some run.name) none w.cwd w.tree
        ⟨.ofSave answer, output, tree, requests⟩
      else ⟨.done, output, w.tree, requests⟩

/-- Store whole logs where controller logs are kept.  That they could not be stored is no
failure of the run. -/
def storeControllerLogs (w : World) (cluster : ClusterChoice) : Outcome :=
  match w.access.connect cluster.context with
  | .error why => w.untouched (.failed why)
  | .ok server =>
    let ((tree, _), requests) := (Collection.storeControllerLogs server.source cluster.asked
      w.settings w.cwd w.tree).run []
    ⟨.done, [], tree, requests⟩

/-- Store the pods of a namespace. -/
def dumpPods (w : World) (ns : Text) (context testName : Option Text) : Outcome :=
  match w.access.connect context with
  | .error why => w.untouched (.failed why)
  | .ok server =>
    let ((tree, refused), requests) :=
      (Dump.store server ns w.settings testName w.cwd w.tree).run []
    match refused with
    | none => ⟨.done, [], tree, requests⟩
    | some e => ⟨.failed e.failure, [], tree, requests⟩

/-! ## Runs -/

/-- Carry out a command.  A run of a test that has no end yet ends now. -/
def perform (w : World) : Command → Outcome
  | .collect cluster since outputDir testName => collect w cluster since outputDir testName
  | .filter since file => filter w since file
  | .report cluster testName startedAt endedAt passed skipLogs write =>
    report w cluster ⟨testName, startedAt, endedAt.getD w.now, !passed⟩ skipLogs write
  | .storeControllerLogs cluster => storeControllerLogs w cluster
  | .dumpPods ns context testName => dumpPods w ns context testName

/-- Why there are no settings: the working directory is gone. -/
def unsettled : Failure :=
  ⟨"Failed to resolve artifact configuration".toList, [FileTree.Cause.notFound.message]⟩

/-- A run with the words of a command line. -/
def run (ts : List Text) (w : World) : Outcome :=
  match Invocation.parse ts with
  | .error why => w.stopped ts why
  | .ok invocation =>
    if w.tree.IsDirectory w.cwd then perform w invocation.command
    else w.untouched (.failed unsettled)

variable {ts : List Text} {w : World} {invocation : Invocation}

/-- Words that make no command are answered. -/
theorem run_of_stop {why : Stop} (h : Invocation.parse ts = .error why) :
    run ts w = w.stopped ts why := by
  rw [run, h]

/-- Words that make a command have it carried out, if there is a working directory. -/
theorem run_of_command (h : Invocation.parse ts = .ok invocation) :
    run ts w = if w.tree.IsDirectory w.cwd then perform w invocation.command
      else w.untouched (.failed unsettled) := by
  rw [run, h]

/-- In a working directory a command is carried out. -/
theorem run_of_isDirectory (h : Invocation.parse ts = .ok invocation)
    (hcwd : w.tree.IsDirectory w.cwd) : run ts w = perform w invocation.command :=
  (run_of_command h).trans (if_pos hcwd)

/-- A run leaves the tree as it was, or it carries out the command that its words make. -/
theorem run_cases (ts : List Text) (w : World) :
    (run ts w).tree = w.tree ∨ ∃ invocation, Invocation.parse ts = .ok invocation ∧
      run ts w = perform w invocation.command := by
  cases hparse : Invocation.parse ts with
  | error why =>
    rw [run_of_stop hparse]
    exact .inl (w.tree_stopped ts why)
  | ok invocation =>
    by_cases hcwd : w.tree.IsDirectory w.cwd
    · exact .inr ⟨invocation, rfl, run_of_isDirectory hparse hcwd⟩
    · rw [run_of_command hparse, if_neg hcwd]
      exact .inl rfl

end Program

end Evidence
