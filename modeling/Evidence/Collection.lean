import Evidence.Artifact
import Evidence.ControllerNamespace
import Evidence.Log.Window
import Evidence.PodSource

/-!
# Collecting logs

The logs of all containers of all pods of some namespaces, one text for each namespace.  A
failure becomes a line of the text of its namespace and never ends the collection.

Main definitions:

- `Capture`: whole logs, or logs from an instant on.
- `Collection.ofNamespaces`: the collected texts, in the order of the namespaces.
- `Collection.artifacts`: the collected texts as artifacts.
- `Collection.storeControllerLogs`: collecting whole logs into the directory kept for them.
-/

namespace Evidence

/-- How much of each log is collected. -/
inductive Capture where
  /-- The whole log. -/
  | whole
  /-- The part of a log from the start of a window on. -/
  | since (start : Instant)
deriving DecidableEq

/-- The text collected for a namespace. -/
structure NamespaceLog where
  ns : ControllerNamespace
  text : Text
deriving DecidableEq, Repr

namespace Collection

/-! ## Pieces of text -/

/-- What the text of a namespace begins with: nothing for whole logs, else its label. -/
def header (capture : Capture) (ns : ControllerNamespace) : Text :=
  match capture with
  | .whole => []
  | .since _ => "\n========= ".toList ++ ns.label ++ " =========\n\n".toList

/-- What is collected of a log. -/
def piece (capture : Capture) (log : Text) : Text :=
  match capture with
  | .whole => log
  | .since start => Log.since start log ++ ['\n']

/-- What stands for the pods that were not listed. -/
def listFailure (e : Failure) : Text :=
  "Error listing pods: ".toList ++ e.message ++ ['\n']

/-- What stands for a log that was not read. -/
def logFailure (e : Failure) : Text :=
  "Error getting logs: ".toList ++ e.message ++ ['\n']

/-! ## Asking a source -/

variable {σ : Type}

/-- The containers of some pods, each with its pod, in the order in which logs are asked for. -/
def containersOf (pods : List PodContainers) : List (Text × Text) :=
  pods.flatMap fun p => p.all.map fun container => (p.pod, container)

/-- The collected logs of some containers, one after the other. -/
def ofContainers (source : PodSource σ) (capture : Capture) (ns : Text) :
    List (Text × Text) → StateM σ Text
  | [] => pure []
  | (pod, container) :: rest => do
    let answer ← source.containerLog ns pod container
    let more ← ofContainers source capture ns rest
    match answer with
    | .ok log => return piece capture log ++ more
    | .error e => return logFailure e ++ more

/-- The text collected for a namespace. -/
def ofNamespace (source : PodSource σ) (capture : Capture) (ns : ControllerNamespace) :
    StateM σ Text := do
  match ← source.listPods ns.name with
  | .error e => return header capture ns ++ listFailure e
  | .ok pods =>
    return header capture ns ++ (← ofContainers source capture ns.name (containersOf pods))

/-- The texts collected for some namespaces, one after the other. -/
def ofNamespaces (source : PodSource σ) (capture : Capture) :
    List ControllerNamespace → StateM σ (List NamespaceLog)
  | [] => pure []
  | ns :: rest => do
    let text ← ofNamespace source capture ns
    let more ← ofNamespaces source capture rest
    return ⟨ns, text⟩ :: more

/-! ## Artifacts -/

/-- The name of the artifact with the logs of a namespace. -/
def artifactName (ns : Text) : Text :=
  ns ++ ".log".toList

/-- One artifact for each namespace; of two texts for one namespace the later is kept. -/
def artifacts (logs : List NamespaceLog) : Artifacts :=
  SortedMap.ofList (logs.map fun l => (artifactName l.ns.name, Utf8.encode l.text))

/-- Collect whole logs and store them in the directory of controller logs. -/
def storeControllerLogs (source : PodSource σ) (namespaces : List ControllerNamespace)
    (settings : Settings) (cwd : Location) (tree : FileTree) :
    StateM σ (FileTree × Option StoreError) := do
  let logs ← ofNamespaces source .whole namespaces
  return (artifacts logs).store cwd settings.controllerLogsDir tree

end Collection

end Evidence
