import Evidence.Collection

/-!
# Failure reports

What is put on record about a failed test: when it ran, what the controllers logged meanwhile,
and where the rest of the evidence is kept.

Main definitions:

- `TestRun` and `Report.Entry`: a run of a test, a named section of a report.
- `Report.entries`: the sections of the report on a run.
- `Report.render` and `Report.artifacts`: a report as one text and as an artifact.
-/

namespace Evidence

/-- A run of a test. -/
structure TestRun where
  name : Text
  startedAt : Instant
  endedAt : Instant
  failed : Bool
deriving DecidableEq

namespace Report

/-- A named section of a report. -/
structure Entry where
  name : Text
  body : Text
deriving DecidableEq, Repr

/-! ## Sections -/

/-- When a test ran, in two lines. -/
def timing (run : TestRun) : Text :=
  "Test started at ".toList ++ run.startedAt.text ++ "\nTest ended at ".toList ++ run.endedAt.text

/-- The rule above and below the locations. -/
def rule : Text :=
  List.replicate 20 '*'

/-- Where a CI job archives what it gathers itself. -/
def archives (location : Text) : Text :=
  "\nRHTAP custom resources are archived here: ".toList ++ location
    ++ "/redhat-appstudio-gather/artifacts/\n".toList
    ++ "\nLogs from all OpenShift pods are archived here: ".toList ++ location
    ++ "/redhat-appstudio-hypershift-gather/artifacts/pods/\n".toList

/-- When a test ran and where the evidence is kept, between two rules. -/
def locations (settings : Settings) (run : TestRun) : Text :=
  rule ++ '\n' :: timing run
    ++ "\nControllers logs are stored here: ".toList ++ settings.controllerLogsLocation ++ ['\n']
    ++ (if settings.isCi then archives settings.artifactsLocation else [])
    ++ rule

/-- The section with the logs of a namespace. -/
def logEntry (log : NamespaceLog) : Entry :=
  ⟨log.ns.name, log.text⟩

/-! ## Reports -/

variable {σ : Type}

/-- The logs that a report on a run shows: none without a source. -/
def logs (source : Option (PodSource σ)) (namespaces : List ControllerNamespace) (run : TestRun) :
    StateM σ (List NamespaceLog) :=
  match source with
  | none => pure []
  | some source => Collection.ofNamespaces source (.since run.startedAt) namespaces

/-- The sections of the report on a run; there are none when the test did not fail. -/
def entries (source : Option (PodSource σ)) (namespaces : List ControllerNamespace)
    (settings : Settings) (run : TestRun) : StateM σ (List Entry) :=
  if run.failed then do
    let logs ← logs source namespaces run
    return ⟨"timing".toList, timing run⟩ :: logs.map logEntry
      ++ [⟨"DEBUG".toList, locations settings run⟩]
  else return []

/-- A section as text: its name in brackets and its body. -/
def renderEntry (e : Entry) : Text :=
  '[' :: e.name ++ "]\n".toList ++ e.body ++ ['\n']

/-- A report as text, its sections parted by empty lines. -/
def render (entries : List Entry) : Text :=
  Text.ofLines (entries.map renderEntry)

/-- The name of the artifact with the report. -/
def artifactName : Text :=
  "failure-report.txt".toList

/-- A report as an artifact. -/
def artifacts (entries : List Entry) : Artifacts :=
  Artifacts.single artifactName (Utf8.encode (render entries))

end Report

end Evidence
