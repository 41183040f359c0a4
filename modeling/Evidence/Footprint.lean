import Evidence.Program

/-!
# Footprints

What a command may touch: the directory and the files that it writes, and what it reads.

Main definitions:

- `Footprint.directory?` and `Footprint.names`: where a command writes, and under which names.
- `Footprint.written`: the paths that a command may write to.
- `Footprint.readsInput` and `Footprint.file?`: what a command reads.
-/

namespace Evidence

open CommandLine Kubernetes

namespace Footprint

/-! ## What is written -/

/-- The directory that a command writes to, if it writes at all. -/
def directory? (settings : Settings) : Command → Option Path
  | .collect _ _ outputDir testName => some (outputDir.getD (settings.testDir testName))
  | .filter .. => none
  | .report _ testName _ _ passed _ write =>
    if write && !passed then some (settings.testDir (some testName)) else none
  | .storeControllerLogs _ => some settings.controllerLogsDir
  | .dumpPods _ _ testName => some (settings.testDir testName)

/-- The names of the files that a command writes to its directory. -/
def names : Command → List Text
  | .collect cluster .. => cluster.asked.map fun ns => Collection.artifactName ns.name
  | .filter .. => []
  | .report .. => [Report.artifactName]
  | .storeControllerLogs cluster => cluster.asked.map fun ns => Collection.artifactName ns.name
  | .dumpPods ns _ _ => [Document.artifactName (Dump.name ns)]

/-- The paths that a command may write to. -/
def written (settings : Settings) (command : Command) : List Path :=
  match directory? settings command with
  | none => []
  | some dir => dir :: (names command).map dir.join

/-! ## What is read -/

/-- Whether a command reads standard input. -/
def readsInput : Command → Bool
  | .filter _ none => true
  | _ => false

/-- The file that a command reads. -/
def file? : Command → Option Path
  | .filter _ file => file
  | _ => none

end Footprint

end Evidence
