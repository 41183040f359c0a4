import Evidence.Job
import Evidence.Path
import Evidence.TestName

/-!
# Settings

Where artifacts go, decided once from the environment and the working directory.

Main definitions:

- `RunMode` and `Settings`: whether a run is part of a CI job, and its directories.
- `Settings.ofEnvironment`: the settings that an environment asks for.
- `Settings.controllerLogsDir` and `Settings.controllerLogsLocation`: where controller logs are
  stored, and where a reader is sent to find them.
- `Settings.testDir`: where the artifacts of a test go.
-/

namespace Evidence

/-- A run stands alone or is part of a CI job. -/
inductive RunMode where
  | standalone
  | ci (job : Job)
deriving DecidableEq, Repr

/-- Where artifacts go: `root` holds those of tests, and in a run that stands alone
`standaloneDir` those that belong to no test. -/
structure Settings where
  mode : RunMode
  root : Path
  standaloneDir : Path
deriving DecidableEq, Repr

/-- An environment gives values to some names. -/
abbrev Environment := Text → Option Text

namespace Environment

/-- The value of a variable that counts as unset when it is empty. -/
def nonEmpty? (env : Environment) (name : String) : Option Text :=
  (env name.toList).filter (· ≠ [])

/-- The value of a variable that counts as empty when it is unset. -/
def orEmpty (env : Environment) (name : String) : Text :=
  (env name.toList).getD []

end Environment

namespace Settings

/-! ## From the environment -/

/-- The variables that settings depend on. -/
def variableNames : List Text :=
  ["CI", "ARTIFACT_DIR", "JOB_NAME", "BUILD_ID", "PULL_NUMBER", "REPO_OWNER", "REPO_NAME"].map
    String.toList

/-- The pull request that an environment names: one with a number. -/
def pullRequest? (env : Environment) : Option PullRequest :=
  (env.nonEmpty? "PULL_NUMBER").map fun number =>
    ⟨env.orEmpty "REPO_OWNER", env.orEmpty "REPO_NAME", number⟩

/-- The run mode that an environment asks for: CI is on when it is exactly `true`. -/
def runMode (env : Environment) : RunMode :=
  if env "CI".toList = some "true".toList then
    .ci ⟨env.orEmpty "JOB_NAME", env.orEmpty "BUILD_ID", pullRequest? env⟩
  else .standalone

/-- The settings that an environment asks for in a working directory. -/
def ofEnvironment (env : Environment) (cwd : Path) : Settings where
  mode := runMode env
  root := ((env.nonEmpty? "ARTIFACT_DIR").map Path.mk).getD (cwd.join "tmp".toList)
  standaloneDir := (cwd.join "tmp".toList).join "artifacts".toList

/-! ## Directories and locations -/

/-- The CI job of a run. -/
def job? (s : Settings) : Option Job :=
  match s.mode with
  | .standalone => none
  | .ci job => some job

/-- Whether a run is part of a CI job. -/
def isCi (s : Settings) : Bool :=
  match s.mode with
  | .standalone => false
  | .ci _ => true

/-- The directory of artifacts that belong to no test. -/
def artifactsDir (s : Settings) : Path :=
  if s.isCi then s.root else s.standaloneDir

/-- The name of the directory of controller logs. -/
def controllerLogsName : Text :=
  "rhtap-controllers-logs".toList

/-- The directory of controller logs. -/
def controllerLogsDir (s : Settings) : Path :=
  s.artifactsDir.join controllerLogsName

/-- Where a reader finds the artifacts: at the address of the job, or in the directory of the
run that stands alone. -/
def artifactsLocation (s : Settings) : Text :=
  match s.job? with
  | some job => job.artifactsUrl
  | none => s.standaloneDir.text

/-- Where a reader finds the controller logs. -/
def controllerLogsLocation (s : Settings) : Text :=
  s.artifactsLocation ++ '/' :: controllerLogsName

/-- The directory for the artifacts of a test, or of no test in particular. -/
def testDir (s : Settings) : (testName : Option Text) → Path
  | none => s.root
  | some name => s.root.join (TestName.directory name)

end Settings

end Evidence
