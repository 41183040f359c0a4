import Evidence.Settings
import Mathlib.Data.Option.Basic

/-!
# What the environment decides

Which differences between two environments show in the settings, and which do not.  For most of the
variables it makes no difference whether they are unset or empty, and those that describe a CI job
matter only if there is one.

Main definitions:

- `Environment.IsSet` and `Environment.Agrees`: a variable that counts as set, and two environments
  between which a variable makes no difference.
- `Environment.IsCi`, `Environment.artifactRoot` and `Environment.SameJob`: what an environment says
  about the run.

Main results:

- `Settings.runMode_eq_iff`: when two environments ask for the same run mode.
- `Settings.job?_ofEnvironment`: when there is a job.
- `Settings.decided_by_environment`: exactly what the settings depend on.
-/

namespace Evidence

namespace Environment

variable {env env' : Environment} {name : String} {value : Text}

/-! ## Unset and empty variables -/

/-- A variable counts as set when it has a value that is not empty. -/
def IsSet (env : Environment) (name : String) : Prop :=
  ∃ value, value ≠ [] ∧ env name.toList = some value

/-- Two environments agree on a variable if each value but the empty one is its value in both of
them or in neither. -/
def Agrees (env env' : Environment) (name : String) : Prop :=
  ∀ value, value ≠ [] → (env name.toList = some value ↔ env' name.toList = some value)

theorem nonEmpty?_eq_some_iff :
    env.nonEmpty? name = some value ↔ value ≠ [] ∧ env name.toList = some value := by
  simp [nonEmpty?, Option.filter_eq_some_iff, and_comm]

theorem nonEmpty?_eq_none_iff : env.nonEmpty? name = none ↔ ¬ env.IsSet name := by
  simp [Option.eq_none_iff_forall_ne_some, nonEmpty?_eq_some_iff, IsSet]

/-- Environments agree on a variable when it has the same value in both, where it has one that is
not empty. -/
theorem nonEmpty?_eq_iff : env.nonEmpty? name = env'.nonEmpty? name ↔ env.Agrees env' name := by
  rw [Option.ext_iff]
  simp only [nonEmpty?_eq_some_iff, and_congr_right_iff, Agrees]

theorem orEmpty_eq_getD : env.orEmpty name = (env.nonEmpty? name).getD [] := by
  unfold orEmpty nonEmpty?
  cases env name.toList with
  | none => rfl
  | some value => by_cases h : value = [] <;> simp [Option.filter, h]

theorem nonEmpty?_eq_filter :
    env.nonEmpty? name = (some (env.orEmpty name)).filter (· ≠ []) := by
  unfold orEmpty nonEmpty?
  cases env name.toList with
  | none => rfl
  | some value => rfl

/-- Environments agree on a variable when it has the same value in both, where an unset one counts
as empty. -/
theorem orEmpty_eq_iff : env.orEmpty name = env'.orEmpty name ↔ env.Agrees env' name := by
  rw [← nonEmpty?_eq_iff]
  constructor
  · intro h
    rw [nonEmpty?_eq_filter, h, ← nonEmpty?_eq_filter]
  · intro h
    rw [orEmpty_eq_getD, h, ← orEmpty_eq_getD]

theorem Agrees.of_eq (h : env name.toList = env' name.toList) : env.Agrees env' name :=
  fun value _ => by rw [h]

/-! ## What an environment says about a run -/

/-- The run is part of a CI job. -/
def IsCi (env : Environment) : Prop :=
  env "CI".toList = some "true".toList

/-- The root of all artifacts: the directory that is named, or `tmp` in the working directory. -/
def artifactRoot (env : Environment) (cwd : Path) : Text :=
  match env "ARTIFACT_DIR".toList with
  | some (c :: rest) => c :: rest
  | _ => (cwd.join "tmp".toList).text

/-- Two environments describe the same job.  The repository belongs to the description only if a
pull request has a number. -/
structure SameJob (env env' : Environment) : Prop where
  name : env.Agrees env' "JOB_NAME"
  build : env.Agrees env' "BUILD_ID"
  number : env.Agrees env' "PULL_NUMBER"
  owner : env.IsSet "PULL_NUMBER" → env.Agrees env' "REPO_OWNER"
  repo : env.IsSet "PULL_NUMBER" → env.Agrees env' "REPO_NAME"

end Environment

namespace Settings

variable {env env' : Environment} {cwd : Path}

/-! ## The parts of the settings -/

/-- The root of the settings is the one that the environment asks for. -/
theorem text_root_ofEnvironment (env : Environment) (cwd : Path) :
    (ofEnvironment env cwd).root.text = env.artifactRoot cwd := by
  unfold ofEnvironment Environment.artifactRoot Environment.nonEmpty?
  rcases env "ARTIFACT_DIR".toList with - | - | ⟨c, rest⟩
  · rfl
  · rfl
  · rfl

/-- Environments name the same pull request when they agree on its number and, if it has one, on
the repository. -/
theorem pullRequest?_eq_iff : pullRequest? env = pullRequest? env' ↔
    env.Agrees env' "PULL_NUMBER" ∧ (env.IsSet "PULL_NUMBER" →
      env.Agrees env' "REPO_OWNER" ∧ env.Agrees env' "REPO_NAME") := by
  have hset : env.IsSet "PULL_NUMBER" ↔ env.nonEmpty? "PULL_NUMBER" ≠ none := by
    rw [ne_eq, Environment.nonEmpty?_eq_none_iff, not_not]
  rw [hset, ← Environment.nonEmpty?_eq_iff, ← Environment.orEmpty_eq_iff,
    ← Environment.orEmpty_eq_iff]
  unfold pullRequest?
  cases env.nonEmpty? "PULL_NUMBER" with
  | none => cases env'.nonEmpty? "PULL_NUMBER" <;> simp
  | some number =>
    cases env'.nonEmpty? "PULL_NUMBER" with
    | none => simp
    | some other => simp [and_comm, and_assoc]

/-- The job that an environment describes, if there is one. -/
def describedJob (env : Environment) : Job :=
  ⟨env.orEmpty "JOB_NAME", env.orEmpty "BUILD_ID", pullRequest? env⟩

/-- Environments describe the same job when their differences do not show in it. -/
theorem describedJob_eq_iff : describedJob env = describedJob env' ↔ env.SameJob env' := by
  unfold describedJob
  rw [Job.mk.injEq, Environment.orEmpty_eq_iff, Environment.orEmpty_eq_iff, pullRequest?_eq_iff]
  constructor
  · rintro ⟨hname, hbuild, hnumber, hrepository⟩
    exact ⟨hname, hbuild, hnumber, fun hset => (hrepository hset).1,
      fun hset => (hrepository hset).2⟩
  · intro h
    exact ⟨h.name, h.build, h.number, fun hset => ⟨h.owner hset, h.repo hset⟩⟩

theorem runMode_of_isCi (h : env.IsCi) : runMode env = .ci (describedJob env) :=
  if_pos h

theorem runMode_of_not_isCi (h : ¬ env.IsCi) : runMode env = .standalone :=
  if_neg h

/-- Environments ask for the same run mode when both speak of a CI job, and of the same one, or
none of them does. -/
theorem runMode_eq_iff :
    runMode env = runMode env' ↔ (env.IsCi ↔ env'.IsCi) ∧ (env.IsCi → env.SameJob env') := by
  by_cases hci : env.IsCi
  · by_cases hci' : env'.IsCi
    · rw [runMode_of_isCi hci, runMode_of_isCi hci', RunMode.ci.injEq, describedJob_eq_iff]
      simp [hci, hci']
    · rw [runMode_of_isCi hci, runMode_of_not_isCi hci']
      simp [hci, hci']
  · by_cases hci' : env'.IsCi
    · rw [runMode_of_not_isCi hci, runMode_of_isCi hci']
      simp [hci, hci']
    · rw [runMode_of_not_isCi hci, runMode_of_not_isCi hci']
      simp [hci, hci']

/-- Environments give the same settings when they ask for the same root and the same run mode. -/
theorem ofEnvironment_eq_iff : ofEnvironment env cwd = ofEnvironment env' cwd ↔
    env.artifactRoot cwd = env'.artifactRoot cwd ∧ (env.IsCi ↔ env'.IsCi) ∧
      (env.IsCi → env.SameJob env') := by
  have hpath : (ofEnvironment env cwd).root = (ofEnvironment env' cwd).root
      ↔ env.artifactRoot cwd = env'.artifactRoot cwd := by
    rw [Path.mk.injEq, text_root_ofEnvironment, text_root_ofEnvironment]
  -- The third part of the settings depends on the working directory alone.
  rw [← runMode_eq_iff, ← hpath]
  constructor
  · intro h
    exact ⟨congrArg root h, congrArg mode h⟩
  · rintro ⟨hroot, hmode⟩
    exact (Settings.mk.injEq ..).mpr ⟨hmode, hroot, rfl⟩

/-- What environments say about the job shows only in a CI job. -/
theorem ofEnvironment_congr (hci : env "CI".toList = env' "CI".toList)
    (hdir : env "ARTIFACT_DIR".toList = env' "ARTIFACT_DIR".toList)
    (hjob : env.IsCi → env.SameJob env') : ofEnvironment env cwd = ofEnvironment env' cwd := by
  have hroot : env.artifactRoot cwd = env'.artifactRoot cwd := by
    unfold Environment.artifactRoot
    rw [hdir]
  have hboth : env.IsCi ↔ env'.IsCi := by
    unfold Environment.IsCi
    rw [hci]
  exact ofEnvironment_eq_iff.2 ⟨hroot, hboth, hjob⟩

/-! ## The job and where its artifacts are found -/

/-- There is a job when `CI` is exactly one word. -/
theorem job?_ofEnvironment (env : Environment) (cwd : Path) :
    (ofEnvironment env cwd).job? = if env "CI".toList = some "true".toList
      then some ⟨env.orEmpty "JOB_NAME", env.orEmpty "BUILD_ID", pullRequest? env⟩ else none := by
  unfold job? ofEnvironment runMode
  by_cases h : env "CI".toList = some "true".toList
  · simp only [if_pos h]
  · simp only [if_neg h]

theorem job?_of_isCi (h : env.IsCi) : (ofEnvironment env cwd).job? = some (describedJob env) := by
  rw [job?_ofEnvironment]
  exact if_pos h

theorem job?_of_not_isCi (h : ¬ env.IsCi) : (ofEnvironment env cwd).job? = none := by
  rw [job?_ofEnvironment]
  exact if_neg h

/-- A run is part of a CI job when the environment says so. -/
theorem isCi_ofEnvironment_iff : (ofEnvironment env cwd).isCi = true ↔ env.IsCi := by
  unfold isCi ofEnvironment
  by_cases h : env.IsCi
  · simp [runMode_of_isCi h, h]
  · simp [runMode_of_not_isCi h, h]

/-- The settings have a job when the environment says so. -/
theorem exists_job?_iff : (∃ job, (ofEnvironment env cwd).job? = some job) ↔ env.IsCi := by
  by_cases h : env.IsCi
  · simp [job?_of_isCi h, h]
  · simp [job?_of_not_isCi h, h]

/-- The artifacts of a run that is part of a CI job are found at the address of the job. -/
theorem artifactsLocation_eq {s : Settings} {job : Job} (h : s.job? = some job) :
    s.artifactsLocation = job.artifactsUrl := by
  simp [artifactsLocation, h]

/-- The artifacts of a run that stands alone are found in its own directory. -/
theorem artifactsLocation_of_not_isCi (h : ¬ env.IsCi) :
    (ofEnvironment env cwd).artifactsLocation
      = ((cwd.join "tmp".toList).join "artifacts".toList).text := by
  unfold artifactsLocation
  rw [job?_of_not_isCi h]
  rfl

/-! ## Exactly what the settings depend on -/

/-- Two environments give the same settings in a working directory exactly if they ask for the same
root, both or neither of them speak of a CI job, and in a CI job they describe the same one.

So the variables of a job do not show in a run that stands alone, the repository does not show
without the number of a pull request, and other variables never show.  A run is part of a CI job
exactly if its settings have a job, and a reader is sent to the address of that job, or else to the
directory `tmp/artifacts` in the working directory. -/
theorem decided_by_environment (env : Environment) (cwd : Path) :
    (∀ env' : Environment, ofEnvironment env cwd = ofEnvironment env' cwd ↔
      env.artifactRoot cwd = env'.artifactRoot cwd ∧ (env.IsCi ↔ env'.IsCi) ∧
        (env.IsCi → env.SameJob env')) ∧
    (¬ env.IsCi → ∀ env' : Environment, env "CI".toList = env' "CI".toList →
      env "ARTIFACT_DIR".toList = env' "ARTIFACT_DIR".toList →
      ofEnvironment env cwd = ofEnvironment env' cwd) ∧
    (¬ env.IsSet "PULL_NUMBER" → ∀ env' : Environment,
      (∀ name, name ≠ "REPO_OWNER".toList → name ≠ "REPO_NAME".toList → env name = env' name) →
      ofEnvironment env cwd = ofEnvironment env' cwd) ∧
    (∀ env' : Environment, (∀ name ∈ variableNames, env name = env' name) →
      ofEnvironment env cwd = ofEnvironment env' cwd) ∧
    ((ofEnvironment env cwd).isCi = true ↔ env.IsCi) ∧
    ((ofEnvironment env cwd).isCi = true ↔ ∃ job, (ofEnvironment env cwd).job? = some job) ∧
    (∀ job, (ofEnvironment env cwd).job? = some job →
      (ofEnvironment env cwd).artifactsLocation = job.artifactsUrl) ∧
    (¬ env.IsCi → (ofEnvironment env cwd).artifactsLocation
      = ((cwd.join "tmp".toList).join "artifacts".toList).text) := by
  refine ⟨fun env' => ofEnvironment_eq_iff, ?standalone, ?noPullRequest, ?others,
    isCi_ofEnvironment_iff, isCi_ofEnvironment_iff.trans exists_job?_iff.symm,
    fun job => artifactsLocation_eq, artifactsLocation_of_not_isCi⟩
  case standalone =>
    intro hci env' hsame hdir
    exact ofEnvironment_congr hsame hdir fun h => absurd h hci
  case noPullRequest =>
    intro hunset env' hsame
    have hnames : ∀ name ∈ variableNames.take 5,
        name ≠ "REPO_OWNER".toList ∧ name ≠ "REPO_NAME".toList := by decide
    have hvariables : ∀ name ∈ variableNames.take 5, env name = env' name :=
      fun name hmem => hsame name (hnames name hmem).1 (hnames name hmem).2
    simp only [variableNames, List.map_cons, List.take_succ_cons, List.forall_mem_cons]
      at hvariables
    obtain ⟨hci, hdir, hname, hbuild, hnumber, -⟩ := hvariables
    exact ofEnvironment_congr hci hdir fun _ => ⟨.of_eq hname, .of_eq hbuild, .of_eq hnumber,
      fun hset => absurd hset hunset, fun hset => absurd hset hunset⟩
  case others =>
    intro env' hsame
    simp only [variableNames, List.map_cons, List.forall_mem_cons] at hsame
    obtain ⟨hci, hdir, hname, hbuild, hnumber, howner, hrepo, -⟩ := hsame
    exact ofEnvironment_congr hci hdir fun _ => ⟨.of_eq hname, .of_eq hbuild, .of_eq hnumber,
      fun _ => .of_eq howner, fun _ => .of_eq hrepo⟩

/-- A CI job without a pull request.  One environment names its root and leaves the other variables
unset; the other one finds the root in the working directory, has empty variables, and names the
owner of a repository. -/
theorem decided_by_environment_with_empty_variables :
    let env : Environment := fun name =>
      if name = "CI".toList then some "true".toList
      else if name = "ARTIFACT_DIR".toList then some "w/tmp".toList
      else none
    let env' : Environment := fun name =>
      if name = "CI".toList then some "true".toList
      else if name = "REPO_OWNER".toList then some "o".toList
      else if name = "HOME".toList then some "h".toList
      else some []
    env.IsCi ∧ ¬ env.IsSet "PULL_NUMBER" ∧
      ofEnvironment env ⟨['w']⟩ = ofEnvironment env' ⟨['w']⟩ := by
  intro env env'
  have hci : env.IsCi := rfl
  have hci' : env'.IsCi := rfl
  have hunset : ¬ env.IsSet "PULL_NUMBER" := by
    rintro ⟨value, -, h⟩
    cases h
  have hempty : ∀ name : String, env name.toList = none → env' name.toList = some [] →
      env.Agrees env' name := by
    intro name hnone hnil value hne
    rw [hnone, hnil]
    simp [hne.symm]
  have hjob : env.SameJob env' := ⟨hempty "JOB_NAME" rfl rfl, hempty "BUILD_ID" rfl rfl,
    hempty "PULL_NUMBER" rfl rfl, fun hset => absurd hset hunset, fun hset => absurd hset hunset⟩
  have hsame := ((decided_by_environment env ⟨['w']⟩).1 env').2
    ⟨rfl, ⟨fun _ => hci', fun _ => hci⟩, fun _ => hjob⟩
  exact ⟨hci, hunset, hsame⟩

end Settings

end Evidence
