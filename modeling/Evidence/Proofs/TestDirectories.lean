import Evidence.Proofs.DirectoryNames
import Evidence.Proofs.TouchedTree

/-!
# Directories of tests

The directory of a test is one step below the root of all artifacts, and what is stored for the test
stays in it, unless the name of the test is empty or means a directory itself or the one above.

Main definitions:

- `Path.IsComponent`: a name that is one ordinary component of a path.
- `CommandLine.Command.WritesForTest`: the commands that store what belongs to a test.

Main results:

- `TestName.isComponent_directory_iff`: which tests have a directory name that is a component.
- `Program.files_for_test`: where the files of a test are.
-/

namespace Evidence

/-! ## Directory names -/

/-- A name that is one ordinary component of a path. -/
structure Path.IsComponent (name : Text) : Prop where
  ne_nil : name ≠ []
  ordinary : Location.IsOrdinary name
  plain : '/' ∉ name
  clean : '\x00' ∉ name

namespace TestName

variable {name t : Text} {c : Char}

/-- Points come from points only. -/
theorem sanitize_eq_iff (ht : ∀ c ∈ t, c = '.') : sanitize name = t ↔ name = t := by
  have hpoint : ∀ c : Char, (if isSafe c then c else '-') = '.' → c = '.' := by
    intro c h
    split at h
    · exact h
    · cases h
  constructor
  · intro h
    have hname : ∀ c ∈ name, c = '.' := fun c hc =>
      hpoint c (ht _ (h ▸ List.mem_map_of_mem hc))
    rw [← h, sanitize_eq_self fun c hc => hname c hc ▸ rfl]
  · rintro rfl
    exact sanitize_eq_self fun c hc => ht c hc ▸ rfl

/-- A directory name of points alone is that of the test with this name. -/
theorem directory_eq_iff (ht : ∀ c ∈ t, c = '.') (hshort : t.length ≤ limit) :
    directory name = t ↔ name = t := by
  rw [directory]
  split
  · exact sanitize_eq_iff ht
  · next hlong =>
    constructor
    · intro h
      have hdash : '-' ∈ t := by
        rw [← h]
        simp
      exact absurd (ht _ hdash) (by decide)
    · rintro rfl
      exact absurd hshort hlong

/-- The directory name of a test is a component unless the test is called nothing, `.` or `..`. -/
theorem isComponent_directory_iff :
    Path.IsComponent (directory name) ↔ name ≠ [] ∧ Location.IsOrdinary name := by
  have hnil : directory name = [] ↔ name = [] := directory_eq_iff (by simp) (by decide)
  have hhere : directory name = Path.here ↔ name = Path.here :=
    directory_eq_iff (by simp [Path.here]) (by decide)
  have habove : directory name = Path.above ↔ name = Path.above :=
    directory_eq_iff (by simp [Path.above]) (by decide)
  constructor
  · intro h
    exact ⟨fun heq => h.ne_nil (hnil.2 heq), fun heq => h.ordinary.1 (hhere.2 heq),
      fun heq => h.ordinary.2 (habove.2 heq)⟩
  · rintro ⟨hne, hord⟩
    exact ⟨fun heq => hne (hnil.1 heq), ⟨fun heq => hord.1 (hhere.1 heq),
      fun heq => hord.2 (habove.1 heq)⟩,
      fun hmem => absurd (isSafe_of_mem_directory hmem) (by decide),
      fun hmem => absurd (isSafe_of_mem_directory hmem) (by decide)⟩

end TestName

/-! ## Where the artifacts of a test go -/

namespace Settings

variable {testName : Text}

/-- The directory of a test is the root, followed by the directory name of the test. -/
theorem names_testDir (s : Settings) (h : Path.IsComponent (TestName.directory testName)) :
    (s.testDir (some testName)).names = s.root.names ++ [TestName.directory testName] := by
  have hhead : (TestName.directory testName).head? ≠ some '/' := fun heq =>
    h.plain (List.mem_of_head? heq)
  rw [testDir, Path.names_join hhead, Path.names_of_not_mem h.plain h.ne_nil]

/-- The directory of a test is one step below the root. -/
theorem location_testDir (s : Settings) (cwd : Location)
    (h : Path.IsComponent (TestName.directory testName)) :
    (s.testDir (some testName)).location cwd
      = TestName.directory testName :: s.root.location cwd :=
  Path.location_join h.plain h.ne_nil h.ordinary

end Settings

/-- The commands that store what belongs to a test in the directory of the test. -/
def CommandLine.Command.WritesForTest (testName : Text) : CommandLine.Command → Prop
  | .collect _ _ outputDir name => outputDir = none ∧ name = some testName
  | .report _ name _ _ _ _ write => name = testName ∧ write = true
  | .dumpPods _ _ name => name = some testName
  | .filter .. => False
  | .storeControllerLogs _ => False

namespace Program

open CommandLine

theorem directory?_of_writesForTest {settings : Settings} {testName : Text} {command : Command}
    {dir : Path} (h : command.WritesForTest testName)
    (hdir : Footprint.directory? settings command = some dir) :
    dir = settings.testDir (some testName) := by
  cases command with
  | collect cluster since outputDir name =>
    rcases h with ⟨rfl, rfl⟩
    exact (Option.some.inj hdir).symm
  | filter since file => cases h
  | report cluster name startedAt endedAt passed skipLogs write =>
    rcases h with ⟨rfl, rfl⟩
    rw [Footprint.directory?] at hdir
    split at hdir
    · exact (Option.some.inj hdir).symm
    · cases hdir
  | storeControllerLogs cluster => cases h
  | dumpPods ns context name =>
    obtain rfl : name = some testName := h
    exact (Option.some.inj hdir).symm

/-- A test whose name is not empty, `.` or `..` has a directory one step below the root, and every
file that a command creates or changes for the test is there: under a plain name directly in that
directory.

The other three tests have no directory of their own.  That of the empty name and that of `.` are
the root, and that of `..` is the directory above the root. -/
theorem files_for_test (testName : Text) :
    (Path.IsComponent (TestName.directory testName) ↔
      testName ≠ [] ∧ testName ≠ Path.here ∧ testName ≠ Path.above) ∧
    (testName ≠ [] ∧ testName ≠ Path.here ∧ testName ≠ Path.above →
      (∀ s : Settings, (s.testDir (some testName)).names
        = s.root.names ++ [TestName.directory testName]) ∧
      ∀ (w : World) (command : Command), command.WritesForTest testName →
        ∀ loc mode content, (perform w command).tree.find? loc = some (.file mode content) →
          w.tree.find? loc = some (.file mode content) ∨
          ∃ name ∈ Footprint.names command,
            loc = ((w.settings.testDir (some testName)).join name).location w.cwd ∧
            ('/' ∉ name →
              loc = name :: TestName.directory testName :: w.settings.root.location w.cwd)) ∧
    (testName = [] ∨ testName = Path.here → ∀ (s : Settings) (cwd : Location),
      (s.testDir (some testName)).location cwd = s.root.location cwd) ∧
    (testName = Path.above → ∀ (s : Settings) (cwd : Location),
      (s.testDir (some testName)).location cwd = (s.root.location cwd).tail) := by
  refine ⟨TestName.isComponent_directory_iff, fun hname => ?_, ?_, ?_⟩
  · have hcomponent := TestName.isComponent_directory_iff.2 hname
    refine ⟨fun s => s.names_testDir hcomponent, fun w command hwrites loc mode content hfind => ?_⟩
    rcases find?_perform_cases w command loc with hsame | ⟨dir, hdir, hmade | hwritten⟩
    · exact .inl (hsame ▸ hfind)
    · simp [hfind] at hmade
    · obtain rfl := directory?_of_writesForTest hwrites hdir
      obtain ⟨name, hmem, hloc, hleads, -⟩ := hwritten
      refine .inr ⟨name, hmem, hloc, fun hplain => ?_⟩
      obtain ⟨hne, hord⟩ := Artifacts.ordinary_of_leadsToFile hplain hleads
      rw [hloc, Path.location_join hplain hne hord, w.settings.location_testDir w.cwd hcomponent]
  · rintro (rfl | rfl) s cwd
    · exact Path.location_join_eq_follow (by decide)
    · exact Path.location_join_eq_follow (by decide)
  · rintro rfl s cwd
    exact Path.location_join_eq_follow (by decide)

/-- The report on a test that is called `..` is stored above the root. -/
theorem report_above_root :
    let plain : World :=
      .plain (.ofFound [([['w']], .directory 0o755)]) (.outside none) ⟨0, 0, by decide⟩
    let w : World := { plain with cwd := [['w']] }
    let command : Command := .report ⟨[], none⟩ ['.', '.'] ⟨0, 0, by decide⟩ none false true true
    command.WritesForTest ['.', '.'] ∧ ¬ Path.IsComponent (TestName.directory ['.', '.']) ∧
      w.settings.root.location w.cwd = ["tmp".toList, ['w']] ∧
      w.tree.find? ["failure-report.txt".toList, ['w']] = none ∧
      ((perform w command).tree.find? ["failure-report.txt".toList, ['w']]).isSome := by
  intro plain w command
  refine ⟨⟨rfl, rfl⟩, fun h => h.ordinary.2 rfl, ?_, ?_, ?_⟩
  · decide
  · decide
  · decide

end Program

end Evidence
