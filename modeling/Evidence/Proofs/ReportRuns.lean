import Evidence.Proofs.ReportText
import Evidence.Proofs.TouchedTree

/-!
# Runs that report

A report on a failed run is printed first and stored afterwards, so that it is not lost when it
cannot be stored.  Before anything else the source of the logs is set up, even when the test passed
and there is nothing to report.

Main definitions:

- `Program.Asks`: what source a report asks for logs.
- `Outcome.AfterStoring`: how a run ends that has to store one file.

Main results:

- `Artifacts.save_single_cases`: the three ways in which the storing of one artifact ends.
- `Program.report_of_failed`: what is done on a failed run.
- `Program.report_of_passed`: what is done on a run that passed.
- `Program.printed_and_stored`: the printed report and the stored one.
- `Program.nothing_on_passed`: what is left of a report on a test that passed.
-/

namespace Evidence

open CommandLine Kubernetes FileTree

/-! ## Storing one artifact -/

namespace Artifacts

variable {settings : Settings} {testName : Option Text} {base : Option Path} {dir : Path}

/-- The directory of one artifact cannot be made, or its file cannot be written, or it is stored. -/
theorem save_single_cases (name : Text) (content : Blob) (cwd : Location) (tree : FileTree)
    (hdir : base.getD (settings.testDir testName) = dir) :
    (∃ cause, (tree.makeDirectories cwd dir).2 = some cause ∧
      (single name content).save settings testName base cwd tree
        = ((tree.makeDirectories cwd dir).1, .error (.directory dir cause))) ∨
    (∃ cause, (tree.makeDirectories cwd dir).2 = none ∧
      (tree.makeDirectories cwd dir).1.writeFile cwd (dir.join name) content = .error cause ∧
      (single name content).save settings testName base cwd tree
        = ((tree.makeDirectories cwd dir).1, .error (.file (dir.join name) cause))) ∨
    ∃ after, (tree.makeDirectories cwd dir).2 = none ∧
      (tree.makeDirectories cwd dir).1.writeFile cwd (dir.join name) content = .ok after ∧
      (single name content).save settings testName base cwd tree = (after, .ok dir) := by
  have hentries : (single name content).entries = [(name, content)] := rfl
  rw [save, store_eq, hdir, hentries]
  rcases tree.makeDirectories cwd dir with ⟨made, refused⟩
  cases refused with
  | some cause => exact .inl ⟨cause, rfl, rfl⟩
  | none =>
    right
    simp only [write]
    cases hwrite : made.writeFile cwd (dir.join name) content with
    | error cause => exact .inl ⟨cause, trivial, rfl, rfl⟩
    | ok after => exact .inr ⟨after, trivial, rfl, rfl⟩

end Artifacts

/-- A refusal to store begins what a run says at its end. -/
theorem Ending.message_ofSave_error (e : StoreError) :
    "Error: ".toList ++ e.message <+: (Ending.ofSave (.error e)).message := by
  have hreport : (Ending.ofSave (.error e)).message
      = "Error: ".toList ++ e.message ++ '\n' :: Failure.causesText [e.reason] := rfl
  rw [hreport]
  exact List.prefix_append _ _

/-- How a run ends that has to store a content in a file of a directory, making the directory
first. -/
inductive Outcome.AfterStoring (ran : Outcome) (w : World) (dir : Path) (name : Text)
    (content : Blob) : Prop where
  /-- The directory could not be made, which is what the run says. -/
  | noDirectory {cause : Cause}
      (refused : (w.tree.makeDirectories w.cwd dir).2 = some cause)
      (code : ran.ending.code = 1)
      (message : "Error: failed to create artifact directory ".toList ++ dir.text ++ ": ".toList
        ++ cause.message <+: ran.ending.message)
  /-- The file could not be written, which is what the run says. -/
  | noFile {cause : Cause}
      (made : (w.tree.makeDirectories w.cwd dir).2 = none)
      (refused : (w.tree.makeDirectories w.cwd dir).1.writeFile w.cwd (dir.join name) content
        = .error cause)
      (code : ran.ending.code = 1)
      (message : "Error: failed to write artifact ".toList ++ (dir.join name).text ++ ": ".toList
        ++ cause.message <+: ran.ending.message)
  /-- The file was written, and holds the content. -/
  | stored
      (made : (w.tree.makeDirectories w.cwd dir).2 = none)
      (written : (w.tree.makeDirectories w.cwd dir).1.writeFile w.cwd (dir.join name) content
        = .ok ran.tree)
      (code : ran.ending.code = 0)
      (held : ran.tree.readFile w.cwd (dir.join name) = .ok content)

namespace Program

/-! ## The source of a report -/

/-- What source a report asks for logs: none if it is to skip them, else the server that the cluster
is found under. -/
inductive Asks (w : World) (cluster : ClusterChoice) :
    (skipLogs : Bool) → Option (PodSource (List Request)) → Prop where
  /-- No logs are to be shown. -/
  | skipped : Asks w cluster true none
  /-- The server of the context is asked. -/
  | connected {server : Server}
      (h : w.access.connect cluster.context = .ok server) :
      Asks w cluster false (some server.source)

variable {w : World} {cluster : ClusterChoice} {r : TestRun} {skipLogs : Bool}
  {source : Option (PodSource (List Request))} {why : Failure}

/-- What is asked for logs has nothing to do with the tree. -/
theorem Asks.withTree (h : Asks w cluster skipLogs source) (tree : FileTree) :
    Asks { w with tree } cluster skipLogs source := by
  cases h with
  | skipped => exact .skipped
  | connected h => exact .connected h

/-- Where there is a source to ask and one is needed, there is a server. -/
theorem Asks.connect_ne (h : Asks w cluster skipLogs source) (hneeded : skipLogs = false)
    (why : Failure) : w.access.connect cluster.context ≠ .error why := by
  intro hrefused
  cases h with
  | skipped => cases hneeded
  | connected h => cases h.symm.trans hrefused

/-- A source that a report asks is the one that is set up for it. -/
theorem reportSource_of_asks (h : Asks w cluster skipLogs source) :
    reportSource w cluster skipLogs = .ok source := by
  unfold reportSource
  cases h with
  | skipped => simp
  | connected h => simp [h, Except.map]

/-- There is a source to ask, or there is no server and one is needed. -/
theorem asks_or_refused (w : World) (cluster : ClusterChoice) (skipLogs : Bool) :
    (∃ source, Asks w cluster skipLogs source) ∨
      skipLogs = false ∧ ∃ why, w.access.connect cluster.context = .error why := by
  cases skipLogs with
  | true => exact .inl ⟨none, .skipped⟩
  | false =>
    cases h : w.access.connect cluster.context with
    | ok server => exact .inl ⟨_, .connected h⟩
    | error why => exact .inr ⟨rfl, why, rfl⟩

/-! ## Reporting -/

/-- A report on a failed run is printed, and stored behind that if it is asked for. -/
theorem report_of_failed (hasks : Asks w cluster skipLogs source) (h : r.failed = true)
    (write : Bool) :
    let made := Report.entries source cluster.asked w.settings r []
    let output := Report.render made.1 ++ ['\n']
    let saved := (Report.artifacts made.1).save w.settings (some r.name) none w.cwd w.tree
    report w cluster r skipLogs write
      = if write then ⟨.ofSave saved.2, output, saved.1, made.2⟩
        else ⟨.done, output, w.tree, made.2⟩ := by
  intro made output saved
  have hsome : made.1.isEmpty = false := by
    simp only [made, Report.entries_of_failed h]
    rfl
  have hreport : report w cluster r skipLogs write
      = if made.1.isEmpty then { w.untouched .done with requests := made.2 }
        else if write then ⟨.ofSave saved.2, output, saved.1, made.2⟩
        else ⟨.done, output, w.tree, made.2⟩ := by
    unfold report
    rw [reportSource_of_asks hasks]
    rfl
  rw [hreport, hsome, if_neg Bool.false_ne_true]

/-- What is printed on a failed run does not depend on whether it is stored as well. -/
theorem output_report (hasks : Asks w cluster skipLogs source) (h : r.failed = true)
    (write : Bool) : (report w cluster r skipLogs write).output
      = Report.render (Report.entries source cluster.asked w.settings r []).1 ++ ['\n'] := by
  rw [report_of_failed hasks h]
  split <;> rfl

/-- On a run that passed nothing is done once the source is there. -/
theorem report_of_passed (hasks : Asks w cluster skipLogs source) (h : r.failed = false)
    (write : Bool) : report w cluster r skipLogs write = w.untouched .done := by
  have hnone : Report.entries source cluster.asked w.settings r [] = ([], []) :=
    Report.entries_of_not_failed h source cluster.asked []
  unfold report
  rw [reportSource_of_asks hasks]
  simp only [StateT.run, hnone]
  rfl

/-- After a report is printed its storing ends in one of three ways, and what is stored is what was
printed without the line feed at its end. -/
theorem afterStoring_report (hasks : Asks w cluster skipLogs source) (h : r.failed = true) :
    (report w cluster r skipLogs true).AfterStoring w (w.settings.testDir (some r.name))
      Report.artifactName (Utf8.encode (report w cluster r skipLogs true).output.dropLast) := by
  rw [report_of_failed hasks h, if_pos rfl, List.dropLast_concat]
  generalize Report.entries source cluster.asked w.settings r [] = made
  have hdir : (none : Option Path).getD (w.settings.testDir (some r.name))
      = w.settings.testDir (some r.name) := rfl
  obtain ⟨cause, hmade, hsave⟩ | ⟨cause, hmade, hwrite, hsave⟩ | ⟨after, hmade, hwrite, hsave⟩ :=
    Artifacts.save_single_cases Report.artifactName (Utf8.encode (Report.render made.1)) w.cwd
      w.tree hdir
  all_goals
    simp only [Report.artifacts, hsave]
  · exact .noDirectory hmade rfl (Ending.message_ofSave_error (.directory _ cause))
  · exact .noFile hmade hwrite rfl (Ending.message_ofSave_error (.file _ cause))
  · exact .stored hmade hwrite rfl (readFile_writeFile hwrite)

/-! ## Whole runs -/

/-- The report on a failed run is printed as its sections are rendered, with a line feed behind it.

The same is printed whether or not the report is to be stored and whatever the tree is, hence
whether or not it can be stored, as long as the working directory is there.  What is stored in the
directory of the test is what was printed without the line feed.  A directory or a file that is
refused is named at the end of the run, with exit code 1. -/
theorem printed_and_stored (ts ts' : List Text) (w : World) (tree' : FileTree)
    {cluster : ClusterChoice} {testName : Text} {startedAt endedAt : Instant}
    {skipLogs write write' verbose verbose' : Bool} {source : Option (PodSource (List Request))}
    (hparse : Invocation.parse ts
      = .ok ⟨.report cluster testName startedAt (some endedAt) false skipLogs write, verbose⟩)
    (hparse' : Invocation.parse ts'
      = .ok ⟨.report cluster testName startedAt (some endedAt) false skipLogs write', verbose'⟩)
    (hcwd : w.tree.IsDirectory w.cwd) (hcwd' : tree'.IsDirectory w.cwd)
    (hasks : Asks w cluster skipLogs source) :
    let ran := run ts w
    let entries := (Report.entries source cluster.asked w.settings
      ⟨testName, startedAt, endedAt, true⟩ []).1
    ran.output = Report.render entries ++ ['\n'] ∧
    (run ts' { w with tree := tree' }).output = ran.output ∧
    (write = false → ran.ending = .done) ∧
    (write = true → ran.AfterStoring w (w.settings.testDir (some testName))
      "failure-report.txt".toList (Utf8.encode ran.output.dropLast)) := by
  intro ran entries
  have hran : ran = report w cluster ⟨testName, startedAt, endedAt, true⟩ skipLogs write :=
    run_of_isDirectory hparse hcwd
  have hran' : run ts' { w with tree := tree' } = report { w with tree := tree' } cluster
      ⟨testName, startedAt, endedAt, true⟩ skipLogs write' :=
    run_of_isDirectory hparse' hcwd'
  rw [hran, hran', output_report hasks rfl, output_report (hasks.withTree tree') rfl]
  refine ⟨rfl, rfl, ?_, ?_⟩
  · rintro rfl
    rw [report_of_failed hasks rfl, if_neg Bool.false_ne_true]
  · rintro rfl
    let r : TestRun := ⟨testName, startedAt, endedAt, true⟩
    have hfailed : r.failed = true := rfl
    have hstored := afterStoring_report hasks hfailed
    rwa [output_report hasks hfailed] at hstored

/-- A report with logs is printed, and stored where nothing is in the way.  In another tree a file
is in the way of the directory, so that it is not stored; the same is printed there. -/
theorem printed_and_stored_with_logs :
    let ts := ["report", "--test-name=t", "--started-at=1970-01-01T00:00:00Z",
      "--ended-at=1970-01-01T00:01:00Z", "--namespace=n", "--write"].map String.toList
    let container : Yaml.Value := .record [("name".toList, .text ['c'])]
    let pod : Pod := ⟨[("metadata".toList, .record [("name".toList, .text ['p'])]),
      ("spec".toList, .record [("containers".toList, .list [container])])]⟩
    let server : Server := ⟨fun _ => .ok [pod],
      fun _ _ _ => .ok (Utf8.encode "old\n1970-01-01T00:00:30Z new".toList)⟩
    let w : World :=
      .plain (.ofFound []) (.outside (some ⟨['c'], fun _ => some server⟩)) ⟨0, 0, by decide⟩
    let blocked : FileTree := .ofFound [(["tmp".toList], .file 0o644 [])]
    let ran := run ts w
    let refused := run ts { w with tree := blocked }
    "[n]\n\n========= n =========\n\n1970-01-01T00:00:30Z new\n".toList <:+: ran.output ∧
      ran.ending.code = 0 ∧
      ran.tree.readFile [] ⟨"/tmp/t/failure-report.txt".toList⟩
        = .ok (Utf8.encode ran.output.dropLast) ∧
      refused.output = ran.output ∧ refused.ending.code = 1 ∧
      "Error: failed to create artifact directory /tmp/t: Not a directory".toList
        <+: refused.ending.message := by
  intro ts container pod server w blocked ran refused
  have hparse : Invocation.parse ts = .ok ⟨.report ⟨[⟨['n'], ['n']⟩], none⟩ ['t']
      ⟨0, 0, by decide⟩ (some ⟨60, 0, by decide⟩) false false true, false⟩ := by
    decide +kernel
  have hasks : Asks w ⟨[⟨['n'], ['n']⟩], none⟩ false (some server.source) := .connected rfl
  obtain ⟨-, hprinted, -, hstoring⟩ :=
    printed_and_stored ts ts w blocked hparse hparse rfl rfl hasks
  obtain ⟨-, -, -, hblocked⟩ := printed_and_stored ts ts { w with tree := blocked } w.tree hparse
    hparse rfl rfl (hasks.withTree blocked)
  have hway : (blocked.makeDirectories [] (w.settings.testDir (some ['t']))).2
      = some .notDirectory := by
    decide +kernel
  have hwords : "Error: failed to create artifact directory /tmp/t: Not a directory".toList
      <+: "Error: failed to create artifact directory ".toList
        ++ (w.settings.testDir (some ['t'])).text ++ ": ".toList ++ Cause.notDirectory.message := by
    decide +kernel
  have hfree : (w.tree.makeDirectories [] (w.settings.testDir (some ['t']))).2 = none := by
    decide +kernel
  have hstored : ran.ending.code = 0 ∧ ran.tree.readFile [] ⟨"/tmp/t/failure-report.txt".toList⟩
      = .ok (Utf8.encode ran.output.dropLast) := by
    cases hstoring rfl with
    | noDirectory refused => cases hfree.symm.trans refused
    | noFile made refused code => exact absurd code (by decide +kernel)
    | stored made written code held => exact ⟨code, held⟩
  refine ⟨by decide +kernel, hstored.1, hstored.2, hprinted, ?_⟩
  cases hblocked rfl with
  | noDirectory refused code message =>
    obtain rfl := Option.some.inj (hway.symm.trans refused)
    exact ⟨code, hwords.trans message⟩
  | noFile made => cases hway.symm.trans made
  | stored made => cases hway.symm.trans made

/-- On a test that passed nothing is printed, nothing is stored and nothing is sent, whatever else
the words ask for.

The run ends well when there is a source to ask for logs or none is needed, in a working directory
that is there.  Without a server it is refused all the same, although nothing would be asked. -/
theorem nothing_on_passed (ts : List Text) (w : World) {cluster : ClusterChoice} {testName : Text}
    {startedAt : Instant} {endedAt : Option Instant} {skipLogs write verbose : Bool}
    (hparse : Invocation.parse ts
      = .ok ⟨.report cluster testName startedAt endedAt true skipLogs write, verbose⟩) :
    let ran := run ts w
    ran.output = [] ∧ ran.tree = w.tree ∧ ran.requests = [] ∧
    (w.tree.IsDirectory w.cwd →
      (∀ source, Asks w cluster skipLogs source → ran.ending = .done) ∧
      ∀ why, skipLogs = false → w.access.connect cluster.context = .error why →
        ran.ending = .failed why) ∧
    (ran.ending.code = 0 ↔
      w.tree.IsDirectory w.cwd ∧ ∃ source, Asks w cluster skipLogs source) := by
  intro ran
  have hran : ran = _ := run_of_command hparse
  by_cases hcwd : w.tree.IsDirectory w.cwd
  · rw [if_pos hcwd] at hran
    obtain ⟨source, hasks⟩ | ⟨hneeded, why, hconnect⟩ := asks_or_refused w cluster skipLogs
    · let r : TestRun := ⟨testName, startedAt, endedAt.getD w.now, false⟩
      have hfailed : r.failed = false := rfl
      have hdone : ran = w.untouched .done := hran.trans (report_of_passed hasks hfailed write)
      rw [hdone]
      refine ⟨rfl, rfl, rfl, fun _ => ⟨fun _ _ => rfl, ?_⟩, iff_of_true rfl ⟨hcwd, source, hasks⟩⟩
      intro why hneeded hconnect
      exact absurd hconnect (hasks.connect_ne hneeded why)
    · have hrefused : ran = w.untouched (.failed why) :=
        hran.trans (perform_eq_of_connects ⟨hneeded, rfl⟩ hconnect)
      have hnone : ∀ source, ¬ Asks w cluster skipLogs source :=
        fun source hasks => hasks.connect_ne hneeded why hconnect
      rw [hrefused]
      refine ⟨rfl, rfl, rfl, fun _ => ⟨fun source hasks => absurd hasks (hnone source), ?_⟩,
        iff_of_false Nat.one_ne_zero fun h => hnone _ h.2.choose_spec⟩
      intro why' _ hconnect'
      rw [Except.error.inj (hconnect.symm.trans hconnect')]
      rfl
  · rw [if_neg hcwd] at hran
    rw [hran]
    exact ⟨rfl, rfl, rfl, fun h => absurd h hcwd, iff_of_false Nat.one_ne_zero fun h => hcwd h.1⟩

/-- A server that cannot be reached is enough for a test that passed, as nothing is sent to it. -/
theorem nothing_on_passed_with_unreachable_server :
    let ts := ["report", "--test-name=t", "--started-at=1970-01-01T00:00:00Z", "--passed",
      "--write"].map String.toList
    let w : World := .plain (.ofFound [])
      (.outside (some ⟨"main".toList, fun _ => some Server.unreachable⟩)) ⟨60, 0, by decide⟩
    (run ts w).ending.code = 0 ∧ (run ts w).output = [] ∧ (run ts w).requests = [] := by
  intro ts w
  have hparse : Invocation.parse ts
      = .ok ⟨.report ⟨[], none⟩ ['t'] ⟨0, 0, by decide⟩ none true false true, false⟩ := by
    decide +kernel
  obtain ⟨houtput, -, hrequests, hending, -⟩ := nothing_on_passed ts w hparse
  have hdone : (run ts w).ending = .done := (hending rfl).1 _ (.connected rfl)
  rw [hdone]
  exact ⟨rfl, houtput, hrequests⟩

/-- Outside of clusters, a report on a test that passed is refused without a kubeconfig. -/
theorem passed_test_refused_without_kubeconfig :
    let ts := ["report", "--test-name", "build test", "--started-at", "2023-01-01T00:00:03Z",
      "--ended-at", "2023-01-01T00:01:00Z", "--passed"].map String.toList
    let w : World := .plain (.ofFound []) (.outside none) ⟨0, 0, by decide⟩
    (∃ cluster testName startedAt endedAt, Invocation.parse ts
      = .ok ⟨.report cluster testName startedAt endedAt true false false, false⟩) ∧
    (run ts w).ending.code = 1 := by
  intro ts w
  have hparse : Invocation.parse ts
      = .ok ⟨.report ⟨[], none⟩ "build test".toList ⟨1672531203, 0, by decide⟩
        (some ⟨1672531260, 0, by decide⟩) true false false, false⟩ := by
    decide +kernel
  exact ⟨⟨_, _, _, _, hparse⟩, by decide +kernel⟩

end Program

end Evidence
