import Evidence.Program
import Evidence.Proofs.AskedNamespaces
import Evidence.Proofs.ReportText
import Evidence.Proofs.Storing
import Evidence.Proofs.Transcript

/-!
# The evidence in a report

A report on a failed run shows the logs that a collection from the start of the run on would store.
Both put the same questions to the source, so that they differ at most in how they are handed out:
as sections of one text, or as files.

Main results:

- `Collection.ofNamespaces_recorded_fst`: to keep the questions does not change what is collected.
- `Collection.get?_artifacts_of_nodup`: without repeats every collected text is an artifact.
- `Artifacts.written_of_save`: every artifact is written in its turn when all are stored.
- `Report.entries_carry_evidence`: what the sections of a report are.
- `Program.sections_of_collect`: what the files of a collection from the start of a run on hold.
-/

namespace Evidence

open CommandLine

variable {σ : Type} {source : PodSource σ}

/-! ## What is collected -/

namespace Collection

variable {capture : Capture} {logs : List NamespaceLog} {log : NamespaceLog}

/-- To keep the questions does not change what is collected. -/
theorem ofNamespaces_recorded_fst (source : PodSource σ) (capture : Capture)
    (namespaces : List ControllerNamespace) (s : σ) (calls : List Call) :
    (ofNamespaces source.recorded capture namespaces (s, calls)).1
      = (ofNamespaces source capture namespaces s).1 := by
  obtain ⟨visits, s', hvisits, h⟩ := exists_visits source namespaces s
  rw [ofNamespaces_eq_of_answers hvisits h, ofNamespaces_eq_of_answers hvisits (h.recorded calls)]

/-- What is collected from a steady source does not depend on what it was asked before. -/
theorem ofNamespaces_fst_congr (h : source.IsSteady) (capture : Capture)
    (namespaces : List ControllerNamespace) (s s' : σ) :
    (ofNamespaces source capture namespaces s).1
      = (ofNamespaces source capture namespaces s').1 := by
  rw [ofNamespaces_of_isSteady h namespaces s s, ofNamespaces_of_isSteady h namespaces s' s]

/-- Without repeats every text that was collected is the artifact of its namespace. -/
theorem get?_artifacts_of_nodup (h : (logs.map fun log => log.ns.name).Nodup) (hlog : log ∈ logs) :
    (artifacts logs).get? (artifactName log.ns.name) = some (Utf8.encode log.text) := by
  rw [get?_artifacts]
  cases hfind : logs.reverse.find? fun other => other.ns.name = log.ns.name with
  | none =>
    have habsent := List.find?_eq_none.1 hfind log (List.mem_reverse.2 hlog)
    simp at habsent
  | some other =>
    have hname : other.ns.name = log.ns.name := by simpa using List.find?_some hfind
    have hother : other ∈ logs := List.mem_reverse.1 (List.mem_of_find?_eq_some hfind)
    rw [List.inj_on_of_nodup_map h hother hlog hname, Option.map_some]

end Collection

namespace Artifacts

variable {artifacts : Artifacts} {settings : Settings} {testName : Option Text} {base : Option Path}
  {cwd : Location} {tree after : FileTree} {dir : Path} {name : Text} {content : Blob}

/-- When artifacts are stored each of them is written in its turn.  It is still there in the end if
no other artifact has a path to the same file. -/
theorem written_of_save (h : artifacts.save settings testName base cwd tree = (after, .ok dir))
    (hget : artifacts.get? name = some content) :
    ∃ before stored,
      (artifacts.below name).save settings testName base cwd tree = (before, .ok dir) ∧
      before.writeFile cwd (dir.join name) content = .ok stored ∧
      stored.readFile cwd (dir.join name) = .ok content ∧
      ((∀ e ∈ artifacts.entries, e.1 ≠ name →
        (dir.join e.1).location cwd ≠ (dir.join name).location cwd) →
        after.readFile cwd (dir.join name) = .ok content) := by
  obtain ⟨hdir, hmade, hwrite⟩ := save_eq_ok_iff.1 h
  have hmem := SortedMap.mem_entries_iff.2 hget
  obtain ⟨before, stored, hbelow, hstep, hread, hlater⟩ :=
    stored_of_mem_front (List.append_nil _).symm hdir hmade hwrite hmem
  refine ⟨before, stored, hbelow, hstep, hread, fun hapart => hlater fun e he hlt heq => ?_⟩
  have hne : e.1 ≠ name := by
    intro hname
    simp [hname, Std.ReflOrd.compare_self] at hlt
  exact hapart e he hne heq.symm

end Artifacts

namespace Report

/-! ## The sections of a report -/

/-- The sections with logs are named after the namespaces, whatever their labels are. -/
theorem map_name_logEntry (source : PodSource σ) (namespaces : List ControllerNamespace)
    (run : TestRun) (s : σ) :
    ((logs (some source) namespaces run s).1.map logEntry).map Entry.name
      = namespaces.map ControllerNamespace.name := by
  rw [← Collection.map_name_ofNamespaces source (.since run.startedAt) namespaces s, List.map_map]
  rfl

/-- A report shows the logs that a collection without the questions gives at any time. -/
theorem logs_recorded (h : source.IsSteady) (namespaces : List ControllerNamespace)
    (run : TestRun) (s s' : σ) :
    (logs (some source.recorded) namespaces run (s, [])).1
      = (Collection.ofNamespaces source (.since run.startedAt) namespaces s').1 := by
  have hkept := Collection.ofNamespaces_recorded_fst source (.since run.startedAt) namespaces s []
  exact hkept.trans (Collection.ofNamespaces_fst_congr h (.since run.startedAt) namespaces s s')

/-- The logs that a report shows do not depend on when the run ended. -/
theorem logs_withEnd (source : Option (PodSource σ)) (namespaces : List ControllerNamespace)
    (run : TestRun) (endedAt : Instant) :
    logs source namespaces { run with endedAt } = logs source namespaces run := by
  cases source <;> rfl

/-- A section is what a collection stores when it is the artifact of its namespace.  Then it is what
is written to the file of that name when the artifacts are stored, and what the file holds in the
end if no other namespace has a path to it. -/
structure Entry.IsStored (collected : List NamespaceLog) (e : Entry) : Prop where
  artifact : (Collection.artifacts collected).get? (e.name ++ ".log".toList)
    = some (Utf8.encode e.body)
  file : ∀ (settings : Settings) (testName : Option Text) (base : Option Path) (cwd : Location)
    (tree after : FileTree) (dir : Path),
    (Collection.artifacts collected).save settings testName base cwd tree = (after, .ok dir) →
    ∃ before stored,
      ((Collection.artifacts collected).below (e.name ++ ".log".toList)).save settings testName base
        cwd tree = (before, .ok dir) ∧
      before.writeFile cwd (dir.join (e.name ++ ".log".toList)) (Utf8.encode e.body)
        = .ok stored ∧
      stored.readFile cwd (dir.join (e.name ++ ".log".toList)) = .ok (Utf8.encode e.body) ∧
      ((∀ log ∈ collected, log.ns.name ≠ e.name →
        (dir.join (log.ns.name ++ ".log".toList)).location cwd
          ≠ (dir.join (e.name ++ ".log".toList)).location cwd) →
        after.readFile cwd (dir.join (e.name ++ ".log".toList)) = .ok (Utf8.encode e.body))

/-- Without repeats the section of a namespace is what is stored for it. -/
theorem isStored_of_mem {collected : List NamespaceLog} {e : Entry}
    (h : (collected.map fun log => log.ns.name).Nodup) (he : e ∈ collected.map logEntry) :
    e.IsStored collected := by
  obtain ⟨log, hlog, rfl⟩ := List.mem_map.1 he
  have hget := Collection.get?_artifacts_of_nodup h hlog
  refine ⟨hget, fun settings testName base cwd tree after dir hsave => ?_⟩
  obtain ⟨before, stored, hbelow, hstep, hread, hlater⟩ := Artifacts.written_of_save hsave hget
  refine ⟨before, stored, hbelow, hstep, hread, fun hapart => hlater fun other hother hne => ?_⟩
  obtain ⟨owner, howner, rfl⟩ := Collection.exists_of_mem_artifacts hother
  exact hapart owner howner fun heq => hne (congrArg Collection.artifactName heq)

/-- The report on a failed run is the evidence that a collection from the start of the run on gives,
between the times of the run and the locations.

Nothing is reported on another run, and nothing is asked for it.  Without a source nothing is asked
either, and no logs are shown.  With one there is a section for each namespace, in their order and
under their names.  When the source is steady these sections hold what is collected for their
namespaces at any time, and without repeats each of them is byte for byte the artifact of its
namespace, which is written to the file of that name when the artifacts are stored, and is there in
the end if no other path leads to the file.  The end of the run shows in the times and in the
locations and nowhere else, and the two lines of the times stand in the locations as they are. -/
theorem entries_carry_evidence (source : Option (PodSource σ))
    (namespaces : List ControllerNamespace) (settings : Settings) (run : TestRun) (s : σ) :
    let made (run : TestRun) :=
      entries (source.map PodSource.recorded) namespaces settings run (s, [])
    (run.failed = false → made run = ([], s, [])) ∧
    (run.failed = true → ∃ times sections places,
      (made run).1 = times :: sections ++ [places] ∧
      times.name = "timing".toList ∧ places.name = "DEBUG".toList ∧
      (source = none → sections = [] ∧ (made run).2 = (s, [])) ∧
      (∀ asked, source = some asked →
        sections.map Entry.name = namespaces.map ControllerNamespace.name ∧
        (asked.IsSteady → ∀ s',
          let collected :=
            (Collection.ofNamespaces asked (.since run.startedAt) namespaces s').1
          sections.map Entry.body = collected.map NamespaceLog.text ∧
          ((namespaces.map ControllerNamespace.name).Nodup →
            ∀ e ∈ sections, e.IsStored collected))) ∧
      (∀ endedAt, ∃ times' places',
        made { run with endedAt } = (times' :: sections ++ [places'], (made run).2) ∧
        times'.name = times.name ∧ places'.name = places.name) ∧
      Text.lines times.body = ["Test started at ".toList ++ run.startedAt.text,
        "Test ended at ".toList ++ run.endedAt.text] ∧
      ∃ front back, Text.lines places.body = front ++ Text.lines times.body ++ back) := by
  intro made
  refine ⟨fun hpassed => entries_of_not_failed hpassed _ namespaces (s, []), fun hfailed => ?_⟩
  have hmade : made run = _ :=
    entries_of_failed hfailed (source.map PodSource.recorded) namespaces (s, [])
  refine ⟨_, _, _, congrArg Prod.fst hmade, rfl, rfl, ?_, ?_, ?_, lines_timing run, ?_⟩
  · rintro rfl
    exact ⟨rfl, congrArg Prod.snd hmade⟩
  · rintro asked rfl
    refine ⟨map_name_logEntry asked.recorded namespaces run (s, []), fun hsteady s' => ?_⟩
    intro collected
    have hlogs : (logs (some asked.recorded) namespaces run (s, [])).1 = collected :=
      logs_recorded hsteady namespaces run s s'
    have hnames : collected.map (fun log => log.ns.name)
        = namespaces.map ControllerNamespace.name :=
      Collection.map_name_ofNamespaces asked (.since run.startedAt) namespaces s'
    rw [Option.map_some, hlogs]
    have hbodies : (collected.map logEntry).map Entry.body = collected.map NamespaceLog.text := by
      rw [List.map_map]
      rfl
    exact ⟨hbodies, fun hnodup e he => isStored_of_mem (hnames ▸ hnodup) he⟩
  · intro endedAt
    have hfailed' : ({ run with endedAt } : TestRun).failed = true := hfailed
    have hlater : made { run with endedAt } = _ :=
      entries_of_failed hfailed' (source.map PodSource.recorded) namespaces (s, [])
    rw [logs_withEnd] at hlater
    rw [hmade]
    exact ⟨_, _, hlater, rfl, rfl⟩
  · obtain ⟨back, hlines⟩ := lines_locations settings run
    exact ⟨[rule], back, hlines⟩

/-- A source without a memory, and two namespaces: each has its section under its name, behind its
label, and what is stored for it is that section. -/
theorem entries_carry_evidence_of_two_namespaces :
    let source : PodSource Unit := .constant (fun _ => .ok [⟨['p'], [], [['c']]⟩])
      fun ns _ _ => .ok ("old\n1970-01-01T00:00:30Z new ".toList ++ ns)
    let namespaces : List ControllerNamespace := [⟨['L'], ['n']⟩, ⟨['M'], ['m']⟩]
    let run : TestRun := ⟨['t'], ⟨0, 0, by decide⟩, ⟨60, 0, by decide⟩, true⟩
    let collected := (Collection.ofNamespaces source (.since run.startedAt) namespaces ()).1
    let settings : Settings := ⟨.standalone, ⟨['/']⟩, ⟨['/']⟩⟩
    ∃ times sections places,
      (entries (some source.recorded) namespaces settings run ((), [])).1
        = times :: sections ++ [places] ∧
      sections.map Entry.name = [['n'], ['m']] ∧
      sections.map Entry.body = ["\n========= L =========\n\n1970-01-01T00:00:30Z new n\n".toList,
        "\n========= M =========\n\n1970-01-01T00:00:30Z new m\n".toList] ∧
      ∀ e ∈ sections, e.IsStored collected := by
  intro source namespaces run collected settings
  have hsteady : source.IsSteady := ⟨fun _ _ _ => rfl, fun _ _ _ _ _ => rfl⟩
  obtain ⟨times, sections, places, hmade, -, -, -, hsections, -⟩ :=
    (entries_carry_evidence (some source) namespaces settings run ()).2 rfl
  obtain ⟨hnames, hcollected⟩ := hsections source rfl
  obtain ⟨hbodies, hstored⟩ := hcollected hsteady ()
  have htexts : collected.map NamespaceLog.text
      = ["\n========= L =========\n\n1970-01-01T00:00:30Z new n\n".toList,
        "\n========= M =========\n\n1970-01-01T00:00:30Z new m\n".toList] := by
    decide +kernel
  exact ⟨times, sections, places, hmade, hnames, hbodies.trans htexts, hstored (by decide)⟩

end Report

/-! ## What is collected from the start of a run on -/

namespace Program

variable {w : World} {cluster : ClusterChoice} {server : Kubernetes.Server} {run : TestRun}
  {outputDir : Option Path} {testName : Option Text}

/-- A collection that ends well has stored its artifacts. -/
theorem save_of_collect_done {since : Option Instant}
    (hconnect : w.access.connect cluster.context = .ok server)
    (hdone : (collect w cluster since outputDir testName).ending = .done) :
    (Collection.artifacts (Collection.ofNamespaces server.source
        ((since.map Capture.since).getD .whole) cluster.asked []).1).save w.settings testName
        outputDir w.cwd w.tree
      = ((collect w cluster since outputDir testName).tree,
        .ok (outputDir.getD (w.settings.testDir testName))) := by
  obtain ⟨saved, hsaved⟩ : ∃ saved, saved = (Collection.artifacts (Collection.ofNamespaces
      server.source ((since.map Capture.since).getD .whole) cluster.asked []).1).save w.settings
      testName outputDir w.cwd w.tree := ⟨_, rfl⟩
  have hcollect : collect w cluster since outputDir testName = ⟨.ofSave saved.2, [], saved.1,
      (Collection.ofNamespaces server.source ((since.map Capture.since).getD .whole)
        cluster.asked []).2⟩ := by
    rw [collect, hconnect, hsaved]
    rfl
  rw [hcollect] at hdone ⊢
  rw [← hsaved]
  rcases saved with ⟨after, answer⟩
  cases answer with
  | error e => cases hdone
  | ok dir => rw [(Artifacts.save_eq_ok_iff.1 hsaved.symm).1]

/-- The logs that are collected from the start of a failed run on are stored as the report on the
run shows them: the file of each namespace holds the section of that namespace. -/
theorem sections_of_collect
    (hconnect : w.access.connect cluster.context = .ok server) (hfailed : run.failed = true)
    (hnodup : (cluster.asked.map ControllerNamespace.name).Nodup)
    (hplain : ∀ name ∈ cluster.asked.map ControllerNamespace.name, '/' ∉ name)
    (hdone : (collect w cluster (some run.startedAt) outputDir testName).ending = .done) :
    ∃ times sections places,
      (Report.entries (some server.source) cluster.asked w.settings run []).1
        = times :: sections ++ [places] ∧
      sections.map Report.Entry.name = cluster.asked.map ControllerNamespace.name ∧
      ∀ e ∈ sections,
        (collect w cluster (some run.startedAt) outputDir testName).tree.readFile w.cwd
          ((outputDir.getD (w.settings.testDir testName)).join (e.name ++ ".log".toList))
          = .ok (Utf8.encode e.body) := by
  have hsave := save_of_collect_done hconnect hdone
  have hentries : (Report.entries (some server.source) cluster.asked w.settings run []).1 = _ :=
    congrArg Prod.fst (Report.entries_of_failed hfailed (some server.source) cluster.asked [])
  refine ⟨_, _, _, hentries, Report.map_name_logEntry server.source cluster.asked run [], ?_⟩
  have hnames := Collection.map_name_ofNamespaces server.source (.since run.startedAt)
    cluster.asked []
  intro e he
  obtain ⟨log, hlog, rfl⟩ := List.mem_map.1 he
  have hget := Collection.get?_artifacts_of_nodup (hnames ▸ hnodup) hlog
  exact Artifacts.readFile_of_save hsave
    (fun e he => Collection.plain_of_mem_artifacts (hnames ▸ hplain) he)
    (SortedMap.mem_entries_iff.2 hget)

end Program

end Evidence
