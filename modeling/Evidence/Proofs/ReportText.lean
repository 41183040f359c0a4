import Evidence.Proofs.EnvironmentInfluence
import Evidence.Proofs.LogCut
import Evidence.Proofs.Numeral
import Evidence.Proofs.StoredLogs
import Evidence.Report

/-!
# What a report says

A report shows when a test ran and where the logs of the controllers are.  What it shows can be read
off it again: the times as lines of their own, and the place as what stands behind a phrase.

Main definitions:

- `Text.after?`: what stands behind the first place where a phrase occurs.
- `Instant.IsShown`: the characters that an instant is shown with.
- `Path.below?`: the names that lead from one path on to another.

Main results:

- `Text.after?_append`: how a phrase is found in a text.
- `Report.lines_timing` and `Report.lines_locations`: the lines with the times.
- `Report.after?_locations`: what stands behind the phrase that announces the logs.
- `Report.shown_location`: the place that a report shows is the one where logs are stored.
-/

namespace Evidence

/-! ## Phrases in a text -/

namespace Text

variable {c : Char} {opening rest front phrase t : Text}

/-- What stands behind the first place where a phrase occurs in a text. -/
def after? (phrase : Text) : Text → Option Text
  | [] => phrase.isPrefixOf? []
  | c :: t =>
    match phrase.isPrefixOf? (c :: t) with
    | some rest => some rest
    | none => after? phrase t

/-- A phrase at the front of a text is found there. -/
theorem after?_self_append (phrase t : Text) : after? phrase (phrase ++ t) = some t := by
  have hfront : phrase.isPrefixOf? (phrase ++ t) = some t :=
    List.isPrefixOf?_eq_some_iff_append_eq.2 rfl
  cases hwhole : phrase ++ t with
  | nil =>
    rw [hwhole] at hfront
    simpa [after?] using hfront
  | cons c rest =>
    rw [hwhole] at hfront
    simp [after?, hfront]

/-- A phrase does not begin a text when one of its characters comes too late there. -/
theorem isPrefixOf?_eq_none (hfront : c ∉ front) (hlength : opening.length < front.length)
    (rest t : Text) : (opening ++ c :: rest).isPrefixOf? (front ++ t) = none := by
  by_contra hsome
  obtain ⟨behind, hbehind⟩ := Option.ne_none_iff_exists'.1 hsome
  have hsplit := List.isPrefixOf?_eq_some_iff_append_eq.1 hbehind
  have hleft : (front ++ t)[opening.length]? = front[opening.length]? :=
    List.getElem?_append_left hlength
  have hchar : front[opening.length]? = some c := by
    rw [← hleft, ← hsplit]
    simp
  exact hfront (List.mem_of_getElem? hchar)

/-- A phrase is found behind a text that lacks one of its characters, if the part of the phrase
before this character lacks it too: the phrase cannot begin any earlier. -/
theorem after?_append (hfront : c ∉ front) (hopening : c ∉ opening) (t : Text) :
    after? (opening ++ c :: rest) (front ++ ((opening ++ c :: rest) ++ t)) = some t := by
  induction front with
  | nil => exact after?_self_append (opening ++ c :: rest) t
  | cons d front ih =>
    have hlate : c ∉ d :: front ++ opening := List.not_mem_append hfront hopening
    have hlength : opening.length < (d :: front ++ opening).length := by
      simp only [List.cons_append, List.length_cons, List.length_append]
      omega
    have hnone := isPrefixOf?_eq_none hlate hlength rest (c :: rest ++ t)
    simp only [List.cons_append, List.append_assoc] at hnone ih ⊢
    unfold after?
    rw [hnone]
    exact ih fun hmem => hfront (List.mem_cons_of_mem d hmem)

/-- A text without a line feed is one line. -/
theorem lines_of_not_mem (h : '\n' ∉ t) : lines t = [t] :=
  List.splitOn_eq_singleton h

end Text

/-! ## Characters of an instant -/

namespace Instant

/-- The characters that an instant is shown with: digits and the marks between them. -/
def IsShown (c : Char) : Prop :=
  c.isDigit = true ∨ c ∈ "+-:. UTC".toList

theorem isShown_fixed (width n : Nat) : ∀ c ∈ Decimal.fixed width n, IsShown c :=
  fun _ h => .inl (Decimal.isDigit_of_mem_fixed h)

theorem isShown_padded (width n : Nat) : ∀ c ∈ Decimal.padded width n, IsShown c := by
  unfold Decimal.padded
  split
  · exact isShown_fixed width n
  · exact fun c h => .inl (Nat.isDigit_of_mem_toDigits (by decide) (by decide) h)

theorem isShown_yearText (year : Int) : ∀ c ∈ yearText year, IsShown c := by
  unfold yearText
  split
  · simpa [IsShown] using isShown_padded 4 year.natAbs
  · split
    · exact isShown_fixed 4 year.natAbs
    · simpa [IsShown] using isShown_padded 4 year.natAbs

theorem isShown_fractionText (nanos : Nat) : ∀ c ∈ fractionText nanos, IsShown c := by
  have hpoint : IsShown '.' := by simp [IsShown]
  unfold fractionText
  split
  · simp
  · split
    · exact List.forall_mem_cons.2 ⟨hpoint, isShown_fixed 3 _⟩
    · split
      · exact List.forall_mem_cons.2 ⟨hpoint, isShown_fixed 6 _⟩
      · exact List.forall_mem_cons.2 ⟨hpoint, isShown_fixed 9 _⟩

/-- The date and the time of day are shown with digits and the marks between them. -/
theorem isShown_clockText {separator : Char} (h : IsShown separator) (i : Instant) :
    ∀ c ∈ clockText separator i, IsShown c := by
  have hdash : IsShown '-' := by simp [IsShown]
  have hcolon : IsShown ':' := by simp [IsShown]
  unfold clockText
  simp only [List.forall_mem_append, List.forall_mem_cons]
  exact ⟨⟨⟨⟨⟨isShown_yearText _, hdash, isShown_fixed 2 _⟩, hdash, isShown_fixed 2 _⟩, h,
    isShown_fixed 2 _⟩, hcolon, isShown_fixed 2 _⟩, hcolon, isShown_fixed 2 _⟩

/-- An instant is shown with digits and a few marks. -/
theorem isShown_text (i : Instant) : ∀ c ∈ i.text, IsShown c := by
  have hspace : IsShown ' ' := by simp [IsShown]
  have hzone : ∀ c ∈ " UTC".toList, IsShown c := by simp [IsShown]
  unfold text civilText
  simp only [List.forall_mem_append]
  exact ⟨⟨isShown_clockText hspace i, isShown_fractionText _⟩, hzone⟩

/-- What is neither a digit nor one of the marks does not occur in an instant as it is shown. -/
theorem not_mem_text {c : Char} (h : ¬ IsShown c) (i : Instant) : c ∉ i.text :=
  fun hmem => h (isShown_text i c hmem)

end Instant

namespace Report

variable (settings : Settings) (run : TestRun)

/-! ## The lines with the times -/

/-- The times of a run, with the line feed that parts them. -/
theorem timing_eq : timing run = ("Test started at ".toList ++ run.startedAt.text)
    ++ '\n' :: ("Test ended at ".toList ++ run.endedAt.text) := by
  have hfeed : "\nTest ended at ".toList = '\n' :: "Test ended at ".toList := rfl
  calc timing run
    _ = "Test started at ".toList ++ run.startedAt.text
        ++ "\nTest ended at ".toList ++ run.endedAt.text := rfl
    _ = _ := by rw [hfeed, List.append_assoc, List.cons_append]

/-- The times of a run stand in two lines. -/
theorem lines_timing : Text.lines (timing run)
    = ["Test started at ".toList ++ run.startedAt.text,
      "Test ended at ".toList ++ run.endedAt.text] := by
  have hfeed : ¬ Instant.IsShown '\n' := by simp [Instant.IsShown]
  have hstarted : '\n' ∉ "Test started at ".toList ++ run.startedAt.text :=
    List.not_mem_append (by simp) (Instant.not_mem_text hfeed run.startedAt)
  have hended : '\n' ∉ "Test ended at ".toList ++ run.endedAt.text :=
    List.not_mem_append (by simp) (Instant.not_mem_text hfeed run.endedAt)
  rw [timing_eq, Text.lines_append_cons, Text.lines_of_not_mem hstarted,
    Text.lines_of_not_mem hended, List.singleton_append]

/-- What announces the place of the logs. -/
def announcement : Text :=
  "Controllers logs are stored here: ".toList

/-- The locations, with what stands in front of the place of the logs and behind it. -/
theorem locations_eq : locations settings run
    = (rule ++ '\n' :: (timing run ++ ['\n'])) ++ (announcement
      ++ (settings.controllerLogsLocation ++ '\n' ::
        ((if settings.isCi then archives settings.artifactsLocation else []) ++ rule))) := by
  have hfeed : "\nControllers logs are stored here: ".toList = '\n' :: announcement := rfl
  calc locations settings run
    _ = rule ++ '\n' :: timing run ++ "\nControllers logs are stored here: ".toList
        ++ settings.controllerLogsLocation ++ ['\n']
        ++ (if settings.isCi then archives settings.artifactsLocation else []) ++ rule := rfl
    _ = _ := by
      rw [hfeed]
      simp only [List.append_assoc, List.cons_append, List.nil_append]

/-- The lines with the times follow the rule above the locations. -/
theorem lines_locations :
    ∃ back, Text.lines (locations settings run) = [rule] ++ Text.lines (timing run) ++ back := by
  have hrule : '\n' ∉ rule := by simp [rule]
  rw [locations_eq, List.append_assoc, List.cons_append, List.append_assoc, List.singleton_append,
    Text.lines_append_cons, Text.lines_append_cons, Text.lines_of_not_mem hrule,
    ← List.append_assoc]
  exact ⟨_, rfl⟩

/-! ## The place of the logs -/

/-- The place of the logs stands behind its announcement, and is followed by the locations of
archives if the run is part of a CI job. -/
theorem after?_locations : Text.after? announcement (locations settings run)
    = some (settings.controllerLogsLocation ++ '\n' ::
        ((if settings.isCi then archives settings.artifactsLocation else []) ++ rule)) := by
  have hletter : ¬ Instant.IsShown 'o' := by simp [Instant.IsShown]
  have hfront : 'o' ∉ rule ++ '\n' :: (timing run ++ ['\n']) := by
    have hstarted := Instant.not_mem_text hletter run.startedAt
    have hended := Instant.not_mem_text hletter run.endedAt
    rw [timing_eq]
    simp [rule, hstarted, hended]
  have hopening : 'o' ∉ ['C'] := by simp
  have hphrase : announcement = ['C'] ++ 'o' :: "ntrollers logs are stored here: ".toList := rfl
  rw [locations_eq, hphrase]
  exact Text.after?_append hfront hopening _

/-! ## Sections -/

variable {settings run} {σ : Type}

/-- The sections of the report on a failed run: its times, the logs, and the locations. -/
theorem entries_of_failed (h : run.failed = true) (source : Option (PodSource σ))
    (namespaces : List ControllerNamespace) (s : σ) :
    entries source namespaces settings run s
      = (⟨"timing".toList, timing run⟩ :: (logs source namespaces run s).1.map logEntry
          ++ [⟨"DEBUG".toList, locations settings run⟩], (logs source namespaces run s).2) := by
  unfold entries
  rw [if_pos h]
  rfl

/-- There is no report on a run that did not fail, and nothing is asked for it. -/
theorem entries_of_not_failed (h : run.failed = false)
    (source : Option (PodSource σ)) (namespaces : List ControllerNamespace) (s : σ) :
    entries source namespaces settings run s = ([], s) := by
  unfold entries
  rw [h]
  rfl

/-- The locations are the last section of the report on a failed run. -/
theorem getLast?_entries (h : run.failed = true) (source : Option (PodSource σ))
    (namespaces : List ControllerNamespace) (s : σ) :
    (entries source namespaces settings run s).1.getLast?
      = some ⟨"DEBUG".toList, locations settings run⟩ := by
  rw [entries_of_failed h]
  exact List.getLast?_concat

end Report

/-! ## The directory of controller logs -/

namespace Path

variable {p : Path} {name : Text}

/-- A path that ends in a name without a slash at its end is not open. -/
theorem isOpen_join (hne : name ≠ []) (hlast : name.getLast? ≠ some '/') :
    (p.join name).isOpen = false := by
  obtain ⟨c, hc⟩ := Option.ne_none_iff_exists'.1 (mt List.getLast?_eq_none_iff.1 hne)
  have hslash : c ≠ '/' := by
    rintro rfl
    exact hlast hc
  unfold join isOpen
  split
  · simp [hc, hslash]
  · split <;> simp [List.getLast?_append, List.getLast?_cons, hc, hslash]

/-- A slash parts a path that is not open from a name that is appended to it. -/
theorem text_join (hopen : p.isOpen = false) (hhead : name.head? ≠ some '/') :
    (p.join name).text = p.text ++ '/' :: name := by
  simp [join, hopen, hhead]

/-- The names that lead from one path on to another, written with slashes between them. -/
def below? (p root : Path) : Option Text :=
  if p.isAbsolute = root.isAbsolute then
    (root.names.isPrefixOf? p.names).map ['/'].intercalate
  else none

/-- A plain name leads on to the path that it is appended to. -/
theorem below?_join (h : '/' ∉ name) (hne : name ≠ []) : (p.join name).below? p = some name := by
  have hhead : name.head? ≠ some '/' := fun heq => h (List.mem_of_head? heq)
  have hnames : (p.join name).names = p.names ++ [name] := by
    rw [names_join hhead, names_of_not_mem h hne]
  have hprefix : p.names.isPrefixOf? (p.join name).names = some [name] := by
    rw [hnames]
    exact List.isPrefixOf?_eq_some_iff_append_eq.2 rfl
  unfold below?
  rw [if_pos (isAbsolute_join hhead), hprefix]
  simp

end Path

namespace Settings

/-- Without a CI job the logs are stored in the very directory that a reader is sent to. -/
theorem text_controllerLogsDir {env : Environment} {cwd : Path}
    (h : env "CI".toList ≠ some "true".toList) :
    (ofEnvironment env cwd).controllerLogsDir.text
      = (ofEnvironment env cwd).controllerLogsLocation := by
  have hjob : (ofEnvironment env cwd).job? = none := job?_of_not_isCi h
  have hisCi : (ofEnvironment env cwd).isCi = false :=
    Bool.eq_false_iff.2 fun hci => h (isCi_ofEnvironment_iff.1 hci)
  have hclosed : (ofEnvironment env cwd).standaloneDir.isOpen = false :=
    Path.isOpen_join (by simp) (by simp)
  have hhead : controllerLogsName.head? ≠ some '/' := by decide
  unfold controllerLogsDir artifactsDir controllerLogsLocation artifactsLocation
  rw [hjob, hisCi]
  exact Path.text_join hclosed hhead

end Settings

namespace Report

/-! ## Where a reader is sent -/

/-- The place that a report shows is the one where the logs of controllers are stored.

It stands behind its announcement in the last section, with only the times before that.  In a run
that stands alone it is the path of the directory that logs are stored in, character for character
and whatever the environment says about artifacts, and the section ends behind it.  In a CI job it
is the address of the artifacts of the job, followed by the way from the root of all artifacts to
that directory; behind it stand the two archives, both below the same address. -/
theorem shown_location (env : Environment) (cwd : Path) (run : TestRun)
    (hfailed : run.failed = true) :
    let settings := Settings.ofEnvironment env cwd
    let dir := settings.controllerLogsDir
    let body := locations settings run
    (∀ (σ : Type) (source : PodSource σ) (namespaces : List ControllerNamespace) (loc : Location)
        (tree : FileTree) (s : σ),
      (Collection.storeControllerLogs source namespaces settings loc tree s).1
        = (Collection.artifacts (Collection.ofNamespaces source .whole namespaces s).1).store loc
            dir tree) ∧
    (∀ (σ : Type) (source : Option (PodSource σ)) (namespaces : List ControllerNamespace) (s : σ),
      (entries source namespaces settings run s).1.getLast? = some ⟨"DEBUG".toList, body⟩) ∧
    ∃ shown, Text.after? "Controllers logs are stored here: ".toList body = some shown ∧
      body = rule ++ '\n' :: (timing run ++ ['\n'])
        ++ ("Controllers logs are stored here: ".toList ++ shown) ∧
      if env "CI".toList = some "true".toList then
        ∃ job way, settings.job? = some job ∧ dir.below? settings.root = some way ∧
          shown = job.artifactsUrl ++ '/' :: way ++ '\n' ::
            ("\nRHTAP custom resources are archived here: ".toList ++ job.artifactsUrl
              ++ "/redhat-appstudio-gather/artifacts/\n".toList
              ++ "\nLogs from all OpenShift pods are archived here: ".toList ++ job.artifactsUrl
              ++ "/redhat-appstudio-hypershift-gather/artifacts/pods/\n".toList ++ rule)
      else shown = dir.text ++ '\n' :: rule := by
  intro settings dir body
  refine ⟨fun σ source namespaces loc tree s => rfl,
    fun σ source namespaces s => getLast?_entries hfailed source namespaces s,
    _, after?_locations settings run, locations_eq settings run, ?_⟩
  have hjob := Settings.job?_ofEnvironment env cwd
  by_cases hci : env "CI".toList = some "true".toList
  · rw [if_pos hci] at hjob ⊢
    have hisCi : settings.isCi = true := Settings.isCi_ofEnvironment_iff.2 hci
    have hroot : dir = settings.root.join Settings.controllerLogsName := by
      simp only [dir, Settings.controllerLogsDir, Settings.artifactsDir, hisCi, if_pos]
    have hway : dir.below? settings.root = some Settings.controllerLogsName := by
      rw [hroot]
      exact Path.below?_join (by decide) (by decide)
    have hlocation : settings.artifactsLocation = _ := Settings.artifactsLocation_eq hjob
    refine ⟨_, _, hjob, hway, ?_⟩
    rw [hisCi, if_pos rfl, Settings.controllerLogsLocation, hlocation]
    rfl
  · rw [if_neg hci] at hjob ⊢
    have hisCi : settings.isCi = false :=
      Bool.eq_false_iff.2 fun h => hci (Settings.isCi_ofEnvironment_iff.1 h)
    rw [hisCi, ← Settings.text_controllerLogsDir hci]
    simp only [Bool.false_eq_true, if_false, List.nil_append]
    rfl

/-- A run that stands alone in a relative directory with slashes at its end, while the artifacts of
tests go elsewhere. -/
theorem shown_location_in_relative_directory :
    let env : Environment := fun name =>
      if name = "ARTIFACT_DIR".toList then some "/logs".toList else none
    let cwd : Path := ⟨"w//".toList⟩
    let run : TestRun := ⟨['t'], ⟨0, 0, by decide⟩, ⟨60, 0, by decide⟩, true⟩
    run.failed = true ∧
    Text.after? "Controllers logs are stored here: ".toList
        (locations (Settings.ofEnvironment env cwd) run)
      = some ("w//tmp/artifacts/rhtap-controllers-logs".toList ++ '\n' :: rule) := by
  intro env cwd run
  obtain ⟨-, -, shown, hafter, -, hshown⟩ := shown_location env cwd run rfl
  have hunset : env "CI".toList ≠ some "true".toList := by decide
  rw [if_neg hunset] at hshown
  rw [hafter, hshown]
  exact ⟨rfl, rfl⟩

end Report

end Evidence
