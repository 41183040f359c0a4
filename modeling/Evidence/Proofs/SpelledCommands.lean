import Evidence.CommandLine.Command
import Evidence.Proofs.CivilTime
import Evidence.Proofs.WrittenNamespaces

/-!
# Spelled command lines

A command line that spells an invocation, each of its values in a word of its own, is read back as
that invocation, in whatever order its words stand.

Main definitions:

- `CommandLine.Given.Writes` and `CommandLine.Spells`: a text that writes a value, and a word that
  gives an argument its value.
- `CommandLine.Command.values` and `CommandLine.Command.options`: the arguments that ask for a
  command.
- `CommandLine.Invocation.Spelled`: the command lines that spell an invocation.

Main results:

- `ControllerNamespace.parse_written`: a label and a name are read back.
- `CommandLine.Reading.foldlM_step`: a run over words that spell arguments gives these arguments.
- `CommandLine.Command.ofGiven?_eq_some`: the values that ask for a command make that command.
- `CommandLine.Invocation.parse_spelled`: an invocation is read back from what spells it.
-/

namespace Evidence

/-! ## Written namespaces -/

namespace ControllerNamespace

/-- A namespace can be written as `label=name` when label and name are not empty and have no blanks
at their ends, and there is no equals sign in the label. -/
structure IsWritable (ns : ControllerNamespace) : Prop where
  label_trimmed : Text.trim ns.label = ns.label
  label_ne_nil : ns.label ≠ []
  label_plain : '=' ∉ ns.label
  name_trimmed : Text.trim ns.name = ns.name
  name_ne_nil : ns.name ≠ []

/-- A namespace is read back from its label and its name. -/
theorem parse_written {ns : ControllerNamespace} (h : ns.IsWritable) :
    parse (ns.label ++ '=' :: ns.name) = .ok ns :=
  parse_label_name (Text.trim_eq_self_iff.1 h.label_trimmed) h.label_ne_nil h.label_plain
    (Text.trim_eq_self_iff.1 h.name_trimmed) h.name_ne_nil

end ControllerNamespace

namespace CommandLine

/-! ## Words that spell arguments -/

/-- The kind of argument that a value is for. -/
def Given.kind : Given → Kind
  | .flag => .flag
  | .text _ => .text
  | .path _ => .path
  | .time _ => .time
  | .controller _ => .controller

/-- A value that can be written: a path must not be empty, a time must have a year of four digits,
and a namespace must keep its parts when they are trimmed. -/
def Given.IsWritable : Given → Prop
  | .flag => True
  | .text _ => True
  | .path p => p.text ≠ []
  | .time i => i.IsCivil
  | .controller ns => ns.IsWritable

/-- A text writes a value.  A time stands as it is shown, in UTC however that is written, or in any
other stamp that is a time. -/
inductive Given.Writes : Given → Text → Prop where
  | text (t : Text) : Writes (.text t) t
  | path (p : Path) : Writes (.path p) p.text
  | time (i : Instant) {z : Stamp.Zone} (utc : z.minutes = 0) :
      Writes (.time i) (i.civilText 'T' ++ z.text)
  | stamp {f : Stamp.Fields} (valid : f.Valid) : Writes (.time f.instant) f.text
  | controller (ns : ControllerNamespace) : Writes (.controller ns) (ns.label ++ '=' :: ns.name)

/-- A word spells an argument: a flag by its name alone, any other argument by its name and its
value. -/
inductive Spells : Argument × Given → Text → Prop where
  | flag (a : Argument) : Spells (a, .flag) ("--".toList ++ a.long)
  | value (a : Argument) {v : Given} {t : Text} (writes : v.Writes t) :
      Spells (a, v) ("--".toList ++ a.long ++ '=' :: t)

/-- An argument that can be given by a word: one that asks for no help, with a value of its kind
that can be written. -/
structure IsGivable (g : Grammar) (x : Argument × Given) : Prop where
  known : g.ofLong? x.1.long = some x.1
  ne_help : x.1 ≠ .help
  kind : x.2.kind = x.1.kind
  writable : x.2.IsWritable

/-- Values that an argument takes are of its kind, and there is one at most unless it may be
repeated. -/
structure Argument.Takes (a : Argument) (vs : List Given) : Prop where
  kind : ∀ v ∈ vs, v.kind = a.kind
  one : a.repeats = false → vs.length ≤ 1

namespace Argument.Takes

variable {α : Type} {a : Argument} {wrap : α → Given}

theorem nil (a : Argument) : a.Takes [] :=
  ⟨nofun, fun _ => Nat.zero_le 1⟩

theorem single {v : Given} (h : v.kind = a.kind) : a.Takes [v] :=
  ⟨fun w hw => by rw [List.mem_singleton.1 hw, h], fun _ => Nat.le_refl 1⟩

theorem toList (h : ∀ x, (wrap x).kind = a.kind) (o : Option α) : a.Takes (o.toList.map wrap) := by
  cases o with
  | none => exact nil a
  | some x => exact single (h x)

theorem map (hrepeats : a.repeats = true) (h : ∀ x, (wrap x).kind = a.kind) (xs : List α) :
    a.Takes (xs.map wrap) := by
  refine ⟨fun v hv => ?_, fun hnot => Bool.noConfusion (hrepeats.symm.trans hnot)⟩
  obtain ⟨x, -, rfl⟩ := List.mem_map.1 hv
  exact h x

end Argument.Takes

/-- What writes a value is read as that value. -/
theorem Argument.read_of_writes {a : Argument} {v : Given} {t : Text} (hkind : v.kind = a.kind)
    (hv : v.IsWritable) (h : v.Writes t) : a.read t = .ok v := by
  unfold Argument.read
  rw [← hkind]
  cases h with
  | text t => rfl
  | path p => exact if_neg hv
  | time i utc =>
    simp only [Given.kind, Rfc3339.parse_civilText hv utc]
  | stamp valid =>
    simp only [Given.kind, Rfc3339.parse, Stamp.Fields.read_text valid]
    rfl
  | controller ns =>
    simp only [Given.kind, ControllerNamespace.parse_written hv]

/-- A value that is written is not that of a flag. -/
theorem Given.Writes.kind_ne {v : Given} {t : Text} (h : v.Writes t) : v.kind ≠ .flag := by
  cases h <;> exact Kind.noConfusion

/-- The name of an argument is not empty and holds no equals sign. -/
theorem Argument.long_spec (a : Argument) : a.long ≠ [] ∧ ∀ c ∈ a.long, (c != '=') = true := by
  rw [← List.all_eq_true]
  cases a <;> decide

/-! ## Given arguments -/

namespace Arguments

variable {given given' : List (Argument × Given)} {a : Argument} {v : Given}

theorem values_append (given given' : List (Argument × Given)) (a : Argument) :
    values (given ++ given') a = values given a ++ values given' a := by
  simp [values]

theorem values_cons_self (a : Argument) (v : Given) (given : List (Argument × Given)) :
    values ((a, v) :: given) a = v :: values given a := by
  simp [values]

/-- The values of one argument are values of no other. -/
theorem values_map (b : Argument) (vs : List Given) (a : Argument) :
    values (vs.map fun v => (b, v)) a = if a = b then vs else [] := by
  unfold values
  rw [List.filter_map, List.map_map]
  by_cases h : a = b
  · simp [Function.comp_def, h]
  · simp [Function.comp_def, Ne.symm h, if_neg h]

/-- An argument was given when it has a value. -/
theorem flag_eq (given : List (Argument × Given)) (a : Argument) :
    flag given a = !(values given a).isEmpty := by
  induction given with
  | nil => rfl
  | cons x given ih =>
    rw [flag] at ih ⊢
    rw [List.any_cons, ih, values, values, List.filter_cons]
    cases x.1 == a <;> rfl

theorem values_eq_nil_iff : values given a = [] ↔ flag given a = false := by
  rw [flag_eq]
  simp

/-- In another order an argument has the same values, in some order. -/
theorem values_perm (h : given.Perm given') (a : Argument) :
    (values given a).Perm (values given' a) :=
  (h.filter _).map _

/-- In another order an argument that is given once has the same value. -/
theorem values_eq_of_perm (h : given.Perm given') (hone : (values given' a).length ≤ 1) :
    values given a = values given' a := by
  have hvalues := values_perm h a
  match hgiven : values given' a with
  | [] =>
    rw [hgiven] at hvalues
    exact hvalues.eq_nil
  | [v] =>
    rw [hgiven] at hvalues
    exact List.perm_singleton.1 hvalues
  | v :: w :: rest =>
    rw [hgiven] at hone
    simp at hone

/-- What is looked for among at most one value is that value. -/
theorem findSome?_toList {α : Type} (wrap : α → Given) {unwrap : Given → Option α}
    (h : ∀ x, unwrap (wrap x) = some x) (o : Option α) :
    (o.toList.map wrap).findSome? unwrap = o := by
  cases o with
  | none => rfl
  | some x => simp [h]

theorem text?_eq {o : Option Text} (h : values given a = o.toList.map .text) :
    text? given a = o := by
  rw [text?, h]
  exact findSome?_toList Given.text (fun _ => rfl) o

theorem path?_eq {o : Option Path} (h : values given a = o.toList.map .path) :
    path? given a = o := by
  rw [path?, h]
  exact findSome?_toList Given.path (fun _ => rfl) o

theorem time?_eq {o : Option Instant} (h : values given a = o.toList.map .time) :
    time? given a = o := by
  rw [time?, h]
  exact findSome?_toList Given.time (fun _ => rfl) o

/-- The choice of a cluster is told by the values of its two arguments. -/
theorem cluster_eq {choice : ClusterChoice}
    (hnamespaces : values given .controllers = choice.namespaces.map .controller)
    (hcontext : values given .context = choice.context.toList.map .text) :
    cluster given = choice := by
  have hlist : namespaces given = choice.namespaces := by
    rw [namespaces, hnamespaces, List.filterMap_map]
    exact List.filterMap_some
  rw [cluster, hlist, text?_eq hcontext]

end Arguments

/-! ## Reading words that spell arguments -/

namespace Reading

open Arguments

variable {g : Grammar} {r : Reading} {a : Argument} {v : Given} {x : Argument × Given}
  {word t : Text} {order : List (Argument × Given)} {words : List Text}

/-- A reading has no argument whose value is still to come, and may be followed by more of them. -/
structure IsSettled (r : Reading) : Prop where
  pending : r.pending = none
  literal : r.literal = false

/-- An argument may be given unless it was given before, or may be repeated. -/
theorem add_eq_ok (hfresh : r.has a = true → a.repeats = true) (v : Given) :
    r.add a (.ok v) = .ok { r with given := r.given ++ [(a, v)] } := by
  unfold add
  rw [if_neg]
  · rfl
  · intro h
    rw [Bool.and_eq_true, Bool.not_eq_true'] at h
    rw [hfresh h.1] at h
    cases h.2

theorem settle_of_pending (h : r.pending = none) : r.settle = .ok r := by
  unfold settle
  rw [h]

/-- A word that begins with two hyphens and goes on is read by what follows them. -/
theorem step_hyphens (h : r.literal = false) (hne : t ≠ []) :
    r.step g ("--".toList ++ t) = r.long g t := by
  cases t with
  | nil => exact absurd rfl hne
  | cons c t =>
    unfold step
    rw [h]
    rfl

/-- A word that spells an argument gives it its value. -/
theorem step_spells (hr : r.IsSettled) (hx : IsGivable g x) (h : Spells x word)
    (hfresh : r.has x.1 = true → x.1.repeats = true) :
    r.step g word = .ok { r with given := r.given ++ [x] } := by
  cases h with
  | flag a =>
    obtain ⟨hne, hplain⟩ := a.long_spec
    have htakes : a.takesValue = false := by
      rw [Argument.takesValue, ← hx.kind]
      rfl
    rw [step_hyphens hr.literal hne, long, List.takeWhile_eq_self_iff.2 hplain,
      List.dropWhile_eq_nil_iff.2 hplain]
    simp only [hx.known, htakes]
    unfold raise
    rw [settle_of_pending hr.pending]
    show (if a = .help then _ else _) = _
    rw [if_neg hx.ne_help, add_eq_ok hfresh]
  | value a writes =>
    obtain ⟨hne, hplain⟩ := a.long_spec
    have htakes : a.takesValue = true := by
      rw [Argument.takesValue, ← hx.kind]
      exact bne_iff_ne.2 writes.kind_ne
    rw [List.append_assoc, step_hyphens hr.literal (List.append_ne_nil_of_left_ne_nil hne _), long,
      List.takeWhile_append_of_pos hplain, List.dropWhile_append_of_pos hplain]
    simp only [List.takeWhile_cons, List.dropWhile_cons, bne_self_eq_false, Bool.false_eq_true,
      if_false, List.append_nil, hx.known, htakes]
    unfold accept
    rw [settle_of_pending hr.pending]
    show r.add a _ = _
    rw [Argument.read_of_writes hx.kind hx.writable writes, add_eq_ok hfresh]

/-- Words that spell arguments give them their values, one after the other, when none but those that
may be repeated is given twice. -/
theorem foldlM_step (hwords : List.Forall₂ Spells order words) (hr : r.IsSettled)
    (hgivable : ∀ x ∈ order, IsGivable g x)
    (hone : ∀ a, a.repeats = false → (values (r.given ++ order) a).length ≤ 1) :
    words.foldlM (step g) r = .ok { r with given := r.given ++ order } := by
  induction hwords generalizing r with
  | nil =>
    rw [List.append_nil]
    rfl
  | @cons x word order words hword hwords ih =>
    have hfresh : r.has x.1 = true → x.1.repeats = true := by
      intro hhas
      by_contra hrepeats
      have hcount := hone x.1 (Bool.eq_false_iff.2 hrepeats)
      have hsome : values r.given x.1 ≠ [] := fun hnil => by
        rw [values_eq_nil_iff] at hnil
        exact Bool.noConfusion (hhas.symm.trans hnil)
      rw [values_append, show x :: order = (x.1, x.2) :: order from rfl, values_cons_self,
        List.length_append, List.length_cons] at hcount
      have hpos := List.length_pos_of_ne_nil hsome
      omega
    rw [List.foldlM_cons, step_spells hr (hgivable x List.mem_cons_self) hword hfresh]
    have hrest := @ih { r with given := r.given ++ [x] } ⟨hr.pending, hr.literal⟩
      (fun y hy => hgivable y (List.mem_cons_of_mem x hy))
      (by simpa [List.append_assoc] using hone)
    simp only [List.append_assoc, List.singleton_append] at hrest
    exact hrest

/-- Behind two hyphens a file may be given, if there was none before. -/
theorem file_behind {p : Path} (hr : r.IsSettled) (htakes : g.takesFile = true)
    (hfresh : r.has .file = false) (hne : p.text ≠ []) :
    (do
      let r ← ["--".toList, p.text].foldlM (step g) r
      r.finish) = .ok (r.given ++ [(.file, .path p)]) := by
  have hhyphens : r.step g "--".toList = .ok { r with literal := true } := by
    unfold step
    rw [hr.literal]
    rfl
  have hnoFile : hasFile { r with literal := true } = false := by
    unfold hasFile
    rw [hr.pending]
    exact (Bool.or_false _).trans hfresh
  have hword : step g { r with literal := true } p.text
      = .ok { r with literal := true, pending := some (.file, some p.text) } := by
    show word g { r with literal := true } p.text = _
    rw [word, htakes, hnoFile]
    show expect { r with literal := true } .file (some p.text) = _
    rw [expect, settle_of_pending (r := { r with literal := true }) hr.pending]
    rfl
  have hread : Argument.read .file p.text = .ok (.path p) :=
    Argument.read_of_writes rfl hne (.path p)
  have hfinish : finish { r with literal := true, pending := some (.file, some p.text) }
      = .ok (r.given ++ [(.file, .path p)]) := by
    have hnotFile (h : has { r with literal := true, pending := none } .file = true) :
        Argument.file.repeats = true := absurd (hfresh.symm.trans h) Bool.false_ne_true
    show (add { r with literal := true, pending := none } _ (Argument.read _ p.text)).map _ = _
    rw [hread, add_eq_ok hnotFile]
    rfl
  rw [List.foldlM_cons, hhyphens]
  show (do
    let r ← [p.text].foldlM (step g) { r with literal := true }
    r.finish) = _
  rw [List.foldlM_cons, hword]
  exact hfinish

end Reading

/-! ## Commands -/

namespace Command

/-- The values that the choice of a cluster gives to an argument. -/
def clusterValues (cluster : ClusterChoice) : Argument → List Given
  | .controllers => cluster.namespaces.map .controller
  | .context => cluster.context.toList.map .text
  | _ => []

/-- The value of a flag that is given or not. -/
def flagValues (set : Bool) : List Given :=
  if set then [.flag] else []

/-- The values that ask for a command, in their order, for each argument. -/
def values : Command → Argument → List Given
  | collect cluster since outputDir testName, a =>
    match a with
    | .since => since.toList.map .time
    | .outputDir => outputDir.toList.map .path
    | .testName => testName.toList.map .text
    | a => clusterValues cluster a
  | filter since file, a =>
    match a with
    | .since => [.time since]
    | .file => file.toList.map .path
    | _ => []
  | report cluster testName startedAt endedAt passed skipLogs write, a =>
    match a with
    | .testName => [.text testName]
    | .startedAt => [.time startedAt]
    | .endedAt => endedAt.toList.map .time
    | .passed => flagValues passed
    | .skipLogs => flagValues skipLogs
    | .write => flagValues write
    | a => clusterValues cluster a
  | storeControllerLogs cluster, a => clusterValues cluster a
  | dumpPods ns context testName, a =>
    match a with
    | .podsNamespace => [.text ns]
    | .context => context.toList.map .text
    | .testName => testName.toList.map .text
    | _ => []

/-- The arguments with names that ask for a command, in the order in which the command knows them,
and the flag that may stand with every command. -/
def options (c : Command) (verbose : Bool) : List (Argument × Given) :=
  (c.name.arguments.flatMap fun a => (c.values a).map fun v => (a, v))
    ++ (flagValues verbose).map fun v => (.verbose, v)

/-- The words behind all others that ask for a command: the file that it reads, if it is given
one. -/
def trailer : Command → List Text
  | filter _ (some file) => ["--".toList, file.text]
  | _ => []

variable {c : Command} {a : Argument} {given : List (Argument × Given)}

theorem flag_eq {set : Bool} (h : Arguments.values given a = flagValues set) :
    Arguments.flag given a = set := by
  rw [Arguments.flag_eq, h]
  cases set <;> rfl

/-- The values that ask for a command make that command. -/
theorem ofGiven?_eq_some (h : ∀ a, a ≠ .verbose → Arguments.values given a = c.values a) :
    ofGiven? given c.name = some c := by
  cases c with
  | collect cluster since outputDir testName =>
    have hcluster : Arguments.cluster given = cluster :=
      Arguments.cluster_eq (h .controllers nofun) (h .context nofun)
    have hsince : Arguments.time? given .since = since := Arguments.time?_eq (h .since nofun)
    have houtputDir : Arguments.path? given .outputDir = outputDir :=
      Arguments.path?_eq (h .outputDir nofun)
    have htestName : Arguments.text? given .testName = testName :=
      Arguments.text?_eq (h .testName nofun)
    simp only [name, ofGiven?, hcluster, hsince, houtputDir, htestName]
  | filter since file =>
    have hsince : Arguments.time? given .since = some since := Arguments.time?_eq (h .since nofun)
    have hfile : Arguments.path? given .file = file := Arguments.path?_eq (h .file nofun)
    simp only [name, ofGiven?, hsince, hfile]
    rfl
  | report cluster testName startedAt endedAt passed skipLogs write =>
    have hcluster : Arguments.cluster given = cluster :=
      Arguments.cluster_eq (h .controllers nofun) (h .context nofun)
    have htestName : Arguments.text? given .testName = some testName :=
      Arguments.text?_eq (h .testName nofun)
    have hstartedAt : Arguments.time? given .startedAt = some startedAt :=
      Arguments.time?_eq (h .startedAt nofun)
    have hendedAt : Arguments.time? given .endedAt = endedAt :=
      Arguments.time?_eq (h .endedAt nofun)
    simp only [name, ofGiven?, hcluster, htestName, hstartedAt, hendedAt, flag_eq (h .passed nofun),
      flag_eq (h .skipLogs nofun), flag_eq (h .write nofun)]
    rfl
  | storeControllerLogs cluster =>
    have hcluster : Arguments.cluster given = cluster :=
      Arguments.cluster_eq (h .controllers nofun) (h .context nofun)
    simp only [name, ofGiven?, hcluster]
  | dumpPods ns context testName =>
    have hns : Arguments.text? given .podsNamespace = some ns :=
      Arguments.text?_eq (h .podsNamespace nofun)
    have hcontext : Arguments.text? given .context = context :=
      Arguments.text?_eq (h .context nofun)
    have htestName : Arguments.text? given .testName = testName :=
      Arguments.text?_eq (h .testName nofun)
    simp only [name, ofGiven?, hns, hcontext, htestName]
    rfl

/-- A command has each of its own arguments once; the file that it may read is not one of them. -/
theorem Name.arguments_spec (name : Name) :
    name.arguments.Nodup ∧ ∀ a ∈ name.arguments, a ≠ .verbose ∧ a ≠ .help ∧ a ≠ .file := by
  cases name <;> decide

/-- Every argument of a command is found by its name, and so is the flag that all commands have. -/
theorem Name.ofLong?_grammar (name : Name) :
    ∀ a ∈ .verbose :: name.arguments, name.grammar.ofLong? a.long = some a := by
  cases name <;> decide

/-- A command asks for no values of an argument that it does not have. -/
theorem values_of_not_mem (ha : a ∉ c.name.arguments) (hfile : a ≠ .file) : c.values a = [] := by
  cases c <;> cases a <;>
    first
    | rfl
    | exact absurd rfl hfile
    | simp [name, Name.arguments] at ha

theorem takes_flagValues (ha : a.kind = .flag) (set : Bool) : a.Takes (flagValues set) := by
  cases set with
  | true => exact .single ha.symm
  | false => exact .nil a

/-- A command asks for values that its arguments take. -/
theorem takes_values (c : Command) (a : Argument) : a.Takes (c.values a) := by
  cases c <;> cases a <;>
    first
    | exact .nil _
    | exact .single rfl
    | exact .toList (fun _ => rfl) _
    | exact .map rfl (fun _ => rfl) _
    | exact takes_flagValues rfl _

/-- The arguments of a command that have names have all its values but the file, in their order. -/
theorem values_options (c : Command) (verbose : Bool) (a : Argument) :
    Arguments.values (c.options verbose) a
      = if a = .verbose then flagValues verbose else if a = .file then [] else c.values a := by
  have hown : Arguments.values (c.name.arguments.flatMap fun a => (c.values a).map fun v => (a, v)) a
      = if a ∈ c.name.arguments then c.values a else [] := by
    have hnodup := c.name.arguments_spec.1
    generalize c.name.arguments = arguments at hnodup
    induction arguments with
    | nil => rfl
    | cons b arguments ih =>
      obtain ⟨hb, hrest⟩ := List.nodup_cons.1 hnodup
      rw [List.flatMap_cons, Arguments.values_append, Arguments.values_map, ih hrest]
      by_cases h : a = b
      · subst h
        simp [hb]
      · simp [h]
  have hspec := c.name.arguments_spec.2 a
  rw [options, Arguments.values_append, Arguments.values_map, hown]
  by_cases hverbose : a = .verbose
  · rw [if_pos hverbose, if_pos hverbose, if_neg fun h => (hspec h).1 hverbose, List.nil_append]
  · rw [if_neg hverbose, if_neg hverbose, List.append_nil]
    by_cases hfile : a = .file
    · rw [if_pos hfile, if_neg fun h => (hspec h).2.2 hfile]
    · rw [if_neg hfile]
      by_cases hmem : a ∈ c.name.arguments
      · rw [if_pos hmem]
      · rw [if_neg hmem, values_of_not_mem hmem hfile]

/-- An argument that may not be repeated is given once at most. -/
theorem length_values_options_le (c : Command) (verbose : Bool) (ha : a.repeats = false) :
    (Arguments.values (c.options verbose) a).length ≤ 1 := by
  rw [values_options]
  split
  · cases verbose <;> decide
  · split
    · exact Nat.zero_le 1
    · exact (takes_values c a).one ha

/-- The arguments with names that ask for a command can be given to it. -/
theorem isGivable_of_mem_options {verbose : Bool} {x : Argument × Given}
    (hwritable : ∀ a, ∀ v ∈ c.values a, v.IsWritable) (hx : x ∈ c.options verbose) :
    IsGivable c.name.grammar x := by
  rcases List.mem_append.1 hx with hx | hx
  · obtain ⟨a, ha, hx⟩ := List.mem_flatMap.1 hx
    obtain ⟨v, hv, rfl⟩ := List.mem_map.1 hx
    exact ⟨c.name.ofLong?_grammar a (List.mem_cons_of_mem _ ha), (c.name.arguments_spec.2 a ha).2.1,
      (takes_values c a).kind v hv, hwritable a v hv⟩
  · obtain ⟨v, hv, rfl⟩ := List.mem_map.1 hx
    cases verbose with
    | false => cases hv
    | true =>
      obtain rfl := List.mem_singleton.1 hv
      exact ⟨c.name.ofLong?_grammar _ List.mem_cons_self, nofun, rfl, trivial⟩

/-- Only a filter may have a file behind all other words. -/
theorem trailer_cases (c : Command) :
    c.trailer = [] ∧ c.values .file = [] ∨
      ∃ file, c.trailer = ["--".toList, file.text] ∧ c.values .file = [.path file] ∧
        c.name = .filter := by
  cases c with
  | filter since file =>
    cases file with
    | none => exact .inl ⟨rfl, rfl⟩
    | some file => exact .inr ⟨file, rfl, rfl, rfl⟩
  | _ => exact .inl ⟨rfl, rfl⟩

theorem Name.ofText?_text (name : Name) : ofText? name.text = some name := by
  cases name <;> decide

end Command

/-! ## Command lines -/

namespace Invocation

open Command

/-- A command line spells an invocation when it has a word for each value that asks for the command,
those of one argument in their order and otherwise in any order, and the file last; an invocation
that is verbose has one more word that says so, among these words or before the command. -/
inductive Spelled (invocation : Invocation) : List Text → Prop where
  | behind {order : List (Argument × Given)} {words : List Text}
      (perm : order.Perm (invocation.command.options invocation.verbose))
      (namespaces : Arguments.values order .controllers = invocation.command.values .controllers)
      (spells : List.Forall₂ Spells order words) :
      Spelled invocation
        (invocation.command.name.text :: (words ++ invocation.command.trailer))
  | front (verbose : invocation.verbose = true) {order : List (Argument × Given)}
      {words : List Text} (perm : order.Perm (invocation.command.options false))
      (namespaces : Arguments.values order .controllers = invocation.command.values .controllers)
      (spells : List.Forall₂ Spells order words) :
      Spelled invocation
        ("--verbose".toList :: invocation.command.name.text
          :: (words ++ invocation.command.trailer))

variable {c : Command} {verbose : Bool} {order : List (Argument × Given)} {words : List Text}

/-- In whatever order arguments are given, each of them has the values that ask for the command. -/
theorem values_of_perm (hperm : order.Perm (c.options verbose))
    (hnamespaces : Arguments.values order .controllers = c.values .controllers) (a : Argument) :
    Arguments.values order a
      = if a = .verbose then flagValues verbose else if a = .file then [] else c.values a := by
  by_cases ha : a = .controllers
  · subst ha
    simpa using hnamespaces
  · rw [← values_options]
    apply Arguments.values_eq_of_perm hperm
    apply length_values_options_le
    cases a <;> first | rfl | exact absurd rfl ha

/-- The words that spell arguments are read, and so is the file behind them. -/
theorem words_spelled (hwritable : ∀ a, ∀ v ∈ c.values a, v.IsWritable)
    (hperm : order.Perm (c.options verbose)) (hspells : List.Forall₂ Spells order words) :
    Reading.words c.name.grammar (words ++ c.trailer)
      = .ok (order ++ (c.values .file).map fun v => (.file, v)) := by
  have hrun : words.foldlM (Reading.step c.name.grammar) .start = .ok ⟨order, none, false⟩ := by
    refine Reading.foldlM_step hspells ⟨rfl, rfl⟩ (fun x hx => ?_) fun a ha => ?_
    · exact isGivable_of_mem_options hwritable (hperm.mem_iff.1 hx)
    · have hlength := (Arguments.values_perm hperm a).length_eq
      have hle := length_values_options_le c verbose ha
      rw [← hlength] at hle
      exact hle
  have hfile : Arguments.flag order .file = false := by
    have hvalues := Arguments.values_perm hperm .file
    rw [values_options] at hvalues
    exact Arguments.values_eq_nil_iff.1 hvalues.eq_nil
  rw [Reading.words, List.foldlM_append, hrun]
  rcases c.trailer_cases with ⟨htrailer, hnone⟩ | ⟨file, htrailer, hsome, hname⟩
  · rw [htrailer, hnone, List.map_nil, List.append_nil]
    rfl
  · have hne : file.text ≠ [] := by
      apply hwritable .file (.path file)
      rw [hsome]
      exact List.mem_cons_self
    have hhas : Reading.has ⟨order, none, false⟩ .file = false := hfile
    rw [htrailer, hsome]
    exact Reading.file_behind ⟨rfl, rfl⟩ (by rw [hname]; rfl) hhas hne

/-- The words behind the name of a command are read as the command that they ask for. -/
theorem behind_spelled (hwritable : ∀ a, ∀ v ∈ c.values a, v.IsWritable) (before : Bool)
    (hperm : order.Perm (c.options verbose))
    (hnamespaces : Arguments.values order .controllers = c.values .controllers)
    (hspells : List.Forall₂ Spells order words) :
    behind c.name before (words ++ c.trailer) = .ok ⟨c, before || verbose⟩ := by
  have hvalues (a : Argument) :
      Arguments.values (order ++ (c.values .file).map fun v => (.file, v)) a
        = if a = .verbose then flagValues verbose else c.values a := by
    rw [Arguments.values_append, Arguments.values_map, values_of_perm hperm hnamespaces]
    by_cases hverbose : a = .verbose
    · simp [hverbose]
    · by_cases hfile : a = .file
      · simp [hfile]
      · simp [hverbose, hfile]
  have hcommand : ofGiven? (order ++ (c.values .file).map fun v => (.file, v)) c.name = some c :=
    ofGiven?_eq_some fun a ha => by rw [hvalues, if_neg ha]
  have hverbose := flag_eq ((hvalues .verbose).trans (if_pos rfl))
  rw [behind, words_spelled hwritable hperm hspells, ← hverbose]
  simp only [bind, Except.bind, hcommand]
  rfl

/-- A command line that spells an invocation is read as that invocation.  So neither the order of
its words matters, apart from that of namespaces among each other, nor the place of the flag that
asks for more messages. -/
theorem parse_spelled {invocation : Invocation} {ts : List Text}
    (hwritable : ∀ a, ∀ v ∈ invocation.command.values a, v.IsWritable)
    (h : invocation.Spelled ts) : parse ts = .ok invocation := by
  cases h with
  | behind perm namespaces spells =>
    rw [parse, front, Name.ofText?_text]
    exact behind_spelled hwritable false perm namespaces spells
  | front verbose perm namespaces spells =>
    have hfront (ts : List Text) :
        parse ("--verbose".toList :: ts) = front ⟨[(.verbose, .flag)], none, false⟩ ts := rfl
    have hbehind := behind_spelled hwritable true perm namespaces spells
    have hinvocation : invocation = ⟨invocation.command, true⟩ := by rw [← verbose]
    rw [hfront, front, Name.ofText?_text, hinvocation]
    exact hbehind

/-- A report is read back from words in an odd order, whose values look like other words. -/
theorem parse_spelled_report :
    parse (["report", "--write", "--namespace=core=-- core", "--started-at=2023-01-01T00:00:03.500Z",
        "--verbose", "--test-name=--passed", "--namespace=agents=a=b"].map String.toList)
      = .ok ⟨.report ⟨[⟨"core".toList, "-- core".toList⟩, ⟨"agents".toList, "a=b".toList⟩], none⟩
          "--passed".toList ⟨1672531203, 500000000, by decide⟩ none false false true, true⟩ := by
  have hcore : ControllerNamespace.IsWritable ⟨"core".toList, "-- core".toList⟩ := by
    constructor <;> decide
  have hagents : ControllerNamespace.IsWritable ⟨"agents".toList, "a=b".toList⟩ := by
    constructor <;> decide
  have hcivil : Instant.IsCivil ⟨1672531203, 500000000, by decide⟩ := by
    constructor <;> decide
  have hspells :=
    List.Forall₂.cons (Spells.flag .write) <|
    .cons (.value .controllers (.controller ⟨"core".toList, "-- core".toList⟩)) <|
    .cons (.value .startedAt (.time ⟨1672531203, 500000000, by decide⟩ (z := .utc) rfl)) <|
    .cons (.flag .verbose) <|
    .cons (.value .testName (.text "--passed".toList)) <|
    .cons (.value .controllers (.controller ⟨"agents".toList, "a=b".toList⟩)) .nil
  refine parse_spelled (fun a v hv => ?_) (@Spelled.behind ⟨.report
    ⟨[⟨"core".toList, "-- core".toList⟩, ⟨"agents".toList, "a=b".toList⟩], none⟩ "--passed".toList
    ⟨1672531203, 500000000, by decide⟩ none false false true, true⟩ _ _ (by decide) rfl hspells)
  cases a with
  | controllers =>
    rcases List.mem_cons.1 hv with rfl | hv
    · exact hcore
    · rw [List.mem_singleton.1 hv]
      exact hagents
  | startedAt =>
    rw [List.mem_singleton.1 hv]
    exact hcivil
  | testName =>
    rw [List.mem_singleton.1 hv]
    trivial
  | write =>
    rw [List.mem_singleton.1 hv]
    trivial
  | _ => exact absurd hv List.not_mem_nil

end Invocation

end CommandLine

end Evidence
