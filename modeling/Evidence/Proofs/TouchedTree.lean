import Evidence.Footprint
import Evidence.Proofs.CollectedArtifacts
import Evidence.Proofs.Storing

/-!
# What a run touches

A command changes a tree in one way only: it stores artifacts with known names in one known
directory, or does nothing to the tree at all.

Main definitions:

- `World.plain`: a world that holds little more than a tree.
- `CommandLine.Command.givenNamespaces`: the namespaces that a command line names.
- `CommandLine.Command.Connects`: which commands talk to a cluster.
- `Program.StoresNothing`: when a command leaves the tree as it is.

Main results:

- `Artifacts.find?_store_cases`: what may be new or changed after artifacts are stored.
- `Program.perform_tree`: a run leaves the tree as it was, or stores artifacts in it.
- `Program.find?_perform_cases`: what may be new or changed after a run.
- `Program.touched_by_run`: which runs touch the tree, and where.
-/

namespace Evidence

open FileTree CommandLine Kubernetes

/-- A world that holds a tree, the access to servers and a time, and nothing else.  The root is the
working directory. -/
def World.plain (tree : FileTree) (access : Access) (now : Instant) : World where
  environment _ := none
  cwd := []
  tree
  input := []
  access
  now
  usage _ _ := []

/-! ## Storing -/

namespace Artifacts

/-- Whether or not artifacts are stored to the end, what is new or changed is a directory on the way
to theirs, or a file that the path of one of them leads to. -/
theorem find?_store_cases (artifacts : Artifacts) (cwd : Location) (dir : Path) (tree : FileTree)
    (loc : Location) :
    (artifacts.store cwd dir tree).1.find? loc = tree.find? loc ∨
    (tree.find? loc = none ∧ loc ∈ dir.through cwd ∧
      (artifacts.store cwd dir tree).1.find? loc = some (.directory 0o775)) ∨
    ∃ e ∈ artifacts.entries, loc = (dir.join e.1).location cwd ∧
      (artifacts.store cwd dir tree).1.LeadsToFile cwd (dir.join e.1) ∧
      (artifacts.store cwd dir tree).1.find? loc = some (.file (tree.fileModeAt loc) e.2) := by
  have hgrows := grows_makeDirectories tree cwd dir
  rw [store_eq]
  rcases hmade : tree.makeDirectories cwd dir with ⟨made, refused⟩
  rw [hmade] at hgrows
  have hmadeCases : made.find? loc = tree.find? loc ∨ tree.find? loc = none ∧
      loc ∈ dir.through cwd ∧ made.find? loc = some (.directory 0o775) := by
    cases hold : tree.find? loc with
    | some entry => exact .inl (hgrows.kept hold)
    | none => exact (hgrows.made hold).imp id fun h => ⟨rfl, h⟩
  cases refused with
  | some cause => exact hmadeCases.imp id .inl
  | none =>
    obtain ⟨front, hprefix, hfront⟩ := exists_front_of_write cwd dir made artifacts.entries
    simp only
    have hfind := find?_write hfront loc
    cases hcontent : contentAt? cwd dir loc front with
    | none =>
      rw [hcontent] at hfind
      rw [hfind]
      exact hmadeCases.imp id .inl
    | some content =>
      right; right
      obtain ⟨name, hmem, hloc⟩ := exists_of_contentAt?_eq_some hcontent
      rw [hcontent, hgrows.fileModeAt] at hfind
      exact ⟨_, hprefix.subset hmem, hloc, (leadsToFile_of_write hfront hmem).1, hfind⟩

/-- A map with one artifact holds no other. -/
theorem fst_of_mem_single {name : Text} {content : Blob} {e : Text × Blob}
    (h : e ∈ (single name content).entries) : e.1 = name := by
  rw [List.mem_singleton.1 h]

end Artifacts

/-- A dump stores the document of some pods, or leaves the tree as it was. -/
theorem Kubernetes.Dump.store_fst_cases (server : Server) (ns : Text) (settings : Settings)
    (testName : Option Text) (cwd : Location) (tree : FileTree) (sent : List Request) :
    (Dump.store server ns settings testName cwd tree sent).1.1 = tree ∨
    ∃ pods, (Dump.store server ns settings testName cwd tree sent).1.1
      = ((Document.artifacts (Dump.name ns) (Dump.resource pods)).store cwd
          (settings.testDir testName) tree).1 := by
  simp only [Dump.store, bind, StateT.bind]
  rcases server.listPods ns sent with ⟨answer, sent'⟩
  cases answer with
  | error cause => exact .inl rfl
  | ok pods => exact .inr ⟨pods, rfl⟩

/-! ## Runs -/

namespace Program

/-- The tree after a dump is that of the dump, whether or not it was refused. -/
theorem dumpPods_tree {w : World} {context : Option Text} {server : Server} (ns : Text)
    (testName : Option Text) (h : w.access.connect context = .ok server) :
    (dumpPods w ns context testName).tree
      = (Dump.store server ns w.settings testName w.cwd w.tree []).1.1 := by
  simp only [dumpPods, h, StateT.run]
  rcases Dump.store server ns w.settings testName w.cwd w.tree [] with ⟨⟨tree, refused⟩, requests⟩
  cases refused <;> rfl

/-- A run leaves the tree as it was, or stores artifacts with the names of its command in the
directory of its command. -/
theorem perform_tree (w : World) (command : Command) :
    (perform w command).tree = w.tree ∨
    ∃ dir artifacts, Footprint.directory? w.settings command = some dir ∧
      (∀ e ∈ artifacts.entries, e.1 ∈ Footprint.names command) ∧
      (perform w command).tree = (Artifacts.store artifacts w.cwd dir w.tree).1 := by
  cases command with
  | collect cluster since outputDir testName =>
    simp only [perform, collect]
    split
    · exact .inl rfl
    · next server hconnect =>
      exact .inr ⟨_, _, rfl, fun e he => Collection.mem_names_of_mem_artifacts he,
        Artifacts.save_fst _ w.settings testName outputDir w.cwd w.tree⟩
  | filter since file =>
    simp only [perform, filter]
    split <;> exact .inl rfl
  | report cluster testName startedAt endedAt passed skipLogs write =>
    cases hsource : reportSource w cluster skipLogs with
    | error why =>
      simp only [perform, report, hsource]
      exact .inl rfl
    | ok source =>
      cases passed with
      | true =>
        simp only [perform, report, hsource]
        exact .inl rfl
      | false =>
        simp only [perform, report, hsource]
        split
        next entries requests hentries =>
          split
          · exact .inl rfl
          · cases write with
            | false => exact .inl rfl
            | true =>
              exact .inr ⟨_, _, rfl,
                fun e he => List.mem_singleton.2 (Artifacts.fst_of_mem_single he),
                Artifacts.save_fst _ w.settings (some testName) none w.cwd w.tree⟩
  | storeControllerLogs cluster =>
    simp only [perform, storeControllerLogs]
    split
    · exact .inl rfl
    · next server hconnect =>
      exact .inr ⟨_, _, rfl, fun e he => Collection.mem_names_of_mem_artifacts he, rfl⟩
  | dumpPods ns context testName =>
    cases hconnect : w.access.connect context with
    | error why =>
      simp only [perform, dumpPods, hconnect]
      exact .inl rfl
    | ok server =>
      rw [perform, dumpPods_tree ns testName hconnect]
      refine (Dump.store_fst_cases server ns w.settings testName w.cwd w.tree []).imp id ?_
      rintro ⟨pods, hstore⟩
      exact ⟨_, _, rfl, fun e he => List.mem_singleton.2 (Artifacts.fst_of_mem_single he), hstore⟩

/-- What is new or changed after a run is a directory on the way to that of its command, or a file
that one of the names of its command leads to. -/
theorem find?_perform_cases (w : World) (command : Command) (loc : Location) :
    (perform w command).tree.find? loc = w.tree.find? loc ∨
    ∃ dir, Footprint.directory? w.settings command = some dir ∧
      (w.tree.find? loc = none ∧ loc ∈ dir.through w.cwd ∧
        (perform w command).tree.find? loc = some (.directory 0o775) ∨
      ∃ name ∈ Footprint.names command, loc = (dir.join name).location w.cwd ∧
        (perform w command).tree.LeadsToFile w.cwd (dir.join name) ∧
        ∃ content, (perform w command).tree.find? loc
          = some (.file (w.tree.fileModeAt loc) content)) := by
  rcases perform_tree w command with hsame | ⟨dir, artifacts, hdir, hnames, htree⟩
  · exact .inl (by rw [hsame])
  · rw [htree]
    rcases artifacts.find?_store_cases w.cwd dir w.tree loc with hsame | hmade | ⟨e, he, hwritten⟩
    · exact .inl hsame
    · exact .inr ⟨dir, hdir, .inl hmade⟩
    · obtain ⟨hloc, hleads, hfind⟩ := hwritten
      exact .inr ⟨dir, hdir, .inr ⟨e.1, hnames e he, hloc, hleads, e.2, hfind⟩⟩

end Program

/-! ## Names that a command line gives -/

namespace CommandLine

/-- The names of the namespaces that a command line gives to its command. -/
def Command.givenNamespaces : Command → List Text
  | .collect cluster .. => cluster.namespaces.map ControllerNamespace.name
  | .filter .. => []
  | .report cluster .. => cluster.namespaces.map ControllerNamespace.name
  | .storeControllerLogs cluster => cluster.namespaces.map ControllerNamespace.name
  | .dumpPods ns .. => [ns]

/-- A command connects to the server of a context, or of the current one when it names none. -/
def Command.Connects (context : Option Text) : Command → Prop
  | .collect cluster .. => cluster.context = context
  | .filter .. => False
  | .report cluster _ _ _ _ skipLogs _ => skipLogs = false ∧ cluster.context = context
  | .storeControllerLogs cluster => cluster.context = context
  | .dumpPods _ given _ => given = context

/-- The namespaces that are asked have plain names when those that were given have. -/
theorem ClusterChoice.plain_of_mem_asked {choice : ClusterChoice} {ns : ControllerNamespace}
    (h : ∀ name ∈ choice.namespaces.map ControllerNamespace.name, '/' ∉ name)
    (hns : ns ∈ choice.asked) : '/' ∉ ns.name := by
  rw [asked] at hns
  split at hns
  · have hdefaults : ∀ ns ∈ ControllerNamespace.defaults, '/' ∉ ns.name := by decide
    exact hdefaults ns hns
  · exact h ns.name (List.mem_map_of_mem hns)

end CommandLine

/-- Files are written under plain names when the given namespaces have plain names. -/
theorem Footprint.plain_of_mem_names {command : Command} {name : Text}
    (h : ∀ ns ∈ command.givenNamespaces, '/' ∉ ns) (hname : name ∈ Footprint.names command) :
    '/' ∉ name := by
  have hlogs : ∀ cluster : ClusterChoice,
      (∀ ns ∈ cluster.namespaces.map ControllerNamespace.name, '/' ∉ ns) →
      name ∈ cluster.asked.map (fun ns => Collection.artifactName ns.name) → '/' ∉ name := by
    intro cluster hplain hmem
    obtain ⟨ns, hns, rfl⟩ := List.mem_map.1 hmem
    exact Collection.plain_artifactName (cluster.plain_of_mem_asked hplain hns)
  cases command with
  | collect cluster since outputDir testName => exact hlogs cluster h hname
  | filter since file => cases hname
  | report cluster testName startedAt endedAt passed skipLogs write =>
    rw [List.mem_singleton.1 hname]
    decide
  | storeControllerLogs cluster => exact hlogs cluster h hname
  | dumpPods ns context testName =>
    rw [List.mem_singleton.1 hname]
    have hprefix : '/' ∉ "pods-".toList := by decide
    exact List.not_mem_append (List.not_mem_append hprefix (h ns List.mem_cons_self)) (by decide)

/-! ## Runs that store nothing -/

namespace Program

variable {w : World} {command : Command}

/-- When a command leaves the tree as it is. -/
inductive StoresNothing (w : World) : Command → Prop where
  /-- The rest of a log is only printed. -/
  | filter (since : Instant) (file : Option Path) : StoresNothing w (.filter since file)
  /-- A report is only printed. -/
  | printed (cluster : ClusterChoice) (testName : Text) (startedAt : Instant)
      (endedAt : Option Instant) (passed skipLogs : Bool) :
      StoresNothing w (.report cluster testName startedAt endedAt passed skipLogs false)
  /-- There is no report on a test that passed. -/
  | passed (cluster : ClusterChoice) (testName : Text) (startedAt : Instant)
      (endedAt : Option Instant) (skipLogs write : Bool) :
      StoresNothing w (.report cluster testName startedAt endedAt true skipLogs write)
  /-- There is no server to talk to. -/
  | unconnected {command : Command} {context : Option Text} {why : Failure}
      (connects : command.Connects context)
      (refused : w.access.connect context = .error why) : StoresNothing w command
  /-- The pods that are to be dumped are not listed. -/
  | unlisted {ns : Text} {context testName : Option Text} {server : Server} {why : Failure}
      (connected : w.access.connect context = .ok server)
      (refused : (server.listPods ns []).1 = .error why) :
      StoresNothing w (.dumpPods ns context testName)

/-- A command without a directory leaves the tree as it is. -/
theorem perform_tree_of_directory?_eq_none (h : Footprint.directory? w.settings command = none) :
    (perform w command).tree = w.tree := by
  obtain hsame | ⟨dir, -, hdir, -⟩ := perform_tree w command
  · exact hsame
  · cases h.symm.trans hdir

/-- Without a server to talk to nothing happens. -/
theorem perform_eq_of_connects {context : Option Text} {why : Failure}
    (connects : command.Connects context)
    (refused : w.access.connect context = .error why) :
    perform w command = w.untouched (.failed why) := by
  cases command with
  | collect cluster since outputDir testName =>
    obtain rfl : cluster.context = context := connects
    simp only [perform, collect, refused]
  | filter since file => cases connects
  | report cluster testName startedAt endedAt passed skipLogs write =>
    obtain ⟨rfl, rfl⟩ := connects
    have hsource : reportSource w cluster false = .error why := by
      rw [reportSource, refused]
      rfl
    simp only [perform, report, hsource]
  | storeControllerLogs cluster =>
    obtain rfl : cluster.context = context := connects
    simp only [perform, storeControllerLogs, refused]
  | dumpPods ns given testName =>
    obtain rfl : given = context := connects
    simp only [perform, dumpPods, refused]

theorem perform_tree_of_storesNothing (h : StoresNothing w command) :
    (perform w command).tree = w.tree := by
  cases h with
  | filter since file => exact perform_tree_of_directory?_eq_none rfl
  | printed cluster testName startedAt endedAt passed skipLogs =>
    exact perform_tree_of_directory?_eq_none rfl
  | passed cluster testName startedAt endedAt skipLogs write =>
    apply perform_tree_of_directory?_eq_none
    rw [Footprint.directory?, Bool.not_true, Bool.and_false, if_neg Bool.false_ne_true]
  | unconnected connects refused => rw [perform_eq_of_connects connects refused, World.untouched]
  | unlisted connected refused =>
    rename_i ns context testName server why
    rw [perform, dumpPods_tree ns testName connected]
    simp only [Dump.store, bind, StateT.bind]
    rcases hlist : server.listPods ns [] with ⟨answer, sent⟩
    rw [hlist] at refused
    obtain rfl : answer = .error why := refused
    rfl

/-! ## Which runs touch the tree, and where -/

/-- A file that a command may write under a plain name is directly in the directory of the
command. -/
theorem eq_of_find?_perform_ne {loc : Location}
    (hplain : ∀ name ∈ Footprint.names command, '/' ∉ name)
    (hne : (perform w command).tree.find? loc ≠ w.tree.find? loc) :
    ∃ dir, Footprint.directory? w.settings command = some dir ∧
      (w.tree.find? loc = none ∧ loc ∈ dir.through w.cwd ∧
        (perform w command).tree.find? loc = some (.directory 0o775) ∨
      ∃ name ∈ Footprint.names command, loc = name :: dir.location w.cwd ∧
        ∃ content, (perform w command).tree.find? loc
          = some (.file (w.tree.fileModeAt loc) content)) := by
  obtain hsame | ⟨dir, hdir, hmade | hwritten⟩ := find?_perform_cases w command loc
  · exact absurd hsame hne
  · exact ⟨dir, hdir, .inl hmade⟩
  · obtain ⟨name, hname, hloc, hleads, hfile⟩ := hwritten
    obtain ⟨hnil, hordinary⟩ := Artifacts.ordinary_of_leadsToFile (hplain name hname) hleads
    rw [Path.location_join (hplain name hname) hnil hordinary] at hloc
    exact ⟨dir, hdir, .inr ⟨name, hname, hloc, hfile⟩⟩

/-- Words that make no command leave the tree as it is, and so does a command that only prints,
finds no server, or is to dump pods that are not listed, and any command where there is no working
directory.  Any other run changes nothing but what its command is for: what is new or changed is a
missing directory on the way to that of the command, or one of the files of the command directly in
it.  A resource that refuses to be written as a document leaves the tree as it is. -/
theorem touched_by_run (ts : List Text) (w : World)
    (hplain : ∀ invocation, Invocation.parse ts = .ok invocation →
      ∀ ns ∈ invocation.command.givenNamespaces, '/' ∉ ns) :
    (∀ why, Invocation.parse ts = .error why → (run ts w).tree = w.tree) ∧
    (∀ invocation, Invocation.parse ts = .ok invocation →
      (StoresNothing w invocation.command ∨ ¬ w.tree.IsDirectory w.cwd →
        (run ts w).tree = w.tree) ∧
      ∀ loc, (run ts w).tree.find? loc ≠ w.tree.find? loc →
        ∃ dir, Footprint.directory? w.settings invocation.command = some dir ∧
          (w.tree.find? loc = none ∧ loc ∈ dir.through w.cwd ∧
            (run ts w).tree.find? loc = some (.directory 0o775) ∨
          ∃ name ∈ Footprint.names invocation.command, loc = name :: dir.location w.cwd ∧
            ∃ content, (run ts w).tree.find? loc
              = some (.file (w.tree.fileModeAt loc) content))) ∧
    ∀ reason name settings testName cwd tree,
      Document.store (.error reason) name settings testName cwd tree
        = (tree, some (.yaml name reason)) := by
  refine ⟨fun why hparse => ?_, fun invocation hparse => ?_, fun _ _ _ _ _ _ => rfl⟩
  · rw [run_of_stop hparse, World.tree_stopped]
  · rw [run_of_command hparse]
    by_cases hcwd : w.tree.IsDirectory w.cwd
    · rw [if_pos hcwd]
      refine ⟨fun h => perform_tree_of_storesNothing (h.resolve_right (not_not_intro hcwd)),
        fun loc => eq_of_find?_perform_ne fun name hname => ?_⟩
      exact Footprint.plain_of_mem_names (hplain invocation hparse) hname
    · rw [if_neg hcwd]
      exact ⟨fun _ => rfl, fun loc hne => absurd rfl hne⟩

/-- Collecting the logs of one namespace into a missing directory makes that directory and one file
in it, whatever else is there. -/
theorem touched_by_collecting_one_namespace :
    let ts := ["collect", "--namespace=n", "--output-dir=d"].map String.toList
    let w : World := .plain (.ofFound [([['e']], .file 0o600 [1])])
      (.outside (some ⟨"main".toList, fun _ => some Server.unreachable⟩)) ⟨0, 0, by decide⟩
    (run ts w).tree.find? ["n.log".toList, ['d']] ≠ none ∧
    ∀ loc, (run ts w).tree.find? loc ≠ w.tree.find? loc →
      loc = [['d']] ∨ loc = ["n.log".toList, ['d']] := by
  intro ts w
  let command : Command := .collect ⟨[⟨['n'], ['n']⟩], none⟩ none (some ⟨['d']⟩) none
  have hparse : Invocation.parse ts = .ok ⟨command, false⟩ := by decide +kernel
  have hplain : ∀ invocation, Invocation.parse ts = .ok invocation →
      ∀ ns ∈ invocation.command.givenNamespaces, '/' ∉ ns := by
    intro invocation h
    obtain rfl := Except.ok.inj (hparse.symm.trans h)
    decide
  refine ⟨by decide +kernel, fun loc hne => ?_⟩
  obtain ⟨dir, hdir, hmade | hwritten⟩ := ((touched_by_run ts w hplain).2.1 _ hparse).2 loc hne
  · obtain rfl : ⟨['d']⟩ = dir := Option.some.inj hdir
    exact .inl (List.mem_singleton.1 hmade.2.1)
  · obtain rfl : ⟨['d']⟩ = dir := Option.some.inj hdir
    obtain ⟨name, hname, hloc, -⟩ := hwritten
    rw [List.mem_singleton.1 hname] at hloc
    exact .inr hloc

end Program

end Evidence
