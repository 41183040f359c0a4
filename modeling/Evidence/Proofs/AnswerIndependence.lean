import Evidence.Proofs.AskedNamespaces
import Evidence.Proofs.TouchedTree

/-!
# What answers do not decide

Two runs that collect logs and store them may be answered by different clusters.  They end alike and
leave trees of one shape: answers go into the contents of the files of logs, and nowhere else.

Main definitions:

- `Kubernetes.Access.SameContexts`: access to servers under the same contexts, whatever the servers
  answer.
- `Outcome.Alike`: outcomes that differ in what files hold at most.

Main results:

- `Kubernetes.Access.connect_cases`: a context is refused alike, or both have a server for it.
- `Program.alike_run`: what the two runs have in common.
- `Program.answers_do_not_decide`: where the two runs may differ.
-/

namespace Evidence

open FileTree CommandLine Kubernetes

/-! ## Access to the same contexts -/

namespace Kubernetes

namespace Kubeconfig

variable {config config' : Option Kubeconfig}

/-- Two kubeconfigs have the same contexts when the same one is current and servers are known for
the same names.  The servers may answer as they like. -/
def SameContexts : (config config' : Option Kubeconfig) → Prop
  | none, none => True
  | some config, some config' => config.current = config'.current ∧
      ∀ context, (config.server? context).isSome = (config'.server? context).isSome
  | _, _ => False

/-- A context is looked up alike where the contexts are the same. -/
theorem lookup_cases (h : SameContexts config config') (context : Option Text) :
    (∃ why, lookup config context = .error why ∧ lookup config' context = .error why) ∨
      ∃ server server', lookup config context = .ok server ∧
        lookup config' context = .ok server' := by
  cases config with
  | none =>
    cases config' with
    | none => exact .inl ⟨missing, rfl, rfl⟩
    | some config' => cases h
  | some config =>
    cases config' with
    | none => cases h
    | some config' =>
      obtain ⟨hcurrent, hservers⟩ := h
      have hfound := hservers (context.getD config'.current)
      simp only [lookup, hcurrent]
      cases hserver : config.server? (context.getD config'.current) with
      | none =>
        rw [hserver, Option.isSome_none, eq_comm, Option.isSome_eq_false_iff,
          Option.isNone_iff_eq_none] at hfound
        rw [hfound]
        exact .inl ⟨_, rfl, rfl⟩
      | some server =>
        rw [hserver, Option.isSome_some, eq_comm] at hfound
        obtain ⟨server', hserver'⟩ := Option.isSome_iff_exists.1 hfound
        rw [hserver']
        exact .inr ⟨server, server', rfl, rfl⟩

end Kubeconfig

namespace Access

variable {access access' : Access}

/-- Two runs have access under the same contexts when their kubeconfigs have the same contexts and
both runs are in a cluster, or neither is and for the same reason. -/
structure SameContexts (access access' : Access) : Prop where
  kubeconfig : Kubeconfig.SameContexts access.kubeconfig access'.kubeconfig
  inCluster : ∀ why, access.inCluster = .error why ↔ access'.inCluster = .error why

/-- Where the contexts are the same, there is no server for the same reason, or there are two. -/
theorem connect_cases (h : SameContexts access access') (context : Option Text) :
    (∃ why, access.connect context = .error why ∧ access'.connect context = .error why) ∨
      ∃ server server', access.connect context = .ok server ∧
        access'.connect context = .ok server' := by
  rw [connect, connect]
  obtain ⟨reason, hleft, hright⟩ | ⟨server, server', hleft, hright⟩ :=
    Kubeconfig.lookup_cases h.kubeconfig context
  · rw [hleft, hright]
    cases context with
    | some context => exact .inl ⟨_, rfl, rfl⟩
    | none =>
      cases hcluster : access.inCluster with
      | error outside =>
        rw [(h.inCluster outside).1 hcluster]
        exact .inl ⟨_, rfl, rfl⟩
      | ok server =>
        cases hcluster' : access'.inCluster with
        | error outside => cases hcluster.symm.trans ((h.inCluster outside).2 hcluster')
        | ok server' => exact .inr ⟨server, server', rfl, rfl⟩
  · rw [hleft, hright]
    exact .inr ⟨server, server', rfl, rfl⟩

end Access

end Kubernetes

/-! ## Two runs -/

/-- Artifacts with the same names are saved alike in one tree, whatever their contents are. -/
theorem Artifacts.sameShape_save {artifacts artifacts' : Artifacts}
    (hnames : artifacts.keys = artifacts'.keys) (settings : Settings) (testName : Option Text)
    (base : Option Path) (cwd : Location) (tree : FileTree) :
    SameShape (artifacts.save settings testName base cwd tree).1
        (artifacts'.save settings testName base cwd tree).1 ∧
      (artifacts.save settings testName base cwd tree).2
        = (artifacts'.save settings testName base cwd tree).2 := by
  obtain ⟨hshape, hrefused⟩ :=
    sameShape_store hnames cwd (base.getD (settings.testDir testName)) tree
  rw [save_fst, save_fst, save_snd, save_snd, hrefused]
  exact ⟨hshape, rfl⟩

/-- Outcomes are alike when they end alike and leave trees of one shape. -/
structure Outcome.Alike (ran ran' : Outcome) : Prop where
  ending : ran'.ending = ran.ending
  shape : SameShape ran.tree ran'.tree

namespace Program

variable {w : World} {access : Access} {command : Command} {ts : List Text}
  {invocation : Invocation}

/-- Runs are alike when no server is found for either, for one reason. -/
theorem alike_of_refused {context : Option Text} {why : Failure}
    (connects : command.Connects context)
    (refused : w.access.connect context = .error why)
    (refused' : access.connect context = .error why) :
    (perform w command).Alike (perform { w with access } command) := by
  rw [perform_eq_of_connects connects refused, perform_eq_of_connects connects refused']
  exact ⟨rfl, .refl w.tree⟩

/-- Logs are collected alike from two servers. -/
theorem alike_collect {server server' : Server} {cluster : ClusterChoice}
    (connected : w.access.connect cluster.context = .ok server)
    (connected' : access.connect cluster.context = .ok server')
    (since : Option Instant) (outputDir : Option Path) (testName : Option Text) :
    (collect w cluster since outputDir testName).Alike
      (collect { w with access } cluster since outputDir testName) := by
  let capture := (since.map Capture.since).getD .whole
  -- The names of the artifacts are those of the namespaces, whatever is answered.
  have hnames := Collection.keys_artifacts_congr server.source server'.source capture capture
    cluster.asked [] []
  obtain ⟨hshape, hanswer⟩ :=
    Artifacts.sameShape_save hnames w.settings testName outputDir w.cwd w.tree
  simp only [collect, connected, connected']
  exact ⟨congrArg Ending.ofSave hanswer.symm, hshape⟩

/-- Logs of controllers are stored alike from two servers. -/
theorem alike_storeControllerLogs {server server' : Server} {cluster : ClusterChoice}
    (connected : w.access.connect cluster.context = .ok server)
    (connected' : access.connect cluster.context = .ok server') :
    (storeControllerLogs w cluster).Alike
      (storeControllerLogs { w with access } cluster) := by
  have hnames := Collection.keys_artifacts_congr server.source server'.source .whole .whole
    cluster.asked [] []
  obtain ⟨hshape, -⟩ := Artifacts.sameShape_store hnames w.cwd w.settings.controllerLogsDir w.tree
  simp only [storeControllerLogs, connected, connected']
  exact ⟨rfl, hshape⟩

/-- Runs that store logs of clusters with the same contexts are alike. -/
theorem alike_perform
    (hname : command.name = .collect ∨ command.name = .storeControllerLogs)
    (haccess : Access.SameContexts w.access access) :
    (perform w command).Alike (perform { w with access } command) := by
  cases command with
  | collect cluster since outputDir testName =>
    obtain ⟨why, refused, refused'⟩ | ⟨server, server', connected, connected'⟩ :=
      Access.connect_cases haccess cluster.context
    · exact alike_of_refused rfl refused refused'
    · exact alike_collect connected connected' since outputDir testName
  | filter since file => rcases hname with h | h <;> cases h
  | report cluster testName startedAt endedAt passed skipLogs write =>
    rcases hname with h | h <;> cases h
  | storeControllerLogs cluster =>
    obtain ⟨why, refused, refused'⟩ | ⟨server, server', connected, connected'⟩ :=
      Access.connect_cases haccess cluster.context
    · exact alike_of_refused rfl refused refused'
    · exact alike_storeControllerLogs connected connected'
  | dumpPods ns context testName => rcases hname with h | h <;> cases h

/-- Runs with the words of a command line are alike when they store logs of clusters with the same
contexts, or carry out no command. -/
theorem alike_run
    (hname : ∀ invocation, Invocation.parse ts = .ok invocation →
      invocation.command.name = .collect ∨ invocation.command.name = .storeControllerLogs)
    (haccess : Access.SameContexts w.access access) :
    (run ts w).Alike (run ts { w with access }) := by
  cases hparse : Invocation.parse ts with
  | error why =>
    rw [run_of_stop hparse, run_of_stop hparse]
    refine ⟨rfl, fun loc => ?_⟩
    rw [World.tree_stopped, World.tree_stopped]
  | ok invocation =>
    rw [run_of_command hparse, run_of_command hparse]
    by_cases hcwd : w.tree.IsDirectory w.cwd
    · rw [if_pos hcwd, if_pos hcwd]
      exact alike_perform (hname invocation hparse) haccess
    · rw [if_neg hcwd, if_neg hcwd]
      exact ⟨rfl, .refl w.tree⟩

/-- A file that is there after a run was there before, or is one of those that its command is
for. -/
theorem exists_name_of_file {mode : Nat} {content : Blob} {loc : Location}
    (hfile : (run ts w).tree.find? loc = some (.file mode content)) :
    w.tree.find? loc = some (.file mode content) ∨
      ∃ invocation dir, Invocation.parse ts = .ok invocation ∧
        Footprint.directory? w.settings invocation.command = some dir ∧
        ∃ name ∈ Footprint.names invocation.command, loc = (dir.join name).location w.cwd := by
  obtain hsame | ⟨invocation, hparse, hrun⟩ := run_cases ts w
  · rw [hsame] at hfile
    exact .inl hfile
  · rw [hrun] at hfile
    obtain hsame | ⟨dir, hdir, hmade | hwritten⟩ := find?_perform_cases w invocation.command loc
    · exact .inl (hsame.symm.trans hfile)
    · cases hfile.symm.trans hmade.2.2
    · obtain ⟨name, hname, hloc, -⟩ := hwritten
      exact .inr ⟨invocation, dir, hparse, hdir, name, hname, hloc⟩

/-- Where runs that are alike leave different entries, these are files that the command is for, with
one mode. -/
theorem files_of_find?_run_ne {loc : Location}
    (h : (run ts w).Alike (run ts { w with access }))
    (hne : (run ts { w with access }).tree.find? loc ≠ (run ts w).tree.find? loc) :
    ∃ invocation dir, Invocation.parse ts = .ok invocation ∧
      Footprint.directory? w.settings invocation.command = some dir ∧
      (∃ name ∈ Footprint.names invocation.command, loc = (dir.join name).location w.cwd) ∧
      ∃ mode content content', (run ts w).tree.find? loc = some (.file mode content) ∧
        (run ts { w with access }).tree.find? loc = some (.file mode content') := by
  obtain hsame | ⟨mode, content, content', hfile, hfile'⟩ := h.shape.find?_cases loc
  · exact absurd hsame hne
  · obtain hold | ⟨invocation, dir, hparse, hdir, hname⟩ := exists_name_of_file hfile
    · obtain hold' | ⟨invocation, dir, hparse, hdir, hname⟩ := exists_name_of_file hfile'
      · exact absurd (hfile'.trans (hold'.symm.trans (hold.trans hfile.symm))) hne
      · exact ⟨invocation, dir, hparse, hdir, hname, mode, content, content', hfile, hfile'⟩
    · exact ⟨invocation, dir, hparse, hdir, hname, mode, content, content', hfile, hfile'⟩

/-- Once there is a server to talk to, controller logs are stored without a failure. -/
theorem ending_storeControllerLogs {cluster : ClusterChoice} {server : Server}
    (h : w.access.connect cluster.context = .ok server) :
    (perform w (.storeControllerLogs cluster)).ending = .done := by
  simp only [perform, storeControllerLogs, h]
  rfl

/-- What a cluster answers does not decide whether logs are stored.

Let the words of a command line ask for the logs of namespaces to be stored, or be refused.  Runs
over two clusters with the same contexts then end alike, with the same message, and leave entries of
the same kinds and modes at the same places.  The only difference between the trees is in the
contents of the files of logs.  To store controller logs does not fail once there is a server to
talk to, in a working directory that is there. -/
theorem answers_do_not_decide (ts : List Text) (w : World) (access : Access)
    (hname : ∀ invocation, Invocation.parse ts = .ok invocation →
      invocation.command.name = .collect ∨ invocation.command.name = .storeControllerLogs)
    (haccess : Access.SameContexts w.access access) :
    let ran := run ts w
    let ran' := run ts { w with access }
    ran'.ending = ran.ending ∧
    (∀ loc, (ran'.tree.find? loc).map Entry.outline = (ran.tree.find? loc).map Entry.outline) ∧
    (∀ loc, ran'.tree.find? loc ≠ ran.tree.find? loc →
      ∃ invocation dir, Invocation.parse ts = .ok invocation ∧
        Footprint.directory? w.settings invocation.command = some dir ∧
        (∃ name ∈ Footprint.names invocation.command, loc = (dir.join name).location w.cwd) ∧
        ∃ mode content content', ran.tree.find? loc = some (.file mode content) ∧
          ran'.tree.find? loc = some (.file mode content')) ∧
    ∀ invocation cluster server, Invocation.parse ts = .ok invocation →
      invocation.command = .storeControllerLogs cluster → w.tree.IsDirectory w.cwd →
      w.access.connect cluster.context = .ok server → ran.ending.code = 0 := by
  intro ran ran'
  have halike : ran.Alike ran' := alike_run hname haccess
  refine ⟨halike.ending, halike.shape.symm, fun loc hne => files_of_find?_run_ne halike hne, ?_⟩
  intro invocation cluster server hparse hcommand hcwd hconnect
  have hran : ran = perform w invocation.command := run_of_isDirectory hparse hcwd
  rw [hran, hcommand, ending_storeControllerLogs hconnect]
  rfl

/-- Whether or not the server can be reached, controller logs are stored in a file of one mode.
What the file holds is another matter. -/
theorem answers_do_not_decide_when_unreachable :
    let ts := ["store-controller-logs", "--namespace=n"].map String.toList
    let access (server : Server) : Access := .outside (some ⟨['c'], fun _ => some server⟩)
    let container : Yaml.Value := .record [("name".toList, .text ['c'])]
    let pod : Pod := ⟨[("spec".toList, .record [("containers".toList, .list [container])])]⟩
    let answering : Server := ⟨fun _ => .ok [pod], fun _ _ _ => .ok [65, 10]⟩
    let w : World := .plain (.ofFound []) (access .unreachable) ⟨0, 0, by decide⟩
    let ran := run ts w
    let ran' := run ts { w with access := access answering }
    let file := (w.settings.controllerLogsDir.join "n.log".toList).location w.cwd
    ran.ending.code = 0 ∧ ran'.ending = ran.ending ∧ ran'.tree.find? file ≠ ran.tree.find? file ∧
      (ran'.tree.find? file).map Entry.outline = (ran.tree.find? file).map Entry.outline := by
  intro ts access container pod answering w ran ran' file
  let cluster : ClusterChoice := ⟨[⟨['n'], ['n']⟩], none⟩
  have hparse : Invocation.parse ts = .ok ⟨.storeControllerLogs cluster, false⟩ := by decide +kernel
  have hname : ∀ invocation, Invocation.parse ts = .ok invocation →
      invocation.command.name = .collect ∨ invocation.command.name = .storeControllerLogs := by
    intro invocation h
    obtain rfl := Except.ok.inj (hparse.symm.trans h)
    exact .inr rfl
  have haccess : Access.SameContexts w.access (access answering) :=
    ⟨⟨rfl, fun _ => rfl⟩, fun _ => Iff.rfl⟩
  obtain ⟨hending, hshape, -, hcode⟩ :=
    answers_do_not_decide ts w (access answering) hname haccess
  refine ⟨?_, hending, ?_, hshape file⟩
  · exact hcode _ cluster .unreachable hparse rfl rfl rfl
  · decide +kernel

end Program

end Evidence
