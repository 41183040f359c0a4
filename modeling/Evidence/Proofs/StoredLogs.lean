import Evidence.Proofs.Addresses
import Evidence.Proofs.CollectedArtifacts
import Evidence.Proofs.Storing

/-!
# Stored logs of controllers

What a cluster answers, byte for byte up to what is no text, is what ends up in the files.

Main definitions:

- `Utf8.Replaces`: a text that stands for bytes, with U+FFFD in each gap.
- `Kubernetes.Server.Answers`: a server that answers all questions over a namespace.

Main results:

- `Kubernetes.Server.isSteady_source`: the answers of a server do not depend on what was sent.
- `Collection.exists_logs_of_answers`: the text of a namespace that is answered throughout.
- `Collection.storedLogs_faithful`: what the files of controller logs hold.
-/

namespace Evidence

/-! ## Texts that stand for bytes -/

namespace Utf8

/-- A text stands for bytes when it has their characters, and U+FFFD in each gap. -/
def Replaces (bytes : Blob) (t : Text) : Prop :=
  ∃ found, Splits bytes found ∧ t = found.map (·.getD '\uFFFD')

/-- Bytes are decoded to the text that stands for them. -/
theorem replaces_decodeLossy (bytes : Blob) : Replaces bytes (decodeLossy bytes) :=
  ⟨parts bytes, parts_eq_iff.1 rfl, rfl⟩

/-- Bytes of texts are the bytes of what they are decoded to. -/
theorem encode_flatten_decodeLossy {logs : List Blob} (h : ∀ log ∈ logs, ∃ t, log = encode t) :
    encode (logs.map decodeLossy).flatten = logs.flatten := by
  induction logs with
  | nil => rfl
  | cons log logs ih =>
    obtain ⟨t, rfl⟩ := h log List.mem_cons_self
    have hrest := ih fun other hother => h other (List.mem_cons_of_mem _ hother)
    rw [List.map_cons, List.flatten_cons, encode_append, hrest, decodeLossy_encode,
      List.flatten_cons]

end Utf8

/-- What is there for each of some values is there for all of them in their order. -/
theorem exists_forall₂ {α β : Type} {R : α → β → Prop} {as : List α} (h : ∀ a ∈ as, ∃ b, R a b) :
    ∃ bs, List.Forall₂ R as bs := by
  induction as with
  | nil => exact ⟨[], .nil⟩
  | cons a as ih =>
    obtain ⟨b, hb⟩ := h a List.mem_cons_self
    obtain ⟨bs, hbs⟩ := ih fun a' ha => h a' (List.mem_cons_of_mem a ha)
    exact ⟨b :: bs, .cons hb hbs⟩

namespace Kubernetes.Server

variable {server : Server} {ns pod container : Text} {sent sent' : List Request}

/-! ## Answers of a server -/

/-- Whether a question is answered does not depend on what was sent. -/
theorem ask_fst {α : Type} (request : Request) (answer : Except RequestError α)
    (sent sent' : List Request) : (ask request answer sent).1 = (ask request answer sent').1 := by
  simp only [ask]
  cases request.fault? <;> rfl

/-- A question is answered when it can be sent and the server answers it. -/
theorem ok_of_ask {α : Type} {request : Request} {answer : Except RequestError α} {value : α}
    (h : (ask request answer sent).1 = .ok value) : answer = .ok value := by
  simp only [ask] at h
  cases hfault : request.fault? with
  | some fault => simp [hfault] at h
  | none =>
    cases answer with
    | error cause => simp [hfault, Except.mapError] at h
    | ok found => simpa [hfault, Except.mapError] using h

/-- A source that asks a server lists the containers of the pods that the server lists. -/
theorem source_listPods_fst (server : Server) (ns : Text) (sent : List Request) :
    (server.source.listPods ns sent).1
      = (server.listPods ns sent).1.map fun pods => pods.map Pod.listing := by
  simp only [source, bind, StateT.bind]
  rcases server.listPods ns sent with ⟨answer, sent'⟩
  rfl

/-- A source that asks a server reads the logs that the server reads. -/
theorem source_containerLog (server : Server) (ns pod container : Text) :
    server.source.containerLog ns pod container = server.readLog ns pod container := by
  simp only [source]

/-- The answers of a server do not depend on what was sent. -/
theorem isSteady_source (server : Server) : server.source.IsSteady := by
  constructor
  · intro ns sent sent'
    rw [source_listPods_fst, source_listPods_fst, listPods, ask_fst _ _ sent sent']
  · intro ns pod container sent sent'
    rw [source_containerLog, readLog, ask_fst _ _ sent sent']

/-- A server answers all questions over a namespace: it lists the pods, and gives the log of each of
their containers. -/
def Answers (server : Server) (ns : Text) : Prop :=
  ∃ pods, (server.listPods ns []).1 = .ok pods ∧
    ∀ asked ∈ Collection.containersOf (pods.map Pod.listing),
      ∃ text, (server.readLog ns asked.1 asked.2 []).1 = .ok text

/-- A server that goes by addresses and answers all questions over a namespace gives what it lists
and holds under these very names: the pods of the namespace and the logs of their containers. -/
theorem exists_logs_of_answers (hslash : '/' ∉ ns) (h : server.routed.Answers ns)
    (hnames : ∀ pods, server.pods ns = .ok pods → ∀ pod ∈ pods, IsName pod.name) :
    ∃ pods logs, server.pods ns = .ok pods ∧ (server.routed.listPods ns []).1 = .ok pods ∧
      List.Forall₂ (fun asked log => server.log ns asked.1 asked.2 = .ok log ∧
        (server.routed.readLog ns asked.1 asked.2 []).1 = .ok (Utf8.decodeLossy log))
        (Collection.containersOf (pods.map Pod.listing)) logs := by
  obtain ⟨pods, hlist, hlogs⟩ := h
  obtain ⟨hplain, hpods⟩ := pods_of_routed hslash (ok_of_ask hlist)
  have hread : ∀ asked ∈ Collection.containersOf (pods.map Pod.listing), ∃ log,
      server.log ns asked.1 asked.2 = .ok log ∧
        (server.routed.readLog ns asked.1 asked.2 []).1 = .ok (Utf8.decodeLossy log) := by
    intro asked hasked
    obtain ⟨text, htext⟩ := hlogs asked hasked
    have hpod : IsPlain asked.1 := by
      obtain ⟨listing, hlisting, hcontainer⟩ := List.mem_flatMap.1 hasked
      obtain ⟨pod, hpod, rfl⟩ := List.mem_map.1 hlisting
      obtain ⟨container, -, rfl⟩ := List.mem_map.1 hcontainer
      exact (hnames pods hpods pod hpod).isPlain
    have hanswer := ok_of_ask htext
    rw [routed_log server asked.2 hplain hpod] at hanswer
    cases hlog : server.log ns asked.1 asked.2 with
    | error cause => simp [hlog, Except.map] at hanswer
    | ok log =>
      rw [hlog] at hanswer
      refine ⟨log, rfl, ?_⟩
      rw [htext, ← Except.ok.inj hanswer]
  obtain ⟨logs, hforall⟩ := exists_forall₂ hread
  exact ⟨pods, logs, hpods, hlist, hforall⟩

end Kubernetes.Server

namespace Collection

open Kubernetes

variable {cluster : Server} {namespaces : List ControllerNamespace} {settings : Settings}
  {cwd : Location} {tree after : FileTree} {sent : List Request}

/-- The containers of listed pods: those of each pod in the order of the pods, its init containers
first. -/
theorem containersOf_map_listing (pods : List Pod) :
    containersOf (pods.map Pod.listing) = pods.flatMap fun pod =>
      (pod.containerNames "initContainers" ++ pod.containerNames "containers").map
        fun container => (pod.name, container) := by
  rw [containersOf, List.flatMap_map]
  rfl

/-- The text of a namespace over which a server answers all questions. -/
theorem ofNamespace_of_answers {server : Server} {ns : ControllerNamespace} {pods : List Pod}
    {logs : List Blob} (hlist : (server.listPods ns.name []).1 = .ok pods)
    (hlogs : List.Forall₂ (fun asked log =>
      (server.readLog ns.name asked.1 asked.2 []).1 = .ok (Utf8.decodeLossy log))
      (containersOf (pods.map Pod.listing)) logs) (sent : List Request) :
    (ofNamespace server.source .whole ns sent).1 = (logs.map Utf8.decodeLossy).flatten := by
  have hpods : (server.source.listPods ns.name sent).1 = .ok (pods.map Pod.listing) := by
    rw [server.isSteady_source.listPods ns.name sent [], Server.source_listPods_fst, hlist]
    rfl
  refine ofNamespace_whole hpods (List.forall₂_map_right_iff.2 (hlogs.imp fun asked log h s => ?_))
  rw [server.isSteady_source.containerLog ns.name asked.1 asked.2 s [],
    Server.source_containerLog, h]

/-- Once whole logs are stored, the file of a namespace holds the text of the namespace. -/
theorem readFile_of_store {server : Server} {ns : ControllerNamespace}
    (hslash : ∀ ns ∈ namespaces, '/' ∉ ns.name)
    (hstored : (storeControllerLogs server.source namespaces settings cwd tree sent).1
      = (after, none)) (hns : ns ∈ namespaces) :
    after.readFile cwd (settings.controllerLogsDir.join (artifactName ns.name))
      = .ok (Utf8.encode (ofNamespace server.source .whole ns sent).1) := by
  have hstore : (artifacts (ofNamespaces server.source .whole namespaces sent).1).store cwd
      settings.controllerLogsDir tree = (after, none) := hstored
  have hplain : ∀ e ∈ (artifacts (ofNamespaces server.source .whole namespaces sent).1).entries,
      '/' ∉ e.1 := by
    intro e he
    refine plain_of_mem_artifacts ?_ he
    rw [map_name_ofNamespaces]
    exact List.forall_mem_map.2 hslash
  exact Artifacts.readFile_of_save (Artifacts.save_of_store settings none hstore) hplain
    (SortedMap.mem_entries_iff.2
      (get?_artifacts_of_isSteady server.isSteady_source hns sent sent))

/-- Once whole logs are stored, the file of a namespace holds the logs of its containers and nothing
else: those of each pod in the order of the pods, with its init containers first, and each with
U+FFFD in the place of what is no text.  Logs that are texts are there byte for byte. -/
theorem storedLogs_faithful (hslash : ∀ ns ∈ namespaces, '/' ∉ ns.name)
    (hanswers : ∀ ns ∈ namespaces, cluster.routed.Answers ns.name)
    (hnames : ∀ ns ∈ namespaces, ∀ pods, cluster.pods ns.name = .ok pods →
      ∀ pod ∈ pods, IsName pod.name)
    (hstored : (storeControllerLogs cluster.routed.source namespaces settings cwd tree sent).1
      = (after, none)) :
    ∀ ns ∈ namespaces, ∃ pods logs texts,
      cluster.pods ns.name = .ok pods ∧
      List.Forall₂ (fun asked log => cluster.log ns.name asked.1 asked.2 = .ok log)
        (pods.flatMap fun pod =>
          (pod.containerNames "initContainers" ++ pod.containerNames "containers").map
            fun container => (pod.name, container)) logs ∧
      List.Forall₂ Utf8.Replaces logs texts ∧
      after.readFile cwd (settings.controllerLogsDir.join (ns.name ++ ".log".toList))
        = .ok (Utf8.encode texts.flatten) ∧
      ((∀ log ∈ logs, ∃ t, log = Utf8.encode t) →
        after.readFile cwd (settings.controllerLogsDir.join (ns.name ++ ".log".toList))
          = .ok logs.flatten) := by
  intro ns hns
  obtain ⟨pods, logs, hpods, hlist, hlogs⟩ :=
    Server.exists_logs_of_answers (hslash ns hns) (hanswers ns hns) (hnames ns hns)
  have htext := ofNamespace_of_answers hlist (hlogs.imp fun _ _ h => h.2) sent
  have hread := readFile_of_store hslash hstored hns
  rw [htext, artifactName] at hread
  refine ⟨pods, logs, logs.map Utf8.decodeLossy, hpods, ?_, ?_, hread, fun htexts => ?_⟩
  · rw [← containersOf_map_listing]
    exact hlogs.imp fun _ _ h => h.1
  · exact List.forall₂_map_right_iff.2
      (List.forall₂_same.2 fun log _ => Utf8.replaces_decodeLossy log)
  · rw [hread, Utf8.encode_flatten_decodeLossy htexts]

/-- A namespace that is given twice, with one pod of two containers. -/
theorem storedLogs_of_repeated_namespace :
    let container (name : Char) : Yaml.Value := .record [("name".toList, .text [name])]
    let pod : Pod := ⟨[("metadata".toList, .record [("name".toList, .text ['p'])]),
      ("spec".toList, .record [("initContainers".toList, .list [container 'i']),
        ("containers".toList, .list [container 'c'])])]⟩
    let cluster : Server := ⟨fun _ => .ok [pod], fun _ _ name => .ok (Utf8.encode name)⟩
    let settings : Settings := ⟨.standalone, ⟨['/']⟩, ⟨['/', 'd']⟩⟩
    let namespaces : List ControllerNamespace := [⟨['L'], ['n']⟩, ⟨['M'], ['n']⟩]
    ∃ after, (storeControllerLogs cluster.routed.source namespaces settings [] .empty []).1
        = (after, none) ∧
      after.readFile [] (settings.controllerLogsDir.join "n.log".toList)
        = .ok (Utf8.encode ['i', 'c']) := by
  intro container pod cluster settings namespaces
  have hnone : (storeControllerLogs cluster.routed.source namespaces settings [] .empty []).1.2
      = none := by decide
  rcases hstored : (storeControllerLogs cluster.routed.source namespaces settings [] .empty []).1
    with ⟨after, refused⟩
  rw [hstored] at hnone
  obtain rfl : refused = none := hnone
  have hname : ∀ ns ∈ namespaces, ns.name = ['n'] := by decide
  have hanswers : cluster.routed.Answers ['n'] := by
    have hlist : (cluster.routed.listPods ['n'] []).1 = .ok [pod] := rfl
    have hinit : (cluster.routed.readLog ['n'] ['p'] ['i'] []).1 = .ok ['i'] := rfl
    have hmain : (cluster.routed.readLog ['n'] ['p'] ['c'] []).1 = .ok ['c'] := rfl
    refine ⟨[pod], hlist, fun asked hasked => ?_⟩
    have hasked' : asked ∈ [(['p'], ['i']), (['p'], ['c'])] := hasked
    rcases List.mem_pair.1 hasked' with rfl | rfl
    · exact ⟨['i'], hinit⟩
    · exact ⟨['c'], hmain⟩
  have hnames : ∀ pods, cluster.pods ['n'] = .ok pods → ∀ pod ∈ pods, IsName pod.name := by
    rintro _ ⟨⟩ other hother
    rw [List.mem_singleton.1 hother]
    refine ⟨by decide, fun c hc => ?_⟩
    rw [List.mem_singleton.1 hc]
    decide
  obtain ⟨pods, logs, texts, hpods, hlogs, -, -, hread⟩ :=
    storedLogs_faithful (fun ns hns => hname ns hns ▸ by decide)
      (fun ns hns => hname ns hns ▸ hanswers) (fun ns hns => hname ns hns ▸ hnames) hstored
      ⟨['L'], ['n']⟩ List.mem_cons_self
  cases hpods
  have hlogs' : List.Forall₂ (fun asked log => cluster.log ['n'] asked.1 asked.2 = .ok log)
      [(['p'], ['i']), (['p'], ['c'])] logs := hlogs
  rcases hlogs' with _ | ⟨⟨⟩, _ | ⟨⟨⟩, ⟨⟩⟩⟩
  refine ⟨after, rfl, hread fun log hlog => ?_⟩
  rcases List.mem_pair.1 hlog with rfl | rfl
  · exact ⟨['i'], rfl⟩
  · exact ⟨['c'], rfl⟩

end Collection

end Evidence
