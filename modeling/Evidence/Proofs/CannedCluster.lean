import Evidence.Proofs.AlikeSources
import Evidence.Proofs.SentRequests
import Evidence.Proofs.StoredLogs

/-!
# Canned clusters

A cluster that is asked over the network and a source that holds its answers are the same to a
collection, as long as the names in them are names of objects.  One request is sent for each
question that the source is asked, unless no connection can be made for it.

Main definitions:

- `Kubernetes.Server.canned`: a source that holds the answers of a server.
- `Kubernetes.Server.receives`: whether a question comes to a server.
- `Call.line`: the request that is sent for a question.

Main results:

- `Kubernetes.Server.alikeOver_canned`: a server that goes by addresses answers like the source that
  holds its answers.
- `Collection.ofNamespaces_canned`: the same is collected from both, and the requests are those of
  the questions.
-/

namespace Evidence

open Kubernetes

/-! ## Answers at hand -/

/-- An answer at hand has the text of a refusal, and nothing of what is behind it. -/
def Kubernetes.Server.atHand {α : Type} (answer : Except RequestError α) : Except Failure α :=
  answer.mapError fun e => ⟨e.failure.message, []⟩

/-- A source that has the answers of a server at hand: the containers of the pods of a namespace,
and the logs as texts. -/
def Kubernetes.Server.canned (server : Server) : PodSource Unit :=
  .constant (fun ns => atHand ((server.pods ns).map fun pods => pods.map Pod.listing))
    fun ns pod container => atHand ((server.log ns pod container).map Utf8.decodeLossy)

/-- Whether a question comes to a server, which then answers it, refuses it, or breaks off. -/
def Kubernetes.Server.receives (server : Server) : Call → Bool
  | .list ns => isReceived (server.pods ns)
  | .log ns pod container => isReceived (server.log ns pod container)

/-- The request that is sent for a question. -/
def Call.line : Call → Text
  | .list ns => "GET /api/v1/namespaces/".toList ++ ns ++ "/pods?".toList
  | .log ns pod container => "GET /api/v1/namespaces/".toList ++ ns ++ "/pods/".toList ++ pod
      ++ "/log?&container=".toList ++ container

/-! ## Requests for questions -/

namespace Kubernetes

variable {server : Server} {ns pod container : Text}

/-- The pods of a namespace are asked for by the request of the question. -/
theorem Request.text_pods (h : IsObjectName ns) : (pods ns).text = (Call.list ns).line := by
  rw [(isOrdinary_pods h).text_eq]
  show "GET ".toList ++ ((namespacesPath ++ ns ++ "/pods".toList) ++ ['?'])
    = "GET /api/v1/namespaces/".toList ++ ns ++ "/pods?".toList
  simp only [List.append_assoc]
  rfl

/-- A log is asked for by the request of the question. -/
theorem Request.text_log (hns : IsObjectName ns) (hpod : IsObjectName pod)
    (hcontainer : IsObjectName container) :
    (log ns pod container).text = (Call.log ns pod container).line := by
  rw [(isOrdinary_log hns hpod hcontainer).text_eq, query_log hcontainer.toIsName]
  show "GET ".toList ++ ((namespacesPath ++ ns ++ "/pods".toList ++ '/' :: pod ++ "/log".toList)
      ++ '?' :: ("&container=".toList ++ container))
    = "GET /api/v1/namespaces/".toList ++ ns ++ "/pods/".toList ++ pod
      ++ "/log?&container=".toList ++ container
  simp only [List.append_assoc]
  rfl

/-! ## A server and its answers at hand -/

namespace Server

/-- What was sent to a server agrees with what a source was asked that the server receives. -/
def SentFor (server : Server) (sent : List Request) (asked : Unit × List Call) : Prop :=
  sent.map Request.text = (asked.2.filter server.receives).map Call.line

/-- A question that can be put has the answer that is at hand, and is sent if it is received. -/
theorem runAlike_ask {α : Type} {request : Request} {call : Call} (h : request.IsOrdinary)
    (hline : request.text = call.line) {answer : Except RequestError α}
    (hreceived : server.receives call = isReceived answer) :
    RunAlike server.SentFor SameAnswer (ask request answer)
      (PodSource.noting call (pure (atHand answer))) := by
  intro sent asked hsent
  have hask : ask request answer sent = (answer.mapError RequestError.failure,
      if isReceived answer then sent ++ [request] else sent) := by
    rw [ask, h.fault?_eq_none]
  rw [hask]
  constructor
  · cases answer with
    | error e => exact .error rfl
    | ok value => exact .ok value
  · show (if isReceived answer then sent ++ [request] else sent).map Request.text
      = ((asked.2 ++ [call]).filter server.receives).map Call.line
    rw [List.filter_append, List.map_append, ← hsent]
    by_cases hcall : isReceived answer
    · have hlast : [call].filter server.receives = [call] := by simp [hreceived, hcall]
      rw [if_pos hcall, hlast, List.map_append, List.map_singleton, List.map_singleton, hline]
    · have hlast : [call].filter server.receives = [] := by simp [hreceived, hcall]
      rw [if_neg hcall, hlast, List.map_nil, List.append_nil]

/-- A source that asks a server for pods asks it for their containers. -/
theorem source_listPods (server : Server) (ns : Text) :
    server.source.listPods ns
      = ask (.pods ns) ((server.pods ns).map fun pods => pods.map Pod.listing) := by
  funext sent
  simp only [source, listPods, bind, StateT.bind, ask]
  cases (Request.pods ns).fault? with
  | some fault => rfl
  | none => cases server.pods ns <;> rfl

/-- A server that goes by addresses answers over a namespace as the source that has its answers at
hand, when the logs that are to be asked for are those of objects. -/
theorem alikeOver_canned (hns : IsObjectName ns)
    (hasked : ∀ pods, server.pods ns = .ok pods →
      ∀ asked ∈ Collection.containersOf (pods.map Pod.listing),
        IsObjectName asked.1 ∧ IsObjectName asked.2) :
    PodSource.AlikeOver server.SentFor
      (fun pod container => IsObjectName pod ∧ IsObjectName container)
      server.routed.source server.canned.recorded ns where
  listPods := by
    rw [source_listPods, routed_pods server hns.toIsName.isPlain]
    apply RunAlike.and_left (runAlike_ask (Request.isOrdinary_pods hns) (Request.text_pods hns)
      (isReceived_map _ _).symm)
    intro sent listed hlisted
    -- Pods that are listed over the network are those of the cluster.
    have hanswer := ok_of_ask hlisted
    cases hpods : server.pods ns with
    | error e =>
      rw [hpods] at hanswer
      cases hanswer
    | ok pods =>
      rw [hpods] at hanswer
      obtain rfl := Except.ok.inj hanswer
      exact hasked pods hpods
  containerLog := by
    intro pod container hknown
    obtain ⟨hpod, hcontainer⟩ := hknown
    rw [source_containerLog, readLog,
      routed_log server container hns.toIsName.isPlain hpod.toIsName.isPlain]
    exact runAlike_ask (Request.isOrdinary_log hns hpod hcontainer)
      (Request.text_log hns hpod hcontainer) (isReceived_map _ _).symm

end Server

end Kubernetes

namespace Collection

/-- To collect from a cluster is to collect from the source that has its answers at hand.

The texts and the artifacts are the same, for whole logs as well as from an instant on, whether or
not pods are listed and logs are read.  The requests that are sent are, one for one and in their
order, those of the questions that the source is asked; if there are questions for which no
connection can be made, these are left out. -/
theorem ofNamespaces_canned (cluster : Server) (capture : Capture)
    {namespaces : List ControllerNamespace} (hns : ∀ ns ∈ namespaces, IsObjectName ns.name)
    (hasked : ∀ ns ∈ namespaces, ∀ pods, cluster.pods ns.name = .ok pods →
      ∀ asked ∈ containersOf (pods.map Pod.listing),
        IsObjectName asked.1 ∧ IsObjectName asked.2) :
    let collected := ofNamespaces cluster.routed.source capture namespaces []
    let canned := ofNamespaces cluster.canned.recorded capture namespaces ((), [])
    collected.1 = canned.1 ∧ artifacts collected.1 = artifacts canned.1 ∧
      collected.2.map Request.text = (canned.2.2.filter cluster.receives).map Call.line ∧
      ((∀ call ∈ canned.2.2, cluster.receives call) →
        collected.2.map Request.text = canned.2.2.map Call.line) := by
  intro collected canned
  have halike := runAlike_ofNamespaces
    (fun ns hmem => Server.alikeOver_canned (hns ns hmem) (hasked ns hmem)) capture
  obtain ⟨htexts, hsent⟩ := halike [] ((), []) rfl
  refine ⟨htexts, congrArg artifacts htexts, hsent, fun hall => ?_⟩
  rw [← List.filter_eq_self.2 hall]
  exact hsent

/-- A namespace whose logs are read in part, and one whose pods are not listed, both for want of
permission. -/
theorem ofNamespaces_canned_with_failures :
    let container (name : Char) : Yaml.Value := .record [("name".toList, .text [name])]
    let pod : Pod := ⟨[("metadata".toList, .record [("name".toList, .text ['p'])]),
      ("spec".toList, .record [("initContainers".toList, .list [container 'i']),
        ("containers".toList, .list [container 'c'])])]⟩
    let forbidden : RequestError := .refused {
      state := "Failure".toList
      code := 403
      reason := "Forbidden".toList
      message := "no permission".toList }
    let cluster : Server := ⟨fun ns => if ns = ['n'] then .ok [pod] else .error forbidden,
      fun _ _ name => if name = ['i'] then .ok [0xFF] else .error forbidden⟩
    let namespaces : List ControllerNamespace := [⟨['L'], ['n']⟩, ⟨['M'], ['m']⟩]
    let collected := ofNamespaces cluster.routed.source .whole namespaces []
    let canned := ofNamespaces cluster.canned.recorded .whole namespaces ((), [])
    collected.1 = canned.1 ∧
      collected.2.map Request.text = ["GET /api/v1/namespaces/n/pods?",
        "GET /api/v1/namespaces/n/pods/p/log?&container=i",
        "GET /api/v1/namespaces/n/pods/p/log?&container=c",
        "GET /api/v1/namespaces/m/pods?"].map String.toList := by
  intro container pod forbidden cluster namespaces collected canned
  have hletter : ∀ c : Char, c.isLower = true → IsObjectName [c] := by
    intro c hlower
    refine ⟨⟨List.cons_ne_nil c [], fun d hd => ?_⟩, by simp⟩
    rw [List.mem_singleton.1 hd]
    exact .inl hlower
  have hns : ∀ ns ∈ namespaces, IsObjectName ns.name := by
    intro ns hmem
    obtain rfl | rfl := List.mem_pair.1 hmem
    · exact hletter 'n' rfl
    · exact hletter 'm' rfl
  have hasked : ∀ ns ∈ namespaces, ∀ pods, cluster.pods ns.name = .ok pods →
      ∀ asked ∈ containersOf (pods.map Pod.listing),
        IsObjectName asked.1 ∧ IsObjectName asked.2 := by
    intro ns hmem pods hpods asked hasked
    obtain rfl | rfl := List.mem_pair.1 hmem
    · obtain rfl : [pod] = pods := Except.ok.inj hpods
      have hasked' : asked ∈ [(['p'], ['i']), (['p'], ['c'])] := hasked
      obtain rfl | rfl := List.mem_pair.1 hasked'
      · exact ⟨hletter 'p' rfl, hletter 'i' rfl⟩
      · exact ⟨hletter 'p' rfl, hletter 'c' rfl⟩
    · cases hpods
  obtain ⟨htexts, -, -, hsent⟩ := ofNamespaces_canned cluster .whole hns hasked
  have hreceived : ∀ call ∈ canned.2.2, cluster.receives call := by decide +kernel
  exact ⟨htexts, (hsent hreceived).trans (by decide +kernel)⟩

end Collection

end Evidence
