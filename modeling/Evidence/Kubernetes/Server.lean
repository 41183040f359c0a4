import Evidence.Kubernetes.Pod
import Evidence.Kubernetes.Request
import Evidence.Kubernetes.Status

/-!
# API servers

What a cluster answers, and a source of pods that asks it.

Main definitions:

- `Fault` and `Request.fault?`: why a question cannot be put.
- `RequestError`: why a server gave no answer, and its wording.
- `Server`: what a server answers.
- `Server.source`: a source that asks a server and keeps the requests that it received.
-/

namespace Evidence.Kubernetes

/-! ## Questions that cannot be put -/

/-- Why a question cannot be put, so that nothing is sent. -/
inductive Fault where
  /-- The address is too long. -/
  | tooLong
  /-- The address holds a character that may not stand there. -/
  | malformed
deriving DecidableEq, Repr

/-- The wording of a fault. -/
def Fault.message : Fault → Text
  | tooLong => "uri too long".toList
  | malformed => "invalid uri character".toList

/-- Why a question was not put, in words. -/
def Fault.failure (fault : Fault) : Failure :=
  let built := "failed to build request: ".toList ++ fault.message
  ⟨"Failed to build request: ".toList ++ built, [built, fault.message]⟩

/-- Why a question cannot be put. -/
def Request.fault? (r : Request) : Option Fault :=
  if addressLimit < Text.byteLength r.address then some .tooLong
  else if isAddress r.address then none
  else some .malformed

/-! ## Refusals -/

/-- Why a server gave no answer. -/
inductive RequestError where
  /-- The server refused the answer. -/
  | refused (status : Status)
  /-- The answer broke off before its end, or is none that can be read.  The words for that are not
  those of the server. -/
  | interrupted (why : Failure)
  /-- No connection to the server could be made. -/
  | unreachable
deriving DecidableEq, Repr

/-- Why a server gave no answer, in words. -/
def RequestError.failure : RequestError → Failure
  | refused status =>
    ⟨"ApiError: ".toList ++ status.summary ++ " (".toList ++ status.details ++ [')'],
      [status.summary]⟩
  | interrupted why => why
  | unreachable =>
    ⟨"ServiceError: client error (Connect)".toList,
      ["client error (Connect)".toList, "tcp connect error".toList,
        "Network is unreachable (os error 101)".toList]⟩

/-- Whether a server received a question, judged by what came back. -/
def isReceived {α : Type} : Except RequestError α → Bool
  | .ok _ => true
  | .error e => e ≠ .unreachable

/-- What is made of an answer does not change whether the question was received. -/
@[simp] theorem isReceived_map {α β : Type} (f : α → β) (answer : Except RequestError α) :
    isReceived (answer.map f) = isReceived answer := by
  cases answer <;> rfl

/-! ## Servers -/

/-- What a server answers. -/
structure Server where
  pods : (ns : Text) → Except RequestError (List Pod)
  log : (ns pod container : Text) → Except RequestError Blob

namespace Server

/-- A server to which no connection can be made. -/
def unreachable : Server where
  pods _ := .error .unreachable
  log _ _ _ := .error .unreachable

/-- Put a question to a server, if it can be put, and note it if the server received it. -/
def ask {α : Type} (request : Request) (answer : Except RequestError α) :
    StateM (List Request) (Except Failure α) :=
  fun sent =>
    match request.fault? with
    | some fault => (.error fault.failure, sent)
    | none =>
      (answer.mapError RequestError.failure, if isReceived answer then sent ++ [request] else sent)

/-- Ask a server for the pods of a namespace. -/
def listPods (server : Server) (ns : Text) : StateM (List Request) (Except Failure (List Pod)) :=
  ask (.pods ns) (server.pods ns)

/-- Ask a server for a log.  Bytes that are no text are replaced. -/
def readLog (server : Server) (ns pod container : Text) :
    StateM (List Request) (Except Failure Text) :=
  ask (.log ns pod container) ((server.log ns pod container).map Utf8.decodeLossy)

/-- A source that asks a server and keeps the requests that it received, the first one first. -/
def source (server : Server) : PodSource (List Request) where
  listPods ns := do return (← server.listPods ns).map fun pods => pods.map Pod.listing
  containerLog := server.readLog

end Server

end Evidence.Kubernetes
