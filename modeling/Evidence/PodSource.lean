import Evidence.Failure

/-!
# Pod sources

Where pods and their logs come from.  A source may be asked to list the pods of a namespace and
for the log of a container; it may remember what it was asked.

Main definitions:

- `PodContainers`: a pod as far as logs need it.
- `PodSource`: a source whose memory is a state.
- `Call` and `PodSource.recorded`: the questions put to a source, and a source that keeps them.
-/

namespace Evidence

/-- The containers of a pod, in the order in which the pod names them. -/
structure PodContainers where
  pod : Text
  initContainers : List Text
  containers : List Text
deriving DecidableEq, Repr

/-- All containers of a pod; those that set it up come first, as they run before the others. -/
def PodContainers.all (p : PodContainers) : List Text :=
  p.initContainers ++ p.containers

/-- A source of pods and logs.  Its answers may depend on a state, which each question may
change. -/
structure PodSource (σ : Type) where
  listPods : (ns : Text) → StateM σ (Except Failure (List PodContainers))
  containerLog : (ns pod container : Text) → StateM σ (Except Failure Text)

/-- A question put to a source. -/
inductive Call where
  | list (ns : Text)
  | log (ns pod container : Text)
deriving DecidableEq, Repr

namespace PodSource

/-- Ask first, then note the question. -/
def noting {σ ε : Type} (call : Call) (ask : StateM σ ε) : StateM (σ × List Call) ε :=
  fun (s, calls) =>
    let (answer, s) := ask s
    (answer, (s, calls ++ [call]))

/-- A source that answers like another one and keeps the questions, the first one first. -/
def recorded {σ : Type} (source : PodSource σ) : PodSource (σ × List Call) where
  listPods ns := noting (.list ns) (source.listPods ns)
  containerLog ns pod container :=
    noting (.log ns pod container) (source.containerLog ns pod container)

/-- A source without a memory. -/
def constant (listPods : Text → Except Failure (List PodContainers))
    (containerLog : Text → Text → Text → Except Failure Text) : PodSource Unit where
  listPods ns := pure (listPods ns)
  containerLog ns pod container := pure (containerLog ns pod container)

end PodSource

end Evidence
