import Evidence.Json.Number
import Evidence.Kubernetes.PodShape
import Evidence.PodSource

/-!
# Pods

A pod as the API knows it.

Main definitions:

- `Pod` and `Pod.ofValue?`: a pod, read from a value.
- `Pod.received?`: a pod, read from a value that was sent.
- `Pod.document`: a pod as a document.
- `Pod.listing`: the containers of a pod.
-/

namespace Evidence.Kubernetes

open Yaml (Value)

/-- A pod is its known fields besides the version and the kind, which all pods share. -/
structure Pod where
  fields : List (Text × Value)

namespace Pod

/-! ## Reading and writing -/

/-- The version of the API that pods belong to. -/
def apiVersion : Text :=
  "v1".toList

/-- The kind of object that pods are. -/
def kind : Text :=
  "Pod".toList

/-- Whether a field has one text wherever it is given. -/
def agrees (entries : List (Text × Value)) (name : String) (expected : Text) : Bool :=
  entries.all fun e => e.1 != name.toList || e.2.text? == some expected

/-- The pod that a value is.  Its version and its kind may be left out but not differ. -/
def ofValue? : Value → Option Pod
  | .record entries =>
    if agrees entries "apiVersion" apiVersion && agrees entries "kind" kind then
      (Shape.readFields? PodShape.fields (.record entries)).map Pod.mk
    else none
  | _ => none

/-- The pod that a value shows after it was sent as JSON. -/
def received? (v : Value) : Option Pod :=
  ofValue? (Json.received v)

/-- A pod as a document. -/
def document (p : Pod) : Value :=
  .record (("apiVersion".toList, .text apiVersion) :: ("kind".toList, .text kind) :: p.fields)

/-! ## Containers -/

/-- The metadata of a pod. -/
def metadata (p : Pod) : Value :=
  p.document.field "metadata".toList

/-- The name of a pod, or else what its name is to be generated from. -/
def name (p : Pod) : Text :=
  match (p.metadata.field "name".toList).text?, (p.metadata.field "generateName".toList).text? with
  | some name, _ => name
  | none, some name => name
  | none, none => []

/-- The names of the containers that one field of the specification holds. -/
def containerNames (p : Pod) (field : String) : List Text :=
  let containers := ((p.document.field "spec".toList).field field.toList).items
  containers.map fun c => ((c.field "name".toList).text?).getD []

/-- The containers of a pod. -/
def listing (p : Pod) : PodContainers :=
  ⟨p.name, p.containerNames "initContainers", p.containerNames "containers"⟩

end Pod

end Evidence.Kubernetes
