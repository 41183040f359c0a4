import Evidence.Document
import Evidence.Kubernetes.Server

/-!
# Dumps of pods

The pods of a namespace, stored as a document.

Main definitions:

- `Dump.resource` and `Dump.name`: the document of some pods, and what it is called.
- `Dump.store`: ask a server for the pods of a namespace and store them.
-/

namespace Evidence.Kubernetes

/-- Why the pods of a namespace were not stored. -/
inductive DumpError where
  /-- They were not listed. -/
  | list (cause : Failure)
  /-- Their document was not stored. -/
  | store (error : StoreError)

/-- Why the pods of a namespace were not stored, in words. -/
def DumpError.failure : DumpError → Failure
  | list cause => cause
  | store error => error.failure

namespace Dump

/-- Some pods as one document. -/
def resource (pods : List Pod) : Yaml.Value :=
  .list (pods.map Pod.document)

/-- What the document with the pods of a namespace is called. -/
def name (ns : Text) : Text :=
  "pods-".toList ++ ns

/-- Ask a server for the pods of a namespace and store them in the directory of a test.  Pods
that are not listed leave the tree as it was. -/
def store (server : Server) (ns : Text) (settings : Settings) (testName : Option Text)
    (cwd : Location) (tree : FileTree) :
    StateM (List Request) (FileTree × Option DumpError) := do
  match ← server.listPods ns with
  | .error cause => return (tree, some (.list cause))
  | .ok pods =>
    let (tree, refused) := Document.store (.ok (resource pods)) (name ns) settings testName cwd tree
    return (tree, refused.map .store)

end Dump

end Evidence.Kubernetes
