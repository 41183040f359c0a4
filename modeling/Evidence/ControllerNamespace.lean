import Evidence.Text.Blank

/-!
# Controller namespaces

The namespaces whose pods are asked for logs, each labelled with the service that it hosts.

Main definitions:

- `ControllerNamespace`: a label and the name of a namespace.
- `ControllerNamespace.parse`: reading `label=name` or a bare name.
- `ControllerNamespace.defaults`: the namespaces asked when none is given.
-/

namespace Evidence

/-- A namespace of the cluster and the label of the service that it hosts. -/
structure ControllerNamespace where
  label : Text
  name : Text
deriving DecidableEq, Repr

namespace ControllerNamespace

/-- A text gives no namespace when nothing is left for the name; `written` is the text, trimmed. -/
structure EmptyName where
  written : Text
deriving DecidableEq, Repr

/-- The wording for a text without a name. -/
def EmptyName.message (e : EmptyName) : Text :=
  "empty namespace in '".toList ++ e.written ++ ['\'']

/-- What stands before and after the first equals sign; a text without one is its own label
and its own name. -/
def sides (written : Text) : Text × Text :=
  match written.dropWhile (· != '=') with
  | [] => (written, written)
  | _ :: name => (written.takeWhile (· != '='), name)

/-- Read `label=name`, all parts trimmed.  An empty label becomes the name. -/
def parse (t : Text) : Except EmptyName ControllerNamespace :=
  let written := Text.trim t
  let (left, right) := sides written
  let label := Text.trim left
  let name := Text.trim right
  if name = [] then .error ⟨written⟩
  else .ok ⟨if label = [] then name else label, name⟩

/-- The namespaces asked when none is given. -/
def defaults : List ControllerNamespace :=
  [⟨"Build Service".toList, "build-service".toList⟩,
    ⟨"JVM Build Service".toList, "jvm-build-service".toList⟩,
    ⟨"Application Service".toList, "application-service".toList⟩,
    ⟨"Image Controller".toList, "image-controller".toList⟩]

end ControllerNamespace

end Evidence
