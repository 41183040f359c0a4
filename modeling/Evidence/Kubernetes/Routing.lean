import Evidence.Kubernetes.Server

/-!
# Routing

A server sees the address of a question and not the names that were put into it.  A name with a
slash, a question mark or a number sign may thus lead to another question, or to none.

Main definitions:

- `Request.ofAddress?`: the question that an address puts.
- `Server.routed`: a server that goes by addresses.
-/

namespace Evidence.Kubernetes

/-! ## Reading addresses -/

namespace Request

/-- What stands in front of the name of a container in a query. -/
def containerField : Text :=
  "container=".toList

/-- The container that a query names first; without one its name is empty. -/
def containerIn (query : Text) : Text :=
  ((query.splitOn '&').findSome? containerField.isPrefixOf?).elim [] FormEncoded.read

/-- The question that the names of a path behind that of the namespaces put, together with a
query. -/
def ofNames? (names : List Text) (query : Text) : Option Request :=
  match names with
  | [ns, kind] => if kind = "pods".toList then some (.pods ns) else none
  | [ns, kind, pod, part] =>
    if kind = "pods".toList ∧ part = "log".toList then some (.log ns pod (containerIn query))
    else none
  | _ => none

/-- The question that an address puts: one for the pods of a namespace or for a log. -/
def ofAddress? (address : Text) : Option Request :=
  (namespacesPath.isPrefixOf? (Address.path address)).bind fun rest =>
    ofNames? (rest.splitOn '/') (Address.query address)

end Request

/-! ## Servers that go by addresses -/

namespace Server

/-- The refusal of a question that leads nowhere. -/
def notFound : RequestError :=
  .refused {
    state := "Failure".toList
    code := 404
    reason := "NotFound".toList
    message := "the server could not find the requested resource".toList }

/-- A server that answers the question that the address of a question puts.  A refusal is passed
on; an answer of the other kind counts as not found. -/
def routed (server : Server) : Server where
  pods ns :=
    match Request.ofAddress? (Request.pods ns).address with
    | some (.pods ns) => server.pods ns
    | some (.log ns pod container) => (server.log ns pod container).bind fun _ => .error notFound
    | none => .error notFound
  log ns pod container :=
    match Request.ofAddress? (Request.log ns pod container).address with
    | some (.log ns pod container) => server.log ns pod container
    | some (.pods ns) => (server.pods ns).bind fun _ => .error notFound
    | none => .error notFound

end Server

end Evidence.Kubernetes
