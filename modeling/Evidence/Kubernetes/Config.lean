import Evidence.Kubernetes.Server

/-!
# Access to servers

Which server a run talks to: one of a kubeconfig, or else that of the cluster which the run is in.

Main definitions:

- `Kubeconfig`: named contexts, one of them current.
- `Access`: where a run looks for servers.
- `Access.connect`: the server of a context.
-/

namespace Evidence.Kubernetes

/-! ## Kubeconfigs -/

/-- Named contexts with their servers, and the name of the current one. -/
structure Kubeconfig where
  current : Text
  server? : (context : Text) → Option Server

namespace Kubeconfig

/-- What is said of a context that is not there. -/
def unknownContext (context : Text) : Text :=
  "failed to load current context: ".toList ++ context

/-- What is said when there is no kubeconfig. -/
def missing : Text :=
  "failed to find the path of kubeconfig".toList

/-- The server of a context, or why there is none. -/
def lookup (config : Option Kubeconfig) (context : Option Text) : Except Text Server :=
  match config with
  | none => .error missing
  | some config =>
    let context := context.getD config.current
    match config.server? context with
    | some server => .ok server
    | none => .error (unknownContext context)

end Kubeconfig

/-! ## Access -/

/-- Where a run looks for servers: a kubeconfig, if there is one, and the cluster which the run is
in, or why it is in none. -/
structure Access where
  kubeconfig : Option Kubeconfig
  inCluster : Except Text Server

namespace Access

/-- What is said when a run is not inside a cluster. -/
def noCluster : Text :=
  "failed to read an incluster environment variable: environment variable not found".toList

/-- The access of a run that is in no cluster. -/
def outside (kubeconfig : Option Kubeconfig) : Access :=
  ⟨kubeconfig, .error noCluster⟩

/-- Why the server of a context was not found. -/
def notFound (context reason : Text) : Failure :=
  ⟨"Context '".toList ++ context ++ "' not found in kubeconfig: ".toList ++ reason, []⟩

/-- Why no server was found at all: the reasons of both places to look for one. -/
def notInferred (reason outside : Text) : Failure :=
  ⟨"failed to infer config: in-cluster: (".toList ++ outside ++ "), kubeconfig: (".toList
      ++ reason ++ [')'],
    [reason]⟩

/-- The server of the given context, or of the current one, in whose place the cluster may be that
the run is in.  Nothing is sent yet.  What else a client may find wrong with the settings of a
server, such as its certificates, is left out. -/
def connect (access : Access) (context : Option Text) : Except Failure Server :=
  match Kubeconfig.lookup access.kubeconfig context with
  | .ok server => .ok server
  | .error reason =>
    match context with
    | some context => .error (notFound context reason)
    | none => access.inCluster.mapError (notInferred reason)

end Access

end Evidence.Kubernetes
