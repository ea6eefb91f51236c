import Sidecar.Cluster.Access
import Sidecar.Config.Environment
import Sidecar.Log

/-!
Finding the API server: from within a pod of the cluster, and otherwise through a kubeconfig. A client
library looks in these places; what it finds there is up to it.
-/

namespace Sidecar

/-- How a client fails to load its configuration. -/
inductive LoadFailure where
  /-- There is none, or it is wrong. -/
  | configuration (text : String)
  /-- A system call has failed. -/
  | system (text : String)
  /-- Anything else, with its kind. -/
  | other (kind text : String)
  deriving DecidableEq, Repr

def LoadFailure.text : LoadFailure → String
  | .configuration text | .system text | .other _ text => text

/-- A client library, by what it loads: the access of a pod of the cluster, and that of a context of a
kubeconfig, by default its current one. -/
structure Client where
  inCluster : Environment → FileTree → Except LoadFailure ClusterAccess
  kubeconfig : Environment → FileTree → Option String → Except LoadFailure ClusterAccess

inductive ClusterError where
  | reported (text : String)
  /-- A failure that is not handled ends the attempt as it is. -/
  | unhandled (failure : LoadFailure)
  deriving DecidableEq, Repr

namespace ClusterError

/-- What a report on a failed attempt begins with. -/
def failure : String := "failed to load Kubernetes configuration: "

def isReported : ClusterError → Bool
  | .reported _ => true
  | .unhandled _ => false

def message : ClusterError → String
  | .reported text => text
  | .unhandled failure => failure.text

end ClusterError

/-- An attempt to find the API server. -/
structure ClusterLookup where
  result : Except ClusterError ClusterAccess
  log : List LogLine := []

/-- The kubeconfig is looked at only if the process has no configuration in a cluster. -/
def Client.load (client : Client) (env : Environment) (t : FileTree) (context : Option String) :
    ClusterLookup :=
  match client.inCluster env t with
  | .ok access => ⟨.ok access, [⟨.info, "Loaded in-cluster Kubernetes configuration"⟩]⟩
  | .error (.configuration _) =>
    match client.kubeconfig env t context with
    | .ok access =>
      ⟨.ok access, [⟨.info,
        "Loaded local Kubernetes configuration (context=" ++ context.getD "None" ++ ")"⟩]⟩
    | .error (.other kind text) => ⟨.error (.unhandled (.other kind text)), []⟩
    | .error failure => ⟨.error (.reported (ClusterError.failure ++ failure.text)), []⟩
  | .error failure => ⟨.error (.unhandled failure), []⟩

end Sidecar
