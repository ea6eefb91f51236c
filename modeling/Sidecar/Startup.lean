import Sidecar.Certificate.Bundle
import Sidecar.Cluster.Load
import Sidecar.Credentials
import Sidecar.Proxy.Endpoint
import Sidecar.Registration.Apply

/-!
What happens before the proxy and the webhook serve. The proxy first publishes the substitute
credentials; the webhook first registers itself with the API server.
-/

namespace Sidecar

/-- Why a server is not started. -/
inductive StartError where
  | proxyCertificate (error : CertificateError)
  | webhookCertificate (error : CertificateError)
  | credentials (error : CredentialError)
  | cluster (error : ClusterError)
  /-- The files that the access to the cluster names cannot be used. -/
  | trust (error : TrustError)
  | registration (error : ApiError)
  deriving DecidableEq, Repr

namespace StartError

/-- Whether the error is reported as that of a start; all others end it as they are. -/
def isReported : StartError → Bool
  | .credentials error => error.isReported
  | .cluster error => error.isReported
  | .trust _ => false
  | _ => true

def message : StartError → String
  | .proxyCertificate error => "failed to generate certificates: " ++ error.message
  | .webhookCertificate error => "failed to generate webhook certificates: " ++ error.message
  | .credentials error => error.message
  | .cluster error => error.message
  | .trust error => error.message
  | .registration error => "failed to apply mutating webhook: " ++ error.message

end StartError

/-- A server that takes requests, with the certificate that it shows. -/
structure Service where
  host : String
  port : Int
  bundle : CertificateBundle
  /-- The API server that requests are passed on to, if this is the proxy. -/
  endpoint : Option Proxy.Endpoint := none
  deriving DecidableEq, Repr

/-- What a start has led to. -/
structure Launch where
  result : Except StartError Service
  tree : FileTree
  log : List LogLine
  /-- The contexts for which the access to the cluster was looked up. -/
  contexts : List (Option String) := []
  /-- The registration of the webhook and the run that has applied it, if it has come to that. -/
  applied : Option (Registration × Registration.Run) := none

namespace Startup

private def note (message : String) : LogLine := ⟨.info, message⟩

/-- The names that containers of a pod have for the proxy in it. -/
def proxyDnsNames : List String := ["localhost"]

def proxyAddresses : List IpAddress := [IpAddress.loopback, IpAddress.loopback6]

/-- The way in which access to the cluster is found. -/
abbrev Lookup := FileTree → Option String → ClusterLookup

private def listening (name host : String) (port : Int) : LogLine :=
  note (name ++ " " ++ host ++ ":" ++ toString port)

/-- Starts the proxy of a pod, the namespace of which may be given. -/
def proxy (s : Settings) (given : Option (List UInt8)) (lookup : Lookup) (t : FileTree) : Launch :=
  let begun := [note "Starting MCA Proxy..."]
  match CertificateBundle.generate proxyDnsNames proxyAddresses with
  | .error e => ⟨.error (.proxyCertificate e), t, begun, [], none⟩
  | .ok bundle =>
    let files := Credentials.publishAll s given (.certificate bundle.authority) t
    let log := begun ++ files.log
    match files.result with
    | .error e => ⟨.error (.credentials e), files.tree, log, [], none⟩
    | .ok _ =>
      let found := lookup files.tree s.kubeContext
      let log := log ++ found.log
      match found.result with
      | .error e => ⟨.error (.cluster e), files.tree, log, [s.kubeContext], none⟩
      | .ok access =>
        match Proxy.Endpoint.ofAccess files.tree access with
        | .error e => ⟨.error (.trust e), files.tree, log, [s.kubeContext], none⟩
        | .ok endpoint =>
          let c := s.injection
          ⟨.ok ⟨c.serviceHost, c.servicePort, bundle, some endpoint⟩, files.tree,
            log ++ [note "Starting proxy server...",
              listening "MCA proxy listening on" c.serviceHost c.servicePort],
            [s.kubeContext], none⟩

/-- The webhook answers on all addresses. -/
def webhookHost : String := "0.0.0.0"

/-- What the API server is to a webhook that starts: the registrations it holds, and the calls it refuses. -/
structure Api where
  store : RegistrationStore := {}
  forced : Registration.ForcedFailures := {}

/-- Access to the cluster is looked up unless the API is given. -/
def webhook (s : Settings) (lookup : Option Lookup) (api : Api) (t : FileTree) : Launch :=
  let begun := [note "Starting MCA Webhook..."]
  match CertificateBundle.generate s.webhook.dnsNames [] with
  | .error e => ⟨.error (.webhookCertificate e), t, begun, [], none⟩
  | .ok bundle =>
    let found : Option ClusterLookup := lookup.map fun lookup => lookup t s.kubeContext
    let contexts := (found.map fun _ => s.kubeContext).toList
    let log := begun ++ (found.map (·.log)).getD []
    match found with
    | some ⟨.error e, _⟩ => ⟨.error (.cluster e), t, log, contexts, none⟩
    | _ =>
      let r := Registration.build s.webhook (.certificate bundle.authority)
      let run := r.apply api.forced api.store
      let log := log ++ run.log r
      match run.progress with
      | .failed e => ⟨.error (.registration e), t, log, contexts, some (r, run)⟩
      | _ =>
        ⟨.ok ⟨webhookHost, s.webhook.port, bundle, none⟩, t,
          log ++ [note "Starting webhook server...",
            listening "Webhook server started on" webhookHost s.webhook.port],
          contexts, some (r, run)⟩

end Startup

end Sidecar
