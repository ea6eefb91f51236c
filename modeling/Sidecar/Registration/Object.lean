import Sidecar.Certificate.Basic
import Sidecar.Config.Settings
import Sidecar.Text.Base64

/-!
The object that registers the webhook with the API server.
-/

namespace Sidecar

/-- The parts of a registration that differ between webhooks. -/
structure Registration where
  name : String
  serviceName : String
  serviceNamespace : String
  caBundle : Content
  deriving DecidableEq, Repr

namespace Registration

/-- The label that pods ask for injection with. -/
def injectLabel : String := "mca.k8s.io/inject"

def webhookPath : String := "/mutate"

def build (c : WebhookConfig) (ca : Content) : Registration :=
  ⟨c.webhookName, c.serviceName, c.serviceNamespace, ca⟩

/-- The registration as an API object, with the version it replaces if there is one. The bundle is given
by the caller, as it is written. -/
def toValue (r : Registration) (version : Option Nat) (caBundle : Value) : Value := .object [
  ("apiVersion", .str "admissionregistration.k8s.io/v1"),
  ("kind", .str "MutatingWebhookConfiguration"),
  ("metadata", .object ([("name", .str r.name)]
    ++ (version.map fun v => ("resourceVersion", .str (toString v))).toList)),
  ("webhooks", .list [.object [
    ("admissionReviewVersions", .strings ["v1", "v1beta1"]),
    ("clientConfig", .object [
      ("caBundle", caBundle),
      ("service", .object [
        ("name", .str r.serviceName),
        ("namespace", .str r.serviceNamespace),
        ("path", .str webhookPath)])]),
    ("failurePolicy", .str "Fail"),
    ("name", .str (r.name ++ ".k8s.io")),
    ("objectSelector", .object [("matchLabels", .object [(injectLabel, .str "true")])]),
    ("reinvocationPolicy", .str "IfNeeded"),
    ("rules", .list [.object [
      ("apiGroups", .strings [""]),
      ("apiVersions", .strings ["v1"]),
      ("operations", .strings ["CREATE"]),
      ("resources", .strings ["pods"])]]),
    ("sideEffects", .str "None")]])]

end Registration

end Sidecar
