import Sidecar.Config.Injection

/-!
What the admission webhook is configured with, and the settings of a whole process.
-/

namespace Sidecar

open Schema (Checked FieldName)

structure WebhookConfig where
  /-- The name the webhook is registered under. -/
  webhookName : String := "mca-webhook"
  /-- The service in front of the webhook server. -/
  serviceName : String := "mca-webhook"
  serviceNamespace : String := "default"
  port : Int := 8443
  deriving DecidableEq, Repr

namespace WebhookConfig

def decode : Value → Checked WebhookConfig := Schema.model "WebhookConfig" fun es =>
  let default : WebhookConfig := {}
  let field {α : Type} (name : String) (d : α) (read : Value → Checked α) : Checked α :=
    (FieldName.plain name).withDefault d read es
  WebhookConfig.mk <$> field "webhook_name" default.webhookName Schema.text
    <*> field "service_name" default.serviceName Schema.text
    <*> field "namespace" default.serviceNamespace Schema.text
    <*> field "port" default.port Schema.integer

/-- The fields that the environment may set, with their variables. -/
def fieldVariables : List (String × String) := [
  ("webhook_name", "MCA_WEBHOOK_NAME"),
  ("service_name", "MCA_WEBHOOK_SERVICE"),
  ("namespace", "MCA_WEBHOOK_NAMESPACE"),
  ("port", "MCA_WEBHOOK_PORT")]

def ofValue (v : Value) : Except Schema.Report WebhookConfig := (decode v).report "WebhookConfig"

def ofEnvironment (env : Environment) : Except Schema.Report WebhookConfig :=
  ofValue (.map (env.overrides fieldVariables))

def toValue (c : WebhookConfig) : Value := .object [
  ("webhook_name", .str c.webhookName),
  ("service_name", .str c.serviceName),
  ("namespace", .str c.serviceNamespace),
  ("port", .int c.port)]

/-- The names under which the service is reached within the cluster. -/
def dnsNames (c : WebhookConfig) : List String :=
  let qualified := c.serviceName ++ "." ++ c.serviceNamespace
  [c.serviceName, qualified, qualified ++ ".svc", qualified ++ ".svc.cluster.local"]

end WebhookConfig

structure Settings where
  injection : InjectionConfig := {}
  webhook : WebhookConfig := {}
  /-- The directory that all credential files lie under. -/
  fsRoot : String := "/"
  /-- The kubeconfig context used outside of a cluster. -/
  kubeContext : Option String := none
  deriving DecidableEq, Repr

namespace Settings

def decode : Value → Checked Settings := Schema.model "Settings" fun es =>
  Settings.mk <$> (FieldName.plain "injection").withDefault {} InjectionConfig.decode es
    <*> (FieldName.plain "webhook").withDefault {} WebhookConfig.decode es
    <*> (FieldName.plain "fs_root").withDefault "/" Schema.text es
    <*> (FieldName.plain "kube_context").optional Schema.text es

def fsRootVariable : String := "MCA_FS_ROOT"

def kubeContextVariable : String := "K8S_MCA_CTX"

def ofValue (v : Value) : Except Schema.Report Settings := (decode v).report "Settings"

/-- All variables that the settings are taken from. -/
def variableNames : List String :=
  (InjectionConfig.fieldVariables ++ WebhookConfig.fieldVariables).map (·.2)
    ++ [fsRootVariable, kubeContextVariable]

def ofEnvironment (env : Environment) : Except Schema.Report Settings := do
  return {
    injection := ← InjectionConfig.ofEnvironment env
    webhook := ← WebhookConfig.ofEnvironment env
    fsRoot := (env.get? fsRootVariable).getD "/"
    kubeContext := env.get? kubeContextVariable }

def toValue (s : Settings) : Value := .object [
  ("injection", s.injection.toValue),
  ("webhook", s.webhook.toValue),
  ("fs_root", .str s.fsRoot),
  ("kube_context", Value.optional .str s.kubeContext)]

end Settings

end Sidecar
