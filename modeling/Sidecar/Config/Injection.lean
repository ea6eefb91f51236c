import Sidecar.Config.Environment

/-!
What sidecar injection is configured with.
-/

namespace Sidecar

open Schema (Checked FieldName)

/-- Which containers are redirected to the proxy: all of them, or those that mount the service
account path. -/
inductive RedirectPolicy where
  | always
  | mountedOnly
  deriving DecidableEq, Repr

namespace RedirectPolicy

def text : RedirectPolicy → String
  | .always => "always"
  | .mountedOnly => "mounted-only"

def decode (v : Value) : Checked RedirectPolicy :=
  if v = .str always.text then .ok .always
  else if v = .str mountedOnly.text then .ok .mountedOnly
  else .fail (.notOneOf [always.text, mountedOnly.text]) v

end RedirectPolicy

structure InjectionConfig where
  proxyImage : String := ""
  proxyImagePullPolicy : String := "IfNotPresent"
  /-- The user the sidecar runs as. -/
  proxyUserId : Int := 999
  sidecarName : String := "mca-proxy"
  /-- Where containers expect their service account credentials. -/
  serviceAccountPath : String := "/var/run/secrets/kubernetes.io/serviceaccount"
  /-- The volume that holds the substitute credentials. -/
  redirectVolumeName : String := "kube-api-access-mca-sa"
  /-- The volume that holds the sidecar's own credentials. -/
  credentialsVolumeName : String := "kube-api-access-mca-proxy"
  /-- Where the sidecar writes the substitute credentials. -/
  redirectMountPath : String := "/var/run/secrets/kubernetes.io/mca-serviceaccount"
  serviceHost : String := "127.0.0.1"
  servicePort : Int := 6443
  redirectPolicy : RedirectPolicy := .always
  deriving DecidableEq, Repr

namespace InjectionConfig

def decode : Value → Checked InjectionConfig := Schema.model "InjectionConfig" fun es =>
  let default : InjectionConfig := {}
  let field {α : Type} (name : String) (d : α) (read : Value → Checked α) : Checked α :=
    (FieldName.plain name).withDefault d read es
  InjectionConfig.mk <$> field "proxy_image" default.proxyImage Schema.text
    <*> field "proxy_image_pull_policy" default.proxyImagePullPolicy Schema.text
    <*> field "proxy_user_id" default.proxyUserId Schema.integer
    <*> field "sidecar_name" default.sidecarName Schema.text
    <*> field "service_account_path" default.serviceAccountPath Schema.text
    <*> field "redirect_volume_name" default.redirectVolumeName Schema.text
    <*> field "proxy_credentials_volume_name" default.credentialsVolumeName Schema.text
    <*> field "redirect_mount_path" default.redirectMountPath Schema.text
    <*> field "service_host" default.serviceHost Schema.text
    <*> field "service_port" default.servicePort Schema.integer
    <*> field "redirect_policy" default.redirectPolicy RedirectPolicy.decode

/-- The fields that the environment may set, with their variables. -/
def fieldVariables : List (String × String) := [
  ("proxy_image", "MCA_PROXY_IMAGE"),
  ("proxy_image_pull_policy", "MCA_PROXY_IMAGE_PULL_POLICY"),
  ("service_host", "MCA_SERVICE_HOST"),
  ("service_port", "MCA_SERVICE_PORT"),
  ("redirect_policy", "MCA_REDIRECT_POLICY")]

def ofValue (v : Value) : Except Schema.Report InjectionConfig := (decode v).report "InjectionConfig"

def ofEnvironment (env : Environment) : Except Schema.Report InjectionConfig :=
  ofValue (.map (env.overrides fieldVariables))

def toValue (c : InjectionConfig) : Value := .object [
  ("proxy_image", .str c.proxyImage),
  ("proxy_image_pull_policy", .str c.proxyImagePullPolicy),
  ("proxy_user_id", .int c.proxyUserId),
  ("sidecar_name", .str c.sidecarName),
  ("service_account_path", .str c.serviceAccountPath),
  ("redirect_volume_name", .str c.redirectVolumeName),
  ("proxy_credentials_volume_name", .str c.credentialsVolumeName),
  ("redirect_mount_path", .str c.redirectMountPath),
  ("service_host", .str c.serviceHost),
  ("service_port", .int c.servicePort),
  ("redirect_policy", .str c.redirectPolicy.text)]

end InjectionConfig

end Sidecar
