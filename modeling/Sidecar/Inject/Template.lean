import Sidecar.Config.Injection
import Sidecar.Pod.Model

/-!
What injection adds to a pod: the default sidecar, and the volumes it needs.
-/

namespace Sidecar

namespace InjectionConfig

/-- The default sidecar. Its own service account credentials are mounted where any container expects
them. -/
def sidecar (c : InjectionConfig) : Container where
  name := c.sidecarName
  image := some c.proxyImage
  imagePullPolicy := some c.proxyImagePullPolicy
  restartPolicy := some "Always"
  args := some ["proxy"]
  env := some [{
    name := "NAMESPACE"
    valueFrom := some [("fieldRef", .object [("fieldPath", .str "metadata.namespace")])] }]
  volumeMounts := some [
    { name := c.redirectVolumeName, mountPath := c.redirectMountPath },
    { name := c.credentialsVolumeName, mountPath := c.serviceAccountPath, readOnly := some true }]
  securityContext := some { runAsNonRoot := some true, runAsUser := some c.proxyUserId }

/-- The lifetime of a projected service account token. -/
def tokenExpirationSeconds : Int := 3607

/-- The access mode of projected files, `0644`. -/
def projectedFileMode : Int := 420

/-- The sidecar's credentials: a service account token, the cluster's certificate authority and the
namespace. -/
def credentialsVolume (c : InjectionConfig) : Volume where
  name := c.credentialsVolumeName
  projected := some [
    ("defaultMode", .int projectedFileMode),
    ("sources", .list [
      .object [("serviceAccountToken", .object [
        ("expirationSeconds", .int tokenExpirationSeconds), ("path", .str "token")])],
      .object [("configMap", .object [
        ("name", .str "kube-root-ca.crt"),
        ("items", .list [.object [("key", .str "ca.crt"), ("path", .str "ca.crt")]])])],
      .object [("downwardAPI", .object [
        ("items", .list [.object [
          ("path", .str "namespace"),
          ("fieldRef", .object [
            ("apiVersion", .str "v1"), ("fieldPath", .str "metadata.namespace")])]])])]])]

def redirectVolume (c : InjectionConfig) : Volume := { name := c.redirectVolumeName, emptyDir := some [] }

end InjectionConfig

end Sidecar
