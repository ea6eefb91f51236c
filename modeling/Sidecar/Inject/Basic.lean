import Sidecar.Inject.Template
import Sidecar.Value.Literal

/-!
Sidecar injection: the sidecar becomes the first init container, every other container is redirected
to it, and the volumes they mount are added to the pod.
-/

namespace Sidecar

/-- Why a pod is not injected. -/
inductive InjectError where
  | duplicateContainers (names : List String)
  | duplicateVolumes (names : List String)
  | sidecarAmongContainers (sidecar : String)
  | imageMissing
  /-- The port of the endpoint has too many digits to be written. -/
  | portTooLong
  deriving DecidableEq, Repr

/-- Callers of the injector report the errors that are its own. They do not expect that a number cannot be
written. -/
def InjectError.isForeseen : InjectError → Bool
  | .portTooLong => false
  | _ => true

def InjectError.message : InjectError → String
  | .duplicateContainers names => "duplicate container names: " ++ ", ".intercalate names
  | .duplicateVolumes names => "duplicate volume names: " ++ ", ".intercalate names
  | .sidecarAmongContainers sidecar => sidecar ++ " must be an init container, found it in containers"
  | .imageMissing => "proxy image is not configured (set MCA_PROXY_IMAGE)"
  | .portTooLong => Literal.tooManyDigits

/-- Adds a name to a list in ascending order without repetitions. -/
def insertName (name : String) : List String → List String
  | [] => [name]
  | n :: rest =>
    if name < n then name :: n :: rest
    else if name = n then n :: rest
    else n :: insertName name rest

/-- The names that occur more than once, each once, in ascending order. -/
def repeatedNames (names : List String) : List String :=
  (names.filter fun n => 1 < names.count n).foldr insertName []

namespace PodSpec

def inits (s : PodSpec) : List Container := s.initContainers.getD []

def containerNames (s : PodSpec) : List String := (s.inits ++ s.containers).map Container.name

def volumeNames (s : PodSpec) : List String := (s.volumes.getD []).map Volume.name

end PodSpec

namespace InjectionConfig

variable (c : InjectionConfig)

/-- Refuses pods in which the sidecar or a volume cannot be told by its name. -/
def validate (s : PodSpec) : Except InjectError Unit :=
  match repeatedNames s.containerNames, repeatedNames s.volumeNames with
  | n :: names, _ => .error (.duplicateContainers (n :: names))
  | [], n :: names => .error (.duplicateVolumes (n :: names))
  | [], [] =>
    if c.sidecarName ∈ s.containers.map Container.name then .error (.sidecarAmongContainers c.sidecarName)
    else .ok ()

/-- The sidecar that the pod brings, or the default one; either needs an image. -/
def chooseSidecar (s : PodSpec) : Except InjectError Container :=
  match s.inits.find? (·.name = c.sidecarName) with
  | some own =>
    if own.image.getD "" ≠ "" then .ok own
    else if c.proxyImage = "" then .error .imageMissing
    else .ok { own with image := some c.proxyImage }
  | none => if c.proxyImage = "" then .error .imageMissing else .ok c.sidecar

def otherInits (s : PodSpec) : List Container := s.inits.filter (·.name ≠ c.sidecarName)

/-- All containers of a pod but the sidecar. -/
def others (s : PodSpec) : List Container := c.otherInits s ++ s.containers

/-- The mounts with the first one at the service account path moved to the redirect volume. -/
def redirectMounts? : List VolumeMount → Option (List VolumeMount)
  | [] => none
  | m :: rest =>
    if m.mountPath = c.serviceAccountPath then some ({ m with name := c.redirectVolumeName } :: rest)
    else (redirectMounts? rest).map (m :: ·)

def redirectMount : VolumeMount :=
  { name := c.redirectVolumeName, mountPath := c.serviceAccountPath, readOnly := some true }

/-- The mounts of a container once it is redirected; nothing if the policy leaves it alone. -/
def redirectedMounts? (mounts : List VolumeMount) : Option (List VolumeMount) :=
  match c.redirectMounts? mounts with
  | some redirected => some redirected
  | none =>
    match c.redirectPolicy with
    | .mountedOnly => none
    | .always => some (mounts ++ [c.redirectMount])

/-- The containers of a pod, apart from the sidecar, that are redirected. -/
def redirected (s : PodSpec) : List Container :=
  (c.others s).filter fun k => (c.redirectedMounts? (k.volumeMounts.getD [])).isSome

/-- Each container that is redirected is given the port in writing. If there is none, no port is written. -/
def checkPort (s : PodSpec) : Except InjectError Unit :=
  if c.redirected s ≠ [] ∧ Literal.integer? c.servicePort = none then .error .portTooLong else .ok ()

end InjectionConfig

/-- Gives a variable its value wherever it stands, and adds it at the end if it stands nowhere. -/
def setVariable (name value : String) (env : List EnvVar) : List EnvVar :=
  if env.any (·.name = name) then
    env.map fun var => if var.name = name then { var with value := some value, valueFrom := none } else var
  else env ++ [{ name := name, value := some value }]

namespace InjectionConfig

variable (c : InjectionConfig)

/-- Points the service variables of Kubernetes clients at the proxy. -/
def redirectEnv (env : List EnvVar) : List EnvVar :=
  setVariable "KUBERNETES_SERVICE_PORT" (toString c.servicePort)
    (setVariable "KUBERNETES_SERVICE_HOST" c.serviceHost env)

def redirect (container : Container) : Container :=
  match c.redirectedMounts? (container.volumeMounts.getD []) with
  | none => container
  | some mounts => { container with
      volumeMounts := some mounts
      env := some (c.redirectEnv (container.env.getD [])) }

/-- The volumes that the pod lacks. A sidecar that does not mount the credentials volume brings its
own credentials. -/
def missingVolumes (sidecar : Container) (names : List String) : List Volume :=
  (if c.redirectVolumeName ∈ names then [] else [c.redirectVolume]) ++
  (if c.credentialsVolumeName ∈ (sidecar.volumeMounts.getD []).map VolumeMount.name ∧
      c.credentialsVolumeName ∉ names then [c.credentialsVolume] else [])

/-- The pod with the given sidecar in front, everything else redirected to it, and all volumes there. -/
def assemble (sidecar : Container) (pod : Pod) : Pod :=
  { pod with
    spec := { pod.spec with
      initContainers := some (sidecar :: (c.otherInits pod.spec).map c.redirect)
      containers := pod.spec.containers.map c.redirect
      volumes := some ((pod.spec.volumes.getD []) ++ c.missingVolumes sidecar pod.spec.volumeNames)
      automountServiceAccountToken := some false } }

/-- The pod with the sidecar injected. -/
def inject (pod : Pod) : Except InjectError Pod := do
  c.validate pod.spec
  let sidecar ← c.chooseSidecar pod.spec
  c.checkPort pod.spec
  return c.assemble sidecar pod

end InjectionConfig

end Sidecar
