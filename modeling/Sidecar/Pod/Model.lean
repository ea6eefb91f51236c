import Sidecar.Value.Basic

/-!
Pods, as far as sidecar injection reads or writes them. Entries that no field is declared for are kept
as they are, in order, in `unknown`.
-/

namespace Sidecar

/-- An object with texts as keys, in order. -/
abbrev Object := List (String × Value)

structure EnvVar where
  name : String
  value : Option String := none
  valueFrom : Option Object := none
  unknown : Object := []
  deriving DecidableEq, Repr

structure VolumeMount where
  name : String
  mountPath : String
  readOnly : Option Bool := none
  unknown : Object := []
  deriving DecidableEq, Repr

structure SecurityContext where
  runAsNonRoot : Option Bool := none
  runAsUser : Option Int := none
  unknown : Object := []
  deriving DecidableEq, Repr

/-- A container. The restart policy is only used on init containers, where `Always` makes a sidecar. -/
structure Container where
  name : String
  image : Option String := none
  imagePullPolicy : Option String := none
  restartPolicy : Option String := none
  command : Option (List String) := none
  args : Option (List String) := none
  env : Option (List EnvVar) := none
  volumeMounts : Option (List VolumeMount) := none
  securityContext : Option SecurityContext := none
  unknown : Object := []
  deriving DecidableEq, Repr

structure Volume where
  name : String
  emptyDir : Option Object := none
  projected : Option Object := none
  unknown : Object := []
  deriving DecidableEq, Repr

structure PodSpec where
  initContainers : Option (List Container) := none
  containers : List Container := []
  volumes : Option (List Volume) := none
  automountServiceAccountToken : Option Bool := none
  unknown : Object := []
  deriving DecidableEq, Repr

structure ObjectMeta where
  name : Option String := none
  namespaceName : Option String := none
  labels : Option (List (String × String)) := none
  annotations : Option (List (String × String)) := none
  unknown : Object := []
  deriving DecidableEq, Repr

structure Pod where
  apiVersion : Option String := none
  kind : Option String := none
  metadata : ObjectMeta := {}
  spec : PodSpec := {}
  unknown : Object := []
  deriving DecidableEq, Repr

end Sidecar
