import Sidecar.Pod.Decode

/-!
Writing pods as documents: declared fields in declared order under their key, then the unknown
entries. Null entries are left out, but not those within unknown entries or free objects.
-/

namespace Sidecar

namespace Object

def toValue (o : Object) : Value := Value.object o

end Object

/-- The object made of the entries that are not null. -/
def Value.ofFields (declared : List (Schema.FieldName × Value)) (unknown : Object) : Value :=
  Value.object ((declared.map (fun d => (d.1.key, d.2)) ++ unknown).filter fun e => e.2 ≠ .null)

open Value (optional strings ofFields)

namespace EnvVar

def declared (e : EnvVar) : List (Schema.FieldName × Value) := [
  (nameField, .str e.name),
  (valueField, optional .str e.value),
  (valueFromField, optional Object.toValue e.valueFrom)]

def toValue (e : EnvVar) : Value := ofFields e.declared e.unknown

end EnvVar

namespace VolumeMount

def declared (m : VolumeMount) : List (Schema.FieldName × Value) := [
  (nameField, .str m.name),
  (mountPathField, .str m.mountPath),
  (readOnlyField, optional .bool m.readOnly)]

def toValue (m : VolumeMount) : Value := ofFields m.declared m.unknown

end VolumeMount

namespace SecurityContext

def declared (c : SecurityContext) : List (Schema.FieldName × Value) := [
  (runAsNonRootField, optional .bool c.runAsNonRoot),
  (runAsUserField, optional .int c.runAsUser)]

def toValue (c : SecurityContext) : Value := ofFields c.declared c.unknown

end SecurityContext

namespace Container

def declared (c : Container) : List (Schema.FieldName × Value) := [
  (nameField, .str c.name),
  (imageField, optional .str c.image),
  (imagePullPolicyField, optional .str c.imagePullPolicy),
  (restartPolicyField, optional .str c.restartPolicy),
  (commandField, optional strings c.command),
  (argsField, optional strings c.args),
  (envField, optional (fun es => .list (es.map EnvVar.toValue)) c.env),
  (volumeMountsField, optional (fun ms => .list (ms.map VolumeMount.toValue)) c.volumeMounts),
  (securityContextField, optional SecurityContext.toValue c.securityContext)]

def toValue (c : Container) : Value := ofFields c.declared c.unknown

end Container

namespace Volume

def declared (v : Volume) : List (Schema.FieldName × Value) := [
  (nameField, .str v.name),
  (emptyDirField, optional Object.toValue v.emptyDir),
  (projectedField, optional Object.toValue v.projected)]

def toValue (v : Volume) : Value := ofFields v.declared v.unknown

end Volume

namespace PodSpec

def declared (s : PodSpec) : List (Schema.FieldName × Value) := [
  (initContainersField, optional (fun cs => .list (cs.map Container.toValue)) s.initContainers),
  (containersField, .list (s.containers.map Container.toValue)),
  (volumesField, optional (fun vs => .list (vs.map Volume.toValue)) s.volumes),
  (automountField, optional .bool s.automountServiceAccountToken)]

def toValue (s : PodSpec) : Value := ofFields s.declared s.unknown

end PodSpec

namespace ObjectMeta

def declared (m : ObjectMeta) : List (Schema.FieldName × Value) := [
  (nameField, optional .str m.name),
  (namespaceField, optional .str m.namespaceName),
  (labelsField, optional (fun o => Object.toValue (o.map fun (k, v) => (k, .str v))) m.labels),
  (annotationsField, optional (fun o => Object.toValue (o.map fun (k, v) => (k, .str v))) m.annotations)]

def toValue (m : ObjectMeta) : Value := ofFields m.declared m.unknown

end ObjectMeta

namespace Pod

def declared (p : Pod) : List (Schema.FieldName × Value) := [
  (apiVersionField, optional .str p.apiVersion),
  (kindField, optional .str p.kind),
  (metadataField, p.metadata.toValue),
  (specField, p.spec.toValue)]

def toValue (p : Pod) : Value := ofFields p.declared p.unknown

end Pod

end Sidecar
