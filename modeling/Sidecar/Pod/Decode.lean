import Sidecar.Pod.Model
import Sidecar.Schema.Coerce

/-!
Reading pods from documents. Every declared field is known by its camel-case key and by its
snake-case name; what is wrong is reported in the order in which the fields are declared.
-/

namespace Sidecar

open Schema (Checked FieldName text integer truthValue list object anything undeclared model)

namespace EnvVar

def nameField : FieldName := ⟨"name", "name"⟩
def valueField : FieldName := ⟨"value", "value"⟩
def valueFromField : FieldName := ⟨"valueFrom", "value_from"⟩

def fields : List FieldName := [nameField, valueField, valueFromField]

def decode : Value → Checked EnvVar := model "EnvVar" fun es =>
  EnvVar.mk <$> nameField.required text es <*> valueField.optional text es
    <*> valueFromField.optional (object anything) es <*> undeclared fields es

end EnvVar

namespace VolumeMount

def nameField : FieldName := ⟨"name", "name"⟩
def mountPathField : FieldName := ⟨"mountPath", "mount_path"⟩
def readOnlyField : FieldName := ⟨"readOnly", "read_only"⟩

def fields : List FieldName := [nameField, mountPathField, readOnlyField]

def decode : Value → Checked VolumeMount := model "VolumeMount" fun es =>
  VolumeMount.mk <$> nameField.required text es <*> mountPathField.required text es
    <*> readOnlyField.optional truthValue es <*> undeclared fields es

end VolumeMount

namespace SecurityContext

def runAsNonRootField : FieldName := ⟨"runAsNonRoot", "run_as_non_root"⟩
def runAsUserField : FieldName := ⟨"runAsUser", "run_as_user"⟩

def fields : List FieldName := [runAsNonRootField, runAsUserField]

def decode : Value → Checked SecurityContext := model "SecurityContext" fun es =>
  SecurityContext.mk <$> runAsNonRootField.optional truthValue es
    <*> runAsUserField.optional integer es <*> undeclared fields es

end SecurityContext

namespace Container

def nameField : FieldName := ⟨"name", "name"⟩
def imageField : FieldName := ⟨"image", "image"⟩
def imagePullPolicyField : FieldName := ⟨"imagePullPolicy", "image_pull_policy"⟩
def restartPolicyField : FieldName := ⟨"restartPolicy", "restart_policy"⟩
def commandField : FieldName := ⟨"command", "command"⟩
def argsField : FieldName := ⟨"args", "args"⟩
def envField : FieldName := ⟨"env", "env"⟩
def volumeMountsField : FieldName := ⟨"volumeMounts", "volume_mounts"⟩
def securityContextField : FieldName := ⟨"securityContext", "security_context"⟩

def fields : List FieldName :=
  [nameField, imageField, imagePullPolicyField, restartPolicyField, commandField, argsField, envField,
    volumeMountsField, securityContextField]

def decode : Value → Checked Container := model "Container" fun es =>
  Container.mk <$> nameField.required text es <*> imageField.optional text es
    <*> imagePullPolicyField.optional text es <*> restartPolicyField.optional text es
    <*> commandField.optional (list text) es <*> argsField.optional (list text) es
    <*> envField.optional (list EnvVar.decode) es
    <*> volumeMountsField.optional (list VolumeMount.decode) es
    <*> securityContextField.optional SecurityContext.decode es <*> undeclared fields es

end Container

namespace Volume

def nameField : FieldName := ⟨"name", "name"⟩
def emptyDirField : FieldName := ⟨"emptyDir", "empty_dir"⟩
def projectedField : FieldName := ⟨"projected", "projected"⟩

def fields : List FieldName := [nameField, emptyDirField, projectedField]

def decode : Value → Checked Volume := model "Volume" fun es =>
  Volume.mk <$> nameField.required text es <*> emptyDirField.optional (object anything) es
    <*> projectedField.optional (object anything) es <*> undeclared fields es

end Volume

namespace PodSpec

def initContainersField : FieldName := ⟨"initContainers", "init_containers"⟩
def containersField : FieldName := ⟨"containers", "containers"⟩
def volumesField : FieldName := ⟨"volumes", "volumes"⟩
def automountField : FieldName := ⟨"automountServiceAccountToken", "automount_service_account_token"⟩

def fields : List FieldName := [initContainersField, containersField, volumesField, automountField]

def decode : Value → Checked PodSpec := model "PodSpec" fun es =>
  PodSpec.mk <$> initContainersField.optional (list Container.decode) es
    <*> containersField.withDefault [] (list Container.decode) es
    <*> volumesField.optional (list Volume.decode) es
    <*> automountField.optional truthValue es <*> undeclared fields es

end PodSpec

namespace ObjectMeta

def nameField : FieldName := ⟨"name", "name"⟩
def namespaceField : FieldName := ⟨"namespace", "namespace"⟩
def labelsField : FieldName := ⟨"labels", "labels"⟩
def annotationsField : FieldName := ⟨"annotations", "annotations"⟩

def fields : List FieldName := [nameField, namespaceField, labelsField, annotationsField]

def decode : Value → Checked ObjectMeta := model "ObjectMeta" fun es =>
  ObjectMeta.mk <$> nameField.optional text es <*> namespaceField.optional text es
    <*> labelsField.optional (object text) es <*> annotationsField.optional (object text) es
    <*> undeclared fields es

end ObjectMeta

namespace Pod

def apiVersionField : FieldName := ⟨"apiVersion", "api_version"⟩
def kindField : FieldName := ⟨"kind", "kind"⟩
def metadataField : FieldName := ⟨"metadata", "metadata"⟩
def specField : FieldName := ⟨"spec", "spec"⟩

def fields : List FieldName := [apiVersionField, kindField, metadataField, specField]

def decode : Value → Checked Pod := model "Pod" fun es =>
  Pod.mk <$> apiVersionField.optional text es <*> kindField.optional text es
    <*> metadataField.withDefault {} ObjectMeta.decode es
    <*> specField.withDefault {} PodSpec.decode es <*> undeclared fields es

end Pod

end Sidecar
