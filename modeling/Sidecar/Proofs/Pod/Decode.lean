import Mathlib.Tactic.Common
import Sidecar.Pod.Decode

/-!
A pod and its parts are read field by field.
-/

namespace Sidecar

open Schema (text integer truthValue list object anything undeclared)

variable {es : List (Value × Value)}

namespace EnvVar

theorem decode_eq_ok_iff {e : EnvVar} : decode (.map es) = .ok e ↔
    nameField.required text es = .ok e.name ∧ valueField.optional text es = .ok e.value ∧
    valueFromField.optional (object anything) es = .ok e.valueFrom ∧
    undeclared fields es = .ok e.unknown := by
  simp only [decode, Schema.model, Schema.Checked.seq_eq_ok_iff, Schema.Checked.map_eq_ok_iff]
  constructor
  · rintro ⟨-, unknown, ⟨-, valueFrom, ⟨-, value, ⟨name, hname, rfl⟩, hvalue, rfl⟩, hvalueFrom, rfl⟩,
      hunknown, rfl⟩
    exact ⟨hname, hvalue, hvalueFrom, hunknown⟩
  · rintro ⟨hname, hvalue, hvalueFrom, hunknown⟩
    exact ⟨_, _, ⟨_, _, ⟨_, _, ⟨_, hname, rfl⟩, hvalue, rfl⟩, hvalueFrom, rfl⟩, hunknown, rfl⟩

end EnvVar

namespace VolumeMount

theorem decode_eq_ok_iff {m : VolumeMount} : decode (.map es) = .ok m ↔
    nameField.required text es = .ok m.name ∧ mountPathField.required text es = .ok m.mountPath ∧
    readOnlyField.optional truthValue es = .ok m.readOnly ∧ undeclared fields es = .ok m.unknown := by
  simp only [decode, Schema.model, Schema.Checked.seq_eq_ok_iff, Schema.Checked.map_eq_ok_iff]
  constructor
  · rintro ⟨-, unknown, ⟨-, readOnly, ⟨-, path, ⟨name, hname, rfl⟩, hpath, rfl⟩, hreadOnly, rfl⟩,
      hunknown, rfl⟩
    exact ⟨hname, hpath, hreadOnly, hunknown⟩
  · rintro ⟨hname, hpath, hreadOnly, hunknown⟩
    exact ⟨_, _, ⟨_, _, ⟨_, _, ⟨_, hname, rfl⟩, hpath, rfl⟩, hreadOnly, rfl⟩, hunknown, rfl⟩

end VolumeMount

namespace SecurityContext

theorem decode_eq_ok_iff {c : SecurityContext} : decode (.map es) = .ok c ↔
    runAsNonRootField.optional truthValue es = .ok c.runAsNonRoot ∧
    runAsUserField.optional integer es = .ok c.runAsUser ∧ undeclared fields es = .ok c.unknown := by
  simp only [decode, Schema.model, Schema.Checked.seq_eq_ok_iff, Schema.Checked.map_eq_ok_iff]
  constructor
  · rintro ⟨-, unknown, ⟨-, user, ⟨nonRoot, hnonRoot, rfl⟩, huser, rfl⟩, hunknown, rfl⟩
    exact ⟨hnonRoot, huser, hunknown⟩
  · rintro ⟨hnonRoot, huser, hunknown⟩
    exact ⟨_, _, ⟨_, _, ⟨_, hnonRoot, rfl⟩, huser, rfl⟩, hunknown, rfl⟩

end SecurityContext

namespace Container

theorem decode_eq_ok_iff {c : Container} : decode (.map es) = .ok c ↔
    nameField.required text es = .ok c.name ∧ imageField.optional text es = .ok c.image ∧
    imagePullPolicyField.optional text es = .ok c.imagePullPolicy ∧
    restartPolicyField.optional text es = .ok c.restartPolicy ∧
    commandField.optional (list text) es = .ok c.command ∧
    argsField.optional (list text) es = .ok c.args ∧
    envField.optional (list EnvVar.decode) es = .ok c.env ∧
    volumeMountsField.optional (list VolumeMount.decode) es = .ok c.volumeMounts ∧
    securityContextField.optional SecurityContext.decode es = .ok c.securityContext ∧
    undeclared fields es = .ok c.unknown := by
  simp only [decode, Schema.model, Schema.Checked.seq_eq_ok_iff, Schema.Checked.map_eq_ok_iff]
  constructor
  · rintro ⟨-, unknown, ⟨-, context, ⟨-, mounts, ⟨-, env, ⟨-, args, ⟨-, command, ⟨-, restart, ⟨-, pull,
      ⟨-, image, ⟨name, h1, rfl⟩, h2, rfl⟩, h3, rfl⟩, h4, rfl⟩, h5, rfl⟩, h6, rfl⟩, h7, rfl⟩, h8, rfl⟩,
      h9, rfl⟩, h10, rfl⟩
    exact ⟨h1, h2, h3, h4, h5, h6, h7, h8, h9, h10⟩
  · rintro ⟨h1, h2, h3, h4, h5, h6, h7, h8, h9, h10⟩
    exact ⟨_, _, ⟨_, _, ⟨_, _, ⟨_, _, ⟨_, _, ⟨_, _, ⟨_, _, ⟨_, _, ⟨_, _, ⟨_, h1, rfl⟩, h2, rfl⟩, h3, rfl⟩,
      h4, rfl⟩, h5, rfl⟩, h6, rfl⟩, h7, rfl⟩, h8, rfl⟩, h9, rfl⟩, h10, rfl⟩

end Container

namespace Volume

theorem decode_eq_ok_iff {v : Volume} : decode (.map es) = .ok v ↔
    nameField.required text es = .ok v.name ∧
    emptyDirField.optional (object anything) es = .ok v.emptyDir ∧
    projectedField.optional (object anything) es = .ok v.projected ∧
    undeclared fields es = .ok v.unknown := by
  simp only [decode, Schema.model, Schema.Checked.seq_eq_ok_iff, Schema.Checked.map_eq_ok_iff]
  constructor
  · rintro ⟨-, unknown, ⟨-, projected, ⟨-, emptyDir, ⟨name, hname, rfl⟩, hemptyDir, rfl⟩, hprojected, rfl⟩,
      hunknown, rfl⟩
    exact ⟨hname, hemptyDir, hprojected, hunknown⟩
  · rintro ⟨hname, hemptyDir, hprojected, hunknown⟩
    exact ⟨_, _, ⟨_, _, ⟨_, _, ⟨_, hname, rfl⟩, hemptyDir, rfl⟩, hprojected, rfl⟩, hunknown, rfl⟩

end Volume

namespace PodSpec

theorem decode_eq_ok_iff {s : PodSpec} : decode (.map es) = .ok s ↔
    initContainersField.optional (list Container.decode) es = .ok s.initContainers ∧
    containersField.withDefault [] (list Container.decode) es = .ok s.containers ∧
    volumesField.optional (list Volume.decode) es = .ok s.volumes ∧
    automountField.optional truthValue es = .ok s.automountServiceAccountToken ∧
    undeclared fields es = .ok s.unknown := by
  simp only [decode, Schema.model, Schema.Checked.seq_eq_ok_iff, Schema.Checked.map_eq_ok_iff]
  constructor
  · rintro ⟨-, unknown, ⟨-, automount, ⟨-, volumes, ⟨-, containers, ⟨inits, hinits, rfl⟩, hcontainers, rfl⟩,
      hvolumes, rfl⟩, hautomount, rfl⟩, hunknown, rfl⟩
    exact ⟨hinits, hcontainers, hvolumes, hautomount, hunknown⟩
  · rintro ⟨hinits, hcontainers, hvolumes, hautomount, hunknown⟩
    exact ⟨_, _, ⟨_, _, ⟨_, _, ⟨_, _, ⟨_, hinits, rfl⟩, hcontainers, rfl⟩, hvolumes, rfl⟩, hautomount, rfl⟩,
      hunknown, rfl⟩

end PodSpec

namespace ObjectMeta

theorem decode_eq_ok_iff {m : ObjectMeta} : decode (.map es) = .ok m ↔
    nameField.optional text es = .ok m.name ∧ namespaceField.optional text es = .ok m.namespaceName ∧
    labelsField.optional (object text) es = .ok m.labels ∧
    annotationsField.optional (object text) es = .ok m.annotations ∧
    undeclared fields es = .ok m.unknown := by
  simp only [decode, Schema.model, Schema.Checked.seq_eq_ok_iff, Schema.Checked.map_eq_ok_iff]
  constructor
  · rintro ⟨-, unknown, ⟨-, annotations, ⟨-, labels, ⟨-, space, ⟨name, hname, rfl⟩, hspace, rfl⟩, hlabels,
      rfl⟩, hannotations, rfl⟩, hunknown, rfl⟩
    exact ⟨hname, hspace, hlabels, hannotations, hunknown⟩
  · rintro ⟨hname, hspace, hlabels, hannotations, hunknown⟩
    exact ⟨_, _, ⟨_, _, ⟨_, _, ⟨_, _, ⟨_, hname, rfl⟩, hspace, rfl⟩, hlabels, rfl⟩, hannotations, rfl⟩,
      hunknown, rfl⟩

end ObjectMeta

namespace Pod

theorem decode_eq_ok_iff {p : Pod} : decode (.map es) = .ok p ↔
    apiVersionField.optional text es = .ok p.apiVersion ∧ kindField.optional text es = .ok p.kind ∧
    metadataField.withDefault {} ObjectMeta.decode es = .ok p.metadata ∧
    specField.withDefault {} PodSpec.decode es = .ok p.spec ∧ undeclared fields es = .ok p.unknown := by
  simp only [decode, Schema.model, Schema.Checked.seq_eq_ok_iff, Schema.Checked.map_eq_ok_iff]
  constructor
  · rintro ⟨-, unknown, ⟨-, spec, ⟨-, metadata, ⟨-, kind, ⟨version, hversion, rfl⟩, hkind, rfl⟩,
      hmetadata, rfl⟩,
      hspec, rfl⟩, hunknown, rfl⟩
    exact ⟨hversion, hkind, hmetadata, hspec, hunknown⟩
  · rintro ⟨hversion, hkind, hmetadata, hspec, hunknown⟩
    exact ⟨_, _, ⟨_, _, ⟨_, _, ⟨_, _, ⟨_, hversion, rfl⟩, hkind, rfl⟩, hmetadata, rfl⟩, hspec, rfl⟩,
      hunknown, rfl⟩

end Pod

end Sidecar
