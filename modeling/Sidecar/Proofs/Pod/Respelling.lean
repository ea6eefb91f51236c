import Sidecar.Inject.Basic
import Sidecar.Pod.Encode
import Sidecar.Proofs.Pod.Decode
import Sidecar.Proofs.Schema.Respelling

/-!
Documents of one pod in which fields are spelled and placed in different ways. They are all read to the same
pod, or all refused, so that what is written and what is injected does not depend on the spelling.
-/

namespace Sidecar

open Schema (Agrees Change FieldName HeldOnce Sides SpelledApart changes eachRespelled unchanged)

def EnvVar.respelled : Change := Schema.respelled fields fun _ => unchanged

def VolumeMount.respelled : Change := Schema.respelled fields fun _ => unchanged

def SecurityContext.respelled : Change := Schema.respelled fields fun _ => unchanged

/-- The fields of a container that hold objects with declared fields. -/
def Container.within : FieldName → Change := changes [
  (envField, eachRespelled EnvVar.respelled),
  (volumeMountsField, eachRespelled VolumeMount.respelled),
  (securityContextField, SecurityContext.respelled)]

def Container.respelled : Change := Schema.respelled fields within

def Volume.respelled : Change := Schema.respelled fields fun _ => unchanged

def PodSpec.within : FieldName → Change := changes [
  (initContainersField, eachRespelled Container.respelled),
  (containersField, eachRespelled Container.respelled),
  (volumesField, eachRespelled Volume.respelled)]

def PodSpec.respelled : Change := Schema.respelled fields within

def ObjectMeta.respelled : Change := Schema.respelled fields fun _ => unchanged

def Pod.within : FieldName → Change := changes [
  (metadataField, ObjectMeta.respelled),
  (specField, PodSpec.respelled)]

/-- The document of a pod after each declared field in it, and in all objects within, has been spelled and
placed in any way. -/
def Pod.respelled : Change := Schema.respelled fields within

theorem EnvVar.agrees : Agrees respelled parts decode := by
  refine Agrees.of_sides (by decide) (fun es honce => (Schema.heldOnce_cons_iff.mp honce).1) ?_
  intro es es' _ hsides e
  rw [decode_eq_ok_iff, decode_eq_ok_iff,
    hsides.required_data (f := nameField) (by decide) rfl,
    hsides.optional_data (f := valueField) (by decide) rfl,
    hsides.optional_data (f := valueFromField) (by decide) rfl, hsides.undeclared_eq]

theorem VolumeMount.agrees : Agrees respelled parts decode := by
  refine Agrees.of_sides (by decide) (fun es honce => (Schema.heldOnce_cons_iff.mp honce).1) ?_
  intro es es' _ hsides m
  rw [decode_eq_ok_iff, decode_eq_ok_iff,
    hsides.required_data (f := nameField) (by decide) rfl,
    hsides.required_data (f := mountPathField) (by decide) rfl,
    hsides.optional_data (f := readOnlyField) (by decide) rfl, hsides.undeclared_eq]

theorem SecurityContext.agrees : Agrees respelled parts decode := by
  refine Agrees.of_sides (by decide) (fun es honce => (Schema.heldOnce_cons_iff.mp honce).1) ?_
  intro es es' _ hsides c
  rw [decode_eq_ok_iff, decode_eq_ok_iff,
    hsides.optional_data (f := runAsNonRootField) (by decide) rfl,
    hsides.optional_data (f := runAsUserField) (by decide) rfl, hsides.undeclared_eq]

theorem Container.agrees : Agrees respelled parts decode := by
  refine Agrees.of_sides (by decide) (fun es honce => (Schema.heldOnce_cons_iff.mp honce).1) ?_
  intro es es' honce hsides c
  simp only [parts, Schema.heldOnce_cons_iff, Schema.heldOnce_append_iff] at honce
  obtain ⟨-, ⟨henv, hmounts⟩, hcontext⟩ := honce
  rw [decode_eq_ok_iff, decode_eq_ok_iff,
    hsides.required_data (f := nameField) (by decide) rfl,
    hsides.optional_data (f := imageField) (by decide) rfl,
    hsides.optional_data (f := imagePullPolicyField) (by decide) rfl,
    hsides.optional_data (f := restartPolicyField) (by decide) rfl,
    hsides.optional_data (f := commandField) (by decide) rfl,
    hsides.optional_data (f := argsField) (by decide) rfl,
    hsides.optional_iff (f := envField) (by decide) EnvVar.agrees.list henv,
    hsides.optional_iff (f := volumeMountsField) (by decide) VolumeMount.agrees.list hmounts,
    hsides.optional_iff (f := securityContextField) (by decide) SecurityContext.agrees hcontext,
    hsides.undeclared_eq]

theorem Volume.agrees : Agrees respelled parts decode := by
  refine Agrees.of_sides (by decide) (fun es honce => (Schema.heldOnce_cons_iff.mp honce).1) ?_
  intro es es' _ hsides v
  rw [decode_eq_ok_iff, decode_eq_ok_iff,
    hsides.required_data (f := nameField) (by decide) rfl,
    hsides.optional_data (f := emptyDirField) (by decide) rfl,
    hsides.optional_data (f := projectedField) (by decide) rfl, hsides.undeclared_eq]

theorem PodSpec.agrees : Agrees respelled parts decode := by
  refine Agrees.of_sides (by decide) (fun es honce => (Schema.heldOnce_cons_iff.mp honce).1) ?_
  intro es es' honce hsides s
  simp only [parts, Schema.heldOnce_cons_iff, Schema.heldOnce_append_iff] at honce
  obtain ⟨-, ⟨hinits, hcontainers⟩, hvolumes⟩ := honce
  rw [decode_eq_ok_iff, decode_eq_ok_iff,
    hsides.optional_iff (f := initContainersField) (by decide) Container.agrees.list hinits,
    hsides.withDefault_iff (f := containersField) (by decide) Container.agrees.list hcontainers,
    hsides.optional_iff (f := volumesField) (by decide) Volume.agrees.list hvolumes,
    hsides.optional_data (f := automountField) (by decide) rfl, hsides.undeclared_eq]

theorem ObjectMeta.agrees : Agrees respelled parts decode := by
  refine Agrees.of_sides (by decide) (fun es honce => (Schema.heldOnce_cons_iff.mp honce).1) ?_
  intro es es' _ hsides m
  rw [decode_eq_ok_iff, decode_eq_ok_iff,
    hsides.optional_data (f := nameField) (by decide) rfl,
    hsides.optional_data (f := namespaceField) (by decide) rfl,
    hsides.optional_data (f := labelsField) (by decide) rfl,
    hsides.optional_data (f := annotationsField) (by decide) rfl, hsides.undeclared_eq]

namespace Pod

theorem agrees : Agrees respelled parts decode := by
  refine Agrees.of_sides (by decide) (fun es honce => (Schema.heldOnce_cons_iff.mp honce).1) ?_
  intro es es' honce hsides p
  simp only [parts, Schema.heldOnce_cons_iff, Schema.heldOnce_append_iff] at honce
  obtain ⟨-, hmetadata, hspec⟩ := honce
  rw [decode_eq_ok_iff, decode_eq_ok_iff,
    hsides.optional_data (f := apiVersionField) (by decide) rfl,
    hsides.optional_data (f := kindField) (by decide) rfl,
    hsides.withDefault_iff (f := metadataField) (by decide) ObjectMeta.agrees hmetadata,
    hsides.withDefault_iff (f := specField) (by decide) PodSpec.agrees hspec, hsides.undeclared_eq]

/-- How the fields of a document are spelled and in which order they stand decides neither whether it is
read as a pod, nor what the pod is written as, nor what injection makes of it. -/
theorem decode_respelled {d d' : Value} (hspelled : Schema.SpelledOnce (parts d))
    (hkeys : Schema.DistinctlyKeyed (parts d)) (h : respelled d d') :
    ((∃ p, decode d' = .ok p) ↔ ∃ p, decode d = .ok p) ∧
    ∀ p p', decode d = .ok p → decode d' = .ok p' →
      p'.toValue = p.toValue ∧ ∀ c : InjectionConfig, c.inject p' = c.inject p := by
  have honce : HeldOnce (parts d) := Schema.heldOnce_of_spelledOnce hkeys hspelled
  have hread : ∀ p, decode d' = .ok p ↔ decode d = .ok p := agrees.read_iff honce h
  refine ⟨exists_congr hread, ?_⟩
  intro p p' hp hp'
  rw [hread, hp] at hp'
  obtain rfl := Schema.Checked.ok.inj hp'
  exact ⟨rfl, fun _ => rfl⟩

def camelVariable : Value := .object [
  ("name", .str "HOST"), ("valueFrom", .object [("value_from", .null)])]

def camelContainer : Value := .object [
  ("name", .str "app"), ("ports", .list []), ("env", .list [camelVariable])]

def camelSpec : Value := .object [("nodeName", .null), ("containers", .list [camelContainer])]

/-- A document with free objects and unknown entries whose keys look like those of fields. -/
def camelDocument : Value := .object [
  ("kind", .str "Pod"),
  ("status", .object [("api_version", .str "v0")]),
  ("metadata", .object [("labels", .object [("api_version", .str "v1")])]),
  ("spec", camelSpec)]

def snakeVariable : Value := .object [
  ("value_from", .object [("value_from", .null)]), ("name", .str "HOST")]

def snakeContainer : Value := .object [
  ("env", .list [snakeVariable]), ("ports", .list []), ("name", .str "app")]

def snakeSpec : Value := .object [("containers", .list [snakeContainer]), ("nodeName", .null)]

/-- The same document with the other spelling, and with its fields at other places. -/
def snakeDocument : Value := .object [
  ("spec", snakeSpec),
  ("metadata", .object [("labels", .object [("api_version", .str "v1")])]),
  ("status", .object [("api_version", .str "v0")]),
  ("kind", .str "Pod")]

theorem respelled_sample : respelled camelDocument snakeDocument := by
  have hlabels : ObjectMeta.respelled (.object [("labels", .object [("api_version", .str "v1")])])
      (.object [("labels", .object [("api_version", .str "v1")])]) :=
    ⟨_, .cons (.inl ⟨ObjectMeta.labelsField, by decide, rfl, rfl, rfl⟩) .nil, .refl _, rfl⟩
  have hvariable : EnvVar.respelled camelVariable snakeVariable := by
    refine ⟨(Schema.entriesOf snakeVariable).reverse, ?_, List.reverse_perm _, rfl⟩
    exact .cons (.inl ⟨EnvVar.nameField, by decide, rfl, rfl, rfl⟩)
      (.cons (.inl ⟨EnvVar.valueFromField, by decide, rfl, rfl, rfl⟩) .nil)
  have henv : eachRespelled EnvVar.respelled (.list [camelVariable]) (.list [snakeVariable]) :=
    List.Forall₂.cons hvariable .nil
  have hcontainer : Container.respelled camelContainer snakeContainer := by
    refine ⟨(Schema.entriesOf snakeContainer).reverse, ?_, List.reverse_perm _, rfl⟩
    exact .cons (.inl ⟨Container.nameField, by decide, rfl, rfl, rfl⟩)
      (.cons (.inr ⟨by decide, rfl⟩)
        (.cons (.inl ⟨Container.envField, by decide, rfl, rfl, henv⟩) .nil))
  have hcontainers : eachRespelled Container.respelled (.list [camelContainer]) (.list [snakeContainer]) :=
    List.Forall₂.cons hcontainer .nil
  have hspec : PodSpec.respelled camelSpec snakeSpec := by
    refine ⟨(Schema.entriesOf snakeSpec).reverse, ?_, List.reverse_perm _, rfl⟩
    exact .cons (.inr ⟨by decide, rfl⟩)
      (.cons (.inl ⟨PodSpec.containersField, by decide, rfl, rfl, hcontainers⟩) .nil)
  refine ⟨(Schema.entriesOf snakeDocument).reverse, ?_, List.reverse_perm _, rfl⟩
  exact .cons (.inl ⟨kindField, by decide, rfl, rfl, rfl⟩)
    (.cons (.inr ⟨by decide, rfl⟩)
      (.cons (.inl ⟨metadataField, by decide, rfl, rfl, hlabels⟩)
        (.cons (.inl ⟨specField, by decide, rfl, rfl, hspec⟩) .nil)))

theorem decode_respelled_sample :
    (Schema.SpelledOnce (parts camelDocument) ∧ Schema.DistinctlyKeyed (parts camelDocument) ∧
      respelled camelDocument snakeDocument) ∧
    ∃ p p', decode camelDocument = .ok p ∧ decode snakeDocument = .ok p' ∧
      p'.toValue = p.toValue ∧ ∀ c : InjectionConfig, c.inject p' = c.inject p := by
  have hspelled : Schema.SpelledOnce (parts camelDocument) := by decide +kernel
  have hkeys : Schema.DistinctlyKeyed (parts camelDocument) := by decide +kernel
  obtain ⟨hread, hsame⟩ := decode_respelled hspelled hkeys respelled_sample
  obtain ⟨p, hp⟩ : ∃ p, decode camelDocument = .ok p := ⟨_, rfl⟩
  obtain ⟨p', hp'⟩ := hread.mpr ⟨p, hp⟩
  obtain ⟨hwritten, hinject⟩ := hsame p p' hp hp'
  exact ⟨⟨hspelled, hkeys, respelled_sample⟩, p, p', hp, hp', hwritten, hinject⟩

end Pod

end Sidecar
