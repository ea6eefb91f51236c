import Sidecar.Proofs.Pod.Encode

/-!
Where the fields of a pod stand in what it is written as: all of them under their keys, unless an unknown
entry of one of its objects has the name of a field that the object lacks.
-/

namespace Sidecar

open Schema (Keyed Apart Separate Distinct)

variable {α : Type} {strict json : Prop}

namespace Schema

variable {declared : List (FieldName × Value)} {unknown : Object} {f : FieldName} {parts : Value → Parts}

theorem keyed_parts_ofFields_iff (h : Separate declared unknown) {v : Value} (hmem : (f, v) ∈ declared) :
    Keyed (f.parts parts (Value.ofFields declared unknown)) ↔ (v ≠ .null → Keyed (parts v)) := by
  rw [FieldName.parts, Value.ofFields_eq_map, FieldName.value?_entries, get?_ofFields h hmem]
  by_cases hv : v = .null <;> simp [hv]

theorem keyed_parts_optional_iff (h : Separate declared unknown) {w : α → Value} {x : Option α}
    (hmem : (f, Value.optional w x) ∈ declared) (hw : ∀ a, w a ≠ .null) :
    Keyed (f.parts parts (Value.ofFields declared unknown)) ↔ ∀ a ∈ x, Keyed (parts (w a)) := by
  rw [keyed_parts_ofFields_iff h hmem]
  cases x with
  | none => simp [Value.optional]
  | some a => simp [Value.optional, hw]

theorem keyed_memberParts_map_iff {w : α → Value} {as : List α} :
    Keyed (memberParts parts (.list (as.map w))) ↔ ∀ a ∈ as, Keyed (parts (w a)) := by
  rw [keyed_memberParts_iff, members, List.forall_mem_map]

end Schema

theorem EnvVar.fields_distinct : Distinct fields := by decide

theorem VolumeMount.fields_distinct : Distinct fields := by decide

theorem SecurityContext.fields_distinct : Distinct fields := by decide

theorem Container.fields_distinct : Distinct fields := by decide

theorem Volume.fields_distinct : Distinct fields := by decide

theorem PodSpec.fields_distinct : Distinct fields := by decide

theorem ObjectMeta.fields_distinct : Distinct fields := by decide

theorem Pod.fields_distinct : Distinct fields := by decide

theorem EnvVar.apart {e : EnvVar} (h : e.Wellformed strict json) : Apart e.declared e.unknown :=
  ⟨fields_distinct, h.unknown.key_ne⟩

theorem VolumeMount.apart {m : VolumeMount} (h : m.Wellformed strict json) : Apart m.declared m.unknown :=
  ⟨fields_distinct, h.unknown.key_ne⟩

theorem SecurityContext.apart {c : SecurityContext} (h : c.Wellformed strict json) : Apart c.declared c.unknown :=
  ⟨fields_distinct, h.unknown.key_ne⟩

theorem Container.apart {c : Container} (h : c.Wellformed strict json) : Apart c.declared c.unknown :=
  ⟨fields_distinct, h.unknown.key_ne⟩

theorem Volume.apart {v : Volume} (h : v.Wellformed strict json) : Apart v.declared v.unknown :=
  ⟨fields_distinct, h.unknown.key_ne⟩

theorem PodSpec.apart {s : PodSpec} (h : s.Wellformed strict json) : Apart s.declared s.unknown :=
  ⟨fields_distinct, h.unknown.key_ne⟩

theorem ObjectMeta.apart {m : ObjectMeta} (h : m.Wellformed strict json) : Apart m.declared m.unknown :=
  ⟨fields_distinct, h.unknown.key_ne⟩

theorem Pod.apart {p : Pod} (h : p.Wellformed strict json) : Apart p.declared p.unknown :=
  ⟨fields_distinct, h.unknown.key_ne⟩

theorem EnvVar.keyed_parts_iff {e : EnvVar} (h : e.Wellformed strict json) :
    Keyed (parts e.toValue) ↔ Separate e.declared e.unknown := by
  rw [← Schema.keyed_ofFields_iff (apart h), parts, Schema.keyed_cons_iff]
  exact and_iff_left Schema.keyed_nil

theorem VolumeMount.keyed_parts_iff {m : VolumeMount} (h : m.Wellformed strict json) :
    Keyed (parts m.toValue) ↔ Separate m.declared m.unknown := by
  rw [← Schema.keyed_ofFields_iff (apart h), parts, Schema.keyed_cons_iff]
  exact and_iff_left Schema.keyed_nil

theorem SecurityContext.keyed_parts_iff {c : SecurityContext} (h : c.Wellformed strict json) :
    Keyed (parts c.toValue) ↔ Separate c.declared c.unknown := by
  rw [← Schema.keyed_ofFields_iff (apart h), parts, Schema.keyed_cons_iff]
  exact and_iff_left Schema.keyed_nil

theorem Container.keyed_parts_iff {c : Container} (h : c.Wellformed strict json) :
    Keyed (parts c.toValue) ↔ Separate c.declared c.unknown ∧
      (∀ es ∈ c.env, ∀ e ∈ es, Keyed (EnvVar.parts e.toValue)) ∧
      (∀ ms ∈ c.volumeMounts, ∀ m ∈ ms, Keyed (VolumeMount.parts m.toValue)) ∧
      ∀ s ∈ c.securityContext, Keyed (SecurityContext.parts s.toValue) := by
  rw [← Schema.keyed_ofFields_iff (apart h), parts, Schema.keyed_cons_iff]
  refine and_congr_right fun hwhole => ?_
  have hs := (Schema.keyed_ofFields_iff (apart h)).mp hwhole
  rw [Schema.keyed_append_iff, Schema.keyed_append_iff, and_assoc, toValue,
    Schema.keyed_parts_optional_iff hs (f := envField)
      (w := fun es : List EnvVar => .list (es.map EnvVar.toValue)) (x := c.env)
      (by simp [declared]) fun _ => Value.noConfusion,
    Schema.keyed_parts_optional_iff hs (f := volumeMountsField)
      (w := fun ms : List VolumeMount => .list (ms.map VolumeMount.toValue)) (x := c.volumeMounts)
      (by simp [declared]) fun _ => Value.noConfusion,
    Schema.keyed_parts_optional_iff hs (f := securityContextField) (w := SecurityContext.toValue)
      (x := c.securityContext) (by simp [declared]) fun _ => Value.noConfusion]
  simp only [Schema.keyed_memberParts_map_iff]

theorem Volume.keyed_parts_iff {v : Volume} (h : v.Wellformed strict json) :
    Keyed (parts v.toValue) ↔ Separate v.declared v.unknown := by
  rw [← Schema.keyed_ofFields_iff (apart h), parts, Schema.keyed_cons_iff]
  exact and_iff_left Schema.keyed_nil

theorem PodSpec.keyed_parts_iff {s : PodSpec} (h : s.Wellformed strict json) :
    Keyed (parts s.toValue) ↔ Separate s.declared s.unknown ∧
      (∀ cs ∈ s.initContainers, ∀ c ∈ cs, Keyed (Container.parts c.toValue)) ∧
      (∀ c ∈ s.containers, Keyed (Container.parts c.toValue)) ∧
      ∀ vs ∈ s.volumes, ∀ v ∈ vs, Keyed (Volume.parts v.toValue) := by
  rw [← Schema.keyed_ofFields_iff (apart h), parts, Schema.keyed_cons_iff]
  refine and_congr_right fun hwhole => ?_
  have hs := (Schema.keyed_ofFields_iff (apart h)).mp hwhole
  rw [Schema.keyed_append_iff, Schema.keyed_append_iff, and_assoc, toValue,
    Schema.keyed_parts_optional_iff hs (f := initContainersField)
      (w := fun cs : List Container => .list (cs.map Container.toValue)) (x := s.initContainers)
      (by simp [declared]) fun _ => Value.noConfusion,
    Schema.keyed_parts_ofFields_iff hs (f := containersField)
      (v := .list (s.containers.map Container.toValue)) (by simp [declared]),
    Schema.keyed_parts_optional_iff hs (f := volumesField)
      (w := fun vs : List Volume => .list (vs.map Volume.toValue)) (x := s.volumes)
      (by simp [declared]) fun _ => Value.noConfusion]
  simp only [Schema.keyed_memberParts_map_iff, ne_eq, reduceCtorEq, not_false_eq_true, true_imp_iff]

theorem ObjectMeta.keyed_parts_iff {m : ObjectMeta} (h : m.Wellformed strict json) :
    Keyed (parts m.toValue) ↔ Separate m.declared m.unknown := by
  rw [← Schema.keyed_ofFields_iff (apart h), parts, Schema.keyed_cons_iff]
  exact and_iff_left Schema.keyed_nil

theorem Pod.keyed_parts_iff {p : Pod} (h : p.Wellformed strict json) :
    Keyed (parts p.toValue) ↔ Separate p.declared p.unknown ∧
      Keyed (ObjectMeta.parts p.metadata.toValue) ∧ Keyed (PodSpec.parts p.spec.toValue) := by
  rw [← Schema.keyed_ofFields_iff (apart h), parts, Schema.keyed_cons_iff]
  refine and_congr_right fun hwhole => ?_
  have hs := (Schema.keyed_ofFields_iff (apart h)).mp hwhole
  rw [Schema.keyed_append_iff, toValue,
    Schema.keyed_parts_ofFields_iff hs (f := metadataField) (v := p.metadata.toValue) (by simp [declared]),
    Schema.keyed_parts_ofFields_iff hs (f := specField) (v := p.spec.toValue) (by simp [declared])]
  have hmetadata : p.metadata.toValue ≠ .null := Value.noConfusion
  have hspec : p.spec.toValue ≠ .null := Value.noConfusion
  simp only [hmetadata, hspec, not_false_eq_true, true_imp_iff, ne_eq]

/-! If no unknown entry has the name of a field, then the fields stand under their keys. -/

theorem EnvVar.Wellformed.keyed {e : EnvVar} (h : e.Wellformed True json) : Keyed (parts e.toValue) :=
  (keyed_parts_iff h).mpr (Schema.separate_of_unclaimed fields_distinct h.unknown)

theorem VolumeMount.Wellformed.keyed {m : VolumeMount} (h : m.Wellformed True json) :
    Keyed (parts m.toValue) :=
  (keyed_parts_iff h).mpr (Schema.separate_of_unclaimed fields_distinct h.unknown)

theorem SecurityContext.Wellformed.keyed {c : SecurityContext} (h : c.Wellformed True json) :
    Keyed (parts c.toValue) :=
  (keyed_parts_iff h).mpr (Schema.separate_of_unclaimed fields_distinct h.unknown)

theorem Container.Wellformed.keyed {c : Container} (h : c.Wellformed True json) :
    Keyed (parts c.toValue) :=
  (keyed_parts_iff h).mpr ⟨Schema.separate_of_unclaimed fields_distinct h.unknown,
    fun es hes e he => (h.env es hes e he).keyed, fun ms hms m hm => (h.volumeMounts ms hms m hm).keyed,
    fun s hs => (h.securityContext s hs).keyed⟩

theorem Volume.Wellformed.keyed {v : Volume} (h : v.Wellformed True json) : Keyed (parts v.toValue) :=
  (keyed_parts_iff h).mpr (Schema.separate_of_unclaimed fields_distinct h.unknown)

theorem PodSpec.Wellformed.keyed {s : PodSpec} (h : s.Wellformed True json) : Keyed (parts s.toValue) :=
  (keyed_parts_iff h).mpr ⟨Schema.separate_of_unclaimed fields_distinct h.unknown,
    fun cs hcs c hc => (h.initContainers cs hcs c hc).keyed, fun c hc => (h.containers c hc).keyed,
    fun vs hvs v hv => (h.volumes vs hvs v hv).keyed⟩

theorem ObjectMeta.Wellformed.keyed {m : ObjectMeta} (h : m.Wellformed True json) :
    Keyed (parts m.toValue) :=
  (keyed_parts_iff h).mpr (Schema.separate_of_unclaimed fields_distinct h.unknown)

theorem Pod.Wellformed.keyed {p : Pod} (h : p.Wellformed True json) : Keyed (parts p.toValue) :=
  (keyed_parts_iff h).mpr ⟨Schema.separate_of_unclaimed fields_distinct h.unknown, h.metadata.keyed,
    h.spec.keyed⟩

end Sidecar
