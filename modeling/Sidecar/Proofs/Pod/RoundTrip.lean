import Sidecar.Proofs.Pod.Keyed
import Sidecar.Proofs.Pod.Objects

/-!
A pod is read back as it was written, without the unknown entries that are null, if its fields stand
under their keys in what it is written as; and its spec is written as JSON if what it holds is.
-/

namespace Sidecar

open Schema (Keyed Separate Distinct)
open Value (optional strings)

variable {α β : Type} {strict json : Prop}

@[simp] theorem Value.optional_map (w : β → Value) (g : α → β) (x : Option α) :
    optional w (x.map g) = optional (fun a => w (g a)) x := by
  cases x <;> rfl

theorem Value.isJson_optional {write : α → Value} {x : Option α}
    (h : ∀ a ∈ x, (write a).isJson = true) :
    (optional write x).isJson = true := by
  cases x with
  | none => rfl
  | some a => exact h a rfl

theorem Value.isJson_map {write : α → Value} {as : List α} (h : ∀ a ∈ as, (write a).isJson = true) :
    (list (as.map write)).isJson = true := by
  rw [isJson_list_iff]
  intro v hv
  obtain ⟨a, ha, rfl⟩ := List.mem_map.mp hv
  exact h a ha

theorem Value.isJson_ofFields {declared : List (Schema.FieldName × Value)} {unknown : Object}
    (hfields : Distinct (declared.map Prod.fst)) (hvalues : ∀ d ∈ declared, d.2.isJson = true)
    (hunknown : unknown.Unclaimed strict True (declared.map Prod.fst)) :
    (ofFields declared unknown).isJson = true :=
  isJson_object_iff.mpr (Object.ofFields_isJson hfields hvalues hunknown)

theorem Value.ofFields_dropNulls (declared : List (Schema.FieldName × Value)) (unknown : Object) :
    ofFields declared unknown.dropNulls = ofFields declared unknown := by
  rw [ofFields_eq, ofFields_eq, Object.ofFields, Object.ofFields, Object.dropNulls, Object.dropNulls,
    Object.dropNulls, List.filter_append, List.filter_append, List.filter_filter]
  simp

namespace EnvVar

theorem toValue_isJson {e : EnvVar} (h : e.Wellformed strict True) : e.toValue.isJson = true := by
  refine Value.isJson_ofFields fields_distinct ?_ h.unknown
  simp only [declared, List.forall_mem_cons, List.not_mem_nil, false_implies, implies_true, and_true]
  refine ⟨rfl, Value.isJson_optional fun _ _ => rfl, Value.isJson_optional fun o ho => ?_⟩
  exact Value.isJson_object_iff.mpr ((h.valueFrom o ho).isJson trivial)

theorem decode_toValue {e : EnvVar} (h : e.Wellformed strict json)
    (hkeyed : Keyed (parts e.toValue)) : decode e.toValue = .ok (e.mapObjects .dropNulls) := by
  have hs := (keyed_parts_iff h).mp hkeyed
  rw [toValue, Value.ofFields_eq_map, decode_eq_ok_iff]
  refine ⟨?_, ?_, ?_, Schema.undeclared_ofFields hs⟩
  · exact Schema.required_ofFields hs (v := .str e.name) (by simp [declared]) Value.noConfusion rfl
  · exact Schema.optional_ofFields_self hs (w := .str) (by simp [declared, mapObjects])
      fun _ _ => ⟨Value.noConfusion, rfl⟩
  · exact Schema.optional_ofFields hs (w := Object.toValue) (by simp [declared])
      fun o ho => ⟨Value.noConfusion, Schema.object_anything (h.valueFrom o ho).nodup⟩

@[simp] theorem toValue_dropNulls (e : EnvVar) : (e.mapObjects .dropNulls).toValue = e.toValue := by
  have hdeclared : (e.mapObjects .dropNulls).declared = e.declared := by
    simp [declared, mapObjects, ObjectMap.dropNulls]
  rw [toValue, hdeclared]
  exact Value.ofFields_dropNulls e.declared e.unknown

end EnvVar

namespace VolumeMount

theorem toValue_isJson {m : VolumeMount} (h : m.Wellformed strict True) : m.toValue.isJson = true := by
  refine Value.isJson_ofFields fields_distinct ?_ h.unknown
  simp only [declared, List.forall_mem_cons, List.not_mem_nil, false_implies, implies_true, and_true]
  exact ⟨rfl, rfl, Value.isJson_optional fun _ _ => rfl⟩

theorem decode_toValue {m : VolumeMount} (h : m.Wellformed strict json)
    (hkeyed : Keyed (parts m.toValue)) : decode m.toValue = .ok (m.mapObjects .dropNulls) := by
  have hs := (keyed_parts_iff h).mp hkeyed
  rw [toValue, Value.ofFields_eq_map, decode_eq_ok_iff]
  refine ⟨?_, ?_, ?_, Schema.undeclared_ofFields hs⟩
  · exact Schema.required_ofFields hs (v := .str m.name) (by simp [declared]) Value.noConfusion rfl
  · exact Schema.required_ofFields hs (v := .str m.mountPath) (by simp [declared]) Value.noConfusion rfl
  · exact Schema.optional_ofFields_self hs (w := .bool) (by simp [declared, mapObjects])
      fun _ _ => ⟨Value.noConfusion, rfl⟩

@[simp] theorem toValue_dropNulls (m : VolumeMount) : (m.mapObjects .dropNulls).toValue = m.toValue :=
  Value.ofFields_dropNulls m.declared m.unknown

end VolumeMount

namespace SecurityContext

theorem toValue_isJson {c : SecurityContext} (h : c.Wellformed strict True) : c.toValue.isJson = true := by
  refine Value.isJson_ofFields fields_distinct ?_ h.unknown
  simp only [declared, List.forall_mem_cons, List.not_mem_nil, false_implies, implies_true, and_true]
  exact ⟨Value.isJson_optional fun _ _ => rfl, Value.isJson_optional fun _ _ => rfl⟩

theorem decode_toValue {c : SecurityContext} (h : c.Wellformed strict json)
    (hkeyed : Keyed (parts c.toValue)) : decode c.toValue = .ok (c.mapObjects .dropNulls) := by
  have hs := (keyed_parts_iff h).mp hkeyed
  rw [toValue, Value.ofFields_eq_map, decode_eq_ok_iff]
  refine ⟨?_, ?_, Schema.undeclared_ofFields hs⟩
  · exact Schema.optional_ofFields_self hs (w := .bool) (by simp [declared, mapObjects])
      fun _ _ => ⟨Value.noConfusion, rfl⟩
  · exact Schema.optional_ofFields_self hs (w := .int) (by simp [declared, mapObjects])
      fun _ _ => ⟨Value.noConfusion, rfl⟩

@[simp] theorem toValue_dropNulls (c : SecurityContext) : (c.mapObjects .dropNulls).toValue = c.toValue :=
  Value.ofFields_dropNulls c.declared c.unknown

end SecurityContext

namespace Container

theorem toValue_isJson {c : Container} (h : c.Wellformed strict True) : c.toValue.isJson = true := by
  refine Value.isJson_ofFields fields_distinct ?_ h.unknown
  have htext : ∀ x : Option String, (optional .str x).isJson = true := fun _ =>
    Value.isJson_optional fun _ _ => rfl
  have htexts : ∀ x : Option (List String), (optional strings x).isJson = true := fun _ =>
    Value.isJson_optional fun _ _ => Value.isJson_map fun _ _ => rfl
  simp only [declared, List.forall_mem_cons, List.not_mem_nil, false_implies, implies_true, and_true]
  refine ⟨rfl, htext _, htext _, htext _, htexts _, htexts _, ?_, ?_, ?_⟩
  · exact Value.isJson_optional fun es hes => Value.isJson_map fun e he =>
      EnvVar.toValue_isJson (h.env es hes e he)
  · exact Value.isJson_optional fun ms hms => Value.isJson_map fun m hm =>
      VolumeMount.toValue_isJson (h.volumeMounts ms hms m hm)
  · exact Value.isJson_optional fun s hs => SecurityContext.toValue_isJson (h.securityContext s hs)

theorem decode_toValue {c : Container} (h : c.Wellformed strict json)
    (hkeyed : Keyed (parts c.toValue)) : decode c.toValue = .ok (c.mapObjects .dropNulls) := by
  obtain ⟨hs, henv, hmounts, hcontext⟩ := (keyed_parts_iff h).mp hkeyed
  rw [toValue, Value.ofFields_eq_map, decode_eq_ok_iff]
  refine ⟨?_, ?_, ?_, ?_, ?_, ?_, ?_, ?_, ?_, Schema.undeclared_ofFields hs⟩
  · exact Schema.required_ofFields hs (v := .str c.name) (by simp [declared]) Value.noConfusion rfl
  · exact Schema.optional_ofFields_self hs (w := .str) (by simp [declared, mapObjects])
      fun _ _ => ⟨Value.noConfusion, rfl⟩
  · exact Schema.optional_ofFields_self hs (w := .str) (by simp [declared, mapObjects])
      fun _ _ => ⟨Value.noConfusion, rfl⟩
  · exact Schema.optional_ofFields_self hs (w := .str) (by simp [declared, mapObjects])
      fun _ _ => ⟨Value.noConfusion, rfl⟩
  · exact Schema.optional_ofFields_self hs (w := strings) (by simp [declared, mapObjects])
      fun ss _ => ⟨Value.noConfusion, Schema.list_text ss⟩
  · exact Schema.optional_ofFields_self hs (w := strings) (by simp [declared, mapObjects])
      fun ss _ => ⟨Value.noConfusion, Schema.list_text ss⟩
  · exact Schema.optional_ofFields hs (w := fun es : List EnvVar => .list (es.map EnvVar.toValue))
      (by simp [declared]) fun es hes =>
        ⟨Value.noConfusion, Schema.list_map fun e he =>
          EnvVar.decode_toValue (h.env es hes e he) (henv es hes e he)⟩
  · exact Schema.optional_ofFields hs
      (w := fun ms : List VolumeMount => .list (ms.map VolumeMount.toValue))
      (by simp [declared]) fun ms hms =>
        ⟨Value.noConfusion, Schema.list_map fun m hm =>
          VolumeMount.decode_toValue (h.volumeMounts ms hms m hm) (hmounts ms hms m hm)⟩
  · exact Schema.optional_ofFields hs (w := SecurityContext.toValue) (by simp [declared]) fun s hsc =>
      ⟨Value.noConfusion, SecurityContext.decode_toValue (h.securityContext s hsc) (hcontext s hsc)⟩

@[simp] theorem toValue_dropNulls (c : Container) : (c.mapObjects .dropNulls).toValue = c.toValue := by
  have hdeclared : (c.mapObjects .dropNulls).declared = c.declared := by
    simp [declared, mapObjects, Function.comp_def]
  rw [toValue, hdeclared]
  exact Value.ofFields_dropNulls c.declared c.unknown

end Container

namespace Volume

theorem toValue_isJson {v : Volume} (h : v.Wellformed strict True) : v.toValue.isJson = true := by
  refine Value.isJson_ofFields fields_distinct ?_ h.unknown
  simp only [declared, List.forall_mem_cons, List.not_mem_nil, false_implies, implies_true, and_true]
  refine ⟨rfl, Value.isJson_optional fun o ho => ?_, Value.isJson_optional fun o ho => ?_⟩
  · exact Value.isJson_object_iff.mpr ((h.emptyDir o ho).isJson trivial)
  · exact Value.isJson_object_iff.mpr ((h.projected o ho).isJson trivial)

theorem decode_toValue {v : Volume} (h : v.Wellformed strict json)
    (hkeyed : Keyed (parts v.toValue)) : decode v.toValue = .ok (v.mapObjects .dropNulls) := by
  have hs := (keyed_parts_iff h).mp hkeyed
  rw [toValue, Value.ofFields_eq_map, decode_eq_ok_iff]
  refine ⟨?_, ?_, ?_, Schema.undeclared_ofFields hs⟩
  · exact Schema.required_ofFields hs (v := .str v.name) (by simp [declared]) Value.noConfusion rfl
  · exact Schema.optional_ofFields hs (w := Object.toValue) (by simp [declared])
      fun o ho => ⟨Value.noConfusion, Schema.object_anything (h.emptyDir o ho).nodup⟩
  · exact Schema.optional_ofFields hs (w := Object.toValue) (by simp [declared])
      fun o ho => ⟨Value.noConfusion, Schema.object_anything (h.projected o ho).nodup⟩

@[simp] theorem toValue_dropNulls (v : Volume) : (v.mapObjects .dropNulls).toValue = v.toValue := by
  have hdeclared : (v.mapObjects .dropNulls).declared = v.declared := by
    simp [declared, mapObjects, ObjectMap.dropNulls]
  rw [toValue, hdeclared]
  exact Value.ofFields_dropNulls v.declared v.unknown

end Volume

namespace PodSpec

/-- A spec is written as JSON. -/
theorem toValue_isJson {s : PodSpec} (h : s.Wellformed strict True) : s.toValue.isJson = true := by
  refine Value.isJson_ofFields fields_distinct ?_ h.unknown
  simp only [declared, List.forall_mem_cons, List.not_mem_nil, false_implies, implies_true, and_true]
  refine ⟨?_, ?_, ?_, Value.isJson_optional fun _ _ => rfl⟩
  · exact Value.isJson_optional fun cs hcs => Value.isJson_map fun c hc =>
      Container.toValue_isJson (h.initContainers cs hcs c hc)
  · exact Value.isJson_map fun c hc => Container.toValue_isJson (h.containers c hc)
  · exact Value.isJson_optional fun vs hvs => Value.isJson_map fun v hv =>
      Volume.toValue_isJson (h.volumes vs hvs v hv)

/-- A spec is read back, without the unknown entries that are null. -/
theorem decode_toValue {s : PodSpec} (h : s.Wellformed strict json)
    (hkeyed : Keyed (parts s.toValue)) : decode s.toValue = .ok (s.mapObjects .dropNulls) := by
  obtain ⟨hs, hinits, hcontainers, hvolumes⟩ := (keyed_parts_iff h).mp hkeyed
  rw [toValue, Value.ofFields_eq_map, decode_eq_ok_iff]
  refine ⟨?_, ?_, ?_, ?_, Schema.undeclared_ofFields hs⟩
  · exact Schema.optional_ofFields hs (w := fun cs : List Container => .list (cs.map Container.toValue))
      (by simp [declared]) fun cs hcs =>
        ⟨Value.noConfusion, Schema.list_map fun c hc =>
          Container.decode_toValue (h.initContainers cs hcs c hc) (hinits cs hcs c hc)⟩
  · exact Schema.withDefault_ofFields hs (v := .list (s.containers.map Container.toValue))
      (by simp [declared]) Value.noConfusion
        (Schema.list_map fun c hc => Container.decode_toValue (h.containers c hc) (hcontainers c hc))
  · exact Schema.optional_ofFields hs (w := fun vs : List Volume => .list (vs.map Volume.toValue))
      (by simp [declared]) fun vs hvs =>
        ⟨Value.noConfusion, Schema.list_map fun v hv =>
          Volume.decode_toValue (h.volumes vs hvs v hv) (hvolumes vs hvs v hv)⟩
  · exact Schema.optional_ofFields_self hs (w := .bool) (by simp [declared, mapObjects])
      fun _ _ => ⟨Value.noConfusion, rfl⟩

@[simp] theorem toValue_dropNulls (s : PodSpec) : (s.mapObjects .dropNulls).toValue = s.toValue := by
  have hdeclared : (s.mapObjects .dropNulls).declared = s.declared := by
    simp [declared, mapObjects, Function.comp_def]
  rw [toValue, hdeclared]
  exact Value.ofFields_dropNulls s.declared s.unknown

end PodSpec

namespace ObjectMeta

theorem decode_toValue {m : ObjectMeta} (h : m.Wellformed strict json)
    (hkeyed : Keyed (parts m.toValue)) : decode m.toValue = .ok (m.mapObjects .dropNulls) := by
  have hs := (keyed_parts_iff h).mp hkeyed
  have hread {l : List (String × String)} (hl : (l.map Prod.fst).Nodup) :
      Schema.object Schema.text (Object.toValue (l.map fun e => (e.1, .str e.2))) = .ok l :=
    Schema.object_map hl fun _ _ => rfl
  rw [toValue, Value.ofFields_eq_map, decode_eq_ok_iff]
  refine ⟨?_, ?_, ?_, ?_, Schema.undeclared_ofFields hs⟩
  · exact Schema.optional_ofFields_self hs (w := .str) (by simp [declared, mapObjects])
      fun _ _ => ⟨Value.noConfusion, rfl⟩
  · exact Schema.optional_ofFields_self hs (w := .str) (by simp [declared, mapObjects])
      fun _ _ => ⟨Value.noConfusion, rfl⟩
  · exact Schema.optional_ofFields_self hs
      (w := fun l : List (String × String) => Object.toValue (l.map fun e => (e.1, .str e.2)))
      (by simp [declared, mapObjects]) fun l hl => ⟨Value.noConfusion, hread (h.labels l hl)⟩
  · exact Schema.optional_ofFields_self hs
      (w := fun l : List (String × String) => Object.toValue (l.map fun e => (e.1, .str e.2)))
      (by simp [declared, mapObjects]) fun l hl => ⟨Value.noConfusion, hread (h.annotations l hl)⟩

@[simp] theorem toValue_dropNulls (m : ObjectMeta) : (m.mapObjects .dropNulls).toValue = m.toValue :=
  Value.ofFields_dropNulls m.declared m.unknown

end ObjectMeta

namespace Pod

/-- A pod is read back, without the unknown entries that are null. -/
theorem decode_toValue {p : Pod} (h : p.Wellformed strict json)
    (hkeyed : Keyed (parts p.toValue)) : decode p.toValue = .ok (p.mapObjects .dropNulls) := by
  obtain ⟨hs, hmetadata, hspec⟩ := (keyed_parts_iff h).mp hkeyed
  rw [toValue, Value.ofFields_eq_map, decode_eq_ok_iff]
  refine ⟨?_, ?_, ?_, ?_, Schema.undeclared_ofFields hs⟩
  · exact Schema.optional_ofFields_self hs (w := .str) (by simp [declared, mapObjects])
      fun _ _ => ⟨Value.noConfusion, rfl⟩
  · exact Schema.optional_ofFields_self hs (w := .str) (by simp [declared, mapObjects])
      fun _ _ => ⟨Value.noConfusion, rfl⟩
  · exact Schema.withDefault_ofFields hs (v := p.metadata.toValue) (by simp [declared]) Value.noConfusion
      (ObjectMeta.decode_toValue h.metadata hmetadata)
  · exact Schema.withDefault_ofFields hs (v := p.spec.toValue) (by simp [declared]) Value.noConfusion
      (PodSpec.decode_toValue h.spec hspec)

theorem declared_dropNulls (p : Pod) : p.dropNulls.declared = p.declared := by
  simp [declared, mapObjects]

@[simp] theorem toValue_dropNulls (p : Pod) : p.dropNulls.toValue = p.toValue := by
  rw [toValue, declared_dropNulls]
  exact Value.ofFields_dropNulls p.declared p.unknown

end Pod

/-- Another spec in the place of a pod's spec is read, and nothing else changes. -/
theorem Pod.decode_insert_spec {o : Object} {p : Pod} {s : Value} {spec : PodSpec}
    (h : decode (.map o.entries) = .ok p) (hs : PodSpec.decode s = .ok spec) :
    decode (.map (Object.entries (Schema.insert "spec" s o))) = .ok { p with spec := spec } := by
  obtain ⟨hversion, hkind, hmetadata, -, hunknown⟩ := decode_eq_ok_iff.mp h
  have hkey : specField.key = "spec" := rfl
  have hdeclared : ∃ f ∈ fields, f.key = "spec" := ⟨specField, by decide, rfl⟩
  have hfields : ∀ f ∈ fields, f.key = "spec" ↔ f.name = "spec" := by decide
  refine decode_eq_ok_iff.mpr ⟨?_, ?_, ?_, ?_, ?_⟩
  · rw [Schema.FieldName.optional_eq_ok_iff] at hversion ⊢
    rwa [Schema.FieldName.get?_insert_of_ne (by decide) (by decide)]
  · rw [Schema.FieldName.optional_eq_ok_iff] at hkind ⊢
    rwa [Schema.FieldName.get?_insert_of_ne (by decide) (by decide)]
  · rw [Schema.FieldName.withDefault_eq_ok_iff] at hmetadata ⊢
    rwa [Schema.FieldName.get?_insert_of_ne (by decide) (by decide)]
  · rw [Schema.FieldName.withDefault_eq_ok_iff, Schema.FieldName.get?_insert_self hkey]
    exact hs
  · rwa [Schema.undeclared_insert hdeclared hfields]

end Sidecar
