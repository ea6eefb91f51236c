import Sidecar.Proofs.Pod.Place.Basic
import Sidecar.Proofs.Pod.RoundTrip

/-!
A pod is written with the unknown entries of each of its objects in the same place of the document.
-/

namespace Sidecar

variable {α : Type} {strict json : Prop}

namespace Schema

variable {declared : List (FieldName × Value)} {unknown : Object} {f : FieldName} {write : α → Value}

theorem Apart.additional_eq (h : Apart declared unknown) :
    additional (declared.map Prod.fst) (Value.ofFields declared unknown) = unknown.dropNulls.entries := by
  have hdeclared : (Object.dropNulls (declared.map fun d => (d.1.key, d.2))).filter
      (fun e => (declared.map Prod.fst).all fun f => Value.str e.1 ≠ .str f.key) = [] := by
    rw [List.filter_eq_nil_iff]
    intro e he
    obtain ⟨hmem, -⟩ := Object.mem_dropNulls_iff.mp he
    obtain ⟨d, hd, rfl⟩ := List.mem_map.mp hmem
    simp only [List.all_eq_true, decide_eq_true_eq, not_forall]
    exact ⟨d.1, List.mem_map_of_mem hd, by simp⟩
  have hkeep : unknown.dropNulls.filter
      (fun e => (declared.map Prod.fst).all fun f => Value.str e.1 ≠ .str f.key) = unknown.dropNulls := by
    rw [List.filter_eq_self]
    intro e he
    obtain ⟨he, -⟩ := Object.mem_dropNulls_iff.mp he
    simp only [List.all_eq_true, decide_eq_true_eq]
    intro f hf heq
    exact h.key_ne e he f hf (Value.str.inj heq)
  have hsplit : Object.ofFields declared unknown =
      Object.dropNulls (declared.map fun d => (d.1.key, d.2)) ++ unknown.dropNulls :=
    List.filter_append ..
  rw [Value.ofFields_eq_map, additional, Object.filter_entries, hsplit, List.filter_append,
    hdeclared, hkeep, List.nil_append]

theorem Apart.underKey?_eq (h : Apart declared unknown) {v : Value} (hmem : (f, v) ∈ declared) :
    f.underKey? (Value.ofFields declared unknown) = if v = .null then none else some v := by
  rw [FieldName.underKey?, Value.ofFields_eq_map, Value.field?_entries, lookup_ofFields h hmem]

theorem Apart.itemsOf_eq (h : Apart declared unknown) {as : List α}
    (hmem : (f, .list (as.map write)) ∈ declared) :
    itemsOf FieldName.underKey? f (Value.ofFields declared unknown) = as.map write := by
  rw [itemsOf, h.underKey?_eq hmem, if_neg Value.noConfusion]
  rfl

theorem Apart.itemsOf_optional (h : Apart declared unknown) {x : Option (List α)}
    (hmem : (f, Value.optional (fun as : List α => .list (as.map write)) x) ∈ declared) :
    itemsOf FieldName.underKey? f (Value.ofFields declared unknown) = (x.getD []).map write := by
  cases x with
  | none =>
    rw [itemsOf, h.underKey?_eq hmem, Value.optional, if_pos rfl]
    rfl
  | some as => exact h.itemsOf_eq hmem

theorem Apart.isNamed_eq (h : Apart declared unknown) {s : String} (hmem : (f, .str s) ∈ declared)
    (name : String) : isNamed f name (Value.ofFields declared unknown) = decide (s = name) := by
  have hget : f.get? (Object.ofFields declared unknown) = some (.str s) := by
    rw [FieldName.get?, lookup_ofFields h hmem, if_neg Value.noConfusion, Option.some_or]
  rw [isNamed, Value.ofFields_eq_map, FieldName.value?_entries, hget]
  rfl

theorem additional_getElem? {fields : List FieldName} {unknown : α → Object} {as : List α}
    (h : ∀ a ∈ as, additional fields (write a) = (unknown a).dropNulls.entries) (index : Nat) :
    ((as.map write)[index]?).map (additional fields) =
      ((as.map unknown)[index]?).map fun u => u.dropNulls.entries := by
  rw [List.getElem?_map, List.getElem?_map, Option.map_map, Option.map_map]
  cases hget : as[index]? with
  | none => rfl
  | some a => exact congrArg some (h a (List.mem_of_getElem? hget))

theorem find?_map_of_mem {as : List α} {p : Value → Bool} {q : α → Bool}
    (h : ∀ a ∈ as, p (write a) = q a) : (as.map write).find? p = (as.find? q).map write := by
  induction as with
  | nil => rfl
  | cons a as ih =>
    obtain ⟨ha, has⟩ := List.forall_mem_cons.mp h
    rw [List.map_cons, List.find?_cons, List.find?_cons, ha, ih has]
    split <;> rfl

end Schema

open Schema (Apart)

theorem Volume.isNamed_toValue {v : Volume} (h : v.Wellformed strict json) (name : String) :
    Schema.isNamed nameField name v.toValue = decide (v.name = name) :=
  (apart h).isNamed_eq (by simp [declared]) name

theorem Container.isNamed_toValue {c : Container} (h : c.Wellformed strict json) (name : String) :
    Schema.isNamed nameField name c.toValue = decide (c.name = name) :=
  (apart h).isNamed_eq (by simp [declared]) name

/-- A container is written with the unknown entries of all its objects. -/
theorem Container.Place.additional_toValue {c : Container} (h : c.Wellformed strict json) (place : Place) :
    (place.find? Schema.FieldName.underKey? c.toValue).map (Schema.additional place.fields) =
      (place.unknown? c).map fun u => u.dropNulls.entries := by
  have hc := apart h
  cases place with
  | whole => exact congrArg some hc.additional_eq
  | envVar index =>
    have hitems : Schema.itemsOf Schema.FieldName.underKey? envField c.toValue =
        (c.env.getD []).map EnvVar.toValue := hc.itemsOf_optional (by simp [declared])
    have hadditional : ∀ e ∈ c.env.getD [],
        Schema.additional EnvVar.fields e.toValue = e.unknown.dropNulls.entries := fun e he =>
      (EnvVar.apart (forall_mem_getD h.env e he)).additional_eq
    rw [find?, hitems]
    exact Schema.additional_getElem? hadditional index
  | mount index =>
    have hitems : Schema.itemsOf Schema.FieldName.underKey? volumeMountsField c.toValue =
        (c.volumeMounts.getD []).map VolumeMount.toValue := hc.itemsOf_optional (by simp [declared])
    have hadditional : ∀ m ∈ c.volumeMounts.getD [],
        Schema.additional VolumeMount.fields m.toValue = m.unknown.dropNulls.entries := fun m hm =>
      (VolumeMount.apart (forall_mem_getD h.volumeMounts m hm)).additional_eq
    rw [find?, hitems]
    exact Schema.additional_getElem? hadditional index
  | securityContext =>
    have hlook := hc.underKey?_eq (f := securityContextField)
      (v := Value.optional SecurityContext.toValue c.securityContext) (by simp [declared])
    rw [find?, toValue, hlook, unknown?]
    cases hcontext : c.securityContext with
    | none => rfl
    | some context =>
      exact congrArg some (SecurityContext.apart (h.securityContext context hcontext)).additional_eq

theorem PodSpec.Place.additional_toValue {s : PodSpec} (h : s.Wellformed strict json) (place : Place) :
    (place.find? Schema.FieldName.underKey? s.toValue).map (Schema.additional place.fields) =
      (place.unknown? s).map fun u => u.dropNulls.entries := by
  have hs := apart h
  cases place with
  | whole => exact congrArg some hs.additional_eq
  | volume name =>
    have hitems : Schema.itemsOf Schema.FieldName.underKey? volumesField s.toValue =
        (s.volumes.getD []).map Volume.toValue := hs.itemsOf_optional (by simp [declared])
    have hnamed : ∀ v ∈ s.volumes.getD [],
        Schema.isNamed Volume.nameField name v.toValue = decide (v.name = name) := fun v hv =>
      Volume.isNamed_toValue (forall_mem_getD h.volumes v hv) name
    rw [find?, hitems, Schema.find?_map_of_mem hnamed, unknown?, Option.map_map, Option.map_map]
    cases hfind : (s.volumes.getD []).find? (·.name = name) with
    | none => rfl
    | some v =>
      have hv := forall_mem_getD h.volumes v (List.mem_of_find?_eq_some hfind)
      exact congrArg some (Volume.apart hv).additional_eq
  | container init name place =>
    have hwell : ∀ c ∈ containers s init, c.Wellformed strict json := by
      cases init with
      | true => exact forall_mem_getD h.initContainers
      | false => exact h.containers
    have hitems : Schema.itemsOf Schema.FieldName.underKey? (containersField init) s.toValue =
        (containers s init).map Container.toValue := by
      cases init with
      | true => exact hs.itemsOf_optional (by simp [declared, containersField])
      | false => exact hs.itemsOf_eq (by simp [declared, containersField, containers])
    have hnamed : ∀ c ∈ containers s init,
        Schema.isNamed Container.nameField name c.toValue = decide (c.name = name) := fun c hc =>
      Container.isNamed_toValue (hwell c hc) name
    rw [find?, hitems, Schema.find?_map_of_mem hnamed, unknown?]
    cases hfind : (containers s init).find? (·.name = name) with
    | none => rfl
    | some c => exact place.additional_toValue (hwell c (List.mem_of_find?_eq_some hfind))

/-- A pod is written with the unknown entries of all its objects, unless they are null. -/
theorem Pod.Place.additional_toValue {p : Pod} (h : p.Wellformed strict json) (place : Place) :
    (place.find? Schema.FieldName.underKey? p.toValue).map (Schema.additional place.fields) =
      (place.unknown? p).map fun u => u.dropNulls.entries := by
  have hp := apart h
  cases place with
  | whole => exact congrArg some hp.additional_eq
  | metadata =>
    have hlook := hp.underKey?_eq (f := metadataField) (v := p.metadata.toValue) (by simp [declared])
    rw [find?, toValue, hlook, if_neg Value.noConfusion]
    exact congrArg some (ObjectMeta.apart h.metadata).additional_eq
  | spec place =>
    have hlook := hp.underKey?_eq (f := specField) (v := p.spec.toValue) (by simp [declared])
    rw [find?, toValue, hlook, if_neg Value.noConfusion]
    exact place.additional_toValue h.spec

end Sidecar
