import Sidecar.Proofs.Pod.Decode
import Sidecar.Proofs.Pod.Spelling

/-!
What a pod is like that has been read from a document: the keys of its free objects are distinct, and
its unknown entries stand under keys that no declared field has. If the document is JSON, then so are
both; and if no field stands under both spellings, then no unknown entry has the name of a field.
-/

namespace Sidecar

/-- Unknown entries stand under keys that are no field's key and, if that is asked for, no field's
name; they are JSON, if that is asked for. -/
structure Object.Unclaimed (strict json : Prop) (fields : List Schema.FieldName) (o : Object) : Prop where
  key_ne : ∀ e ∈ o, ∀ f ∈ fields, e.1 ≠ f.key
  name_ne : strict → ∀ e ∈ o, ∀ f ∈ fields, e.1 ≠ f.name
  isJson : json → o.IsJson

/-- The keys of a free object are distinct; it is JSON, if that is asked for. -/
structure Object.Free (json : Prop) (o : Object) : Prop where
  nodup : (o.map Prod.fst).Nodup
  isJson : json → o.IsJson

structure EnvVar.Wellformed (strict json : Prop) (e : EnvVar) : Prop where
  valueFrom : ∀ o ∈ e.valueFrom, Object.Free json o
  unknown : Object.Unclaimed strict json EnvVar.fields e.unknown

structure VolumeMount.Wellformed (strict json : Prop) (m : VolumeMount) : Prop where
  unknown : Object.Unclaimed strict json VolumeMount.fields m.unknown

structure SecurityContext.Wellformed (strict json : Prop) (c : SecurityContext) : Prop where
  unknown : Object.Unclaimed strict json SecurityContext.fields c.unknown

structure Container.Wellformed (strict json : Prop) (c : Container) : Prop where
  env : ∀ es ∈ c.env, ∀ e ∈ es, e.Wellformed strict json
  volumeMounts : ∀ ms ∈ c.volumeMounts, ∀ m ∈ ms, m.Wellformed strict json
  securityContext : ∀ s ∈ c.securityContext, s.Wellformed strict json
  unknown : Object.Unclaimed strict json Container.fields c.unknown

structure Volume.Wellformed (strict json : Prop) (v : Volume) : Prop where
  emptyDir : ∀ o ∈ v.emptyDir, Object.Free json o
  projected : ∀ o ∈ v.projected, Object.Free json o
  unknown : Object.Unclaimed strict json Volume.fields v.unknown

structure PodSpec.Wellformed (strict json : Prop) (s : PodSpec) : Prop where
  initContainers : ∀ cs ∈ s.initContainers, ∀ c ∈ cs, c.Wellformed strict json
  containers : ∀ c ∈ s.containers, c.Wellformed strict json
  volumes : ∀ vs ∈ s.volumes, ∀ v ∈ vs, v.Wellformed strict json
  unknown : Object.Unclaimed strict json PodSpec.fields s.unknown

structure ObjectMeta.Wellformed (strict json : Prop) (m : ObjectMeta) : Prop where
  labels : ∀ l ∈ m.labels, (l.map Prod.fst).Nodup
  annotations : ∀ l ∈ m.annotations, (l.map Prod.fst).Nodup
  unknown : Object.Unclaimed strict json ObjectMeta.fields m.unknown

structure Pod.Wellformed (strict json : Prop) (p : Pod) : Prop where
  metadata : p.metadata.Wellformed strict json
  spec : p.spec.Wellformed strict json
  unknown : Object.Unclaimed strict json Pod.fields p.unknown

variable {α : Type} {strict json : Prop} {fields : List Schema.FieldName} {o : Object}

theorem forall_mem_getD {P : α → Prop} {x : Option (List α)} (h : ∀ as ∈ x, ∀ a ∈ as, P a) :
    ∀ a ∈ x.getD [], P a := by
  cases x with
  | none => simp
  | some as => exact h as rfl

theorem Object.unclaimed_nil : Object.Unclaimed strict json fields [] :=
  ⟨by simp, by simp, fun _ => Object.isJson_nil⟩

theorem Object.free_of_isJson (h : o.IsJson) : Object.Free json o := ⟨h.nodup, fun _ => h⟩

namespace Schema

/-- What is read from a document has a property. The document is JSON, and its objects have no field
under both spellings, if that is asked for. -/
def Reads (strict json : Prop) (parts : Value → Parts) (read : Value → Checked α) (P : α → Prop) :
    Prop :=
  ∀ v a, (strict → SpelledOnce (parts v)) → (json → v.isJson = true) → read v = .ok a → P a

/-- The entries that are left over are unknown ones. -/
theorem unclaimed_of_undeclared {unknown : Object}
    (hs : strict → spelledOnce fields (.map o.entries) = true) (hjson : json → o.IsJson)
    (h : undeclared fields o.entries = .ok unknown) : unknown.Unclaimed strict json fields := by
  rw [undeclared_entries] at h
  obtain rfl := Checked.ok.inj h
  have hmem {e : String × Value} (he : e ∈ o.filter fun e => e.1 ∉ takenKeys fields o) :
      e ∈ o ∧ e.1 ∉ takenKeys fields o := by
    simpa using List.mem_filter.mp he
  have hkey : ∀ e ∈ o.filter fun e => e.1 ∉ takenKeys fields o, ∀ f ∈ fields, e.1 ≠ f.key := by
    intro e he f hf heq
    refine (hmem he).2 (mem_takenKeys_iff.mpr ⟨f, hf, .inl ⟨heq, ?_⟩⟩)
    rw [← heq]
    exact Object.lookup_isSome_of_mem (hmem he).1
  refine ⟨hkey, ?_, ?_⟩
  · intro hstrict e he f hf heq
    have hlookup := Object.lookup_isSome_of_mem (hmem he).1
    rw [heq] at hlookup
    have honce := List.all_eq_true.mp (hs hstrict) f hf
    rw [Value.field?_entries, Value.field?_entries] at honce
    have hne : f.key ≠ f.name := fun h => hkey e he f hf (heq.trans h.symm)
    have hnone : o.lookup f.key = none := by
      simp only [hne, decide_false, Bool.false_or, Bool.or_eq_true, Option.isNone_iff_eq_none] at honce
      refine honce.resolve_right fun h => ?_
      rw [h] at hlookup
      exact Bool.noConfusion hlookup
    exact (hmem he).2 (mem_takenKeys_iff.mpr ⟨f, hf, .inr ⟨heq, hnone, hlookup⟩⟩)
  · intro hj
    exact ⟨(hjson hj).nodup.sublist (List.filter_sublist.map _), fun e he =>
      (hjson hj).values e (hmem he).1⟩

namespace Reads

variable {parts : Value → Parts} {read : Value → Checked α} {P : α → Prop}

protected theorem list (h : Reads strict json parts read P) :
    Reads strict json (memberParts parts) (list read) fun as => ∀ a ∈ as, P a := by
  intro v as hs hjson hread a ha
  obtain ⟨w, hw, hwa⟩ := exists_of_mem_list hread ha
  refine h w a (fun hstrict => spelledOnce_memberParts_iff.mp (hs hstrict) w hw) (fun hj => ?_) hwa
  have hv := hjson hj
  cases v with
  | list vs => exact Value.isJson_list_iff.mp hv w hw
  | tuple | set => simp [Value.isJson] at hv
  | _ => simp [members] at hw

/-- What the value of a field is read to has the property. -/
theorem field {f : FieldName} {v : Value} {a : α} (h : Reads strict json parts read P)
    (hs : strict → SpelledOnce (f.parts parts (.map o.entries))) (hjson : json → o.IsJson)
    (hv : f.get? o = some v) (hread : read v = .ok a) : P a := by
  refine h v a (fun hstrict => ?_) (fun hj => isJson_of_get? (hjson hj) hv) hread
  exact spelledOnce_parts_iff.mp (hs hstrict) v ((FieldName.value?_entries f o).trans hv)

theorem optional {f : FieldName} {x : Option α} (h : Reads strict json parts read P)
    (hs : strict → SpelledOnce (f.parts parts (.map o.entries))) (hjson : json → o.IsJson)
    (hread : f.optional read o.entries = .ok x) : ∀ a ∈ x, P a := by
  rintro a ⟨⟩
  have hrel := FieldName.optional_eq_ok_iff.mp hread
  cases hget : (f.get? o).filter (· ≠ .null) with
  | none =>
    rw [hget] at hrel
    nomatch hrel
  | some v =>
    rw [hget, Option.rel_some_some] at hrel
    exact h.field hs hjson (Option.filter_eq_some_iff.mp hget).1 hrel

theorem withDefault {f : FieldName} {default a : α} (h : Reads strict json parts read P)
    (hdefault : P default) (hs : strict → SpelledOnce (f.parts parts (.map o.entries)))
    (hjson : json → o.IsJson) (hread : f.withDefault default read o.entries = .ok a) : P a := by
  have hread := FieldName.withDefault_eq_ok_iff.mp hread
  cases hv : f.get? o with
  | none =>
    rw [hv] at hread
    obtain rfl : default = a := hread
    exact hdefault
  | some v =>
    rw [hv] at hread
    exact h.field hs hjson hv hread

/-- Free objects have no declared fields. -/
theorem object : Reads False json (fun _ => []) (Schema.object anything) (Object.Free json) := by
  intro v o _ hjson hread
  refine ⟨nodup_of_object hread, fun hj => ?_⟩
  obtain ⟨p, rfl, hp⟩ : ∃ p : Object, v = .object p ∧ p.IsJson := by
    cases v with
    | map es =>
      obtain ⟨p, rfl, hp⟩ := Value.exists_object_of_isJson (hjson hj)
      exact ⟨p, rfl, hp⟩
    | _ => simp [Schema.object, Checked.fail] at hread
  rw [object_anything hp.nodup] at hread
  obtain rfl := Checked.ok.inj hread
  exact hp

theorem nodup : Reads False json (fun _ => []) (Schema.object read) fun l => (l.map Prod.fst).Nodup :=
  fun _ _ _ _ => nodup_of_object

/-- A model is read from an object with texts as keys. -/
theorem model {name : String} {read : List (Value × Value) → Checked α} {unknown : α → Object}
    (hunknown : ∀ es a, read es = .ok a → undeclared fields es = .ok (unknown a))
    (h : ∀ (o : Object) a, (strict → SpelledOnce (parts (.map o.entries))) → (json → o.IsJson) →
      read o.entries = .ok a → P a) : Reads strict json parts (Schema.model name read) P := by
  intro v a hs hjson hread
  obtain ⟨es, rfl, hread⟩ := model_eq_ok_iff.mp hread
  obtain ⟨o, rfl⟩ := exists_entries_of_undeclared (hunknown es a hread)
  exact h o a hs (fun hj => Value.isJson_object_iff.mp (hjson hj)) hread

end Reads

end Schema

open Schema (Reads)

theorem EnvVar.reads : Reads strict json parts decode (Wellformed strict json) := by
  refine Reads.model (fun es e h => (decode_eq_ok_iff.mp h).2.2.2) fun o e hs hjson h => ?_
  simp only [parts, Schema.spelledOnce_cons_iff] at hs
  obtain ⟨-, -, hvalueFrom, hunknown⟩ := decode_eq_ok_iff.mp h
  exact ⟨Reads.object.optional False.elim hjson hvalueFrom,
    Schema.unclaimed_of_undeclared (fun h => (hs h).1) hjson hunknown⟩

theorem VolumeMount.reads : Reads strict json parts decode (Wellformed strict json) := by
  refine Reads.model (fun es e h => (decode_eq_ok_iff.mp h).2.2.2) fun o e hs hjson h => ?_
  simp only [parts, Schema.spelledOnce_cons_iff] at hs
  obtain ⟨-, -, -, hunknown⟩ := decode_eq_ok_iff.mp h
  exact ⟨Schema.unclaimed_of_undeclared (fun h => (hs h).1) hjson hunknown⟩

theorem SecurityContext.reads : Reads strict json parts decode (Wellformed strict json) := by
  refine Reads.model (fun es e h => (decode_eq_ok_iff.mp h).2.2) fun o e hs hjson h => ?_
  simp only [parts, Schema.spelledOnce_cons_iff] at hs
  obtain ⟨-, -, hunknown⟩ := decode_eq_ok_iff.mp h
  exact ⟨Schema.unclaimed_of_undeclared (fun h => (hs h).1) hjson hunknown⟩

theorem Container.reads : Reads strict json parts decode (Wellformed strict json) := by
  refine Reads.model (fun es e h => (decode_eq_ok_iff.mp h).2.2.2.2.2.2.2.2.2) fun o c hs hjson h => ?_
  simp only [parts, Schema.spelledOnce_cons_iff, Schema.spelledOnce_append_iff] at hs
  obtain ⟨-, -, -, -, -, -, henv, hmounts, hcontext, hunknown⟩ := decode_eq_ok_iff.mp h
  exact ⟨EnvVar.reads.list.optional (fun h => (hs h).2.1.1) hjson henv,
    VolumeMount.reads.list.optional (fun h => (hs h).2.1.2) hjson hmounts,
    SecurityContext.reads.optional (fun h => (hs h).2.2) hjson hcontext,
    Schema.unclaimed_of_undeclared (fun h => (hs h).1) hjson hunknown⟩

theorem Volume.reads : Reads strict json parts decode (Wellformed strict json) := by
  refine Reads.model (fun es e h => (decode_eq_ok_iff.mp h).2.2.2) fun o v hs hjson h => ?_
  simp only [parts, Schema.spelledOnce_cons_iff] at hs
  obtain ⟨-, hemptyDir, hprojected, hunknown⟩ := decode_eq_ok_iff.mp h
  exact ⟨Reads.object.optional False.elim hjson hemptyDir,
    Reads.object.optional False.elim hjson hprojected,
    Schema.unclaimed_of_undeclared (fun h => (hs h).1) hjson hunknown⟩

theorem PodSpec.reads : Reads strict json parts decode (Wellformed strict json) := by
  refine Reads.model (fun es e h => (decode_eq_ok_iff.mp h).2.2.2.2) fun o s hs hjson h => ?_
  simp only [parts, Schema.spelledOnce_cons_iff, Schema.spelledOnce_append_iff] at hs
  obtain ⟨hinits, hcontainers, hvolumes, -, hunknown⟩ := decode_eq_ok_iff.mp h
  exact ⟨Container.reads.list.optional (fun h => (hs h).2.1.1) hjson hinits,
    Container.reads.list.withDefault (by simp) (fun h => (hs h).2.1.2) hjson hcontainers,
    Volume.reads.list.optional (fun h => (hs h).2.2) hjson hvolumes,
    Schema.unclaimed_of_undeclared (fun h => (hs h).1) hjson hunknown⟩

theorem ObjectMeta.reads : Reads strict json parts decode (Wellformed strict json) := by
  refine Reads.model (fun es e h => (decode_eq_ok_iff.mp h).2.2.2.2) fun o m hs hjson h => ?_
  simp only [parts, Schema.spelledOnce_cons_iff] at hs
  obtain ⟨-, -, hlabels, hannotations, hunknown⟩ := decode_eq_ok_iff.mp h
  exact ⟨Reads.nodup.optional False.elim hjson hlabels,
    Reads.nodup.optional False.elim hjson hannotations,
    Schema.unclaimed_of_undeclared (fun h => (hs h).1) hjson hunknown⟩

theorem PodSpec.wellformed_default : PodSpec.Wellformed strict json {} :=
  ⟨by simp, by simp, by simp, Object.unclaimed_nil⟩

theorem ObjectMeta.wellformed_default : ObjectMeta.Wellformed strict json {} :=
  ⟨by simp, by simp, Object.unclaimed_nil⟩

/-- A pod that has been read is well formed. -/
theorem Pod.reads : Reads strict json parts decode (Wellformed strict json) := by
  refine Reads.model (fun es e h => (decode_eq_ok_iff.mp h).2.2.2.2) fun o p hs hjson h => ?_
  simp only [parts, Schema.spelledOnce_cons_iff, Schema.spelledOnce_append_iff] at hs
  obtain ⟨-, -, hmetadata, hspec, hunknown⟩ := decode_eq_ok_iff.mp h
  exact ⟨ObjectMeta.reads.withDefault ObjectMeta.wellformed_default (fun h => (hs h).2.1) hjson hmetadata,
    PodSpec.reads.withDefault PodSpec.wellformed_default (fun h => (hs h).2.2) hjson hspec,
    Schema.unclaimed_of_undeclared (fun h => (hs h).1) hjson hunknown⟩

end Sidecar
