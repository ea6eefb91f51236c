import Sidecar.Proofs.Pod.Decode
import Sidecar.Proofs.Pod.Place.Basic

/-!
A pod that is read from a document has the entries that are left over in each object of the document as
the unknown entries of the object in the same place.
-/

namespace Sidecar

namespace Schema

variable {α : Type} {fields : List FieldName} {read : Value → Checked α} {f : FieldName} {o : Object}

theorem unread_of_undeclared {es : List (Value × Value)} {unknown : Object}
    (h : undeclared fields es = .ok unknown) : unread fields (.map es) = unknown.entries := by
  obtain ⟨o, rfl⟩ := exists_entries_of_undeclared h
  rw [undeclared_entries] at h
  obtain rfl := Checked.ok.inj h
  rw [unread, Object.filter_entries]
  congr 1
  refine List.filter_congr fun e _ => ?_
  rw [Bool.eq_iff_iff, List.all_eq_true, decide_eq_true_eq, takenKeys, List.mem_filterMap]
  simp only [Option.all_eq_true, decide_eq_true_eq, Option.map_eq_some_iff, not_exists, not_and]
  constructor
  · intro h f hf found hfound heq
    exact h f hf found hfound (congrArg Value.str heq.symm)
  · intro h f hf found hfound heq
    exact h f hf found hfound (Value.str.inj heq).symm

/-- A list that is read from a field has its items in order. -/
theorem forall₂_of_optional {x : Option (List α)} (h : f.optional (list read) o.entries = .ok x) :
    List.Forall₂ (fun v a => read v = .ok a) (itemsOf FieldName.value? f (.map o.entries)) (x.getD []) := by
  have hrel := FieldName.optional_eq_ok_iff.mp h
  rw [itemsOf, FieldName.value?_entries]
  cases hget : f.get? o with
  | none =>
    rw [hget] at hrel
    cases x with
    | none => exact .nil
    | some as => simp at hrel
  | some v =>
    rw [hget, Option.filter_some] at hrel
    by_cases hv : v = .null
    · subst hv
      cases x with
      | none => exact .nil
      | some as => simp at hrel
    · cases x with
      | none => simp [hv] at hrel
      | some as =>
        simp only [ne_eq, hv, not_false_eq_true, decide_true, if_true, Option.rel_some_some] at hrel
        exact forall₂_of_list hrel

theorem forall₂_of_withDefault {as : List α} (h : f.withDefault [] (list read) o.entries = .ok as) :
    List.Forall₂ (fun v a => read v = .ok a) (itemsOf FieldName.value? f (.map o.entries)) as := by
  have hread := FieldName.withDefault_eq_ok_iff.mp h
  rw [itemsOf, FieldName.value?_entries]
  cases hget : f.get? o with
  | none =>
    rw [hget] at hread
    obtain rfl : [] = as := hread
    exact .nil
  | some v =>
    rw [hget] at hread
    exact forall₂_of_list hread

theorem isNamed_of_required {name s : String} (h : f.required text o.entries = .ok s) :
    isNamed f name (.map o.entries) = decide (s = name) := by
  obtain ⟨v, hv, htext⟩ := FieldName.required_eq_ok_iff.mp h
  rw [isNamed, FieldName.value?_entries, hv, Option.map_some, htext]

section Items

variable {vs : List Value} {as : List α} {unknown : α → Object}

/-- What is at a position of a list is read from what is there in the document. -/
theorem unread_getElem? (h : List.Forall₂ (fun v a => read v = .ok a) vs as)
    (hunread : ∀ v a, read v = .ok a → unread fields v = (unknown a).entries) (index : Nat) :
    vs[index]?.map (unread fields) = ((as.map unknown)[index]?).map Object.entries := by
  induction h generalizing index with
  | nil => rfl
  | cons hread _ ih =>
    cases index with
    | zero => simp [hunread _ _ hread]
    | succ index => simpa using ih index

/-- What is found in a list is read from what is found in the document. -/
theorem find?_rel (h : List.Forall₂ (fun v a => read v = .ok a) vs as) {p : Value → Bool} {q : α → Bool}
    (hpq : ∀ v a, read v = .ok a → p v = q a) :
    Option.Rel (fun v a => read v = .ok a) (vs.find? p) (as.find? q) := by
  induction h with
  | nil => exact .none
  | cons hread _ ih =>
    rw [List.find?_cons, List.find?_cons, hpq _ _ hread]
    split
    · exact .some hread
    · exact ih

theorem map_eq_of_rel {β γ : Type} {r : Value → β → Prop} {x : Option Value} {y : Option β} {f : Value → γ}
    {g : β → γ} (h : Option.Rel r x y) (hfg : ∀ v b, r v b → f v = g b) : x.map f = y.map g := by
  cases h with
  | none => rfl
  | some hr => exact congrArg some (hfg _ _ hr)

end Items

end Schema

variable {v : Value}

theorem EnvVar.unread_of_decode {e : EnvVar} (h : decode v = .ok e) :
    Schema.unread fields v = e.unknown.entries := by
  obtain ⟨es, rfl, -⟩ := Schema.model_eq_ok_iff.mp h
  exact Schema.unread_of_undeclared (decode_eq_ok_iff.mp h).2.2.2

theorem VolumeMount.unread_of_decode {m : VolumeMount} (h : decode v = .ok m) :
    Schema.unread fields v = m.unknown.entries := by
  obtain ⟨es, rfl, -⟩ := Schema.model_eq_ok_iff.mp h
  exact Schema.unread_of_undeclared (decode_eq_ok_iff.mp h).2.2.2

theorem SecurityContext.unread_of_decode {c : SecurityContext} (h : decode v = .ok c) :
    Schema.unread fields v = c.unknown.entries := by
  obtain ⟨es, rfl, -⟩ := Schema.model_eq_ok_iff.mp h
  exact Schema.unread_of_undeclared (decode_eq_ok_iff.mp h).2.2

theorem Volume.unread_of_decode {w : Volume} (h : decode v = .ok w) :
    Schema.unread fields v = w.unknown.entries := by
  obtain ⟨es, rfl, -⟩ := Schema.model_eq_ok_iff.mp h
  exact Schema.unread_of_undeclared (decode_eq_ok_iff.mp h).2.2.2

theorem Volume.isNamed_of_decode {w : Volume} (h : decode v = .ok w) (name : String) :
    Schema.isNamed nameField name v = decide (w.name = name) := by
  obtain ⟨es, rfl, -⟩ := Schema.model_eq_ok_iff.mp h
  obtain ⟨hname, -, -, hunknown⟩ := decode_eq_ok_iff.mp h
  obtain ⟨o, rfl⟩ := Schema.exists_entries_of_undeclared hunknown
  exact Schema.isNamed_of_required hname

theorem Container.isNamed_of_decode {c : Container} (h : decode v = .ok c) (name : String) :
    Schema.isNamed nameField name v = decide (c.name = name) := by
  obtain ⟨es, rfl, -⟩ := Schema.model_eq_ok_iff.mp h
  obtain ⟨hname, -, -, -, -, -, -, -, -, hunknown⟩ := decode_eq_ok_iff.mp h
  obtain ⟨o, rfl⟩ := Schema.exists_entries_of_undeclared hunknown
  exact Schema.isNamed_of_required hname

/-- A container is read with the unknown entries of all its objects. -/
theorem Container.Place.unread_of_decode {c : Container} (h : decode v = .ok c) (place : Place) :
    (place.find? Schema.FieldName.value? v).map (Schema.unread place.fields) =
      (place.unknown? c).map Object.entries := by
  obtain ⟨es, rfl, -⟩ := Schema.model_eq_ok_iff.mp h
  obtain ⟨-, -, -, -, -, -, henv, hmounts, hcontext, hunknown⟩ := decode_eq_ok_iff.mp h
  obtain ⟨o, rfl⟩ := Schema.exists_entries_of_undeclared hunknown
  cases place with
  | whole => exact congrArg some (Schema.unread_of_undeclared hunknown)
  | envVar index =>
    exact Schema.unread_getElem? (Schema.forall₂_of_optional henv)
      (fun _ _ => EnvVar.unread_of_decode) index
  | mount index =>
    exact Schema.unread_getElem? (Schema.forall₂_of_optional hmounts)
      (fun _ _ => VolumeMount.unread_of_decode) index
  | securityContext =>
    have hrel := Schema.FieldName.optional_eq_ok_iff.mp hcontext
    rw [find?, unknown?, fields, Schema.FieldName.value?_entries, Option.map_map]
    exact Schema.map_eq_of_rel hrel fun _ _ => SecurityContext.unread_of_decode

theorem PodSpec.Place.unread_of_decode {s : PodSpec} (h : decode v = .ok s) (place : Place) :
    (place.find? Schema.FieldName.value? v).map (Schema.unread place.fields) =
      (place.unknown? s).map Object.entries := by
  obtain ⟨es, rfl, -⟩ := Schema.model_eq_ok_iff.mp h
  obtain ⟨hinits, hcontainers, hvolumes, -, hunknown⟩ := decode_eq_ok_iff.mp h
  obtain ⟨o, rfl⟩ := Schema.exists_entries_of_undeclared hunknown
  cases place with
  | whole => exact congrArg some (Schema.unread_of_undeclared hunknown)
  | volume name =>
    have hrel := Schema.find?_rel (Schema.forall₂_of_optional hvolumes)
      fun _ _ hread => Volume.isNamed_of_decode hread name
    rw [find?, unknown?, fields, Option.map_map]
    exact Schema.map_eq_of_rel hrel fun _ _ => Volume.unread_of_decode
  | container init name place =>
    have hitems : List.Forall₂ (fun v c => Container.decode v = .ok c)
        (Schema.itemsOf Schema.FieldName.value? (containersField init) (.map o.entries))
        (containers s init) := by
      cases init with
      | true => exact Schema.forall₂_of_optional hinits
      | false => exact Schema.forall₂_of_withDefault hcontainers
    have hrel := Schema.find?_rel hitems fun _ _ hread => Container.isNamed_of_decode hread name
    rw [find?, unknown?, fields]
    generalize List.find? _ _ = x at hrel
    generalize List.find? _ _ = y at hrel
    cases hrel with
    | none => rfl
    | some hread => exact place.unread_of_decode hread

theorem PodSpec.Place.unknown?_default (place : Place) :
    Retained none ((place.unknown? {}).map Object.entries) := by
  cases place with
  | whole => exact .inr ⟨rfl, rfl⟩
  | volume name => exact .refl none
  | container init name place => cases init <;> exact .refl none

theorem ObjectMeta.unread_of_decode {m : ObjectMeta} (h : decode v = .ok m) :
    Schema.unread fields v = m.unknown.entries := by
  obtain ⟨es, rfl, -⟩ := Schema.model_eq_ok_iff.mp h
  exact Schema.unread_of_undeclared (decode_eq_ok_iff.mp h).2.2.2.2

/-- A pod is read with the unknown entries of all its objects; metadata and a spec that the document
lacks have none. -/
theorem Pod.Place.unread_of_decode {p : Pod} (h : decode v = .ok p) (place : Place) :
    Retained ((place.find? Schema.FieldName.value? v).map (Schema.unread place.fields))
      ((place.unknown? p).map Object.entries) := by
  obtain ⟨es, rfl, -⟩ := Schema.model_eq_ok_iff.mp h
  obtain ⟨-, -, hmetadata, hspec, hunknown⟩ := decode_eq_ok_iff.mp h
  obtain ⟨o, rfl⟩ := Schema.exists_entries_of_undeclared hunknown
  rw [Schema.FieldName.withDefault_eq_ok_iff] at hmetadata hspec
  cases place with
  | whole => exact .inl (congrArg some (Schema.unread_of_undeclared hunknown).symm)
  | metadata =>
    rw [find?, unknown?, fields, Schema.FieldName.value?_entries]
    cases hget : metadataField.get? o with
    | none =>
      rw [hget] at hmetadata
      exact .inr ⟨rfl, by rw [← hmetadata]; rfl⟩
    | some w =>
      rw [hget] at hmetadata
      exact .inl (congrArg some (ObjectMeta.unread_of_decode hmetadata).symm)
  | spec place =>
    rw [find?, unknown?, fields, Schema.FieldName.value?_entries]
    cases hget : specField.get? o with
    | none =>
      rw [hget] at hspec
      rw [← hspec]
      exact place.unknown?_default
    | some w =>
      rw [hget] at hspec
      exact .inl (place.unread_of_decode hspec).symm

end Sidecar
