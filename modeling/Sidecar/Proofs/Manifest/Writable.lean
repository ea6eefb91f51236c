import Sidecar.Manifest
import Sidecar.Proofs.Pod.RoundTrip

/-!
Which documents can be written. JSON can be written in manifests exactly if it can be printed, since only
long integers stand in the way of either. What an injected pod is written as can be written exactly if
its spec can, and what stands outside of the spec in the document that the pod is read from.
-/

namespace Sidecar

namespace Manifest

mutual

/-- JSON has no dates. -/
theorem shiftOrigins_of_isJson (n : Nat) (v : Value) (hv : v.isJson = true) : shiftOrigins n v = v := by
  cases v with
  | list items => rw [shiftOrigins, shiftItems_of_allJson n items hv]
  | map entries => rw [shiftOrigins, shiftEntries_of_entriesJson n entries hv]
  | date | timestamp | tuple | set => simp [Value.isJson] at hv
  | _ => rfl

theorem shiftItems_of_allJson (n : Nat) (items : List Value) (hitems : Value.allJson items = true) :
    shiftItems n items = items := by
  cases items with
  | nil => rfl
  | cons v items =>
    rw [Value.allJson, Bool.and_eq_true] at hitems
    rw [shiftItems, shiftOrigins_of_isJson n v hitems.1, shiftItems_of_allJson n items hitems.2]

theorem shiftEntries_of_entriesJson (n : Nat) (entries : List (Value × Value))
    (hentries : Value.entriesJson entries = true) : shiftEntries n entries = entries := by
  cases entries with
  | nil => rfl
  | cons e entries =>
    obtain ⟨k, v⟩ := e
    cases k with
    | str k =>
      rw [Value.entriesJson, Bool.and_eq_true, Bool.and_eq_true] at hentries
      obtain ⟨⟨-, hv⟩, hentries⟩ := hentries
      rw [shiftEntries, shiftOrigins_of_isJson n v hv, shiftEntries_of_entriesJson n entries hentries]
      rfl
    | _ => simp [Value.entriesJson] at hentries

end

theorem unshare_of_isJson {p : Pod} (h : Object.IsJson p.unknown) : unshare p = p := by
  have hkeep (n : Nat) : p.unknown.map (fun e => (e.1, shiftOrigins n e.2)) = p.unknown := by
    refine (List.map_congr_left fun e he => ?_).trans (List.map_id _)
    exact congrArg (Prod.mk e.1) (shiftOrigins_of_isJson _ e.2 (h.values e he))
  exact congrArg (fun unknown => { p with unknown }) (hkeep _)

/-- What can be written can be printed; what cannot has an integer that is too long. -/
inductive Agrees {α : Type} : Bool → Except Json.PrintError α → Prop where
  | ok (a : α) : Agrees true (.ok a)
  | error : Agrees false (.error .tooManyDigits)

namespace Agrees

variable {α β γ : Type} {w u : Bool} {x : Except Json.PrintError α} {y : Except Json.PrintError β}

theorem bind₂ (hx : Agrees w x) (hy : Agrees u y) (f : α → β → γ) :
    Agrees (w && u) (do return f (← x) (← y)) := by
  cases hx with
  | error => exact .error
  | ok a =>
    cases hy with
    | error => exact .error
    | ok b => exact .ok (f a b)

theorem map (hx : Agrees w x) (f : α → β) : Agrees w (do return f (← x)) := by
  cases hx with
  | error => exact .error
  | ok a => exact .ok (f a)

end Agrees

theorem agrees_integer (n : Int) : Agrees (isWritable (.int n)) (Json.integer n) := by
  unfold Json.integer isWritable
  generalize Literal.integer? n = text?
  cases text? with
  | none => exact .error
  | some text => exact .ok text

mutual

theorem agrees_print (v : Value) (hv : v.isJson = true) : Agrees (isWritable v) (Json.print v) := by
  cases v with
  | int n =>
    rw [Json.print]
    exact agrees_integer n
  | list items => exact (agrees_printItems items hv).map _
  | map entries => exact (agrees_printEntries entries hv).map _
  | bytes | date | timestamp | tuple | set => simp [Value.isJson] at hv
  | null | bool | float | str => exact .ok _

theorem agrees_printItems (items : List Value) (hitems : Value.allJson items = true) :
    Agrees (itemsWritable items) (Json.printItems items) := by
  cases items with
  | nil => exact .ok _
  | cons v items =>
    rw [Value.allJson, Bool.and_eq_true] at hitems
    exact (agrees_print v hitems.1).bind₂ (agrees_printItems items hitems.2) List.cons

theorem agrees_printEntries (entries : List (Value × Value))
    (hentries : Value.entriesJson entries = true) :
    Agrees (entriesWritable entries) (Json.printEntries entries) := by
  cases entries with
  | nil => exact .ok _
  | cons e entries =>
    obtain ⟨k, v⟩ := e
    cases k with
    | str k =>
      rw [Value.entriesJson, Bool.and_eq_true, Bool.and_eq_true] at hentries
      obtain ⟨⟨-, hv⟩, hentries⟩ := hentries
      exact (agrees_print v hv).bind₂ (agrees_printEntries entries hentries)
        fun text texts => (Json.quoted k ++ ": " ++ text) :: texts
    | _ => simp [Value.entriesJson] at hentries

end

/-- JSON can be written exactly if it can be printed. -/
theorem isWritable_iff_print {v : Value} (hv : v.isJson = true) :
    isWritable v = true ↔ ∃ text, Json.print v = .ok text := by
  have hagrees := agrees_print v hv
  generalize isWritable v = w at hagrees
  generalize Json.print v = x at hagrees
  cases hagrees with
  | ok text => simp
  | error => simp

theorem isWritable_map_iff {o : Object} :
    isWritable (.map o.entries) = true ↔ ∀ e ∈ o, isWritable e.2 = true := by
  rw [isWritable]
  induction o with
  | nil => simp [entriesWritable]
  | cons e o ih =>
    obtain ⟨k, v⟩ := e
    simp [entriesWritable, isWritable, ih]

theorem isWritable_of_text {v : Value} {s : String} (h : Schema.text v = .ok s) :
    isWritable v = true := by
  cases v with
  | str | bytes => rfl
  | _ => simp [Schema.text, Schema.Checked.fail] at h

theorem isWritable_of_entries {es : List (Value × Value)} {l : List (String × String)}
    (h : Schema.entries Schema.text es = .ok l) : entriesWritable es = true := by
  induction es generalizing l with
  | nil => rfl
  | cons e es ih =>
    obtain ⟨k, v⟩ := e
    simp only [Schema.entries, Schema.Checked.seq_eq_ok_iff, Schema.Checked.map_eq_ok_iff,
      Schema.Checked.within_eq_ok_iff] at h
    obtain ⟨-, rest, ⟨-, ⟨-, s, ⟨key, hk, rfl⟩, hv, rfl⟩, rfl⟩, hrest, rfl⟩ := h
    rw [entriesWritable, isWritable_of_text hk, isWritable_of_text hv, ih hrest]
    rfl

theorem isWritable_of_object {v : Value} {l : List (String × String)}
    (h : Schema.object Schema.text v = .ok l) : isWritable v = true := by
  cases v with
  | map es =>
    obtain ⟨l, hl, -⟩ := Schema.Checked.map_eq_ok_iff.mp h
    exact isWritable_of_entries hl
  | _ => simp [Schema.object, Schema.Checked.fail] at h

/-- What an optional field is read from can be written, if what can be read can be written. -/
theorem isWritable_of_optional {α : Type} {read : Value → Schema.Checked α} {f : Schema.FieldName}
    {o : Object} {x : Option α} (hread : ∀ v a, read v = .ok a → isWritable v = true)
    (h : f.optional read o.entries = .ok x) : ∀ e ∈ f.find? o.entries, isWritable e.2 = true := by
  rintro ⟨k, v⟩ (he : f.find? o.entries = some (k, v))
  rw [Schema.FieldName.optional, Schema.FieldName.withDefault, he] at h
  have hv : Schema.nullable read v = .ok x := by simpa using h
  by_cases hnull : v = .null
  · rw [hnull]
    rfl
  · have hsome : ∃ a, read v = .ok a := by
      unfold Schema.nullable at hv
      split at hv
      · exact absurd rfl hnull
      · obtain ⟨a, ha, -⟩ := Schema.Checked.map_eq_ok_iff.mp hv
        exact ⟨a, ha⟩
    obtain ⟨a, ha⟩ := hsome
    exact hread v a ha

theorem isWritable_optional {α : Type} {write : α → Value} (h : ∀ a, isWritable (write a) = true)
    (x : Option α) : isWritable (Value.optional write x) = true := by
  cases x with
  | none => rfl
  | some a => exact h a

/-- What is written for an object can be written if all values in it can. -/
theorem isWritable_ofFields_iff {declared : List (Schema.FieldName × Value)} {unknown : Object} :
    isWritable (Value.ofFields declared unknown) = true ↔
      (∀ d ∈ declared, isWritable d.2 = true) ∧ ∀ e ∈ unknown, isWritable e.2 = true := by
  rw [Value.ofFields_eq_map, isWritable_map_iff]
  constructor
  · intro h
    constructor
    · intro d hd
      by_cases hnull : d.2 = .null
      · rw [hnull]
        rfl
      · exact h (d.1.key, d.2) (Object.mem_ofFields_iff.mpr ⟨.inl ⟨d.1, hd, rfl⟩, hnull⟩)
    · intro e he
      by_cases hnull : e.2 = .null
      · rw [hnull]
        rfl
      · exact h e (Object.mem_ofFields_iff.mpr ⟨.inr he, hnull⟩)
  · rintro ⟨hdeclared, hunknown⟩ e he
    obtain ⟨⟨f, hf, -⟩ | he, -⟩ := Object.mem_ofFields_iff.mp he
    · exact hdeclared _ hf
    · exact hunknown e he

end Manifest

/-- All entries of an object have a property if those do that its fields are read from, and those that
are left over. -/
theorem Schema.forall_mem_iff_of_undeclared {fields : List FieldName} {o unknown : Object}
    (ho : (o.map Prod.fst).Nodup) (h : undeclared fields o.entries = .ok unknown)
    {P : String × Value → Prop} :
    (∀ e ∈ o, P e) ↔ (∀ e ∈ unknown, P e) ∧ ∀ f ∈ fields, ∀ e ∈ f.find? o.entries, P e := by
  rw [undeclared_entries] at h
  obtain rfl := Checked.ok.inj h
  constructor
  · intro hall
    refine ⟨fun e he => hall e (List.mem_of_mem_filter he), fun f _ e he => hall e (FieldName.mem_of_find? he).1⟩
  · rintro ⟨hunknown, hfields⟩ e he
    by_cases htaken : e.1 ∈ takenKeys fields o
    · obtain ⟨f, hf, hkey⟩ := List.mem_filterMap.mp htaken
      obtain ⟨found, hfound, hkey⟩ := Option.map_eq_some_iff.mp hkey
      obtain rfl : found = e := List.inj_on_of_nodup_map ho (FieldName.mem_of_find? hfound).1 he hkey
      exact hfields f hf found hfound
    · exact hunknown e (List.mem_filter.mpr ⟨he, by simpa using htaken⟩)

open Manifest (isWritable)

namespace ObjectMeta

theorem isWritable_toValue_iff {m : ObjectMeta} :
    isWritable m.toValue = true ↔ ∀ e ∈ m.unknown, isWritable e.2 = true := by
  have htext (x : Option String) : isWritable (Value.optional .str x) = true :=
    Manifest.isWritable_optional (fun _ => rfl) x
  have htexts (o : List (String × String)) :
      isWritable (Object.toValue (o.map fun e => (e.1, .str e.2))) = true := by
    refine Manifest.isWritable_map_iff.mpr fun e he => ?_
    obtain ⟨-, -, rfl⟩ := List.mem_map.mp he
    rfl
  have hdeclared : ∀ e ∈ m.declared, isWritable e.2 = true := by
    simp only [declared, List.forall_mem_cons, List.not_mem_nil, false_implies, implies_true, and_true]
    exact ⟨htext _, htext _, Manifest.isWritable_optional htexts _, Manifest.isWritable_optional htexts _⟩
  rw [toValue, Manifest.isWritable_ofFields_iff]
  exact and_iff_right hdeclared

/-- Metadata can be written exactly if the document can that they are read from. -/
theorem isWritable_toValue_of_decode {v : Value} {m : ObjectMeta} (hv : v.isJson = true)
    (h : decode v = .ok m) : isWritable m.toValue = isWritable v := by
  obtain ⟨es, rfl, -⟩ := Schema.model_eq_ok_iff.mp h
  obtain ⟨hname, hspace, hlabels, hannotations, hunknown⟩ := decode_eq_ok_iff.mp h
  obtain ⟨o, rfl, ho⟩ := Value.exists_object_of_isJson hv
  have hfields : ∀ f ∈ fields, ∀ e ∈ f.find? o.entries, isWritable e.2 = true := by
    simp only [fields, List.forall_mem_cons, List.not_mem_nil, false_implies, implies_true, and_true]
    exact ⟨Manifest.isWritable_of_optional (fun _ _ => Manifest.isWritable_of_text) hname,
      Manifest.isWritable_of_optional (fun _ _ => Manifest.isWritable_of_text) hspace,
      Manifest.isWritable_of_optional (fun _ _ => Manifest.isWritable_of_object) hlabels,
      Manifest.isWritable_of_optional (fun _ _ => Manifest.isWritable_of_object) hannotations⟩
  rw [Bool.eq_iff_iff, isWritable_toValue_iff, Manifest.isWritable_map_iff,
    Schema.forall_mem_iff_of_undeclared ho.nodup hunknown]
  exact (and_iff_left hfields).symm

end ObjectMeta

namespace Pod

theorem isWritable_toValue_iff {p : Pod} : isWritable p.toValue = true ↔
    isWritable p.spec.toValue = true ∧ isWritable p.metadata.toValue = true ∧
      ∀ e ∈ p.unknown, isWritable e.2 = true := by
  have htext (x : Option String) : isWritable (Value.optional .str x) = true :=
    Manifest.isWritable_optional (fun _ => rfl) x
  rw [toValue, Manifest.isWritable_ofFields_iff]
  simp only [declared, List.forall_mem_cons, htext, List.not_mem_nil, false_implies, implies_true,
    and_true, true_and]
  tauto

theorem isWritable_metadata_iff {o : Object} {p : Pod} (ho : o.IsJson)
    (h : metadataField.withDefault {} ObjectMeta.decode o.entries = .ok p.metadata) :
    (∀ e ∈ metadataField.find? o.entries, e.1 ≠ "spec" → isWritable e.2 = true) ↔
      isWritable p.metadata.toValue = true := by
  rw [Schema.FieldName.withDefault] at h
  cases hfind : metadataField.find? o.entries with
  | none =>
    rw [hfind] at h
    rw [← Schema.Checked.ok.inj h, ObjectMeta.isWritable_toValue_iff]
    simp
  | some e =>
    rw [hfind] at h
    have hdecode : ObjectMeta.decode e.2 = .ok p.metadata := by simpa using h
    have hvalue : metadataField.value? (.map o.entries) = some e.2 := by
      rw [Schema.FieldName.value?, hfind]
      rfl
    have hjson : (Value.map o.entries).isJson = true := Value.isJson_object_iff.mpr ho
    have hkey : e.1 ≠ "spec" := by
      rcases (Schema.FieldName.mem_of_find? hfind).2 with h | h <;> rw [h] <;> decide
    rw [ObjectMeta.isWritable_toValue_of_decode (Schema.isJson_of_value? hjson hvalue) hdecode]
    simp [hkey]

/-- Outside of the spec, a pod can be written if the document can that it is read from. -/
theorem isWritable_outside_spec {o : Object} {p : Pod} (ho : o.IsJson)
    (h : decode (.map o.entries) = .ok p) :
    (∀ e ∈ o, e.1 ≠ "spec" → isWritable e.2 = true) ↔
      isWritable p.metadata.toValue = true ∧ ∀ e ∈ p.unknown, isWritable e.2 = true := by
  obtain ⟨hversion, hkind, hmetadata, -, hunknown⟩ := decode_eq_ok_iff.mp h
  have hclaimed : p.unknown.Unclaimed False False fields :=
    Schema.unclaimed_of_undeclared False.elim False.elim hunknown
  have hspec : ∀ e ∈ specField.find? o.entries, e.1 = "spec" := fun e he =>
    (Schema.FieldName.mem_of_find? he).2.elim id id
  have hversion := Manifest.isWritable_of_optional (fun _ _ => Manifest.isWritable_of_text) hversion
  have hkind := Manifest.isWritable_of_optional (fun _ _ => Manifest.isWritable_of_text) hkind
  rw [Schema.forall_mem_iff_of_undeclared ho.nodup hunknown, ← isWritable_metadata_iff ho hmetadata,
    and_comm]
  refine and_congr ?_ ?_
  · simp only [fields, List.forall_mem_cons, List.not_mem_nil, false_implies, implies_true, and_true]
    constructor
    · exact fun hall => hall.2.2.1
    · intro hmeta
      exact ⟨fun e he _ => hversion e he, fun e he _ => hkind e he, hmeta, fun e he hne =>
        absurd (hspec e he) hne⟩
  · refine forall₂_congr fun e he => ?_
    have hne : e.1 ≠ "spec" := hclaimed.key_ne e he specField (by simp [fields])
    simp [hne]

end Pod

end Sidecar
