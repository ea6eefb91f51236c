import Sidecar.Pod.Decode
import Sidecar.Proofs.Schema.Field

/-!
The objects of a pod's document that fields are declared for, and under which of their spellings the
fields stand in them.
-/

namespace Sidecar

namespace Schema

/-- No declared field of an object stands under both its key and its name. -/
def spelledOnce (fields : List FieldName) (v : Value) : Bool :=
  fields.all fun f => f.key = f.name || (v.field? f.key).isNone || (v.field? f.name).isNone

/-- Every declared field of an object that stands under its name stands under its key too. -/
def keyed (fields : List FieldName) (v : Value) : Bool :=
  fields.all fun f => (v.field? f.key).isSome || (v.field? f.name).isNone

/-- A field passes a check, or is absent, under its key and under its name. -/
def FieldName.passes (f : FieldName) (check : Value → Bool) (v : Value) : Bool :=
  [f.key, f.name].all fun k => (v.field? k).all check

def each (check : Value → Bool) : Value → Bool
  | .list items => items.all check
  | _ => true

/-- Objects, each with the fields that are declared for it. -/
abbrev Parts := List (List FieldName × Value)

/-- No object has one of its fields under both spellings. -/
def SpelledOnce (parts : Parts) : Prop := ∀ part ∈ parts, spelledOnce part.1 part.2 = true

instance (parts : Parts) : Decidable (SpelledOnce parts) :=
  inferInstanceAs (Decidable (∀ part ∈ parts, _))

/-- No object has one of its fields under the name alone. -/
def Keyed (parts : Parts) : Prop := ∀ part ∈ parts, keyed part.1 part.2 = true

instance (parts : Parts) : Decidable (Keyed parts) :=
  inferInstanceAs (Decidable (∀ part ∈ parts, _))

/-- The objects within the value that a field is read from. -/
def FieldName.parts (f : FieldName) (parts : Value → Parts) (v : Value) : Parts :=
  ((f.value? v).map parts).getD []

def memberParts (parts : Value → Parts) (v : Value) : Parts := (members v).flatMap parts

end Schema

def EnvVar.spelledOnce (v : Value) : Bool := Schema.spelledOnce fields v

def VolumeMount.spelledOnce (v : Value) : Bool := Schema.spelledOnce fields v

def SecurityContext.spelledOnce (v : Value) : Bool := Schema.spelledOnce fields v

def Container.spelledOnce (v : Value) : Bool :=
  Schema.spelledOnce fields v && envField.passes (Schema.each EnvVar.spelledOnce) v
    && volumeMountsField.passes (Schema.each VolumeMount.spelledOnce) v
    && securityContextField.passes SecurityContext.spelledOnce v

def Volume.spelledOnce (v : Value) : Bool := Schema.spelledOnce fields v

def PodSpec.spelledOnce (v : Value) : Bool :=
  Schema.spelledOnce fields v && initContainersField.passes (Schema.each Container.spelledOnce) v
    && containersField.passes (Schema.each Container.spelledOnce) v
    && volumesField.passes (Schema.each Volume.spelledOnce) v

def ObjectMeta.spelledOnce (v : Value) : Bool := Schema.spelledOnce fields v

/-- No object within a pod that fields are declared for has a field under both its key and its name. -/
def Pod.spelledOnce (v : Value) : Bool :=
  Schema.spelledOnce fields v && metadataField.passes ObjectMeta.spelledOnce v
    && specField.passes PodSpec.spelledOnce v

def EnvVar.parts (v : Value) : Schema.Parts := [(fields, v)]

def VolumeMount.parts (v : Value) : Schema.Parts := [(fields, v)]

def SecurityContext.parts (v : Value) : Schema.Parts := [(fields, v)]

def Container.parts (v : Value) : Schema.Parts :=
  (fields, v) :: (envField.parts (Schema.memberParts EnvVar.parts) v
    ++ volumeMountsField.parts (Schema.memberParts VolumeMount.parts) v
    ++ securityContextField.parts SecurityContext.parts v)

def Volume.parts (v : Value) : Schema.Parts := [(fields, v)]

def PodSpec.parts (v : Value) : Schema.Parts :=
  (fields, v) :: (initContainersField.parts (Schema.memberParts Container.parts) v
    ++ containersField.parts (Schema.memberParts Container.parts) v
    ++ volumesField.parts (Schema.memberParts Volume.parts) v)

def ObjectMeta.parts (v : Value) : Schema.Parts := [(fields, v)]

/-- The objects of a pod's document: the pod, its metadata and spec, and all within the latter. -/
def Pod.parts (v : Value) : Schema.Parts :=
  (fields, v) :: (metadataField.parts ObjectMeta.parts v ++ specField.parts PodSpec.parts v)

namespace Schema

variable {f : FieldName} {o : Object} {parts : Value → Parts} {check : Value → Bool}

@[simp] theorem spelledOnce_cons_iff {part : List FieldName × Value} {rest : Parts} :
    SpelledOnce (part :: rest) ↔ spelledOnce part.1 part.2 = true ∧ SpelledOnce rest :=
  List.forall_mem_cons

@[simp] theorem spelledOnce_nil : SpelledOnce [] := by simp [SpelledOnce]

@[simp] theorem spelledOnce_append_iff {ps qs : Parts} :
    SpelledOnce (ps ++ qs) ↔ SpelledOnce ps ∧ SpelledOnce qs :=
  List.forall_mem_append

@[simp] theorem keyed_cons_iff {part : List FieldName × Value} {rest : Parts} :
    Keyed (part :: rest) ↔ keyed part.1 part.2 = true ∧ Keyed rest :=
  List.forall_mem_cons

@[simp] theorem keyed_nil : Keyed [] := by simp [Keyed]

@[simp] theorem keyed_append_iff {ps qs : Parts} : Keyed (ps ++ qs) ↔ Keyed ps ∧ Keyed qs :=
  List.forall_mem_append

theorem forall_memberParts_iff {v : Value} {P : List FieldName × Value → Prop} :
    (∀ part ∈ memberParts parts v, P part) ↔ ∀ w ∈ members v, ∀ part ∈ parts w, P part := by
  simp only [memberParts, List.mem_flatMap]
  constructor
  · intro h w hw part hpart
    exact h part ⟨w, hw, hpart⟩
  · rintro h part ⟨w, hw, hpart⟩
    exact h w hw part hpart

theorem spelledOnce_memberParts_iff {v : Value} :
    SpelledOnce (memberParts parts v) ↔ ∀ w ∈ members v, SpelledOnce (parts w) :=
  forall_memberParts_iff

theorem keyed_memberParts_iff {v : Value} :
    Keyed (memberParts parts v) ↔ ∀ w ∈ members v, Keyed (parts w) :=
  forall_memberParts_iff

theorem spelledOnce_parts_iff {v : Value} :
    SpelledOnce (f.parts parts v) ↔ ∀ w, f.value? v = some w → SpelledOnce (parts w) := by
  unfold FieldName.parts
  cases f.value? v <;> simp

theorem passes_of_value? {v w : Value} (hs : f.passes check v = true) (h : f.value? v = some w) :
    check w = true := by
  cases v with
  | map es =>
    simp only [FieldName.passes, List.all_cons, List.all_nil, Bool.and_true, Bool.and_eq_true] at hs
    simp only [FieldName.value?, FieldName.find?] at h
    cases hkey : (Value.map es).field? f.key with
    | some u =>
      rw [hkey] at h hs
      obtain rfl : u = w := by simpa using h
      exact hs.1
    | none =>
      rw [hkey] at h
      cases hname : (Value.map es).field? f.name with
      | some u =>
        rw [hname] at h hs
        obtain rfl : u = w := by simpa using h
        exact hs.2
      | none => simp [hname] at h
  | _ => simp [FieldName.value?] at h

/-- A check that covers the objects of a value covers those of a field. -/
theorem spelledOnce_field {v : Value} (hv : v.isJson = true) (hs : f.passes check v = true)
    (h : ∀ w, w.isJson = true → check w = true → SpelledOnce (parts w)) :
    SpelledOnce (f.parts parts v) :=
  spelledOnce_parts_iff.mpr fun w hw => h w (isJson_of_value? hv hw) (passes_of_value? hs hw)

theorem spelledOnce_each {v : Value} (hv : v.isJson = true) (hs : each check v = true)
    (h : ∀ w, w.isJson = true → check w = true → SpelledOnce (parts w)) :
    SpelledOnce (memberParts parts v) := by
  rw [spelledOnce_memberParts_iff]
  cases v with
  | list vs =>
    intro w hw
    exact h w (Value.isJson_list_iff.mp hv w hw) (List.all_eq_true.mp hs w hw)
  | tuple | set => simp [Value.isJson] at hv
  | _ => simp [members]

end Schema

open Schema (SpelledOnce)

variable {v : Value}

theorem EnvVar.spelledOnce_parts (_ : v.isJson = true) (hs : spelledOnce v = true) :
    SpelledOnce (parts v) :=
  Schema.spelledOnce_cons_iff.mpr ⟨hs, Schema.spelledOnce_nil⟩

theorem VolumeMount.spelledOnce_parts (_ : v.isJson = true) (hs : spelledOnce v = true) :
    SpelledOnce (parts v) :=
  Schema.spelledOnce_cons_iff.mpr ⟨hs, Schema.spelledOnce_nil⟩

theorem SecurityContext.spelledOnce_parts (_ : v.isJson = true) (hs : spelledOnce v = true) :
    SpelledOnce (parts v) :=
  Schema.spelledOnce_cons_iff.mpr ⟨hs, Schema.spelledOnce_nil⟩

theorem Container.spelledOnce_parts (hv : v.isJson = true) (hs : spelledOnce v = true) :
    SpelledOnce (parts v) := by
  simp only [spelledOnce, Bool.and_eq_true] at hs
  simp only [parts, Schema.spelledOnce_cons_iff, Schema.spelledOnce_append_iff]
  refine ⟨hs.1.1.1, ⟨?_, ?_⟩, ?_⟩
  · exact Schema.spelledOnce_field hv hs.1.1.2 fun w hw hcheck =>
      Schema.spelledOnce_each hw hcheck fun _ => EnvVar.spelledOnce_parts
  · exact Schema.spelledOnce_field hv hs.1.2 fun w hw hcheck =>
      Schema.spelledOnce_each hw hcheck fun _ => VolumeMount.spelledOnce_parts
  · exact Schema.spelledOnce_field hv hs.2 fun _ => SecurityContext.spelledOnce_parts

theorem Volume.spelledOnce_parts (_ : v.isJson = true) (hs : spelledOnce v = true) :
    SpelledOnce (parts v) :=
  Schema.spelledOnce_cons_iff.mpr ⟨hs, Schema.spelledOnce_nil⟩

theorem PodSpec.spelledOnce_parts (hv : v.isJson = true) (hs : spelledOnce v = true) :
    SpelledOnce (parts v) := by
  simp only [spelledOnce, Bool.and_eq_true] at hs
  simp only [parts, Schema.spelledOnce_cons_iff, Schema.spelledOnce_append_iff]
  refine ⟨hs.1.1.1, ⟨?_, ?_⟩, ?_⟩
  · exact Schema.spelledOnce_field hv hs.1.1.2 fun w hw hcheck =>
      Schema.spelledOnce_each hw hcheck fun _ => Container.spelledOnce_parts
  · exact Schema.spelledOnce_field hv hs.1.2 fun w hw hcheck =>
      Schema.spelledOnce_each hw hcheck fun _ => Container.spelledOnce_parts
  · exact Schema.spelledOnce_field hv hs.2 fun w hw hcheck =>
      Schema.spelledOnce_each hw hcheck fun _ => Volume.spelledOnce_parts

theorem ObjectMeta.spelledOnce_parts (_ : v.isJson = true) (hs : spelledOnce v = true) :
    SpelledOnce (parts v) :=
  Schema.spelledOnce_cons_iff.mpr ⟨hs, Schema.spelledOnce_nil⟩

/-- On JSON, the check of a pod covers all of its objects. -/
theorem Pod.spelledOnce_parts (hv : v.isJson = true) (hs : spelledOnce v = true) :
    SpelledOnce (parts v) := by
  simp only [spelledOnce, Bool.and_eq_true] at hs
  simp only [parts, Schema.spelledOnce_cons_iff, Schema.spelledOnce_append_iff]
  refine ⟨hs.1.1, ?_, ?_⟩
  · exact Schema.spelledOnce_field hv hs.1.2 fun _ => ObjectMeta.spelledOnce_parts
  · exact Schema.spelledOnce_field hv hs.2 fun _ => PodSpec.spelledOnce_parts

end Sidecar
