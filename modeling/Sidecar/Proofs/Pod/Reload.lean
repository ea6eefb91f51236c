import Sidecar.Proofs.Inject.Objects
import Sidecar.Proofs.Pod.RoundTrip
import Sidecar.Proofs.Yaml.Reload

/-!
What a pod is written as is loaded as what the pod is written as whose objects are loaded.
-/

namespace Sidecar

/-- All objects as they are loaded from a text. -/
def ObjectMap.reload (ρ : Nat → Nat) : ObjectMap := values (Value.reload ρ)

variable {α : Type} {ρ : Nat → Nat}

@[simp] theorem ObjectMap.reload_unknown (o : Object) :
    (reload ρ).unknown o = o.mapValues (Value.reload ρ) :=
  rfl

@[simp] theorem ObjectMap.reload_free : (reload ρ).free = Object.mapValues (Value.reload ρ) := rfl

namespace Value

@[simp] theorem reload_bool (b : Bool) : (bool b).reload ρ = .bool b := rfl

@[simp] theorem reload_int (n : Int) : (int n).reload ρ = .int n := rfl

@[simp] theorem reload_str (s : String) : (str s).reload ρ = .str s := rfl

theorem reload_eq_null_iff {v : Value} : v.reload ρ = .null ↔ v = .null := by
  cases v <;> simp [reload]

@[simp] theorem reload_list (items : List Value) : (list items).reload ρ = .list (items.map (reload ρ)) := by
  rw [reload]
  congr 1
  induction items with
  | nil => rfl
  | cons v items ih => rw [reloadItems, ih, List.map_cons]

@[simp] theorem reload_object (o : Object) : (object o).reload ρ = object (o.mapValues (reload ρ)) := by
  rw [object_eq, object_eq, reload]
  congr 1
  induction o with
  | nil => rfl
  | cons e o ih =>
    rw [Object.entries_cons, reloadEntries, ih]
    rfl

@[simp] theorem reload_optional (write : α → Value) (x : Option α) :
    (optional write x).reload ρ = optional (fun a => (write a).reload ρ) x := by
  cases x <;> rfl

@[simp] theorem reload_strings (ss : List String) : (strings ss).reload ρ = strings ss := by
  rw [strings, reload_list, List.map_map]
  rfl

theorem reload_ofFields (declared : List (Schema.FieldName × Value)) (unknown : Object) :
    (ofFields declared unknown).reload ρ =
      ofFields (declared.map fun d => (d.1, d.2.reload ρ)) (unknown.mapValues (reload ρ)) := by
  rw [ofFields_eq, ofFields_eq, reload_object, Object.ofFields,
    Object.mapValues_dropNulls fun _ => reload_eq_null_iff]
  simp [Object.ofFields, Object.mapValues, Function.comp_def]

end Value

@[simp] theorem EnvVar.toValue_reload (e : EnvVar) :
    (e.mapObjects (.reload ρ)).toValue = e.toValue.reload ρ := by
  rw [toValue, toValue, Value.reload_ofFields]
  simp [declared, mapObjects, Object.toValue]

@[simp] theorem VolumeMount.toValue_reload (m : VolumeMount) :
    (m.mapObjects (.reload ρ)).toValue = m.toValue.reload ρ := by
  rw [toValue, toValue, Value.reload_ofFields]
  simp [declared, mapObjects]

@[simp] theorem SecurityContext.toValue_reload (c : SecurityContext) :
    (c.mapObjects (.reload ρ)).toValue = c.toValue.reload ρ := by
  rw [toValue, toValue, Value.reload_ofFields]
  simp [declared, mapObjects]

@[simp] theorem Container.toValue_reload (c : Container) :
    (c.mapObjects (.reload ρ)).toValue = c.toValue.reload ρ := by
  rw [toValue, toValue, Value.reload_ofFields]
  simp [declared, mapObjects, Function.comp_def]

@[simp] theorem Volume.toValue_reload (v : Volume) :
    (v.mapObjects (.reload ρ)).toValue = v.toValue.reload ρ := by
  rw [toValue, toValue, Value.reload_ofFields]
  simp [declared, mapObjects, Object.toValue]

@[simp] theorem PodSpec.toValue_reload (s : PodSpec) :
    (s.mapObjects (.reload ρ)).toValue = s.toValue.reload ρ := by
  rw [toValue, toValue, Value.reload_ofFields]
  simp [declared, mapObjects, Function.comp_def]

@[simp] theorem ObjectMeta.toValue_reload (m : ObjectMeta) :
    (m.mapObjects (.reload ρ)).toValue = m.toValue.reload ρ := by
  have htexts (l : List (String × String)) :
      Object.mapValues (Value.reload ρ) (l.map fun e => (e.1, .str e.2)) =
        l.map fun e => (e.1, .str e.2) := by
    rw [Object.mapValues, List.map_map]
    rfl
  rw [toValue, toValue, Value.reload_ofFields]
  simp [declared, mapObjects, Object.toValue, htexts]

/-- The fields of a pod hold what they held, as it is loaded. -/
theorem Pod.declared_reload (p : Pod) :
    (p.mapObjects (.reload ρ)).declared = p.declared.map fun d => (d.1, d.2.reload ρ) := by
  simp [declared, mapObjects]

theorem Pod.toValue_reload (p : Pod) : (p.mapObjects (.reload ρ)).toValue = p.toValue.reload ρ := by
  rw [toValue, toValue, Value.reload_ofFields, declared_reload]
  rfl

theorem ObjectMap.keeps_reload (c : InjectionConfig) : (reload ρ).Keeps c where
  nil := rfl
  sidecar := rfl
  redirectVolume := rfl
  credentialsVolume := rfl

end Sidecar
