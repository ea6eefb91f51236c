import Sidecar.Proofs.Value.Object

/-!
Values within a document, named by the keys that lead to them.
-/

namespace Sidecar.Value

/-- The value that a path of keys leads to. -/
def at? : List String → Value → Option Value
  | [], v => some v
  | name :: path, v => (v.field? name).bind (at? path)

/-- Sets the value that a path of keys leads to. The objects on the way must be there; the last entry
need not. -/
def setAt : Value → List String → Value → Value
  | _, [], new => new
  | .map es, name :: path, new =>
    .map (insertEntry (.str name) (setAt (((map es).field? name).getD .null) path new) es)
  | v, _ :: _, _ => v

theorem isJson_of_field? {name : String} {v w : Value} (hv : v.isJson = true)
    (h : v.field? name = some w) :
    w.isJson = true := by
  cases v with
  | map es =>
    obtain ⟨o, rfl, ho⟩ := exists_object_of_isJson hv
    rw [field?_entries] at h
    exact ho.values _ (Object.mem_of_lookup h)
  | _ => simp [field?] at h

/-- All parts of JSON are JSON. -/
theorem isJson_of_at? {path : List String} {v w : Value} (hv : v.isJson = true)
    (h : v.at? path = some w) :
    w.isJson = true := by
  induction path generalizing v with
  | nil =>
    obtain rfl := Option.some.inj h
    exact hv
  | cons name path ih =>
    obtain ⟨u, hu, hw⟩ := Option.bind_eq_some_iff.mp h
    exact ih (isJson_of_field? hv hu) hw

/-- An entry that is set is found under its key. -/
theorem field?_insertEntry {es : List (Value × Value)} (hes : (map es).isJson = true) (name : String)
    (v : Value) : (map (insertEntry (.str name) v es)).field? name = some v := by
  obtain ⟨o, rfl, -⟩ := exists_object_of_isJson hes
  rw [insertEntry_entries, field?_entries, Schema.lookup_insert, if_pos rfl]

/-- Below a path that leads somewhere, what is set is found. -/
theorem at?_setAt {path : List String} {more : List String} {v w new : Value} (hv : v.isJson = true)
    (h : v.at? path = some w) : (v.setAt (path ++ more) new).at? path = some (w.setAt more new) := by
  induction path generalizing v with
  | nil =>
    obtain rfl := Option.some.inj h
    rfl
  | cons name path ih =>
    obtain ⟨u, hu, hw⟩ := Option.bind_eq_some_iff.mp h
    cases v with
    | map es =>
      rw [List.cons_append, setAt, hu, Option.getD_some, at?, field?_insertEntry hv, Option.bind_some]
      exact ih (isJson_of_field? hv hu) hw
    | _ => simp [field?] at hu

end Sidecar.Value
