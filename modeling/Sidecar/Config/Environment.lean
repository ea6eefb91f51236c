import Sidecar.Schema.Coerce

/-!
Process environments and the settings taken from them. A variable that is set to nothing counts as
not set.
-/

namespace Sidecar

/-- The variables of a process; each name stands once. -/
abbrev Environment := List (String × String)

namespace Environment

def get? (env : Environment) (name : String) : Option String :=
  (env.lookup name).filter (· ≠ "")

/-- The entries of a configuration object that the named variables give. -/
def overrides (env : Environment) (names : List (String × String)) : List (Value × Value) :=
  names.filterMap fun (field, name) => (env.get? name).map fun s => (.str field, .str s)

end Environment

/-- A field with one name only. -/
def Schema.FieldName.plain (name : String) : Schema.FieldName := ⟨name, name⟩

end Sidecar
