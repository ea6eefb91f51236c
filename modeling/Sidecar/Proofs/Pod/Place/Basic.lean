import Sidecar.Pod.Decode
import Sidecar.Proofs.Schema.Field

/-!
The objects of a pod one by one, by names and positions: where each stands in a document and in the pod
that is read from it, and which entries no field is declared for.
-/

namespace Sidecar

namespace Schema

/-- The entries of an object that no declared field is read from. -/
def unread (fields : List FieldName) : Value → List (Value × Value)
  | .map es => es.filter fun e => fields.all fun f => (f.find? es).all fun found => e.1 ≠ .str found.1
  | _ => []

/-- The entries of an object that do not stand under the key of a declared field. -/
def additional (fields : List FieldName) : Value → List (Value × Value)
  | .map es => es.filter fun e => fields.all fun f => e.1 ≠ .str f.key
  | _ => []

/-- The value under the key of a field. -/
def FieldName.underKey? (f : FieldName) (v : Value) : Option Value := v.field? f.key

/-- What the list under a field holds. -/
def itemsOf (look : FieldName → Value → Option Value) (f : FieldName) (v : Value) : List Value :=
  ((look f v).map members).getD []

/-- The field of an object is a text with the given characters. -/
def isNamed (f : FieldName) (name : String) (v : Value) : Bool :=
  match (f.value? v).map text with
  | some (.ok s) => s = name
  | _ => false

end Schema

/-- An object of a container: the container itself, a variable or a mount by its position, or the
security context. -/
inductive Container.Place where
  | whole
  | envVar (index : Nat)
  | mount (index : Nat)
  | securityContext
  deriving DecidableEq, Repr

/-- An object of a spec. Volumes and containers go by their names. -/
inductive PodSpec.Place where
  | whole
  | volume (name : String)
  | container (init : Bool) (name : String) (place : Container.Place)
  deriving DecidableEq, Repr

/-- An object of a pod. -/
inductive Pod.Place where
  | whole
  | metadata
  | spec (place : PodSpec.Place)
  deriving DecidableEq, Repr

namespace Container.Place

def fields : Place → List Schema.FieldName
  | .whole => Container.fields
  | .envVar _ => EnvVar.fields
  | .mount _ => VolumeMount.fields
  | .securityContext => SecurityContext.fields

def find? (look : Schema.FieldName → Value → Option Value) (v : Value) : Place → Option Value
  | .whole => some v
  | .envVar index => (Schema.itemsOf look envField v)[index]?
  | .mount index => (Schema.itemsOf look volumeMountsField v)[index]?
  | .securityContext => (look securityContextField v).filter (· ≠ .null)

/-- The unknown entries of the place, if the container has it. -/
def unknown? (c : Container) : Place → Option Object
  | .whole => some c.unknown
  | .envVar index => ((c.env.getD []).map EnvVar.unknown)[index]?
  | .mount index => ((c.volumeMounts.getD []).map VolumeMount.unknown)[index]?
  | .securityContext => c.securityContext.map SecurityContext.unknown

end Container.Place

namespace PodSpec.Place

def fields : Place → List Schema.FieldName
  | .whole => PodSpec.fields
  | .volume _ => Volume.fields
  | .container _ _ place => place.fields

def containersField (init : Bool) : Schema.FieldName :=
  if init then PodSpec.initContainersField else PodSpec.containersField

def find? (look : Schema.FieldName → Value → Option Value) (v : Value) : Place → Option Value
  | .whole => some v
  | .volume name => (Schema.itemsOf look volumesField v).find? (Schema.isNamed Volume.nameField name)
  | .container init name place =>
    ((Schema.itemsOf look (containersField init) v).find? (Schema.isNamed Container.nameField name)).bind
      fun c => place.find? look c

def containers (s : PodSpec) (init : Bool) : List Container :=
  if init then s.initContainers.getD [] else s.containers

def unknown? (s : PodSpec) : Place → Option Object
  | .whole => some s.unknown
  | .volume name => ((s.volumes.getD []).find? (·.name = name)).map Volume.unknown
  | .container init name place => ((containers s init).find? (·.name = name)).bind place.unknown?

end PodSpec.Place

namespace Pod.Place

def fields : Place → List Schema.FieldName
  | .whole => Pod.fields
  | .metadata => ObjectMeta.fields
  | .spec place => place.fields

/-- The object of a document that stands in a place, where fields are looked up in the given way. -/
def find? (look : Schema.FieldName → Value → Option Value) (v : Value) : Place → Option Value
  | .whole => some v
  | .metadata => look metadataField v
  | .spec place => (look specField v).bind fun s => place.find? look s

/-- The unknown entries of the place, if the pod has it. -/
def unknown? (p : Pod) : Place → Option Object
  | .whole => some p.unknown
  | .metadata => some p.metadata.unknown
  | .spec place => place.unknown? p.spec

end Pod.Place

/-- What was there is still there as it was; what is new is empty. -/
def Retained {α : Type} (before after : Option (List α)) : Prop :=
  after = before ∨ before = none ∧ after = some []

namespace Retained

variable {α β : Type}

theorem refl (a : Option (List α)) : Retained a a := .inl rfl

theorem trans {a b c : Option (List α)} (hab : Retained a b) (hbc : Retained b c) : Retained a c := by
  rcases hab with rfl | ⟨rfl, rfl⟩
  · exact hbc
  · rcases hbc with rfl | ⟨h, -⟩
    · exact .inr ⟨rfl, rfl⟩
    · nomatch h

theorem map {a b : Option (List α)} (f : List α → List β) (hf : f [] = []) (h : Retained a b) :
    Retained (a.map f) (b.map f) := by
  rcases h with rfl | ⟨rfl, rfl⟩
  · exact .inl rfl
  · exact .inr ⟨rfl, by rw [Option.map_some, hf]⟩

end Retained

end Sidecar
