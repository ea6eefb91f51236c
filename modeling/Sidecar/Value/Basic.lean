import Sidecar.Number.Binary64
import Sidecar.Time.Timestamp

/-!
Document values: what a manifest, a review or a configuration is made of before it is given a type.
Objects keep the order of their entries.
-/

namespace Sidecar

/-- A date remembers the place it was read from; two dates from one place are the same object, which
a writer of manifests makes visible. -/
inductive Value where
  | null
  | bool (b : Bool)
  | int (n : Int)
  | float (x : Binary64)
  | str (s : String)
  | bytes (b : List UInt8)
  | date (d : Date) (origin : Option Nat)
  | timestamp (t : Timestamp) (origin : Option Nat)
  | list (items : List Value)
  | tuple (items : List Value)
  | set (items : List Value)
  | map (entries : List (Value × Value))
  deriving Repr, Inhabited

namespace Value

mutual

def decEq : (a b : Value) → Decidable (a = b)
  | .null, b => by cases b <;> first | exact .isTrue rfl | exact .isFalse nofun
  | .bool x, b => by
    cases b with
    | bool y => exact decidable_of_iff (x = y) (by simp)
    | _ => exact .isFalse nofun
  | .int x, b => by
    cases b with
    | int y => exact decidable_of_iff (x = y) (by simp)
    | _ => exact .isFalse nofun
  | .float x, b => by
    cases b with
    | float y => exact decidable_of_iff (x = y) (by simp)
    | _ => exact .isFalse nofun
  | .str x, b => by
    cases b with
    | str y => exact decidable_of_iff (x = y) (by simp)
    | _ => exact .isFalse nofun
  | .bytes x, b => by
    cases b with
    | bytes y => exact decidable_of_iff (x = y) (by simp)
    | _ => exact .isFalse nofun
  | .date x p, b => by
    cases b with
    | date y q => exact decidable_of_iff (x = y ∧ p = q) (by simp)
    | _ => exact .isFalse nofun
  | .timestamp x p, b => by
    cases b with
    | timestamp y q => exact decidable_of_iff (x = y ∧ p = q) (by simp)
    | _ => exact .isFalse nofun
  | .list xs, b => by
    cases b with
    | list ys => exact @decidable_of_iff _ (xs = ys) (by simp) (decEqItems xs ys)
    | _ => exact .isFalse nofun
  | .tuple xs, b => by
    cases b with
    | tuple ys => exact @decidable_of_iff _ (xs = ys) (by simp) (decEqItems xs ys)
    | _ => exact .isFalse nofun
  | .set xs, b => by
    cases b with
    | set ys => exact @decidable_of_iff _ (xs = ys) (by simp) (decEqItems xs ys)
    | _ => exact .isFalse nofun
  | .map xs, b => by
    cases b with
    | map ys => exact @decidable_of_iff _ (xs = ys) (by simp) (decEqEntries xs ys)
    | _ => exact .isFalse nofun

def decEqItems : (a b : List Value) → Decidable (a = b)
  | [], [] => .isTrue rfl
  | [], _ :: _ => .isFalse nofun
  | _ :: _, [] => .isFalse nofun
  | x :: xs, y :: ys =>
    @decidable_of_iff _ (x = y ∧ xs = ys) (by simp)
      (@instDecidableAnd _ _ (decEq x y) (decEqItems xs ys))

def decEqEntries : (a b : List (Value × Value)) → Decidable (a = b)
  | [], [] => .isTrue rfl
  | [], _ :: _ => .isFalse nofun
  | _ :: _, [] => .isFalse nofun
  | (k, v) :: xs, (l, w) :: ys =>
    @decidable_of_iff _ ((k = l ∧ v = w) ∧ xs = ys) (by simp)
      (@instDecidableAnd _ _ (@instDecidableAnd _ _ (decEq k l) (decEq v w)) (decEqEntries xs ys))

end
instance : DecidableEq Value := decEq

/-- The name of a value's kind in reports on wrong input. -/
def kindName : Value → String
  | .null => "NoneType"
  | .bool _ => "bool"
  | .int _ => "int"
  | .float _ => "float"
  | .str _ => "str"
  | .bytes _ => "bytes"
  | .date .. => "date"
  | .timestamp .. => "datetime"
  | .list _ => "list"
  | .tuple _ => "tuple"
  | .set _ => "set"
  | .map _ => "dict"

/-- The exact integer of a number or truth value. -/
def integer? : Value → Option Int
  | .bool b => some (if b then 1 else 0)
  | .int n => some n
  | .float x => x.toInt?
  | _ => none

/-- Whether two values are one key of an object. Numbers are compared by what they are worth, so that
`1`, `1.0` and `true` are one key; nothing else crosses kinds. -/
def sameKey (a b : Value) : Bool :=
  match a.integer?, b.integer? with
  | some m, some n => m == n
  | some _, none | none, some _ => false
  | none, none =>
    match a, b with
    | .null, .null => true
    | .float x, .float y => x == y
    | .str s, .str t => s == t
    | .bytes s, .bytes t => s == t
    | .date d _, .date e _ => d == e
    | .timestamp t _, .timestamp u _ => t.sameMoment u
    | _, _ => false

/-- Sets the entry of a key: in place if there is one, whose key then stays as it is, else at the end. -/
def insertEntry (key value : Value) : List (Value × Value) → List (Value × Value)
  | [] => [(key, value)]
  | (k, v) :: rest => if k.sameKey key then (k, value) :: rest else (k, v) :: insertEntry key value rest

def mapOfList (entries : List (Value × Value)) : Value :=
  .map (entries.foldl (fun acc (k, v) => insertEntry k v acc) [])

/-- An object with texts as keys. -/
def object (entries : List (String × Value)) : Value :=
  .map (entries.map fun (k, v) => (.str k, v))

def strings (items : List String) : Value := .list (items.map .str)

def optional (f : α → Value) : Option α → Value
  | none => .null
  | some a => f a

/-- The value under a text key. -/
def field? (name : String) : Value → Option Value
  | .map entries => (entries.find? fun (k, _) => k.sameKey (str name)).map (·.2)
  | _ => none

/-- Whether a value counts as something: not null, false, zero or empty. -/
def isTruthy : Value → Bool
  | .null => false
  | .bool b => b
  | .int n => n != 0
  | .float x => !(x.same (.finite false 0))
  | .str s => !s.isEmpty
  | .bytes b => !b.isEmpty
  | .date .. | .timestamp .. => true
  | .list items | .tuple items | .set items => !items.isEmpty
  | .map entries => !entries.isEmpty

end Value

end Sidecar
