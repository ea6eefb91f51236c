import Sidecar.Registration.Object

/-!
The registrations that an API server holds. Each write gives an object the next version, so that no
version is used twice.
-/

namespace Sidecar

/-- A call that the API server has refused. -/
structure ApiError where
  status : Int
  reason : Option String
  deriving DecidableEq, Repr

def ApiError.message (e : ApiError) : String :=
  "(" ++ toString e.status ++ ")\nReason: " ++ e.reason.getD "None" ++ "\n"

/-- An object as it is held. What another client has written may be unknown. -/
structure StoredObject where
  version : Nat
  content : Option Registration := none
  deriving DecidableEq, Repr

structure RegistrationStore where
  objects : List (String × StoredObject) := []
  /-- The version that was given last. -/
  counter : Nat := 100
  deriving DecidableEq, Repr

inductive ApiCall where
  | create (r : Registration)
  | read (name : String)
  | replace (r : Registration) (version : Nat)
  deriving DecidableEq, Repr

inductive ApiReply where
  | stored (version : Nat)
  | found (version : Nat)
  | refused (error : ApiError)
  deriving DecidableEq, Repr

namespace RegistrationStore

def conflict : ApiError := ⟨409, "Conflict"⟩

def missing : ApiError := ⟨404, "Not Found"⟩

def version? (s : RegistrationStore) (name : String) : Option Nat :=
  (s.objects.lookup name).map (·.version)

/-- Stores an object under a name, in place of the one that is there, with the next version. -/
def put (s : RegistrationStore) (name : String) (content : Option Registration) : RegistrationStore :=
  let object : StoredObject := ⟨s.counter + 1, content⟩
  let objects :=
    if (s.objects.lookup name).isSome then
      s.objects.map fun (n, o) => (n, if n = name then object else o)
    else s.objects ++ [(name, object)]
  ⟨objects, s.counter + 1⟩

def delete (s : RegistrationStore) (name : String) : RegistrationStore :=
  { s with objects := s.objects.filter fun (n, _) => n ≠ name }

def ofNames (names : List String) : RegistrationStore :=
  names.foldl (fun s name => s.put name none) {}

/-- Answers a call. A replacement must carry the version that is stored. -/
def serve (s : RegistrationStore) : ApiCall → RegistrationStore × ApiReply
  | .create r =>
    match s.version? r.name with
    | some _ => (s, .refused conflict)
    | none => (s.put r.name r, .stored (s.counter + 1))
  | .read name =>
    match s.version? name with
    | some v => (s, .found v)
    | none => (s, .refused missing)
  | .replace r version =>
    if s.version? r.name = some version then (s.put r.name r, .stored (s.counter + 1))
    else (s, .refused conflict)

end RegistrationStore

end Sidecar
