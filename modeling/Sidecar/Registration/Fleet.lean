import Sidecar.Registration.Apply

/-!
Several controllers that apply their registrations at the same time, on an API server that other clients
use as well. Single calls take turns in any order, and a log keeps them with their answers.
-/

namespace Sidecar

namespace ApiCall

/-- The name of the object that a call is about. -/
def name : ApiCall → String
  | .create r | .replace r _ => r.name
  | .read name => name

/-- What a call asks to store. -/
def registration? : ApiCall → Option Registration
  | .create r | .replace r _ => some r
  | .read _ => none

end ApiCall

/-- An API server with states of any kind, and what clients may rely on: it gives no version twice, it
replaces an object only in the version that the call carries, and it writes what it says. It may refuse a
call for any reason. -/
structure ApiServer (σ : Type) where
  object? : σ → String → Option StoredObject
  /-- The versions that were ever given to an object. -/
  given : σ → Nat → Prop
  serve : σ → ApiCall → σ × ApiReply
  /-- Deletes the object of a name, and tells whether it has done so. -/
  delete : σ → String → σ × Bool
  given_of_object? {s : σ} {name : String} {o : StoredObject} :
    object? s name = some o → given s o.version
  given_serve {s : σ} {v : Nat} (call : ApiCall) : given s v → given (serve s call).1 v
  given_delete {s : σ} {v : Nat} (name : String) : given s v → given (delete s name).1 v
  stored {s : σ} {call : ApiCall} {v : Nat} : (serve s call).2 = .stored v →
    ∃ r, call.registration? = some r ∧ ¬given s v ∧
      ∀ name, object? (serve s call).1 name = if name = r.name then some ⟨v, some r⟩ else object? s name
  replaced {s : σ} {r : Registration} {v w : Nat} : (serve s (.replace r v)).2 = .stored w →
    (object? s r.name).map (·.version) = some v
  found {s : σ} {call : ApiCall} {v : Nat} : (serve s call).2 = .found v →
    call.registration? = none ∧ (object? s call.name).map (·.version) = some v
  kept {s : σ} {call : ApiCall} : (∀ v, (serve s call).2 ≠ .stored v) →
    ∀ name, object? (serve s call).1 name = object? s name
  deleted {s : σ} {name : String} : (delete s name).2 = true →
    ∀ other, object? (delete s name).1 other = if other = name then none else object? s other
  spared {s : σ} {name : String} : (delete s name).2 = false →
    ∀ other, object? (delete s name).1 other = object? s other

def ApiServer.version? {σ : Type} (a : ApiServer σ) (s : σ) (name : String) : Option Nat :=
  (a.object? s name).map (·.version)

namespace Registration

/-- A controller that applies its registration, and how far it has come. One that does so again counts as
another. -/
structure Controller where
  registration : Registration
  progress : Progress := .creating
  deriving DecidableEq, Repr

/-- Who makes a call. Controllers go by their numbers. -/
inductive Client where
  | controller (i : Nat)
  | other
  deriving DecidableEq, Repr

/-- What has happened on the server. -/
inductive Entry where
  | called (client : Client) (call : ApiCall) (reply : ApiReply)
  | deleted (name : String) (done : Bool)
  deriving DecidableEq, Repr

/-- Whose turn it is: a controller makes its next call, or another client makes one. -/
inductive Turn where
  | controller (i : Nat)
  | call (call : ApiCall)
  | delete (name : String)
  deriving DecidableEq, Repr

structure Fleet (σ : Type) where
  server : σ
  controllers : List Controller
  log : List Entry := []

namespace Fleet

variable {σ : Type}

/-- No controller has made a call yet. -/
def start (server : σ) (registrations : List Registration) : Fleet σ :=
  { server, controllers := registrations.map fun r => { registration := r } }

def exchange (a : ApiServer σ) (f : Fleet σ) (client : Client) (call : ApiCall) : Fleet σ :=
  let (server, reply) := a.serve f.server call
  { f with server, log := f.log ++ [.called client call reply] }

/-- A controller that has ended makes no more calls. -/
def step (a : ApiServer σ) (f : Fleet σ) : Turn → Fleet σ
  | .controller i =>
    match f.controllers[i]? with
    | none => f
    | some k =>
      match k.progress.call? k.registration with
      | none => f
      | some call =>
        let reply := (a.serve f.server call).2
        { f.exchange a (.controller i) call with
          controllers := f.controllers.set i { k with progress := k.progress.receive reply } }
  | .call call => f.exchange a .other call
  | .delete name =>
    let (server, done) := a.delete f.server name
    { f with server, log := f.log ++ [.deleted name done] }

def run (a : ApiServer σ) (f : Fleet σ) (turns : List Turn) : Fleet σ := turns.foldl (step a) f

end Fleet

end Registration

end Sidecar
