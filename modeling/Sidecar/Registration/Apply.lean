import Sidecar.Log
import Sidecar.Registration.Store

/-!
Applying a registration: it is created, or replaces the one that is there. The run is a sequence of
single API calls, so that runs of several controllers can be interleaved.
-/

namespace Sidecar.Registration

/-- How far a run has come. -/
inductive Progress where
  | creating
  | reading
  | replacing (version : Nat)
  /-- The registration is stored; it has replaced the version, if one is given. -/
  | applied (replaced : Option Nat)
  | failed (error : ApiError)
  deriving DecidableEq, Repr

namespace Progress

/-- The call that a run makes next. -/
def call? (r : Registration) : Progress → Option ApiCall
  | .creating => some (.create r)
  | .reading => some (.read r.name)
  | .replacing version => some (.replace r version)
  | .applied _ | .failed _ => none

/-- Goes on after a reply. Only a conflict on creation is no failure. -/
def receive : Progress → ApiReply → Progress
  | .creating, .stored _ => .applied none
  | .creating, .refused e => if e.status = 409 then .reading else .failed e
  | .reading, .found version => .replacing version
  | .reading, .refused e => .failed e
  | .replacing version, .stored _ => .applied (some version)
  | .replacing _, .refused e => .failed e
  | p, _ => p

end Progress

/-- Failures forced on the calls of a run, by the kind of call. -/
structure ForcedFailures where
  create : Option ApiError := none
  read : Option ApiError := none
  replace : Option ApiError := none
  deriving DecidableEq, Repr

def ForcedFailures.of (f : ForcedFailures) : ApiCall → Option ApiError
  | .create _ => f.create
  | .read _ => f.read
  | .replace .. => f.replace

/-- A run on a store, with the calls made so far. -/
structure Run where
  store : RegistrationStore
  progress : Progress := .creating
  calls : List ApiCall := []
  deriving DecidableEq, Repr

/-- One call of a run, if it has not ended. -/
def Run.step (r : Registration) (forced : ForcedFailures) (run : Run) : Run :=
  match run.progress.call? r with
  | none => run
  | some call =>
    let (store, reply) := match forced.of call with
      | some e => (run.store, .refused e)
      | none => run.store.serve call
    ⟨store, run.progress.receive reply, run.calls ++ [call]⟩

/-- A whole run: no more than three calls are ever made. -/
def apply (r : Registration) (forced : ForcedFailures) (store : RegistrationStore) : Run :=
  (((Run.mk store .creating []).step r forced).step r forced).step r forced

/-- What is written to the log in a run. -/
def Run.log (r : Registration) (run : Run) : List LogLine :=
  let outcome := match run.progress with
    | .applied none => ["Created mutating webhook: " ++ r.name]
    | .applied (some _) => ["Replaced mutating webhook: " ++ r.name]
    | _ => []
  ("Applying mutating webhook configuration..." :: outcome).map fun s => ⟨.info, s⟩

end Sidecar.Registration
