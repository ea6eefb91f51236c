import Mathlib.Data.List.Basic
import Sidecar.Proofs.Registration.Server

/-!
However the calls of controllers and other clients take turns, a controller that replaces a registration
has read the very object that it overwrites, and nothing was written in between. If something was, it
fails. A controller that has applied its registration has stored it once.
-/

namespace Sidecar

/-- A reply that goes with a call: only reading finds a version. -/
def ApiReply.Answers (reply : ApiReply) (call : ApiCall) : Prop :=
  match reply with
  | .stored _ => call.registration?.isSome
  | .found _ => call.registration? = none
  | .refused _ => True

theorem ApiServer.serve_answers {σ : Type} (a : ApiServer σ) (s : σ) (call : ApiCall) :
    (a.serve s call).2.Answers call := by
  cases h : (a.serve s call).2 with
  | stored v =>
    obtain ⟨r, hr, -⟩ := a.stored h
    simp [ApiReply.Answers, hr]
  | found v => exact (a.found h).1
  | refused e => trivial

namespace Registration

namespace Entry

/-- The entry has written the object of the name, or deleted it. -/
def Writes (name : String) : Entry → Prop
  | .called _ call (.stored _) => call.name = name
  | .called .. => False
  | .deleted other done => other = name ∧ done = true

/-- The call of a controller, with its answer. -/
def callOf? (i : Nat) : Entry → Option (ApiCall × ApiReply)
  | .called (.controller j) call reply => if j = i then some (call, reply) else none
  | _ => none

end Entry

/-- The registration that a call has stored, with the version it was given. -/
def write? : ApiCall × ApiReply → Option (Registration × Nat)
  | (call, .stored v) => call.registration?.map (·, v)
  | _ => none

/-- How far a controller has come tells all calls that it has made, with their answers. -/
inductive Transcript (r : Registration) : Progress → List (ApiCall × ApiReply) → Prop where
  | creating : Transcript r .creating []
  | created (v : Nat) : Transcript r (.applied none) [(.create r, .stored v)]
  | notCreated (e : ApiError) : Transcript r (.failed e) [(.create r, .refused e)]
  | reading (e : ApiError) : Transcript r .reading [(.create r, .refused e)]
  | notRead (c e : ApiError) : Transcript r (.failed e) [(.create r, .refused c), (.read r.name, .refused e)]
  | replacing (c : ApiError) (v : Nat) :
    Transcript r (.replacing v) [(.create r, .refused c), (.read r.name, .found v)]
  | replaced (c : ApiError) (v w : Nat) : Transcript r (.applied (some v))
      [(.create r, .refused c), (.read r.name, .found v), (.replace r v, .stored w)]
  | notReplaced (c : ApiError) (v : Nat) (e : ApiError) : Transcript r (.failed e)
      [(.create r, .refused c), (.read r.name, .found v), (.replace r v, .refused e)]

namespace Transcript

variable {r : Registration} {p : Progress} {calls : List (ApiCall × ApiReply)}

/-- The next call and its answer go to the end. -/
theorem receive (h : Transcript r p calls) {call : ApiCall} {reply : ApiReply}
    (hcall : p.call? r = some call) (hreply : reply.Answers call) :
    Transcript r (p.receive reply) (calls ++ [(call, reply)]) := by
  cases h with
  | creating =>
    obtain rfl := Option.some.inj hcall
    cases reply with
    | stored v => exact .created v
    | found v => simp [ApiReply.Answers, ApiCall.registration?] at hreply
    | refused e =>
      rw [Progress.receive]
      split_ifs
      · exact .reading e
      · exact .notCreated e
  | reading c =>
    obtain rfl := Option.some.inj hcall
    cases reply with
    | stored v => simp [ApiReply.Answers, ApiCall.registration?] at hreply
    | found v => exact .replacing c v
    | refused e => exact .notRead c e
  | replacing c v =>
    obtain rfl := Option.some.inj hcall
    cases reply with
    | stored w => exact .replaced c v w
    | found w => simp [ApiReply.Answers, ApiCall.registration?] at hreply
    | refused e => exact .notReplaced c v e
  | created | notCreated | notRead | replaced | notReplaced => simp [Progress.call?] at hcall

theorem writes_of_applied {replaced : Option Nat} (h : Transcript r (.applied replaced) calls) :
    ∃ w, calls.filterMap write? = [(r, w)] := by
  cases h with
  | created v => exact ⟨v, rfl⟩
  | replaced c v w => exact ⟨w, rfl⟩

theorem writes_of_not_applied (h : Transcript r p calls) (hp : ∀ replaced, p ≠ .applied replaced) :
    calls.filterMap write? = [] := by
  cases h with
  | created v => exact absurd rfl (hp none)
  | replaced c v w => exact absurd rfl (hp (some v))
  | creating | notCreated | reading | notRead | replacing | notReplaced => rfl

end Transcript

namespace Progress

variable {r : Registration} {p : Progress} {call : ApiCall} {v : Nat}

/-- A version is only replaced after it was found. -/
theorem read_of_receive {reply : ApiReply} (hcall : p.call? r = some call)
    (hreply : reply.Answers call) (h : p.receive reply = .replacing v) :
    call = .read r.name ∧ reply = .found v := by
  cases p with
  | creating =>
    obtain rfl := Option.some.inj hcall
    cases reply with
    | stored w => simp [receive] at h
    | found w => simp [ApiReply.Answers, ApiCall.registration?] at hreply
    | refused e =>
      rw [receive] at h
      split_ifs at h
  | reading =>
    obtain rfl := Option.some.inj hcall
    cases reply with
    | stored w => simp [ApiReply.Answers, ApiCall.registration?] at hreply
    | found w =>
      obtain rfl := replacing.inj h
      exact ⟨rfl, rfl⟩
    | refused e => simp [receive] at h
  | replacing u =>
    obtain rfl := Option.some.inj hcall
    cases reply with
    | stored w => simp [receive] at h
    | found w => simp [ApiReply.Answers, ApiCall.registration?] at hreply
    | refused e => simp [receive] at h
  | applied | failed => simp [call?] at hcall

theorem replacing_of_call? {s : Registration} (h : p.call? r = some (.replace s v)) :
    s = r ∧ p = .replacing v := by
  cases p with
  | replacing u =>
    obtain ⟨rfl, rfl⟩ := ApiCall.replace.inj (Option.some.inj h)
    exact ⟨rfl, rfl⟩
  | creating | reading | applied | failed => simp [call?] at h

end Progress

namespace Fleet

variable {σ : Type} {a : ApiServer σ} {f : Fleet σ}

/-- The calls of a controller, with their answers. -/
def callsOf (f : Fleet σ) (i : Nat) : List (ApiCall × ApiReply) := f.log.filterMap (·.callOf? i)

/-- What a controller has stored, with the versions it was given. -/
def writesOf (f : Fleet σ) (i : Nat) : List (Registration × Nat) := (f.callsOf i).filterMap write?

/-- A version was read from the server, and it is there for as long as nothing else is written. -/
structure Watches (a : ApiServer σ) (f : Fleet σ) (name : String) (v : Nat) (between : List Entry) :
    Prop where
  given : a.given f.server v
  unchanged_iff : a.version? f.server name = some v ↔ ∀ e ∈ between, ¬e.Writes name

/-- A write by anyone ends the watch, as the version is never given again. -/
theorem Watches.exchange {name : String} {v : Nat} {between : List Entry}
    (h : Watches a f name v between) (client : Client) (call : ApiCall) :
    Watches a (f.exchange a client call) name v
      (between ++ [.called client call (a.serve f.server call).2]) := by
  refine ⟨a.given_serve call h.given, ?_⟩
  change (a.object? (a.serve f.server call).1 name).map (·.version) = some v ↔ _
  rw [List.forall_mem_append, ← h.unchanged_iff, ApiServer.version?, List.forall_mem_singleton]
  cases hreply : (a.serve f.server call).2 with
  | stored w =>
    obtain ⟨r, hr, hfresh, hobject⟩ := a.stored hreply
    have hname : call.name = r.name := by
      cases call with
      | create | replace =>
        obtain rfl := Option.some.inj hr
        rfl
      | read => simp [ApiCall.registration?] at hr
    have hne : w ≠ v := by
      rintro rfl
      exact hfresh h.given
    rw [hobject name, Entry.Writes, hname]
    by_cases hr : name = r.name
    · simp [hr, hne]
    · simp [hr, Ne.symm hr]
  | found | refused =>
    rw [a.kept (by simp [hreply]) name]
    simp [Entry.Writes]

theorem Watches.delete {name : String} {v : Nat} {between : List Entry}
    (h : Watches a f name v between) (other : String) :
    Watches a (f.step a (.delete other)) name v
      (between ++ [.deleted other (a.delete f.server other).2]) := by
  refine ⟨a.given_delete other h.given, ?_⟩
  change (a.object? (a.delete f.server other).1 name).map (·.version) = some v ↔ _
  rw [List.forall_mem_append, ← h.unchanged_iff, ApiServer.version?, List.forall_mem_singleton,
    Entry.Writes]
  cases hdone : (a.delete f.server other).2 with
  | true =>
    rw [a.deleted hdone name]
    by_cases hname : name = other
    · simp [hname]
    · simp [hname, Ne.symm hname]
  | false =>
    rw [a.spared hdone name]
    simp

/-- A controller has read a version, and since then nothing has been written to its object. -/
def Current (log : List Entry) (i : Nat) (name : String) (v : Nat) : Prop :=
  ∃ earlier between, log = earlier ++ .called (.controller i) (.read name) (.found v) :: between ∧
    ∀ e ∈ between, ¬e.Writes name

/-- Every replacement that a controller has made was of what it had read, with no write in between. -/
def LosesNothing (log : List Entry) (i : Nat) : Prop :=
  ∀ before r v w after, log = before ++ .called (.controller i) (.replace r v) (.stored w) :: after →
    Current before i r.name v

/-- With one more entry, only that entry has to be looked at. -/
theorem LosesNothing.concat {log : List Entry} {i : Nat} (h : LosesNothing log i) {entry : Entry}
    (hentry : ∀ r v w, entry = .called (.controller i) (.replace r v) (.stored w) →
      Current log i r.name v) : LosesNothing (log ++ [entry]) i := by
  intro before r v w after heq
  rcases List.eq_nil_or_concat after with rfl | ⟨rest, last, rfl⟩
  · obtain ⟨rfl, hlast⟩ := List.append_inj' heq rfl
    exact hentry r v w (List.singleton_inj.mp hlast)
  · rw [List.concat_eq_append, ← List.cons_append, ← List.append_assoc] at heq
    exact h before r v w rest (List.append_inj' heq rfl).1

/-- What the log and the server tell of a controller. One that is to replace a version watches it since it
has read it. -/
structure Account (a : ApiServer σ) (f : Fleet σ) (i : Nat) (r : Registration) (p : Progress) : Prop where
  transcript : Transcript r p (f.callsOf i)
  watches : ∀ v, p = .replacing v → ∃ earlier between,
    f.log = earlier ++ .called (.controller i) (.read r.name) (.found v) :: between ∧
      Watches a f r.name v between
  replaced : LosesNothing f.log i

namespace Account

variable {i : Nat} {r : Registration} {p : Progress}

/-- Of the controllers nothing is told. -/
theorem withControllers (h : Account a f i r p) (controllers : List Controller) :
    Account a { f with controllers } i r p where
  transcript := h.transcript
  watches v hv := by
    obtain ⟨earlier, between, hlog, hgiven, hiff⟩ := h.watches v hv
    exact ⟨earlier, between, hlog, hgiven, hiff⟩
  replaced := h.replaced

theorem exchange (h : Account a f i r p) {client : Client} (hclient : client ≠ .controller i)
    (call : ApiCall) : Account a (f.exchange a client call) i r p where
  transcript := by
    have hnone : Entry.callOf? i (.called client call (a.serve f.server call).2) = none := by
      cases client with
      | controller j =>
        have hne : j ≠ i := fun hji => hclient (by rw [hji])
        simp [Entry.callOf?, hne]
      | other => rfl
    have hcalls : (f.exchange a client call).callsOf i = f.callsOf i := by
      simp [Fleet.exchange, callsOf, hnone]
    rw [hcalls]
    exact h.transcript
  watches v hv := by
    obtain ⟨earlier, between, hlog, hwatches⟩ := h.watches v hv
    refine ⟨earlier, _, ?_, hwatches.exchange client call⟩
    simp [Fleet.exchange, hlog]
  replaced := by
    apply h.replaced.concat
    intro s v w heq
    exact absurd (Entry.called.inj heq).1 hclient

theorem delete (h : Account a f i r p) (name : String) :
    Account a (f.step a (.delete name)) i r p where
  transcript := by
    have hcalls : (f.step a (.delete name)).callsOf i = f.callsOf i := by
      simp [step, callsOf, Entry.callOf?]
    rw [hcalls]
    exact h.transcript
  watches v hv := by
    obtain ⟨earlier, between, hlog, hwatches⟩ := h.watches v hv
    refine ⟨earlier, _, ?_, hwatches.delete name⟩
    simp [step, hlog]
  replaced := by
    apply h.replaced.concat
    intro s v w heq
    cases heq

/-- A call of the controller itself. -/
theorem receive (h : Account a f i r p) {call : ApiCall} (hcall : p.call? r = some call) :
    Account a (f.exchange a (.controller i) call) i r (p.receive (a.serve f.server call).2) where
  transcript := by
    have hcalls : (f.exchange a (.controller i) call).callsOf i =
        f.callsOf i ++ [(call, (a.serve f.server call).2)] := by
      simp [Fleet.exchange, callsOf, Entry.callOf?]
    rw [hcalls]
    exact h.transcript.receive hcall (a.serve_answers f.server call)
  watches v hv := by
    obtain ⟨rfl, hfound⟩ := Progress.read_of_receive hcall (a.serve_answers f.server call) hv
    refine ⟨f.log, [], by simp [Fleet.exchange, hfound], ?_⟩
    obtain ⟨o, ho, rfl⟩ := Option.map_eq_some_iff.mp (a.found hfound).2
    have hsame : a.object? (f.exchange a (.controller i) (.read r.name)).server r.name = some o := by
      rw [← ho]
      exact a.kept (by simp [hfound]) r.name
    exact ⟨a.given_of_object? hsame, by simp [ApiServer.version?, hsame]⟩
  replaced := by
    apply h.replaced.concat
    intro s v w heq
    obtain ⟨-, rfl, hstored⟩ := Entry.called.inj heq
    obtain ⟨rfl, rfl⟩ := Progress.replacing_of_call? hcall
    obtain ⟨earlier, between, hlog, hwatches⟩ := h.watches v rfl
    exact ⟨earlier, between, hlog, hwatches.unchanged_iff.mp (a.replaced hstored)⟩

end Account

/-- A controller with a registration, and what is known of it. -/
def Accounted (a : ApiServer σ) (f : Fleet σ) (i : Nat) (r : Registration) : Prop :=
  ∃ p, f.controllers[i]? = some ⟨r, p⟩ ∧ Account a f i r p

theorem start_accounted (server : σ) {registrations : List Registration} {i : Nat} {r : Registration}
    (hr : registrations[i]? = some r) : Accounted a (start server registrations) i r := by
  refine ⟨.creating, by simp [start, hr], .creating, by simp, ?_⟩
  intro before s v w after hlog
  simp [start] at hlog

section

variable {i : Nat} {r : Registration} {p : Progress} {call : ApiCall}

/-- The turn of a controller that has a call to make. -/
theorem step_controller (hk : f.controllers[i]? = some ⟨r, p⟩) (hcall : p.call? r = some call) :
    f.step a (.controller i) = { f.exchange a (.controller i) call with
      controllers := f.controllers.set i ⟨r, p.receive (a.serve f.server call).2⟩ } := by
  simp only [step, hk, hcall]

/-- After its turn, the controller has received the reply. -/
theorem controllers_step (hk : f.controllers[i]? = some ⟨r, p⟩) (hcall : p.call? r = some call) :
    (f.step a (.controller i)).controllers[i]? =
      some ⟨r, p.receive (a.serve f.server call).2⟩ := by
  obtain ⟨hi, -⟩ := List.getElem?_eq_some_iff.mp hk
  rw [step_controller hk hcall]
  simp [hi]

end

theorem step_accounted {i : Nat} {r : Registration} (h : Accounted a f i r) (turn : Turn) :
    Accounted a (f.step a turn) i r := by
  obtain ⟨p, hk, haccount⟩ := h
  cases turn with
  | call call => exact ⟨p, hk, haccount.exchange (by simp) call⟩
  | delete name => exact ⟨p, hk, haccount.delete name⟩
  | controller j =>
    cases hj : f.controllers[j]? with
    | none =>
      have hsame : f.step a (.controller j) = f := by simp only [step, hj]
      rw [hsame]
      exact ⟨p, hk, haccount⟩
    | some k =>
      cases hcall : k.progress.call? k.registration with
      | none =>
        have hsame : f.step a (.controller j) = f := by simp only [step, hj, hcall]
        rw [hsame]
        exact ⟨p, hk, haccount⟩
      | some call =>
        by_cases hij : j = i
        · subst hij
          obtain rfl := Option.some.inj (hj.symm.trans hk)
          refine ⟨_, controllers_step hk hcall, ?_⟩
          rw [step_controller hk hcall]
          exact (haccount.receive hcall).withControllers _
        · have hother : Client.controller j ≠ .controller i := fun h => hij (Client.controller.inj h)
          rw [step_controller hj hcall]
          exact ⟨p, by simp [hij, hk], (haccount.exchange hother call).withControllers _⟩

/-- By induction on the turns, all that is known of a controller stays known. -/
theorem run_accounted {i : Nat} {r : Registration} (h : Accounted a f i r) (turns : List Turn) :
    Accounted a (f.run a turns) i r := by
  induction turns generalizing f with
  | nil => exact h
  | cons turn rest ih => exact ih (step_accounted h turn)

/-- What is promised of a controller whose next call replaces version `v`. The entries are those since it
has read that version: if its object was written or deleted there, then the call fails and changes
nothing, and else it is that very version that the call overwrites. -/
structure Guarded (a : ApiServer σ) (f : Fleet σ) (i : Nat) (r : Registration) (v : Nat)
    (between : List Entry) : Prop where
  read : ∃ earlier, f.log = earlier ++ .called (.controller i) (.read r.name) (.found v) :: between
  current_iff : a.version? f.server r.name = some v ↔ ∀ e ∈ between, ¬e.Writes r.name
  fails : (∃ e ∈ between, e.Writes r.name) → ∃ error,
    (f.step a (.controller i)).controllers[i]? = some ⟨r, .failed error⟩ ∧
      ∀ name, a.object? (f.step a (.controller i)).server name = a.object? f.server name
  overwrites : ∀ replaced,
    (f.step a (.controller i)).controllers[i]? = some ⟨r, .applied replaced⟩ →
      replaced = some v ∧ a.version? f.server r.name = some v

theorem Account.guarded {i : Nat} {r : Registration} {v : Nat}
    (h : Account a f i r (.replacing v)) (hk : f.controllers[i]? = some ⟨r, .replacing v⟩) :
    ∃ between, Guarded a f i r v between := by
  obtain ⟨earlier, between, hlog, hwatches⟩ := h.watches v rfl
  have hcall : Progress.call? r (.replacing v) = some (.replace r v) := rfl
  have hnext := controllers_step (a := a) hk hcall
  refine ⟨between, ⟨earlier, hlog⟩, hwatches.unchanged_iff, ?_, ?_⟩
  · rintro ⟨e, he, hwrites⟩
    have hchanged : a.version? f.server r.name ≠ some v :=
      fun hsame => hwatches.unchanged_iff.mp hsame e he hwrites
    rw [hnext, step_controller hk hcall]
    have hanswers := a.serve_answers f.server (.replace r v)
    cases hreply : (a.serve f.server (.replace r v)).2 with
    | stored w => exact absurd (a.replaced hreply) hchanged
    | found w => simp [hreply, ApiReply.Answers, ApiCall.registration?] at hanswers
    | refused error => exact ⟨error, rfl, a.kept (by simp [hreply])⟩
  · intro replaced happlied
    rw [hnext] at happlied
    cases hreply : (a.serve f.server (.replace r v)).2 with
    | stored w =>
      rw [hreply] at happlied
      have hsame : replaced = some v := by simpa [Progress.receive] using happlied.symm
      exact ⟨hsame, a.replaced hreply⟩
    | found w => simp [hreply, Progress.receive] at happlied
    | refused error => simp [hreply, Progress.receive] at happlied

/-- Whatever turns controllers and other clients take, every replacement of a controller overwrites what
it has read, with no write in between. If there was a write, then the controller fails. One that has
applied its registration has stored it once, and any other has stored nothing. -/
theorem run_loses_nothing (a : ApiServer σ) (server : σ) {registrations : List Registration} {i : Nat}
    {r : Registration} (hr : registrations[i]? = some r) (turns : List Turn) :
    let f := (start server registrations).run a turns
    LosesNothing f.log i ∧ ∃ p, f.controllers[i]? = some ⟨r, p⟩ ∧
      (∀ v, p = .replacing v → ∃ between, Guarded a f i r v between) ∧
      (∀ replaced, p = .applied replaced → ∃ v, f.writesOf i = [(r, v)]) ∧
      ((∀ replaced, p ≠ .applied replaced) → f.writesOf i = []) := by
  intro f
  obtain ⟨p, hk, haccount⟩ := run_accounted (start_accounted (a := a) server hr) turns
  refine ⟨haccount.replaced, p, hk, ?_, ?_, haccount.transcript.writes_of_not_applied⟩
  · rintro v rfl
    exact haccount.guarded hk
  · rintro replaced rfl
    exact haccount.transcript.writes_of_applied

/-- Two controllers of one webhook. -/
def samplePair : List Registration := [build {} (.bytes [1]), build {} (.bytes [2])]

/-- Both read the version that is there, and the first replaces it. Then the object is deleted and created
by others, before the second comes to replace what it has read. -/
def sampleTurns : List Turn := [
  .controller 0, .controller 1, .controller 0, .controller 1, .controller 0, .delete "mca-webhook",
  .call (.create (build {} (.bytes [3])))]

def sampleFleet : Fleet { s : RegistrationStore // s.Consistent } :=
  (start ⟨.ofNames ["mca-webhook"], RegistrationStore.consistent_ofNames _⟩ samplePair).run
    (RegistrationStore.server fun _ => none) sampleTurns

theorem run_loses_nothing_sample :
    samplePair[0]? = some (build {} (.bytes [1])) ∧ samplePair[1]? = some (build {} (.bytes [2])) ∧
      LosesNothing sampleFleet.log 0 ∧ (∃ v, sampleFleet.writesOf 0 = [(build {} (.bytes [1]), v)]) ∧
      (∃ between, Guarded (RegistrationStore.server fun _ => none) sampleFleet 1 (build {} (.bytes [2]))
        101 between) ∧ sampleFleet.writesOf 1 = [] := by
  have hfirst : samplePair[0]? = some (build {} (.bytes [1])) := rfl
  have hsecond : samplePair[1]? = some (build {} (.bytes [2])) := rfl
  obtain ⟨hloses, p, hp, -, happlied, -⟩ := run_loses_nothing (RegistrationStore.server fun _ => none)
    ⟨.ofNames ["mca-webhook"], RegistrationStore.consistent_ofNames _⟩ hfirst sampleTurns
  obtain ⟨-, q, hq, hguarded, -, hnothing⟩ := run_loses_nothing (RegistrationStore.server fun _ => none)
    ⟨.ofNames ["mca-webhook"], RegistrationStore.consistent_ofNames _⟩ hsecond sampleTurns
  have hp' : sampleFleet.controllers[0]? = some ⟨build {} (.bytes [1]), .applied (some 101)⟩ := by decide
  have hq' : sampleFleet.controllers[1]? = some ⟨build {} (.bytes [2]), .replacing 101⟩ := by decide
  obtain rfl := (Controller.mk.inj (Option.some.inj (hp.symm.trans hp'))).2
  obtain rfl := (Controller.mk.inj (Option.some.inj (hq.symm.trans hq'))).2
  exact ⟨hfirst, hsecond, hloses, happlied _ rfl, hguarded 101 rfl, hnothing (by simp)⟩

end Fleet

end Registration

end Sidecar
