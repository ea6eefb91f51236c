import Sidecar.Proofs.Registration.Store
import Sidecar.Registration.Fleet

/-!
The store of registrations keeps what clients of an API server rely on, whichever calls it refuses. On it, a
turn of a controller is the next step of its run.
-/

namespace Sidecar

namespace RegistrationStore

theorem lookup_delete (s : RegistrationStore) (name other : String) :
    (s.delete name).objects.lookup other = if other = name then none else s.objects.lookup other := by
  unfold delete
  induction s.objects with
  | nil => simp
  | cons e rest ih =>
    obtain ⟨n, o⟩ := e
    by_cases hn : n = name
    · rw [List.filter_cons_of_neg (by simpa using hn), ih, Schema.lookup_cons_pair, hn]
      split_ifs <;> rfl
    · rw [List.filter_cons_of_pos (by simpa using hn), Schema.lookup_cons_pair,
        Schema.lookup_cons_pair, ih]
      split_ifs with hother hname
      · exact absurd (hother.symm.trans hname) hn
      all_goals rfl

/-- Answers a call, unless it is one to be refused. -/
def answer (refuse : ApiCall → Option ApiError) (s : RegistrationStore) (call : ApiCall) :
    RegistrationStore × ApiReply :=
  match refuse call with
  | some e => (s, .refused e)
  | none => s.serve call

/-- All that can come of a call. -/
inductive Answered (s : RegistrationStore) : ApiCall → RegistrationStore × ApiReply → Prop where
  | created (r : Registration) :
    Answered s (.create r) (s.put r.name r, .stored (s.counter + 1))
  | found {name : String} {v : Nat} (h : s.version? name = some v) :
    Answered s (.read name) (s, .found v)
  | replaced {r : Registration} {v : Nat} (h : s.version? r.name = some v) :
    Answered s (.replace r v) (s.put r.name r, .stored (s.counter + 1))
  | refused (call : ApiCall) (e : ApiError) : Answered s call (s, .refused e)

theorem answered (refuse : ApiCall → Option ApiError) (s : RegistrationStore) (call : ApiCall) :
    Answered s call (s.answer refuse call) := by
  rw [answer]
  cases refuse call with
  | some e => exact .refused call e
  | none =>
    cases call with
    | create r =>
      simp only [serve]
      cases s.version? r.name with
      | none => exact .created r
      | some v => exact .refused _ conflict
    | read name =>
      simp only [serve]
      cases hversion : s.version? name with
      | none => exact .refused _ missing
      | some v => exact .found hversion
    | replace r v =>
      simp only [serve]
      split_ifs with hversion
      · exact .replaced hversion
      · exact .refused _ conflict

namespace Answered

variable {s s' : RegistrationStore} {call : ApiCall} {reply : ApiReply}

theorem consistent (h : Answered s call (s', reply)) (hs : s.Consistent) : s'.Consistent := by
  cases h with
  | created | replaced => exact hs.put _ _
  | found | refused => exact hs

theorem counter_le (h : Answered s call (s', reply)) : s.counter ≤ s'.counter := by
  cases h with
  | created | replaced => exact Nat.le_succ _
  | found | refused => exact Nat.le_refl _

/-- What is stored is put under the next version. -/
theorem eq_put {v : Nat} (h : Answered s call (s', .stored v)) :
    v = s.counter + 1 ∧ ∃ r, call.registration? = some r ∧ s' = s.put r.name r := by
  cases h with
  | created r => exact ⟨rfl, r, rfl, rfl⟩
  | replaced => exact ⟨rfl, _, rfl, rfl⟩

theorem eq_self (h : Answered s call (s', reply)) (hreply : ∀ v, reply ≠ .stored v) : s' = s := by
  cases h with
  | created | replaced => exact absurd rfl (hreply _)
  | found | refused => rfl

theorem version_of_found {v : Nat} (h : Answered s call (s', .found v)) :
    call.registration? = none ∧ s.version? call.name = some v := by
  cases h with
  | found hversion => exact ⟨rfl, hversion⟩

theorem version_of_replaced {r : Registration} {v w : Nat}
    (h : Answered s (.replace r v) (s', .stored w)) : s.version? r.name = some v := by
  cases h with
  | replaced hversion => exact hversion

end Answered

theorem version_le_counter {s : RegistrationStore} (hs : s.Consistent) {name : String} {o : StoredObject}
    (h : s.objects.lookup name = some o) : o.version ≤ s.counter := by
  obtain ⟨front, back, hobjects, -⟩ := List.lookup_eq_some_iff.mp h
  have hbelow := hs.below (name, o) (by simp [hobjects])
  exact Nat.lt_succ_iff.mp hbelow

/-- The store as an API server that refuses calls as it likes. The versions that it has given are those up
to its counter. -/
def server (refuse : ApiCall → Option ApiError) : ApiServer { s : RegistrationStore // s.Consistent } where
  object? s name := s.1.objects.lookup name
  given s v := v ≤ s.1.counter
  serve s call :=
    (⟨(s.1.answer refuse call).1, (answered refuse s.1 call).consistent s.2⟩, (s.1.answer refuse call).2)
  delete s name := (⟨s.1.delete name, s.2.delete name⟩, (s.1.version? name).isSome)
  given_of_object? {s _ _} h := version_le_counter s.2 h
  given_serve {s _} call h := Nat.le_trans h (answered refuse s.1 call).counter_le
  given_delete _ h := h
  stored {s call v} h := by
    have hanswered : Answered s.1 call ((s.1.answer refuse call).1, .stored v) := by
      rw [← h]
      exact answered refuse s.1 call
    obtain ⟨rfl, r, hr, hput⟩ := hanswered.eq_put
    refine ⟨r, hr, by simp, fun name => ?_⟩
    simp only [hput]
    exact lookup_put s.2.names name
  replaced {s r v w} h := by
    have hanswered : Answered s.1 (.replace r v) ((s.1.answer refuse (.replace r v)).1, .stored w) := by
      rw [← h]
      exact answered refuse s.1 (.replace r v)
    exact hanswered.version_of_replaced
  found {s call v} h := by
    have hanswered : Answered s.1 call ((s.1.answer refuse call).1, .found v) := by
      rw [← h]
      exact answered refuse s.1 call
    exact hanswered.version_of_found
  kept {s call} h name := by
    have hsame : (s.1.answer refuse call).1 = s.1 := (answered refuse s.1 call).eq_self h
    simp only [hsame]
  deleted _ other := lookup_delete _ _ other
  spared {s name} h other := by
    have hnone : s.1.objects.lookup name = none := by simpa [version?] using h
    rw [lookup_delete]
    split_ifs with hother
    · rw [hother, hnone]
    · rfl

end RegistrationStore

namespace Registration

/-- A run on the store makes its calls to the server that refuses those that are made to fail. -/
theorem Run.step_eq_answer {run : Run} {r : Registration} {call : ApiCall} (forced : ForcedFailures)
    (hcall : run.progress.call? r = some call) :
    run.step r forced = ⟨(run.store.answer forced.of call).1,
      run.progress.receive (run.store.answer forced.of call).2, run.calls ++ [call]⟩ := by
  cases hforced : forced.of call <;> simp [Run.step, hcall, RegistrationStore.answer, hforced]

namespace Fleet

/-- On the store, a controller takes the next step of its run. -/
theorem step_controller_eq_step {f : Fleet { s : RegistrationStore // s.Consistent }} {i : Nat}
    {r : Registration} {run : Run} (hstore : f.server.1 = run.store)
    (hk : f.controllers[i]? = some ⟨r, run.progress⟩) (forced : ForcedFailures) :
    let next := f.step (RegistrationStore.server forced.of) (.controller i)
    next.server.1 = (run.step r forced).store ∧
      next.controllers[i]? = some ⟨r, (run.step r forced).progress⟩ := by
  obtain ⟨hi, -⟩ := List.getElem?_eq_some_iff.mp hk
  cases hcall : run.progress.call? r with
  | none =>
    simp only [step, hk, hcall, Run.step]
    exact ⟨hstore, trivial⟩
  | some call =>
    rw [Run.step_eq_answer forced hcall, ← hstore]
    simp only [step, hk, hcall, exchange, RegistrationStore.server]
    exact ⟨trivial, by simp [hi]⟩

end Fleet

end Registration

end Sidecar
