import Sidecar.Proofs.Registration.Store
import Sidecar.Registration.Session

/-!
Whatever is applied, renamed and deleted, and whichever calls fail, the store stays consistent. An apply
either fails and changes nothing, or stores its registration once, under a version that is new.
-/

namespace Sidecar.Registration

/-- All that can come of a run on a store. Calls fail if they are made to, and a registration that is not
there is not read. -/
inductive Outcome (r : Registration) (forced : ForcedFailures) (store : RegistrationStore) : Run → Prop where
  | created (h : store.version? r.name = none) :
    Outcome r forced store ⟨store.put r.name r, .applied none, [.create r]⟩
  | replaced {v : Nat} (h : store.version? r.name = some v) :
    Outcome r forced store
      ⟨store.put r.name r, .applied (some v), [.create r, .read r.name, .replace r v]⟩
  | notCreated {e : ApiError} (hforced : forced.create = some e) :
    Outcome r forced store ⟨store, .failed e, [.create r]⟩
  | notRead {e : ApiError} (hforced : forced.create ≠ none ∨ forced.read = some e) :
    Outcome r forced store ⟨store, .failed e, [.create r, .read r.name]⟩
  | notReplaced {v : Nat} {e : ApiError} (h : store.version? r.name = some v)
    (hforced : forced.replace = some e) :
    Outcome r forced store ⟨store, .failed e, [.create r, .read r.name, .replace r v]⟩

variable {r : Registration} {forced : ForcedFailures} {store : RegistrationStore}

/-- A call is answered by the store, unless it is made to fail. -/
theorem Run.step_of_call? (run : Run) {call : ApiCall} (h : run.progress.call? r = some call) :
    run.step r forced =
      match forced.of call with
      | some e => ⟨run.store, run.progress.receive (.refused e), run.calls ++ [call]⟩
      | none => ⟨(run.store.serve call).1, run.progress.receive (run.store.serve call).2,
          run.calls ++ [call]⟩ := by
  rw [Run.step, h]
  cases hforced : forced.of call <;> simp [hforced]

/-- A run that has ended makes no more calls. -/
theorem Run.step_of_call?_eq_none {run : Run} (h : run.progress.call? r = none) :
    run.step r forced = run := by
  rw [Run.step, h]

theorem outcome_replacing {v : Nat} (h : store.version? r.name = some v) :
    Outcome r forced store ((Run.mk store (.replacing v) [.create r, .read r.name]).step r forced) := by
  rw [Run.step_of_call? _ rfl]
  cases hforced : forced.of (.replace r v) with
  | some e => exact .notReplaced h hforced
  | none =>
    simp only [RegistrationStore.serve, h, if_true]
    exact .replaced h

/-- After a creation that has met a conflict, the version is read and replaced. -/
theorem outcome_reading (hconflict : store.version? r.name = none → forced.create ≠ none) :
    Outcome r forced store (((Run.mk store .reading [.create r]).step r forced).step r forced) := by
  rw [Run.step_of_call? ⟨store, .reading, [.create r]⟩ rfl]
  cases hforced : forced.of (.read r.name) with
  | some e =>
    rw [Run.step_of_call?_eq_none rfl]
    exact .notRead (.inr hforced)
  | none =>
    cases hversion : store.version? r.name with
    | none =>
      simp only [RegistrationStore.serve, hversion]
      rw [Run.step_of_call?_eq_none rfl]
      exact .notRead (.inl (hconflict hversion))
    | some v =>
      simp only [RegistrationStore.serve, hversion]
      exact outcome_replacing hversion

theorem outcome_apply (r : Registration) (forced : ForcedFailures) (store : RegistrationStore) :
    Outcome r forced store (r.apply forced store) := by
  rw [apply, Run.step_of_call? ⟨store, .creating, []⟩ rfl]
  cases hforced : forced.of (.create r) with
  | some e =>
    have hcreate : forced.create = some e := hforced
    by_cases hconflict : e.status = 409
    · simp only [Progress.receive, hconflict, if_true]
      exact outcome_reading fun _ => by simp [hcreate]
    · simp only [Progress.receive, hconflict, if_false]
      rw [Run.step_of_call?_eq_none rfl, Run.step_of_call?_eq_none rfl]
      exact .notCreated hcreate
  | none =>
    cases hversion : store.version? r.name with
    | some v =>
      simp only [RegistrationStore.serve, hversion]
      exact outcome_reading fun hnone => by simp [hversion] at hnone
    | none =>
      simp only [RegistrationStore.serve, hversion]
      rw [Run.step_of_call?_eq_none rfl, Run.step_of_call?_eq_none rfl]
      exact .created hversion

/-- Nothing has been written, and the calls are the first of creating, reading and replacing. -/
structure Unchanged (r : Registration) (before : RegistrationStore) (run : Run) : Prop where
  store : run.store = before
  calls : ∃ v, run.calls <+: [.create r, .read r.name, .replace r v]

/-- The registration has been stored once, with the next version, and all else is as it was. It was
created if its name was free, and has else replaced the version that was read. -/
structure Stored (r : Registration) (before : RegistrationStore) (run : Run) : Prop where
  object : run.store.objects.lookup r.name = some ⟨before.counter + 1, some r⟩
  counter : run.store.counter = before.counter + 1
  others : ∀ name, name ≠ r.name → run.store.objects.lookup name = before.objects.lookup name
  calls : before.version? r.name = none ∧ run.calls = [.create r] ∨
    ∃ v, before.version? r.name = some v ∧ run.calls = [.create r, .read r.name, .replace r v]

/-- A run fails and changes nothing, or stores its registration; the latter if no call is made to fail. -/
theorem apply_fails_or_stores (h : (store.objects.map Prod.fst).Nodup) (r : Registration)
    (forced : ForcedFailures) :
    ((∃ e, (r.apply forced store).progress = .failed e) ∧ Unchanged r store (r.apply forced store) ∧
        forced ≠ {}) ∨
      (∃ replaced, (r.apply forced store).progress = .applied replaced) ∧
        Stored r store (r.apply forced store) := by
  have hput : (store.put r.name r).objects.lookup r.name = some ⟨store.counter + 1, some r⟩ := by
    rw [RegistrationStore.lookup_put h, if_pos rfl]
  have hothers (name : String) (hname : name ≠ r.name) :
      (store.put r.name r).objects.lookup name = store.objects.lookup name := by
    rw [RegistrationStore.lookup_put h, if_neg hname]
  have hforces (hsome : forced.create ≠ none ∨ forced.read ≠ none ∨ forced.replace ≠ none) :
      forced ≠ {} := by
    rintro rfl
    simp at hsome
  have houtcome := outcome_apply r forced store
  generalize r.apply forced store = run at houtcome
  cases houtcome with
  | created hfree => exact .inr ⟨⟨none, rfl⟩, hput, rfl, hothers, .inl ⟨hfree, rfl⟩⟩
  | replaced hv => exact .inr ⟨⟨_, rfl⟩, hput, rfl, hothers, .inr ⟨_, hv, rfl⟩⟩
  | notCreated hforced =>
    exact .inl ⟨⟨_, rfl⟩, ⟨rfl, 0, by simp⟩, hforces (.inl (by simp [hforced]))⟩
  | notRead hforced =>
    exact .inl ⟨⟨_, rfl⟩, ⟨rfl, 0, by simp⟩, hforces (hforced.imp_right fun h => .inl (by simp [h]))⟩
  | notReplaced _ hforced =>
    exact .inl ⟨⟨_, rfl⟩, ⟨rfl, _, List.prefix_rfl⟩, hforces (.inr (.inr (by simp [hforced])))⟩

namespace Session

variable {s : Session}

theorem apply_consistent (h : s.store.Consistent) (ca : Content) (forced : ForcedFailures) :
    (s.apply ca forced).store.Consistent := by
  have houtcome := outcome_apply (build s.config ca) forced s.store
  unfold apply
  generalize (build s.config ca).apply forced s.store = run at houtcome
  cases houtcome with
  | created | replaced => exact h.put _ _
  | notCreated | notRead | notReplaced => exact h

theorem step_consistent (h : s.store.Consistent) (a : Action) : (s.step a).store.Consistent := by
  cases a with
  | apply ca forced => exact apply_consistent h ca forced
  | configure c => exact h
  | delete name => exact h.delete name

theorem run_consistent (h : s.store.Consistent) (actions : List Action) :
    (s.run actions).store.Consistent := by
  induction actions generalizing s with
  | nil => exact h
  | cons a rest ih => exact ih (step_consistent h a)

theorem counter_le_step (s : Session) (a : Action) : s.store.counter ≤ (s.step a).store.counter := by
  cases a with
  | apply ca forced =>
    have houtcome := outcome_apply (build s.config ca) forced s.store
    rw [step, apply]
    generalize (build s.config ca).apply forced s.store = run at houtcome
    cases houtcome with
    | created | replaced => exact Nat.le_succ _
    | notCreated | notRead | notReplaced => exact Nat.le_refl _
  | configure | delete => exact Nat.le_refl _

theorem run_append (s : Session) (before after : List Action) :
    s.run (before ++ after) = (s.run before).run after :=
  List.foldl_append

theorem counter_le_run (s : Session) (actions : List Action) :
    s.store.counter ≤ (s.run actions).store.counter := by
  induction actions generalizing s with
  | nil => exact Nat.le_refl _
  | cons a rest ih => exact Nat.le_trans (counter_le_step s a) (ih (s.step a))

/-- A version that is given next is above all versions that were ever stored. -/
theorem version_lt_of_prefix (h : s.store.Consistent) {earlier actions : List Action}
    (hearlier : earlier <+: actions) : ∀ e ∈ (s.run earlier).store.objects,
      e.2.version < (s.run actions).store.counter + 1 := by
  obtain ⟨later, rfl⟩ := hearlier
  intro e he
  have hbelow := (run_consistent h earlier).below e he
  have hcounter := counter_le_run (s.run earlier) later
  rw [run_append]
  omega

/-- After any actions, names and versions are distinct, and the next apply fails and changes nothing or
stores its registration under the current name, with a version above all that came before. If no call is
made to fail, then it does not fail. -/
theorem run_apply (h : s.store.Consistent) (actions : List Action) (ca : Content)
    (forced : ForcedFailures) :
    let before := s.run actions
    let r := build before.config ca
    let run := before.apply ca forced
    before.store.Consistent ∧ (before.step (.apply ca forced)).store = run.store ∧
      (((∃ e, run.progress = .failed e) ∧ Unchanged r before.store run ∧ forced ≠ {}) ∨
        (∃ replaced, run.progress = .applied replaced) ∧ Stored r before.store run ∧
          r.name = before.config.webhookName ∧
          ∀ earlier, earlier <+: actions → ∀ e ∈ (s.run earlier).store.objects,
            ∀ o ∈ run.store.objects.lookup r.name, e.2.version < o.version) := by
  intro before r run
  have hbefore : before.store.Consistent := run_consistent h actions
  refine ⟨hbefore, rfl, ?_⟩
  rcases apply_fails_or_stores hbefore.names r forced with hfails | ⟨happlied, hstored⟩
  · exact .inl hfails
  · refine .inr ⟨happlied, hstored, rfl, fun earlier hearlier e he o ho => ?_⟩
    obtain rfl := Option.some.inj (hstored.object.symm.trans ho)
    exact version_lt_of_prefix h hearlier e he

/-- A store with two registrations, one of them that of the webhook. -/
def sample : Session := ⟨{}, .ofNames ["other", "mca-webhook"]⟩

/-- A creation is made to fail, the other registration is deleted, and the webhook is renamed. -/
def sampleActions : List Action := [
  .apply (.bytes [1]) { create := some ⟨500, none⟩ }, .delete "other", .apply (.bytes [2]) {},
  .configure { webhookName := "second" }]

/-- After that, the registration is stored under the new name. If a conflict is forced although the name
is free, then nothing is found to be replaced. -/
theorem run_apply_sample : sample.store.Consistent ∧
    (sample.run sampleActions).store.objects =
      [("mca-webhook", ⟨103, some ⟨"mca-webhook", "mca-webhook", "default", .bytes [2]⟩⟩)] ∧
    Stored ⟨"second", "mca-webhook", "default", .bytes [3]⟩ (sample.run sampleActions).store
      ((sample.run sampleActions).apply (.bytes [3]) {}) ∧
    Unchanged ⟨"second", "mca-webhook", "default", .bytes [3]⟩ (sample.run sampleActions).store
      ((sample.run sampleActions).apply (.bytes [3]) { create := some ⟨409, none⟩ }) := by
  have hsample : sample.store.Consistent := RegistrationStore.consistent_ofNames _
  obtain ⟨-, -, hplain⟩ := run_apply hsample sampleActions (.bytes [3]) {}
  obtain ⟨-, -, hforced⟩ := run_apply hsample sampleActions (.bytes [3]) { create := some ⟨409, none⟩ }
  refine ⟨hsample, by decide, ?_, ?_⟩
  · rcases hplain with ⟨-, -, hne⟩ | ⟨-, hstored, -⟩
    · exact absurd rfl hne
    · exact hstored
  · rcases hforced with ⟨-, hunchanged, -⟩ | ⟨⟨replaced, happlied⟩, -⟩
    · exact hunchanged
    · have hfailed : ((sample.run sampleActions).apply (.bytes [3])
          { create := some ⟨409, none⟩ }).progress = .failed RegistrationStore.missing := by decide
      rw [hfailed] at happlied
      nomatch happlied

end Session

end Sidecar.Registration
