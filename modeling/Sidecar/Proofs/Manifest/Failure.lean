import Sidecar.Command.Run
import Sidecar.Proofs.Manifest.Agreement
import Sidecar.Proofs.Manifest.Origins

/-!
How injection into a manifest fails: with an error that says that the manifest is not one valid pod, with
one of the engine, or without having foreseen it. The last happens exactly if a scalar has no value in
spite of its form, if the port is too long, or if the injected pod holds an integer that is too long to be
written.
-/

namespace Sidecar

/-- The classes of errors that injection is documented to end with. -/
inductive ErrorClass where
  | decode
  | malformed
  | configurationMissing
  deriving DecidableEq, Repr

/-- The class of an error, if it is a documented one. A document that no value stands for has none. -/
def ManifestError.class? : ManifestError → Option ErrorClass
  | .unreadable (.scalar _) | .notInjected .portTooLong | .integerTooLong | .tooDeep => none
  | .unreadable fault => if fault.isUnrepresented then none else some .decode
  | .documentCount _ | .notMapping | .notPod _ => some .decode
  | .notInjected .imageMissing => some .configurationMissing
  | .notInjected _ => some .malformed

theorem Command.isForeseen_iff_class? (e : ManifestError) : isForeseen e = true ↔ e.class? ≠ none := by
  cases e with
  | unreadable fault => cases fault <;> simp [isForeseen, ManifestError.class?, Yaml.Fault.isUnrepresented]
  | notInjected error => cases error <;> simp [isForeseen, ManifestError.class?]
  | _ => simp [isForeseen, ManifestError.class?]

theorem ManifestError.message_of_decode {e : ManifestError} (h : e.class? = some .decode) :
    ∃ reason, e.message = "failed to unmarshal pod: " ++ reason := by
  cases e with
  | unreadable fault =>
    cases fault with
    | scalar | surrogate | recursive => simp [class?, Yaml.Fault.isUnrepresented] at h
    | _ => exact ⟨_, rfl⟩
  | notInjected error => cases error <;> simp [class?] at h
  | integerTooLong | tooDeep => simp [class?] at h
  | documentCount count => exact ⟨_, String.append_assoc⟩
  | notMapping | notPod => exact ⟨_, rfl⟩

namespace Manifest

/-- The origins of dates have no say in what can be written. -/
theorem isWritable_unshare (p : Pod) : isWritable (unshare p).toValue = isWritable p.toValue := by
  have hunknown : (∀ e ∈ (unshare p).unknown, isWritable e.2 = true) ↔
      ∀ e ∈ p.unknown, isWritable e.2 = true := by
    rw [unshare_eq, Object.mapValues, List.forall_mem_map]
    simp only [isWritable_shiftOrigins]
  rw [Bool.eq_iff_iff, Pod.isWritable_toValue_iff, Pod.isWritable_toValue_iff, hunknown]
  rfl

/-- The manifest is exactly one pod: of its documents one is not empty, and a pod is read from it. -/
def Holds (source : Source) (pod : Pod) : Prop :=
  ∃ vs es, documents source = .ok vs ∧ vs.filter (· ≠ .null) = [.map es] ∧
    (Pod.decode (.map es)).report "Pod" = .ok pod

theorem read_eq_ok_iff {source : Source} {pod : Pod} : read source = .ok pod ↔ Holds source pod := by
  unfold read
  constructor
  · intro h
    cases hdocuments : documents source with
    | error fault => simp [hdocuments] at h
    | ok vs =>
      rw [hdocuments] at h
      dsimp only at h
      split at h
      next es hone =>
        cases hreport : (Pod.decode (.map es)).report "Pod" with
        | error report => simp [hreport] at h
        | ok p =>
          obtain rfl : p = pod := by simpa [hreport] using h
          exact ⟨vs, es, hdocuments, hone, hreport⟩
      next => simp at h
      next => simp at h
  · rintro ⟨vs, es, hdocuments, hone, hreport⟩
    simp only [hdocuments, hone, hreport]

/-- The documents in a manifest are ones that values stand for: no text in them has a surrogate, and no
node contains itself. -/
def Represented (source : Source) : Prop :=
  ∀ fault, documents source = .error fault → fault.isUnrepresented = false

/-- What is not read is no pod, or a scalar in it has no value. -/
theorem class?_of_read_error {source : Source} (hrepresented : Represented source) {e : ManifestError}
    (h : read source = .error e) :
    e.class? = some .decode ∨ ∃ fault, documents source = .error (.scalar fault) := by
  unfold read at h
  cases hdocuments : documents source with
  | error fault =>
    have hfault := hrepresented fault hdocuments
    rw [hdocuments] at h
    obtain rfl := Except.error.inj h
    cases fault with
    | scalar fault => exact .inr ⟨fault, rfl⟩
    | surrogate | recursive => nomatch hfault
    | _ => exact .inl rfl
  | ok vs =>
    rw [hdocuments] at h
    dsimp only at h
    split at h
    · split at h
      · simp at h
      · obtain rfl := Except.error.inj h
        exact .inl rfl
    · obtain rfl := Except.error.inj h
      exact .inl rfl
    · obtain rfl := Except.error.inj h
      exact .inl rfl

variable {c : InjectionConfig} {source : Source}

theorem inject_of_read_error {e : ManifestError} (h : read source = .error e) :
    inject c source = .error e := by
  rw [inject, injectWithin, h]
  rfl

theorem inject_of_read {pod : Pod} (h : read source = .ok pod) : inject c source =
    match c.inject pod with
    | .error e => .error (.notInjected e)
    | .ok injected =>
      if isWritable injected.toValue then .ok (Yaml.render (unshare injected).toValue)
      else .error .integerTooLong := by
  rw [inject, injectWithin, h]
  cases hinject : c.inject pod with
  | error e => simp [hinject, bind, Except.bind, throw, throwThe, MonadExceptOf.throw]
  | ok injected => simp [hinject, bind, Except.bind, write, fits, isWritable_unshare]

/-- Nothing in the manifest stands in the way of a documented end: every scalar has a value, the port is not
too long for the containers that are sent to it, and every integer in the injected pod can be written. -/
structure Sound (c : InjectionConfig) (source : Source) : Prop where
  scalars : ∀ fault, documents source ≠ .error (.scalar fault)
  port : ∀ pod, Holds source pod → c.inject pod ≠ .error .portTooLong
  integers : ∀ pod injected, Holds source pod → c.inject pod = .ok injected →
    isWritable injected.toValue = true

namespace Sound

variable {e : ManifestError} (hrepresented : Represented source)
include hrepresented

theorem class?_of_read_error (h : Sound c source) (hread : read source = .error e) :
    e.class? = some .decode := by
  rcases Manifest.class?_of_read_error hrepresented hread with hclass | ⟨fault, hfault⟩
  · exact hclass
  · exact absurd hfault (h.scalars fault)

theorem class?_ne_none (h : Sound c source) (herror : inject c source = .error e) : e.class? ≠ none := by
  cases hread : read source with
  | error e' =>
    obtain rfl := Except.error.inj ((inject_of_read_error hread).symm.trans herror)
    simp [h.class?_of_read_error hrepresented hread]
  | ok pod =>
    have hpod := read_eq_ok_iff.mp hread
    rw [inject_of_read hread] at herror
    cases hinject : c.inject pod with
    | error error =>
      rw [hinject] at herror
      obtain rfl := Except.error.inj herror
      have hport := h.port pod hpod
      cases error with
      | portTooLong => exact absurd hinject hport
      | _ => simp [ManifestError.class?]
    | ok injected =>
      rw [hinject] at herror
      dsimp only at herror
      rw [if_pos (h.integers pod injected hpod hinject)] at herror
      simp at herror

end Sound

theorem runInject_of_error {w : Command.World} {e : ManifestError} {input : List UInt8}
    (hc : InjectionConfig.ofEnvironment w.environment = .ok c) (h : inject c (.bytes input) = .error e)
    (name : Option String) : Command.runInject w input name =
      { failure := some (.injection e), files := w.files } := by
  unfold Command.runInject
  simp only [hc, h]

/-- Injection ends as it is documented to: with a manifest or an error of a documented class, which is
a failure to decode where the manifest is not exactly one pod, and which the command reports. -/
structure Foreseen (c : InjectionConfig) (source : Source) : Prop where
  documented : ∀ e, inject c source = .error e → e.class? ≠ none
  decode : (∀ pod, ¬ Holds source pod) → ∃ e reason, inject c source = .error e ∧
    e.class? = some .decode ∧ e.message = "failed to unmarshal pod: " ++ reason
  reported : ∀ (w : Command.World) name input e, InjectionConfig.ofEnvironment w.environment = .ok c →
    source = .bytes input → inject c source = .error e →
    (Command.runInject w input name).exitCode = 1 ∧
    (Command.runInject w input name).errorOutput = "Error: Injection failed: " ++ e.message ++ "\n" ∧
    (Command.runInject w input name).output = [] ∧ (Command.runInject w input name).files = w.files

theorem Foreseen.sound (h : Foreseen c source) : Sound c source := by
  refine ⟨fun fault hfault => ?_, fun pod hpod hport => ?_, fun pod injected hpod hinject => ?_⟩
  · have hread : read source = .error (.unreadable (.scalar fault)) := by
      rw [read, hfault]
    exact h.documented _ (inject_of_read_error hread) rfl
  · have herror : inject c source = .error (.notInjected .portTooLong) := by
      rw [inject_of_read (read_eq_ok_iff.mpr hpod), hport]
    exact h.documented _ herror rfl
  · by_contra hwritable
    have herror : inject c source = .error .integerTooLong := by
      rw [inject_of_read (read_eq_ok_iff.mpr hpod), hinject]
      exact if_neg hwritable
    exact h.documented _ herror rfl

/-- A pod with a day that no calendar has. -/
def undatedManifest : Source :=
  .text "kind: Pod\nmetadata:\n  name: p\nspec:\n  containers:\n  - name: a\n    since: 2020-13-01\n"

end Manifest

end Sidecar
