import Sidecar.Proofs.Inject.Outcome
import Sidecar.Proofs.Inject.Redirect

/-!
When injection is refused. Four things can be wrong with a pod, and the first of them that is wrong gives
the error; a pod with which nothing is wrong is always injected. A fifth one is wrong with the
configuration only, and only if its port has more digits than can be written.
-/

namespace Sidecar

/-- What can be wrong with a pod. -/
inductive Fault where
  | repeatedContainer
  | repeatedVolume
  | misplacedSidecar
  | missingImage
  | unprintablePort
  deriving DecidableEq, Repr

namespace Fault

variable (c : InjectionConfig) (s : PodSpec)

/-- The fault is there. -/
def Holds : Fault → Prop
  | repeatedContainer => ∃ n, 1 < s.containerNames.count n
  | repeatedVolume => ∃ n, 1 < s.volumeNames.count n
  | misplacedSidecar => c.sidecarName ∈ s.containers.map Container.name
  | missingImage => c.proxyImage = "" ∧ ((∀ k ∈ s.inits, k.name ≠ c.sidecarName) ∨
      ∃ k ∈ s.inits, k.name = c.sidecarName ∧ (k.image = none ∨ k.image = some ""))
  | unprintablePort => Literal.integer? c.servicePort = none ∧ ∃ k ∈ c.others s, c.IsRedirected k

/-- The faults that are looked for before this one. -/
def earlier : Fault → List Fault
  | repeatedContainer => []
  | repeatedVolume => [repeatedContainer]
  | misplacedSidecar => [repeatedContainer, repeatedVolume]
  | missingImage => [repeatedContainer, repeatedVolume, misplacedSidecar]
  | unprintablePort => [repeatedContainer, repeatedVolume, misplacedSidecar, missingImage]

/-- The fault is the first one that is there. -/
def First (f : Fault) : Prop := f.Holds c s ∧ ∀ g ∈ f.earlier, ¬g.Holds c s

/-- The error that a fault is reported by. -/
inductive Reported : Fault → InjectError → Prop
  | repeatedContainer {names : List String} (h : Repeats s.containerNames names) :
      Reported .repeatedContainer (.duplicateContainers names)
  | repeatedVolume {names : List String} (h : Repeats s.volumeNames names) :
      Reported .repeatedVolume (.duplicateVolumes names)
  | misplacedSidecar : Reported .misplacedSidecar (.sidecarAmongContainers c.sidecarName)
  | missingImage : Reported .missingImage .imageMissing
  | unprintablePort : Reported .unprintablePort .portTooLong

variable {c s}

theorem Reported.eq {f : Fault} {e e' : InjectError} (h : Reported c s f e) (h' : Reported c s f e') :
    e = e' := by
  cases h with
  | repeatedContainer h => cases h' with | repeatedContainer h' => rw [h.eq h']
  | repeatedVolume h => cases h' with | repeatedVolume h' => rw [h.eq h']
  | misplacedSidecar => cases h' with | misplacedSidecar => rfl
  | missingImage => cases h' with | missingImage => rfl
  | unprintablePort => cases h' with | unprintablePort => rfl

theorem exists_first {f : Fault} (h : f.Holds c s) : ∃ g, First c s g := by
  by_cases hcontainer : repeatedContainer.Holds c s
  · exact ⟨repeatedContainer, hcontainer, by simp [earlier]⟩
  by_cases hvolume : repeatedVolume.Holds c s
  · exact ⟨repeatedVolume, hvolume, by simp [earlier, hcontainer]⟩
  by_cases hsidecar : misplacedSidecar.Holds c s
  · exact ⟨misplacedSidecar, hsidecar, by simp [earlier, hcontainer, hvolume]⟩
  by_cases himage : missingImage.Holds c s
  · exact ⟨missingImage, himage, by simp [earlier, hcontainer, hvolume, hsidecar]⟩
  -- what is there is neither of these four
  refine ⟨unprintablePort, ?_, by simp [earlier, hcontainer, hvolume, hsidecar, himage]⟩
  cases f with
  | repeatedContainer => exact absurd h hcontainer
  | repeatedVolume => exact absurd h hvolume
  | misplacedSidecar => exact absurd h hsidecar
  | missingImage => exact absurd h himage
  | unprintablePort => exact h

end Fault

namespace InjectionConfig

variable {c : InjectionConfig} {s : PodSpec} {p : Pod}

open Fault

theorem validate_eq_ok_iff_not_holds : c.validate s = .ok () ↔
    ¬repeatedContainer.Holds c s ∧ ¬repeatedVolume.Holds c s ∧ ¬misplacedSidecar.Holds c s := by
  have hnodup (names : List String) : names.Nodup ↔ ¬∃ n, 1 < names.count n := by
    rw [← repeatedNames_ne_nil_iff, not_not, repeatedNames_eq_nil_iff]
  rw [validate_eq_ok_iff, hnodup, hnodup]
  rfl

theorem image_getD_eq_empty_iff (k : Container) :
    k.image.getD "" = "" ↔ k.image = none ∨ k.image = some "" := by
  cases k.image <;> simp

theorem chooseSidecar_eq_error_iff_holds (hnodup : s.containerNames.Nodup) :
    c.chooseSidecar s = .error .imageMissing ↔ missingImage.Holds c s := by
  rw [chooseSidecar_eq_error_iff]
  constructor
  · rintro ⟨hproxy, himage, -⟩
    refine ⟨hproxy, ?_⟩
    cases hfind : s.inits.find? (·.name = c.sidecarName) with
    | none =>
      have hothers := List.find?_eq_none.mp hfind
      exact Or.inl (by simpa using hothers)
    | some own =>
      have hmissing := (image_getD_eq_empty_iff own).mp (himage own hfind)
      exact Or.inr ⟨own, List.mem_of_find?_eq_some hfind, name_of_find?_inits hfind, hmissing⟩
  · rintro ⟨hproxy, hwhich⟩
    refine ⟨hproxy, ?_, rfl⟩
    intro own hfind
    rcases hwhich with hothers | ⟨k, hk, hkname, himage⟩
    · exact absurd (name_of_find?_inits hfind) (hothers own (List.mem_of_find?_eq_some hfind))
    · have hsame := find?_inits_of_nodup hnodup hk hkname
      obtain rfl := Option.some.inj (hfind.symm.trans hsame)
      exact (image_getD_eq_empty_iff own).mpr himage

theorem checkPort_eq_error_iff_holds :
    c.checkPort s = .error .portTooLong ↔ unprintablePort.Holds c s := by
  rw [checkPort_eq_error_iff, redirected_ne_nil_iff, Holds]
  simp [and_comm]

/-- In a pod without the faults that are looked for before it, a sidecar is found. -/
theorem exists_chooseSidecar (hvalid : c.validate s = .ok ()) (himage : ¬missingImage.Holds c s) :
    ∃ sidecar, c.chooseSidecar s = .ok sidecar := by
  cases hchoose : c.chooseSidecar s with
  | error e =>
    obtain rfl : e = .imageMissing := (chooseSidecar_eq_error_iff.mp hchoose).2.2
    have hfault := (chooseSidecar_eq_error_iff_holds (validate_eq_ok_iff.mp hvalid).1).mp hchoose
    exact absurd hfault himage
  | ok sidecar => exact ⟨sidecar, rfl⟩

/-- The first fault of a pod is reported. -/
theorem inject_of_first {f : Fault} (h : First c p.spec f) :
    ∃ e, Reported c p.spec f e ∧ c.inject p = .error e := by
  obtain ⟨hf, hearlier⟩ := h
  have hnot {g : Fault} (hg : g ∈ f.earlier) : ¬g.Holds c p.spec := hearlier g hg
  cases f with
  | repeatedContainer =>
    refine ⟨_, .repeatedContainer (repeats_repeatedNames _), ?_⟩
    rw [inject_eq, validate_eq, if_pos (repeatedNames_ne_nil_iff.mpr hf)]
    rfl
  | repeatedVolume =>
    have hcontainer : ¬repeatedContainer.Holds c p.spec := hnot (by simp [earlier])
    rw [Holds, ← repeatedNames_ne_nil_iff] at hcontainer
    refine ⟨_, .repeatedVolume (repeats_repeatedNames _), ?_⟩
    rw [inject_eq, validate_eq, if_neg hcontainer, if_pos (repeatedNames_ne_nil_iff.mpr hf)]
    rfl
  | misplacedSidecar =>
    have hcontainer : ¬repeatedContainer.Holds c p.spec := hnot (by simp [earlier])
    have hvolume : ¬repeatedVolume.Holds c p.spec := hnot (by simp [earlier])
    rw [Holds, ← repeatedNames_ne_nil_iff] at hcontainer
    rw [Holds, ← repeatedNames_ne_nil_iff] at hvolume
    have hsidecar : c.sidecarName ∈ p.spec.containers.map Container.name := hf
    refine ⟨_, .misplacedSidecar, ?_⟩
    rw [inject_eq, validate_eq, if_neg hcontainer, if_neg hvolume, if_pos hsidecar]
    rfl
  | missingImage =>
    have hvalid : c.validate p.spec = .ok () := validate_eq_ok_iff_not_holds.mpr
      ⟨hnot (by simp [earlier]), hnot (by simp [earlier]), hnot (by simp [earlier])⟩
    have hchoose := (chooseSidecar_eq_error_iff_holds (validate_eq_ok_iff.mp hvalid).1).mpr hf
    refine ⟨_, .missingImage, ?_⟩
    rw [inject_eq, hvalid, hchoose]
    rfl
  | unprintablePort =>
    have hvalid : c.validate p.spec = .ok () := validate_eq_ok_iff_not_holds.mpr
      ⟨hnot (by simp [earlier]), hnot (by simp [earlier]), hnot (by simp [earlier])⟩
    have hchoose := exists_chooseSidecar hvalid (hnot (by simp [earlier]))
    exact ⟨_, .unprintablePort,
      inject_eq_error_iff.mpr (Or.inr ⟨hvalid, Or.inr ⟨hchoose, checkPort_eq_error_iff_holds.mpr hf⟩⟩)⟩

/-- A pod without faults is injected. -/
theorem inject_of_no_fault (h : ∀ f, ¬Holds c p.spec f) : ∃ q, c.inject p = .ok q := by
  have hvalid : c.validate p.spec = .ok () := validate_eq_ok_iff_not_holds.mpr ⟨h _, h _, h _⟩
  obtain ⟨sidecar, hchoose⟩ := exists_chooseSidecar hvalid (h missingImage)
  cases hport : c.checkPort p.spec with
  | error e =>
    obtain rfl : e = .portTooLong := (checkPort_eq_error_iff.mp hport).2.2
    exact absurd (checkPort_eq_error_iff_holds.mp hport) (h unprintablePort)
  | ok _ => exact ⟨_, inject_eq_ok_iff.mpr ⟨hvalid, hport, sidecar, hchoose, rfl⟩⟩

/-- Injection fails exactly for pods with a fault, by the error of the first one, and returns a pod for all
others. -/
theorem inject_fails_iff_fault (c : InjectionConfig) (p : Pod) :
    (∀ e, c.inject p = .error e ↔ ∃ f, First c p.spec f ∧ Reported c p.spec f e) ∧
    ((∃ e, c.inject p = .error e) ↔ ∃ f, Holds c p.spec f) ∧
    ((∃ q, c.inject p = .ok q) ↔ ∀ f, ¬Holds c p.spec f) := by
  have hfails {f : Fault} (hf : Holds c p.spec f) : ∃ g e, First c p.spec g ∧ Reported c p.spec g e ∧
      c.inject p = .error e := by
    obtain ⟨g, hg⟩ := exists_first hf
    obtain ⟨e, he, herror⟩ := inject_of_first hg
    exact ⟨g, e, hg, he, herror⟩
  have hfault {e : InjectError} (h : c.inject p = .error e) : ∃ f, Holds c p.spec f := by
    by_contra hnone
    obtain ⟨q, hq⟩ := inject_of_no_fault (not_exists.mp hnone)
    rw [h] at hq
    nomatch hq
  refine ⟨?_, ?_, ?_⟩
  · intro e
    constructor
    · intro h
      obtain ⟨f, hf⟩ := hfault h
      obtain ⟨g, e', hg, he', herror⟩ := hfails hf
      rw [h] at herror
      obtain rfl := Except.error.inj herror
      exact ⟨g, hg, he'⟩
    · rintro ⟨f, hf, he⟩
      obtain ⟨e', he', herror⟩ := inject_of_first hf
      rw [herror, he.eq he']
  · constructor
    · rintro ⟨e, h⟩
      exact hfault h
    · rintro ⟨f, hf⟩
      obtain ⟨-, e, -, -, herror⟩ := hfails hf
      exact ⟨e, herror⟩
  · constructor
    · rintro ⟨q, hq⟩ f hf
      obtain ⟨-, e, -, -, herror⟩ := hfails hf
      rw [hq] at herror
      nomatch herror
    · exact inject_of_no_fault

end InjectionConfig

end Sidecar
