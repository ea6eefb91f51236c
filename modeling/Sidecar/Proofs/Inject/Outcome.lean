import Sidecar.Proofs.Inject.Names

/-!
When injection succeeds and what it then returns: the checks pass, a sidecar is chosen, and the pod is
assembled around it.
-/

namespace Sidecar.InjectionConfig

variable {c : InjectionConfig}

theorem validate_eq_ok_iff {s : PodSpec} : c.validate s = .ok () ↔
    s.containerNames.Nodup ∧ s.volumeNames.Nodup ∧ c.sidecarName ∉ s.containers.map Container.name := by
  rw [← repeatedNames_eq_nil_iff, ← repeatedNames_eq_nil_iff, validate]
  cases repeatedNames s.containerNames <;> cases repeatedNames s.volumeNames <;> simp

/-- Containers are checked before volumes, and both before the place of the sidecar. -/
theorem validate_eq (s : PodSpec) : c.validate s =
    if repeatedNames s.containerNames ≠ [] then
      .error (.duplicateContainers (repeatedNames s.containerNames))
    else if repeatedNames s.volumeNames ≠ [] then .error (.duplicateVolumes (repeatedNames s.volumeNames))
    else if c.sidecarName ∈ s.containers.map Container.name then .error (.sidecarAmongContainers c.sidecarName)
    else .ok () := by
  unfold validate
  cases repeatedNames s.containerNames <;> cases repeatedNames s.volumeNames <;> simp

/-- The checks see a pod only through its repeated names and the names of its containers. -/
theorem validate_congr {s t : PodSpec}
    (hcontainers : ∀ n, 1 < s.containerNames.count n ↔ 1 < t.containerNames.count n)
    (hvolumes : ∀ n, 1 < s.volumeNames.count n ↔ 1 < t.volumeNames.count n)
    (hsidecar : c.sidecarName ∈ s.containers.map Container.name ↔
      c.sidecarName ∈ t.containers.map Container.name) :
    c.validate s = c.validate t := by
  unfold validate
  rw [repeatedNames_congr hcontainers, repeatedNames_congr hvolumes]
  simp only [hsidecar]

theorem checkPort_eq_ok_iff {s : PodSpec} : c.checkPort s = .ok () ↔
    c.redirected s = [] ∨ ∃ text, Literal.integer? c.servicePort = some text := by
  unfold checkPort
  cases c.redirected s <;> cases Literal.integer? c.servicePort <;> simp

theorem checkPort_eq_error_iff {s : PodSpec} {e : InjectError} : c.checkPort s = .error e ↔
    c.redirected s ≠ [] ∧ Literal.integer? c.servicePort = none ∧ e = .portTooLong := by
  unfold checkPort
  cases c.redirected s <;> cases Literal.integer? c.servicePort <;> simp [eq_comm]

/-- It is only of interest whether a container is redirected at all. -/
theorem checkPort_congr {s t : PodSpec} (h : c.redirected s = [] ↔ c.redirected t = []) :
    c.checkPort s = c.checkPort t := by
  simp only [checkPort, ne_eq, h]

theorem inject_eq (p : Pod) : c.inject p =
    (c.validate p.spec).bind fun _ => (c.chooseSidecar p.spec).bind fun sidecar =>
      (c.checkPort p.spec).map fun _ => c.assemble sidecar p := by
  unfold inject
  cases c.validate p.spec with
  | error e => rfl
  | ok _ =>
    cases c.chooseSidecar p.spec with
    | error e => rfl
    | ok sidecar => cases c.checkPort p.spec <;> rfl

theorem inject_eq_ok_iff {p q : Pod} : c.inject p = .ok q ↔
    c.validate p.spec = .ok () ∧ c.checkPort p.spec = .ok () ∧
      ∃ sidecar, c.chooseSidecar p.spec = .ok sidecar ∧ c.assemble sidecar p = q := by
  rw [inject_eq]
  cases c.validate p.spec with
  | error e => simp [Except.bind]
  | ok _ =>
    cases c.chooseSidecar p.spec with
    | error e => simp [Except.bind]
    | ok sidecar => cases c.checkPort p.spec <;> simp [Except.bind, Except.map]

theorem inject_eq_error_iff {p : Pod} {e : InjectError} : c.inject p = .error e ↔
    c.validate p.spec = .error e ∨ c.validate p.spec = .ok () ∧
      (c.chooseSidecar p.spec = .error e ∨
        (∃ sidecar, c.chooseSidecar p.spec = .ok sidecar) ∧ c.checkPort p.spec = .error e) := by
  rw [inject_eq]
  cases c.validate p.spec with
  | error e => simp [Except.bind]
  | ok _ =>
    cases c.chooseSidecar p.spec with
    | error e => simp [Except.bind]
    | ok sidecar => cases c.checkPort p.spec <;> simp [Except.bind, Except.map]

/-- The ports that a service can listen at can be written. -/
theorem checkPort_of_port {s : PodSpec} (h : c.servicePort.natAbs < 65536) : c.checkPort s = .ok () := by
  have hlimit : 65536 < Nat.pow 10 Literal.digitLimit := by decide +kernel
  refine checkPort_eq_ok_iff.mpr (Or.inr ⟨toString c.servicePort, ?_⟩)
  exact if_pos (h.trans hlimit)

theorem inject_of_port {p : Pod} {sidecar : Container} (hport : c.servicePort.natAbs < 65536)
    (hvalid : c.validate p.spec = .ok ()) (hsidecar : c.chooseSidecar p.spec = .ok sidecar) :
    c.inject p = .ok (c.assemble sidecar p) :=
  inject_eq_ok_iff.mpr ⟨hvalid, checkPort_of_port hport, sidecar, hsidecar, rfl⟩

theorem name_of_find?_inits {s : PodSpec} {own : Container}
    (h : s.inits.find? (·.name = c.sidecarName) = some own) : own.name = c.sidecarName := by
  simpa using List.find?_some h

/-- As names are not repeated, a pod brings one sidecar at most. -/
theorem find?_inits_of_nodup {s : PodSpec} (hnodup : s.containerNames.Nodup) {own : Container}
    (hown : own ∈ s.inits) (hname : own.name = c.sidecarName) :
    s.inits.find? (·.name = c.sidecarName) = some own := by
  rw [PodSpec.containerNames, List.map_append] at hnodup
  cases hfind : s.inits.find? (·.name = c.sidecarName) with
  | none =>
    have hother := List.find?_eq_none.mp hfind own hown
    simp [hname] at hother
  | some first =>
    have hsame : first = own := List.inj_on_of_nodup_map hnodup.of_append_left
      (List.mem_of_find?_eq_some hfind) hown ((name_of_find?_inits hfind).trans hname.symm)
    rw [hsame]

/-- The sidecar that a pod brings is taken, with the configured image if it has none. If it brings none,
the default one is taken. -/
theorem chooseSidecar_eq_ok_iff {s : PodSpec} {sidecar : Container} : c.chooseSidecar s = .ok sidecar ↔
    (∃ own, s.inits.find? (·.name = c.sidecarName) = some own ∧
      (own.image.getD "" ≠ "" ∧ sidecar = own ∨
        own.image.getD "" = "" ∧ c.proxyImage ≠ "" ∧ sidecar = { own with image := some c.proxyImage })) ∨
    s.inits.find? (·.name = c.sidecarName) = none ∧ c.proxyImage ≠ "" ∧ sidecar = c.sidecar := by
  unfold chooseSidecar
  cases s.inits.find? (·.name = c.sidecarName) with
  | none => by_cases hproxy : c.proxyImage = "" <;> simp [hproxy, @eq_comm _ _ sidecar]
  | some own =>
    by_cases himage : own.image.getD "" = ""
    · by_cases hproxy : c.proxyImage = "" <;> simp [himage, hproxy, @eq_comm _ _ sidecar]
    · simp [himage, @eq_comm _ _ sidecar]

theorem chooseSidecar_default {s : PodSpec} {sidecar : Container} (h : c.chooseSidecar s = .ok sidecar)
    (hown : ∀ k ∈ s.inits, k.name ≠ c.sidecarName) : sidecar = c.sidecar := by
  rcases chooseSidecar_eq_ok_iff.mp h with ⟨own, hfind, -⟩ | ⟨-, -, hdefault⟩
  · exact absurd (name_of_find?_inits hfind) (hown own (List.mem_of_find?_eq_some hfind))
  · exact hdefault

/-- No sidecar is chosen exactly when it would have no image. -/
theorem chooseSidecar_eq_error_iff {s : PodSpec} {e : InjectError} : c.chooseSidecar s = .error e ↔
    c.proxyImage = "" ∧ (∀ own, s.inits.find? (·.name = c.sidecarName) = some own → own.image.getD "" = "") ∧
      e = .imageMissing := by
  unfold chooseSidecar
  cases s.inits.find? (·.name = c.sidecarName) with
  | none => by_cases hproxy : c.proxyImage = "" <;> simp [hproxy, @eq_comm _ _ e]
  | some own =>
    by_cases himage : own.image.getD "" = ""
    · by_cases hproxy : c.proxyImage = "" <;> simp [himage, hproxy, @eq_comm _ _ e]
    · simp [himage]

theorem validate_ne_portTooLong (s : PodSpec) : c.validate s ≠ .error .portTooLong := by
  rw [validate_eq]
  split_ifs <;> simp

/-- Nothing is wrong with a pod whose containers are sent to a port that cannot be written. -/
theorem inject_eq_portTooLong_iff {p : Pod} : c.inject p = .error .portTooLong ↔
    c.validate p.spec = .ok () ∧ (∃ sidecar, c.chooseSidecar p.spec = .ok sidecar) ∧
      c.redirected p.spec ≠ [] ∧ Literal.integer? c.servicePort = none := by
  have hchoose : c.chooseSidecar p.spec ≠ .error .portTooLong := by
    simp [chooseSidecar_eq_error_iff]
  rw [inject_eq_error_iff, checkPort_eq_error_iff]
  simp [validate_ne_portTooLong, hchoose]

theorem inject_ne_portTooLong {p : Pod} (h : c.servicePort.natAbs < 65536) :
    c.inject p ≠ .error .portTooLong := by
  intro hinject
  obtain ⟨-, -, hredirected, hport⟩ := inject_eq_portTooLong_iff.mp hinject
  have herror := checkPort_eq_error_iff.mpr ⟨hredirected, hport, rfl⟩
  rw [checkPort_of_port h] at herror
  nomatch herror

/-- A sidecar that is chosen has the name of the sidecar and an image. -/
theorem chooseSidecar_named {s : PodSpec} {sidecar : Container} (h : c.chooseSidecar s = .ok sidecar) :
    sidecar.name = c.sidecarName ∧ sidecar.image.getD "" ≠ "" := by
  rcases chooseSidecar_eq_ok_iff.mp h with ⟨own, hown, hcases⟩ | ⟨-, hproxy, rfl⟩
  · have hname := name_of_find?_inits hown
    rcases hcases with ⟨himage, rfl⟩ | ⟨-, hproxy, rfl⟩
    · exact ⟨hname, himage⟩
    · exact ⟨hname, hproxy⟩
  · exact ⟨rfl, hproxy⟩

/-- A container that has the sidecar's name and an image is taken as it is, if it comes first. -/
theorem chooseSidecar_of_find? {s : PodSpec} {own : Container}
    (hown : s.inits.find? (·.name = c.sidecarName) = some own) (himage : own.image.getD "" ≠ "") :
    c.chooseSidecar s = .ok own :=
  chooseSidecar_eq_ok_iff.mpr (Or.inl ⟨own, hown, Or.inl ⟨himage, rfl⟩⟩)

theorem chooseSidecar_congr {s t : PodSpec}
    (h : s.inits.find? (·.name = c.sidecarName) = t.inits.find? (·.name = c.sidecarName)) :
    c.chooseSidecar s = c.chooseSidecar t := by
  simp only [chooseSidecar, h]

end Sidecar.InjectionConfig
