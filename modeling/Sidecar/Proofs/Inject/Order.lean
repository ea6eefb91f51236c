import Sidecar.Proofs.Inject.Reinvocation

/-!
The order of containers and volumes. What injection makes of one of them does not depend on where it and the
others stand, nor does the error by which a pod is refused.
-/

namespace Sidecar

/-- Two pods that differ in the order of their containers, init containers and volumes only. -/
structure Rearranged (p p' : Pod) : Prop where
  inits : p.spec.inits.Perm p'.spec.inits
  containers : p.spec.containers.Perm p'.spec.containers
  volumes : (p.spec.volumes.getD []).Perm (p'.spec.volumes.getD [])
  rest : p' = { p with
    spec := { p.spec with
      initContainers := p'.spec.initContainers
      containers := p'.spec.containers
      volumes := p'.spec.volumes } }

/-- Each container has become the same in two runs, and stands where it stood. -/
structure SameResults (before after before' after' : List Container) : Prop where
  length : after.length = before.length
  length' : after'.length = before'.length
  pairs : (before.zip after).Perm (before'.zip after')

theorem sameResults_map {ks ks' : List Container} (h : ks.Perm ks') (f : Container → Container) :
    SameResults ks (ks.map f) ks' (ks'.map f) := by
  refine ⟨List.length_map f, List.length_map f, ?_⟩
  have hzip (l : List Container) : l.zip (l.map f) = l.map fun k => (k, f k) := by
    have hboth : (l.map id).zip (l.map f) = l.map fun k => (k, f k) := List.zip_map'
    rwa [List.map_id] at hboth
  rw [hzip, hzip]
  exact h.map _

namespace Rearranged

variable {c : InjectionConfig} {p p' : Pod}

theorem containerNames (h : Rearranged p p') : p.spec.containerNames.Perm p'.spec.containerNames :=
  (h.inits.append h.containers).map Container.name

theorem volumeNames (h : Rearranged p p') : p.spec.volumeNames.Perm p'.spec.volumeNames :=
  h.volumes.map Volume.name

theorem validate_eq (h : Rearranged p p') : c.validate p.spec = c.validate p'.spec := by
  apply InjectionConfig.validate_congr
  · intro n
    rw [h.containerNames.count_eq]
  · intro n
    rw [h.volumeNames.count_eq]
  · exact (h.containers.map Container.name).mem_iff

/-- In a pod with distinct names the sidecar is found wherever it stands. -/
theorem chooseSidecar_eq (h : Rearranged p p') (hnodup : p.spec.containerNames.Nodup) :
    c.chooseSidecar p.spec = c.chooseSidecar p'.spec := by
  apply InjectionConfig.chooseSidecar_congr
  cases hfind : p'.spec.inits.find? (·.name = c.sidecarName) with
  | none =>
    rw [List.find?_eq_none] at hfind ⊢
    exact fun k hk => hfind k (h.inits.mem_iff.mp hk)
  | some own =>
    have hown : own ∈ p.spec.inits := h.inits.mem_iff.mpr (List.mem_of_find?_eq_some hfind)
    exact InjectionConfig.find?_inits_of_nodup hnodup hown (InjectionConfig.name_of_find?_inits hfind)

theorem missingVolumes_eq (h : Rearranged p p') (sidecar : Container) :
    c.missingVolumes sidecar p.spec.volumeNames = c.missingVolumes sidecar p'.spec.volumeNames := by
  simp only [InjectionConfig.missingVolumes, h.volumeNames.mem_iff]

theorem others (h : Rearranged p p') : (c.others p.spec).Perm (c.others p'.spec) :=
  (h.inits.filter _).append h.containers

theorem checkPort_eq (h : Rearranged p p') : c.checkPort p.spec = c.checkPort p'.spec := by
  have hredirected : (c.redirected p.spec).Perm (c.redirected p'.spec) := h.others.filter _
  apply InjectionConfig.checkPort_congr
  rw [← List.length_eq_zero_iff, hredirected.length_eq, List.length_eq_zero_iff]

end Rearranged

namespace InjectionConfig

variable {c : InjectionConfig} {p q p' q' : Pod}

/-- Two pods and what they have become: the sidecar is the same, so is every other container, and the same
volumes are added. -/
structure InjectedAlike (c : InjectionConfig) (p q p' q' : Pod) : Prop where
  inits : ∃ sidecar others others', sidecar.name = c.sidecarName ∧
    q.spec.initContainers = some (sidecar :: others) ∧
    q'.spec.initContainers = some (sidecar :: others') ∧
    SameResults (p.spec.inits.filter (·.name ≠ c.sidecarName)) others
      (p'.spec.inits.filter (·.name ≠ c.sidecarName)) others'
  containers : SameResults p.spec.containers q.spec.containers p'.spec.containers q'.spec.containers
  volumes : ∃ added, q.spec.volumes = some (p.spec.volumes.getD [] ++ added) ∧
    q'.spec.volumes = some (p'.spec.volumes.getD [] ++ added)
  rest : q' = { q with
    spec := { q.spec with
      initContainers := q'.spec.initContainers
      containers := q'.spec.containers
      volumes := q'.spec.volumes } }

theorem injectedAlike_assemble (h : Rearranged p p') {sidecar : Container}
    (hname : sidecar.name = c.sidecarName) :
    c.InjectedAlike p (c.assemble sidecar p) p' (c.assemble sidecar p') := by
  refine ⟨?_, sameResults_map h.containers c.redirect, ?_, ?_⟩
  · exact ⟨sidecar, (c.otherInits p.spec).map c.redirect, (c.otherInits p'.spec).map c.redirect, hname, rfl,
      rfl, sameResults_map (h.inits.filter _) c.redirect⟩
  · refine ⟨c.missingVolumes sidecar p.spec.volumeNames, rfl, ?_⟩
    rw [h.missingVolumes_eq]
    rfl
  · rw [h.rest]
    rfl

/-- Pods that differ in order only are refused by the same error, or each container and volume becomes the
same in both. -/
theorem inject_rearranged (h : Rearranged p p') :
    (∀ e, c.inject p = .error e ↔ c.inject p' = .error e) ∧
    ∀ q, c.inject p = .ok q → ∃ q', c.inject p' = .ok q' ∧ c.InjectedAlike p q p' q' := by
  have hchoose (hvalid : c.validate p'.spec = .ok ()) :
      c.chooseSidecar p.spec = c.chooseSidecar p'.spec := by
    rw [← h.validate_eq] at hvalid
    exact h.chooseSidecar_eq (validate_eq_ok_iff.mp hvalid).1
  constructor
  · intro e
    rw [inject_eq_error_iff, inject_eq_error_iff, h.validate_eq, h.checkPort_eq]
    refine or_congr_right (and_congr_right ?_)
    intro hvalid
    rw [hchoose hvalid]
  · intro q hq
    obtain ⟨hvalid, hport, sidecar, hsidecar, rfl⟩ := inject_eq_ok_iff.mp hq
    rw [h.validate_eq] at hvalid
    rw [h.checkPort_eq] at hport
    rw [hchoose hvalid] at hsidecar
    refine ⟨c.assemble sidecar p', inject_eq_ok_iff.mpr ⟨hvalid, hport, sidecar, hsidecar, rfl⟩, ?_⟩
    exact injectedAlike_assemble h (chooseSidecar_named hsidecar).1

/-- A pod with two of everything, in which the first ones may stand last. -/
def pairedPod (reversed : Bool) : Pod :=
  let arrange {α : Type} (first second : α) : List α := if reversed then [second, first] else [first, second]
  let mounted : VolumeMount :=
    { name := "token", mountPath := "/var/run/secrets/kubernetes.io/serviceaccount" }
  { spec := {
      initContainers := some (arrange { name := "setup" } { name := "mca-proxy", args := some ["proxy"] })
      containers := arrange { name := "app", volumeMounts := some [mounted] } { name := "tools" }
      volumes := some (arrange { name := "token" } { name := "data", emptyDir := some [] }) } }

theorem inject_rearranged_sample :
    Rearranged (pairedPod false) (pairedPod true) ∧
    ∃ q q', inject { proxyImage := "mca" } (pairedPod false) = .ok q ∧
      inject { proxyImage := "mca" } (pairedPod true) = .ok q' ∧
      InjectedAlike { proxyImage := "mca" } (pairedPod false) q (pairedPod true) q' := by
  have h : Rearranged (pairedPod false) (pairedPod true) := ⟨.swap .., .swap .., .swap .., rfl⟩
  obtain ⟨q, hq⟩ : ∃ q, inject { proxyImage := "mca" } (pairedPod false) = .ok q :=
    ⟨_, inject_of_port (by decide) rfl rfl⟩
  obtain ⟨q', hq', halike⟩ := (inject_rearranged h).2 q hq
  exact ⟨h, q, q', hq, hq', halike⟩

end InjectionConfig

end Sidecar
