import Sidecar.Proofs.Inject.Arrangement

/-!
Mounts of volumes that a pod does not have. Injection brings none: whatever it mounts it also adds, so a
mount that dangles in the injected pod is one that the pod came with.
-/

namespace Sidecar

/-- A mount of a container, of a volume that the pod does not have. -/
structure PodSpec.Dangles (s : PodSpec) (k : Container) (m : VolumeMount) : Prop where
  container : k ∈ s.inits ++ s.containers
  mount : m ∈ k.volumeMounts.getD []
  missing : m.name ∉ s.volumeNames

namespace InjectionConfig

variable {c : InjectionConfig} {p q : Pod} {s : PodSpec} {sidecar : Container} {m : VolumeMount}

theorem mem_mounts_redirect {k : Container} (h : m ∈ (c.redirect k).volumeMounts.getD []) :
    m ∈ k.volumeMounts.getD [] ∨ m.name = c.redirectVolumeName := by
  rcases c.redirect_cases k with ⟨-, mounts, hmounts, hk⟩ | ⟨-, hk⟩
  · rw [hk] at h
    change m ∈ mounts at h
    rcases c.redirectedMounts?_eq_some_iff.mp hmounts with hfirst | ⟨-, -, rfl⟩
    · obtain ⟨front, first, back, -, -, hbefore, rfl⟩ := c.redirectMounts?_eq_some_iff.mp hfirst
      rw [hbefore]
      rcases List.mem_append.mp h with hfront | hrest
      · exact Or.inl (List.mem_append_left _ hfront)
      · rcases List.mem_cons.mp hrest with rfl | hback
        · exact Or.inr rfl
        · exact Or.inl (List.mem_append_right _ (List.mem_cons_of_mem _ hback))
    · rcases List.mem_append.mp h with hkept | hadded
      · exact Or.inl hkept
      · obtain rfl := List.mem_singleton.mp hadded
        exact Or.inr rfl
  · rw [hk] at h
    exact Or.inl h

/-- The mounts of a sidecar that the pod brings are its own, and the default one has two. -/
theorem SidecarOf.mem_mounts (h : c.SidecarOf s sidecar) (hm : m ∈ sidecar.volumeMounts.getD []) :
    (∃ own ∈ s.inits, own.name = c.sidecarName ∧ m ∈ own.volumeMounts.getD []) ∨
      m.name = c.redirectVolumeName ∨ m.name = c.credentialsVolumeName := by
  by_cases hown : ∃ own ∈ s.inits, own.name = c.sidecarName
  · obtain ⟨own, hmem, hname⟩ := hown
    rw [h.own own hmem hname] at hm
    exact Or.inl ⟨own, hmem, hname, hm⟩
  · rw [h.default (by simpa using hown)] at hm
    rcases List.mem_cons.mp hm with rfl | hrest
    · exact Or.inr (Or.inl rfl)
    · obtain rfl := List.mem_singleton.mp hrest
      exact Or.inr (Or.inr rfl)

theorem mem_volumeNames_assemble {name : String} (h : name ∈ p.spec.volumeNames) :
    name ∈ (c.assemble sidecar p).spec.volumeNames := by
  rw [assemble_volumeNames]
  exact List.mem_append_left _ h

theorem mem_missingVolumes_iff {names : List String} {v : Volume} :
    v ∈ c.missingVolumes sidecar names ↔
      c.redirectVolumeName ∉ names ∧ v = c.redirectVolume ∨
      (c.credentialsVolumeName ∈ (sidecar.volumeMounts.getD []).map VolumeMount.name ∧
        c.credentialsVolumeName ∉ names) ∧ v = c.credentialsVolume := by
  rw [missingVolumes, List.mem_append, List.mem_ite_nil_left, List.mem_ite_nil_right, List.mem_singleton,
    List.mem_singleton]

theorem redirectVolumeName_mem_assemble :
    c.redirectVolumeName ∈ (c.assemble sidecar p).spec.volumeNames := by
  by_cases hmem : c.redirectVolumeName ∈ p.spec.volumeNames
  · exact mem_volumeNames_assemble hmem
  · have hadded : c.redirectVolume ∈ c.missingVolumes sidecar p.spec.volumeNames :=
      mem_missingVolumes_iff.mpr (Or.inl ⟨hmem, rfl⟩)
    rw [assemble_volumeNames]
    exact List.mem_append_right _ (List.mem_map_of_mem hadded)

/-- A sidecar that mounts the credentials finds them. -/
theorem credentialsVolumeName_mem_assemble
    (h : c.credentialsVolumeName ∈ (sidecar.volumeMounts.getD []).map VolumeMount.name) :
    c.credentialsVolumeName ∈ (c.assemble sidecar p).spec.volumeNames := by
  by_cases hmem : c.credentialsVolumeName ∈ p.spec.volumeNames
  · exact mem_volumeNames_assemble hmem
  · have hadded : c.credentialsVolume ∈ c.missingVolumes sidecar p.spec.volumeNames :=
      mem_missingVolumes_iff.mpr (Or.inr ⟨⟨h, hmem⟩, rfl⟩)
    rw [assemble_volumeNames]
    exact List.mem_append_right _ (List.mem_map_of_mem hadded)

/-- The containers of an injected pod are the sidecar, and those that the pod had without its own sidecar,
redirected. -/
theorem mem_containers_assemble {k : Container}
    (h : k ∈ (c.assemble sidecar p).spec.inits ++ (c.assemble sidecar p).spec.containers) :
    k = sidecar ∨ k ∈ (c.otherInits p.spec).map c.redirect ++ p.spec.containers.map c.redirect := by
  change k ∈ sidecar :: ((c.otherInits p.spec).map c.redirect ++ p.spec.containers.map c.redirect) at h
  exact List.mem_cons.mp h

theorem exists_redirect_eq {k : Container}
    (h : k ∈ (c.otherInits p.spec).map c.redirect ++ p.spec.containers.map c.redirect) :
    ∃ before ∈ p.spec.inits ++ p.spec.containers, c.redirect before = k := by
  rcases List.mem_append.mp h with hinit | hcontainer
  · obtain ⟨before, hbefore, hk⟩ := List.mem_map.mp hinit
    exact ⟨before, List.mem_append_left _ (List.mem_of_mem_filter hbefore), hk⟩
  · obtain ⟨before, hbefore, hk⟩ := List.mem_map.mp hcontainer
    exact ⟨before, List.mem_append_right _ hbefore, hk⟩

/-- What a container of an injected pod mounts is what it mounted before, but for the redirect volume and,
in the sidecar, the credentials volume. -/
theorem mount_before {k : Container} (hvalid : c.validate p.spec = .ok ())
    (hsidecar : c.chooseSidecar p.spec = .ok sidecar)
    (hk : k ∈ (c.assemble sidecar p).spec.inits ++ (c.assemble sidecar p).spec.containers)
    (hm : m ∈ k.volumeMounts.getD []) :
    (∃ before ∈ p.spec.inits ++ p.spec.containers, before.name = k.name ∧
      m ∈ before.volumeMounts.getD []) ∨
    m.name = c.redirectVolumeName ∨ k = sidecar ∧ m.name = c.credentialsVolumeName := by
  rcases mem_containers_assemble hk with rfl | hother
  · have hchosen := sidecarOf_chooseSidecar hvalid hsidecar
    rcases hchosen.mem_mounts hm with ⟨own, hown, hname, hmount⟩ | hname | hname
    · exact Or.inl ⟨own, List.mem_append_left _ hown, hname.trans hchosen.name.symm, hmount⟩
    · exact Or.inr (Or.inl hname)
    · exact Or.inr (Or.inr ⟨rfl, hname⟩)
  · obtain ⟨before, hbefore, rfl⟩ := exists_redirect_eq hother
    rcases mem_mounts_redirect hm with hmount | hname
    · exact Or.inl ⟨before, hbefore, (c.redirect_name before).symm, hmount⟩
    · exact Or.inr (Or.inl hname)

/-- A mount that dangles in an injected pod was there before, in the container of that name, and dangled. It
is not of the redirect volume and, if it is the sidecar's, not of the credentials volume. -/
theorem dangles_of_inject (h : c.inject p = .ok q) :
    ∀ k m, q.spec.Dangles k m →
      (∃ before, before.name = k.name ∧ p.spec.Dangles before m) ∧
      m.name ≠ c.redirectVolumeName ∧
      (k.name = c.sidecarName → m.name ≠ c.credentialsVolumeName) := by
  obtain ⟨hvalid, -, sidecar, hsidecar, rfl⟩ := inject_eq_ok_iff.mp h
  rintro k m ⟨hk, hm, hmissing⟩
  have hredirect : m.name ≠ c.redirectVolumeName := by
    intro hname
    rw [hname] at hmissing
    exact hmissing redirectVolumeName_mem_assemble
  have hcredentials : k = sidecar → m.name ≠ c.credentialsVolumeName := by
    rintro rfl hname
    have hmounted : m.name ∈ (k.volumeMounts.getD []).map VolumeMount.name := List.mem_map_of_mem hm
    rw [hname] at hmounted hmissing
    exact hmissing (credentialsVolumeName_mem_assemble hmounted)
  refine ⟨?_, hredirect, ?_⟩
  · rcases mount_before hvalid hsidecar hk hm with ⟨before, hbefore, hname, hmount⟩ | hname | ⟨hk, hname⟩
    · exact ⟨before, hname, hbefore, hmount, fun hmem => hmissing (mem_volumeNames_assemble hmem)⟩
    · exact absurd hname hredirect
    · exact absurd hname (hcredentials hk)
  · intro hname
    apply hcredentials
    -- only the sidecar has the name of the sidecar
    rcases mem_containers_assemble hk with hsame | hother
    · exact hsame
    · exact absurd hname (name_ne_of_mem_others_assemble hvalid hother)

/-- A sidecar that mounts the credentials, and a volume that nobody provides. -/
def cachingSidecar : Container where
  name := "mca-proxy"
  image := some "own:1"
  volumeMounts := some [
    { name := "kube-api-access-mca-proxy", mountPath := "/credentials" },
    { name := "cache", mountPath := "/cache" }]

def cachingPod : Pod :=
  { spec := { initContainers := some [{ name := "setup" }, cachingSidecar], containers := [{ name := "app" }] } }

/-- Of the mounts of the injected pod, the one that dangles is the sidecar's own. -/
theorem dangles_of_inject_sample :
    let cache : VolumeMount := { name := "cache", mountPath := "/cache" }
    ∃ q, inject {} cachingPod = .ok q ∧ q.spec.Dangles cachingSidecar cache ∧
      (∃ before, before.name = "mca-proxy" ∧ cachingPod.spec.Dangles before cache) ∧
      ¬q.spec.Dangles cachingSidecar { name := "kube-api-access-mca-proxy", mountPath := "/credentials" } := by
  intro cache
  have hinject : inject {} cachingPod = .ok (assemble {} cachingSidecar cachingPod) :=
    inject_of_port (by decide) rfl rfl
  have hdangles : (assemble {} cachingSidecar cachingPod).spec.Dangles cachingSidecar cache :=
    ⟨by decide, by decide, by decide⟩
  refine ⟨_, hinject, hdangles, (dangles_of_inject hinject _ _ hdangles).1, ?_⟩
  intro hcredentials
  exact (dangles_of_inject hinject _ _ hcredentials).2.2 rfl rfl

end InjectionConfig

end Sidecar
