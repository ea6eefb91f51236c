import Sidecar.Proofs.Inject.Frame

/-!
The names in an injected pod. Containers can be told by their names, the first of them is the sidecar and
no other is, and volumes are only added. Volumes can be told by their names too, unless two of one name
were added, which is what happens if the configuration has one name for both.
-/

namespace Sidecar.InjectionConfig

variable {c : InjectionConfig} {p q : Pod} {s : PodSpec} {sidecar : Container}

/-- Both volumes are to be added, by one name. A sidecar that the pod brings wants credentials only if it
mounts them. -/
structure VolumesCollide (c : InjectionConfig) (s : PodSpec) : Prop where
  same : c.redirectVolumeName = c.credentialsVolumeName
  missing : c.redirectVolumeName ∉ s.volumeNames
  wanted : ∀ own ∈ s.inits, own.name = c.sidecarName →
    c.credentialsVolumeName ∈ (own.volumeMounts.getD []).map VolumeMount.name

/-- What stands where in an injected pod. -/
structure Arranged (c : InjectionConfig) (p q : Pod) : Prop where
  containerNames : q.spec.containerNames.Nodup
  sidecar : ∃ sidecar others, q.spec.initContainers = some (sidecar :: others) ∧
    sidecar.name = c.sidecarName ∧ ∀ k ∈ others ++ q.spec.containers, k.name ≠ c.sidecarName
  volumes : ∃ added, q.spec.volumes = some (p.spec.volumes.getD [] ++ added) ∧
    ∀ v ∈ added, v.name ∉ p.spec.volumeNames

theorem containerNames_assemble (hname : sidecar.name = c.sidecarName) :
    (c.assemble sidecar p).spec.containerNames = c.sidecarName ::
      ((p.spec.inits.map Container.name).filter (· ≠ c.sidecarName) ++
        p.spec.containers.map Container.name) := by
  have hextend : ((c.assemble sidecar p).extend [] []).spec.containerNames =
      c.sidecarName :: (p.spec.inits.map Container.name).filter (· ≠ c.sidecarName) ++
        [] ++ (p.spec.containers.map Container.name ++ []) := containerNames_extend_assemble hname
  rwa [Pod.extend_nil, List.append_nil, List.append_nil] at hextend

theorem containerNames_assemble_nodup (hvalid : c.validate p.spec = .ok ())
    (hname : sidecar.name = c.sidecarName) : (c.assemble sidecar p).spec.containerNames.Nodup := by
  obtain ⟨hcontainers, -, hsidecar⟩ := validate_eq_ok_iff.mp hvalid
  rw [PodSpec.containerNames, List.map_append] at hcontainers
  rw [containerNames_assemble hname, List.nodup_cons]
  constructor
  · rw [List.mem_append]
    rintro (hinit | hcontainer)
    · simp at hinit
    · exact hsidecar hcontainer
  · have hsub : ((p.spec.inits.map Container.name).filter (· ≠ c.sidecarName) ++
        p.spec.containers.map Container.name).Sublist
          (p.spec.inits.map Container.name ++ p.spec.containers.map Container.name) :=
      List.filter_sublist.append (List.Sublist.refl _)
    exact hcontainers.sublist hsub

theorem name_ne_of_mem_others_assemble (hvalid : c.validate p.spec = .ok ()) {k : Container}
    (hk : k ∈ (c.otherInits p.spec).map c.redirect ++ p.spec.containers.map c.redirect) :
    k.name ≠ c.sidecarName := by
  obtain ⟨-, -, hsidecar⟩ := validate_eq_ok_iff.mp hvalid
  rcases List.mem_append.mp hk with hinit | hcontainer
  · obtain ⟨x, hx, rfl⟩ := List.mem_map.mp hinit
    rw [redirect_name]
    exact name_ne_of_mem_otherInits hx
  · obtain ⟨x, hx, rfl⟩ := List.mem_map.mp hcontainer
    rw [redirect_name]
    rintro hname
    exact hsidecar (hname ▸ List.mem_map_of_mem hx)

/-- The sidecar mounts the credentials exactly if one that the pod brings does so. -/
theorem SidecarOf.mounts_credentials_iff (h : c.SidecarOf s sidecar) :
    c.credentialsVolumeName ∈ (sidecar.volumeMounts.getD []).map VolumeMount.name ↔
      ∀ own ∈ s.inits, own.name = c.sidecarName →
        c.credentialsVolumeName ∈ (own.volumeMounts.getD []).map VolumeMount.name := by
  constructor
  · intro hmounted own hown hname
    rw [h.own own hown hname] at hmounted
    exact hmounted
  · intro hall
    by_cases hown : ∃ own ∈ s.inits, own.name = c.sidecarName
    · obtain ⟨own, hmem, hname⟩ := hown
      rw [h.own own hmem hname]
      exact hall own hmem hname
    · -- the default sidecar mounts them
      rw [h.default (by simpa using hown)]
      simp [InjectionConfig.sidecar]

theorem volumeNames_assemble_nodup_iff (hvalid : c.validate p.spec = .ok ())
    (h : c.chooseSidecar p.spec = .ok sidecar) :
    (c.assemble sidecar p).spec.volumeNames.Nodup ↔ ¬c.VolumesCollide p.spec := by
  obtain ⟨-, hvolumes, -⟩ := validate_eq_ok_iff.mp hvalid
  rw [assemble_volumeNames, missingVolumes_nodup_iff hvolumes,
    (sidecarOf_chooseSidecar hvalid h).mounts_credentials_iff]
  apply not_congr
  constructor
  · rintro ⟨hsame, hmissing, hwanted⟩
    exact ⟨hsame, hmissing, hwanted⟩
  · rintro ⟨hsame, hmissing, hwanted⟩
    exact ⟨hsame, hmissing, hwanted⟩

theorem arranged_assemble (hvalid : c.validate p.spec = .ok ())
    (hname : sidecar.name = c.sidecarName) : c.Arranged p (c.assemble sidecar p) := by
  refine ⟨containerNames_assemble_nodup hvalid hname, ?_, ?_⟩
  · exact ⟨sidecar, (c.otherInits p.spec).map c.redirect, rfl, hname,
      fun k hk => name_ne_of_mem_others_assemble hvalid hk⟩
  · exact ⟨c.missingVolumes sidecar p.spec.volumeNames, rfl,
      fun v hv => not_mem_of_mem_missingVolumes hv⟩

/-- An injected pod passes the checks that are made before injection, and its volumes have names of their
own, unless the two volumes were added by one name. All else holds of every injected pod. -/
theorem arranged_of_inject (h : c.inject p = .ok q) : c.Arranged p q ∧
    (q.spec.volumeNames.Nodup ↔ ¬c.VolumesCollide p.spec) ∧
    (c.validate q.spec = .ok () ↔ ¬c.VolumesCollide p.spec) := by
  obtain ⟨hvalid, -, sidecar, hsidecar, rfl⟩ := inject_eq_ok_iff.mp h
  have hname := (chooseSidecar_named hsidecar).1
  have harranged := arranged_assemble (p := p) hvalid hname
  have hvolumes := volumeNames_assemble_nodup_iff hvalid hsidecar
  refine ⟨harranged, hvolumes, ?_⟩
  rw [validate_eq_ok_iff, ← hvolumes]
  constructor
  · rintro ⟨-, hnodup, -⟩
    exact hnodup
  · intro hnodup
    refine ⟨harranged.containerNames, hnodup, ?_⟩
    obtain ⟨first, others, -, -, hothers⟩ := harranged.sidecar
    intro hmem
    obtain ⟨k, hk, hkname⟩ := List.mem_map.mp hmem
    exact hothers k (List.mem_append_right others hk) hkname

/-- A pod with one container, whose volumes have the given names. -/
def podWithVolumes (names : List String) : Pod :=
  { spec := { containers := [{ name := "app" }], volumes := some (names.map fun name => { name }) } }

/-- One name for both volumes does no harm to a pod that has a volume of the name. -/
theorem arranged_of_inject_shared :
    let c : InjectionConfig :=
      { proxyImage := "mca", redirectVolumeName := "api", credentialsVolumeName := "api" }
    ∃ q, c.inject (podWithVolumes ["data", "api"]) = .ok q ∧
      c.Arranged (podWithVolumes ["data", "api"]) q ∧ c.validate q.spec = .ok () := by
  intro c
  obtain ⟨q, hq⟩ : ∃ q, c.inject (podWithVolumes ["data", "api"]) = .ok q :=
    ⟨_, inject_of_port (by decide) rfl rfl⟩
  obtain ⟨harranged, -, hvalid⟩ := arranged_of_inject hq
  refine ⟨q, hq, harranged, hvalid.mpr ?_⟩
  intro hcollide
  exact hcollide.missing (by decide)

/-- A pod without a volume of the name is given two. -/
theorem not_nodup_of_shared_name :
    let c : InjectionConfig :=
      { proxyImage := "mca", redirectVolumeName := "api", credentialsVolumeName := "api" }
    ∃ q, c.inject (podWithVolumes ["data"]) = .ok q ∧ ¬q.spec.volumeNames.Nodup ∧
      c.inject q = .error (.duplicateVolumes ["api"]) :=
  ⟨_, inject_of_port (by decide) rfl rfl, by decide, rfl⟩

end Sidecar.InjectionConfig
