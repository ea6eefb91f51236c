import Sidecar.Proofs.Config.Environment
import Sidecar.Proofs.Inject.Outcome
import Sidecar.Proofs.Inject.Redirect

/-!
Injecting again. Whatever is added to a pod after injection is treated by a second injection as the
first would have treated it, and nothing else changes; with nothing added, the second changes nothing.
-/

namespace Sidecar

/-- The pod with further containers and further init containers at the end. -/
def Pod.extend (p : Pod) (containers inits : List Container) : Pod :=
  { p with
    spec := { p.spec with
      initContainers := if inits = [] then p.spec.initContainers else some (p.spec.inits ++ inits)
      containers := p.spec.containers ++ containers } }

@[simp] theorem Pod.extend_nil (p : Pod) : p.extend [] [] = p := by
  simp [extend]

@[simp] theorem Pod.extend_inits (p : Pod) (cs ds : List Container) :
    (p.extend cs ds).spec.inits = p.spec.inits ++ ds := by
  by_cases h : ds = [] <;> simp [extend, PodSpec.inits, h]

namespace InjectionConfig

variable {c : InjectionConfig} {p : Pod} {sidecar : Container} {cs ds : List Container}

theorem chooseSidecar_extend (hds : ∀ x ∈ ds, x.name ≠ c.sidecarName) :
    c.chooseSidecar (p.extend cs ds).spec = c.chooseSidecar p.spec := by
  apply chooseSidecar_congr
  have hnone : ds.find? (·.name = c.sidecarName) = none := by simpa using hds
  rw [Pod.extend_inits, List.find?_append, hnone, Option.or_none]

theorem otherInits_extend (hds : ∀ x ∈ ds, x.name ≠ c.sidecarName) :
    c.otherInits (p.extend cs ds).spec = c.otherInits p.spec ++ ds := by
  have hall : ds.filter (·.name ≠ c.sidecarName) = ds := by simpa using hds
  rw [otherInits, Pod.extend_inits, List.filter_append, hall, otherInits]

@[simp] theorem assemble_inits : (c.assemble sidecar p).spec.inits =
    sidecar :: (c.otherInits p.spec).map c.redirect := rfl

/-- An injected pod brings its sidecar. -/
theorem chooseSidecar_assemble {s : PodSpec} (h : c.chooseSidecar s = .ok sidecar) :
    c.chooseSidecar (c.assemble sidecar p).spec = .ok sidecar := by
  obtain ⟨hname, himage⟩ := chooseSidecar_named h
  exact chooseSidecar_of_find? (by simp [hname]) himage

theorem name_ne_of_mem_otherInits {s : PodSpec} {x : Container} (h : x ∈ c.otherInits s) :
    x.name ≠ c.sidecarName := by
  simpa using (List.mem_filter.mp h).2

theorem otherInits_assemble (hname : sidecar.name = c.sidecarName) :
    c.otherInits (c.assemble sidecar p).spec = (c.otherInits p.spec).map c.redirect := by
  rw [otherInits, assemble_inits, List.filter_cons_of_neg (by simpa using hname)]
  rw [List.filter_eq_self]
  intro x hx
  obtain ⟨y, hy, rfl⟩ := List.mem_map.mp hx
  simpa using name_ne_of_mem_otherInits hy

theorem others_assemble (hname : sidecar.name = c.sidecarName) :
    c.others (c.assemble sidecar p).spec = (c.others p.spec).map c.redirect := by
  have hcontainers : (c.assemble sidecar p).spec.containers = p.spec.containers.map c.redirect := rfl
  rw [others, otherInits_assemble hname, hcontainers, others, List.map_append]

theorem others_extend (hds : ∀ x ∈ ds, x.name ≠ c.sidecarName) :
    c.others (p.extend cs ds).spec = (c.otherInits p.spec ++ ds) ++ (p.spec.containers ++ cs) := by
  rw [others, otherInits_extend hds]
  rfl

/-- The others have become what they are to become, and what is added is treated alike. -/
theorem map_redirect_others_extend (hname : sidecar.name = c.sidecarName)
    (hds : ∀ x ∈ ds, x.name ≠ c.sidecarName) :
    (c.others ((c.assemble sidecar p).extend cs ds).spec).map c.redirect =
      (c.others (p.extend cs ds).spec).map c.redirect := by
  have hcontainers : (c.assemble sidecar p).spec.containers = p.spec.containers.map c.redirect := rfl
  rw [others_extend hds, others_extend hds, otherInits_assemble hname, hcontainers]
  simp [Function.comp_def]

theorem checkPort_extend_assemble (hname : sidecar.name = c.sidecarName)
    (hds : ∀ x ∈ ds, x.name ≠ c.sidecarName) :
    c.checkPort ((c.assemble sidecar p).extend cs ds).spec = c.checkPort (p.extend cs ds).spec := by
  have hsame : (c.redirected ((c.assemble sidecar p).extend cs ds).spec).map c.redirect =
      (c.redirected (p.extend cs ds).spec).map c.redirect := by
    rw [map_redirect_redirected, map_redirect_redirected, map_redirect_others_extend hname hds]
  apply checkPort_congr
  rw [← List.map_eq_nil_iff, hsame, List.map_eq_nil_iff]

theorem not_mem_of_mem_missingVolumes {names : List String} {v : Volume}
    (h : v ∈ c.missingVolumes sidecar names) : v.name ∉ names := by
  unfold missingVolumes at h
  rcases List.mem_append.mp h with h | h
  · split_ifs at h with hmem
    · simp at h
    · obtain rfl := List.mem_singleton.mp h
      exact hmem
  · split_ifs at h with hmem
    · obtain rfl := List.mem_singleton.mp h
      exact hmem.2
    · simp at h

/-- The volumes that are added have names of their own unless both are added by one name. -/
theorem missingVolumes_nodup_iff {names : List String} (h : names.Nodup) :
    (names ++ (c.missingVolumes sidecar names).map Volume.name).Nodup ↔
      ¬(c.redirectVolumeName = c.credentialsVolumeName ∧ c.redirectVolumeName ∉ names ∧
        c.credentialsVolumeName ∈ (sidecar.volumeMounts.getD []).map VolumeMount.name) := by
  have happ : (names ++ (c.missingVolumes sidecar names).map Volume.name).Nodup ↔
      ((c.missingVolumes sidecar names).map Volume.name).Nodup := by
    rw [List.nodup_append]
    constructor
    · rintro ⟨-, hadded, -⟩
      exact hadded
    · intro hadded
      refine ⟨h, hadded, ?_⟩
      intro n hn m hm
      obtain ⟨v, hv, rfl⟩ := List.mem_map.mp hm
      rintro rfl
      exact not_mem_of_mem_missingVolumes hv hn
  have hboth : ((c.missingVolumes sidecar names).map Volume.name).Nodup ↔
      ¬(c.redirectVolumeName ∉ names ∧
        (c.credentialsVolumeName ∈ (sidecar.volumeMounts.getD []).map VolumeMount.name ∧
          c.credentialsVolumeName ∉ names) ∧ c.redirectVolumeName = c.credentialsVolumeName) := by
    unfold missingVolumes
    split_ifs with hredirect hcredentials hcredentials <;>
      simp only [hredirect, hcredentials, redirectVolume, credentialsVolume] <;> simp
  rw [happ, hboth]
  apply not_congr
  constructor
  · rintro ⟨hmissing, ⟨hwanted, -⟩, hsame⟩
    exact ⟨hsame, hmissing, hwanted⟩
  · rintro ⟨hsame, hmissing, hwanted⟩
    exact ⟨hmissing, ⟨hwanted, hsame ▸ hmissing⟩, hsame⟩

theorem missingVolumes_nodup (hne : c.redirectVolumeName ≠ c.credentialsVolumeName)
    {names : List String} (h : names.Nodup) :
    (names ++ (c.missingVolumes sidecar names).map Volume.name).Nodup :=
  (missingVolumes_nodup_iff h).mpr fun hsame => hne hsame.1

/-- Once the missing volumes are there, none is missing. -/
theorem missingVolumes_complete (names : List String) :
    c.missingVolumes sidecar (names ++ (c.missingVolumes sidecar names).map Volume.name) = [] := by
  unfold missingVolumes
  split_ifs <;> simp_all [redirectVolume, credentialsVolume]

theorem assemble_volumeNames : (c.assemble sidecar p).spec.volumeNames =
    p.spec.volumeNames ++ (c.missingVolumes sidecar p.spec.volumeNames).map Volume.name := by
  simp [assemble, PodSpec.volumeNames]

theorem map_redirect_name (containers : List Container) :
    (containers.map c.redirect).map Container.name = containers.map Container.name := by
  simp

theorem otherInits_names (s : PodSpec) : (c.otherInits s).map Container.name =
    (s.inits.map Container.name).filter (· ≠ c.sidecarName) := by
  rw [otherInits, List.filter_map]
  rfl

theorem extend_containerNames : (p.extend cs ds).spec.containerNames =
    p.spec.inits.map Container.name ++ ds.map Container.name ++
      (p.spec.containers.map Container.name ++ cs.map Container.name) := by
  rw [PodSpec.containerNames, Pod.extend_inits]
  simp [Pod.extend]

theorem containerNames_extend_assemble (hname : sidecar.name = c.sidecarName) :
    ((c.assemble sidecar p).extend cs ds).spec.containerNames =
      c.sidecarName :: (p.spec.inits.map Container.name).filter (· ≠ c.sidecarName) ++
        ds.map Container.name ++ (p.spec.containers.map Container.name ++ cs.map Container.name) := by
  have hcontainers : (c.assemble sidecar p).spec.containers = p.spec.containers.map c.redirect := rfl
  rw [extend_containerNames, assemble_inits, hcontainers, List.map_cons, hname, map_redirect_name,
    map_redirect_name, otherInits_names]

/-- Injection does not change which names of containers occur more than once. -/
theorem one_lt_count_extend_assemble (hvalid : c.validate p.spec = .ok ())
    (hname : sidecar.name = c.sidecarName) (hcs : ∀ x ∈ cs, x.name ≠ c.sidecarName)
    (hds : ∀ x ∈ ds, x.name ≠ c.sidecarName) (n : String) :
    1 < ((c.assemble sidecar p).extend cs ds).spec.containerNames.count n ↔
      1 < (p.extend cs ds).spec.containerNames.count n := by
  obtain ⟨hcontainers, -, hsidecar⟩ := validate_eq_ok_iff.mp hvalid
  rw [containerNames_extend_assemble hname, extend_containerNames]
  simp only [List.cons_append, List.count_append, List.count_cons]
  by_cases hn : n = c.sidecarName
  · -- the sidecar stands once in the injected pod, and at most once in the other
    subst hn
    have hinits := List.nodup_iff_count_le_one.mp hcontainers c.sidecarName
    rw [PodSpec.containerNames, List.map_append, List.count_append] at hinits
    have hothers : (List.filter (· ≠ c.sidecarName) (p.spec.inits.map Container.name)).count
        c.sidecarName = 0 := List.count_eq_zero.mpr (by simp)
    have happs := List.count_eq_zero.mpr hsidecar
    have hcs0 : (cs.map Container.name).count c.sidecarName = 0 :=
      List.count_eq_zero.mpr (by simpa using hcs)
    have hds0 : (ds.map Container.name).count c.sidecarName = 0 :=
      List.count_eq_zero.mpr (by simpa using hds)
    rw [hothers, happs, hcs0, hds0]
    simp only [BEq.rfl, if_true]
    omega
  · have hothers : (List.filter (· ≠ c.sidecarName) (p.spec.inits.map Container.name)).count n =
        (p.spec.inits.map Container.name).count n := List.count_filter (by simpa using hn)
    rw [hothers]
    simp [Ne.symm hn]

theorem validate_extend_assemble (hne : c.redirectVolumeName ≠ c.credentialsVolumeName)
    (hvalid : c.validate p.spec = .ok ()) (hname : sidecar.name = c.sidecarName)
    (hcs : ∀ x ∈ cs, x.name ≠ c.sidecarName) (hds : ∀ x ∈ ds, x.name ≠ c.sidecarName) :
    c.validate ((c.assemble sidecar p).extend cs ds).spec = c.validate (p.extend cs ds).spec := by
  obtain ⟨-, hvolumes, -⟩ := validate_eq_ok_iff.mp hvalid
  apply validate_congr
  · exact one_lt_count_extend_assemble hvalid hname hcs hds
  · intro n
    have hp : (p.extend cs ds).spec.volumeNames.Nodup := hvolumes
    have hq : ((c.assemble sidecar p).extend cs ds).spec.volumeNames.Nodup := by
      change (c.assemble sidecar p).spec.volumeNames.Nodup
      rw [assemble_volumeNames]
      exact missingVolumes_nodup hne hvolumes
    have h1 := List.nodup_iff_count_le_one.mp hp n
    have h2 := List.nodup_iff_count_le_one.mp hq n
    omega
  · simp [Pod.extend, assemble]

/-- The pod that comes out is the same, whether the containers are added before or after. -/
theorem assemble_extend_assemble (hname : sidecar.name = c.sidecarName)
    (hds : ∀ x ∈ ds, x.name ≠ c.sidecarName) :
    c.assemble sidecar ((c.assemble sidecar p).extend cs ds) = c.assemble sidecar (p.extend cs ds) := by
  have hothers : (c.otherInits ((c.assemble sidecar p).extend cs ds).spec).map c.redirect =
      (c.otherInits (p.extend cs ds).spec).map c.redirect := by
    rw [otherInits_extend hds, otherInits_extend hds, otherInits_assemble hname]
    simp
  have hcontainers : ((c.assemble sidecar p).extend cs ds).spec.containers.map c.redirect =
      (p.extend cs ds).spec.containers.map c.redirect := by
    simp [Pod.extend, assemble]
  have hmissing :
      c.missingVolumes sidecar ((c.assemble sidecar p).extend cs ds).spec.volumeNames = [] := by
    change c.missingVolumes sidecar (c.assemble sidecar p).spec.volumeNames = []
    rw [assemble_volumeNames]
    exact missingVolumes_complete _
  conv_lhs => rw [assemble, hothers, hcontainers, hmissing]
  simp [Pod.extend, assemble, PodSpec.volumeNames]

end InjectionConfig

open InjectionConfig in
/-- Injection commutes with adding containers other than the sidecar, in what it returns and in how it
fails. -/
theorem inject_extend {c : InjectionConfig} {p q : Pod} {cs ds : List Container}
    (hne : c.redirectVolumeName ≠ c.credentialsVolumeName) (h : c.inject p = .ok q)
    (hcs : ∀ x ∈ cs, x.name ≠ c.sidecarName) (hds : ∀ x ∈ ds, x.name ≠ c.sidecarName) :
    c.inject (q.extend cs ds) = c.inject (p.extend cs ds) := by
  obtain ⟨hvalid, -, sidecar, hsidecar, rfl⟩ := inject_eq_ok_iff.mp h
  obtain ⟨hname, -⟩ := chooseSidecar_named hsidecar
  rw [inject_eq, inject_eq, validate_extend_assemble hne hvalid hname hcs hds,
    chooseSidecar_extend hds, chooseSidecar_extend hds, chooseSidecar_assemble hsidecar, hsidecar,
    checkPort_extend_assemble hname hds]
  simp only [Except.bind, assemble_extend_assemble hname hds]

theorem inject_of_inject {c : InjectionConfig} {p q : Pod}
    (hne : c.redirectVolumeName ≠ c.credentialsVolumeName) (h : c.inject p = .ok q) :
    c.inject q = .ok q := by
  have hagain : c.inject (q.extend [] []) = c.inject (p.extend [] []) :=
    inject_extend hne h (by simp) (by simp)
  rwa [Pod.extend_nil, Pod.extend_nil, h] at hagain

/-- An injected pod, with or without containers added to it, is injected again as if that were the first
time; the pod itself does not change. The two volumes need different names, and every environment
gives them such names. -/
theorem inject_again (c : InjectionConfig) :
    (∀ env, InjectionConfig.ofEnvironment env = .ok c → c.redirectVolumeName ≠ c.credentialsVolumeName) ∧
    (c.redirectVolumeName ≠ c.credentialsVolumeName → ∀ p q, c.inject p = .ok q →
      (∀ cs ds : List Container, (∀ x ∈ cs, x.name ≠ c.sidecarName) →
        (∀ x ∈ ds, x.name ≠ c.sidecarName) →
        c.inject (q.extend cs ds) = c.inject (p.extend cs ds)) ∧
      c.inject q = .ok q) :=
  ⟨fun _ h => InjectionConfig.volumeNames_ne_of_ofEnvironment h, fun hne _ _ h =>
    ⟨fun _ _ hcs hds => inject_extend hne h hcs hds, inject_of_inject hne h⟩⟩

/-- A configuration that leaves containers without service account mount alone. -/
def sampleConfig : InjectionConfig := { proxyImage := "registry/mca:1", redirectPolicy := .mountedOnly }

/-- A pod that brings its sidecar, without an image and not in front, and that has one redirected
container with a variable given twice. -/
def samplePod : Pod where
  spec := {
    initContainers := some [{ name := "setup" }, { name := "mca-proxy", args := some ["proxy", "-v"] }]
    containers := [{
      name := "app"
      env := some [
        { name := "KUBERNETES_SERVICE_HOST", value := some "10.0.0.1" },
        { name := "MODE", value := some "fast" },
        { name := "KUBERNETES_SERVICE_HOST", valueFrom := some [("fieldRef", .null)] }]
      volumeMounts := some [
        { name := "api", mountPath := "/var/run/secrets/kubernetes.io/serviceaccount" }]
      unknown := [("ports", .null)] }]
    volumes := some [{ name := "api", emptyDir := some [] }] }

open InjectionConfig in
/-- The same variables are set and the same mounts moved in containers that come later. -/
theorem inject_again_sample :
    (sampleConfig.redirectVolumeName ≠ sampleConfig.credentialsVolumeName) ∧
    ∃ q, sampleConfig.inject samplePod = .ok q ∧
      sampleConfig.inject (q.extend [{ name := "late" }] [{ name := "early" }]) =
        sampleConfig.inject (samplePod.extend [{ name := "late" }] [{ name := "early" }]) ∧
      sampleConfig.inject q = .ok q := by
  have hne : sampleConfig.redirectVolumeName ≠ sampleConfig.credentialsVolumeName := by decide
  have h : ∃ q, sampleConfig.inject samplePod = .ok q := ⟨_, inject_of_port (by decide) rfl rfl⟩
  obtain ⟨q, hq⟩ := h
  obtain ⟨hextend, hself⟩ := (inject_again sampleConfig).2 hne samplePod q hq
  exact ⟨hne, q, hq, hextend _ _ (by decide) (by decide), hself⟩

end Sidecar
