import Sidecar.Proofs.Inject.Outcome
import Sidecar.Proofs.Pod.Objects

/-!
Injection does not look into unknown entries and free objects: it commutes with every change of them that
leaves alone what it adds.
-/

namespace Sidecar

/-- What injection adds to a pod is left alone. -/
structure ObjectMap.Keeps (F : ObjectMap) (c : InjectionConfig) : Prop where
  nil : F.unknown [] = []
  sidecar : c.sidecar.mapObjects F = c.sidecar
  redirectVolume : c.redirectVolume.mapObjects F = c.redirectVolume
  credentialsVolume : c.credentialsVolume.mapObjects F = c.credentialsVolume

theorem ObjectMap.keeps_dropNulls (c : InjectionConfig) : dropNulls.Keeps c := ⟨rfl, rfl, rfl, rfl⟩

variable {F : ObjectMap}

theorem setVariable_mapObjects (hnil : F.unknown [] = []) (name value : String) (env : List EnvVar) :
    setVariable name value (env.map (EnvVar.mapObjects F)) =
      (setVariable name value env).map (EnvVar.mapObjects F) := by
  have hany : (env.map (EnvVar.mapObjects F)).any (·.name = name) = env.any (·.name = name) := by
    rw [List.any_map]
    rfl
  unfold setVariable
  rw [hany]
  split_ifs
  · rw [List.map_map, List.map_map]
    refine List.map_congr_left fun v _ => ?_
    by_cases hname : v.name = name <;> simp [EnvVar.mapObjects, hname]
  · simp [EnvVar.mapObjects, hnil]

namespace PodSpec

theorem mapObjects_inits (s : PodSpec) :
    (s.mapObjects F).inits = s.inits.map (Container.mapObjects F) := by
  unfold inits mapObjects
  cases s.initContainers <;> rfl

theorem map_mapObjects_name (cs : List Container) :
    (cs.map (Container.mapObjects F)).map Container.name = cs.map Container.name := by
  simp

theorem mapObjects_containerNames (s : PodSpec) : (s.mapObjects F).containerNames = s.containerNames := by
  rw [containerNames, containerNames, mapObjects_inits, List.map_append, List.map_append,
    map_mapObjects_name]
  exact congrArg (_ ++ ·) (map_mapObjects_name s.containers)

theorem mapObjects_volumeNames (s : PodSpec) : (s.mapObjects F).volumeNames = s.volumeNames := by
  unfold volumeNames mapObjects
  cases s.volumes with
  | none => rfl
  | some volumes =>
    simp only [Option.map_some, Option.getD_some, List.map_map]
    rfl

end PodSpec

namespace InjectionConfig

variable {c : InjectionConfig}

theorem validate_mapObjects (s : PodSpec) : c.validate (s.mapObjects F) = c.validate s := by
  have hnames : (s.mapObjects F).containers.map Container.name = s.containers.map Container.name :=
    PodSpec.map_mapObjects_name s.containers
  unfold validate
  rw [PodSpec.mapObjects_containerNames, PodSpec.mapObjects_volumeNames, hnames]

theorem chooseSidecar_mapObjects (hF : F.Keeps c) (s : PodSpec) :
    c.chooseSidecar (s.mapObjects F) = (c.chooseSidecar s).map (Container.mapObjects F) := by
  unfold chooseSidecar
  rw [PodSpec.mapObjects_inits, List.find?_map]
  have hname : (fun x : Container => decide (x.name = c.sidecarName)) ∘ Container.mapObjects F =
      fun x => decide (x.name = c.sidecarName) := rfl
  rw [hname]
  cases s.inits.find? (·.name = c.sidecarName) with
  | none =>
    simp only [Option.map_none]
    split_ifs
    · rfl
    · exact congrArg Except.ok hF.sidecar.symm
  | some own =>
    have himage : (own.mapObjects F).image = own.image := rfl
    simp only [Option.map_some, himage]
    split_ifs <;> rfl

theorem redirectMounts?_mapObjects (mounts : List VolumeMount) :
    c.redirectMounts? (mounts.map (VolumeMount.mapObjects F)) =
      (c.redirectMounts? mounts).map (·.map (VolumeMount.mapObjects F)) := by
  induction mounts with
  | nil => rfl
  | cons m rest ih =>
    rw [List.map_cons, redirectMounts?, redirectMounts?, VolumeMount.mapObjects_mountPath, ih]
    split_ifs
    · rfl
    · cases c.redirectMounts? rest <;> rfl

theorem redirectedMounts?_mapObjects (hnil : F.unknown [] = []) (mounts : List VolumeMount) :
    c.redirectedMounts? (mounts.map (VolumeMount.mapObjects F)) =
      (c.redirectedMounts? mounts).map (·.map (VolumeMount.mapObjects F)) := by
  unfold redirectedMounts?
  rw [redirectMounts?_mapObjects]
  cases c.redirectMounts? mounts with
  | some moved => rfl
  | none =>
    cases c.redirectPolicy with
    | mountedOnly => rfl
    | always => simp [VolumeMount.mapObjects, redirectMount, hnil]

theorem mapObjects_mounts (container : Container) : (container.mapObjects F).volumeMounts.getD [] =
    (container.volumeMounts.getD []).map (VolumeMount.mapObjects F) := by
  unfold Container.mapObjects
  cases container.volumeMounts <;> rfl

theorem redirect_mapObjects (hnil : F.unknown [] = []) (container : Container) :
    c.redirect (container.mapObjects F) = (c.redirect container).mapObjects F := by
  have henv : (container.mapObjects F).env.getD [] =
      (container.env.getD []).map (EnvVar.mapObjects F) := by
    unfold Container.mapObjects
    cases container.env <;> rfl
  unfold redirect
  rw [mapObjects_mounts, redirectedMounts?_mapObjects hnil]
  cases c.redirectedMounts? (container.volumeMounts.getD []) with
  | none => rfl
  | some moved =>
    simp only [Option.map_some, henv, redirectEnv, setVariable_mapObjects hnil]
    rfl

theorem otherInits_mapObjects (s : PodSpec) :
    c.otherInits (s.mapObjects F) = (c.otherInits s).map (Container.mapObjects F) := by
  rw [otherInits, PodSpec.mapObjects_inits, List.filter_map]
  rfl

theorem checkPort_mapObjects (hnil : F.unknown [] = []) (s : PodSpec) :
    c.checkPort (s.mapObjects F) = c.checkPort s := by
  have hcontainers : (s.mapObjects F).containers = s.containers.map (Container.mapObjects F) := rfl
  have hredirected : c.redirected (s.mapObjects F) = (c.redirected s).map (Container.mapObjects F) := by
    rw [redirected, others, otherInits_mapObjects, hcontainers, ← List.map_append, List.filter_map]
    simp only [Function.comp_def, mapObjects_mounts, redirectedMounts?_mapObjects hnil,
      Option.isSome_map]
    rfl
  apply checkPort_congr
  rw [hredirected, List.map_eq_nil_iff]

theorem missingVolumes_mapObjects (hF : F.Keeps c) (sidecar : Container) (names : List String) :
    c.missingVolumes (sidecar.mapObjects F) names =
      (c.missingVolumes sidecar names).map (Volume.mapObjects F) := by
  have hmounts : ((sidecar.mapObjects F).volumeMounts.getD []).map VolumeMount.name =
      (sidecar.volumeMounts.getD []).map VolumeMount.name := by
    rw [mapObjects_mounts, List.map_map]
    rfl
  unfold missingVolumes
  rw [hmounts]
  split_ifs <;> simp [hF.redirectVolume, hF.credentialsVolume]

theorem assemble_mapObjects (hF : F.Keeps c) (sidecar : Container) (p : Pod) :
    c.assemble (sidecar.mapObjects F) { p with spec := p.spec.mapObjects F } =
      { c.assemble sidecar p with spec := (c.assemble sidecar p).spec.mapObjects F } := by
  have hvolumes : (p.spec.mapObjects F).volumes.getD [] =
      (p.spec.volumes.getD []).map (Volume.mapObjects F) := by
    unfold PodSpec.mapObjects
    cases p.spec.volumes <;> rfl
  have hcontainers : (p.spec.mapObjects F).containers = p.spec.containers.map (Container.mapObjects F) :=
    rfl
  have hredirect (cs : List Container) : (cs.map (Container.mapObjects F)).map c.redirect =
      (cs.map c.redirect).map (Container.mapObjects F) := by
    simp [redirect_mapObjects hF.nil]
  unfold assemble
  simp only [otherInits_mapObjects, hvolumes, hcontainers, hredirect, missingVolumes_mapObjects hF,
    PodSpec.mapObjects_volumeNames, ← List.map_cons, ← List.map_append]
  rfl

theorem inject_mapObjects (hF : F.Keeps c) (p : Pod) :
    c.inject { p with spec := p.spec.mapObjects F } =
      (c.inject p).map fun q => { q with spec := q.spec.mapObjects F } := by
  rw [inject_eq, inject_eq]
  simp only [validate_mapObjects, chooseSidecar_mapObjects hF, checkPort_mapObjects hF.nil]
  cases c.validate p.spec with
  | error e => rfl
  | ok _ =>
    cases c.chooseSidecar p.spec with
    | error e => rfl
    | ok sidecar =>
      simp only [Except.bind, Except.map, assemble_mapObjects hF]
      cases c.checkPort p.spec <;> rfl

end InjectionConfig

end Sidecar
