import Mathlib.Data.List.Forall2
import Sidecar.Proofs.Inject.Reinvocation

/-!
What injection leaves alone. Containers keep their order and everything but their mounts and variables,
of the mounts one is moved or added, and outside of its containers, its volumes and the mount of its
token the pod stays as it is.
-/

namespace Sidecar.InjectionConfig

variable (c : InjectionConfig)

/-- The mounts of a container, and those it has once it is redirected. Its first mount at the service
account path is named for the redirect volume, or there was none and the policy wants one. -/
inductive MountsMoved : Option (List VolumeMount) → List VolumeMount → Prop
  | renamed {front back : List VolumeMount} {m : VolumeMount}
      (hfront : ∀ x ∈ front, x.mountPath ≠ c.serviceAccountPath) (hm : m.mountPath = c.serviceAccountPath) :
      MountsMoved (some (front ++ m :: back)) (front ++ { m with name := c.redirectVolumeName } :: back)
  | added {mounts : Option (List VolumeMount)} (hpolicy : c.redirectPolicy = .always)
      (hmounts : ∀ m ∈ mounts.getD [], m.mountPath ≠ c.serviceAccountPath) :
      MountsMoved mounts (mounts.getD [] ++ [
        { name := c.redirectVolumeName, mountPath := c.serviceAccountPath, readOnly := some true }])

/-- A container other than the sidecar, and what has become of it in the injected pod. -/
inductive ContainerKept (k : Container) : Container → Prop
  | redirected {mounts : List VolumeMount} {env : Option (List EnvVar)}
      (hmounts : c.MountsMoved k.volumeMounts mounts) :
      ContainerKept k { k with volumeMounts := some mounts, env := env }
  | untouched (hpolicy : c.redirectPolicy = .mountedOnly)
      (hmounts : ∀ m ∈ k.volumeMounts.getD [], m.mountPath ≠ c.serviceAccountPath) : ContainerKept k k

/-- The sidecar for a pod: the one it brings, with the configured image if it has none, or the default. -/
structure SidecarOf (s : PodSpec) (sidecar : Container) : Prop where
  name : sidecar.name = c.sidecarName
  own : ∀ own ∈ s.inits, own.name = c.sidecarName →
    sidecar = { own with image := if own.image.getD "" = "" then some c.proxyImage else own.image }
  default : (∀ k ∈ s.inits, k.name ≠ c.sidecarName) → sidecar = c.sidecar

/-- A pod and the injected pod: what is where, and that nothing else is different. -/
structure Framed (p q : Pod) : Prop where
  inits : ∃ sidecar others, q.spec.initContainers = some (sidecar :: others) ∧ c.SidecarOf p.spec sidecar ∧
    List.Forall₂ c.ContainerKept (p.spec.inits.filter (·.name ≠ c.sidecarName)) others
  containers : List.Forall₂ c.ContainerKept p.spec.containers q.spec.containers
  rest : q = { p with
    spec := { p.spec with
      initContainers := q.spec.initContainers
      containers := q.spec.containers
      volumes := q.spec.volumes
      automountServiceAccountToken := some false } }

variable {c}

theorem mountsMoved_of_redirectedMounts? {mounts : Option (List VolumeMount)} {moved : List VolumeMount}
    (h : c.redirectedMounts? (mounts.getD []) = some moved) : c.MountsMoved mounts moved := by
  rcases c.redirectedMounts?_eq_some_iff.mp h with hfirst | ⟨hpolicy, hmounts, rfl⟩
  · obtain ⟨front, m, back, hfront, hm, hbefore, rfl⟩ := c.redirectMounts?_eq_some_iff.mp hfirst
    cases mounts with
    | none => simp at hbefore
    | some mounts =>
      obtain rfl : mounts = front ++ m :: back := hbefore
      exact MountsMoved.renamed hfront hm
  · exact MountsMoved.added hpolicy hmounts

theorem containerKept_redirect (k : Container) : c.ContainerKept k (c.redirect k) := by
  cases h : c.redirectedMounts? (k.volumeMounts.getD []) with
  | none =>
    obtain ⟨hpolicy, hmounts⟩ := c.redirectedMounts?_eq_none_iff.mp h
    have hsame : c.redirect k = k := by rw [redirect, h]
    rw [hsame]
    exact ContainerKept.untouched hpolicy hmounts
  | some moved =>
    rw [redirect, h]
    exact ContainerKept.redirected (mountsMoved_of_redirectedMounts? h)

theorem containersKept_map_redirect (ks : List Container) :
    List.Forall₂ c.ContainerKept ks (ks.map c.redirect) := by
  rw [List.forall₂_map_right_iff, List.forall₂_same]
  intro k _
  exact containerKept_redirect k

theorem sidecarOf_chooseSidecar {s : PodSpec} {sidecar : Container} (hvalid : c.validate s = .ok ())
    (h : c.chooseSidecar s = .ok sidecar) : c.SidecarOf s sidecar := by
  refine ⟨(chooseSidecar_named h).1, ?_, ?_⟩
  · intro own hown hname
    obtain ⟨hnodup, -, -⟩ := validate_eq_ok_iff.mp hvalid
    have hfind := find?_inits_of_nodup hnodup hown hname
    rcases chooseSidecar_eq_ok_iff.mp h with ⟨first, hfirst, hcases⟩ | ⟨hnone, -⟩
    · obtain rfl := Option.some.inj (hfind.symm.trans hfirst)
      rcases hcases with ⟨himage, rfl⟩ | ⟨himage, -, rfl⟩
      · rw [if_neg himage]
      · rw [if_pos himage]
    · rw [hfind] at hnone
      nomatch hnone
  · exact chooseSidecar_default h

/-- Injection reorders, drops and repeats no container, and changes nothing but the sidecar's missing image,
mounts and variables of the other containers, the volumes and the mount of the token. -/
theorem framed_of_inject {p q : Pod} (h : c.inject p = .ok q) : c.Framed p q := by
  obtain ⟨hvalid, -, sidecar, hsidecar, rfl⟩ := inject_eq_ok_iff.mp h
  refine ⟨?_, containersKept_map_redirect p.spec.containers, rfl⟩
  exact ⟨sidecar, (c.otherInits p.spec).map c.redirect, rfl, sidecarOf_chooseSidecar hvalid hsidecar,
    containersKept_map_redirect (c.otherInits p.spec)⟩

theorem framed_of_inject_sample : ∃ q, sampleConfig.inject samplePod = .ok q ∧
    sampleConfig.Framed samplePod q :=
  have hinject : sampleConfig.inject samplePod = .ok _ := inject_of_port (by decide) rfl rfl
  ⟨_, hinject, framed_of_inject hinject⟩

end Sidecar.InjectionConfig
