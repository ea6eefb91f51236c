import Sidecar.Proofs.Inject.Reinvocation

/-!
Which volumes the containers of an injected pod find at the service account path. Only the first mount
there is moved to the redirect volume, so a container is kept from the real credentials exactly when its
other mounts there, if it has any, were of the redirect volume already.
-/

namespace Sidecar.InjectionConfig

variable (c : InjectionConfig)

/-- The mounts at the service account path, in their order. -/
def accountMounts (mounts : List VolumeMount) : List VolumeMount :=
  mounts.filter (·.mountPath = c.serviceAccountPath)

/-- At the service account path, a container has no volume but the redirect volume. -/
def Isolated (k : Container) : Prop :=
  ∀ m ∈ k.volumeMounts.getD [], m.mountPath = c.serviceAccountPath → m.name = c.redirectVolumeName

theorem isolated_iff_accountMounts (k : Container) :
    c.Isolated k ↔ ∀ m ∈ c.accountMounts (k.volumeMounts.getD []), m.name = c.redirectVolumeName := by
  simp [Isolated, accountMounts, List.mem_filter]

variable {c}

theorem accountMounts_eq_nil {mounts : List VolumeMount}
    (h : ∀ m ∈ mounts, m.mountPath ≠ c.serviceAccountPath) : c.accountMounts mounts = [] := by
  simpa [accountMounts, List.filter_eq_nil_iff] using h

theorem accountMounts_append (mounts others : List VolumeMount) :
    c.accountMounts (mounts ++ others) = c.accountMounts mounts ++ c.accountMounts others :=
  List.filter_append ..

theorem accountMounts_cons {m : VolumeMount} (h : m.mountPath = c.serviceAccountPath)
    (mounts : List VolumeMount) : c.accountMounts (m :: mounts) = m :: c.accountMounts mounts :=
  List.filter_cons_of_pos (by simpa using h)

/-- What a container has at the path once it is redirected: the redirect volume first, and then what it
had there after its first mount. Under a policy that leaves it alone it has nothing there. -/
theorem accountMounts_redirect (k : Container) :
    let mounts := c.accountMounts (k.volumeMounts.getD [])
    let redirected := c.accountMounts ((c.redirect k).volumeMounts.getD [])
    (∃ m, m.name = c.redirectVolumeName ∧ redirected = m :: mounts.tail) ∨
      c.redirectPolicy = .mountedOnly ∧ mounts = [] ∧ redirected = [] := by
  intro mounts redirected
  cases hmoved : c.redirectedMounts? (k.volumeMounts.getD []) with
  | none =>
    obtain ⟨hpolicy, hmounts⟩ := c.redirectedMounts?_eq_none_iff.mp hmoved
    have hsame : c.redirect k = k := by rw [redirect, hmoved]
    refine Or.inr ⟨hpolicy, accountMounts_eq_nil hmounts, ?_⟩
    simp only [redirected, hsame, accountMounts_eq_nil hmounts]
  | some moved =>
    have hredirected : redirected = c.accountMounts moved := by
      simp only [redirected, redirect, hmoved, Option.getD_some]
    refine Or.inl ?_
    rcases c.redirectedMounts?_eq_some_iff.mp hmoved with hfirst | ⟨-, hmounts, rfl⟩
    · obtain ⟨front, m, back, hfront, hm, hbefore, rfl⟩ := c.redirectMounts?_eq_some_iff.mp hfirst
      refine ⟨{ m with name := c.redirectVolumeName }, rfl, ?_⟩
      simp only [hredirected, mounts, hbefore, accountMounts_append, accountMounts_eq_nil hfront,
        List.nil_append]
      rw [accountMounts_cons (by exact hm), accountMounts_cons hm, List.tail_cons]
    · refine ⟨c.redirectMount, rfl, ?_⟩
      simp only [hredirected, mounts, accountMounts_append, accountMounts_eq_nil hmounts,
        List.nil_append, List.tail_nil]
      exact accountMounts_cons rfl []

/-- A redirected container is isolated as far as its later mounts at the path let it be. -/
theorem isolated_redirect_iff (k : Container) : c.Isolated (c.redirect k) ↔
    ∀ m ∈ (c.accountMounts (k.volumeMounts.getD [])).tail, m.name = c.redirectVolumeName := by
  rw [isolated_iff_accountMounts]
  rcases accountMounts_redirect (c := c) k with ⟨m, hm, hredirected⟩ | ⟨-, hmounts, hredirected⟩
  · rw [hredirected]
    simp [hm]
  · rw [hredirected, hmounts]
    simp

/-- In an injected pod, the containers other than the sidecar are kept from all volumes but the redirect
volume exactly when none of them had another volume after its first one at the service account path.
Under the policy that redirects all of them, each has the redirect volume there. -/
theorem isolated_iff {p q : Pod} (h : c.inject p = .ok q) :
    ((∀ k ∈ c.others q.spec, c.Isolated k) ↔ ∀ k ∈ c.others p.spec,
      ∀ m ∈ (c.accountMounts (k.volumeMounts.getD [])).tail, m.name = c.redirectVolumeName) ∧
    (c.redirectPolicy = .always → ∀ k ∈ c.others q.spec,
      ∃ m ∈ k.volumeMounts.getD [], m.mountPath = c.serviceAccountPath ∧ m.name = c.redirectVolumeName) := by
  obtain ⟨-, -, sidecar, hsidecar, rfl⟩ := inject_eq_ok_iff.mp h
  rw [others_assemble (chooseSidecar_named hsidecar).1]
  constructor
  · rw [List.forall_mem_map]
    simp only [isolated_redirect_iff]
  · intro hpolicy k' hk'
    obtain ⟨k, -, rfl⟩ := List.mem_map.mp hk'
    rcases accountMounts_redirect (c := c) k with ⟨m, hm, hredirected⟩ | ⟨hmounted, -⟩
    · have hmem : m ∈ c.accountMounts ((c.redirect k).volumeMounts.getD []) := by simp [hredirected]
      obtain ⟨hmounts, hpath⟩ := List.mem_filter.mp hmem
      exact ⟨m, hmounts, by simpa using hpath, hm⟩
    · rw [hpolicy] at hmounted
      nomatch hmounted

/-- A pod with a container that mounts volumes at the default path of its token. -/
def tokenPod (volumes : List String) : Pod := { spec := { containers := [{
  name := "app"
  volumeMounts := some (volumes.map fun name =>
    { name, mountPath := "/var/run/secrets/kubernetes.io/serviceaccount" }) }] } }

/-- A second mount at the path does no harm if it is of the redirect volume already. -/
theorem isolated_iff_sample :
    ∃ q, inject { proxyImage := "mca" } (tokenPod ["token", "kube-api-access-mca-sa"]) = .ok q ∧
      ∀ k ∈ others { proxyImage := "mca" } q.spec, Isolated { proxyImage := "mca" } k := by
  have hinject : inject { proxyImage := "mca" } (tokenPod ["token", "kube-api-access-mca-sa"]) = .ok _ :=
    inject_of_port (by decide) rfl rfl
  refine ⟨_, hinject, (isolated_iff hinject).1.mpr ?_⟩
  decide

/-- A second volume at the same path stays where it is. -/
theorem not_isolated_of_second_mount :
    ∃ q, inject { proxyImage := "mca" } (tokenPod ["token", "kube-api-access"]) = .ok q ∧
      ¬∀ k ∈ others { proxyImage := "mca" } q.spec, Isolated { proxyImage := "mca" } k := by
  refine ⟨_, inject_of_port (by decide) rfl rfl, ?_⟩
  unfold Isolated
  decide

end Sidecar.InjectionConfig
