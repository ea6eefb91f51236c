import Sidecar.Proofs.Inject.Variables

/-!
Injecting again under another configuration. The endpoint and the policy may change between two passes; what
comes out is what one pass would have made of the first pod, with the new endpoint, and under the policy that
redirects all containers if one of the two passes did.
-/

namespace Sidecar

/-- The policy of two passes together. -/
def RedirectPolicy.join : RedirectPolicy → RedirectPolicy → RedirectPolicy
  | .mountedOnly, .mountedOnly => .mountedOnly
  | _, _ => .always

@[simp] theorem RedirectPolicy.always_join (policy : RedirectPolicy) : always.join policy = always := by
  cases policy <;> rfl

@[simp] theorem RedirectPolicy.join_always (policy : RedirectPolicy) : policy.join always = always := by
  cases policy <;> rfl

@[simp] theorem RedirectPolicy.mountedOnly_join (policy : RedirectPolicy) : mountedOnly.join policy = policy := by
  cases policy <;> rfl

namespace InjectionConfig

variable (c d : InjectionConfig)

/-- Whatever a variable was set to, it is set anew. -/
theorem assignService_assignService (v : EnvVar) : d.assignService (c.assignService v) = d.assignService v := by
  by_cases hhost : v.name = "KUBERNETES_SERVICE_HOST"
  · simp [assignService, EnvVar.assign, hhost]
  · by_cases hport : v.name = "KUBERNETES_SERVICE_PORT" <;>
      simp [assignService, EnvVar.assign, hhost, hport]

theorem map_assignService_serviceVariables :
    c.serviceVariables.map d.assignService = d.serviceVariables := by
  simp [serviceVariables, assignService, EnvVar.assign]

/-- The variables come out as if the first pass had not set them, in the same places. -/
theorem redirectEnv_redirectEnv_eq (env : List EnvVar) :
    d.redirectEnv (c.redirectEnv env) = d.redirectEnv env := by
  have hpresent : d.serviceVariables.filter (·.name ∉ (c.redirectEnv env).map EnvVar.name) = [] := by
    obtain ⟨⟨host, hhost, hhostName⟩, -⟩ := c.variableSet_host env
    obtain ⟨⟨port, hport, hportName⟩, -⟩ := c.variableSet_port env
    have hmem : "KUBERNETES_SERVICE_HOST" ∈ (c.redirectEnv env).map EnvVar.name ∧
        "KUBERNETES_SERVICE_PORT" ∈ (c.redirectEnv env).map EnvVar.name :=
      ⟨hhostName ▸ List.mem_map_of_mem hhost, hportName ▸ List.mem_map_of_mem hport⟩
    rw [List.filter_eq_nil_iff]
    intro v hv
    simp only [serviceVariables, List.mem_cons, List.not_mem_nil, or_false] at hv
    rcases hv with rfl | rfl
    · simpa using hmem.1
    · simpa using hmem.2
  have hkept : (env.map c.assignService).map d.assignService = env.map d.assignService := by
    rw [List.map_map]
    exact List.map_congr_left fun v _ => assignService_assignService c d v
  have hadded : (c.serviceVariables.filter (·.name ∉ env.map EnvVar.name)).map d.assignService =
      d.serviceVariables.filter (·.name ∉ env.map EnvVar.name) := by
    rw [← map_assignService_serviceVariables c d, List.filter_map]
    simp [Function.comp_def, assignService]
  calc d.redirectEnv (c.redirectEnv env)
      = (c.redirectEnv env).map d.assignService := by rw [redirectEnv_eq, hpresent, List.append_nil]
    _ = d.redirectEnv env := by
        rw [c.redirectEnv_eq, List.map_append, hkept, hadded, ← redirectEnv_eq]

variable {c d}

/-- Where the mounts of a container are moved to depends on the path and the name of the volume only. -/
theorem redirectMounts?_congr (hpath : d.serviceAccountPath = c.serviceAccountPath)
    (hname : d.redirectVolumeName = c.redirectVolumeName) (mounts : List VolumeMount) :
    d.redirectMounts? mounts = c.redirectMounts? mounts := by
  induction mounts with
  | nil => rfl
  | cons m rest ih => simp only [redirectMounts?, hpath, hname, ih]

variable (c)

/-- The configuration with another endpoint and policy. -/
def reconfigure (host : String) (port : Int) (policy : RedirectPolicy) : InjectionConfig :=
  { c with serviceHost := host, servicePort := port, redirectPolicy := policy }

variable {host : String} {port : Int} {policy : RedirectPolicy}

/-- Mounts that have been moved once stay where they are, whatever the policy is now. -/
theorem redirectedMounts?_reconfigure {mounts moved : List VolumeMount}
    (hmoved : c.redirectedMounts? mounts = some moved) :
    (c.reconfigure host port policy).redirectedMounts? moved = some moved ∧
      (c.reconfigure host port (c.redirectPolicy.join policy)).redirectedMounts? mounts = some moved := by
  have hmounts (policy : RedirectPolicy) (mounts : List VolumeMount) :
      (c.reconfigure host port policy).redirectMounts? mounts = c.redirectMounts? mounts :=
    redirectMounts?_congr (c := c) (d := c.reconfigure host port policy) rfl rfl mounts
  constructor
  · rw [redirectedMounts?_eq_some_iff, hmounts]
    exact Or.inl (c.redirectMounts?_of_redirectedMounts? hmoved)
  · rw [redirectedMounts?_eq_some_iff, hmounts]
    refine (c.redirectedMounts?_eq_some_iff.mp hmoved).imp_right ?_
    rintro ⟨hpolicy, hnone, hadded⟩
    refine ⟨?_, hnone, hadded⟩
    rw [reconfigure, hpolicy, RedirectPolicy.always_join]

theorem join_of_not_isRedirected {k : Container} (h : ¬c.IsRedirected k) :
    c.redirectPolicy.join policy = policy := by
  have hpolicy : c.redirectPolicy = .mountedOnly := by
    cases hcase : c.redirectPolicy with
    | always => exact absurd (Or.inl hcase) h
    | mountedOnly => rfl
  rw [hpolicy, RedirectPolicy.mountedOnly_join]

/-- A container that was redirected before is redirected again, by its new mounts, whatever the policy is
now; one that was not is treated as for the first time. -/
theorem redirect_reconfigure (k : Container) :
    (c.reconfigure host port policy).redirect (c.redirect k) =
      (c.reconfigure host port (c.redirectPolicy.join policy)).redirect k := by
  rcases c.redirect_cases k with ⟨-, moved, hmoved, hk⟩ | ⟨hnot, hk⟩
  · obtain ⟨hagain, honce⟩ := c.redirectedMounts?_reconfigure hmoved
    rw [hk, redirect, redirect, honce]
    simp only [Option.getD_some, hagain]
    rw [redirectEnv_redirectEnv_eq]
    rfl
  · rw [hk, c.join_of_not_isRedirected hnot]

theorem isSome_redirectedMounts?_reconfigure (k : Container) :
    ((c.reconfigure host port policy).redirectedMounts? ((c.redirect k).volumeMounts.getD [])).isSome =
      ((c.reconfigure host port (c.redirectPolicy.join policy)).redirectedMounts?
        (k.volumeMounts.getD [])).isSome := by
  rcases c.redirect_cases k with ⟨-, moved, hmoved, hk⟩ | ⟨hnot, hk⟩
  · obtain ⟨hagain, honce⟩ := c.redirectedMounts?_reconfigure hmoved
    rw [hk, honce, Option.getD_some, hagain]
  · rw [hk, c.join_of_not_isRedirected hnot]

theorem map_redirect_reconfigure (ks : List Container) :
    (ks.map c.redirect).map (c.reconfigure host port policy).redirect =
      ks.map (c.reconfigure host port (c.redirectPolicy.join policy)).redirect := by
  rw [List.map_map]
  exact List.map_congr_left fun k _ => c.redirect_reconfigure k

theorem assemble_reconfigure {sidecar : Container} {p : Pod} (hname : sidecar.name = c.sidecarName) :
    (c.reconfigure host port policy).assemble sidecar (c.assemble sidecar p) =
      (c.reconfigure host port (c.redirectPolicy.join policy)).assemble sidecar p := by
  have hothers : ((c.reconfigure host port policy).otherInits (c.assemble sidecar p).spec).map
      (c.reconfigure host port policy).redirect =
        (c.otherInits p.spec).map (c.reconfigure host port (c.redirectPolicy.join policy)).redirect := by
    change (c.otherInits (c.assemble sidecar p).spec).map _ = _
    rw [otherInits_assemble hname, map_redirect_reconfigure]
  have hcontainers : (c.assemble sidecar p).spec.containers.map (c.reconfigure host port policy).redirect =
      p.spec.containers.map (c.reconfigure host port (c.redirectPolicy.join policy)).redirect :=
    c.map_redirect_reconfigure p.spec.containers
  have hmissing : (c.reconfigure host port policy).missingVolumes sidecar
      (c.assemble sidecar p).spec.volumeNames = [] := by
    change c.missingVolumes sidecar (c.assemble sidecar p).spec.volumeNames = []
    rw [assemble_volumeNames]
    exact missingVolumes_complete _
  rw [assemble, hothers, hcontainers, hmissing, List.append_nil]
  rfl

theorem checkPort_reconfigure {sidecar : Container} {p : Pod} (hname : sidecar.name = c.sidecarName) :
    (c.reconfigure host port policy).checkPort (c.assemble sidecar p).spec =
      (c.reconfigure host port (c.redirectPolicy.join policy)).checkPort p.spec := by
  have hredirected : (c.reconfigure host port policy).redirected (c.assemble sidecar p).spec =
      ((c.reconfigure host port (c.redirectPolicy.join policy)).redirected p.spec).map c.redirect := by
    change (c.others (c.assemble sidecar p).spec).filter _ = _
    rw [others_assemble hname, List.filter_map]
    simp only [Function.comp_def, isSome_redirectedMounts?_reconfigure]
    rfl
  have hport : (c.reconfigure host port policy).servicePort =
      (c.reconfigure host port (c.redirectPolicy.join policy)).servicePort := rfl
  simp only [checkPort, hredirected, hport, ne_eq, List.map_eq_nil_iff]

/-- Every container but the sidecar has the endpoint if all of them are redirected. -/
theorem variablesSet_of_always (hpolicy : c.redirectPolicy = .always) {p q : Pod} (h : c.inject p = .ok q)
    {k : Container} (hk : k ∈ c.others q.spec) :
    VariableSet "KUBERNETES_SERVICE_HOST" c.serviceHost (k.env.getD []) ∧
      VariableSet "KUBERNETES_SERVICE_PORT" (toString c.servicePort) (k.env.getD []) := by
  obtain ⟨-, -, sidecar, hsidecar, rfl⟩ := inject_eq_ok_iff.mp h
  rw [others_assemble (chooseSidecar_named hsidecar).1] at hk
  obtain ⟨before, -, rfl⟩ := List.mem_map.mp hk
  rcases c.redirect_cases before with ⟨-, mounts, -, hredirect⟩ | ⟨hnot, -⟩
  · rw [hredirect]
    exact ⟨c.variableSet_host _, c.variableSet_port _⟩
  · exact absurd (Or.inl hpolicy) hnot

/-- Injecting an injected pod under another endpoint and policy gives what one injection of the first pod
gives, under the new endpoint and the policies of both. It succeeds if the new port can be written. Once all
containers are redirected they stay so, and have the new endpoint. -/
theorem inject_reconfigure (hne : c.redirectVolumeName ≠ c.credentialsVolumeName) {p q : Pod}
    (h : c.inject p = .ok q) (host : String) (port : Int) (policy : RedirectPolicy) :
    (c.reconfigure host port policy).inject q =
      (c.reconfigure host port (c.redirectPolicy.join policy)).inject p ∧
    ((∃ text, Literal.integer? port = some text) → ∃ q', (c.reconfigure host port policy).inject q = .ok q') ∧
    ∀ q', (c.reconfigure host port policy).inject q = .ok q' →
      (c.redirectPolicy = .always ∨ policy = .always → ∀ k ∈ c.others q'.spec,
        VariableSet "KUBERNETES_SERVICE_HOST" host (k.env.getD []) ∧
        VariableSet "KUBERNETES_SERVICE_PORT" (toString port) (k.env.getD [])) := by
  obtain ⟨hvalid, -, sidecar, hsidecar, rfl⟩ := inject_eq_ok_iff.mp h
  have hname := (chooseSidecar_named hsidecar).1
  -- the checks of names and the choice of the sidecar read neither the endpoint nor the policy
  have hvalidAgain : (c.reconfigure host port policy).validate (c.assemble sidecar p).spec = .ok () :=
    (inject_eq_ok_iff.mp (inject_of_inject hne h)).1
  have hvalidOnce (policy : RedirectPolicy) : (c.reconfigure host port policy).validate p.spec = .ok () :=
    hvalid
  have hchooseAgain : (c.reconfigure host port policy).chooseSidecar (c.assemble sidecar p).spec =
      .ok sidecar := chooseSidecar_assemble hsidecar
  have hchooseOnce (policy : RedirectPolicy) :
      (c.reconfigure host port policy).chooseSidecar p.spec = .ok sidecar := hsidecar
  have hsame : (c.reconfigure host port policy).inject (c.assemble sidecar p) =
      (c.reconfigure host port (c.redirectPolicy.join policy)).inject p := by
    rw [inject_eq, inject_eq, hvalidAgain, hvalidOnce, hchooseAgain, hchooseOnce]
    simp only [Except.bind, c.checkPort_reconfigure hname, c.assemble_reconfigure hname]
  refine ⟨hsame, ?_, ?_⟩
  · intro hprintable
    exact ⟨_, inject_eq_ok_iff.mpr
      ⟨hvalidAgain, checkPort_eq_ok_iff.mpr (Or.inr hprintable), sidecar, hchooseAgain, rfl⟩⟩
  · intro q' hq' hpolicy k hk
    have halways : c.redirectPolicy.join policy = .always := by
      rcases hpolicy with hfirst | hsecond
      · rw [hfirst, RedirectPolicy.always_join]
      · rw [hsecond, RedirectPolicy.join_always]
    exact variablesSet_of_always _ halways (hsame.symm.trans hq') hk

/-- After a pass that redirects every container, one that looks for mounts finds them everywhere. -/
theorem inject_reconfigure_sample :
    let c : InjectionConfig := { proxyImage := "mca" }
    c.redirectVolumeName ≠ c.credentialsVolumeName ∧ ∃ q q', c.inject samplePod = .ok q ∧
      (c.reconfigure "10.0.0.9" 7000 .mountedOnly).inject q = .ok q' ∧
      (c.reconfigure "10.0.0.9" 7000 .always).inject samplePod = .ok q' ∧
      ∀ k ∈ c.others q'.spec, VariableSet "KUBERNETES_SERVICE_HOST" "10.0.0.9" (k.env.getD []) := by
  intro c
  have hne : c.redirectVolumeName ≠ c.credentialsVolumeName := by decide
  obtain ⟨q, hq⟩ : ∃ q, c.inject samplePod = .ok q := ⟨_, inject_of_port (by decide) rfl rfl⟩
  obtain ⟨hsame, hok, hset⟩ := inject_reconfigure c hne hq "10.0.0.9" 7000 .mountedOnly
  obtain ⟨q', hq'⟩ := hok ⟨"7000", by decide +kernel⟩
  exact ⟨hne, q, q', hq, hq', hsame.symm.trans hq', fun k hk => (hset q' hq' (Or.inl rfl) k hk).1⟩

end InjectionConfig

end Sidecar
