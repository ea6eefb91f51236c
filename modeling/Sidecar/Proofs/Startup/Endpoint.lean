import Sidecar.Proofs.Certificate.Bundle
import Sidecar.Proofs.Config.Environment
import Sidecar.Proofs.Inject.Reinvocation
import Sidecar.Proofs.Json.Document
import Sidecar.Startup

/-!
Where the containers of an injected pod are sent, and where its sidecar serves. The containers follow the
configuration of the injector, while the sidecar takes its settings from the environment that it is
given in the pod.
-/

namespace Sidecar

/-- The variables of a container that have a value of their own. The last one of a name counts. -/
def Container.environment (k : Container) : Environment :=
  (k.env.getD []).reverse.filterMap fun var => var.value.map (var.name, ·)

/-- The host of a service is among the names that its certificate is for. -/
def Service.Named (s : Service) : Prop :=
  .dns s.host ∈ s.bundle.certificate.altNames ∨
    ∃ a, IpAddress.ofText? s.host = some a ∧ .ip a ∈ s.bundle.certificate.altNames

/-- The variables that Kubernetes clients read lead to the service. -/
def Service.Reached (s : Service) (k : Container) : Prop :=
  VariableSet "KUBERNETES_SERVICE_HOST" s.host (k.env.getD []) ∧
    VariableSet "KUBERNETES_SERVICE_PORT" (toString s.port) (k.env.getD [])

/-- Every service that the sidecar of a pod starts with its own settings has a certificate for its host,
and is the one that all redirected containers are sent to. -/
def ServesRedirected (c : InjectionConfig) (q : Pod) : Prop :=
  ∃ sidecar settings, q.spec.inits.find? (·.name = c.sidecarName) = some sidecar ∧
    Settings.ofEnvironment sidecar.environment = .ok settings ∧
    ∀ given lookup tree service, (Startup.proxy settings given lookup tree).result = .ok service →
      service.Named ∧ ∀ k ∈ c.redirected q.spec, service.Reached k

/-- A proxy that has started listens where its settings say, with a certificate for this machine. -/
theorem Startup.proxy_eq_ok {s : Settings} {given : Option (List UInt8)} {lookup : Lookup} {t : FileTree}
    {service : Service} (h : (proxy s given lookup t).result = .ok service) :
    service.host = s.injection.serviceHost ∧ service.port = s.injection.servicePort ∧
      service.bundle.certificate.altNames = proxyDnsNames.map .dns ++ proxyAddresses.map .ip := by
  unfold proxy at h
  cases hbundle : CertificateBundle.generate proxyDnsNames proxyAddresses with
  | error e => simp [hbundle] at h
  | ok bundle =>
    simp only [hbundle] at h
    split at h
    · cases h
    · split at h
      · cases h
      · split at h
        · cases h
        · obtain rfl := Except.ok.inj h
          exact ⟨rfl, rfl, CertificateBundle.altNames_generate hbundle⟩

theorem Startup.proxy_named {s : Settings} {given : Option (List UInt8)} {lookup : Lookup} {t : FileTree}
    {service : Service} (h : (proxy s given lookup t).result = .ok service)
    (hhost : service.host = "127.0.0.1") : service.Named := by
  have hread : IpAddress.ofText? "127.0.0.1" = some IpAddress.loopback := by decide +kernel
  right
  refine ⟨IpAddress.loopback, by rw [hhost, hread], ?_⟩
  rw [(proxy_eq_ok h).2.2]
  decide

/-- With the default settings the proxy can start. -/
theorem Startup.proxy_starts :
    ∃ given lookup tree service, (proxy {} given lookup tree).result = .ok service := by
  let lookup : Lookup := fun _ _ => ⟨.ok { host := "https://10.0.0.1:443", verifyTls := false }, []⟩
  have hstarts : (proxy {} (some (Utf8.encode "default")) lookup {}).result.toOption.isSome := by
    decide +kernel
  cases hresult : (proxy {} (some (Utf8.encode "default")) lookup {}).result with
  | error e => simp [hresult, Except.toOption] at hstarts
  | ok service => exact ⟨_, _, _, service, hresult⟩

theorem VariableSet.eq {name value other : String} {env : List EnvVar} (h : VariableSet name value env)
    (hother : VariableSet name other env) : value = other := by
  obtain ⟨⟨v, hv, hname⟩, hall⟩ := h
  have hvalue := (hall v hv hname).1
  rw [(hother.2 v hv hname).1] at hvalue
  exact (Option.some.inj hvalue).symm

namespace InjectionConfig

variable {c : InjectionConfig} {p q : Pod}

/-- The default sidecar is given no setting. -/
theorem sidecar_settings (c : InjectionConfig) :
    Settings.ofEnvironment c.sidecar.environment = .ok {} := rfl

theorem redirected_assemble {sidecar : Container} (hname : sidecar.name = c.sidecarName) :
    c.redirected (c.assemble sidecar p).spec = (c.redirected p.spec).map c.redirect := by
  rw [map_redirect_redirected, redirected, others_assemble hname]

/-- A redirected container reaches a service if and only if the configuration has its host and port. -/
theorem reached_redirect_iff {k : Container} {service : Service}
    (h : (c.redirectedMounts? (k.volumeMounts.getD [])).isSome) :
    service.Reached (c.redirect k) ↔ c.serviceHost = service.host ∧ c.servicePort = service.port := by
  obtain ⟨mounts, hmounts⟩ := Option.isSome_iff_exists.mp h
  have henv : (c.redirect k).env.getD [] = c.redirectEnv (k.env.getD []) := by simp [redirect, hmounts]
  rw [Service.Reached, henv]
  constructor
  · rintro ⟨hhost, hport⟩
    have htext : toString c.servicePort = toString service.port := (c.variableSet_port _).eq hport
    exact ⟨(c.variableSet_host _).eq hhost, Json.toString_int_injective htext⟩
  · rintro ⟨hhost, hport⟩
    rw [← hhost, ← hport]
    exact ⟨c.variableSet_host _, c.variableSet_port _⟩

/-- All redirected containers reach a service, if there are any, when the configuration leads to it. -/
theorem redirected_reached_iff {sidecar : Container} (hname : sidecar.name = c.sidecarName)
    (service : Service) :
    (∀ k ∈ c.redirected (c.assemble sidecar p).spec, service.Reached k) ↔
      c.redirected p.spec = [] ∨ c.serviceHost = service.host ∧ c.servicePort = service.port := by
  have hreached {k : Container} (hk : k ∈ c.redirected p.spec) :
      service.Reached (c.redirect k) ↔ c.serviceHost = service.host ∧ c.servicePort = service.port :=
    reached_redirect_iff (List.mem_filter.mp hk).2
  rw [redirected_assemble hname]
  constructor
  · intro hall
    cases hredirected : c.redirected p.spec with
    | nil => exact Or.inl rfl
    | cons k rest =>
      have hk : k ∈ c.redirected p.spec := by simp [hredirected]
      exact Or.inr ((hreached hk).mp (hall _ (List.mem_map_of_mem hk)))
  · intro hcond k' hk'
    obtain ⟨k, hk, rfl⟩ := List.mem_map.mp hk'
    rcases hcond with hnil | hsame
    · simp [hnil] at hk
    · exact (hreached hk).mpr hsame

end InjectionConfig

open InjectionConfig in
/-- The sidecar that injection adds serves at the defaults, so these are what the configuration must have
as soon as a container is redirected. -/
theorem servesRedirected_iff {c : InjectionConfig} {p q : Pod} (h : c.inject p = .ok q)
    (hown : ∀ k ∈ p.spec.inits, k.name ≠ c.sidecarName) :
    ServesRedirected c q ↔
      c.redirected p.spec = [] ∨ c.serviceHost = "127.0.0.1" ∧ c.servicePort = 6443 := by
  obtain ⟨-, -, sidecar, hsidecar, rfl⟩ := inject_eq_ok_iff.mp h
  obtain rfl := chooseSidecar_default hsidecar hown
  have hname : c.sidecar.name = c.sidecarName := rfl
  have hfind : (c.assemble c.sidecar p).spec.inits.find? (·.name = c.sidecarName) = some c.sidecar := by
    simp [hname]
  constructor
  · rintro ⟨sidecar, settings, hsome, hsettings, hserves⟩
    obtain rfl := Option.some.inj (hfind.symm.trans hsome)
    obtain rfl := Except.ok.inj ((sidecar_settings c).symm.trans hsettings)
    obtain ⟨given, lookup, tree, service, hservice⟩ := Startup.proxy_starts
    obtain ⟨hhost, hport, -⟩ := Startup.proxy_eq_ok hservice
    have hall := (hserves given lookup tree service hservice).2
    rwa [redirected_reached_iff hname, hhost, hport] at hall
  · intro hcond
    refine ⟨c.sidecar, {}, hfind, sidecar_settings c, ?_⟩
    intro given lookup tree service hservice
    obtain ⟨hhost, hport, -⟩ := Startup.proxy_eq_ok hservice
    refine ⟨Startup.proxy_named hservice hhost, ?_⟩
    rwa [redirected_reached_iff hname, hhost, hport]

/-- The sidecar that injection adds serves what redirected containers are sent to exactly when nothing is
redirected, or the injector's own environment leaves the service host and port at their defaults: a host
or a port that it sets does not get into the sidecar. -/
theorem sidecar_serves_redirected_iff {env : Environment} {c : InjectionConfig} {p q : Pod}
    (hc : InjectionConfig.ofEnvironment env = .ok c) (h : c.inject p = .ok q)
    (hown : ∀ k ∈ p.spec.inits, k.name ≠ c.sidecarName) :
    ServesRedirected c q ↔ c.redirected p.spec = [] ∨
      FromVariable env "MCA_SERVICE_HOST" "127.0.0.1" Schema.text "127.0.0.1" ∧
      FromVariable env "MCA_SERVICE_PORT" 6443 Schema.integer 6443 := by
  obtain ⟨image, pullPolicy, host, port, policy, -, -, hhost, hport, -, hfields⟩ :=
    InjectionConfig.ofEnvironment_eq_ok_iff.mp hc
  have hhost' : c.serviceHost = host := by rw [← hfields]
  have hport' : c.servicePort = port := by rw [← hfields]
  rw [servesRedirected_iff h hown, hhost', hport', hhost.eq_iff, hport.eq_iff]

/-- A pod with one container. -/
def plainPod : Pod := { spec := { containers := [{ name := "app" }] } }

theorem sidecar_serves_redirected_sample : ∃ c q,
    InjectionConfig.ofEnvironment [("MCA_PROXY_IMAGE", "registry/mca:1"), ("MCA_SERVICE_PORT", " 6443")]
      = .ok c ∧
    c.inject plainPod = .ok q ∧ (∀ k ∈ plainPod.spec.inits, k.name ≠ c.sidecarName) ∧
    c.redirected plainPod.spec ≠ [] ∧ ServesRedirected c q := by
  have hc : InjectionConfig.ofEnvironment
      [("MCA_PROXY_IMAGE", "registry/mca:1"), ("MCA_SERVICE_PORT", " 6443")]
        = .ok { proxyImage := "registry/mca:1" } := rfl
  have hown : ∀ k ∈ plainPod.spec.inits, k.name ≠ "mca-proxy" := by decide
  have hinject : InjectionConfig.inject { proxyImage := "registry/mca:1" } plainPod = .ok _ :=
    InjectionConfig.inject_of_port (by decide) rfl rfl
  refine ⟨_, _, hc, hinject, hown, by decide, ?_⟩
  apply (sidecar_serves_redirected_iff hc hinject hown).mpr
  exact Or.inr ⟨rfl, rfl⟩

/-- With another port the containers are sent where the sidecar does not serve. -/
theorem sidecar_serves_redirected_not_of_port : ∃ c q,
    InjectionConfig.ofEnvironment [("MCA_PROXY_IMAGE", "registry/mca:1"), ("MCA_SERVICE_PORT", "7000")]
      = .ok c ∧
    c.inject plainPod = .ok q ∧ (∀ k ∈ plainPod.spec.inits, k.name ≠ c.sidecarName) ∧
    ¬ServesRedirected c q := by
  have hown : ∀ k ∈ plainPod.spec.inits, k.name ≠ "mca-proxy" := by decide
  have hinject : InjectionConfig.inject { proxyImage := "registry/mca:1", servicePort := 7000 } plainPod =
      .ok _ := InjectionConfig.inject_of_port (by decide) rfl rfl
  refine ⟨{ proxyImage := "registry/mca:1", servicePort := 7000 }, _, rfl, hinject, hown, ?_⟩
  intro hserves
  have hcond := (servesRedirected_iff hinject hown).mp hserves
  revert hcond
  decide

end Sidecar
