import Mathlib.Data.List.Forall2
import Mathlib.Logic.Function.Basic
import Sidecar.Proofs.Inject.Isolation

/-!
The variables of redirected containers. The two that lead Kubernetes clients to the sidecar are set
wherever they stand and added where they are missing; nothing else changes. Main statement: what a
process in such a container sees is what it saw before, with these two variables replaced.
-/

namespace Sidecar

/-- Where a variable comes from, a value or another source. Of several entries the last one counts. -/
def lastSource (env : List EnvVar) (name : String) : Option (Option String × Option Object) :=
  (env.reverse.find? (·.name = name)).map fun v => (v.value, v.valueFrom)

theorem lastSource_concat (env : List EnvVar) (v : EnvVar) :
    lastSource (env ++ [v]) = Function.update (lastSource env) v.name (some (v.value, v.valueFrom)) := by
  funext name
  by_cases hname : v.name = name
  · subst hname
    simp [lastSource]
  · rw [Function.update_of_ne (Ne.symm hname)]
    simp [lastSource, hname]

theorem lastSource_map_assign {name : String} {env : List EnvVar} (h : name ∈ env.map EnvVar.name)
    (value : String) : lastSource (env.map (EnvVar.assign name value)) =
      Function.update (lastSource env) name (some (some value, none)) := by
  funext other
  have hsame : (fun v : EnvVar => decide (v.name = other)) ∘ EnvVar.assign name value =
      fun v => decide (v.name = other) := by
    funext v
    rw [Function.comp_apply, EnvVar.assign_name]
  rw [lastSource, ← List.map_reverse, List.find?_map, hsame]
  cases hfind : env.reverse.find? (·.name = other) with
  | none =>
    -- the name that is set has an entry, so this is another one
    have hother : other ≠ name := by
      rintro rfl
      obtain ⟨v, hv, hname⟩ := List.mem_map.mp h
      have hnone := List.find?_eq_none.mp hfind v (List.mem_reverse.mpr hv)
      simp [hname] at hnone
    rw [Function.update_of_ne hother, lastSource, hfind]
    rfl
  | some last =>
    have hlast : last.name = other := by simpa using List.find?_some hfind
    by_cases hother : other = name
    · subst hother
      simp [EnvVar.assign, hlast]
    · have hne : last.name ≠ name := by rwa [hlast]
      rw [Function.update_of_ne hother, lastSource, hfind, Option.map_some, EnvVar.assign_of_ne hne]

theorem lastSource_setVariable (name value : String) (env : List EnvVar) :
    lastSource (setVariable name value env) =
      Function.update (lastSource env) name (some (some value, none)) := by
  by_cases hmem : name ∈ env.map EnvVar.name
  · rw [setVariable_of_mem hmem, lastSource_map_assign hmem]
  · rw [setVariable_of_not_mem hmem, lastSource_concat]

namespace InjectionConfig

variable (c : InjectionConfig)

/-- The variables that lead Kubernetes clients to the sidecar. -/
def serviceVariables : List EnvVar := [
  { name := "KUBERNETES_SERVICE_HOST", value := some c.serviceHost },
  { name := "KUBERNETES_SERVICE_PORT", value := some (toString c.servicePort) }]

/-- An entry of a list of variables and what has become of it. -/
structure EntryKept (before after : EnvVar) : Prop where
  name : after.name = before.name
  unknown : after.unknown = before.unknown
  other : before.name ∉ c.serviceVariables.map EnvVar.name → after = before

/-- A list of variables and what has become of it in a redirected container. -/
structure ServiceOverridden (before after : List EnvVar) : Prop where
  host : VariableSet "KUBERNETES_SERVICE_HOST" c.serviceHost after
  port : VariableSet "KUBERNETES_SERVICE_PORT" (toString c.servicePort) after
  entries : ∃ kept, List.Forall₂ c.EntryKept before kept ∧
    after = kept ++ c.serviceVariables.filter (·.name ∉ before.map EnvVar.name)
  lastSource : lastSource after =
    Function.update
      (Function.update (lastSource before) "KUBERNETES_SERVICE_HOST" (some (some c.serviceHost, none)))
      "KUBERNETES_SERVICE_PORT" (some (some (toString c.servicePort), none))

/-- An entry of any list of variables after redirection. -/
def assignService (v : EnvVar) : EnvVar :=
  (v.assign "KUBERNETES_SERVICE_HOST" c.serviceHost).assign "KUBERNETES_SERVICE_PORT" (toString c.servicePort)

theorem entryKept_assignService (v : EnvVar) : c.EntryKept v (c.assignService v) := by
  refine ⟨by simp [assignService], by simp [assignService], ?_⟩
  intro hother
  have hne : v.name ≠ "KUBERNETES_SERVICE_HOST" ∧ v.name ≠ "KUBERNETES_SERVICE_PORT" := by
    simpa [serviceVariables] using hother
  rw [assignService, EnvVar.assign_of_ne hne.1, EnvVar.assign_of_ne hne.2]

theorem redirectEnv_eq (env : List EnvVar) : c.redirectEnv env =
    env.map c.assignService ++ c.serviceVariables.filter (·.name ∉ env.map EnvVar.name) := by
  let host : List EnvVar := [{ name := "KUBERNETES_SERVICE_HOST", value := some c.serviceHost }]
  let port : List EnvVar := [{ name := "KUBERNETES_SERVICE_PORT", value := some (toString c.servicePort) }]
  let added := host.filter (·.name ∉ env.map EnvVar.name)
  have hhost : setVariable "KUBERNETES_SERVICE_HOST" c.serviceHost env =
      env.map (EnvVar.assign "KUBERNETES_SERVICE_HOST" c.serviceHost) ++ added := setVariable_eq ..
  -- the port is looked for among what the host has left, which has no port of its own
  have hadded : "KUBERNETES_SERVICE_PORT" ∉ added.map EnvVar.name := by
    intro hmem
    obtain ⟨v, hv, hname⟩ := List.mem_map.mp hmem
    obtain rfl := List.mem_singleton.mp (List.mem_filter.mp hv).1
    simp at hname
  have hport : port.filter (·.name ∉
      (env.map (EnvVar.assign "KUBERNETES_SERVICE_HOST" c.serviceHost) ++ added).map EnvVar.name) =
        port.filter (·.name ∉ env.map EnvVar.name) := by
    refine List.filter_congr fun v hv => ?_
    obtain rfl := List.mem_singleton.mp hv
    rw [List.map_append, map_assign_name]
    simp only [List.mem_append, hadded, or_false]
  calc c.redirectEnv env
      = (env.map (EnvVar.assign "KUBERNETES_SERVICE_HOST" c.serviceHost) ++ added).map
          (EnvVar.assign "KUBERNETES_SERVICE_PORT" (toString c.servicePort)) ++
            port.filter (·.name ∉ env.map EnvVar.name) := by
        rw [redirectEnv, hhost, setVariable_eq, ← hport]
    _ = env.map c.assignService ++ (added ++ port.filter (·.name ∉ env.map EnvVar.name)) := by
        rw [List.map_append, map_assign_of_not_mem hadded, List.map_map, List.append_assoc]
        rfl
    _ = env.map c.assignService ++ c.serviceVariables.filter (·.name ∉ env.map EnvVar.name) := by
        rw [← List.filter_append]
        rfl

theorem serviceOverridden_redirectEnv (env : List EnvVar) : c.ServiceOverridden env (c.redirectEnv env) := by
  refine ⟨c.variableSet_host env, c.variableSet_port env, ?_, ?_⟩
  · refine ⟨env.map c.assignService, ?_, c.redirectEnv_eq env⟩
    rw [List.forall₂_map_right_iff, List.forall₂_same]
    intro v _
    exact c.entryKept_assignService v
  · rw [redirectEnv, lastSource_setVariable, lastSource_setVariable]

/-- In an injected pod every redirected container has the variables that lead to the sidecar, and otherwise
the variables that it had. -/
theorem serviceOverridden_of_inject {p q : Pod} (h : c.inject p = .ok q) :
    List.Forall₂ (fun k k' => k'.name = k.name ∧ (c.IsRedirected k →
        c.ServiceOverridden (k.env.getD []) (k'.env.getD [])))
      (c.others p.spec) (c.others q.spec) := by
  obtain ⟨-, -, sidecar, hsidecar, rfl⟩ := inject_eq_ok_iff.mp h
  rw [others_assemble (chooseSidecar_named hsidecar).1, List.forall₂_map_right_iff, List.forall₂_same]
  intro k _
  refine ⟨c.redirect_name k, ?_⟩
  intro hredirected
  rcases c.redirect_cases k with ⟨-, mounts, -, hk⟩ | ⟨hnot, -⟩
  · rw [hk]
    exact c.serviceOverridden_redirectEnv (k.env.getD [])
  · exact absurd hredirected hnot

/-- A container with two entries for the host, one of them without a value, and none for the port. -/
theorem serviceOverridden_of_inject_sample :
    ∃ q setup app, sampleConfig.inject samplePod = .ok q ∧ sampleConfig.others q.spec = [setup, app] ∧
      sampleConfig.ServiceOverridden [
        { name := "KUBERNETES_SERVICE_HOST", value := some "10.0.0.1" },
        { name := "MODE", value := some "fast" },
        { name := "KUBERNETES_SERVICE_HOST", valueFrom := some [("fieldRef", .null)] }]
        (app.env.getD []) := by
  obtain ⟨q, hq⟩ : ∃ q, sampleConfig.inject samplePod = .ok q :=
    ⟨_, inject_of_port (by decide) rfl rfl⟩
  have hall := serviceOverridden_of_inject sampleConfig hq
  obtain ⟨setup, rest, -, hrest, hothers⟩ := List.forall₂_cons_left_iff.mp hall
  obtain ⟨app, none, ⟨-, happ⟩, hnone, rfl⟩ := List.forall₂_cons_left_iff.mp hrest
  obtain rfl := List.forall₂_nil_left_iff.mp hnone
  refine ⟨q, setup, app, hq, hothers, happ (Or.inr ?_)⟩
  decide

end InjectionConfig

end Sidecar
