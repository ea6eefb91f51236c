import Mathlib.Tactic.Common
import Sidecar.Inject.Basic

/-!
What redirecting a container does to its mounts and variables. Main statement: a redirected container
is left as it is when it is redirected again.
-/

namespace Sidecar

/-- The variable with a value of its own, if it has the name. -/
def EnvVar.assign (name value : String) (v : EnvVar) : EnvVar :=
  if v.name = name then { v with value := some value, valueFrom := none } else v

@[simp] theorem EnvVar.assign_name (name value : String) (v : EnvVar) : (v.assign name value).name = v.name := by
  unfold assign
  split_ifs <;> rfl

@[simp] theorem EnvVar.assign_unknown (name value : String) (v : EnvVar) :
    (v.assign name value).unknown = v.unknown := by
  unfold assign
  split_ifs <;> rfl

theorem EnvVar.assign_of_ne {name : String} {v : EnvVar} (h : v.name ≠ name) (value : String) :
    v.assign name value = v :=
  if_neg h

theorem map_assign_name (name value : String) (env : List EnvVar) :
    (env.map (EnvVar.assign name value)).map EnvVar.name = env.map EnvVar.name := by
  simp

theorem map_assign_of_not_mem {name : String} {env : List EnvVar} (h : name ∉ env.map EnvVar.name)
    (value : String) : env.map (EnvVar.assign name value) = env := by
  have hkeep : ∀ v ∈ env, v.assign name value = v := by
    intro v hv
    apply EnvVar.assign_of_ne
    rintro rfl
    exact h (List.mem_map_of_mem hv)
  simpa using List.map_congr_left hkeep

theorem setVariable_of_mem {name : String} {env : List EnvVar} (h : name ∈ env.map EnvVar.name)
    (value : String) : setVariable name value env = env.map (EnvVar.assign name value) := by
  have hany : env.any (·.name = name) = true := by simpa using h
  rw [setVariable, if_pos hany]
  rfl

theorem setVariable_of_not_mem {name : String} {env : List EnvVar} (h : name ∉ env.map EnvVar.name)
    (value : String) : setVariable name value env = env ++ [{ name := name, value := some value }] := by
  have hany : ¬env.any (·.name = name) = true := by simpa using h
  rw [setVariable, if_neg hany]

/-- Every entry keeps its position, and a new one comes at the end if there was none of the name. -/
theorem setVariable_eq (name value : String) (env : List EnvVar) : setVariable name value env =
    env.map (EnvVar.assign name value) ++
      [({ name := name, value := some value } : EnvVar)].filter (·.name ∉ env.map EnvVar.name) := by
  by_cases hmem : name ∈ env.map EnvVar.name
  · rw [setVariable_of_mem hmem, List.filter_cons_of_neg (by simpa using hmem), List.filter_nil,
      List.append_nil]
  · rw [setVariable_of_not_mem hmem, map_assign_of_not_mem hmem,
      List.filter_cons_of_pos (by simpa using hmem), List.filter_nil]

theorem mem_setVariable {name value : String} {env : List EnvVar} {v : EnvVar} :
    v ∈ setVariable name value env ↔ (∃ u ∈ env, u.assign name value = v) ∨
      name ∉ env.map EnvVar.name ∧ v = { name := name, value := some value } := by
  by_cases hmem : name ∈ env.map EnvVar.name
  · rw [setVariable_of_mem hmem, List.mem_map]
    simp only [hmem, not_true_eq_false, false_and, or_false]
  · have hkeep : (∃ u ∈ env, u.assign name value = v) ↔ v ∈ env := by
      rw [← List.mem_map, map_assign_of_not_mem hmem]
    rw [setVariable_of_not_mem hmem, List.mem_append, List.mem_singleton, hkeep]
    simp only [hmem, not_false_eq_true, true_and]

/-- The variable is there, and wherever it stands it has the value and no other source. -/
def VariableSet (name value : String) (env : List EnvVar) : Prop :=
  (∃ v ∈ env, v.name = name) ∧
    ∀ v ∈ env, v.name = name → v.value = some value ∧ v.valueFrom = none

theorem variableSet_setVariable (name value : String) (env : List EnvVar) :
    VariableSet name value (setVariable name value env) := by
  constructor
  · by_cases hmem : name ∈ env.map EnvVar.name
    · obtain ⟨v, hv, hname⟩ := List.mem_map.mp hmem
      exact ⟨v.assign name value, mem_setVariable.mpr (Or.inl ⟨v, hv, rfl⟩), by simp [hname]⟩
    · exact ⟨{ name := name, value := some value }, mem_setVariable.mpr (Or.inr ⟨hmem, rfl⟩), rfl⟩
  · intro w hw hwname
    rcases mem_setVariable.mp hw with ⟨u, -, rfl⟩ | ⟨-, rfl⟩
    · have hu : u.name = name := by simpa using hwname
      simp [EnvVar.assign, hu]
    · exact ⟨rfl, rfl⟩

/-- Setting one variable does not touch another. -/
theorem VariableSet.setVariable_of_ne {name value : String} {env : List EnvVar}
    (h : VariableSet name value env) {other : String} (hne : other ≠ name) (v : String) :
    VariableSet name value (setVariable other v env) := by
  obtain ⟨⟨e, he, hname⟩, hall⟩ := h
  have hkeep {u : EnvVar} (hu : u.name = name) : u.assign other v = u :=
    EnvVar.assign_of_ne (by rw [hu]; exact hne.symm) v
  refine ⟨⟨e, mem_setVariable.mpr (Or.inl ⟨e, he, hkeep hname⟩), hname⟩, ?_⟩
  intro w hw hwname
  rcases mem_setVariable.mp hw with ⟨u, hu, rfl⟩ | ⟨-, rfl⟩
  · have huname : u.name = name := by simpa using hwname
    rw [hkeep huname]
    exact hall u hu huname
  · exact absurd hwname hne

theorem VariableSet.setVariable_eq {name value : String} {env : List EnvVar}
    (h : VariableSet name value env) : setVariable name value env = env := by
  obtain ⟨⟨e, he, hname⟩, hall⟩ := h
  have hmem : name ∈ env.map EnvVar.name := List.mem_map.mpr ⟨e, he, hname⟩
  have hkeep : ∀ v ∈ env, v.assign name value = v := by
    intro v hv
    unfold EnvVar.assign
    split_ifs with hv'
    · obtain ⟨hvalue, hfrom⟩ := hall v hv hv'
      rw [← hvalue, ← hfrom]
    · rfl
  rw [setVariable_of_mem hmem]
  simpa using List.map_congr_left hkeep

namespace InjectionConfig

variable (c : InjectionConfig)

theorem variableSet_host (env : List EnvVar) :
    VariableSet "KUBERNETES_SERVICE_HOST" c.serviceHost (c.redirectEnv env) :=
  (variableSet_setVariable _ _ env).setVariable_of_ne (by decide) _

theorem variableSet_port (env : List EnvVar) :
    VariableSet "KUBERNETES_SERVICE_PORT" (toString c.servicePort) (c.redirectEnv env) :=
  variableSet_setVariable _ _ _

theorem redirectEnv_redirectEnv (env : List EnvVar) :
    c.redirectEnv (c.redirectEnv env) = c.redirectEnv env := by
  rw [redirectEnv, (c.variableSet_host env).setVariable_eq, (c.variableSet_port env).setVariable_eq]

theorem redirectMounts?_eq_none_iff {mounts : List VolumeMount} :
    c.redirectMounts? mounts = none ↔ ∀ m ∈ mounts, m.mountPath ≠ c.serviceAccountPath := by
  induction mounts with
  | nil => simp [redirectMounts?]
  | cons m rest ih => by_cases h : m.mountPath = c.serviceAccountPath <;> simp [redirectMounts?, h, ih]

/-- The first mount at the path is given the name of the redirect volume, and nothing else changes. -/
theorem redirectMounts?_eq_some_iff {mounts redirected : List VolumeMount} :
    c.redirectMounts? mounts = some redirected ↔ ∃ front m back,
      (∀ x ∈ front, x.mountPath ≠ c.serviceAccountPath) ∧ m.mountPath = c.serviceAccountPath ∧
      mounts = front ++ m :: back ∧
      redirected = front ++ { m with name := c.redirectVolumeName } :: back := by
  constructor
  · intro h
    induction mounts generalizing redirected with
    | nil => simp [redirectMounts?] at h
    | cons m rest ih =>
      by_cases hm : m.mountPath = c.serviceAccountPath
      · rw [redirectMounts?, if_pos hm] at h
        obtain rfl := Option.some.inj h
        exact ⟨[], m, rest, by simp, hm, rfl, rfl⟩
      · rw [redirectMounts?, if_neg hm] at h
        obtain ⟨tail, htail, rfl⟩ := Option.map_eq_some_iff.mp h
        obtain ⟨front, first, back, hfront, hfirst, rfl, rfl⟩ := ih htail
        refine ⟨m :: front, first, back, ?_, hfirst, rfl, rfl⟩
        intro x hx
        rcases List.mem_cons.mp hx with rfl | hx
        · exact hm
        · exact hfront x hx
  · rintro ⟨front, m, back, hfront, hm, rfl, rfl⟩
    induction front with
    | nil => simp [redirectMounts?, hm]
    | cons x front ih =>
      have hx := hfront x (by simp)
      simp [redirectMounts?, hx, ih fun y hy => hfront y (by simp [hy])]

/-- A mount that has been moved stays where it is. -/
theorem redirectMounts?_of_eq_some {mounts redirected : List VolumeMount}
    (h : c.redirectMounts? mounts = some redirected) :
    c.redirectMounts? redirected = some redirected := by
  obtain ⟨front, m, back, hfront, hm, -, rfl⟩ := c.redirectMounts?_eq_some_iff.mp h
  exact c.redirectMounts?_eq_some_iff.mpr
    ⟨front, { m with name := c.redirectVolumeName }, back, hfront, hm, rfl, rfl⟩

/-- A mount that has been added counts as moved. -/
theorem redirectMounts?_concat {mounts : List VolumeMount}
    (h : ∀ m ∈ mounts, m.mountPath ≠ c.serviceAccountPath) :
    c.redirectMounts? (mounts ++ [c.redirectMount]) = some (mounts ++ [c.redirectMount]) :=
  c.redirectMounts?_eq_some_iff.mpr ⟨mounts, c.redirectMount, [], h, rfl, rfl, rfl⟩

/-- A container is redirected by the mount it has at the path, or by one that the policy adds. -/
theorem redirectedMounts?_eq_some_iff {mounts redirected : List VolumeMount} :
    c.redirectedMounts? mounts = some redirected ↔ c.redirectMounts? mounts = some redirected ∨
      c.redirectPolicy = .always ∧ (∀ m ∈ mounts, m.mountPath ≠ c.serviceAccountPath) ∧
        redirected = mounts ++ [c.redirectMount] := by
  rw [← redirectMounts?_eq_none_iff, redirectedMounts?]
  cases c.redirectMounts? mounts with
  | some moved => simp
  | none => cases c.redirectPolicy <;> simp [eq_comm]

theorem redirectedMounts?_eq_none_iff {mounts : List VolumeMount} :
    c.redirectedMounts? mounts = none ↔
      c.redirectPolicy = .mountedOnly ∧ ∀ m ∈ mounts, m.mountPath ≠ c.serviceAccountPath := by
  rw [← redirectMounts?_eq_none_iff, redirectedMounts?]
  cases c.redirectMounts? mounts with
  | some moved => simp
  | none => cases c.redirectPolicy <;> simp

/-- A mount that has been moved or added counts as one at the path. -/
theorem redirectMounts?_of_redirectedMounts? {mounts redirected : List VolumeMount}
    (h : c.redirectedMounts? mounts = some redirected) : c.redirectMounts? redirected = some redirected := by
  rcases c.redirectedMounts?_eq_some_iff.mp h with hmoved | ⟨-, hmounts, rfl⟩
  · exact c.redirectMounts?_of_eq_some hmoved
  · exact c.redirectMounts?_concat hmounts

theorem redirectedMounts?_of_eq_some {mounts redirected : List VolumeMount}
    (h : c.redirectedMounts? mounts = some redirected) :
    c.redirectedMounts? redirected = some redirected :=
  c.redirectedMounts?_eq_some_iff.mpr (Or.inl (c.redirectMounts?_of_redirectedMounts? h))

@[simp] theorem redirect_name (container : Container) :
    (c.redirect container).name = container.name := by
  unfold redirect
  split <;> rfl

/-- Redirection is done once and for all. -/
@[simp] theorem redirect_redirect (container : Container) :
    c.redirect (c.redirect container) = c.redirect container := by
  cases h : c.redirectedMounts? (container.volumeMounts.getD []) with
  | none =>
    have hsame : c.redirect container = container := by rw [redirect, h]
    rw [hsame, hsame]
  | some mounts =>
    have hmounts := c.redirectedMounts?_of_eq_some h
    have hfirst : c.redirect container = { container with
        volumeMounts := some mounts
        env := some (c.redirectEnv (container.env.getD [])) } := by rw [redirect, h]
    rw [hfirst]
    simp only [redirect, Option.getD_some, hmounts, redirectEnv_redirectEnv]

/-- A container is redirected again if and only if it was redirected before. -/
@[simp] theorem isSome_redirectedMounts?_redirect (k : Container) :
    (c.redirectedMounts? ((c.redirect k).volumeMounts.getD [])).isSome =
      (c.redirectedMounts? (k.volumeMounts.getD [])).isSome := by
  cases h : c.redirectedMounts? (k.volumeMounts.getD []) with
  | none =>
    have hsame : c.redirect k = k := by rw [redirect, h]
    rw [hsame, h]
  | some mounts => simp [redirect, h, c.redirectedMounts?_of_eq_some h]

theorem map_redirect_redirected (s : PodSpec) : (c.redirected s).map c.redirect =
    ((c.others s).map c.redirect).filter fun k =>
      (c.redirectedMounts? (k.volumeMounts.getD [])).isSome := by
  rw [List.filter_map, redirected]
  simp only [Function.comp_def, isSome_redirectedMounts?_redirect]

/-- A container that is redirected: all containers are, or it mounts the service account path. -/
def IsRedirected (k : Container) : Prop :=
  c.redirectPolicy = .always ∨ ∃ m ∈ k.volumeMounts.getD [], m.mountPath = c.serviceAccountPath

theorem redirectedMounts?_eq_none_iff_not_isRedirected {k : Container} :
    c.redirectedMounts? (k.volumeMounts.getD []) = none ↔ ¬c.IsRedirected k := by
  have hpolicy : c.redirectPolicy = .mountedOnly ↔ c.redirectPolicy ≠ .always := by
    cases c.redirectPolicy <;> simp
  rw [redirectedMounts?_eq_none_iff, hpolicy, IsRedirected, not_or]
  simp

theorem mem_redirected_iff {s : PodSpec} {k : Container} :
    k ∈ c.redirected s ↔ k ∈ c.others s ∧ c.IsRedirected k := by
  rw [redirected, List.mem_filter, Option.isSome_iff_ne_none, ne_eq,
    redirectedMounts?_eq_none_iff_not_isRedirected, not_not]

theorem redirected_ne_nil_iff {s : PodSpec} :
    c.redirected s ≠ [] ↔ ∃ k ∈ c.others s, c.IsRedirected k := by
  simp only [ne_eq, List.eq_nil_iff_forall_not_mem, mem_redirected_iff, not_forall, not_not]

/-- A container that is redirected has other mounts and variables, and all others are left as they are. -/
theorem redirect_cases (k : Container) :
    (c.IsRedirected k ∧ ∃ mounts, c.redirectedMounts? (k.volumeMounts.getD []) = some mounts ∧
      c.redirect k = { k with
        volumeMounts := some mounts
        env := some (c.redirectEnv (k.env.getD [])) }) ∨
    ¬c.IsRedirected k ∧ c.redirect k = k := by
  cases h : c.redirectedMounts? (k.volumeMounts.getD []) with
  | none => exact Or.inr ⟨c.redirectedMounts?_eq_none_iff_not_isRedirected.mp h, by rw [redirect, h]⟩
  | some mounts =>
    have hredirected : c.IsRedirected k := by
      by_contra hnot
      rw [c.redirectedMounts?_eq_none_iff_not_isRedirected.mpr hnot] at h
      nomatch h
    exact Or.inl ⟨hredirected, mounts, rfl, by rw [redirect, h]⟩

end InjectionConfig

end Sidecar
