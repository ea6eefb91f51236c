import Sidecar.Proofs.Inject.Outcome
import Sidecar.Proofs.Inject.Redirect
import Sidecar.Proofs.Pod.Wellformed

/-!
Injection keeps pods well formed: what it adds to a pod is JSON, and it leaves unknown entries alone.
-/

namespace Sidecar

variable {strict json : Prop} {c : InjectionConfig}

theorem forall_mem_setVariable {P : EnvVar → Prop} {name value : String} {env : List EnvVar}
    (hset : ∀ v, P v → P { v with value := some value, valueFrom := none })
    (hnew : P { name := name, value := some value }) (h : ∀ v ∈ env, P v) :
    ∀ v ∈ setVariable name value env, P v := by
  intro v hv
  rcases mem_setVariable.mp hv with ⟨u, hu, rfl⟩ | ⟨-, rfl⟩
  · unfold EnvVar.assign
    split_ifs
    · exact hset u (h u hu)
    · exact h u hu
  · exact hnew

namespace InjectionConfig

theorem redirectEnv_wellformed {env : List EnvVar} (h : ∀ v ∈ env, v.Wellformed strict json) :
    ∀ v ∈ c.redirectEnv env, v.Wellformed strict json := by
  have hset (value : String) (v : EnvVar) (hv : v.Wellformed strict json) :
      EnvVar.Wellformed strict json { v with value := some value, valueFrom := none } :=
    ⟨by simp, hv.unknown⟩
  have hnew (name value : String) : EnvVar.Wellformed strict json { name := name, value := some value } :=
    ⟨by simp, Object.unclaimed_nil⟩
  exact forall_mem_setVariable (hset _) (hnew _ _) (forall_mem_setVariable (hset _) (hnew _ _) h)

theorem redirectedMounts?_wellformed {mounts moved : List VolumeMount}
    (h : ∀ m ∈ mounts, m.Wellformed strict json) (hmoved : c.redirectedMounts? mounts = some moved) :
    ∀ m ∈ moved, m.Wellformed strict json := by
  rcases c.redirectedMounts?_eq_some_iff.mp hmoved with hfirst | ⟨-, -, rfl⟩
  · obtain ⟨front, m, back, -, -, rfl, rfl⟩ := c.redirectMounts?_eq_some_iff.mp hfirst
    obtain ⟨hfront, hrest⟩ := List.forall_mem_append.mp h
    obtain ⟨hm, hback⟩ := List.forall_mem_cons.mp hrest
    exact List.forall_mem_append.mpr ⟨hfront, List.forall_mem_cons.mpr ⟨⟨hm.unknown⟩, hback⟩⟩
  · refine List.forall_mem_append.mpr ⟨h, ?_⟩
    rw [List.forall_mem_singleton]
    exact ⟨Object.unclaimed_nil⟩

theorem redirect_wellformed {container : Container} (h : container.Wellformed strict json) :
    (c.redirect container).Wellformed strict json := by
  have hmounts : ∀ m ∈ container.volumeMounts.getD [], m.Wellformed strict json :=
    forall_mem_getD h.volumeMounts
  have henv : ∀ v ∈ container.env.getD [], v.Wellformed strict json := forall_mem_getD h.env
  unfold redirect
  split
  · exact h
  · rename_i moved hmoved
    refine ⟨?_, ?_, h.securityContext, h.unknown⟩
    · rintro env ⟨⟩
      exact redirectEnv_wellformed henv
    · rintro mounts ⟨⟩
      exact redirectedMounts?_wellformed hmounts hmoved

theorem sidecar_wellformed : c.sidecar.Wellformed strict json := by
  refine ⟨?_, ?_, ?_, Object.unclaimed_nil⟩
  · rintro env ⟨⟩
    rw [List.forall_mem_singleton]
    refine ⟨?_, Object.unclaimed_nil⟩
    rintro o ⟨⟩
    exact Object.free_of_isJson ⟨by decide, by decide⟩
  · rintro mounts ⟨⟩
    simp only [List.forall_mem_cons, List.not_mem_nil, false_implies, implies_true, and_true]
    exact ⟨⟨Object.unclaimed_nil⟩, ⟨Object.unclaimed_nil⟩⟩
  · rintro context ⟨⟩
    exact ⟨Object.unclaimed_nil⟩

theorem mem_inits_wellformed {s : PodSpec} (h : s.Wellformed strict json) :
    ∀ x ∈ s.inits, x.Wellformed strict json :=
  forall_mem_getD h.initContainers

theorem chooseSidecar_wellformed {s : PodSpec} {sidecar : Container} (hs : s.Wellformed strict json)
    (h : c.chooseSidecar s = .ok sidecar) : sidecar.Wellformed strict json := by
  rcases chooseSidecar_eq_ok_iff.mp h with ⟨own, hown, hcases⟩ | ⟨-, -, rfl⟩
  · have hwell := mem_inits_wellformed hs own (List.mem_of_find?_eq_some hown)
    rcases hcases with ⟨-, rfl⟩ | ⟨-, -, rfl⟩
    · exact hwell
    · exact ⟨hwell.env, hwell.volumeMounts, hwell.securityContext, hwell.unknown⟩
  · exact sidecar_wellformed

theorem missingVolumes_wellformed {sidecar : Container} {names : List String} :
    ∀ v ∈ c.missingVolumes sidecar names, v.Wellformed strict json := by
  have hredirect : c.redirectVolume.Wellformed strict json := by
    refine ⟨?_, by simp [redirectVolume], Object.unclaimed_nil⟩
    rintro o ⟨⟩
    exact Object.free_of_isJson Object.isJson_nil
  have hcredentials : c.credentialsVolume.Wellformed strict json := by
    refine ⟨by simp [credentialsVolume], ?_, Object.unclaimed_nil⟩
    rintro o ⟨⟩
    exact Object.free_of_isJson ⟨by decide, by decide⟩
  unfold missingVolumes
  split_ifs <;> simp [hredirect, hcredentials]

theorem assemble_wellformed {sidecar : Container} {p : Pod} (hsidecar : sidecar.Wellformed strict json)
    (hp : p.spec.Wellformed strict json) : (c.assemble sidecar p).spec.Wellformed strict json := by
  refine ⟨?_, ?_, ?_, hp.unknown⟩
  · rintro inits ⟨⟩
    refine List.forall_mem_cons.mpr ⟨hsidecar, ?_⟩
    intro x hx
    obtain ⟨y, hy, rfl⟩ := List.mem_map.mp hx
    exact redirect_wellformed (mem_inits_wellformed hp y (List.mem_of_mem_filter hy))
  · intro x hx
    obtain ⟨y, hy, rfl⟩ := List.mem_map.mp hx
    exact redirect_wellformed (hp.containers y hy)
  · rintro volumes ⟨⟩ v hv
    rcases List.mem_append.mp hv with hv | hv
    · exact forall_mem_getD hp.volumes v hv
    · exact missingVolumes_wellformed v hv

theorem inject_wellformed {p q : Pod} (h : c.inject p = .ok q) (hp : p.Wellformed strict json) :
    q.Wellformed strict json := by
  obtain ⟨-, -, sidecar, hsidecar, rfl⟩ := inject_eq_ok_iff.mp h
  exact ⟨hp.metadata, assemble_wellformed (chooseSidecar_wellformed hp.spec hsidecar) hp.spec, hp.unknown⟩

end InjectionConfig

end Sidecar
