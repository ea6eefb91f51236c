import Sidecar.Proofs.Inject.Redirect
import Sidecar.Proofs.Inject.Wellformed
import Sidecar.Proofs.Pod.Place.Decode
import Sidecar.Proofs.Pod.Place.Encode
import Sidecar.Proofs.Pod.Stability

/-!
No unknown data is lost: the unknown entries of a document stand in the same places of the document that
the injected pod is written as, and no others do.
-/

namespace Sidecar

/-- Unknown entries of a list of objects, to which objects without unknown entries are added. -/
def Appended (before after : List Object) : Prop :=
  ∃ added, after = before ++ added ∧ ∀ u ∈ added, u = []

namespace Appended

theorem refl (us : List Object) : Appended us us := ⟨[], by simp, by simp⟩

theorem trans {a b c : List Object} (hab : Appended a b) (hbc : Appended b c) : Appended a c := by
  obtain ⟨us, rfl, hus⟩ := hab
  obtain ⟨vs, rfl, hvs⟩ := hbc
  refine ⟨us ++ vs, by rw [List.append_assoc], ?_⟩
  intro u hu
  exact (List.mem_append.mp hu).elim (hus u) (hvs u)

/-- Every object keeps its position. -/
theorem getElem? {before after : List Object} (h : Appended before after) (index : Nat) :
    Retained before[index]? after[index]? := by
  obtain ⟨added, rfl, hadded⟩ := h
  by_cases hindex : index < before.length
  · exact .inl (List.getElem?_append_left hindex)
  · have hlength : before.length ≤ index := Nat.le_of_not_lt hindex
    rw [List.getElem?_append_right hlength, List.getElem?_eq_none hlength]
    cases hget : added[index - before.length]? with
    | none => exact .refl none
    | some u =>
      obtain rfl := hadded u (List.mem_of_getElem? hget)
      exact .inr ⟨rfl, rfl⟩

end Appended

theorem setVariable_unknown (name value : String) (env : List EnvVar) :
    Appended (env.map EnvVar.unknown) ((setVariable name value env).map EnvVar.unknown) := by
  have hkeep : (env.map (EnvVar.assign name value)).map EnvVar.unknown = env.map EnvVar.unknown := by simp
  rw [setVariable_eq, List.map_append, hkeep]
  refine ⟨_, rfl, ?_⟩
  intro u hu
  obtain ⟨v, hv, rfl⟩ := List.mem_map.mp hu
  obtain rfl := List.mem_singleton.mp (List.mem_filter.mp hv).1
  rfl

namespace InjectionConfig

variable {c : InjectionConfig}

theorem redirectEnv_unknown (env : List EnvVar) :
    Appended (env.map EnvVar.unknown) ((c.redirectEnv env).map EnvVar.unknown) :=
  (setVariable_unknown _ _ env).trans (setVariable_unknown _ _ _)

theorem redirectedMounts?_unknown {mounts moved : List VolumeMount}
    (h : c.redirectedMounts? mounts = some moved) :
    Appended (mounts.map VolumeMount.unknown) (moved.map VolumeMount.unknown) := by
  rcases c.redirectedMounts?_eq_some_iff.mp h with hfirst | ⟨-, -, rfl⟩
  · obtain ⟨front, m, back, -, -, rfl, rfl⟩ := c.redirectMounts?_eq_some_iff.mp hfirst
    rw [List.map_append, List.map_append, List.map_cons, List.map_cons]
    exact .refl _
  · rw [List.map_append]
    exact ⟨_, rfl, by simp [redirectMount]⟩

/-- Redirection adds variables and a mount, all without unknown entries. -/
theorem redirect_unknown? (container : Container) (place : Container.Place) :
    Retained (place.unknown? container) (place.unknown? (c.redirect container)) := by
  unfold redirect
  split
  · exact .refl _
  · rename_i moved hmoved
    cases place with
    | whole | securityContext => exact .refl _
    | envVar index => exact (redirectEnv_unknown (container.env.getD [])).getElem? index
    | mount index => exact (redirectedMounts?_unknown hmoved).getElem? index

theorem redirect_find?_unknown? (cs : List Container) (name : String) (place : Container.Place) :
    Retained ((cs.find? (·.name = name)).bind place.unknown?)
      (((cs.map c.redirect).find? (·.name = name)).bind place.unknown?) := by
  have hname : (fun x : Container => decide (x.name = name)) ∘ c.redirect =
      fun x => decide (x.name = name) := by
    funext x
    rw [Function.comp_apply, redirect_name]
  rw [List.find?_map, hname]
  cases cs.find? (·.name = name) with
  | none => exact .refl none
  | some x => exact redirect_unknown? x place

theorem sidecar_unknown? (place : Container.Place) : Retained none (place.unknown? c.sidecar) := by
  have hsingle : Appended [] [[]] := ⟨[[]], rfl, by simp⟩
  have hpair : Appended [] [[], []] := ⟨[[], []], rfl, by simp⟩
  cases place with
  | whole | securityContext => exact .inr ⟨rfl, rfl⟩
  | envVar index => exact hsingle.getElem? index
  | mount index => exact hpair.getElem? index

/-- The sidecar that is chosen has the unknown entries of the one that the pod brings. -/
theorem chooseSidecar_unknown? {s : PodSpec} {sidecar : Container} (h : c.chooseSidecar s = .ok sidecar)
    (place : Container.Place) :
    Retained ((s.inits.find? (·.name = c.sidecarName)).bind place.unknown?) (place.unknown? sidecar) := by
  rcases chooseSidecar_eq_ok_iff.mp h with ⟨own, hown, hcases⟩ | ⟨hnone, -, rfl⟩
  · rw [hown]
    rcases hcases with ⟨-, rfl⟩ | ⟨-, -, rfl⟩
    · exact .refl _
    · cases place <;> exact .refl _
  · rw [hnone]
    exact sidecar_unknown? place

theorem otherInits_find? {s : PodSpec} {name : String} (hne : name ≠ c.sidecarName) :
    (c.otherInits s).find? (·.name = name) = s.inits.find? (·.name = name) := by
  rw [otherInits, List.find?_filter]
  congr 1
  funext x
  by_cases hx : x.name = name <;> simp [hx, hne]

theorem assemble_unknown? {sidecar : Container} {p : Pod} (h : c.chooseSidecar p.spec = .ok sidecar)
    (place : PodSpec.Place) :
    Retained (place.unknown? p.spec) (place.unknown? (c.assemble sidecar p).spec) := by
  cases place with
  | whole => exact .refl _
  | volume name =>
    have hmissing : ∀ v ∈ c.missingVolumes sidecar p.spec.volumeNames, v.unknown = [] := by
      unfold missingVolumes
      split_ifs <;> simp [redirectVolume, credentialsVolume]
    change Retained _ (((p.spec.volumes.getD [] ++ c.missingVolumes sidecar p.spec.volumeNames).find?
      (·.name = name)).map Volume.unknown)
    rw [List.find?_append, PodSpec.Place.unknown?]
    cases (p.spec.volumes.getD []).find? (·.name = name) with
    | some v => exact .refl _
    | none =>
      rw [Option.none_or]
      cases hfind : (c.missingVolumes sidecar p.spec.volumeNames).find? (·.name = name) with
      | none => exact .refl none
      | some v => exact .inr ⟨rfl, congrArg some (hmissing v (List.mem_of_find?_eq_some hfind))⟩
  | container init name place =>
    cases init with
    | false => exact redirect_find?_unknown? p.spec.containers name place
    | true =>
      change Retained ((p.spec.inits.find? (·.name = name)).bind place.unknown?)
        (((sidecar :: (c.otherInits p.spec).map c.redirect).find? (·.name = name)).bind place.unknown?)
      obtain ⟨hname, -⟩ := chooseSidecar_named h
      rw [List.find?_cons, hname]
      by_cases hsidecar : c.sidecarName = name
      · subst hsidecar
        rw [decide_eq_true rfl]
        exact chooseSidecar_unknown? h place
      · rw [decide_eq_false hsidecar, ← otherInits_find? (c := c) (Ne.symm hsidecar)]
        exact redirect_find?_unknown? (c.otherInits p.spec) name place

theorem inject_unknown? {p q : Pod} (h : c.inject p = .ok q) (place : Pod.Place) :
    Retained (place.unknown? p) (place.unknown? q) := by
  obtain ⟨-, -, sidecar, hsidecar, rfl⟩ := inject_eq_ok_iff.mp h
  cases place with
  | whole | metadata => exact .refl _
  | spec place => exact assemble_unknown? hsidecar place

end InjectionConfig

theorem Object.entries_dropNulls (o : Object) :
    Object.entries o.dropNulls = o.entries.filter fun e => e.2 ≠ .null := by
  rw [dropNulls, filter_entries]

/-- Every object of a document has its counterpart in the document of the injected pod. The counterpart
has exactly the entries that no field was read from and that are not null, in the same order; objects
without a counterpart in the first document have none. -/
theorem inject_keeps_unknown {c : InjectionConfig} {d : Value} {p injected : Pod}
    (h : Pod.decode d = .ok p) (hinject : c.inject p = .ok injected) (place : Pod.Place) :
    (∀ before, place.find? Schema.FieldName.value? d = some before →
      ∃ after, place.find? Schema.FieldName.underKey? injected.toValue = some after ∧
        Schema.additional place.fields after =
          (Schema.unread place.fields before).filter fun e => e.2 ≠ .null) ∧
    (place.find? Schema.FieldName.value? d = none →
      ∀ after, place.find? Schema.FieldName.underKey? injected.toValue = some after →
        Schema.additional place.fields after = []) := by
  have hp : p.Wellformed False False := Pod.reads d p False.elim False.elim h
  have hwell := InjectionConfig.inject_wellformed hinject hp
  have hwrite := place.additional_toValue hwell
  have hread := place.unread_of_decode h
  have hkeep := (InjectionConfig.inject_unknown? hinject place).map Object.entries rfl
  have hall := (hread.trans hkeep).map (List.filter fun e => e.2 ≠ .null) rfl
  have hwritten : ((place.unknown? injected).map Object.entries).map
      (List.filter fun e => e.2 ≠ .null) =
        (place.find? Schema.FieldName.underKey? injected.toValue).map (Schema.additional place.fields) := by
    rw [hwrite, Option.map_map]
    congr 1
    funext u
    exact (Object.entries_dropNulls u).symm
  rw [hwritten] at hall
  constructor
  · intro before hbefore
    rw [hbefore] at hall
    rcases hall with heq | ⟨habsent, -⟩
    · obtain ⟨after, hafter, heq⟩ := Option.map_eq_some_iff.mp heq
      exact ⟨after, hafter, heq⟩
    · nomatch habsent
  · intro habsent after hafter
    rw [habsent, hafter] at hall
    rcases hall with heq | ⟨-, heq⟩
    · nomatch heq
    · exact Option.some.inj heq

theorem inject_keeps_unknown_loose :
    let place : Pod.Place := .spec (.container false "app" (.envVar 0))
    ∃ p injected after, Pod.decode Pod.looseDocument = .ok p ∧
      InjectionConfig.inject { proxyImage := "registry/mca:1" } p = .ok injected ∧
      place.find? Schema.FieldName.underKey? injected.toValue = some after ∧
      Schema.additional place.fields after = [
        (.str "origin", .object [("b", .null), ("a", .int 1)]), (.str "rank", .int 2)] := by
  intro place
  obtain ⟨p, hp, injected, hinject⟩ : ∃ p, Pod.decode Pod.looseDocument = .ok p ∧
      ∃ injected, InjectionConfig.inject { proxyImage := "registry/mca:1" } p = .ok injected :=
    ⟨_, rfl, _, InjectionConfig.inject_of_port (by decide) rfl rfl⟩
  obtain ⟨before, hbefore, hunread⟩ : ∃ before,
      place.find? Schema.FieldName.value? Pod.looseDocument = some before ∧
      (Schema.unread place.fields before).filter (fun e => e.2 ≠ .null) = [
        (.str "origin", .object [("b", .null), ("a", .int 1)]), (.str "rank", .int 2)] :=
    ⟨_, rfl, by decide +kernel⟩
  obtain ⟨hkept, -⟩ := inject_keeps_unknown hp hinject place
  obtain ⟨after, hafter, hadditional⟩ := hkept before hbefore
  exact ⟨p, injected, after, hp, hinject, hafter, hadditional.trans hunread⟩

end Sidecar
