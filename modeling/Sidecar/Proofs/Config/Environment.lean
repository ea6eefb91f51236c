import Mathlib.Tactic.Common
import Sidecar.Config.Settings
import Sidecar.Proofs.Schema.Field

/-!
What a configuration that is taken from the environment looks like. Five fields follow a variable each;
all others have their default.
-/

namespace Sidecar

theorem Environment.overrides_cons (env : Environment) (field variableName : String)
    (rest : List (String × String)) : env.overrides ((field, variableName) :: rest) =
      ((env.get? variableName).map fun s => (Value.str field, Value.str s)).toList ++
        env.overrides rest := by
  cases h : env.get? variableName <;> simp [overrides, h]

/-- Among the entries that the environment gives, a field has the value of its variable. -/
theorem Environment.field?_overrides (env : Environment) {names : List (String × String)}
    (h : (names.map Prod.fst).Nodup) (name : String) :
    (Value.map (env.overrides names)).field? name =
      ((names.lookup name).bind env.get?).map Value.str := by
  induction names with
  | nil => rfl
  | cons n rest ih =>
    obtain ⟨field, variableName⟩ := n
    obtain ⟨hfield, hrest⟩ := List.nodup_cons.mp h
    rw [overrides_cons]
    by_cases hname : name = field
    · subst hname
      -- the field does not come again
      have hnone : rest.lookup name = none := by
        rw [List.lookup_eq_none_iff]
        intro p hp
        simpa using fun he => hfield (List.mem_map.mpr ⟨p, hp, he.symm⟩)
      cases hget : env.get? variableName <;>
        simp [hget, hnone, ih hrest, Value.field?_cons_str]
    · cases hget : env.get? variableName <;>
        simp [ih hrest, Value.field?_cons_str, List.lookup_cons, beq_false_of_ne hname, Ne.symm hname]

theorem Schema.FieldName.find?_plain (name : String) (es : List (Value × Value)) :
    (FieldName.plain name).find? es = ((Value.map es).field? name).map (name, ·) := by
  cases h : (Value.map es).field? name <;> simp [find?, plain, h]

/-- The value of a field that follows a variable, as it is read from the variable's text. -/
def FromVariable {α : Type} (env : Environment) (name : String) (default : α)
    (read : Value → Schema.Checked α) (a : α) : Prop :=
  match env.get? name with
  | none => a = default
  | some s => read (.str s) = .ok a

/-- A variable gives one value. -/
theorem FromVariable.eq_iff {α : Type} {env : Environment} {name : String} {default a : α}
    {read : Value → Schema.Checked α} (h : FromVariable env name default read a) (b : α) :
    a = b ↔ FromVariable env name default read b := by
  unfold FromVariable at h ⊢
  cases hget : env.get? name with
  | none =>
    simp only [hget] at h
    rw [h, eq_comm]
  | some s =>
    simp only [hget] at h ⊢
    rw [h, Schema.Checked.ok.injEq]

/-- A field is read from its variable, if it has one. -/
theorem withDefault_overrides_eq_ok_iff {α : Type} {env : Environment} {names : List (String × String)}
    (h : (names.map Prod.fst).Nodup) {name : String} {default a : α}
    {read : Value → Schema.Checked α} :
    (Schema.FieldName.plain name).withDefault default read (env.overrides names) = .ok a ↔
      match names.lookup name with
      | none => a = default
      | some v => FromVariable env v default read a := by
  rw [Schema.FieldName.withDefault, Schema.FieldName.find?_plain, env.field?_overrides h]
  cases names.lookup name with
  | none => simp [eq_comm]
  | some v =>
    unfold FromVariable
    cases hget : env.get? v with
    | none => simp [hget, eq_comm]
    | some s => cases hread : read (.str s) <;> simp [hget, hread, Schema.Checked.within]

namespace InjectionConfig

theorem fieldVariables_nodup : (fieldVariables.map Prod.fst).Nodup := by decide

/-- All that the environment decides about a configuration, and that it decides nothing else. -/
theorem ofEnvironment_eq_ok_iff {env : Environment} {c : InjectionConfig} :
    ofEnvironment env = .ok c ↔ ∃ image pullPolicy host port policy,
      FromVariable env "MCA_PROXY_IMAGE" "" Schema.text image ∧
      FromVariable env "MCA_PROXY_IMAGE_PULL_POLICY" "IfNotPresent" Schema.text pullPolicy ∧
      FromVariable env "MCA_SERVICE_HOST" "127.0.0.1" Schema.text host ∧
      FromVariable env "MCA_SERVICE_PORT" 6443 Schema.integer port ∧
      FromVariable env "MCA_REDIRECT_POLICY" .always RedirectPolicy.decode policy ∧
      ({ proxyImage := image, proxyImagePullPolicy := pullPolicy, serviceHost := host,
         servicePort := port, redirectPolicy := policy } : InjectionConfig) = c := by
  rw [ofEnvironment, ofValue, Schema.Checked.report_eq_ok_iff]
  simp only [decode, Schema.model, Schema.Checked.seq_eq_ok_iff, Schema.Checked.map_eq_ok_iff,
    withDefault_overrides_eq_ok_iff fieldVariables_nodup]
  simp only [fieldVariables, List.lookup_cons, List.lookup_nil, String.reduceBEq]
  constructor
  · intro h
    aesop
  · rintro ⟨image, pullPolicy, host, port, policy, himage, hpull, hhost, hport, hpolicy, rfl⟩
    simp_all

/-- The volumes of injection have two names in every process. -/
theorem volumeNames_ne_of_ofEnvironment {env : Environment} {c : InjectionConfig}
    (h : ofEnvironment env = .ok c) : c.redirectVolumeName ≠ c.credentialsVolumeName := by
  obtain ⟨image, pullPolicy, host, port, policy, -, -, -, -, -, rfl⟩ := ofEnvironment_eq_ok_iff.mp h
  simp

end InjectionConfig

end Sidecar
