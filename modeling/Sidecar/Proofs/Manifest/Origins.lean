import Sidecar.Manifest
import Sidecar.Proofs.Pod.Reload

/-!
The origins of dates in what is written for a pod. They only say which dates are one object: a pod whose
objects are loaded from its text is written as what it was written as, up to the origins.
-/

namespace Sidecar

open Yaml (origins)

namespace Manifest

variable {ρ : Nat → Nat}

mutual

theorem shiftOrigins_reload (n : Nat) (v : Value) :
    shiftOrigins n (v.reload ρ) = v.reload fun o => ρ o + n := by
  cases v with
  | date d origin | timestamp t origin => cases origin <;> rfl
  | list items | tuple items | set items =>
    rw [Value.reload, Value.reload, shiftOrigins, shiftItems_reload n items]
  | map entries => rw [Value.reload, Value.reload, shiftOrigins, shiftEntries_reload n entries]
  | _ => rfl

theorem shiftItems_reload (n : Nat) (items : List Value) :
    shiftItems n (Value.reloadItems ρ items) = Value.reloadItems (fun o => ρ o + n) items := by
  cases items with
  | nil => rfl
  | cons v items =>
    rw [Value.reloadItems, Value.reloadItems, shiftItems, shiftOrigins_reload n v,
      shiftItems_reload n items]

theorem shiftEntries_reload (n : Nat) (entries : List (Value × Value)) :
    shiftEntries n (Value.reloadEntries ρ entries) = Value.reloadEntries (fun o => ρ o + n) entries := by
  cases entries with
  | nil => rfl
  | cons e entries =>
    obtain ⟨k, v⟩ := e
    rw [Value.reloadEntries, Value.reloadEntries, shiftEntries, shiftOrigins_reload n k,
      shiftOrigins_reload n v, shiftEntries_reload n entries]

end

mutual

theorem reload_shiftOrigins (n : Nat) (v : Value) :
    (shiftOrigins n v).reload ρ = v.reload fun o => ρ (o + n) := by
  cases v with
  | date d origin | timestamp t origin => cases origin <;> rfl
  | list items | tuple items | set items =>
    rw [shiftOrigins, Value.reload, Value.reload, reloadItems_shiftItems n items]
  | map entries => rw [shiftOrigins, Value.reload, Value.reload, reloadEntries_shiftEntries n entries]
  | _ => rfl

theorem reloadItems_shiftItems (n : Nat) (items : List Value) :
    Value.reloadItems ρ (shiftItems n items) = Value.reloadItems (fun o => ρ (o + n)) items := by
  cases items with
  | nil => rfl
  | cons v items =>
    rw [shiftItems, Value.reloadItems, Value.reloadItems, reload_shiftOrigins n v,
      reloadItems_shiftItems n items]

theorem reloadEntries_shiftEntries (n : Nat) (entries : List (Value × Value)) :
    Value.reloadEntries ρ (shiftEntries n entries) =
      Value.reloadEntries (fun o => ρ (o + n)) entries := by
  cases entries with
  | nil => rfl
  | cons e entries =>
    obtain ⟨k, v⟩ := e
    rw [shiftEntries, Value.reloadEntries, Value.reloadEntries, reload_shiftOrigins n k,
      reload_shiftOrigins n v, reloadEntries_shiftEntries n entries]

end

mutual

/-- What is loaded can be written exactly if the text could be. -/
theorem isWritable_reload (v : Value) : isWritable (v.reload ρ) = isWritable v := by
  cases v with
  | list items | tuple items | set items => exact itemsWritable_reload items
  | map entries => exact entriesWritable_reload entries
  | _ => rfl

theorem itemsWritable_reload (items : List Value) :
    itemsWritable (Value.reloadItems ρ items) = itemsWritable items := by
  cases items with
  | nil => rfl
  | cons v items =>
    rw [Value.reloadItems, itemsWritable, itemsWritable, isWritable_reload v, itemsWritable_reload items]

theorem entriesWritable_reload (entries : List (Value × Value)) :
    entriesWritable (Value.reloadEntries ρ entries) = entriesWritable entries := by
  cases entries with
  | nil => rfl
  | cons e entries =>
    obtain ⟨k, v⟩ := e
    rw [Value.reloadEntries, entriesWritable, entriesWritable, isWritable_reload k, isWritable_reload v,
      entriesWritable_reload entries]

end

theorem isWritable_shiftOrigins (n : Nat) (v : Value) : isWritable (shiftOrigins n v) = isWritable v := by
  rw [← isWritable_reload (ρ := id), reload_shiftOrigins, isWritable_reload]

theorem origins_shiftOrigins (n : Nat) (v : Value) :
    origins (shiftOrigins n v) = (origins v).map (· + n) := by
  have h := Yaml.origins_reload (ρ := id) (shiftOrigins n v)
  rw [reload_shiftOrigins, Yaml.origins_reload, List.map_id] at h
  exact h.symm

theorem shiftOrigins_eq_null_iff {n : Nat} {v : Value} : shiftOrigins n v = .null ↔ v = .null := by
  cases v <;> simp [shiftOrigins]

theorem mem_origins_map_iff {o : Object} {k : Nat} :
    k ∈ origins (.map o.entries) ↔ ∃ e ∈ o, k ∈ origins e.2 := by
  rw [origins]
  induction o with
  | nil => simp [Object.entries, Yaml.entryOrigins]
  | cons e o ih =>
    rw [Object.entries_cons, Yaml.entryOrigins, List.mem_append, ih]
    simp [origins]

theorem mem_origins_ofFields_iff {declared : List (Schema.FieldName × Value)} {unknown : Object} {k : Nat} :
    k ∈ origins (Value.ofFields declared unknown) ↔
      (∃ d ∈ declared, k ∈ origins d.2) ∨ ∃ e ∈ unknown, k ∈ origins e.2 := by
  have hnull {v : Value} (h : k ∈ origins v) : v ≠ .null := by
    rintro rfl
    simp [origins] at h
  rw [Value.ofFields_eq_map, mem_origins_map_iff]
  constructor
  · rintro ⟨e, he, hk⟩
    obtain ⟨⟨f, hf, -⟩ | he, -⟩ := Object.mem_ofFields_iff.mp he
    · exact .inl ⟨_, hf, hk⟩
    · exact .inr ⟨e, he, hk⟩
  · rintro (⟨d, hd, hk⟩ | ⟨e, he, hk⟩)
    · exact ⟨(d.1.key, d.2), Object.mem_ofFields_iff.mpr ⟨.inl ⟨d.1, hd, rfl⟩, hnull hk⟩, hk⟩
    · exact ⟨e, Object.mem_ofFields_iff.mpr ⟨.inr he, hnull hk⟩, hk⟩

/-- What the origins in the unknown entries of a pod are moved by, to be those of no field. -/
def bound (p : Pod) : Nat := (origins p.toValue).foldl max 0 + 1

theorem lt_bound {p : Pod} {k : Nat} (h : k ∈ origins p.toValue) : k < bound p := by
  have hfold (ks : List Nat) (n : Nat) : n ≤ ks.foldl max n ∧ ∀ k ∈ ks, k ≤ ks.foldl max n := by
    induction ks generalizing n with
    | nil => simp
    | cons m ks ih =>
      obtain ⟨hstart, hall⟩ := ih (max n m)
      rw [List.foldl_cons, List.forall_mem_cons]
      exact ⟨by omega, by omega, hall⟩
  exact Nat.lt_succ_of_le ((hfold _ 0).2 k h)

theorem unshare_eq (p : Pod) :
    unshare p = { p with unknown := p.unknown.mapValues (shiftOrigins (bound p)) } :=
  rfl

theorem toValue_unshare (p : Pod) : (unshare p).toValue =
    Value.ofFields p.declared (p.unknown.mapValues (shiftOrigins (bound p))) :=
  rfl

section

variable {p : Pod} {o : Nat}

theorem lt_bound_of_declared {d : Schema.FieldName × Value} (hd : d ∈ p.declared) (ho : o ∈ origins d.2) :
    o < bound p :=
  lt_bound (mem_origins_ofFields_iff.mpr (.inl ⟨d, hd, ho⟩))

theorem bound_le_of_unshared {e : String × Value}
    (he : e ∈ p.unknown.mapValues (shiftOrigins (bound p))) (ho : o ∈ origins e.2) : bound p ≤ o := by
  obtain ⟨v, -, hv⟩ := Object.mem_mapValues_iff.mp he
  rw [← hv, origins_shiftOrigins] at ho
  obtain ⟨k, -, rfl⟩ := List.mem_map.mp ho
  exact Nat.le_add_left ..

/-- The pod that is read from the text of an unshared one. -/
def reread (ρ : Nat → Nat) (p : Pod) : Pod := ((unshare p).mapObjects (.reload ρ)).dropNulls

theorem toValue_reread : (reread ρ p).toValue = (unshare p).toValue.reload ρ := by
  rw [reread, Pod.toValue_dropNulls, Pod.toValue_reload]

theorem lt_bound_reread (ho : o ∈ origins (unshare p).toValue) : ρ o < bound (reread ρ p) := by
  refine lt_bound ?_
  rw [toValue_reread, Yaml.origins_reload]
  exact List.mem_map_of_mem ho

theorem declared_reread : (reread ρ p).declared = p.declared.map fun d => (d.1, d.2.reload ρ) := by
  rw [reread, Pod.declared_dropNulls, Pod.declared_reload]
  rfl

theorem unknown_reread (n : Nat) : (reread ρ p).unknown.mapValues (shiftOrigins n) =
    ((p.unknown.mapValues (shiftOrigins (bound p))).mapValues
      (Value.reload fun o => ρ o + n)).dropNulls := by
  have hcomp : shiftOrigins n ∘ Value.reload ρ = Value.reload fun o => ρ o + n :=
    funext fun v => shiftOrigins_reload _ v
  rw [← hcomp, ← Object.mapValues_mapValues, ← Object.mapValues_dropNulls fun _ => shiftOrigins_eq_null_iff]
  rfl

/-- The pod that is read from the text of an unshared one is written as the latter was, with dates of
other origins that are one object where they were. -/
theorem exists_reload_unshare (hρ : Set.InjOn ρ {o | o ∈ origins (unshare p).toValue}) :
    ∃ σ : Nat → Nat, Set.InjOn σ {o | o ∈ origins (unshare p).toValue} ∧
      (unshare (reread ρ p)).toValue = (unshare p).toValue.reload σ := by
  -- The origins of fields are below the bound, those of unknown entries are not: these move once more.
  refine ⟨fun o => if o < bound p then ρ o else ρ o + bound (reread ρ p), fun o ho k hk heq => ?_, ?_⟩
  · have ho' := lt_bound_reread (ρ := ρ) ho
    have hk' := lt_bound_reread (ρ := ρ) hk
    refine hρ ho hk ?_
    dsimp only at heq
    split_ifs at heq <;> omega
  · rw [toValue_unshare (reread ρ p), declared_reread, unknown_reread, Value.ofFields_dropNulls,
      toValue_unshare, Value.reload_ofFields]
    congr 1
    · refine List.map_congr_left fun d hd => ?_
      rw [Yaml.reload_congr d.2 fun o ho => (if_pos (lt_bound_of_declared hd ho)).symm]
    · refine Object.mapValues_congr fun e he => ?_
      exact Yaml.reload_congr e.2 fun o ho =>
        (if_neg (Nat.not_lt.mpr (bound_le_of_unshared he ho))).symm

end

end Manifest

end Sidecar
