import Mathlib.Data.List.Nodup
import Sidecar.Proofs.Value.Object
import Sidecar.Registration.Store

/-!
A store is consistent if its names are distinct, its versions are, and all of them have been given. Writes
and deletions keep it so.
-/

namespace Sidecar.RegistrationStore

/-- All names are distinct and all versions are; each version is below the one that is given next. -/
structure Consistent (s : RegistrationStore) : Prop where
  names : (s.objects.map Prod.fst).Nodup
  versions : (s.objects.map (·.2.version)).Nodup
  below : ∀ e ∈ s.objects, e.2.version < s.counter + 1

variable {s : RegistrationStore} {name : String} {content : Option Registration}

theorem lookup_isSome_iff : (s.objects.lookup name).isSome = true ↔ name ∈ s.objects.map Prod.fst := by
  rw [List.lookup_isSome_iff]
  aesop

/-- An object is written in place of the one that has its name, or else at the end. -/
theorem put_objects (h : (s.objects.map Prod.fst).Nodup) :
    (s.put name content).objects = Schema.insert name ⟨s.counter + 1, content⟩ s.objects := by
  unfold put
  split_ifs with hname
  · rw [Schema.insert_of_mem h (lookup_isSome_iff.mp hname)]
  · rw [Schema.insert_of_not_mem (mt lookup_isSome_iff.mpr hname)]

@[simp] theorem put_counter : (s.put name content).counter = s.counter + 1 := rfl

@[simp] theorem delete_counter : (s.delete name).counter = s.counter := rfl

theorem lookup_put (h : (s.objects.map Prod.fst).Nodup) (other : String) :
    (s.put name content).objects.lookup other =
      if other = name then some ⟨s.counter + 1, content⟩ else s.objects.lookup other := by
  rw [put_objects h, Schema.lookup_insert]

/-- What has been written under a name is found there, in any store. -/
theorem lookup_put_self (s : RegistrationStore) (name : String) (content : Option Registration) :
    (s.put name content).objects.lookup name = some ⟨s.counter + 1, content⟩ := by
  have hmap (objects : List (String × StoredObject)) (o : StoredObject)
      (h : (objects.lookup name).isSome) :
      (objects.map fun e => (e.1, if e.1 = name then o else e.2)).lookup name = some o := by
    induction objects with
    | nil => cases h
    | cons e rest ih =>
      rw [List.map_cons, List.lookup_cons]
      by_cases hname : e.1 = name
      · simp [hname]
      · have hne : (name == e.1) = false := by simpa using Ne.symm hname
        rw [List.lookup_cons, hne] at h
        simp only [hne]
        exact ih h
  unfold put
  split_ifs with hname
  · exact hmap s.objects _ hname
  · have hnone : s.objects.lookup name = none := Option.not_isSome_iff_eq_none.mp hname
    simp [List.lookup_append, hnone]

theorem Consistent.put (h : s.Consistent) (name : String) (content : Option Registration) :
    (s.put name content).Consistent := by
  have hobjects : (s.put name content).objects = Schema.insert name ⟨s.counter + 1, content⟩ s.objects :=
    put_objects h.names
  refine ⟨?_, ?_, fun e he => ?_⟩
  · rw [hobjects]
    exact Schema.nodup_insert h.names
  · rw [hobjects]
    exact Schema.nodup_map_insert h.versions fun e he => Nat.ne_of_lt (h.below e he)
  · rw [hobjects] at he
    rw [put_counter]
    rcases Schema.mem_insert he with rfl | hold
    · exact Nat.lt_succ_self _
    · exact Nat.lt_succ_of_lt (h.below e hold)

theorem Consistent.delete (h : s.Consistent) (name : String) : (s.delete name).Consistent :=
  ⟨h.names.sublist (List.filter_sublist.map _), h.versions.sublist (List.filter_sublist.map _),
    fun e he => h.below e (List.mem_of_mem_filter he)⟩

/-- The stores that writes lead to are consistent. -/
theorem consistent_ofNames (names : List String) : (ofNames names).Consistent := by
  have hfold (s : RegistrationStore) (h : s.Consistent) :
      (names.foldl (fun s name => s.put name none) s).Consistent := by
    induction names generalizing s with
    | nil => exact h
    | cons name names ih => exact ih _ (h.put name none)
  exact hfold {} ⟨List.nodup_nil, List.nodup_nil, by simp⟩

end Sidecar.RegistrationStore
