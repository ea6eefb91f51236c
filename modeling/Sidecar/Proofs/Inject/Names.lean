import Mathlib.Data.List.Sort
import Mathlib.Data.String.Basic
import Sidecar.Inject.Basic

/-!
Names that occur more than once. They are listed in strictly ascending order, so that the list is
given by its members alone: the order in which names come does not matter, nor does how often they
are repeated.
-/

namespace Sidecar

theorem mem_insertName {n name : String} {names : List String} :
    n ∈ insertName name names ↔ n = name ∨ n ∈ names := by
  induction names with
  | nil => simp [insertName]
  | cons m rest ih =>
    unfold insertName
    split_ifs with hlt heq
    · simp
    · subst heq
      simp
    · simp only [List.mem_cons, ih]
      tauto

theorem insertName_sorted {names : List String} (name : String) (h : names.SortedLT) :
    (insertName name names).SortedLT := by
  rw [List.sortedLT_iff_pairwise] at h ⊢
  induction names with
  | nil => simp [insertName]
  | cons m rest ih =>
    obtain ⟨hm, hrest⟩ := List.pairwise_cons.mp h
    unfold insertName
    split_ifs with hlt heq
    · refine List.pairwise_cons.mpr ⟨?_, h⟩
      intro x hx
      rcases List.mem_cons.mp hx with rfl | hx
      · exact hlt
      · exact hlt.trans (hm x hx)
    · exact h
    · refine List.pairwise_cons.mpr ⟨?_, ih hrest⟩
      intro x hx
      rcases mem_insertName.mp hx with rfl | hx
      · exact lt_of_le_of_ne (not_lt.mp hlt) (Ne.symm heq)
      · exact hm x hx

theorem repeatedNames_sorted (names : List String) : (repeatedNames names).SortedLT := by
  unfold repeatedNames
  induction names.filter fun n => 1 < names.count n with
  | nil => exact List.sortedLT_iff_pairwise.mpr List.Pairwise.nil
  | cons n rest ih => exact insertName_sorted n ih

theorem mem_repeatedNames {names : List String} {n : String} :
    n ∈ repeatedNames names ↔ 1 < names.count n := by
  have mem_foldr (l : List String) : n ∈ l.foldr insertName [] ↔ n ∈ l := by
    induction l with
    | nil => simp
    | cons m rest ih => simp [mem_insertName, ih]
  simp only [repeatedNames, mem_foldr, List.mem_filter, decide_eq_true_eq, and_iff_right_iff_imp]
  intro h
  exact List.count_pos_iff.mp (by omega)

/-- The names that stand more than once in a list, each of them once and in ascending order of characters. -/
structure Repeats (names repeated : List String) : Prop where
  sorted : repeated.SortedLT
  mem_iff (n : String) : n ∈ repeated ↔ 1 < names.count n

theorem repeats_repeatedNames (names : List String) : Repeats names (repeatedNames names) :=
  ⟨repeatedNames_sorted names, fun _ => mem_repeatedNames⟩

theorem Repeats.eq {names repeated others : List String} (h : Repeats names repeated)
    (hothers : Repeats names others) : repeated = others :=
  h.sorted.eq_of_mem_iff hothers.sorted fun n => by rw [h.mem_iff, hothers.mem_iff]

/-- Two lists with the same repeated names are refused with the same list of names. -/
theorem repeatedNames_congr {names others : List String}
    (h : ∀ n, 1 < names.count n ↔ 1 < others.count n) : repeatedNames names = repeatedNames others :=
  (repeats_repeatedNames names).eq
    ⟨repeatedNames_sorted others, fun n => mem_repeatedNames.trans (h n).symm⟩

theorem repeatedNames_ne_nil_iff {names : List String} :
    repeatedNames names ≠ [] ↔ ∃ n, 1 < names.count n := by
  rw [ne_eq, List.eq_nil_iff_forall_not_mem, not_forall_not]
  simp only [mem_repeatedNames]

theorem repeatedNames_eq_nil_iff {names : List String} : repeatedNames names = [] ↔ names.Nodup := by
  rw [List.eq_nil_iff_forall_not_mem, List.nodup_iff_count_le_one]
  simp only [mem_repeatedNames, not_lt]

end Sidecar
