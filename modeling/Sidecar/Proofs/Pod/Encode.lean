import Mathlib.Data.List.Nodup
import Sidecar.Pod.Encode
import Sidecar.Proofs.Pod.Wellformed

/-!
What declared fields and unknown entries are written as. The object is JSON if its values are; and if no
unknown entry has the name of a declared field, all fields are found again in it.
-/

namespace Sidecar

/-- The entries that are not null. -/
def Object.dropNulls (o : Object) : Object := o.filter fun e => e.2 ≠ .null

/-- The entries of declared fields, and then the unknown entries, unless they are null. -/
def Object.ofFields (declared : List (Schema.FieldName × Value)) (unknown : Object) : Object :=
  Object.dropNulls (declared.map (fun d => (d.1.key, d.2)) ++ unknown)

/-- Fields have distinct keys, and the name of a field is not the key of another. -/
def Schema.Distinct (fields : List Schema.FieldName) : Prop :=
  (fields.map FieldName.key).Nodup ∧ ∀ f ∈ fields, ∀ g ∈ fields, f.name = g.key → f = g

instance (fields : List Schema.FieldName) : Decidable (Schema.Distinct fields) :=
  inferInstanceAs (Decidable (_ ∧ _))

variable {α β : Type} {strict json : Prop} {declared : List (Schema.FieldName × Value)} {unknown : Object}

theorem Value.ofFields_eq :
    Value.ofFields declared unknown = Value.object (Object.ofFields declared unknown) :=
  rfl

theorem Value.ofFields_eq_map (declared : List (Schema.FieldName × Value)) (unknown : Object) :
    ofFields declared unknown = .map (Object.ofFields declared unknown).entries :=
  rfl

namespace Object

theorem mem_dropNulls_iff {o : Object} {e : String × Value} : e ∈ o.dropNulls ↔ e ∈ o ∧ e.2 ≠ .null := by
  simp [dropNulls, List.mem_filter]

theorem mem_ofFields_iff {e : String × Value} : e ∈ ofFields declared unknown ↔
    ((∃ f, (f, e.2) ∈ declared ∧ f.key = e.1) ∨ e ∈ unknown) ∧ e.2 ≠ .null := by
  obtain ⟨k, v⟩ := e
  rw [ofFields, mem_dropNulls_iff, List.mem_append, List.mem_map]
  refine and_congr_left fun _ => or_congr_left ?_
  constructor
  · rintro ⟨⟨f, w⟩, hmem, heq⟩
    obtain ⟨rfl, rfl⟩ := Prod.mk.inj heq
    exact ⟨f, hmem, rfl⟩
  · rintro ⟨f, hmem, rfl⟩
    exact ⟨(f, v), hmem, rfl⟩

theorem ofFields_isJson (hfields : Schema.Distinct (declared.map Prod.fst))
    (hvalues : ∀ d ∈ declared, d.2.isJson = true)
    (hunknown : unknown.Unclaimed strict True (declared.map Prod.fst)) :
    (ofFields declared unknown).IsJson := by
  refine ⟨?_, fun e he => ?_⟩
  · refine List.Nodup.sublist (List.filter_sublist.map _) ?_
    rw [List.map_append, List.nodup_append]
    refine ⟨?_, (hunknown.isJson trivial).nodup, ?_⟩
    · have hkeys := hfields.1
      rw [List.map_map] at hkeys ⊢
      exact hkeys
    · intro k hk l hl
      obtain ⟨⟨_, v⟩, hmem, rfl⟩ := List.mem_map.mp hk
      obtain ⟨⟨f, w⟩, hf, hkey⟩ := List.mem_map.mp hmem
      obtain ⟨e, he, rfl⟩ := List.mem_map.mp hl
      obtain ⟨rfl, rfl⟩ := Prod.mk.inj hkey
      exact (hunknown.key_ne e he f (List.mem_map.mpr ⟨_, hf, rfl⟩)).symm
  · obtain ⟨⟨f, hf, -⟩ | he, -⟩ := mem_ofFields_iff.mp he
    · exact hvalues _ hf
    · exact (hunknown.isJson trivial).values e he

end Object

namespace Schema

/-- Declared fields with their values, and unknown entries under other keys. -/
structure Apart (declared : List (FieldName × Value)) (unknown : Object) : Prop where
  fields : Distinct (declared.map Prod.fst)
  key_ne : ∀ e ∈ unknown, ∀ f ∈ declared.map Prod.fst, e.1 ≠ f.key

/-- Unknown entries that are not taken for a declared field either: they have the name of a field only
if the field itself is there. -/
structure Separate (declared : List (FieldName × Value)) (unknown : Object) : Prop
    extends Apart declared unknown where
  value_ne : ∀ e ∈ unknown, e.2 ≠ .null → ∀ d ∈ declared, e.1 = d.1.name → d.2 ≠ .null

theorem separate_of_unclaimed (hfields : Distinct (declared.map Prod.fst))
    (hunknown : unknown.Unclaimed True json (declared.map Prod.fst)) : Separate declared unknown :=
  ⟨⟨hfields, hunknown.key_ne⟩, fun e he _ d hd hname =>
    absurd hname (hunknown.name_ne trivial e he d.1 (List.mem_map_of_mem hd))⟩

variable {read : Value → Checked α} {f : FieldName} {v : Value}

/-- What stands under the key of a declared field, and is not unknown, is the value of the field. -/
theorem eq_of_mem_ofFields {k : String} {w : Value} (hfields : Distinct (declared.map Prod.fst))
    (hmem : (f, v) ∈ declared) (hdeclared : ∀ g ∈ declared.map Prod.fst, g.key = k → f.key = g.key)
    (hw : (k, w) ∈ Object.ofFields declared unknown) (hunknown : (k, w) ∉ unknown) :
    w = v ∧ v ≠ .null := by
  obtain ⟨⟨g, hg, hkey⟩ | he, hne⟩ := Object.mem_ofFields_iff.mp hw
  · have hkeys := hfields.1
    rw [List.map_map] at hkeys
    have heq := hdeclared g (List.mem_map.mpr ⟨_, hg, rfl⟩) hkey
    obtain ⟨-, rfl⟩ := Prod.mk.inj (List.inj_on_of_nodup_map hkeys hmem hg heq)
    exact ⟨rfl, hne⟩
  · exact absurd he hunknown

/-- A declared field stands under its key, unless it is null. -/
theorem lookup_ofFields (h : Apart declared unknown) (hmem : (f, v) ∈ declared) :
    (Object.ofFields declared unknown).lookup f.key = if v = .null then none else some v := by
  have hf : f ∈ declared.map Prod.fst := List.mem_map.mpr ⟨_, hmem, rfl⟩
  cases hlookup : (Object.ofFields declared unknown).lookup f.key with
  | some w =>
    obtain ⟨rfl, hne⟩ := eq_of_mem_ofFields h.fields hmem (fun _ _ h => h.symm)
      (Object.mem_of_lookup hlookup) fun he => h.key_ne _ he f hf rfl
    rw [if_neg hne]
  | none =>
    by_cases hv : v = .null
    · rw [if_pos hv]
    · have hsome : ((Object.ofFields declared unknown).lookup f.key).isSome = true :=
        Object.lookup_isSome_of_mem (e := (f.key, v))
          (Object.mem_ofFields_iff.mpr ⟨.inl ⟨f, hmem, rfl⟩, hv⟩)
      rw [hlookup] at hsome
      nomatch hsome

/-- Nothing stands under the name of a field that is null. -/
theorem lookup_name_ofFields (h : Separate declared unknown) (hmem : (f, .null) ∈ declared) :
    (Object.ofFields declared unknown).lookup f.name = none := by
  rw [Option.eq_none_iff_forall_ne_some]
  intro w hw
  have hf : f ∈ declared.map Prod.fst := List.mem_map.mpr ⟨_, hmem, rfl⟩
  have hdeclared : ∀ g ∈ declared.map Prod.fst, g.key = f.name → f.key = g.key := by
    intro g hg hname
    rw [h.fields.2 f hf g hg hname.symm]
  have hmemw := Object.mem_of_lookup hw
  have hunknown : (f.name, w) ∉ unknown := fun he =>
    h.value_ne _ he (Object.mem_ofFields_iff.mp hmemw).2 _ hmem rfl rfl
  exact (eq_of_mem_ofFields h.fields hmem hdeclared hmemw hunknown).2 rfl

/-- A declared field is found again, unless it is null. -/
theorem get?_ofFields (h : Separate declared unknown) (hmem : (f, v) ∈ declared) :
    f.get? (Object.ofFields declared unknown) = if v = .null then none else some v := by
  rw [FieldName.get?, lookup_ofFields h.toApart hmem]
  split_ifs with hv
  · subst hv
    rw [Option.none_or, lookup_name_ofFields h hmem]
  · rw [Option.some_or]

theorem required_ofFields (h : Separate declared unknown) {a : α} (hmem : (f, v) ∈ declared)
    (hv : v ≠ .null) (hread : read v = .ok a) :
    f.required read (Object.ofFields declared unknown).entries = .ok a := by
  rw [FieldName.required_eq_ok_iff, get?_ofFields h hmem, if_neg hv]
  exact ⟨v, rfl, hread⟩

theorem withDefault_ofFields (h : Separate declared unknown) {default a : α}
    (hmem : (f, v) ∈ declared) (hv : v ≠ .null) (hread : read v = .ok a) :
    f.withDefault default read (Object.ofFields declared unknown).entries = .ok a := by
  rw [FieldName.withDefault_eq_ok_iff, get?_ofFields h hmem, if_neg hv]
  exact hread

theorem optional_ofFields (h : Separate declared unknown) {w : β → Value} {x : Option β} {g : β → α}
    (hmem : (f, Value.optional w x) ∈ declared)
    (hread : ∀ b ∈ x, w b ≠ .null ∧ read (w b) = .ok (g b)) :
    f.optional read (Object.ofFields declared unknown).entries = .ok (x.map g) := by
  rw [FieldName.optional_eq_ok_iff, get?_ofFields h hmem]
  cases x with
  | none => simp [Value.optional]
  | some b =>
    obtain ⟨hne, hb⟩ := hread b rfl
    have hw : Value.optional w (some b) = w b := rfl
    rw [hw, if_neg hne, Option.filter_some_pos (by simpa using hne), Option.map_some,
      Option.rel_some_some]
    exact hb

/-- An unknown entry is taken for a declared field if it has the name of one that is null. -/
theorem mem_takenKeys_ofFields_iff (h : Apart declared unknown) {e : String × Value} (he : e ∈ unknown)
    (hne : e.2 ≠ .null) :
    e.1 ∈ takenKeys (declared.map Prod.fst) (Object.ofFields declared unknown) ↔
      ∃ d ∈ declared, e.1 = d.1.name ∧ d.2 = .null := by
  have hlookup : ((Object.ofFields declared unknown).lookup e.1).isSome = true :=
    Object.lookup_isSome_of_mem (Object.mem_ofFields_iff.mpr ⟨.inr he, hne⟩)
  rw [mem_takenKeys_iff]
  constructor
  · rintro ⟨f, hf, ⟨hkey, -⟩ | ⟨hname, hnone, -⟩⟩
    · exact absurd hkey (h.key_ne e he f hf)
    · obtain ⟨⟨_, v⟩, hd, rfl⟩ := List.mem_map.mp hf
      rw [lookup_ofFields h hd] at hnone
      exact ⟨_, hd, hname, by simpa using hnone⟩
  · rintro ⟨⟨f, v⟩, hd, hname, rfl⟩
    have hnone := lookup_ofFields h hd
    rw [if_pos rfl] at hnone
    exact ⟨f, List.mem_map.mpr ⟨_, hd, rfl⟩, .inr ⟨hname, hnone, hname ▸ hlookup⟩⟩

/-- The entries that are left over are the unknown ones that are not taken for declared fields. -/
theorem undeclared_ofFields_eq (declared : List (FieldName × Value)) (unknown : Object) :
    undeclared (declared.map Prod.fst) (Object.ofFields declared unknown).entries =
      .ok (unknown.dropNulls.filter fun e =>
        e.1 ∉ takenKeys (declared.map Prod.fst) (Object.ofFields declared unknown)) := by
  rw [undeclared_entries]
  congr 1
  set o := Object.ofFields declared unknown with ho
  have hdeclared : (Object.dropNulls (declared.map fun d => (d.1.key, d.2))).filter
      (fun e => e.1 ∉ takenKeys (declared.map Prod.fst) o) = [] := by
    rw [List.filter_eq_nil_iff]
    intro e he
    obtain ⟨hmem, hne⟩ := Object.mem_dropNulls_iff.mp he
    obtain ⟨⟨f, v⟩, hf, rfl⟩ := List.mem_map.mp hmem
    have hlookup : (o.lookup f.key).isSome = true := Object.lookup_isSome_of_mem
      (Object.mem_ofFields_iff.mpr ⟨.inl ⟨f, hf, rfl⟩, hne⟩)
    have htaken : f.key ∈ takenKeys (declared.map Prod.fst) o :=
      mem_takenKeys_iff.mpr ⟨f, List.mem_map.mpr ⟨_, hf, rfl⟩, .inl ⟨rfl, hlookup⟩⟩
    simpa using htaken
  have hsplit : o = Object.dropNulls (declared.map fun d => (d.1.key, d.2)) ++ unknown.dropNulls :=
    List.filter_append ..
  generalize takenKeys (declared.map Prod.fst) o = taken at hdeclared ⊢
  rw [hsplit, List.filter_append, hdeclared, List.nil_append]

/-- The entries that are left over are the unknown ones. -/
theorem undeclared_ofFields (h : Separate declared unknown) :
    undeclared (declared.map Prod.fst) (Object.ofFields declared unknown).entries =
      .ok unknown.dropNulls := by
  rw [undeclared_ofFields_eq]
  congr 1
  rw [List.filter_eq_self]
  intro e he
  obtain ⟨he, hne⟩ := Object.mem_dropNulls_iff.mp he
  rw [decide_eq_true_eq, mem_takenKeys_ofFields_iff h.toApart he hne]
  rintro ⟨d, hd, hname, hnull⟩
  exact h.value_ne e he hne d hd hname hnull

/-- If no unknown entry is missing from those that are left over, none is taken for a declared field. -/
theorem separate_of_undeclared (h : Apart declared unknown) {left : Object}
    (hleft : undeclared (declared.map Prod.fst) (Object.ofFields declared unknown).entries = .ok left)
    (hlength : unknown.length ≤ left.length) : Separate declared unknown := by
  rw [undeclared_ofFields_eq] at hleft
  obtain rfl := Checked.ok.inj hleft
  have hdrop : unknown.dropNulls.length ≤ unknown.length := List.length_filter_le ..
  have hall := List.length_filter_eq_length_iff.mp
    (Nat.le_antisymm (List.length_filter_le ..) (Nat.le_trans hdrop hlength))
  refine ⟨h, fun e he hne d hd hname hnull => ?_⟩
  have hkept := hall e (Object.mem_dropNulls_iff.mpr ⟨he, hne⟩)
  rw [decide_eq_true_eq, mem_takenKeys_ofFields_iff h he hne] at hkept
  exact hkept ⟨d, hd, hname, hnull⟩

/-- All fields of what is written stand under their keys, unless an unknown entry is taken for one. -/
theorem keyed_ofFields_iff (h : Apart declared unknown) :
    keyed (declared.map Prod.fst) (Value.ofFields declared unknown) = true ↔ Separate declared unknown := by
  have hkeyed : keyed (declared.map Prod.fst) (Value.ofFields declared unknown) = true ↔
      ∀ d ∈ declared, d.2 = .null → (Object.ofFields declared unknown).lookup d.1.name = none := by
    rw [keyed, List.all_eq_true, List.forall_mem_map]
    refine forall₂_congr fun d hd => ?_
    rw [Value.ofFields_eq_map, Value.field?_entries, Value.field?_entries,
      lookup_ofFields h (v := d.2) hd]
    by_cases hnull : d.2 = .null <;> simp [hnull]
  rw [hkeyed]
  constructor
  · intro hnone
    refine ⟨h, fun e he hne d hd hname hnull => ?_⟩
    have hlookup : ((Object.ofFields declared unknown).lookup e.1).isSome = true :=
      Object.lookup_isSome_of_mem (Object.mem_ofFields_iff.mpr ⟨.inr he, hne⟩)
    rw [hname, hnone d hd hnull] at hlookup
    nomatch hlookup
  · rintro hs ⟨f, v⟩ hd rfl
    exact lookup_name_ofFields hs hd

theorem optional_ofFields_self (h : Separate declared unknown) {w : α → Value} {x : Option α}
    (hmem : (f, Value.optional w x) ∈ declared)
    (hread : ∀ a ∈ x, w a ≠ .null ∧ read (w a) = .ok a) :
    f.optional read (Object.ofFields declared unknown).entries = .ok x := by
  have hmap := optional_ofFields h hmem hread
  rwa [Option.map_id'] at hmap

theorem list_map {write : β → Value} {g : β → α} {bs : List β}
    (h : ∀ b ∈ bs, read (write b) = .ok (g b)) :
    list read (.list (bs.map write)) = .ok (bs.map g) := by
  rw [list_eq_ok_iff, List.forall₂_map_left_iff, List.forall₂_map_right_iff, List.forall₂_same]
  exact h

theorem list_text (ss : List String) : list text (Value.strings ss) = .ok ss := by
  have hmap : list text (.list (ss.map .str)) = .ok (ss.map id) := list_map fun _ _ => rfl
  rwa [List.map_id] at hmap

end Schema

end Sidecar
