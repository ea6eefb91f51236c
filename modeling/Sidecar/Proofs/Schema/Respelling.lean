import Mathlib.Data.List.Perm.Basic
import Sidecar.Proofs.Pod.Spelling

/-!
Objects in which declared fields are spelled and placed in another way. If no field is there twice, then
each of them has the same value in both, and the same entries are left over.
-/

namespace Sidecar

theorem Value.sameKey_str_iff {k : Value} {s : String} : k.sameKey (.str s) = true ↔ k = .str s := by
  cases k with
  | float x => cases hx : x.toInt? <;> simp [sameKey, integer?, hx]
  | _ => simp [sameKey, integer?]

theorem Value.field?_isSome_of_mem {es : List (Value × Value)} {s : String} {v : Value}
    (h : (.str s, v) ∈ es) : ((Value.map es).field? s).isSome = true := by
  simp only [field?, Option.isSome_map, List.find?_isSome]
  exact ⟨(.str s, v), h, sameKey_str_iff.mpr rfl⟩

namespace Schema

/-- Whether a key is one of the two spellings of a field. -/
def FieldName.spells (f : FieldName) (k : Value) : Bool := k = .str f.key || k = .str f.name

/-- Whether a key is a spelling of one of the fields. -/
def declares (fields : List FieldName) (k : Value) : Bool := fields.any (·.spells k)

/-- No spelling is shared by two fields. -/
def SpelledApart (fields : List FieldName) : Prop :=
  ∀ f ∈ fields, ∀ g ∈ fields, f = g ∨ f.key ≠ g.key ∧ f.key ≠ g.name ∧ f.name ≠ g.key ∧ f.name ≠ g.name

instance (fields : List FieldName) : Decidable (SpelledApart fields) :=
  inferInstanceAs (Decidable (∀ f ∈ fields, _))

/-- The entries that a value is read from, if it is an object. -/
def entriesOf : Value → List (Value × Value)
  | .map es => es
  | _ => []

/-- The entries that stand under one of the spellings of a field. -/
def FieldName.held (f : FieldName) (es : List (Value × Value)) : List (Value × Value) :=
  es.filter fun e => f.spells e.1

/-- In no object does a field stand twice, be it under one spelling or under both. -/
def HeldOnce (parts : Parts) : Prop :=
  ∀ part ∈ parts, ∀ f ∈ part.1, (f.held (entriesOf part.2)).length ≤ 1

/-- In no object does a key stand twice. -/
def DistinctlyKeyed (parts : Parts) : Prop :=
  ∀ part ∈ parts, ((entriesOf part.2).map Prod.fst).Nodup

instance (parts : Parts) : Decidable (DistinctlyKeyed parts) :=
  inferInstanceAs (Decidable (∀ part ∈ parts, _))

/-- The relation of a value to what becomes of it. -/
abbrev Change := Value → Value → Prop

/-- Nothing is respelled in a value. -/
def unchanged : Change := fun v v' => v' = v

/-- What becomes of the values of some fields. Nothing is respelled in those of others. -/
def changes (inner : List (FieldName × Change)) (f : FieldName) : Change :=
  (inner.lookup f).getD unchanged

/-- An entry before and after its key is respelled. The value of a field may be respelled as well, while
all other entries are data. -/
def Rekeyed (fields : List FieldName) (within : FieldName → Change) (e e' : Value × Value) : Prop :=
  (∃ f ∈ fields, f.spells e.1 = true ∧ f.spells e'.1 = true ∧ within f e.2 e'.2) ∨
    declares fields e.1 = false ∧ e' = e

/-- An object after each of its fields has been respelled and moved to any place among its siblings. The
other entries keep their order. -/
def respelled (fields : List FieldName) (within : FieldName → Change) : Change
  | .map es, .map es' => ∃ rekeyed, List.Forall₂ (Rekeyed fields within) es rekeyed ∧
      rekeyed.Perm es' ∧
      rekeyed.filter (fun e => !declares fields e.1) = es'.filter fun e => !declares fields e.1
  | v, v' => v' = v

/-- A list after the objects in it have been respelled. -/
def eachRespelled (change : Change) : Change
  | .list vs, .list vs' | .tuple vs, .tuple vs' => List.Forall₂ change vs vs'
  | v, v' => v' = v

variable {α : Type} {fields : List FieldName} {f : FieldName} {es es' : List (Value × Value)}
  {within : FieldName → Change} {change : Change} {parts : Value → Parts} {read : Value → Checked α}

theorem FieldName.spells_iff {k : Value} :
    f.spells k = true ↔ k = .str f.key ∨ k = .str f.name := by
  simp [spells]

theorem FieldName.held_cons (f : FieldName) (e : Value × Value) (es : List (Value × Value)) :
    f.held (e :: es) = if f.spells e.1 then e :: f.held es else f.held es :=
  List.filter_cons

theorem declares_eq_true_iff {k : Value} :
    declares fields k = true ↔ ∃ f ∈ fields, f.spells k = true := by
  simp [declares]

theorem SpelledApart.eq (h : SpelledApart fields) {f g : FieldName} (hf : f ∈ fields) (hg : g ∈ fields)
    {k : Value} (hfk : f.spells k = true) (hgk : g.spells k = true) : f = g := by
  obtain heq | ⟨hkk, hkn, hnk, hnn⟩ := h f hf g hg
  · exact heq
  · rcases FieldName.spells_iff.mp hfk with rfl | rfl <;>
      rcases FieldName.spells_iff.mp hgk with heq | heq <;>
      obtain heq := Value.str.inj heq <;> contradiction

/-- A field is looked up among the entries under its own spellings. -/
theorem FieldName.find?_held (f : FieldName) (es : List (Value × Value)) :
    f.find? (f.held es) = f.find? es := by
  have hfield {s : String} (hs : f.spells (.str s) = true) :
      (Value.map (f.held es)).field? s = (Value.map es).field? s := by
    have hkey : ∀ e : Value × Value, (f.spells e.1 && e.1.sameKey (.str s)) = e.1.sameKey (.str s) := by
      intro e
      by_cases he : e.1.sameKey (.str s) = true
      · rw [Value.sameKey_str_iff.mp he, hs, Bool.true_and]
      · rw [Bool.not_eq_true _ |>.mp he, Bool.and_false]
    simp only [Value.field?, held, List.find?_filter, ← Bool.and_eq_true, Bool.decide_eq_true, hkey]
  have hkey : f.spells (.str f.key) = true := spells_iff.mpr (.inl rfl)
  have hname : f.spells (.str f.name) = true := spells_iff.mpr (.inr rfl)
  simp only [find?, hfield hkey, hfield hname]

theorem FieldName.find?_of_held_nil (h : f.held es = []) : f.find? es = none := by
  rw [← find?_held, h]
  rfl

/-- A field that stands once is found, under the spelling that it has. -/
theorem FieldName.find?_of_held_singleton {e : Value × Value} (h : f.held es = [e]) :
    ∃ k, e.1 = .str k ∧ f.find? es = some (k, e.2) := by
  have hmem : e ∈ f.held es := by simp [h]
  have hspells : f.spells e.1 = true := (List.mem_filter.mp hmem).2
  obtain ⟨k, v⟩ := e
  rw [← find?_held, h]
  by_cases hkey : k = .str f.key
  · subst hkey
    exact ⟨f.key, rfl, by simp [find?, Value.field?_cons_str]⟩
  · obtain rfl := (spells_iff.mp hspells).resolve_left hkey
    have hne : f.name ≠ f.key := fun heq => hkey (congrArg _ heq)
    exact ⟨f.name, rfl, by simp [find?, Value.field?_cons_str, hne]⟩

/-- A field stands at most once, or two entries stand under its spellings. -/
theorem FieldName.held_cases (h : (f.held es).length ≤ 1) : f.held es = [] ∨ ∃ e, f.held es = [e] := by
  cases hheld : f.held es with
  | nil => exact .inl rfl
  | cons e rest =>
    rw [hheld, List.length_cons] at h
    have hrest : rest = [] := List.eq_nil_of_length_eq_zero (by omega)
    exact .inr ⟨e, by rw [hrest]⟩

/-- The key that a field is found under is the only one of its spellings that is there. -/
theorem FieldName.find?_key_iff (h : (f.held es).length ≤ 1) {e : Value × Value} (he : e ∈ es) {k : String}
    (hk : e.1 = .str k) : (f.find? es).map (·.1) = some k ↔ f.spells e.1 = true := by
  rcases held_cases h with hnil | ⟨e', hone⟩
  · have hspells : f.spells e.1 = false := by
      by_contra hspells
      have hheld : e ∈ f.held es := List.mem_filter.mpr ⟨he, by simpa using hspells⟩
      simp [hnil] at hheld
    simp [find?_of_held_nil hnil, hspells]
  · obtain ⟨k', hk', hfind⟩ := find?_of_held_singleton hone
    rw [hfind, Option.map_some]
    constructor
    · intro heq
      have hheld : e' ∈ f.held es := by simp [hone]
      rw [hk, ← Option.some.inj heq, ← hk']
      exact (List.mem_filter.mp hheld).2
    · intro hspells
      have hheld : e ∈ f.held es := List.mem_filter.mpr ⟨he, hspells⟩
      obtain rfl : e = e' := by simpa [hone] using hheld
      rw [Value.str.inj (hk'.symm.trans hk)]

theorem declares_eq_false {k : Value} (h : ∀ s, k ≠ .str s) : declares fields k = false := by
  simp [declares, FieldName.spells, h]

/-- If the declared fields are taken, what no field is declared for is collected. -/
theorem collect_eq {taken : List String}
    (h : ∀ e ∈ es, ∀ k, e.1 = .str k → (k ∈ taken ↔ declares fields e.1 = true)) :
    undeclared.collect taken es = undeclared.collect [] (es.filter fun e => !declares fields e.1) := by
  induction es with
  | nil => rfl
  | cons e es ih =>
    obtain ⟨k, v⟩ := e
    obtain ⟨hk, hes⟩ := List.forall_mem_cons.mp h
    cases k with
    | str k =>
      have htaken := hk k rfl
      by_cases hdeclared : declares fields (.str k) = true
      · have hkept : k ∈ taken := htaken.mpr hdeclared
        simp [undeclared.collect, hkept, hdeclared, ih hes]
      · have hkept : k ∉ taken := fun hkept => hdeclared (htaken.mp hkept)
        simp [undeclared.collect, hkept, hdeclared, ih hes]
    | _ => simp [undeclared.collect, declares_eq_false, ih hes]

/-- What is left over of an object is what no field is declared for. -/
theorem undeclared_eq (h : ∀ f ∈ fields, (f.held es).length ≤ 1) :
    undeclared fields es = undeclared.collect [] (es.filter fun e => !declares fields e.1) := by
  apply collect_eq
  intro e he k hk
  rw [List.mem_filterMap, declares_eq_true_iff]
  exact exists_congr fun f => and_congr_right fun hf => FieldName.find?_key_iff (h f hf) he hk

/-- An object before and after it is respelled, in which no field stands twice. -/
structure Sides (fields : List FieldName) (within : FieldName → Change)
    (es es' : List (Value × Value)) : Prop where
  apart : SpelledApart fields
  once : ∀ f ∈ fields, (f.held es).length ≤ 1
  respelled : respelled fields within (.map es) (.map es')

namespace Sides

/-- A key is respelled to a spelling of the same field. -/
theorem spells_of_rekeyed (hapart : SpelledApart fields) {e e' : Value × Value} (hf : f ∈ fields)
    (h : Rekeyed fields within e e') : f.spells e'.1 = f.spells e.1 := by
  rcases h with ⟨g, hg, hspells, hspells', -⟩ | ⟨-, rfl⟩
  · have hsame {k : Value} (hk : g.spells k = true) : f.spells k = true ↔ f = g :=
      ⟨fun hfk => hapart.eq hf hg hfk hk, fun heq => heq ▸ hk⟩
    rw [Bool.eq_iff_iff, hsame hspells', hsame hspells]
  · rfl

theorem declares_of_rekeyed {e e' : Value × Value} (h : Rekeyed fields within e e') :
    declares fields e'.1 = declares fields e.1 := by
  rcases h with ⟨g, hg, hspells, hspells', -⟩ | ⟨-, rfl⟩
  · rw [declares_eq_true_iff.mpr ⟨g, hg, hspells⟩, declares_eq_true_iff.mpr ⟨g, hg, hspells'⟩]
  · rfl

/-- The entries of a field correspond to each other before anything is moved. -/
theorem forall₂_held (hapart : SpelledApart fields) (hf : f ∈ fields)
    {rekeyed : List (Value × Value)} (h : List.Forall₂ (Rekeyed fields within) es rekeyed) :
    List.Forall₂ (fun e e' => within f e.2 e'.2) (f.held es) (f.held rekeyed) := by
  induction h with
  | nil => exact .nil
  | @cons e e' es rekeyed he _ ih =>
    have hspells := spells_of_rekeyed hapart hf he
    by_cases hfe : f.spells e.1 = true
    · have hfe' : f.spells e'.1 = true := hspells.trans hfe
      rw [FieldName.held_cons, FieldName.held_cons, if_pos hfe, if_pos hfe']
      refine .cons ?_ ih
      rcases he with ⟨g, hg, hgk, -, hwithin⟩ | ⟨hnone, -⟩
      · rwa [hapart.eq hf hg hfe hgk]
      · rw [declares_eq_true_iff.mpr ⟨f, hf, hfe⟩] at hnone
        nomatch hnone
    · have hfe' : ¬f.spells e'.1 = true := by rwa [hspells]
      rw [FieldName.held_cons, FieldName.held_cons, if_neg hfe, if_neg hfe']
      exact ih

/-- What no field is declared for is not respelled. -/
theorem filter_rekeyed {rekeyed : List (Value × Value)}
    (h : List.Forall₂ (Rekeyed fields within) es rekeyed) :
    rekeyed.filter (fun e => !declares fields e.1) = es.filter fun e => !declares fields e.1 := by
  induction h with
  | nil => rfl
  | @cons e e' es rekeyed he _ ih =>
    rw [List.filter_cons, List.filter_cons, ih, declares_of_rekeyed he]
    rcases he with ⟨g, hg, hspells, -⟩ | ⟨-, rfl⟩
    · simp [declares_eq_true_iff.mpr ⟨g, hg, hspells⟩]
    · rfl

/-- A field is in neither of the objects, or stands once in both, with values that correspond. -/
theorem held (h : Sides fields within es es') (hf : f ∈ fields) :
    f.held es = [] ∧ f.held es' = [] ∨
      ∃ e e', f.held es = [e] ∧ f.held es' = [e'] ∧ within f e.2 e'.2 := by
  obtain ⟨rekeyed, hrekeyed, hperm, -⟩ := h.respelled
  have hpairs := forall₂_held h.apart hf hrekeyed
  have hmoved : (f.held rekeyed).Perm (f.held es') := hperm.filter _
  rcases FieldName.held_cases (h.once f hf) with hnil | ⟨e, hone⟩
  · rw [hnil, List.forall₂_nil_left_iff] at hpairs
    rw [hpairs] at hmoved
    exact .inl ⟨hnil, hmoved.nil_eq.symm⟩
  · rw [hone, List.forall₂_cons_left_iff] at hpairs
    obtain ⟨e', rest, hwithin, hrest, hheld⟩ := hpairs
    obtain rfl := List.forall₂_nil_left_iff.mp hrest
    rw [hheld] at hmoved
    exact .inr ⟨e, e', hone, (List.singleton_perm.mp hmoved).symm, hwithin⟩

theorem once' (h : Sides fields within es es') : ∀ f ∈ fields, (f.held es').length ≤ 1 := by
  intro f hf
  rcases h.held hf with ⟨-, hnil⟩ | ⟨-, e', -, hone, -⟩
  · simp [hnil]
  · simp [hone]

/-- The same entries are left over. -/
theorem undeclared_eq (h : Sides fields within es es') : undeclared fields es' = undeclared fields es := by
  obtain ⟨rekeyed, hrekeyed, -, hfilter⟩ := h.respelled
  rw [Schema.undeclared_eq h.once', Schema.undeclared_eq h.once, ← hfilter, filter_rekeyed hrekeyed]

/-- A field has a value on both sides, or on neither. -/
theorem find? (h : Sides fields within es es') (hf : f ∈ fields) :
    f.find? es = none ∧ f.find? es' = none ∨
      ∃ k k' v v', f.find? es = some (k, v) ∧ f.find? es' = some (k', v') ∧ within f v v' := by
  rcases h.held hf with ⟨hnil, hnil'⟩ | ⟨e, e', hone, hone', hwithin⟩
  · exact .inl ⟨FieldName.find?_of_held_nil hnil, FieldName.find?_of_held_nil hnil'⟩
  · obtain ⟨k, -, hk⟩ := FieldName.find?_of_held_singleton hone
    obtain ⟨k', -, hk'⟩ := FieldName.find?_of_held_singleton hone'
    exact .inr ⟨k, k', e.2, e'.2, hk, hk', hwithin⟩

end Sides

@[simp] theorem heldOnce_nil : HeldOnce [] := by simp [HeldOnce]

@[simp] theorem heldOnce_cons_iff {part : List FieldName × Value} {rest : Parts} :
    HeldOnce (part :: rest) ↔
      (∀ f ∈ part.1, (f.held (entriesOf part.2)).length ≤ 1) ∧ HeldOnce rest :=
  List.forall_mem_cons

@[simp] theorem heldOnce_append_iff {ps qs : Parts} :
    HeldOnce (ps ++ qs) ↔ HeldOnce ps ∧ HeldOnce qs :=
  List.forall_mem_append

theorem heldOnce_of_find? {k : String} {v : Value} (h : HeldOnce (f.parts parts (.map es)))
    (hfind : f.find? es = some (k, v)) : HeldOnce (parts v) := by
  simpa [FieldName.parts, FieldName.value?, hfind] using h

/-- There are no objects with declared fields within data. -/
theorem heldOnce_data (v : Value) : HeldOnce (f.parts (fun _ => []) v) := by
  unfold FieldName.parts
  cases f.value? v <;> simp

/-- Two entries of a field in an object with distinct keys stand under its two spellings. -/
theorem FieldName.isSome_of_held (hkeys : (es.map Prod.fst).Nodup) {e e' : Value × Value}
    {rest : List (Value × Value)} (hheld : f.held es = e :: e' :: rest) :
    f.key ≠ f.name ∧ ((Value.map es).field? f.key).isSome = true ∧
      ((Value.map es).field? f.name).isSome = true := by
  have hmem : e ∈ f.held es ∧ e' ∈ f.held es := by simp [hheld]
  obtain ⟨hes, hspells⟩ := List.mem_filter.mp hmem.1
  obtain ⟨hes', hspells'⟩ := List.mem_filter.mp hmem.2
  have hne : e.1 ≠ e'.1 := by
    have hsub : ((f.held es).map Prod.fst).Nodup := hkeys.sublist (List.filter_sublist.map _)
    rw [hheld, List.map_cons, List.map_cons, List.nodup_cons] at hsub
    exact List.ne_of_not_mem_cons hsub.1
  have hfound {e : Value × Value} {s : String} (he : e ∈ es) (hs : e.1 = .str s) :
      ((Value.map es).field? s).isSome = true := by
    obtain ⟨k, v⟩ := e
    subst hs
    exact Value.field?_isSome_of_mem he
  rcases spells_iff.mp hspells with hk | hk <;> rcases spells_iff.mp hspells' with hk' | hk'
  · exact absurd (hk.trans hk'.symm) hne
  · exact ⟨fun heq => hne (by rw [hk, hk', heq]), hfound hes hk, hfound hes' hk'⟩
  · exact ⟨fun heq => hne (by rw [hk, hk', heq]), hfound hes' hk', hfound hes hk⟩
  · exact absurd (hk.trans hk'.symm) hne

/-- With distinct keys, a field that does not stand under both spellings stands once. -/
theorem heldOnce_of_spelledOnce {ps : Parts} (hkeys : DistinctlyKeyed ps) (hspelled : SpelledOnce ps) :
    HeldOnce ps := by
  intro part hpart f hf
  obtain ⟨fields, v⟩ := part
  cases v with
  | map es =>
    have hnot := List.all_eq_true.mp (hspelled _ hpart) f hf
    have hnodup : (es.map Prod.fst).Nodup := hkeys _ hpart
    match hheld : f.held es with
    | [] | [e] => simp
    | e :: e' :: rest =>
      obtain ⟨hne, hkey, hname⟩ := FieldName.isSome_of_held hnodup hheld
      simp only [hne, decide_false, Bool.false_or, Bool.or_eq_true, Option.isNone_iff_eq_none] at hnot
      rcases hnot with hnone | hnone
      · simp [hnone] at hkey
      · simp [hnone] at hname
  | _ => simp [entriesOf, FieldName.held]

/-- What is read from a value is read from it after a change, unless a field stands twice in it. A null
stays one, and nothing becomes one. -/
structure Agrees (change : Change) (parts : Value → Parts) (read : Value → Checked α) : Prop where
  null_iff : ∀ {v v' : Value}, change v v' → (v' = .null ↔ v = .null)
  read_iff : ∀ {v v' : Value}, HeldOnce (parts v) → change v v' → ∀ a, read v' = .ok a ↔ read v = .ok a

namespace Agrees

/-- Any reading agrees on data. -/
protected theorem unchanged (read : Value → Checked α) : Agrees unchanged (fun _ => []) read where
  null_iff h := by rw [h]
  read_iff _ h a := by rw [h]

protected theorem nullable (h : Agrees change parts read) : Agrees change parts (nullable read) where
  null_iff := h.null_iff
  read_iff {v v'} honce hchange x := by
    have hnot {v : Value} (hv : v ≠ .null) : nullable read v = some <$> read v := by
      unfold nullable
      split
      · exact absurd rfl hv
      · rfl
    by_cases hnull : v = .null
    · rw [(h.null_iff hchange).mpr hnull, hnull]
    · have hnull' : v' ≠ .null := mt (h.null_iff hchange).mp hnull
      simp only [hnot hnull, hnot hnull', Checked.map_eq_ok_iff, h.read_iff honce hchange]

theorem items_iff (h : Agrees change parts read) {vs vs' : List Value} {index : Nat}
    (honce : ∀ v ∈ vs, HeldOnce (parts v)) (hchange : List.Forall₂ change vs vs') (as : List α) :
    items read index vs' = .ok as ↔ items read index vs = .ok as := by
  rw [items_eq_ok_iff, items_eq_ok_iff]
  induction hchange generalizing as with
  | nil => rfl
  | @cons v v' vs vs' hv _ ih =>
    obtain ⟨honcev, honcevs⟩ := List.forall_mem_cons.mp honce
    rw [List.forall₂_cons_left_iff, List.forall₂_cons_left_iff]
    simp only [h.read_iff honcev hv, ih honcevs]

protected theorem list (h : Agrees change parts read) :
    Agrees (eachRespelled change) (memberParts parts) (list read) where
  null_iff {v v'} hchange := by
    unfold eachRespelled at hchange
    split at hchange
    · simp
    · simp
    · rw [hchange]
  read_iff {v v'} honce hchange as := by
    have hmembers : ∀ w ∈ members v, HeldOnce (parts w) := by
      intro w hw part hpart
      exact forall_memberParts_iff.mp honce w hw part hpart
    unfold eachRespelled at hchange
    split at hchange
    · exact h.items_iff hmembers hchange as
    · exact h.items_iff hmembers hchange as
    · rw [hchange]

/-- A reading agrees if it does so on all objects in which no field stands twice. -/
theorem of_sides (hapart : SpelledApart fields)
    (honce : ∀ es, HeldOnce (parts (.map es)) → ∀ f ∈ fields, (f.held es).length ≤ 1)
    (h : ∀ es es', HeldOnce (parts (.map es)) → Sides fields within es es' →
      ∀ a, read (.map es') = .ok a ↔ read (.map es) = .ok a) :
    Agrees (respelled fields within) parts read where
  null_iff {v v'} hchange := by
    unfold respelled at hchange
    split at hchange
    · simp
    · rw [hchange]
  read_iff {v v'} hparts hchange a := by
    cases v with
    | map es =>
      cases v' with
      | map es' => exact h es es' hparts ⟨hapart, honce es hparts, hchange⟩ a
      | _ => simp [respelled] at hchange
    | _ =>
      simp only [respelled] at hchange
      rw [hchange]

end Agrees

namespace Sides

theorem required_iff (h : Sides fields within es es') (hf : f ∈ fields)
    (hread : Agrees (within f) parts read) (honce : HeldOnce (f.parts parts (.map es))) (a : α) :
    f.required read es' = .ok a ↔ f.required read es = .ok a := by
  rw [FieldName.required, FieldName.required]
  rcases h.find? hf with ⟨hnone, hnone'⟩ | ⟨k, k', v, v', hsome, hsome', hwithin⟩
  · simp [hnone, hnone']
  · simp only [hsome, hsome', Checked.within_eq_ok_iff]
    exact hread.read_iff (heldOnce_of_find? honce hsome) hwithin a

theorem withDefault_iff (h : Sides fields within es es') (hf : f ∈ fields) {default : α}
    (hread : Agrees (within f) parts read) (honce : HeldOnce (f.parts parts (.map es))) (a : α) :
    f.withDefault default read es' = .ok a ↔ f.withDefault default read es = .ok a := by
  rw [FieldName.withDefault, FieldName.withDefault]
  rcases h.find? hf with ⟨hnone, hnone'⟩ | ⟨k, k', v, v', hsome, hsome', hwithin⟩
  · simp [hnone, hnone']
  · simp only [hsome, hsome', Checked.within_eq_ok_iff]
    exact hread.read_iff (heldOnce_of_find? honce hsome) hwithin a

theorem optional_iff (h : Sides fields within es es') (hf : f ∈ fields)
    (hread : Agrees (within f) parts read) (honce : HeldOnce (f.parts parts (.map es))) (x : Option α) :
    f.optional read es' = .ok x ↔ f.optional read es = .ok x :=
  h.withDefault_iff hf hread.nullable honce x

theorem required_data (h : Sides fields within es es') (hf : f ∈ fields) (hdata : within f = unchanged)
    (read : Value → Checked α) (a : α) : f.required read es' = .ok a ↔ f.required read es = .ok a := by
  have hread : Agrees (within f) (fun _ => []) read := hdata ▸ .unchanged read
  exact h.required_iff hf hread (heldOnce_data _) a

theorem optional_data (h : Sides fields within es es') (hf : f ∈ fields) (hdata : within f = unchanged)
    (read : Value → Checked α) (x : Option α) : f.optional read es' = .ok x ↔ f.optional read es = .ok x := by
  have hread : Agrees (within f) (fun _ => []) read := hdata ▸ .unchanged read
  exact h.optional_iff hf hread (heldOnce_data _) x

end Sides

end Schema

end Sidecar
