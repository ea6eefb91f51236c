import Mathlib.Data.List.Forall2
import Sidecar.Proofs.Value.Object

/-!
Reading a JSON object field by field: what a declared field is read from, and which entries are left
over.
-/

namespace Sidecar.Schema

variable {α : Type} {read : Value → Checked α} {o : Object}

@[simp] theorem Checked.within_eq_ok_iff {step : Step} {x : Checked α} {a : α} :
    x.within step = .ok a ↔ x = .ok a := by
  cases x <;> simp [within]

theorem Checked.report_eq_ok_iff {x : Checked α} {name : String} {a : α} :
    x.report name = .ok a ↔ x = .ok a := by
  cases x <;> simp [report]

theorem model_eq_ok_iff {name : String} {read : List (Value × Value) → Checked α} {v : Value} {a : α} :
    model name read v = .ok a ↔ ∃ es, v = .map es ∧ read es = .ok a := by
  cases v <;> simp [model, Checked.fail]

theorem items_eq_ok_iff {index : Nat} {vs : List Value} {as : List α} :
    items read index vs = .ok as ↔ List.Forall₂ (fun v a => read v = .ok a) vs as := by
  induction vs generalizing index as with
  | nil => simp [items, eq_comm]
  | cons v vs ih =>
    rw [List.forall₂_cons_left_iff]
    simp only [items, Checked.seq_eq_ok_iff, Checked.map_eq_ok_iff, Checked.within_eq_ok_iff, ih]
    constructor
    · rintro ⟨-, as, ⟨a, ha, rfl⟩, has, rfl⟩
      exact ⟨a, as, ha, has, rfl⟩
    · rintro ⟨a, as, ha, has, rfl⟩
      exact ⟨_, as, ⟨a, ha, rfl⟩, has, rfl⟩

theorem list_eq_ok_iff {vs : List Value} {as : List α} :
    list read (.list vs) = .ok as ↔ List.Forall₂ (fun v a => read v = .ok a) vs as :=
  items_eq_ok_iff

/-- What a list, a tuple or a set holds. -/
def members : Value → List Value
  | .list vs | .tuple vs | .set vs => vs
  | _ => []

theorem forall₂_of_list {v : Value} {as : List α} (h : list read v = .ok as) :
    List.Forall₂ (fun v a => read v = .ok a) (members v) as := by
  cases v with
  | list | tuple | set => exact items_eq_ok_iff.mp h
  | _ => simp [list, Checked.fail] at h

theorem exists_of_mem_list {v : Value} {as : List α} (h : list read v = .ok as) {a : α} (ha : a ∈ as) :
    ∃ w ∈ members v, read w = .ok a := by
  have hall := forall₂_of_list h
  clear h
  generalize members v = vs at hall
  induction hall with
  | nil => simp at ha
  | cons hread _ ih =>
    rcases List.mem_cons.mp ha with rfl | ha
    · exact ⟨_, List.mem_cons_self .., hread⟩
    · obtain ⟨w, hw, hread⟩ := ih ha
      exact ⟨w, List.mem_cons_of_mem _ hw, hread⟩

/-- Entries with distinct keys are taken as they are. -/
theorem object_map {write : α → Value} {l : List (String × α)} (hl : (l.map Prod.fst).Nodup)
    (h : ∀ e ∈ l, read (write e.2) = .ok e.2) :
    object read (Value.object (l.map fun e => (e.1, write e.2))) = .ok l := by
  have hentries : entries read (Object.entries (l.map fun e => (e.1, write e.2))) = .ok l := by
    clear hl
    induction l with
    | nil => rfl
    | cons e l ih =>
      obtain ⟨he, hl⟩ := List.forall_mem_cons.mp h
      rw [List.map_cons, Object.entries_cons, entries, he, ih hl]
      rfl
  rw [Value.object_eq, object, hentries, Checked.map_eq_ok_iff]
  refine ⟨l, rfl, ?_⟩
  rw [foldl_insert (by simpa using hl), List.nil_append]

/-- A free object is taken as it is. -/
theorem object_anything (ho : (o.map Prod.fst).Nodup) : object anything (Value.object o) = .ok o := by
  have hmap : object anything (Value.object (o.map fun e => (e.1, id e.2))) = .ok o :=
    object_map ho fun _ _ => rfl
  simpa using hmap

theorem nodup_of_object {v : Value} {l : List (String × α)} (h : object read v = .ok l) :
    (l.map Prod.fst).Nodup := by
  cases v with
  | map es =>
    obtain ⟨entries, -, rfl⟩ := Checked.map_eq_ok_iff.mp h
    exact nodup_foldl_insert entries List.nodup_nil
  | _ => simp [object, Checked.fail] at h

namespace FieldName

variable {f : FieldName}

/-- The value of a field: that under its key, else that under its name. -/
def get? (f : FieldName) (o : Object) : Option Value := (o.lookup f.key).or (o.lookup f.name)

theorem find?_entries (f : FieldName) (o : Object) : f.find? o.entries =
    ((o.lookup f.key).map (f.key, ·)).or ((o.lookup f.name).map (f.name, ·)) := by
  rw [find?, Value.field?_entries, Value.field?_entries]
  cases o.lookup f.key <;> simp

theorem mem_of_find? {e : String × Value} (h : f.find? o.entries = some e) :
    e ∈ o ∧ (e.1 = f.key ∨ e.1 = f.name) := by
  rw [find?_entries] at h
  rcases Option.or_eq_some_iff.mp h with h | ⟨-, h⟩
  · obtain ⟨v, hv, rfl⟩ := Option.map_eq_some_iff.mp h
    exact ⟨Object.mem_of_lookup hv, .inl rfl⟩
  · obtain ⟨v, hv, rfl⟩ := Option.map_eq_some_iff.mp h
    exact ⟨Object.mem_of_lookup hv, .inr rfl⟩

theorem required_eq_ok_iff {a : α} :
    f.required read o.entries = .ok a ↔ ∃ v, f.get? o = some v ∧ read v = .ok a := by
  rw [required, find?_entries, get?]
  cases o.lookup f.key <;> cases o.lookup f.name <;> simp

theorem withDefault_eq_ok_iff {default a : α} : f.withDefault default read o.entries = .ok a ↔
    match f.get? o with
    | none => default = a
    | some v => read v = .ok a := by
  rw [withDefault, find?_entries, get?]
  cases o.lookup f.key <;> cases o.lookup f.name <;> simp

/-- A field that is null counts as absent. -/
theorem optional_eq_ok_iff {x : Option α} : f.optional read o.entries = .ok x ↔
    Option.Rel (fun v a => read v = .ok a) ((f.get? o).filter (· ≠ .null)) x := by
  rw [optional, withDefault_eq_ok_iff]
  cases f.get? o with
  | none => cases x <;> simp
  | some v =>
    rw [Option.filter_some]
    by_cases hv : v = .null
    · subst hv
      cases x <;> simp [nullable]
    · have hread : nullable read v = some <$> read v := by
        unfold nullable
        split
        · exact absurd rfl hv
        · rfl
      cases x <;> simp [hread, hv]

/-- The value that the field of a document is read from. -/
def value? (f : FieldName) : Value → Option Value
  | .map es => (f.find? es).map Prod.snd
  | _ => none

theorem value?_entries (f : FieldName) (o : Object) : f.value? (.map o.entries) = f.get? o := by
  rw [value?, find?_entries, get?]
  cases o.lookup f.key <;> cases o.lookup f.name <;> rfl

end FieldName

theorem isJson_of_get? {f : FieldName} {v : Value} (ho : o.IsJson) (h : f.get? o = some v) :
    v.isJson = true := by
  rcases Option.or_eq_some_iff.mp h with h | ⟨-, h⟩
  · exact ho.values _ (Object.mem_of_lookup h)
  · exact ho.values _ (Object.mem_of_lookup h)

theorem isJson_of_value? {f : FieldName} {v w : Value} (hv : v.isJson = true)
    (h : f.value? v = some w) : w.isJson = true := by
  cases v with
  | map es =>
    obtain ⟨o, rfl, ho⟩ := Value.exists_object_of_isJson hv
    exact isJson_of_get? ho (FieldName.value?_entries f o ▸ h)
  | _ => simp [FieldName.value?] at h

/-- The keys that the declared fields of an object are read from. -/
def takenKeys (fields : List FieldName) (o : Object) : List String :=
  fields.filterMap fun f => (f.find? o.entries).map Prod.fst

theorem mem_takenKeys_iff {fields : List FieldName} {k : String} : k ∈ takenKeys fields o ↔
    ∃ f ∈ fields, k = f.key ∧ (o.lookup f.key).isSome ∨
      k = f.name ∧ o.lookup f.key = none ∧ (o.lookup f.name).isSome := by
  unfold takenKeys
  rw [List.mem_filterMap]
  refine exists_congr fun f => and_congr_right fun _ => ?_
  rw [FieldName.find?_entries]
  cases o.lookup f.key <;> cases o.lookup f.name <;> simp [eq_comm]

/-- All other entries are kept as they are. -/
theorem undeclared_entries (fields : List FieldName) (o : Object) :
    undeclared fields o.entries = .ok (o.filter fun e => e.1 ∉ takenKeys fields o) := by
  have hcollect (taken : List String) (o : Object) :
      undeclared.collect taken o.entries = .ok (o.filter fun e => e.1 ∉ taken) := by
    induction o with
    | nil => rfl
    | cons e o ih =>
      obtain ⟨k, v⟩ := e
      by_cases hk : k ∈ taken <;> simp [undeclared.collect, ih, hk]
  exact hcollect _ o

/-- An object whose entries have all been read has texts as keys. -/
theorem exists_entries_of_undeclared {fields : List FieldName} {es : List (Value × Value)}
    {unknown : Object} (h : undeclared fields es = .ok unknown) : ∃ o : Object, es = o.entries := by
  have hcollect (taken : List String) {unknown : Object}
      (h : undeclared.collect taken es = .ok unknown) : ∃ o : Object, es = o.entries := by
    clear * - h
    induction es generalizing unknown with
    | nil => exact ⟨[], rfl⟩
    | cons e es ih =>
      obtain ⟨k, v⟩ := e
      cases k with
      | str k =>
        have hrest : ∃ rest, undeclared.collect taken es = .ok rest := by
          rw [undeclared.collect] at h
          split_ifs at h
          · exact ⟨_, h⟩
          · obtain ⟨rest, hrest, -⟩ := Checked.map_eq_ok_iff.mp h
            exact ⟨rest, hrest⟩
        obtain ⟨rest, hrest⟩ := hrest
        obtain ⟨o, rfl⟩ := ih hrest
        exact ⟨(k, v) :: o, rfl⟩
      | _ => simp [undeclared.collect] at h
  exact hcollect _ h

section Insert

variable {key : String} {v : Value}

theorem FieldName.get?_insert_of_ne {f : FieldName} (hkey : f.key ≠ key) (hname : f.name ≠ key) :
    f.get? (insert key v o) = f.get? o := by
  rw [get?, get?, lookup_insert, lookup_insert, if_neg hkey, if_neg hname]

theorem FieldName.get?_insert_self {f : FieldName} (hkey : f.key = key) :
    f.get? (insert key v o) = some v := by
  rw [get?, lookup_insert, if_pos hkey, Option.some_or]

theorem filter_insert {p : String × Value → Bool} (h : ∀ w, p (key, w) = false) (o : Object) :
    (insert key v o).filter p = o.filter p := by
  induction o with
  | nil => simp [insert, h]
  | cons e o ih =>
    obtain ⟨k, w⟩ := e
    unfold insert
    split_ifs with hk
    · simp [hk, h]
    · rw [List.filter_cons, List.filter_cons, ih]

/-- The entries that are left over do not change with the value of a declared field. -/
theorem undeclared_insert {fields : List FieldName} (hdeclared : ∃ f ∈ fields, f.key = key)
    (hfields : ∀ f ∈ fields, f.key = key ↔ f.name = key) :
    undeclared fields (Object.entries (insert key v o)) = undeclared fields o.entries := by
  have htaken : key ∈ takenKeys fields (insert key v o) := by
    obtain ⟨f, hf, hkey⟩ := hdeclared
    refine mem_takenKeys_iff.mpr ⟨f, hf, .inl ⟨hkey.symm, ?_⟩⟩
    rw [lookup_insert, if_pos hkey, Option.isSome_some]
  have hother {k : String} (hk : k ≠ key) :
      k ∈ takenKeys fields (insert key v o) ↔ k ∈ takenKeys fields o := by
    rw [mem_takenKeys_iff, mem_takenKeys_iff]
    refine exists_congr fun f => and_congr_right fun hf => or_congr ?_ ?_
    · refine and_congr_right fun heq => ?_
      rw [lookup_insert, if_neg (heq ▸ hk)]
    · refine and_congr_right fun heq => ?_
      have hname : f.name ≠ key := heq ▸ hk
      rw [lookup_insert, lookup_insert, if_neg hname, if_neg (mt (hfields f hf).mp hname)]
  rw [undeclared_entries, undeclared_entries, filter_insert (by simpa using htaken)]
  congr 1
  refine List.filter_congr fun e he => ?_
  by_cases hkey : e.1 = key
  · have hold : key ∈ takenKeys fields o := by
      obtain ⟨f, hf, hfkey⟩ := hdeclared
      refine mem_takenKeys_iff.mpr ⟨f, hf, .inl ⟨hfkey.symm, ?_⟩⟩
      rw [hfkey, ← hkey]
      exact Object.lookup_isSome_of_mem he
    rw [hkey]
    simp [htaken, hold]
  · simp only [hother hkey]

end Insert

end Sidecar.Schema
