import Mathlib.Tactic.Common
import Sidecar.Pod.Model
import Sidecar.Schema.Coerce

/-!
Objects with texts as keys: looking up and setting an entry, and the values that JSON can express.
-/

namespace Sidecar

namespace Value

@[simp] theorem sameKey_str (s t : String) : (str s).sameKey (str t) = (s == t) := rfl

@[simp] theorem field?_nil (name : String) : (map []).field? name = none := rfl

theorem field?_cons_str (name key : String) (v : Value) (es : List (Value × Value)) :
    (map ((.str key, v) :: es)).field? name = if key = name then some v else (map es).field? name := by
  by_cases h : key = name <;> simp [field?, h]

end Value

/-- The entries of an object as they stand in a document. -/
def Object.entries (o : Object) : List (Value × Value) := o.map fun (k, v) => (.str k, v)

@[simp] theorem Object.entries_nil : Object.entries [] = [] := rfl

@[simp] theorem Object.entries_cons (k : String) (v : Value) (o : Object) :
    Object.entries ((k, v) :: o) = (.str k, v) :: Object.entries o := rfl

theorem Object.filter_entries (p : Value × Value → Bool) (o : Object) :
    o.entries.filter p = Object.entries (o.filter fun e => p (.str e.1, e.2)) := by
  induction o with
  | nil => rfl
  | cons e o ih =>
    rw [Object.entries_cons, List.filter_cons, List.filter_cons, ih]
    split_ifs <;> rfl

theorem Value.object_eq (o : Object) : Value.object o = .map o.entries := rfl

theorem Value.field?_entries (o : Object) (name : String) :
    (Value.map o.entries).field? name = o.lookup name := by
  induction o with
  | nil => rfl
  | cons e o ih =>
    obtain ⟨k, v⟩ := e
    rw [Object.entries_cons, field?_cons_str, List.lookup_cons, ih]
    by_cases h : k = name
    · simp [h]
    · rw [if_neg h, beq_false_of_ne (Ne.symm h)]

theorem Object.mem_of_lookup {o : Object} {k : String} {v : Value} (h : o.lookup k = some v) :
    (k, v) ∈ o := by
  obtain ⟨front, back, ho, -⟩ := List.lookup_eq_some_iff.mp h
  rw [ho]
  exact List.mem_append_right _ (List.mem_cons_self ..)

theorem Object.lookup_isSome_of_mem {o : Object} {e : String × Value} (h : e ∈ o) :
    (o.lookup e.1).isSome = true := by
  rw [List.lookup_isSome_iff]
  exact ⟨e, h, by simp⟩

namespace Schema

variable {α : Type} {key : String} {a : α}

theorem lookup_cons_pair (name k : String) (b : α) (es : List (String × α)) :
    ((k, b) :: es).lookup name = if name = k then some b else es.lookup name := by
  by_cases h : name = k
  · simp [h]
  · rw [List.lookup_cons, beq_false_of_ne h, if_neg h]

theorem lookup_insert (key : String) (a : α) (es : List (String × α)) (name : String) :
    (insert key a es).lookup name = if name = key then some a else es.lookup name := by
  induction es with
  | nil => rw [insert, lookup_cons_pair]
  | cons e es ih =>
    obtain ⟨k, b⟩ := e
    unfold insert
    split_ifs with hk hname hname
    · rw [lookup_cons_pair, hname, if_pos hk.symm]
    · rw [lookup_cons_pair, lookup_cons_pair, hk, if_neg hname, if_neg hname]
    · rw [lookup_cons_pair, ih, hname, if_neg (Ne.symm hk), if_pos rfl]
    · rw [lookup_cons_pair, lookup_cons_pair, ih, if_neg hname]

theorem insert_of_not_mem {es : List (String × α)} (h : key ∉ es.map Prod.fst) :
    insert key a es = es ++ [(key, a)] := by
  induction es with
  | nil => rfl
  | cons e es ih =>
    rw [List.map_cons, List.mem_cons, not_or] at h
    obtain ⟨hkey, hrest⟩ := h
    simp [insert, Ne.symm hkey, ih hrest]

/-- Setting an entry that is there keeps all keys, in their order. -/
theorem insert_of_mem {es : List (String × α)} (hes : (es.map Prod.fst).Nodup)
    (h : key ∈ es.map Prod.fst) :
    insert key a es = es.map fun e => (e.1, if e.1 = key then a else e.2) := by
  induction es with
  | nil => simp at h
  | cons e es ih =>
    obtain ⟨k, b⟩ := e
    obtain ⟨hk, hrest⟩ := List.nodup_cons.mp hes
    unfold insert
    split_ifs with heq
    · subst heq
      have hkeep : ∀ e ∈ es, (e.1, if e.1 = k then a else e.2) = e := by
        intro e he
        have hne : e.1 ≠ k := by
          rintro rfl
          exact hk (List.mem_map.mpr ⟨e, he, rfl⟩)
        rw [if_neg hne]
      simp [List.map_congr_left hkeep]
    · have hmem : key ∈ es.map Prod.fst := by
        simpa [Ne.symm heq] using h
      simp [heq, ih hrest hmem]

/-- Entries with distinct keys stay as they are when they are set one after the other. -/
theorem foldl_insert {es acc : List (String × α)} (h : ((acc ++ es).map Prod.fst).Nodup) :
    es.foldl (fun acc (k, a) => insert k a acc) acc = acc ++ es := by
  induction es generalizing acc with
  | nil => simp
  | cons e es ih =>
    obtain ⟨k, a⟩ := e
    have hnew : k ∉ acc.map Prod.fst := by
      rw [List.map_append, List.map_cons, List.nodup_append] at h
      intro hmem
      exact h.2.2 k hmem k (List.mem_cons_self ..) rfl
    have happend : acc ++ (k, a) :: es = acc ++ [(k, a)] ++ es := by simp
    rw [List.foldl_cons]
    change es.foldl _ (insert k a acc) = _
    rw [insert_of_not_mem hnew, ih (by rwa [← happend]), happend]

theorem nodup_insert {es : List (String × α)} (h : (es.map Prod.fst).Nodup) :
    ((insert key a es).map Prod.fst).Nodup := by
  by_cases hkey : key ∈ es.map Prod.fst
  · rw [insert_of_mem h hkey, List.map_map]
    exact h
  · rw [insert_of_not_mem hkey, List.map_append]
    refine List.nodup_append.mpr ⟨h, by simp, ?_⟩
    rintro name hname other hother rfl
    obtain rfl : name = key := by simpa using hother
    exact hkey hname

/-- Entries that are set one after the other have distinct keys. -/
theorem nodup_foldl_insert (es : List (String × α)) {acc : List (String × α)}
    (h : (acc.map Prod.fst).Nodup) :
    ((es.foldl (fun acc (k, a) => insert k a acc) acc).map Prod.fst).Nodup := by
  induction es generalizing acc with
  | nil => exact h
  | cons e es ih => exact ih (nodup_insert h)

theorem mem_insert {es : List (String × α)} {e : String × α} (h : e ∈ insert key a es) :
    e = (key, a) ∨ e ∈ es := by
  induction es with
  | nil => exact .inl (List.mem_singleton.mp h)
  | cons x es ih =>
    obtain ⟨k, b⟩ := x
    unfold insert at h
    split_ifs at h with hk
    · subst hk
      exact (List.mem_cons.mp h).imp_right (List.mem_cons_of_mem _)
    · rcases List.mem_cons.mp h with rfl | h
      · exact .inr (List.mem_cons_self ..)
      · exact (ih h).imp_right (List.mem_cons_of_mem _)

theorem mem_foldl_insert {es acc : List (String × α)} {e : String × α}
    (h : e ∈ es.foldl (fun acc (k, a) => insert k a acc) acc) : e ∈ acc ∨ e ∈ es := by
  induction es generalizing acc with
  | nil => exact .inl h
  | cons x es ih =>
    rcases ih h with hacc | hes
    · rcases mem_insert hacc with rfl | hacc
      · exact .inr (List.mem_cons_self ..)
      · exact .inl hacc
    · exact .inr (List.mem_cons_of_mem _ hes)

/-- What distinguishes the values distinguishes them still when a new one is set. -/
theorem nodup_map_insert {β : Type} {f : α → β} {es : List (String × α)}
    (h : (es.map fun e => f e.2).Nodup) (hnew : ∀ e ∈ es, f e.2 ≠ f a) :
    ((insert key a es).map fun e => f e.2).Nodup := by
  induction es with
  | nil => simp [insert]
  | cons x es ih =>
    obtain ⟨k, b⟩ := x
    obtain ⟨hb, hes⟩ := List.nodup_cons.mp h
    obtain ⟨hab, hnew⟩ := List.forall_mem_cons.mp hnew
    unfold insert
    split_ifs
    · refine List.nodup_cons.mpr ⟨fun hmem => ?_, hes⟩
      obtain ⟨e, he, heq⟩ := List.mem_map.mp hmem
      exact hnew e he heq
    · refine List.nodup_cons.mpr ⟨fun hmem => ?_, ih hes hnew⟩
      obtain ⟨e, he, heq⟩ := List.mem_map.mp hmem
      rcases mem_insert he with rfl | he
      · exact hab heq.symm
      · exact hb (List.mem_map.mpr ⟨e, he, heq⟩)

end Schema

theorem Value.insertEntry_entries (key : String) (v : Value) (o : Object) :
    insertEntry (.str key) v o.entries = Object.entries (Schema.insert key v o) := by
  induction o with
  | nil => rfl
  | cons e o ih =>
    obtain ⟨k, w⟩ := e
    by_cases h : k = key <;> simp [insertEntry, Schema.insert, h, ih]

theorem Value.foldl_insertEntry_entries (o acc : Object) :
    o.entries.foldl (fun acc (k, v) => insertEntry k v acc) acc.entries =
      Object.entries (o.foldl (fun acc (k, v) => Schema.insert k v acc) acc) := by
  induction o generalizing acc with
  | nil => rfl
  | cons e o ih =>
    obtain ⟨k, v⟩ := e
    rw [Object.entries_cons, List.foldl_cons]
    change (Object.entries o).foldl _ (insertEntry (.str k) v acc.entries) = _
    rw [insertEntry_entries, ih]
    rfl

theorem Value.mapOfList_entries {o : Object} (h : (o.map Prod.fst).Nodup) :
    mapOfList o.entries = object o := by
  rw [mapOfList, ← Object.entries_nil, foldl_insertEntry_entries, Schema.foldl_insert (by simpa using h),
    List.nil_append]
  rfl

/-- A finite number has a rank within the range. -/
def Binary64.inRange : Binary64 → Bool
  | .finite _ rank => rank < overflowRank
  | _ => true

namespace Value

mutual

/-- The values that JSON expresses, with NaN and the infinities among the numbers. The keys of an object
are distinct texts. -/
def isJson : Value → Bool
  | .null | .bool _ | .int _ | .str _ => true
  | .float x => x.inRange
  | .list items => allJson items
  | .map entries => entriesJson entries
  | _ => false

def allJson : List Value → Bool
  | [] => true
  | v :: rest => isJson v && allJson rest

def entriesJson : List (Value × Value) → Bool
  | [] => true
  | (.str k, v) :: rest => ((map rest).field? k).isNone && isJson v && entriesJson rest
  | _ :: _ => false

end

theorem isJson_list_iff {items : List Value} :
    (list items).isJson = true ↔ ∀ v ∈ items, v.isJson = true := by
  rw [isJson]
  induction items with
  | nil => simp [allJson]
  | cons v rest ih => simp [allJson, ih]

end Value

/-- The keys of an object are distinct and its values are JSON. -/
structure Object.IsJson (o : Object) : Prop where
  nodup : (o.map Prod.fst).Nodup
  values : ∀ e ∈ o, e.2.isJson = true

theorem Object.isJson_nil : Object.IsJson [] := ⟨List.nodup_nil, by simp⟩

theorem Value.entriesJson_entries_iff {o : Object} : entriesJson o.entries = true ↔ o.IsJson := by
  induction o with
  | nil => exact ⟨fun _ => Object.isJson_nil, fun _ => rfl⟩
  | cons e o ih =>
    obtain ⟨k, v⟩ := e
    have hlookup : o.lookup k = none ↔ k ∉ o.map Prod.fst := by
      rw [List.lookup_eq_none_iff]
      aesop
    rw [Object.entries_cons, entriesJson, Bool.and_eq_true, Bool.and_eq_true, ih, field?_entries,
      Option.isNone_iff_eq_none, hlookup]
    constructor
    · rintro ⟨⟨hk, hv⟩, ho⟩
      exact ⟨List.nodup_cons.mpr ⟨hk, ho.nodup⟩, List.forall_mem_cons.mpr ⟨hv, ho.values⟩⟩
    · rintro ⟨hnodup, hvalues⟩
      obtain ⟨hk, hrest⟩ := List.nodup_cons.mp hnodup
      obtain ⟨hv, ho⟩ := List.forall_mem_cons.mp hvalues
      exact ⟨⟨hk, hv⟩, hrest, ho⟩

theorem Value.isJson_object_iff {o : Object} : (object o).isJson = true ↔ o.IsJson := by
  rw [object_eq, isJson, entriesJson_entries_iff]

/-- The keys of a JSON object are texts. -/
theorem Value.exists_object_of_isJson {es : List (Value × Value)} (h : (map es).isJson = true) :
    ∃ o : Object, es = o.entries ∧ o.IsJson := by
  have hkeys : ∀ {es}, entriesJson es = true → ∃ o : Object, es = o.entries := by
    intro es
    induction es with
    | nil => exact fun _ => ⟨[], rfl⟩
    | cons e es ih =>
      obtain ⟨k, v⟩ := e
      intro h
      cases k with
      | str k =>
        rw [entriesJson, Bool.and_eq_true] at h
        obtain ⟨o, rfl⟩ := ih h.2
        exact ⟨(k, v) :: o, rfl⟩
      | _ => simp [entriesJson] at h
  rw [isJson] at h
  obtain ⟨o, rfl⟩ := hkeys h
  exact ⟨o, rfl, entriesJson_entries_iff.mp h⟩

end Sidecar
