import Mathlib.Data.Set.Function
import Mathlib.Tactic.Common
import Sidecar.Yaml.Writer

/-!
A document that is loaded from its text: tuples are lists, and dates are objects of their own, the same
ones where they were the same. What is loaded is written to the same text, since a text shows no more
of dates than which of them are one object.
-/

namespace Sidecar

namespace Value

mutual

/-- A value as it is loaded from its text, with the origins that dates have there. -/
def reload (ρ : Nat → Nat) : Value → Value
  | .date d origin => .date d (origin.map ρ)
  | .timestamp t origin => .timestamp t (origin.map ρ)
  | .list items | .tuple items => .list (reloadItems ρ items)
  | .set items => .set (reloadItems ρ items)
  | .map entries => .map (reloadEntries ρ entries)
  | v => v

def reloadItems (ρ : Nat → Nat) : List Value → List Value
  | [] => []
  | v :: rest => reload ρ v :: reloadItems ρ rest

def reloadEntries (ρ : Nat → Nat) : List (Value × Value) → List (Value × Value)
  | [] => []
  | (k, v) :: rest => (reload ρ k, reload ρ v) :: reloadEntries ρ rest

end

end Value

namespace Yaml

variable {ρ σ : Nat → Nat} {os : List Nat}

theorem scalar_reload (v : Value) : Scalar.ofValue? (v.reload ρ) = Scalar.ofValue? v := by
  cases v <;> rfl

theorem originOf?_reload (v : Value) : originOf? (v.reload ρ) = (originOf? v).map ρ := by
  cases v <;> rfl

mutual

theorem origins_reload (v : Value) : origins (v.reload ρ) = (origins v).map ρ := by
  cases v with
  | date d origin | timestamp t origin => cases origin <;> rfl
  | list items | tuple items | set items => exact itemOrigins_reload items
  | map entries => exact entryOrigins_reload entries
  | _ => rfl

theorem itemOrigins_reload (items : List Value) :
    itemOrigins (Value.reloadItems ρ items) = (itemOrigins items).map ρ := by
  cases items with
  | nil => rfl
  | cons v items =>
    rw [Value.reloadItems, itemOrigins, itemOrigins, List.map_append, origins_reload v,
      itemOrigins_reload items]

theorem entryOrigins_reload (entries : List (Value × Value)) :
    entryOrigins (Value.reloadEntries ρ entries) = (entryOrigins entries).map ρ := by
  cases entries with
  | nil => rfl
  | cons e entries =>
    obtain ⟨k, v⟩ := e
    rw [Value.reloadEntries, entryOrigins, entryOrigins, List.map_append, List.map_append,
      origins_reload k, origins_reload v, entryOrigins_reload entries]

end

mutual

/-- Only the origins of the dates in a value matter. -/
theorem reload_congr (v : Value) (h : ∀ o ∈ origins v, ρ o = σ o) : v.reload ρ = v.reload σ := by
  cases v with
  | date d origin | timestamp t origin =>
    cases origin with
    | none => rfl
    | some o =>
      have ho := h o (List.mem_singleton_self o)
      simp only [Value.reload, Option.map_some, ho]
  | list items | tuple items | set items =>
    rw [Value.reload, Value.reload, reloadItems_congr items h]
  | map entries => rw [Value.reload, Value.reload, reloadEntries_congr entries h]
  | _ => rfl

theorem reloadItems_congr (items : List Value) (h : ∀ o ∈ itemOrigins items, ρ o = σ o) :
    Value.reloadItems ρ items = Value.reloadItems σ items := by
  cases items with
  | nil => rfl
  | cons v items =>
    rw [itemOrigins, List.forall_mem_append] at h
    rw [Value.reloadItems, Value.reloadItems, reload_congr v h.1, reloadItems_congr items h.2]

theorem reloadEntries_congr (entries : List (Value × Value))
    (h : ∀ o ∈ entryOrigins entries, ρ o = σ o) :
    Value.reloadEntries ρ entries = Value.reloadEntries σ entries := by
  cases entries with
  | nil => rfl
  | cons e entries =>
    obtain ⟨k, v⟩ := e
    rw [entryOrigins, List.forall_mem_append, List.forall_mem_append] at h
    rw [Value.reloadEntries, Value.reloadEntries, reload_congr k h.1.1, reload_congr v h.1.2,
      reloadEntries_congr entries h.2]

end

theorem contains_map (hρ : Set.InjOn ρ {o | o ∈ os}) {seen : List Nat} (hseen : ∀ o ∈ seen, o ∈ os)
    {o : Nat} (ho : o ∈ os) : (seen.map ρ).contains (ρ o) = seen.contains o := by
  rw [Bool.eq_iff_iff, List.contains_iff_mem, List.contains_iff_mem, List.mem_map]
  constructor
  · rintro ⟨p, hp, heq⟩
    exact hρ (hseen p hp) ho heq ▸ hp
  · exact fun h => ⟨o, h, rfl⟩

theorem sharedOrigins_map (hρ : Set.InjOn ρ {o | o ∈ os}) {seen shared rest : List Nat}
    (hseen : ∀ o ∈ seen, o ∈ os) (hshared : ∀ o ∈ shared, o ∈ os) (hrest : ∀ o ∈ rest, o ∈ os) :
    sharedOrigins (seen.map ρ) (shared.map ρ) (rest.map ρ) = (sharedOrigins seen shared rest).map ρ ∧
      ∀ o ∈ sharedOrigins seen shared rest, o ∈ os := by
  induction rest generalizing seen shared with
  | nil =>
    rw [List.map_nil, sharedOrigins, sharedOrigins, List.map_reverse]
    exact ⟨rfl, fun o ho => hshared o (List.mem_reverse.mp ho)⟩
  | cons o rest ih =>
    obtain ⟨ho, hrest⟩ := List.forall_mem_cons.mp hrest
    rw [List.map_cons, sharedOrigins, sharedOrigins, contains_map hρ hseen ho, contains_map hρ hshared ho]
    split_ifs
    · exact ih (List.forall_mem_cons.mpr ⟨ho, hseen⟩) hshared hrest
    · exact ih hseen hshared hrest
    · exact ih hseen (List.forall_mem_cons.mpr ⟨ho, hshared⟩) hrest

namespace Sheet

/-- Two sheets with the same text, whose anchors stand for dates of different origins. -/
structure Renamed (ρ : Nat → Nat) (os : List Nat) (s t : Sheet) : Prop where
  anchors : t.anchors = s.anchors.map fun a => (ρ a.1, a.2)
  origins : ∀ a ∈ s.anchors, a.1 ∈ os
  page : t.page = s.page
  written : t.written = s.written

variable {s t : Sheet} {v : Value} {column : Nat}

theorem Renamed.withPage (h : Renamed ρ os s t) (f : Page → Page) :
    Renamed ρ os { s with page := f s.page } { t with page := f t.page } :=
  ⟨h.anchors, h.origins, congrArg f h.page, h.written⟩

theorem lookup_renamed (hρ : Set.InjOn ρ {o | o ∈ os}) {anchors : List (Nat × String)}
    (h : ∀ a ∈ anchors, a.1 ∈ os) {o : Nat} (ho : o ∈ os) :
    (anchors.map fun a => (ρ a.1, a.2)).lookup (ρ o) = anchors.lookup o := by
  induction anchors with
  | nil => rfl
  | cons a anchors ih =>
    obtain ⟨p, name⟩ := a
    obtain ⟨hp, hanchors⟩ := List.forall_mem_cons.mp h
    have hsame : (ρ o == ρ p) = (o == p) := by
      rw [Bool.eq_iff_iff, beq_iff_eq, beq_iff_eq]
      exact ⟨fun heq => hρ ho hp heq, congrArg ρ⟩
    rw [List.map_cons, List.lookup_cons, List.lookup_cons, hsame, ih hanchors]

theorem anchorOf_reload (hρ : Set.InjOn ρ {o | o ∈ os}) (h : Renamed ρ os s t)
    (hv : ∀ o ∈ Yaml.origins v, o ∈ os) : t.anchorOf (v.reload ρ) = s.anchorOf v := by
  have hmem : ∀ o ∈ originOf? v, o ∈ os := by
    intro o ho
    refine hv o ?_
    cases v with
    | date | timestamp =>
      obtain rfl : _ = some o := ho
      exact List.mem_singleton_self o
    | _ => simp [originOf?] at ho
  rw [anchorOf, anchorOf, originOf?_reload, h.anchors, h.written]
  cases horigin : originOf? v with
  | none => rfl
  | some o =>
    have hlookup := lookup_renamed hρ h.origins (hmem o horigin)
    simp only [Option.map_some, Option.bind_some, hlookup]

theorem Renamed.writeScalar (hρ : Set.InjOn ρ {o | o ∈ os}) (h : Renamed ρ os s t)
    (hv : ∀ o ∈ Yaml.origins v, o ∈ os) (scalar : Scalar) (column : Nat) (isKey : Bool) :
    Renamed ρ os (writeScalar s v scalar column isKey)
      (Sheet.writeScalar t (v.reload ρ) scalar column isKey) := by
  have hanchor := anchorOf_reload hρ h hv
  obtain ⟨anchors, page, written⟩ := t
  obtain ⟨rfl, horigins, rfl, rfl⟩ := h
  unfold Sheet.writeScalar
  rw [hanchor]
  split
  · exact ⟨rfl, horigins, rfl, rfl⟩
  · refine ⟨rfl, horigins, ?_, rfl⟩
    cases v <;> rfl

theorem isSimpleKey_reload (hρ : Set.InjOn ρ {o | o ∈ os}) (h : Renamed ρ os s t)
    (hv : ∀ o ∈ Yaml.origins v, o ∈ os) : t.isSimpleKey (v.reload ρ) = s.isSimpleKey v := by
  rw [isSimpleKey, isSimpleKey, scalar_reload, anchorOf_reload hρ h hv]

theorem Renamed.startEntry (h : Renamed ρ os s t) (column : Nat) (indicator : String) :
    Renamed ρ os (s.startEntry column indicator) (t.startEntry column indicator) :=
  h.withPage fun page => (page.indentTo column).indicator indicator true false true

theorem Renamed.writeEmpty (h : Renamed ρ os s t) (opening closing : String) :
    Renamed ρ os (s.writeEmpty opening closing) (t.writeEmpty opening closing) :=
  h.withPage fun page => (page.indicator opening true true).indicator closing false

theorem Renamed.tagged (h : Renamed ρ os s t) (tag : Tag) : Renamed ρ os (s.tagged tag) (t.tagged tag) :=
  h.withPage fun page => page.indicator tag.short true

theorem Renamed.writeKey (hρ : Set.InjOn ρ {o | o ∈ os}) (h : Renamed ρ os s t)
    (hv : ∀ o ∈ Yaml.origins v, o ∈ os) {write write' : Sheet → Sheet}
    (hwrite : ∀ s t, Renamed ρ os s t → Renamed ρ os (write s) (write' t)) (column : Nat) :
    Renamed ρ os (s.writeKey v column write) (t.writeKey (v.reload ρ) column write') := by
  unfold Sheet.writeKey
  rw [isSimpleKey_reload hρ h hv, scalar_reload]
  split
  · have hindent := h.withPage fun page => page.indentTo column
    cases Scalar.ofValue? v with
    | none => exact hindent.withPage fun page => page.indicator ":" false
    | some scalar =>
      exact (hindent.writeScalar hρ hv scalar (column + 2) true).withPage fun page =>
        page.indicator ":" false
  · exact (hwrite _ _ (h.startEntry column "?")).startEntry column ":"

theorem write_scalar {scalar : Scalar} (h : Scalar.ofValue? v = some scalar) (column : Nat)
    (inMapping : Bool) (s : Sheet) :
    write column inMapping v s = s.writeScalar v scalar column false := by
  cases v with
  | list | tuple | set | map => simp [Scalar.ofValue?] at h
  | _ => simp only [write, h]

mutual

/-- What is loaded is written in the same way. -/
theorem Renamed.write (hρ : Set.InjOn ρ {o | o ∈ os}) (v : Value) (hv : ∀ o ∈ Yaml.origins v, o ∈ os)
    (column : Nat) (inMapping : Bool) {s t : Sheet} (h : Renamed ρ os s t) :
    Renamed ρ os (Sheet.write column inMapping v s) (Sheet.write column inMapping (v.reload ρ) t) := by
  cases hscalar : Scalar.ofValue? v with
  | some scalar =>
    rw [write_scalar hscalar, write_scalar ((scalar_reload v).trans hscalar)]
    exact h.writeScalar hρ hv scalar column false
  | none =>
    cases v with
    | list items | tuple items =>
      have hcolumn : t.sequenceColumn column inMapping = s.sequenceColumn column inMapping := by
        rw [sequenceColumn, sequenceColumn, h.page]
      cases items with
      | nil => exact h.writeEmpty "[" "]"
      | cons v items =>
        change Renamed ρ os (Sheet.writeItems (s.sequenceColumn column inMapping) (v :: items) s)
          (Sheet.writeItems (t.sequenceColumn column inMapping) (Value.reloadItems ρ (v :: items)) t)
        rw [hcolumn]
        exact Renamed.writeItems hρ (v :: items) hv _ h
    | set items =>
      cases items with
      | nil => exact (h.tagged .set).writeEmpty "\x7b" "\x7d"
      | cons v items => exact Renamed.writeMembers hρ (v :: items) hv column (h.tagged .set)
    | map entries =>
      cases entries with
      | nil => exact h.writeEmpty "\x7b" "\x7d"
      | cons e entries => exact Renamed.writeEntries hρ (e :: entries) hv column h
    | _ => simp [Scalar.ofValue?] at hscalar

theorem Renamed.writeItems (hρ : Set.InjOn ρ {o | o ∈ os}) (items : List Value)
    (hitems : ∀ o ∈ itemOrigins items, o ∈ os) (column : Nat) {s t : Sheet} (h : Renamed ρ os s t) :
    Renamed ρ os (Sheet.writeItems column items s)
      (Sheet.writeItems column (Value.reloadItems ρ items) t) := by
  cases items with
  | nil => exact h
  | cons v items =>
    rw [itemOrigins, List.forall_mem_append] at hitems
    rw [Value.reloadItems, Sheet.writeItems, Sheet.writeItems]
    exact Renamed.writeItems hρ items hitems.2 column
      (Renamed.write hρ v hitems.1 (column + 2) false (h.startEntry column "-"))

theorem Renamed.writeEntries (hρ : Set.InjOn ρ {o | o ∈ os}) (entries : List (Value × Value))
    (hentries : ∀ o ∈ entryOrigins entries, o ∈ os) (column : Nat) {s t : Sheet}
    (h : Renamed ρ os s t) : Renamed ρ os (Sheet.writeEntries column entries s)
      (Sheet.writeEntries column (Value.reloadEntries ρ entries) t) := by
  cases entries with
  | nil => exact h
  | cons e entries =>
    obtain ⟨k, v⟩ := e
    rw [entryOrigins, List.forall_mem_append, List.forall_mem_append] at hentries
    rw [Value.reloadEntries, Sheet.writeEntries, Sheet.writeEntries]
    have hkey := h.writeKey hρ hentries.1.1 (fun _ _ hs =>
      Renamed.write hρ k hentries.1.1 (column + 2) true hs) column
    exact Renamed.writeEntries hρ entries hentries.2 column
      (Renamed.write hρ v hentries.1.2 (column + 2) true hkey)

theorem Renamed.writeMembers (hρ : Set.InjOn ρ {o | o ∈ os}) (items : List Value)
    (hitems : ∀ o ∈ itemOrigins items, o ∈ os) (column : Nat) {s t : Sheet} (h : Renamed ρ os s t) :
    Renamed ρ os (Sheet.writeMembers column items s)
      (Sheet.writeMembers column (Value.reloadItems ρ items) t) := by
  cases items with
  | nil => exact h
  | cons k items =>
    rw [itemOrigins, List.forall_mem_append] at hitems
    rw [Value.reloadItems, Sheet.writeMembers, Sheet.writeMembers]
    have hkey := h.writeKey hρ hitems.1 (fun _ _ hs =>
      Renamed.write hρ k hitems.1 (column + 2) true hs) column
    exact Renamed.writeMembers hρ items hitems.2 column
      (hkey.writeScalar (v := .null) hρ (by simp [Yaml.origins]) ⟨.null, "null"⟩ (column + 2) false)

end

end Sheet

/-- The text of a document does not tell the origins of its dates. -/
theorem render_reload {v : Value} (hρ : Set.InjOn ρ {o | o ∈ origins v}) :
    render (v.reload ρ) = render v := by
  have hnil : ∀ o ∈ ([] : List Nat), o ∈ origins v := by simp
  obtain ⟨hshared, hmem⟩ := sharedOrigins_map hρ hnil hnil fun _ ho => ho
  have hanchors : anchorNames (v.reload ρ) = (anchorNames v).map fun a => (ρ a.1, a.2) := by
    rw [anchorNames, origins_reload]
    rw [List.map_nil] at hshared
    rw [hshared, List.length_map, List.zip_map_left]
    rfl
  have hrenamed : Sheet.Renamed ρ (origins v) { anchors := anchorNames v }
      { anchors := anchorNames (v.reload ρ) } := by
    refine ⟨hanchors, fun a ha => hmem a.1 ?_, rfl, rfl⟩
    exact (List.of_mem_zip ha).1
  have hwritten := hrenamed.write hρ v (fun _ ho => ho) 0 false
  rw [render, render, hwritten.page]

end Yaml

end Sidecar
