import Sidecar.Proofs.Json.Document
import Sidecar.Proofs.Value.Path

/-!
Values with a text: those that are made of such values.
-/

namespace Sidecar.Json

/-- A value with a text. -/
def Printable (v : Value) : Prop := ∃ text, print v = .ok text

theorem printable_str (s : String) : Printable (.str s) := ⟨_, rfl⟩

theorem printable_int {n : Int} (h : n.natAbs < Nat.pow 10 Literal.digitLimit) : Printable (.int n) := by
  refine ⟨toString n, ?_⟩
  rw [print]
  exact integer_eq_ok_iff.mpr ⟨h, rfl⟩

theorem printable_list_iff {items : List Value} :
    Printable (.list items) ↔ ∀ item ∈ items, Printable item := by
  have hitems (items : List Value) :
      Printable (.list items) ↔ ∃ parts, printItems items = .ok parts := by
    simp [Printable, print_list_eq_ok_iff]
  simp only [hitems]
  induction items with
  | nil => simp [printItems]
  | cons item items ih =>
    refine Iff.trans ?_ ((and_congr_right fun _ => ih).trans List.forall_mem_cons.symm)
    constructor
    · rintro ⟨parts, hparts⟩
      obtain ⟨text, texts, htext, htexts, -⟩ := printItems_cons_eq_ok_iff.mp hparts
      exact ⟨⟨text, htext⟩, texts, htexts⟩
    · rintro ⟨⟨text, htext⟩, texts, htexts⟩
      exact ⟨_, printItems_cons_eq_ok_iff.mpr ⟨text, texts, htext, htexts, rfl⟩⟩

theorem printable_object_iff {o : Object} : Printable (.object o) ↔ ∀ e ∈ o, Printable e.2 := by
  have hentries (o : Object) : Printable (.object o) ↔ ∃ parts, printEntries o.entries = .ok parts := by
    simp [Printable, Value.object_eq, print_map_eq_ok_iff]
  simp only [hentries]
  induction o with
  | nil => simp [printEntries]
  | cons e o ih =>
    obtain ⟨k, v⟩ := e
    refine Iff.trans ?_ ((and_congr_right fun _ => ih).trans List.forall_mem_cons.symm)
    constructor
    · rintro ⟨parts, hparts⟩
      obtain ⟨text, texts, htext, htexts, -⟩ := printEntries_cons_eq_ok_iff.mp hparts
      exact ⟨⟨text, htext⟩, texts, htexts⟩
    · rintro ⟨⟨text, htext⟩, texts, htexts⟩
      exact ⟨_, printEntries_cons_eq_ok_iff.mpr ⟨text, texts, htext, htexts, rfl⟩⟩

theorem Printable.field? {es : List (Value × Value)} (h : Printable (.map es)) {name : String} {v : Value}
    (hv : (Value.map es).field? name = some v) : Printable v := by
  obtain ⟨text, htext⟩ := h
  obtain ⟨parts, hparts, -⟩ := print_map_eq_ok_iff.mp htext
  obtain ⟨e, he, rfl⟩ := Option.map_eq_some_iff.mp hv
  have hmem := List.mem_of_find?_eq_some he
  clear he hv htext
  induction es generalizing parts with
  | nil => exact absurd hmem List.not_mem_nil
  | cons first es ih =>
    obtain ⟨k, w⟩ := first
    cases hk : key k <;> cases hw : print w <;> cases hes : printEntries es <;>
      simp [printEntries, hk, hw, hes, bind, Except.bind, pure, Except.pure] at hparts
    rcases List.mem_cons.mp hmem with rfl | hmem
    · exact ⟨_, hw⟩
    · exact ih _ hes hmem

theorem Printable.at? {path : List String} {v w : Value} (h : Printable v) (hw : v.at? path = some w) :
    Printable w := by
  induction path generalizing v with
  | nil =>
    obtain rfl := Option.some.inj hw
    exact h
  | cons name path ih =>
    obtain ⟨u, hu, hpath⟩ := Option.bind_eq_some_iff.mp hw
    cases v with
    | map es => exact ih (h.field? hu) hpath
    | _ => simp [Value.field?] at hu

end Sidecar.Json
