import Sidecar.Proofs.Value.Path

/-!
JSON patches, as the receiver of a patch applies them: an operation names a place in the document by a
pointer, and the place must be there if its value is to be replaced.
-/

namespace Sidecar.Value

/-- A token of a pointer without its escapes: `~1` stands for a slash and `~0` for a tilde. -/
def unescape? : List Char → Option (List Char)
  | [] => some []
  | '~' :: '0' :: rest => (unescape? rest).map ('~' :: ·)
  | '~' :: '1' :: rest => (unescape? rest).map ('/' :: ·)
  | c :: rest => if c = '~' then none else (unescape? rest).map (c :: ·)

/-- The tokens of a pointer. A slash stands before each of them. -/
def pointer? (s : String) : Option (List String) :=
  match s.toList.splitOn '/' with
  | [] :: tokens => tokens.mapM fun token => (unescape? token).map String.ofList
  | _ => none

/-- The position in a list that a token names. It has no leading zeros. -/
def position? (token : String) : Option Nat :=
  token.toNat?.filter fun n => toString n = token

/-- Replaces the value at a place that is there. -/
def replace? : Value → List String → Value → Option Value
  | _, [], new => some new
  | .map es, token :: path, new => do
    let old ← (map es).field? token
    let inner ← replace? old path new
    return .map (insertEntry (.str token) inner es)
  | .list items, token :: path, new => do
    let i ← position? token
    let old ← items[i]?
    let inner ← replace? old path new
    return .list (items.set i inner)
  | _, _ :: _, _ => none

/-- Applies one operation of a patch. Only replacements are known. -/
def applyOperation? (document operation : Value) : Option Value :=
  match operation.field? "op", operation.field? "path", operation.field? "value" with
  | some (.str "replace"), some (.str path), some new =>
    (pointer? path).bind fun path => document.replace? path new
  | _, _, _ => none

/-- Applies the operations of a patch one after the other. -/
def applyPatch? (patch document : Value) : Option Value :=
  match patch with
  | .list operations => operations.foldlM applyOperation? document
  | _ => none

example : pointer? "/metadata/annotations/a~1b" = some ["metadata", "annotations", "a/b"] := by decide

/-- The object with another value under one of its keys, if it has that key. -/
def withEntry (es : List (Value × Value)) (name : String) (new : Value) : Value :=
  .map (es.map fun e => (e.1, if e.1 = .str name then new else e.2))

theorem insert_eq_withEntry {o : Object} (ho : o.IsJson) {name : String} {old : Value}
    (h : (map o.entries).field? name = some old) (new : Value) :
    map (Object.entries (Schema.insert name new o)) = withEntry o.entries name new := by
  rw [field?_entries] at h
  have hmem : name ∈ o.map Prod.fst := List.mem_map.mpr ⟨_, Object.mem_of_lookup h, rfl⟩
  rw [Schema.insert_of_mem ho.nodup hmem, withEntry]
  simp [Object.entries]

theorem field?_withEntry {es : List (Value × Value)} (hes : (map es).isJson = true) {name : String}
    {old : Value} (h : (map es).field? name = some old) (new : Value) :
    (withEntry es name new).field? name = some new := by
  obtain ⟨o, rfl, ho⟩ := exists_object_of_isJson hes
  rw [← insert_eq_withEntry ho h, field?_entries, Schema.lookup_insert, if_pos rfl]

/-- The value of an entry of a JSON object is replaced exactly if the entry is there. -/
theorem replace?_entry {es : List (Value × Value)} (hes : (map es).isJson = true) (name : String)
    (new : Value) :
    (map es).replace? [name] new = ((map es).field? name).map fun _ => withEntry es name new := by
  obtain ⟨o, rfl, ho⟩ := exists_object_of_isJson hes
  cases h : (map o.entries).field? name with
  | none => simp [replace?, h]
  | some old => simp [replace?, h, insertEntry_entries, insert_eq_withEntry ho h]

end Sidecar.Value
