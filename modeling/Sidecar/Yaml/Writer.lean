import Sidecar.Number.Shortest
import Sidecar.Text.Base64
import Sidecar.Value.Basic
import Sidecar.Yaml.Page
import Sidecar.Yaml.Style

/-!
Writing values as documents in block style, in ASCII. Dates that are one object are written once, with
an anchor, and referred to after that.
-/

namespace Sidecar.Yaml

/-- Positional from `0.0001` up to below `1e+16`. -/
def numberStyle : Binary64.NumberStyle := ⟨-4, 16, 2, ".inf", ".nan"⟩

/-- The digits in front of an exponent always have a point. -/
def floatText (x : Binary64) : String :=
  let cs := (x.text numberStyle).toList
  if cs.contains '.' then String.ofList cs
  else String.ofList (cs.flatMap fun c => if c = 'e' then ['.', '0', 'e'] else [c])

private def lineWidth : Nat := 76

/-- A text in lines of equal width. -/
private def chunks : Nat → List Char → List (List Char)
  | 0, _ => []
  | fuel + 1, cs => if cs.isEmpty then [] else cs.take lineWidth :: chunks fuel (cs.drop lineWidth)

def base64Lines (bytes : List UInt8) : List (List Char) :=
  let cs := Base64.encodeChars bytes
  chunks cs.length cs

/-- The scalar that a value is written as, unless it is a collection. -/
def Scalar.ofValue? : Value → Option Scalar
  | .null => some ⟨.null, "null"⟩
  | .bool b => some ⟨.bool, if b then "true" else "false"⟩
  | .int n => some ⟨.int, toString n⟩
  | .float x => some ⟨.float, floatText x⟩
  | .str s => some ⟨.str, s⟩
  | .bytes b => some ⟨.binary, String.ofList ((base64Lines b).flatMap (· ++ ['\n']))⟩
  | .date d _ => some ⟨.timestamp, d.text⟩
  | .timestamp t _ => some ⟨.timestamp, t.text " "⟩
  | .list _ | .tuple _ | .set _ | .map _ => none

/-- Where a date was read from. -/
def originOf? : Value → Option Nat
  | .date _ origin | .timestamp _ origin => origin
  | _ => none

mutual

/-- The origins of the dates in a value, in the order in which they are written. -/
def origins : Value → List Nat
  | .list items | .tuple items | .set items => itemOrigins items
  | .map entries => entryOrigins entries
  | .date _ origin | .timestamp _ origin => origin.toList
  | _ => []

def itemOrigins : List Value → List Nat
  | [] => []
  | v :: rest => origins v ++ itemOrigins rest

def entryOrigins : List (Value × Value) → List Nat
  | [] => []
  | (k, v) :: rest => origins k ++ origins v ++ entryOrigins rest

end

/-- The origins that occur more than once, in the order of their second occurrences. -/
def sharedOrigins : List Nat → List Nat → List Nat → List Nat
  | _, shared, [] => shared.reverse
  | seen, shared, o :: rest =>
    if !seen.contains o then sharedOrigins (o :: seen) shared rest
    else if shared.contains o then sharedOrigins seen shared rest
    else sharedOrigins seen (o :: shared) rest

private def anchorName (number : Nat) : String := "id" ++ padded 3 number

/-- The names of the anchors, by origin. -/
def anchorNames (v : Value) : List (Nat × String) :=
  let shared := sharedOrigins [] [] (origins v)
  shared.zip ((List.range shared.length).map fun i => anchorName (i + 1))

/-- A page, with the names of the anchors by origin and those that stand on it. -/
structure Sheet where
  anchors : List (Nat × String)
  page : Page := {}
  written : List String := []

namespace Sheet

/-- The name a value is referred to by, and whether it has been written. -/
def anchorOf (s : Sheet) (v : Value) : Option (String × Bool) :=
  ((originOf? v).bind fun origin => s.anchors.lookup origin).map fun name => (name, s.written.contains name)

/-- Writes a scalar with its anchor and tag. -/
def writeScalar (s : Sheet) (v : Value) (scalar : Scalar) (column : Nat) (isKey : Bool) : Sheet :=
  match anchorOf s v with
  | some (name, true) => { s with page := s.page.indicator ("*" ++ name) true }
  | anchor =>
    let style := scalar.style isKey
    let page := match anchor with
      | some (name, _) => s.page.indicator ("&" ++ name) true
      | none => s.page
    let page := if scalar.needsTag style then page.indicator scalar.tag.short true else page
    let cs := scalar.text.toList
    let page := match style with
      | .plain => page.plain cs column (!isKey)
      | .singleQuoted => page.singleQuoted cs column (!isKey)
      | .doubleQuoted => page.doubleQuoted cs column (!isKey)
      | .literal =>
        match v with
        | .bytes b => page.literal (base64Lines b) column
        | _ => page
    { s with page, written := (anchor.map (·.1)).toList ++ s.written }

/-- Keys of 128 characters and more, counting anchor and tag, do not stand in front of a colon. -/
def isSimpleKey (s : Sheet) (key : Value) : Bool :=
  match Scalar.ofValue? key with
  | none => false
  | some scalar =>
    match anchorOf s key with
    | some (_, true) => true
    | anchor =>
      let length := (anchor.map (·.1.length)).getD 0 + scalar.tag.short.length + scalar.text.length
      length < 128 && !scalar.text.isEmpty && !scalar.allowance.multiline

def writeEmpty (s : Sheet) (opening closing : String) : Sheet :=
  { s with page := (s.page.indicator opening true true).indicator closing false }

def tagged (s : Sheet) (tag : Tag) : Sheet := { s with page := s.page.indicator tag.short true }

/-- The column that the entries of a sequence start at: below a key, that of the key. -/
def sequenceColumn (s : Sheet) (column : Nat) (inMapping : Bool) : Nat :=
  if inMapping && !s.page.inIndent then column - 2 else column

def startEntry (s : Sheet) (column : Nat) (indicator : String) : Sheet :=
  { s with page := (s.page.indentTo column).indicator indicator true false true }

/-- Writes a key and the colon after it. A key that is not simple stands after a question mark. -/
def writeKey (s : Sheet) (key : Value) (column : Nat) (writeValue : Sheet → Sheet) : Sheet :=
  if isSimpleKey s key then
    let s := { s with page := s.page.indentTo column }
    let s := match Scalar.ofValue? key with
      | some scalar => writeScalar s key scalar (column + 2) true
      | none => s
    { s with page := s.page.indicator ":" false }
  else startEntry (writeValue (startEntry s column "?")) column ":"

mutual

/-- Writes a value. What a collection holds starts at the given column, or before it where a sequence
stands below a key. -/
def write (column : Nat) (inMapping : Bool) : Value → Sheet → Sheet
  | .list items, s | .tuple items, s =>
    if items.isEmpty then s.writeEmpty "[" "]"
    else writeItems (s.sequenceColumn column inMapping) items s
  | .set items, s =>
    if items.isEmpty then (s.tagged .set).writeEmpty "\x7b" "\x7d"
    else writeMembers column items (s.tagged .set)
  | .map entries, s =>
    if entries.isEmpty then s.writeEmpty "\x7b" "\x7d" else writeEntries column entries s
  | v, s =>
    match Scalar.ofValue? v with
    | some scalar => writeScalar s v scalar column false
    | none => s

def writeItems (column : Nat) : List Value → Sheet → Sheet
  | [], s => s
  | v :: rest, s => writeItems column rest (write (column + 2) false v (s.startEntry column "-"))

def writeEntries (column : Nat) : List (Value × Value) → Sheet → Sheet
  | [], s => s
  | (k, v) :: rest, s =>
    let s := writeKey s k column (write (column + 2) true k)
    writeEntries column rest (write (column + 2) true v s)

/-- The members of a set are written as keys of nothing. -/
def writeMembers (column : Nat) : List Value → Sheet → Sheet
  | [], s => s
  | k :: rest, s =>
    let s := writeKey s k column (write (column + 2) true k)
    writeMembers column rest (writeScalar s .null ⟨.null, "null"⟩ (column + 2) false)

end

end Sheet

/-- The text of a document. -/
def render (v : Value) : String :=
  ((Sheet.write 0 false v { anchors := anchorNames v }).page.indentTo 0).text

end Sidecar.Yaml
