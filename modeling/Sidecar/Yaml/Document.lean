import Sidecar.Text.Base64
import Sidecar.Text.Utf16
import Sidecar.Yaml.Node
import Sidecar.Yaml.Numeral

/-!
The values of documents.
-/

namespace Sidecar.Yaml

namespace Node

/-- The text of a scalar. A mapping has that of its entry under `=`. -/
def text? : Node → Except Fault String
  | .scalar _ text _ => .ok text
  | .sequence _ _ start => .error (.content start)
  | .mapping _ entries start => ofEntries start entries
where
  ofEntries (start : Mark) : List (Node × Node) → Except Fault String
    | [] => .error (.content start)
    | (key, value) :: rest => if key.tag = .value then text? value else ofEntries start rest

end Node

namespace Scalar

def truthValue (text : String) : Except Fault Bool :=
  let word := String.ofList (text.toList.map fun c =>
    if 'A' ≤ c ∧ c ≤ 'Z' then Char.ofNat (c.toNat + 32) else c)
  if ["yes", "true", "on"].contains word then .ok true
  else if ["no", "false", "off"].contains word then .ok false
  else .error (.scalar (.notTruthValue word))

/-- The bytes written in base 64. -/
def bytes (start : Mark) (text : String) : Except Fault (List UInt8) :=
  if text.toList.any fun c => 128 ≤ c.toNat then .error (.content start)
  else
    match Base64.decode? text.toList with
    | some bytes => .ok bytes
    | none => .error (.content start)

private def number (digits : List Char) : Nat := digits.foldl (fun n d => n * 10 + (d.toNat - 48)) 0

private def part (cs : List Char) : Nat × List Char :=
  (number (cs.takeWhile Char.isDigit), cs.dropWhile Char.isDigit)

private def isSpaceOrTab (c : Char) : Bool := c == ' ' || c == '\t'

/-- The offset of a zone in seconds: none where no zone is given. -/
private def zone (cs : List Char) : Option Int :=
  match cs.dropWhile isSpaceOrTab with
  | 'Z' :: _ => some 0
  | sign :: rest =>
    if sign = '+' ∨ sign = '-' then
      let (hours, rest) := part rest
      let minutes := match rest with
        | ':' :: rest => (part rest).1
        | _ => 0
      let seconds : Int := (hours * 3600 + minutes * 60 : Nat)
      some (if sign = '-' then -seconds else seconds)
    else none
  | [] => none

/-- A date, or a date with a time of day, whose text has the right form. -/
private def timeParts (origin : Nat) (cs : List Char) : Except TimeError Value :=
  let (year, rest) := part cs
  let (month, rest) := part (rest.drop 1)
  let (day, rest) := part (rest.drop 1)
  match rest with
  | c :: more =>
    if c = '\n' then return .date (← Date.ofParts year month day) (some origin)
    else do
      let (hour, rest) := part (if isSpaceOrTab c then more.dropWhile isSpaceOrTab else more)
      let (minute, rest) := part (rest.drop 1)
      let (second, rest) := part (rest.drop 1)
      let (fraction, rest) := match rest with
        | '.' :: rest => (rest.takeWhile Char.isDigit, rest.dropWhile Char.isDigit)
        | _ => ([], rest)
      let microsecond := number ((fraction.take 6) ++ List.replicate (6 - fraction.length) '0')
      let moment ← Timestamp.ofParts year month day hour minute second microsecond (zone rest)
      return .timestamp moment origin
  | [] => return .date (← Date.ofParts year month day) (some origin)

def time (origin : Nat) (text : String) : Except Fault Value :=
  if Tag.isTimeText text.toList then
    match timeParts origin text.toList with
    | .ok v => .ok v
    | .error e => .error (.scalar (.time e))
  else .error (.scalar .notTimestamp)

end Scalar

/-- Entries with merge keys resolved: what the mappings under them hold comes first. -/
structure Flattened where
  merged : List (Node × Node)
  own : List (Node × Node)

mutual

def flattenEntries : List (Node × Node) → Except Fault Flattened
  | [] => .ok ⟨[], []⟩
  | (key, value) :: rest => do
    if key.tag = .merge then
      let merged ← mergedEntries value
      let flat ← flattenEntries rest
      return { flat with merged := merged ++ flat.merged }
    else
      let key := match key with
        | .scalar .value text start => .scalar .str text start
        | key => key
      let flat ← flattenEntries rest
      return { flat with own := (key, value) :: flat.own }

/-- The entries that a node under a merge key stands for. -/
def mergedEntries : Node → Except Fault (List (Node × Node))
  | .mapping _ entries _ => do
    let flat ← flattenEntries entries
    return flat.merged ++ flat.own
  | .sequence _ items _ => return (← sourceEntries items).reverse.flatten
  | .scalar _ _ start => throw (.content start)

private def sourceEntries : List Node → Except Fault (List (List (Node × Node)))
  | [] => .ok []
  | .mapping _ entries _ :: rest => do
    let flat ← flattenEntries entries
    return (flat.merged ++ flat.own) :: (← sourceEntries rest)
  | node :: _ => throw (.content node.start)

end

/-- A result, with the fault that is found first. Nodes are visited level by level, so that of two
faults the one at the lesser depth is found first. -/
structure Built (α : Type) where
  value : α
  fault : Option (Nat × Fault) := none

namespace Built

def ofExcept {α : Type} (depth : Nat) (default : α) : Except Fault α → Built α
  | .ok a => ⟨a, none⟩
  | .error e => ⟨default, some (depth, e)⟩

def earlier : Option (Nat × Fault) → Option (Nat × Fault) → Option (Nat × Fault)
  | none, b => b
  | a, none => a
  | some a, some b => if b.1 < a.1 then some b else some a

def map₂ {α β γ : Type} (f : α → β → γ) (a : Built α) (b : Built β) : Built γ :=
  ⟨f a.value b.value, earlier a.fault b.fault⟩

def map {α β : Type} (f : α → β) (a : Built α) : Built β := ⟨f a.value, a.fault⟩

end Built

/-- Whether a value can be a key. -/
def isKey : Value → Bool
  | .list _ | .map _ | .set _ => false
  | _ => true

section

/- What a collection holds, at the given depth, built with `build`. -/
variable (depth : Nat) (build : Node → Built Value)

private def buildItems : List Node → Built (List Value)
  | [] => ⟨[], none⟩
  | node :: rest => Built.map₂ List.cons (build node) (buildItems rest)

def buildEntries : List (Node × Node) → Built (List (Value × Value))
  | [] => ⟨[], none⟩
  | (k, v) :: rest =>
    let key := build k
    let key := { key with
      fault := Built.earlier key.fault (if isKey key.value then none else some (depth, .content k.start)) }
    Built.map₂ List.cons (Built.map₂ Prod.mk key (build v)) (buildEntries rest)

def buildMapping (node : Node) : Built (List (Value × Value)) :=
  match node with
  | .mapping _ entries _ =>
    match flattenEntries entries with
    | .ok flat => buildEntries depth build (flat.merged ++ flat.own)
    | .error e => ⟨[], some (depth, e)⟩
  | _ => ⟨[], some (depth, .content node.start)⟩

/-- Mappings with one entry each. -/
private def buildPairs : List Node → Built (List Value)
  | [] => ⟨[], none⟩
  | .mapping _ [(k, v)] _ :: rest =>
    let pair := Built.map₂ (fun k v => .tuple [k, v]) (build k) (build v)
    Built.map₂ List.cons pair (buildPairs rest)
  | node :: _ => ⟨[], some (depth, .content node.start)⟩

end

/-- The value of a node found at a depth; what a collection holds is one level deeper. -/
def build : Nat → Nat → Node → Built Value
  | 0, depth, node => ⟨.null, some (depth, .content node.start)⟩
  | fuel + 1, depth, node =>
    let inner := depth + 1
    let scalar (read : String → Except Fault Value) : Built Value :=
      Built.ofExcept depth .null (node.text? >>= read)
    let items (read : List Node → Built (List Value)) : Built Value :=
      match node with
      | .sequence _ items _ => (read items).map .list
      | _ => ⟨.list [], some (inner, .content node.start)⟩
    match node.tag with
    | .null => scalar fun _ => .ok .null
    | .bool => scalar fun s => return .bool (← Scalar.truthValue s)
    | .int => scalar fun s => return .int (← Numeral.readInteger s)
    | .float => scalar fun s => return .float (← Numeral.readFloat s)
    | .str => scalar fun s => return .str s
    | .binary => scalar fun s => return .bytes (← Scalar.bytes node.start s)
    | .timestamp => scalar fun s => Scalar.time node.start.index s
    | .seq => items (buildItems (build fuel inner))
    | .map => (buildMapping inner (build fuel inner) node).map Value.mapOfList
    | .set => (buildMapping inner (build fuel inner) node).map fun entries =>
        .set ((entries.foldl (fun acc (k, v) => Value.insertEntry k v acc) []).map (·.1))
    | .omap | .pairs => items (buildPairs inner (build fuel inner))
    | .merge | .value | .other _ => ⟨.null, some (depth, .content node.start)⟩

def valueOf (fuel : Nat) (node : Node) : Except Fault Value :=
  let built := build fuel 0 node
  match built.fault with
  | none => .ok built.value
  | some (_, e) => .error e

/-- The characters that a text may hold. -/
def isAllowed (c : Char) : Bool :=
  let n := c.toNat
  n == 9 || n == 10 || n == 13 || (0x20 ≤ n && n ≤ 0x7e) || n == 0x85 || (0xa0 ≤ n && n ≤ 0xfffd)
    || 0x10000 ≤ n

def readDocuments (fuel : Nat) : Nat → Bool → NodeReader → Except Fault (List Value)
  | 0, _, _ => .ok []
  | left + 1, first, reader => do
    let (node?, reader) ← (NodeReader.readDocument first).run reader
    match node? with
    | none => return []
    | some node =>
      let value ← valueOf fuel node
      return value :: (← readDocuments fuel left false reader)

/-- The values of all documents in a text. A document is read only after the value of the one before
it. -/
def documents (cs : List Char) : Except Fault (List Value) :=
  if cs.all isAllowed then
    let fuel := NodeReader.stepsFor cs.length
    readDocuments fuel fuel true { lexer := Lexer.ofText cs }
  else .error .encoding

/-- The text of bytes: UTF-16 after a mark of byte order, else UTF-8. -/
def decodeBytes? (bytes : List UInt8) : Option (List Char) :=
  match bytes with
  | 0xff :: 0xfe :: _ => Utf16.decodeChars? false bytes
  | 0xfe :: 0xff :: _ => Utf16.decodeChars? true bytes
  | _ => Utf8.decodeChars? bytes

def documentsOfBytes (bytes : List UInt8) : Except Fault (List Value) :=
  match decodeBytes? bytes with
  | some cs => documents cs
  | none => .error .encoding

end Sidecar.Yaml
