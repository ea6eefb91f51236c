import Sidecar.Inject.Basic
import Sidecar.Json.Printer
import Sidecar.Pod.Encode
import Sidecar.Yaml.Document
import Sidecar.Yaml.Writer

/-!
Injection into manifests: a text with one pod becomes the text of the injected pod.
-/

namespace Sidecar

/-- Why a manifest is not injected. -/
inductive ManifestError where
  | unreadable (fault : Yaml.Fault)
  | documentCount (count : Nat)
  | notMapping
  | notPod (report : Schema.Report)
  | notInjected (error : InjectError)
  /-- An integer in the injected pod has too many digits to be written. -/
  | integerTooLong
  /-- The injected pod has more levels than the writer goes down. -/
  | tooDeep
  deriving DecidableEq, Repr

def ManifestError.message : ManifestError → String
  | .unreadable (.scalar fault) => fault.message
  | .unreadable fault => decoding ++ fault.message
  | .documentCount count => decoding ++ "expected exactly one document, got " ++ toString count
  | .notMapping => decoding ++ "document is not a mapping"
  | .notPod report => decoding ++ report.text
  | .notInjected error => error.message
  | .integerTooLong => Literal.tooManyDigits
  | .tooDeep => "maximum recursion depth exceeded"
where
  decoding : String := "failed to unmarshal pod: "

/-- A text, or the bytes of one. -/
inductive Source where
  | text (s : String)
  | bytes (b : List UInt8)
  deriving DecidableEq, Repr

namespace Manifest

def documents : Source → Except Yaml.Fault (List Value)
  | .text s => Yaml.documents s.toList
  | .bytes b => Yaml.documentsOfBytes b

/-- The pod in a manifest. Empty documents do not count. -/
def read (source : Source) : Except ManifestError Pod :=
  match documents source with
  | .error fault => .error (.unreadable fault)
  | .ok vs =>
    match vs.filter (· ≠ .null) with
    | [.map es] =>
      match (Pod.decode (.map es)).report "Pod" with
      | .ok pod => .ok pod
      | .error report => .error (.notPod report)
    | [_] => .error .notMapping
    | vs => .error (.documentCount vs.length)

mutual

/-- Moves the origins of dates. -/
def shiftOrigins (n : Nat) : Value → Value
  | .date d origin => .date d (origin.map (· + n))
  | .timestamp t origin => .timestamp t (origin.map (· + n))
  | .list items => .list (shiftItems n items)
  | .tuple items => .tuple (shiftItems n items)
  | .set items => .set (shiftItems n items)
  | .map entries => .map (shiftEntries n entries)
  | v => v

def shiftItems (n : Nat) : List Value → List Value
  | [] => []
  | v :: rest => shiftOrigins n v :: shiftItems n rest

def shiftEntries (n : Nat) : List (Value × Value) → List (Value × Value)
  | [] => []
  | (k, v) :: rest => (shiftOrigins n k, shiftOrigins n v) :: shiftEntries n rest

end

/-- A pod shares no date between its unknown entries and its declared fields. -/
def unshare (pod : Pod) : Pod :=
  let bound := (Yaml.origins pod.toValue).foldl max 0 + 1
  { pod with unknown := pod.unknown.map fun (k, v) => (k, shiftOrigins bound v) }

mutual

/-- Whether all integers in a value can be written. -/
def isWritable : Value → Bool
  | .int n => (Literal.integer? n).isSome
  | .list items | .tuple items | .set items => itemsWritable items
  | .map entries => entriesWritable entries
  | _ => true

def itemsWritable : List Value → Bool
  | [] => true
  | v :: rest => isWritable v && itemsWritable rest

def entriesWritable : List (Value × Value) → Bool
  | [] => true
  | (k, v) :: rest => isWritable k && isWritable v && entriesWritable rest

end

mutual

/-- How many collections are around what is deepest in a value. -/
def levels : Value → Nat
  | .list items | .tuple items | .set items => itemLevels items + 1
  | .map entries => entryLevels entries + 1
  | _ => 0

def itemLevels : List Value → Nat
  | [] => 0
  | v :: rest => max (levels v) (itemLevels rest)

def entryLevels : List (Value × Value) → Nat
  | [] => 0
  | (k, v) :: rest => max (max (levels k) (levels v)) (entryLevels rest)

end

/-- Whether a value has no more levels than there may be, if that is limited. -/
def fits (depth : Option Nat) (v : Value) : Bool := depth.all (levels v ≤ ·)

def write (depth : Option Nat) (pod : Pod) : Except ManifestError String :=
  let value := (unshare pod).toValue
  if !fits depth value then .error .tooDeep
  else if isWritable value then .ok (Yaml.render value)
  else .error .integerTooLong

/-- The manifest with the sidecar injected into its pod, by a writer that goes down so many levels. -/
def injectWithin (depth : Option Nat) (c : InjectionConfig) (source : Source) :
    Except ManifestError String := do
  let pod ← read source
  match c.inject pod with
  | .ok injected => write depth injected
  | .error e => throw (.notInjected e)

/-- The manifest with the sidecar injected into its pod, however many levels that has. -/
def inject (c : InjectionConfig) (source : Source) : Except ManifestError String :=
  injectWithin none c source

end Manifest

end Sidecar
