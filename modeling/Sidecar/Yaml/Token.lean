import Sidecar.Yaml.Cursor

/-!
Tokens of the document language.
-/

namespace Sidecar.Yaml

/-- A tag as written: a handle that stands for a declared start of the tag, and the rest of it. -/
structure TagText where
  handle : Option String
  suffix : String
  deriving DecidableEq, Repr

inductive Directive where
  | version (major minor : Nat)
  | tag (handle start : String)
  | other
  deriving DecidableEq, Repr

inductive TokenKind where
  | streamEnd
  | directive (d : Directive)
  | documentStart
  | documentEnd
  | blockSequenceStart
  | blockMappingStart
  | blockEnd
  | flowSequenceStart
  | flowMappingStart
  | flowSequenceEnd
  | flowMappingEnd
  | key
  | value
  | blockEntry
  | flowEntry
  | reference (name : String)
  | anchor (name : String)
  | tag (text : TagText)
  /-- A plain scalar is one without quotes that is not in block style. -/
  | scalar (text : String) (plain : Bool)
  deriving DecidableEq, Repr

structure Token where
  kind : TokenKind
  start : Mark
  deriving DecidableEq, Repr

end Sidecar.Yaml
