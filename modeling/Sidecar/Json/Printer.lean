import Sidecar.Value.Literal

/-!
JSON text of a value on one line, in ASCII.
-/

namespace Sidecar.Json

/-- Why a value has no JSON text. -/
inductive PrintError where
  | unsupported (kind : String)
  | unsupportedKey (kind : String)
  | tooManyDigits
  deriving DecidableEq, Repr

def PrintError.message : PrintError → String
  | .unsupported kind => "Object of type " ++ kind ++ " is not JSON serializable"
  | .unsupportedKey kind => "keys must be str, int, float, bool or None, not " ++ kind
  | .tooManyDigits => Literal.tooManyDigits

def unicodeEscape (n : Nat) : List Char := '\\' :: 'u' :: Literal.hex 4 n

/-- Characters beyond the basic plane are written as two surrogates. -/
def escapeChar (c : Char) : List Char :=
  let n := c.toNat
  if c = '"' then ['\\', '"']
  else if c = '\\' then ['\\', '\\']
  else if c = '\n' then ['\\', 'n']
  else if c = '\r' then ['\\', 'r']
  else if c = '\t' then ['\\', 't']
  else if n = 12 then ['\\', 'f']
  else if n = 8 then ['\\', 'b']
  else if 0x20 ≤ n ∧ n < 0x7f then [c]
  else if n < 0x10000 then unicodeEscape n
  else unicodeEscape (0xd800 + (n - 0x10000) / 0x400) ++ unicodeEscape (0xdc00 + (n - 0x10000) % 0x400)

def quoted (s : String) : String := String.ofList ('"' :: (s.toList.flatMap escapeChar ++ ['"']))

def numberStyle : Binary64.NumberStyle := ⟨-4, 16, 2, "Infinity", "NaN"⟩

def integer (n : Int) : Except PrintError String :=
  match Literal.integer? n with
  | some text => .ok text
  | none => .error .tooManyDigits

/-- The full name of a kind, in reports on keys. -/
def keyKind (v : Value) : String :=
  match v with
  | .date .. | .timestamp .. => "datetime." ++ v.kindName
  | _ => v.kindName

/-- Keys that are no texts are written as the text of their value. -/
def key : Value → Except PrintError String
  | .str s => .ok (quoted s)
  | .null => .ok (quoted "null")
  | .bool b => .ok (quoted (if b then "true" else "false"))
  | .int n => return quoted (← integer n)
  | .float x => .ok (quoted (x.text numberStyle))
  | other => .error (.unsupportedKey (keyKind other))

mutual

def print : Value → Except PrintError String
  | .null => .ok "null"
  | .bool b => .ok (if b then "true" else "false")
  | .int n => integer n
  | .float x => .ok (x.text numberStyle)
  | .str s => .ok (quoted s)
  | .list items | .tuple items => return "[" ++ ", ".intercalate (← printItems items) ++ "]"
  | .map entries => return "\x7b" ++ ", ".intercalate (← printEntries entries) ++ "\x7d"
  | .bytes _ => .error (.unsupported "bytes")
  | .date .. => .error (.unsupported "date")
  | .timestamp .. => .error (.unsupported "datetime")
  | .set _ => .error (.unsupported "set")

def printItems : List Value → Except PrintError (List String)
  | [] => .ok []
  | item :: rest => do return (← print item) :: (← printItems rest)

def printEntries : List (Value × Value) → Except PrintError (List String)
  | [] => .ok []
  | (k, v) :: rest => do return ((← key k) ++ ": " ++ (← print v)) :: (← printEntries rest)

end

end Sidecar.Json
