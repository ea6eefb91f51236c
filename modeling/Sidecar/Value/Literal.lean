import Sidecar.Number.Shortest
import Sidecar.Text.Printable
import Sidecar.Value.Basic

/-!
The literal form of a value, as it is quoted in reports on wrong input, and its shortened form.
-/

namespace Sidecar

namespace Literal

def hexDigit (n : Nat) : Char := Nat.digitChar n

/-- The lowest `width` hexadecimal digits of a number. -/
def hex (width n : Nat) : List Char :=
  (List.range width).reverse.map fun i => hexDigit (n / Nat.pow 16 i % 16)

/-- A single quote is used unless the text holds one and no double quote. -/
def quoteFor (cs : List Char) : Char := if cs.contains '\'' && !cs.contains '"' then '"' else '\''

def escapeChar (quote c : Char) : List Char :=
  if c = quote ∨ c = '\\' then ['\\', c]
  else if c = '\n' then ['\\', 'n']
  else if c = '\r' then ['\\', 'r']
  else if c = '\t' then ['\\', 't']
  else if Text.isPrintable c then [c]
  else if c.toNat < 0x100 then '\\' :: 'x' :: hex 2 c.toNat
  else if c.toNat < 0x10000 then '\\' :: 'u' :: hex 4 c.toNat
  else '\\' :: 'U' :: hex 8 c.toNat

def quoted (s : String) : String :=
  let quote := quoteFor s.toList
  String.ofList (quote :: (s.toList.flatMap (escapeChar quote) ++ [quote]))

private def escapeByte (quote : Char) (b : UInt8) : List Char :=
  let c := Char.ofNat b.toNat
  if b.toNat < 0x7f then escapeChar quote c else '\\' :: 'x' :: hex 2 b.toNat

def quotedBytes (bytes : List UInt8) : String :=
  let quote := quoteFor (bytes.map fun b => Char.ofNat b.toNat)
  String.ofList ('b' :: quote :: (bytes.flatMap (escapeByte quote) ++ [quote]))

/-- Integers with more digits than this have no written form. -/
def digitLimit : Nat := 4300

/-- What is reported of an integer that has no written form. -/
def tooManyDigits : String :=
  "Exceeds the limit (" ++ toString digitLimit
    ++ " digits) for integer string conversion; use sys.set_int_max_str_digits() to increase the limit"

def integer? (n : Int) : Option String :=
  if n.natAbs < Nat.pow 10 digitLimit then some (toString n) else none

def duration (seconds : Int) : String :=
  let days := Int.fdiv seconds 86400
  let rest := Int.fmod seconds 86400
  let parts := (if days = 0 then [] else ["days=" ++ toString days])
    ++ (if rest = 0 then [] else ["seconds=" ++ toString rest])
  "datetime.timedelta(" ++ (if parts.isEmpty then "0" else ", ".intercalate parts) ++ ")"

def zone (offset : Int) : String :=
  if offset = 0 then "datetime.timezone.utc" else "datetime.timezone(" ++ duration offset ++ ")"

private def commas (parts : List String) : String := ", ".intercalate parts

def date (d : Date) : String :=
  "datetime.date(" ++ commas [toString d.year, toString d.month, toString d.day] ++ ")"

def timestamp (t : Timestamp) : String :=
  let fraction := if t.microsecond = 0 then [] else [t.microsecond]
  let seconds := if t.microsecond = 0 ∧ t.second = 0 then [] else t.second :: fraction
  let parts := [t.date.year, t.date.month, t.date.day, t.hour, t.minute] ++ seconds
  "datetime.datetime(" ++ commas (parts.map toString
    ++ (t.offset.map fun o => "tzinfo=" ++ zone o).toList) ++ ")"

mutual

/-- The literal form; a value that holds an integer beyond the digit limit has none. -/
def ofValue? : Value → Option String
  | .null => some "None"
  | .bool b => some (if b then "True" else "False")
  | .int n => integer? n
  | .float x => some (x.text Binary64.plainStyle)
  | .str s => some (quoted s)
  | .bytes b => some (quotedBytes b)
  | .date d _ => some (date d)
  | .timestamp t _ => some (timestamp t)
  | .list items => (ofItems? items).map fun parts => "[" ++ commas parts ++ "]"
  | .tuple items => (ofItems? items).map fun parts =>
      "(" ++ commas parts ++ (if parts.length = 1 then ",)" else ")")
  | .set items => (ofItems? items).map fun parts =>
      if parts.isEmpty then "set()" else "\x7b" ++ commas parts ++ "\x7d"
  | .map entries => (ofEntries? entries).map fun parts => "\x7b" ++ commas parts ++ "\x7d"

def ofItems? : List Value → Option (List String)
  | [] => some []
  | item :: rest => do return (← ofValue? item) :: (← ofItems? rest)

def ofEntries? : List (Value × Value) → Option (List String)
  | [] => some []
  | (key, value) :: rest => do
    return ((← ofValue? key) ++ ": " ++ (← ofValue? value)) :: (← ofEntries? rest)

end

def ofValue (v : Value) : String :=
  (ofValue? v).getD ("<unprintable " ++ v.kindName ++ " object>")

/-- The longest prefix of at most `limit` bytes. -/
def takeBytes (limit : Nat) : List Char → List Char
  | [] => []
  | c :: rest => if c.utf8Size ≤ limit then c :: takeBytes (limit - c.utf8Size) rest else []

/-- A text of more than 50 bytes keeps at most 25 bytes of its start and 24 of its end. -/
def shortened (s : String) : String :=
  if s.utf8ByteSize ≤ 50 then s
  else
    let cs := s.toList
    String.ofList (takeBytes 25 cs) ++ "..." ++ String.ofList (takeBytes 24 cs.reverse).reverse

end Literal

end Sidecar
