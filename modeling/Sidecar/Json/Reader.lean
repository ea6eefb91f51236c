import Sidecar.Value.Literal

/-!
Reading JSON text. Beyond the standard, `NaN`, `Infinity` and `-Infinity` are numbers. Of two entries
with one key the later value counts, at the place of the earlier one.
-/

namespace Sidecar.Json

/-- Why a text is not read. -/
inductive ReadError where
  | malformed
  | tooManyDigits (count : Nat)
  | tooDeep
  /-- An escape stands for half of a surrogate pair, which is no character. -/
  | loneSurrogate
  deriving DecidableEq, Repr

def ReadError.message : ReadError → String
  | .malformed => "malformed JSON"
  | .tooManyDigits count => "Exceeds the limit (" ++ toString Literal.digitLimit
      ++ " digits) for integer string conversion: value has " ++ toString count
      ++ " digits; use sys.set_int_max_str_digits() to increase the limit"
  | .tooDeep => "nesting is too deep"
  | .loneSurrogate => "half of a surrogate pair"

/-- What is not read although it is well formed. Without a limit, integers of any length and values of any
depth are read. -/
structure Limits where
  digits : Option Nat := none
  depth : Option Nat := none
  deriving DecidableEq, Repr

/-- The limits for what stands inside of a list or an object. -/
def Limits.enter (limits : Limits) : Except ReadError Limits :=
  match limits.depth with
  | none => .ok limits
  | some 0 => .error .tooDeep
  | some (depth + 1) => .ok { limits with depth := some depth }

def skipBlanks (cs : List Char) : List Char :=
  cs.dropWhile fun c => c == ' ' || c == '\t' || c == '\n' || c == '\r'

/-- The rest of a text after a literal word that it starts with. -/
def dropWord? : List Char → List Char → Option (List Char)
  | [], cs => some cs
  | w :: word, c :: cs => if w = c then dropWord? word cs else none
  | _ :: _, [] => none

def hexValue? (c : Char) : Option Nat :=
  let n := c.toNat
  if 48 ≤ n && n ≤ 57 then some (n - 48)
  else if 97 ≤ n && n ≤ 102 then some (n - 87)
  else if 65 ≤ n && n ≤ 70 then some (n - 55)
  else none

def hexQuad? : List Char → Option (Nat × List Char)
  | a :: b :: c :: d :: rest => do
    return (((← hexValue? a) * 16 + (← hexValue? b)) * 256
      + (← hexValue? c) * 16 + (← hexValue? d), rest)
  | _ => none

/-- Joins the code unit of an escape with the second half of a surrogate pair, if one has to follow. -/
def joinSurrogates? (unit : Nat) (rest : List Char) : Option (Char × List Char) :=
  if 0xd800 ≤ unit ∧ unit < 0xdc00 then
    match rest with
    | '\\' :: 'u' :: more =>
      match hexQuad? more with
      | some (low, after) =>
        if 0xdc00 ≤ low ∧ low < 0xe000 then
          some (Char.ofNat (0x10000 + (unit - 0xd800) * 0x400 + (low - 0xdc00)), after)
        else none
      | none => none
    | _ => none
  else if 0xdc00 ≤ unit ∧ unit < 0xe000 then none
  else some (Char.ofNat unit, rest)

def simpleEscape? : Char → Option Char
  | '"' => some '"'
  | '\\' => some '\\'
  | '/' => some '/'
  | 'b' => some (Char.ofNat 8)
  | 'f' => some (Char.ofNat 12)
  | 'n' => some '\n'
  | 'r' => some '\r'
  | 't' => some '\t'
  | _ => none

/-- The rest of a text literal after its opening quote. -/
def readString : Nat → List Char → List Char → Except ReadError (String × List Char)
  | 0, _, _ => .error .malformed
  | fuel + 1, acc, cs =>
    match cs with
    | '"' :: rest => .ok (String.ofList acc.reverse, rest)
    | '\\' :: 'u' :: rest =>
      match hexQuad? rest with
      | some (unit, after) =>
        match joinSurrogates? unit after with
        | some (c, after) => readString fuel (c :: acc) after
        | none => .error .loneSurrogate
      | none => .error .malformed
    | '\\' :: e :: rest =>
      match simpleEscape? e with
      | some c => readString fuel (c :: acc) rest
      | none => .error .malformed
    | c :: rest => if c.toNat < 0x20 then .error .malformed else readString fuel (c :: acc) rest
    | [] => .error .malformed

def natOfDigits (digits : List Char) : Nat :=
  digits.foldl (fun n d => n * 10 + (d.toNat - 48)) 0

def isDigit (c : Char) : Bool := '0' ≤ c && c ≤ '9'

/-- The exponent part of a number, if one is complete; else nothing is taken. -/
def readExponent (cs : List Char) : Option Int × List Char :=
  match cs with
  | e :: rest =>
    if e = 'e' ∨ e = 'E' then
      let (negative, rest) := match rest with
        | '-' :: more => (true, more)
        | '+' :: more => (false, more)
        | _ => (false, rest)
      let digits := rest.takeWhile isDigit
      if digits.isEmpty then (none, cs)
      else
        let n : Int := natOfDigits digits
        (some (if negative then -n else n), rest.dropWhile isDigit)
    else (none, cs)
  | [] => (none, cs)

/-- The digits after the point, if there are any; else nothing is taken. -/
def readFraction (cs : List Char) : List Char × List Char :=
  match cs with
  | '.' :: rest =>
    let digits := rest.takeWhile isDigit
    if digits.isEmpty then ([], cs) else (digits, rest.dropWhile isDigit)
  | _ => ([], cs)

/-- A number after its sign. -/
def readNumber (limit : Option Nat) (negative : Bool) (cs : List Char) :
    Except ReadError (Value × List Char) :=
  let (whole, rest) := match cs with
    | '0' :: rest => (['0'], rest)
    | _ => (cs.takeWhile isDigit, cs.dropWhile isDigit)
  if whole.isEmpty then .error .malformed
  else
    let (fraction, rest) := readFraction rest
    let (exponent, rest) := readExponent rest
    if fraction.isEmpty && exponent.isNone then
      if limit.any (· < whole.length) then .error (.tooManyDigits whole.length)
      else
        let n : Int := natOfDigits whole
        .ok (.int (if negative then -n else n), rest)
    else
      let digits := natOfDigits (whole ++ fraction)
      .ok (.float (Binary64.ofDecimal negative digits (exponent.getD 0 - fraction.length)), rest)

def words : List (List Char × Value) :=
  [("null".toList, .null), ("true".toList, .bool true), ("false".toList, .bool false),
    ("NaN".toList, .float .nan), ("Infinity".toList, .float (.infinite false)),
    ("-Infinity".toList, .float (.infinite true))]

mutual

/-- A value that starts at the first character. -/
def readValue (limits : Limits) : Nat → List Char → Except ReadError (Value × List Char)
  | 0, _ => .error .malformed
  | fuel + 1, cs =>
    match cs with
    | '"' :: rest => do
      let (s, rest) ← readString (rest.length + 1) [] rest
      return (.str s, rest)
    | '[' :: rest => do
      let inner ← limits.enter
      match skipBlanks rest with
      | ']' :: rest => return (.list [], rest)
      | rest =>
        let (items, rest) ← readItems inner fuel rest
        return (.list items, rest)
    | '{' :: rest => do
      let inner ← limits.enter
      match skipBlanks rest with
      | '}' :: rest => return (.map [], rest)
      | rest =>
        let (entries, rest) ← readEntries inner fuel rest
        return (Value.mapOfList entries, rest)
    | _ =>
      match words.findSome? fun (word, value) => (dropWord? word cs).map (value, ·) with
      | some found => .ok found
      | none =>
        match cs with
        | '-' :: rest => readNumber limits.digits true rest
        | _ => readNumber limits.digits false cs

/-- The items of a list up to its closing bracket. -/
def readItems (limits : Limits) : Nat → List Char → Except ReadError (List Value × List Char)
  | 0, _ => .error .malformed
  | fuel + 1, cs => do
    let (item, rest) ← readValue limits fuel cs
    match skipBlanks rest with
    | ']' :: rest => return ([item], rest)
    | ',' :: rest =>
      let (items, rest) ← readItems limits fuel (skipBlanks rest)
      return (item :: items, rest)
    | _ => throw .malformed

/-- The entries of an object up to its closing brace. -/
def readEntries (limits : Limits) :
    Nat → List Char → Except ReadError (List (Value × Value) × List Char)
  | 0, _ => .error .malformed
  | fuel + 1, cs =>
    match cs with
    | '"' :: rest => do
      let (key, rest) ← readString (rest.length + 1) [] rest
      match skipBlanks rest with
      | ':' :: rest =>
        let (value, rest) ← readValue limits fuel (skipBlanks rest)
        match skipBlanks rest with
        | '}' :: rest => return ([(.str key, value)], rest)
        | ',' :: rest =>
          let (entries, rest) ← readEntries limits fuel (skipBlanks rest)
          return ((.str key, value) :: entries, rest)
        | _ => throw .malformed
      | _ => throw .malformed
    | _ => .error .malformed

end

/-- The value a text holds, if it is within the limits. -/
def read (limits : Limits) (cs : List Char) : Except ReadError Value := do
  let (value, rest) ← readValue limits (cs.length + 1) (skipBlanks cs)
  if (skipBlanks rest).isEmpty then return value else throw .malformed

end Sidecar.Json
