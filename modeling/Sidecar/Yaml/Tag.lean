/-!
Tags, and the tag that the form of a plain scalar implies.
-/

namespace Sidecar.Yaml

inductive Tag where
  | null
  | bool
  | int
  | float
  | str
  | binary
  | timestamp
  | seq
  | map
  | set
  | omap
  | pairs
  /-- The key `<<`, under which other mappings are merged in. -/
  | merge
  /-- The key `=`, under which a mapping has its value as a scalar. -/
  | value
  | other (name : String)
  deriving DecidableEq, Repr

namespace Tag

/-- What the names of the standard tags start with. -/
def base : String := "tag:yaml.org,2002:"

def standard : List (String × Tag) := [
  ("null", .null), ("bool", .bool), ("int", .int), ("float", .float), ("str", .str),
  ("binary", .binary), ("timestamp", .timestamp), ("seq", .seq), ("map", .map), ("set", .set),
  ("omap", .omap), ("pairs", .pairs), ("merge", .merge), ("value", .value)]

def ofName (name : String) : Tag :=
  match standard.find? fun (word, _) => base ++ word = name with
  | some (_, tag) => tag
  | none => .other name

private def isDigitOrScore (c : Char) : Bool := c.isDigit || c == '_'

private def dropSign : List Char → List Char
  | '-' :: rest => rest
  | '+' :: rest => rest
  | cs => cs

private def isBinaryDigit (c : Char) : Bool := c == '0' || c == '1' || c == '_'

private def isOctalDigit (c : Char) : Bool := ('0' ≤ c && c ≤ '7') || c == '_'

private def isHexDigit (c : Char) : Bool :=
  c.isDigit || ('a' ≤ c && c ≤ 'f') || ('A' ≤ c && c ≤ 'F') || c == '_'

private def nonemptyAll (p : Char → Bool) (cs : List Char) : Bool := !cs.isEmpty && cs.all p

/-- What follows a sequence of parts `:0` to `:59`, if there is at least one. -/
private def dropSixties : Nat → List Char → Option (List Char)
  | 0, _ => none
  | fuel + 1, cs =>
    match cs with
    | ':' :: a :: rest =>
      let after := match rest with
        | b :: more => if '0' ≤ a && a ≤ '5' && b.isDigit then some more else none
        | [] => none
      let after := match after with
        | some more => some more
        | none => if a.isDigit then some rest else none
      match after with
      | none => none
      | some more => some ((dropSixties fuel more).getD more)
    | _ => none

def isBool (s : String) : Bool :=
  ["yes", "Yes", "YES", "no", "No", "NO", "true", "True", "TRUE", "false", "False", "FALSE", "on", "On",
    "ON", "off", "Off", "OFF"].contains s

def isNull (s : String) : Bool := ["~", "null", "Null", "NULL", ""].contains s

private def startsDecimal (cs : List Char) : Bool :=
  match cs with
  | c :: _ => c.isDigit
  | [] => false

def isInt (cs : List Char) : Bool :=
  match dropSign cs with
  | ['0'] => true
  | '0' :: 'b' :: rest => nonemptyAll isBinaryDigit rest
  | '0' :: 'x' :: rest => nonemptyAll isHexDigit rest
  | '0' :: rest => nonemptyAll isOctalDigit rest
  | cs =>
    startsDecimal cs &&
      match cs.dropWhile isDigitOrScore with
      | [] => true
      | rest => dropSixties (rest.length + 1) rest = some []

/-- An exponent with its sign, or nothing. -/
private def isExponentOrEmpty : List Char → Bool
  | [] => true
  | 'e' :: s :: rest => (s = '+' || s = '-') && nonemptyAll (·.isDigit) rest
  | 'E' :: s :: rest => (s = '+' || s = '-') && nonemptyAll (·.isDigit) rest
  | _ => false

def isFloat (cs : List Char) : Bool :=
  let body := dropSign cs
  let pointed := match body.dropWhile isDigitOrScore with
    | '.' :: rest => startsDecimal body && isExponentOrEmpty (rest.dropWhile isDigitOrScore)
    | _ => false
  let fraction := match cs with
    | '.' :: rest => startsDecimal rest && isExponentOrEmpty (rest.dropWhile isDigitOrScore)
    | _ => false
  let sixties := startsDecimal body &&
    match dropSixties (body.length + 1) (body.dropWhile isDigitOrScore) with
    | some ('.' :: rest) => rest.all isDigitOrScore
    | _ => false
  pointed || fraction || sixties
    || [".inf", ".Inf", ".INF"].contains (String.ofList body)
    || [".nan", ".NaN", ".NAN"].contains (String.ofList cs)

/-- One or two digits, and the rest. -/
private def shortNumber : List Char → Option (List Char)
  | a :: b :: rest => if a.isDigit then some (if b.isDigit then rest else b :: rest) else none
  | [a] => if a.isDigit then some [] else none
  | [] => none

private def twoDigits : List Char → Option (List Char)
  | a :: b :: rest => if a.isDigit && b.isDigit then some rest else none
  | _ => none

private def character (c : Char) : List Char → Option (List Char)
  | d :: rest => if c = d then some rest else none
  | [] => none

private def isSpaceOrTab (c : Char) : Bool := c == ' ' || c == '\t'

/-- The zone at the end of a timestamp, or nothing. -/
private def isZoneOrEmpty (cs : List Char) : Bool :=
  match cs.dropWhile isSpaceOrTab with
  | [] => cs.isEmpty
  | ['Z'] => true
  | sign :: rest =>
    (sign = '+' || sign = '-') &&
      match shortNumber rest with
      | some [] => true
      | some (':' :: minutes) => twoDigits minutes = some []
      | _ => false

private def year : List Char → Option (List Char) := fun cs => twoDigits cs >>= twoDigits

/-- What follows the letter or the blanks between a date and a time of day. -/
private def dropTimeSeparator : List Char → Option (List Char)
  | 'T' :: rest => some rest
  | 't' :: rest => some rest
  | c :: rest => if isSpaceOrTab c then some (rest.dropWhile isSpaceOrTab) else none
  | [] => none

private def isDate (cs : List Char) : Bool :=
  (year cs >>= character '-' >>= twoDigits >>= character '-' >>= twoDigits) = some []

private def isDateTime (cs : List Char) : Bool :=
  let afterSeconds := year cs >>= character '-' >>= shortNumber >>= character '-' >>= shortNumber
    >>= dropTimeSeparator >>= shortNumber >>= character ':' >>= twoDigits >>= character ':' >>= twoDigits
  match afterSeconds with
  | none => false
  | some ('.' :: rest) => isZoneOrEmpty (rest.dropWhile (·.isDigit))
  | some rest => isZoneOrEmpty rest

/-- A date, or a date with a time of day. -/
def isTimestamp (cs : List Char) : Bool := isDate cs || isDateTime cs

/-- Patterns match up to a line break at the end of a text. -/
private def dropFinalBreak (cs : List Char) : List Char :=
  match cs.reverse with
  | '\n' :: rest => rest.reverse
  | _ => cs

/-- The texts that a timestamp may be written in when it is tagged as one: month and day may have one
digit also without a time of day, and a line break may follow. -/
def isTimeText (cs : List Char) : Bool :=
  let cs := dropFinalBreak cs
  isTimestamp cs
    || (year cs >>= character '-' >>= shortNumber >>= character '-' >>= shortNumber) = some []

/-- The tag of a plain scalar without a tag. -/
def implied (text : String) : Tag :=
  if text.isEmpty then .null
  else if text.toList.head? = some '\n' then .str
  else
    let cs := dropFinalBreak text.toList
    let s := String.ofList cs
    if isBool s then .bool
    else if isFloat cs then .float
    else if isInt cs then .int
    else if s = "<<" then .merge
    else if isNull s then .null
    else if isTimestamp cs then .timestamp
    else if s = "=" then .value
    else if s = "!" ∨ s = "&" ∨ s = "*" then ofName (base ++ "yaml")
    else .str

end Tag

end Sidecar.Yaml
