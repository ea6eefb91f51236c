import Sidecar.Text.Blank
import Sidecar.Yaml.Fault

/-!
Integers and floats as scalars write them.
-/

namespace Sidecar.Yaml.Numeral

/-- The value of a digit in a base up to 36. -/
def digitValue? (base : Nat) (c : Char) : Option Nat :=
  let n := c.toNat
  let value? :=
    if 48 ≤ n && n ≤ 57 then some (n - 48)
    else if 97 ≤ n && n ≤ 122 then some (n - 87)
    else if 65 ≤ n && n ≤ 90 then some (n - 55)
    else none
  value?.filter (· < base)

def natOf (base : Nat) (cs : List Char) : Option Nat :=
  cs.foldlM (fun n c => (digitValue? base c).map (n * base + ·)) 0

/-- The letter that may mark a base in front of the digits. -/
def baseLetter? (base : Nat) : Option (Char × Char) :=
  if base = 2 then some ('b', 'B')
  else if base = 8 then some ('o', 'O')
  else if base = 16 then some ('x', 'X')
  else none

def dropBase (base : Nat) : List Char → List Char
  | '0' :: letter :: rest =>
    match baseLetter? base with
    | some (small, big) => if letter = small ∨ letter = big then rest else '0' :: letter :: rest
    | none => '0' :: letter :: rest
  | cs => cs

/-- The sign of a text, and what follows it. -/
def splitSign : List Char → Bool × List Char
  | '-' :: rest => (true, rest)
  | '+' :: rest => (false, rest)
  | cs => (false, cs)

/-- An integer in a base. Blanks around it and a sign are allowed; only bases that are no powers of
two have a limit on the number of digits. -/
def integer (base : Nat) (text : List Char) : Except Fault Int :=
  let wrong : Except Fault Int := .error (.scalar (.notInteger base (String.ofList text)))
  let (negative, body) := splitSign (Text.trim (· == ' ') (text.map Text.foldDigit))
  let digits := dropBase base body
  if digits.isEmpty then wrong
  else
    match natOf base digits with
    | none => wrong
    | some n =>
      if base = 10 ∧ Literal.digitLimit < digits.length then
        .error (.scalar (.tooManyDigits digits.length))
      else .ok (if negative then -n else n)

private def lowerAscii (c : Char) : Char := if 'A' ≤ c ∧ c ≤ 'Z' then Char.ofNat (c.toNat + 32) else c

/-- A decimal without a sign. -/
private def unsignedFloat? (negative : Bool) (cs : List Char) : Option Binary64 := do
  let word := String.ofList (cs.map lowerAscii)
  if word = "inf" ∨ word = "infinity" then return .infinite negative
  if word = "nan" then return .nan
  let whole := cs.takeWhile (·.isDigit)
  let rest := cs.dropWhile (·.isDigit)
  let (fraction, rest) := match rest with
    | '.' :: more => (more.takeWhile Char.isDigit, more.dropWhile Char.isDigit)
    | _ => ([], rest)
  guard !(whole.isEmpty && fraction.isEmpty)
  let exponent ← match rest with
    | [] => some (0 : Int)
    | e :: more =>
      if e = 'e' ∨ e = 'E' then
        let (negative, digits) := splitSign more
        if digits.isEmpty then none
        else (natOf 10 digits).map fun n => if negative then -n else n
      else none
  let digits ← natOf 10 (whole ++ fraction)
  return Binary64.ofDecimal negative digits (exponent - fraction.length)

/-- A float in decimal notation. Blanks around it and a sign are allowed. -/
def float (text : List Char) : Except Fault Binary64 :=
  let (negative, body) := splitSign (Text.trim (· == ' ') (text.map Text.foldDigit))
  match unsignedFloat? negative body with
  | some x => .ok x
  | none => .error (.scalar (.notFloat (String.ofList text)))

/-- The parts of a text between colons. -/
def parts (cs : List Char) : List (List Char) := cs.splitOn ':'

/-- The sign and the text of a numeral without underscores, which must not be empty. -/
def signed (text : String) : Except Fault (Bool × List Char) :=
  let cs := text.toList.filter (· ≠ '_')
  if cs.isEmpty then .error (.scalar .empty) else .ok (splitSign cs)

/-- An integer scalar: binary, octal, hexadecimal, decimal, or in parts of sixty. -/
def readInteger (text : String) : Except Fault Int := do
  let (negative, cs) ← signed text
  let apply (n : Int) : Int := if negative then -n else n
  match cs with
  | [] => throw (.scalar .empty)
  | ['0'] => return 0
  | '0' :: 'b' :: rest => return apply (← integer 2 rest)
  | '0' :: 'x' :: rest => return apply (← integer 16 rest)
  | '0' :: _ => return apply (← integer 8 cs)
  | _ =>
    if cs.contains ':' then
      let digits ← (parts cs).mapM (integer 10)
      return apply (digits.foldl (fun n d => n * 60 + d) 0)
    else return apply (← integer 10 cs)

/-- The sum of parts that count sixty times as much each, from the last on, rounded at each step. -/
private def sumSixties : Nat → Binary64 → List Binary64 → Except Fault Binary64
  | _, sum, [] => .ok sum
  | base, sum, x :: rest =>
    match Binary64.ofInt base with
    | .finite n r => sumSixties (base * 60) (sum.add (x.mul (.finite n r))) rest
    | _ => .error (.scalar .floatOverflow)

/-- A float scalar: decimal, in parts of sixty, or a word for what is not finite. -/
def readFloat (text : String) : Except Fault Binary64 := do
  let (negative, cs) ← signed (String.ofList (text.toList.map lowerAscii))
  let apply (x : Binary64) : Binary64 := (Binary64.ofInt (if negative then -1 else 1)).mul x
  let word := String.ofList cs
  if word = ".inf" then return .infinite negative
  if word = ".nan" then return .nan
  if cs.contains ':' then
    let digits ← (parts cs).mapM float
    return apply (← sumSixties 1 (.finite false 0) digits.reverse)
  else return apply (← float cs)

end Sidecar.Yaml.Numeral
