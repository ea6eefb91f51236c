import Sidecar.Number.Binary64

/-!
The shortest decimal that reads back as a given number, and its two written forms. Of several
decimals with the fewest digits the one nearest to the number is taken.
-/

namespace Sidecar.Binary64

/-- A decimal `digits * 10 ^ exponent`. -/
structure Decimal where
  digits : Nat
  exponent : Int
  deriving DecidableEq, Repr

/-- The exponent of the leading decimal digit of a positive rank. -/
def leadingExponent (rank : Nat) : Int :=
  ((Nat.toDigits 10 (unitsOfRank rank * Nat.pow 10 400 / unitsPerOne)).length : Int) - 401

/-- A decimal of `places` digits that rounds to the given rank, if there is one. All quantities are
in half units, so that the ends of the rounding interval are whole; the ends belong to it exactly
if the rank is even. -/
def decimalOfPlaces? (rank : Nat) (leading : Int) (places : Nat) : Option Decimal :=
  let exponent := leading + 1 - places
  let up := Nat.pow 10 (-exponent).toNat
  let grid := 2 * unitsPerOne * Nat.pow 10 exponent.toNat
  let low := (unitsOfRank (rank - 1) + unitsOfRank rank) * up
  let high := (unitsOfRank rank + unitsOfRank (rank + 1)) * up
  let exact := 2 * unitsOfRank rank * up
  let hits (c : Nat) : Bool :=
    if rank % 2 = 0 then low ≤ c * grid && c * grid ≤ high else low < c * grid && c * grid < high
  let below := exact / grid
  let above := below + 1
  let nearAbove := 2 * exact > (below + above) * grid || 2 * exact = (below + above) * grid && below % 2 = 1
  if hits below && (!nearAbove || !hits above) then some ⟨below, exponent⟩
  else if hits above then some ⟨above, exponent⟩
  else none

/-- The shortest decimal of a positive rank. Seventeen digits always suffice. -/
def shortest (rank : Nat) : Decimal :=
  let leading := leadingExponent rank
  ((List.range 17).findSome? fun n => decimalOfPlaces? rank leading (n + 1)).getD ⟨0, 0⟩

/-- How numbers are written: the range of leading exponents that is written without an exponent,
and the words for what is not finite. -/
structure NumberStyle where
  leastPositional : Int
  leastScientific : Int
  exponentDigits : Nat
  infinity : String
  nan : String

def zeros (n : Nat) : List Char := List.replicate n '0'

def trimmed (cs : List Char) : List Char := (cs.reverse.dropWhile (· == '0')).reverse

/-- A positive decimal in the given style. Without an exponent, at least one digit stands on either
side of the point; with one, the point is left out when a single digit is written. -/
def Decimal.text (style : NumberStyle) (d : Decimal) : String :=
  let written := Nat.toDigits 10 d.digits
  let leading : Int := d.exponent + written.length - 1
  let digits := trimmed written
  String.ofList <|
    if style.leastPositional ≤ leading ∧ leading < style.leastScientific then
      if leading < 0 then '0' :: '.' :: (zeros (-leading - 1).toNat ++ digits)
      else
        let whole := leading.toNat + 1
        let front := digits.take whole
        let back := digits.drop whole
        front ++ zeros (whole - front.length) ++ '.' :: (if back.isEmpty then ['0'] else back)
    else
      let power := Nat.toDigits 10 leading.natAbs
      digits.take 1 ++ (if digits.length ≤ 1 then [] else '.' :: digits.drop 1)
        ++ 'e' :: (if leading < 0 then '-' else '+') :: (zeros (style.exponentDigits - power.length) ++ power)

/-- The shortest text of a number that reads back as it. -/
def text (style : NumberStyle) : Binary64 → String
  | .nan => style.nan
  | .infinite negative => (if negative then "-" else "") ++ style.infinity
  | .finite negative rank =>
    (if negative then "-" else "") ++ (if rank = 0 then "0.0" else (shortest rank).text style)

/-- Positional from `0.0001` up to below `1e+16`; exponents have a sign and two digits or more. -/
def plainStyle : NumberStyle := ⟨-4, 16, 2, "inf", "nan"⟩

end Sidecar.Binary64
