/-!
Numbers of the binary64 format, with exact arithmetic and no machine floats, so that every result
can be computed inside a proof. Rounding is to the nearest number, ties to the even one.
-/

namespace Sidecar

/-- A binary64 number. A finite magnitude is named by its rank: rank 0 is zero, rank 1 the least
positive number, and each further rank the next larger one. -/
inductive Binary64 where
  | nan
  | infinite (negative : Bool)
  | finite (negative : Bool) (rank : Nat)
  deriving DecidableEq, Repr, Inhabited

namespace Binary64

/-- The count of numbers that share one exponent. -/
def binade : Nat := Nat.pow 2 52

/-- Ranks from here on are too large to be finite. -/
def overflowRank : Nat := 2047 * binade

/-- Magnitudes are multiples of `1 / unitsPerOne`. -/
def unitsPerOne : Nat := Nat.pow 2 1074

/-- The magnitude of a rank, in units. -/
def unitsOfRank (rank : Nat) : Nat :=
  if rank < binade then rank else (binade + rank % binade) * Nat.pow 2 (rank / binade - 1)

/-- The quotient rounded to the nearest integer, a half to the even one. -/
def roundDiv (num den : Nat) : Nat :=
  let q := num / den
  let r := num % den
  if 2 * r < den then q
  else if den < 2 * r then q + 1
  else if q % 2 = 0 then q else q + 1

def ofRank (negative : Bool) (rank : Nat) : Binary64 :=
  if rank < overflowRank then .finite negative rank else .infinite negative

/-- The number nearest to `num / den`. -/
def ofRatio (negative : Bool) (num den : Nat) : Binary64 :=
  let scaled := num * unitsPerOne
  let shift := (scaled / den).log2 - 52
  ofRank negative (roundDiv scaled (den * Nat.pow 2 shift) + shift * binade)

/-- The number nearest to `digits * 10 ^ exponent`. Magnitudes far outside the range are settled
by their count of digits alone, which keeps the powers small. -/
def ofDecimal (negative : Bool) (digits : Nat) (exponent : Int) : Binary64 :=
  if digits = 0 then .finite negative 0
  else
    let top : Int := exponent + (Nat.toDigits 10 digits).length
    if 310 < top then .infinite negative
    else if top < -330 then .finite negative 0
    else if 0 ≤ exponent then ofRatio negative (digits * Nat.pow 10 exponent.toNat) 1
    else ofRatio negative digits (Nat.pow 10 (-exponent).toNat)

def ofInt (n : Int) : Binary64 := ofRatio (n < 0) n.natAbs 1

/-- A finite number in signed units. -/
def signedUnits (negative : Bool) (rank : Nat) : Int :=
  if negative then -(unitsOfRank rank : Int) else unitsOfRank rank

/-- The integer a number is equal to, if there is one. -/
def toInt? : Binary64 → Option Int
  | .finite negative rank =>
    let units := signedUnits negative rank
    if unitsOfRank rank % unitsPerOne = 0 then some (units.tdiv unitsPerOne) else none
  | _ => none

/-- Numerical equality: zeros of both signs are equal, and nothing is equal to NaN. -/
def same : Binary64 → Binary64 → Bool
  | .nan, _ | _, .nan => false
  | .infinite a, .infinite b => a == b
  | .finite a r, .finite b s => r == s && (a == b || r == 0)
  | _, _ => false

def add : Binary64 → Binary64 → Binary64
  | .nan, _ | _, .nan => .nan
  | .infinite a, .infinite b => if a = b then .infinite a else .nan
  | .infinite a, _ | _, .infinite a => .infinite a
  | .finite a r, .finite b s =>
    let sum := signedUnits a r + signedUnits b s
    if sum = 0 then .finite (a && b) 0 else ofRatio (sum < 0) sum.natAbs unitsPerOne

def mul : Binary64 → Binary64 → Binary64
  | .nan, _ | _, .nan => .nan
  | .infinite a, .infinite b => .infinite (a != b)
  | .infinite a, .finite b r | .finite b r, .infinite a => if r = 0 then .nan else .infinite (a != b)
  | .finite a r, .finite b s =>
    ofRatio (a != b) (unitsOfRank r * unitsOfRank s) (unitsPerOne * unitsPerOne)

end Binary64

end Sidecar
