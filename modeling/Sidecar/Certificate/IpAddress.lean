import Sidecar.Value.Literal

/-!
IP addresses of both versions, and their texts.
-/

namespace Sidecar

inductive IpAddress where
  | v4 (value : BitVec 32)
  | v6 (value : BitVec 128)
  deriving DecidableEq, Repr

namespace IpAddress

def loopback : IpAddress := .v4 0x7f000001

def loopback6 : IpAddress := .v6 1

private def natOfDigits (base : Nat) (value? : Char → Option Nat) (cs : List Char) : Option Nat :=
  cs.foldlM (fun n c => (value? c).map (n * base + ·)) 0

private def decimal? (c : Char) : Option Nat := if c.isDigit then some (c.toNat - 48) else none

private def hexadecimal? (c : Char) : Option Nat :=
  if c.isDigit then some (c.toNat - 48)
  else if 'a' ≤ c ∧ c ≤ 'f' then some (c.toNat - 87)
  else if 'A' ≤ c ∧ c ≤ 'F' then some (c.toNat - 55)
  else none

/-- Up to three digits without a needless zero in front, at most 255. -/
private def octet? (cs : List Char) : Option Nat := do
  guard (!cs.isEmpty && cs.length ≤ 3 && !(cs.length ≠ 1 && cs.head? = some '0'))
  let n ← natOfDigits 10 decimal? cs
  guard (n ≤ 255)
  return n

private def v4Value? (cs : List Char) : Option Nat := do
  let octets ← (cs.splitOn '.').mapM octet?
  guard (octets.length = 4)
  return octets.foldl (fun n o => n * 256 + o) 0

private def group? (cs : List Char) : Option Nat := do
  guard (!cs.isEmpty && cs.length ≤ 4)
  natOfDigits 16 hexadecimal? cs

/-- The groups of an address, with an address of the other version at the end as two groups. -/
private def groups? (parts : List (List Char)) : Option (List Nat) := do
  match parts.getLast? with
  | none => return []
  | some last =>
    if last.contains '.' then
      let n ← v4Value? last
      return (← parts.dropLast.mapM group?) ++ [n / 65536, n % 65536]
    else parts.mapM group?

/-- Splits a text at the first `::`. -/
private def splitGap (acc : List Char) : List Char → Option (List Char × List Char)
  | ':' :: ':' :: rest => some (acc.reverse, rest)
  | c :: rest => splitGap (c :: acc) rest
  | [] => none

private def parts (cs : List Char) : List (List Char) := if cs.isEmpty then [] else cs.splitOn ':'

private def v6Value? (cs : List Char) : Option Nat := do
  let groups ← match splitGap [] cs with
    | none => do
      let groups ← groups? (parts cs)
      guard (groups.length = 8)
      pure groups
    | some (front, back) => do
      let front ← (parts front).mapM group?
      let back ← groups? (parts back)
      guard (front.length + back.length ≤ 7)
      pure (front ++ List.replicate (8 - front.length - back.length) 0 ++ back)
  return groups.foldl (fun n g => n * 65536 + g) 0

/-- The text without a zone, which must not be empty where there is one. -/
private def dropZone (cs : List Char) : Option (List Char) :=
  match cs.span (· != '%') with
  | (address, []) => some address
  | (address, _ :: zone) => if zone.isEmpty || zone.contains '%' then none else some address

def ofText? (s : String) : Option IpAddress :=
  match v4Value? s.toList with
  | some n => some (.v4 n)
  | none => ((dropZone s.toList).bind v6Value?).map fun n => .v6 n

/-- Why a text is no address. -/
def errorMessage (s : String) : String :=
  Literal.quoted s ++ " does not appear to be an IPv4 or IPv6 address"

private def hexText (n : Nat) : String := String.ofList (Nat.toDigits 16 n)

/-- The start and the length of the longest run of zeros, the first of several. -/
private def longestZeros (groups : List Nat) : Nat × Nat :=
  let runFrom (i : Nat) : Nat := ((groups.drop i).takeWhile (· = 0)).length
  (List.range groups.length).foldl (fun best i => if best.2 < runFrom i then (i, runFrom i) else best) (0, 0)

def text : IpAddress → String
  | .v4 value =>
    ".".intercalate ([24, 16, 8, 0].map fun shift => toString (value.toNat / Nat.pow 2 shift % 256))
  | .v6 value =>
    let groups := (List.range 8).reverse.map fun i => value.toNat / Nat.pow 65536 i % 65536
    let (start, length) := longestZeros groups
    let join (gs : List Nat) : String := ":".intercalate (gs.map hexText)
    if length < 2 then join groups
    else join (groups.take start) ++ "::" ++ join (groups.drop (start + length))

end IpAddress

end Sidecar
