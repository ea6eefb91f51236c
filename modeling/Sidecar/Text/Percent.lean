import Sidecar.Text.Utf8
import Sidecar.Value.Literal

/-!
Percent escapes in the paths of requests.
-/

namespace Sidecar.Percent

def hexValue? (c : Char) : Option Nat :=
  let n := c.toNat
  if 48 ≤ n && n ≤ 57 then some (n - 48)
  else if 97 ≤ n && n ≤ 102 then some (n - 87)
  else if 65 ≤ n && n ≤ 70 then some (n - 55)
  else none

/-- A part of a path: a character as it stands, or an escaped byte. -/
inductive Part where
  | char (c : Char)
  | byte (b : UInt8)
  deriving DecidableEq, Repr

def parts : List Char → List Part
  | '%' :: a :: b :: rest =>
    match hexValue? a, hexValue? b with
    | some m, some n => .byte (UInt8.ofNat (m * 16 + n)) :: parts rest
    | _, _ => .char '%' :: parts (a :: b :: rest)
  | c :: rest => .char c :: parts rest
  | [] => []

def escapeByte (b : UInt8) : List Char := '%' :: (Literal.hex 2 b.toNat).map Char.toUpper

private def leadingBytes : List Part → List UInt8
  | .byte b :: rest => b :: leadingBytes rest
  | _ => []

/-- The character that the bytes at the start of a path stand for, with their number. -/
private def leadingChar? (ps : List Part) : Option (Char × Nat) :=
  let bytes := (leadingBytes (ps.take 4))
  (List.range bytes.length).findSome? fun i =>
    match Utf8.decodeChars? (bytes.take (i + 1)) with
    | some [c] => some (c, i + 1)
    | _ => none

/-- Escapes are replaced by their characters, those that `keeps` picks out and those that are no text
apart. -/
private def decodeParts (keeps : Char → Bool) : Nat → List Part → List Char
  | 0, _ => []
  | _, [] => []
  | fuel + 1, .char c :: rest => c :: decodeParts keeps fuel rest
  | fuel + 1, .byte b :: rest =>
    match leadingChar? (.byte b :: rest) with
    | some (c, n) =>
      let shown := if keeps c then (Utf8.encodeChar c).flatMap escapeByte else [c]
      shown ++ decodeParts keeps fuel (rest.drop (n - 1))
    | none => escapeByte b ++ decodeParts keeps fuel rest

def decode (keeps : Char → Bool) (cs : List Char) : List Char :=
  let ps := parts cs
  decodeParts keeps ps.length ps

end Sidecar.Percent
