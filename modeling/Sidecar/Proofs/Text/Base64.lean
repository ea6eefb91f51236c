import Mathlib.Tactic.Common
import Sidecar.Text.Base64

/-!
Bytes are read back from their base 64 form.
-/

namespace Sidecar.Base64

theorem value?_digit {n : Nat} (h : n < 64) : value? (digit n) = some n := by
  revert n
  decide

theorem digit_ne_pad {n : Nat} (h : n < 64) : digit n ≠ '=' := by
  revert n
  decide

/-- One character gives its six bits: to a byte that they complete, and to those that are left. -/
theorem decodeFrom_digit {place left pads n : Nat} (h : n < 64) (rest : List Char) :
    decodeFrom place left pads (digit n :: rest) =
      if place = 0 then decodeFrom 1 n 0 rest
      else if place = 1 then (decodeFrom 2 (n % 16) 0 rest).map (UInt8.ofNat (left * 4 + n / 16) :: ·)
      else if place = 2 then (decodeFrom 3 (n % 4) 0 rest).map (UInt8.ofNat (left * 16 + n / 4) :: ·)
      else (decodeFrom 0 0 0 rest).map (UInt8.ofNat (left * 64 + n) :: ·) := by
  rw [decodeFrom, if_neg (digit_ne_pad h), value?_digit h]

theorem ofNat_eq {a : UInt8} {n : Nat} (h : n = a.toNat) : UInt8.ofNat n = a := by
  rw [h, UInt8.ofNat_toNat]

/-- Bytes are read back from the characters they are written with. -/
theorem decode?_encodeChars (bytes : List UInt8) : decode? (encodeChars bytes) = some bytes := by
  unfold decode?
  fun_induction encodeChars bytes with
  | case1 => rfl
  | case2 a =>
    have ha := a.toNat_lt
    rw [decodeFrom_digit (by omega), if_pos rfl, decodeFrom_digit (by omega), if_neg (by decide), if_pos rfl,
      ofNat_eq (a := a) (by omega)]
    rfl
  | case3 a b =>
    have ha := a.toNat_lt
    have hb := b.toNat_lt
    rw [decodeFrom_digit (by omega), if_pos rfl, decodeFrom_digit (by omega), if_neg (by decide), if_pos rfl,
      ofNat_eq (a := a) (by omega), decodeFrom_digit (by omega), if_neg (by decide), if_neg (by decide),
      if_pos rfl, ofNat_eq (a := b) (by omega)]
    rfl
  | case4 a b c rest ih =>
    have ha := a.toNat_lt
    have hb := b.toNat_lt
    have hc := c.toNat_lt
    rw [decodeFrom_digit (by omega), if_pos rfl, decodeFrom_digit (by omega), if_neg (by decide), if_pos rfl,
      ofNat_eq (a := a) (by omega), decodeFrom_digit (by omega), if_neg (by decide), if_neg (by decide),
      if_pos rfl, ofNat_eq (a := b) (by omega), decodeFrom_digit (by omega), if_neg (by decide),
      if_neg (by decide), if_neg (by decide), ofNat_eq (a := c) (by omega), ih]
    rfl

theorem decode?_encode (bytes : List UInt8) : decode? (encode bytes).toList = some bytes := by
  rw [encode, String.toList_ofList, decode?_encodeChars]

end Sidecar.Base64
