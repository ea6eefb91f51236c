import Mathlib.Tactic.Common
import Sidecar.Text.Utf8

/-!
Texts are read back from their UTF-8 form.
-/

namespace Sidecar.Utf8

theorem toNat_ofNat {n : Nat} (h : n < 256) : (UInt8.ofNat n).toNat = n := by
  rw [UInt8.toNat_ofNat']
  exact Nat.mod_eq_of_lt h

theorem tail?_ofNat {n : Nat} (h : n < 64) : tail? (UInt8.ofNat (0x80 + n)) = some n := by
  rw [tail?, toNat_ofNat (by omega)]
  have hrange : 0x80 ≤ 0x80 + n ∧ 0x80 + n < 0xc0 := by omega
  simp [hrange]

theorem scalar?_toNat {c : Char} {least : Nat} (h : least ≤ c.toNat) :
    scalar? least c.toNat = some c := by
  have hvalid : c.toNat.isValidChar := c.valid
  rw [scalar?, if_pos ⟨h, hvalid⟩, Char.ofNat_toNat]

theorem decodeChars?_one {a : UInt8} (rest : List UInt8) (h : a.toNat < 0x80) :
    decodeChars? (a :: rest) = (decodeChars? rest).map (Char.ofNat a.toNat :: ·) := by
  rw [decodeChars?.eq_def]
  simp only [if_pos h]

/-- Bytes that belong together are read as the character whose number they make up. -/
theorem decodeChars?_two {a b : UInt8} {n lo : Nat} {c : Char} (rest : List UInt8)
    (ha : a.toNat = 0xc0 + n) (hn : n < 0x20) (hb : tail? b = some lo)
    (hc : scalar? 0x80 (n * 64 + lo) = some c) :
    decodeChars? (a :: b :: rest) = (decodeChars? rest).map (c :: ·) := by
  rw [decodeChars?, ha, if_neg (by omega), if_neg (by omega), if_pos (by omega), Nat.add_sub_cancel_left]
  rw [hb, Option.bind_eq_bind, Option.bind_some, hc, Option.bind_eq_bind, Option.bind_some]
  cases decodeChars? rest <;> rfl

theorem decodeChars?_three {a b b' : UInt8} {n mid lo : Nat} {c : Char} (rest : List UInt8)
    (ha : a.toNat = 0xe0 + n) (hn : n < 0x10) (hb : tail? b = some mid) (hb' : tail? b' = some lo)
    (hc : scalar? 0x800 (n * 4096 + mid * 64 + lo) = some c) :
    decodeChars? (a :: b :: b' :: rest) = (decodeChars? rest).map (c :: ·) := by
  rw [decodeChars?, ha, if_neg (by omega), if_neg (by omega), if_neg (by omega), if_pos (by omega),
    Nat.add_sub_cancel_left]
  dsimp only
  rw [hb, hb', Option.bind_eq_bind, Option.bind_some]
  rw [Option.bind_eq_bind, Option.bind_some, hc, Option.bind_some]
  cases decodeChars? rest <;> rfl

theorem decodeChars?_four {a b b' b'' : UInt8} {n hi mid lo : Nat} {c : Char} (rest : List UInt8)
    (ha : a.toNat = 0xf0 + n) (hn : n < 8) (hb : tail? b = some hi) (hb' : tail? b' = some mid)
    (hb'' : tail? b'' = some lo)
    (hc : scalar? 0x10000 (n * 262144 + hi * 4096 + mid * 64 + lo) = some c) :
    decodeChars? (a :: b :: b' :: b'' :: rest) = (decodeChars? rest).map (c :: ·) := by
  rw [decodeChars?, ha, if_neg (by omega), if_neg (by omega), if_neg (by omega), if_neg (by omega),
    if_pos (by omega), Nat.add_sub_cancel_left]
  dsimp only
  -- the tails go in one after the other: below a binder the products by 262144 would be unfolded
  rw [hb, hb', hb'', Option.bind_eq_bind, Option.bind_some]
  rw [Option.bind_eq_bind, Option.bind_some]
  rw [Option.bind_eq_bind, Option.bind_some, hc, Option.bind_some]
  cases decodeChars? rest <;> rfl

theorem toNat_lt (c : Char) : c.toNat < 0x110000 := by
  rcases c.valid with h | h
  · exact Nat.lt_trans h (by decide)
  · exact h.2

/-- A character is read back from the bytes it is written with. -/
theorem decodeChars?_encodeChar (c : Char) (rest : List UInt8) :
    decodeChars? (encodeChar c ++ rest) = (decodeChars? rest).map (c :: ·) := by
  have hmax := toNat_lt c
  have hc {least n : Nat} (hn : n = c.toNat) (h : least ≤ c.toNat) : scalar? least n = some c := by
    rw [hn, scalar?_toNat h]
  simp only [encodeChar]
  split_ifs with h1 h2 h3
  · have hbyte : (UInt8.ofNat c.toNat).toNat = c.toNat := toNat_ofNat (by omega)
    rw [List.singleton_append, decodeChars?_one rest (by omega), hbyte, Char.ofNat_toNat]
  · apply decodeChars?_two rest (toNat_ofNat (by omega)) (by omega) (tail?_ofNat (by omega))
    exact hc (by omega) (by omega)
  · apply decodeChars?_three rest (toNat_ofNat (by omega)) (by omega) (tail?_ofNat (by omega))
      (tail?_ofNat (by omega))
    exact hc (by omega) (by omega)
  · apply decodeChars?_four rest (toNat_ofNat (by omega)) (by omega) (tail?_ofNat (by omega))
      (tail?_ofNat (by omega)) (tail?_ofNat (by omega))
    exact hc (by omega) (by omega)

theorem decodeChars?_flatMap_encodeChar (cs : List Char) :
    decodeChars? (cs.flatMap encodeChar) = some cs := by
  induction cs with
  | nil => rfl
  | cons c cs ih => rw [List.flatMap_cons, decodeChars?_encodeChar, ih, Option.map_some]

/-- A text is read back from its bytes. -/
theorem decode?_encode (s : String) : decode? (encode s) = some s := by
  rw [decode?, encode, decodeChars?_flatMap_encodeChar, Option.map_some, String.ofList_toList]

end Sidecar.Utf8
