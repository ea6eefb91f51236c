import Mathlib.Tactic.Common
import Sidecar.Json.Printer
import Sidecar.Json.Reader

/-!
Quoted texts are read back as they were, whatever follows them.
-/

namespace Sidecar.Json

theorem hexValue?_hexDigit {d : Nat} (h : d < 16) : hexValue? (Literal.hexDigit d) = some d := by
  revert d
  decide

theorem hexQuad?_hex {n : Nat} (h : n < 0x10000) (rest : List Char) :
    hexQuad? (Literal.hex 4 n ++ rest) = some (n, rest) := by
  have hhex : Literal.hex 4 n = [Literal.hexDigit (n / 4096 % 16), Literal.hexDigit (n / 256 % 16),
      Literal.hexDigit (n / 16 % 16), Literal.hexDigit (n / 1 % 16)] := rfl
  have hdigit (m : Nat) : hexValue? (Literal.hexDigit (m % 16)) = some (m % 16) :=
    hexValue?_hexDigit (Nat.mod_lt _ (by decide))
  rw [hhex]
  simp only [List.cons_append, List.nil_append, hexQuad?, hdigit]
  simp only [Option.pure_def, Option.bind_eq_bind, Option.bind_some, Option.some.injEq, Prod.mk.injEq,
    and_true]
  omega

theorem joinSurrogates?_of_not_surrogate {unit : Nat} (h : unit < 0xd800 ∨ 0xe000 ≤ unit)
    (rest : List Char) : joinSurrogates? unit rest = some (Char.ofNat unit, rest) := by
  unfold joinSurrogates?
  rw [if_neg (by omega), if_neg (by omega)]

theorem joinSurrogates?_pair {high low : Nat} (hhigh : 0xd800 ≤ high ∧ high < 0xdc00)
    (hlow : 0xdc00 ≤ low ∧ low < 0xe000) (rest : List Char) :
    joinSurrogates? high (unicodeEscape low ++ rest) =
      some (Char.ofNat (0x10000 + (high - 0xd800) * 0x400 + (low - 0xdc00)), rest) := by
  have hquad := hexQuad?_hex (show low < 0x10000 by omega) rest
  unfold joinSurrogates?
  rw [if_pos hhigh]
  simp only [unicodeEscape, List.cons_append, hquad, if_pos hlow]

/-- The two halves of a character beyond the basic plane make up its number. -/
theorem surrogates_join {n : Nat} (h : 0x10000 ≤ n) :
    0x10000 + (0xd800 + (n - 0x10000) / 0x400 - 0xd800) * 0x400 +
      (0xdc00 + (n - 0x10000) % 0x400 - 0xdc00) = n := by
  omega

theorem readString_unicodeEscape {n : Nat} (h : n < 0x10000) {c : Char} {rest after : List Char}
    (hc : joinSurrogates? n rest = some (c, after)) (fuel : Nat) (acc : List Char) :
    readString (fuel + 1) acc (unicodeEscape n ++ rest) = readString fuel (c :: acc) after := by
  simp only [unicodeEscape, List.cons_append, readString, hexQuad?_hex h, hc]

theorem readString_plain {c : Char} (hquote : c ≠ '"') (hslash : c ≠ '\\') (hplain : 0x20 ≤ c.toNat)
    (fuel : Nat) (acc rest : List Char) :
    readString (fuel + 1) acc (c :: rest) = readString fuel (c :: acc) rest := by
  rw [readString, if_neg (Nat.not_lt.mpr hplain)]
  all_goals simp_all

/-- One character is read back from what it is written as. -/
theorem readString_escapeChar (c : Char) (fuel : Nat) (acc rest : List Char) :
    readString (fuel + 1) acc (escapeChar c ++ rest) = readString fuel (c :: acc) rest := by
  have hvalid : c.toNat < 0xd800 ∨ 0xe000 ≤ c.toNat ∧ c.toNat < 0x110000 := by
    rcases c.valid with h | h
    · exact .inl h
    · exact .inr ⟨by have := h.1; simp only [Char.toNat] at *; omega, h.2⟩
  have hself {d : Char} (h : c.toNat = d.toNat) : c = d := by
    rw [← Char.ofNat_toNat c, ← Char.ofNat_toNat d, h]
  unfold escapeChar
  extract_lets n
  split_ifs with h1 h2 h3 h4 h5 h6 h7 h8 h9
  · subst h1
    simp [readString, simpleEscape?]
  · subst h2
    simp [readString, simpleEscape?]
  · subst h3
    simp [readString, simpleEscape?]
  · subst h4
    simp [readString, simpleEscape?]
  · subst h5
    simp [readString, simpleEscape?]
  · obtain rfl : c = Char.ofNat 12 := hself h6
    simp [readString, simpleEscape?]
  · obtain rfl : c = Char.ofNat 8 := hself h7
    simp [readString, simpleEscape?]
  · exact readString_plain h1 h2 h8.1 fuel acc rest
  · rw [readString_unicodeEscape h9 (joinSurrogates?_of_not_surrogate (by omega) rest), Char.ofNat_toNat]
  · rw [List.append_assoc, readString_unicodeEscape (by omega)
      (joinSurrogates?_pair (by omega) (by omega) rest), surrogates_join (by omega), Char.ofNat_toNat]

theorem escapeChar_length_pos (c : Char) : 0 < (escapeChar c).length := by
  unfold escapeChar
  extract_lets n
  split_ifs <;> simp [unicodeEscape]

theorem length_le_flatMap_escapeChar (cs : List Char) : cs.length ≤ (cs.flatMap escapeChar).length := by
  induction cs with
  | nil => simp
  | cons c rest ih =>
    have hc := escapeChar_length_pos c
    simp only [List.flatMap_cons, List.length_append, List.length_cons]
    omega

theorem readString_flatMap_escapeChar {cs : List Char} {fuel : Nat} (h : cs.length < fuel)
    (acc rest : List Char) : readString fuel acc (cs.flatMap escapeChar ++ '"' :: rest) =
      .ok (String.ofList (acc.reverse ++ cs), rest) := by
  induction cs generalizing fuel acc with
  | nil =>
    obtain ⟨fuel, rfl⟩ := Nat.exists_eq_succ_of_ne_zero (by omega : fuel ≠ 0)
    simp [readString]
  | cons c cs ih =>
    obtain ⟨fuel, rfl⟩ := Nat.exists_eq_succ_of_ne_zero (by omega : fuel ≠ 0)
    have hlength : cs.length < fuel := by simpa using h
    rw [List.flatMap_cons, List.append_assoc, readString_escapeChar, ih hlength]
    simp

/-- A quoted text after its opening quote. -/
theorem readString_quoted (s : String) (rest : List Char) :
    ∃ body, (quoted s).toList ++ rest = '"' :: body ∧
      readString (body.length + 1) [] body = .ok (s, rest) := by
  refine ⟨s.toList.flatMap escapeChar ++ '"' :: rest, by simp [quoted], ?_⟩
  have hlength := length_le_flatMap_escapeChar s.toList
  rw [readString_flatMap_escapeChar (by rw [List.length_append]; omega)]
  simp

end Sidecar.Json
