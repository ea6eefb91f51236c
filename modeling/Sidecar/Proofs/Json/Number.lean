import Mathlib.Tactic.Common
import Sidecar.Json.Printer
import Sidecar.Json.Reader
import Sidecar.Proofs.Number.Shortest

/-!
Numbers are read back as they were, if what follows them does not go on with a number.
-/

namespace Sidecar.Json

open Binary64

/-- The text does not go on with a number. -/
def EndsNumber (rest : List Char) : Prop :=
  ∀ c ∈ rest.head?, isDigit c = false ∧ c ≠ '.' ∧ c ≠ 'e' ∧ c ≠ 'E'

theorem isDigit_of_mem_toDigits {c : Char} {n : Nat} (h : c ∈ Nat.toDigits 10 n) : isDigit c = true := by
  have hdigit := Nat.isDigit_of_mem_toDigits (by decide) (by decide) h
  simp only [Char.isDigit, Bool.and_eq_true, decide_eq_true_eq] at hdigit
  simp only [isDigit, Bool.and_eq_true, decide_eq_true_eq]
  exact hdigit

theorem isDigit_of_mem_zeros {c : Char} {n : Nat} (h : c ∈ zeros n) : isDigit c = true := by
  rw [List.eq_of_mem_replicate h]
  decide

theorem isDigit_of_mem_zero : ∀ c ∈ ['0'], isDigit c = true := fun _ => isDigit_of_mem_zeros (n := 1)

theorem natOfDigits_eq (cs : List Char) : natOfDigits cs = Nat.ofDigitChars 10 cs 0 := by
  rw [Nat.ofDigitChars_eq_foldl, natOfDigits]
  congr 1
  funext n c
  rw [Nat.mul_comm]
  rfl

theorem natOfDigits_append (as bs : List Char) :
    natOfDigits (as ++ bs) = natOfDigits as * 10 ^ bs.length + natOfDigits bs := by
  rw [natOfDigits_eq, Nat.ofDigitChars_append, Nat.ofDigitChars_eq_ofDigitChars_zero, Nat.mul_comm,
    ← natOfDigits_eq, ← natOfDigits_eq]

theorem natOfDigits_zeros (n : Nat) : natOfDigits (zeros n) = 0 := by
  rw [natOfDigits_eq, zeros, Nat.ofDigitChars_replicate_zero, Nat.mul_zero]

theorem natOfDigits_zeros_append (n : Nat) (cs : List Char) :
    natOfDigits (zeros n ++ cs) = natOfDigits cs := by
  rw [natOfDigits_append, natOfDigits_zeros, Nat.zero_mul, Nat.zero_add]

theorem natOfDigits_append_zeros (cs : List Char) (n : Nat) :
    natOfDigits (cs ++ zeros n) = natOfDigits cs * 10 ^ n := by
  rw [natOfDigits_append, natOfDigits_zeros, zeros, List.length_replicate, Nat.add_zero]

theorem natOfDigits_toDigits (n : Nat) : natOfDigits (Nat.toDigits 10 n) = n := by
  rw [natOfDigits_eq, Nat.ofDigitChars_ten_toDigits]

/-- A positive number does not start with a zero. -/
theorem head?_toDigits {n : Nat} (h : 0 < n) : (Nat.toDigits 10 n).head? ≠ some '0' := by
  induction n using Nat.strongRecOn with
  | ind n ih =>
    by_cases hn : n < 10
    · have hdigit : ∀ m < 10, 0 < m → [Nat.digitChar m].head? ≠ some '0' := by decide
      rw [Nat.toDigits_of_lt_base hn]
      exact hdigit n hn h
    · have hfront := ih (n / 10) (by omega) (by omega)
      obtain ⟨c, digits, hdigits⟩ :=
        List.exists_cons_of_ne_nil (Nat.toDigits_ne_nil (n := n / 10) (b := 10))
      rw [Nat.toDigits_of_base_le (by decide) (by omega), hdigits]
      rwa [hdigits] at hfront

/-- Digits end where no digit follows. -/
theorem span_digits {digits rest : List Char} (hdigits : ∀ c ∈ digits, isDigit c = true)
    (hrest : ∀ c ∈ rest.head?, isDigit c = false) :
    (digits ++ rest).takeWhile isDigit = digits ∧ (digits ++ rest).dropWhile isDigit = rest := by
  rw [List.takeWhile_append_of_pos hdigits, List.dropWhile_append_of_pos hdigits]
  cases rest with
  | nil => simp
  | cons c rest =>
    have hc := hrest c rfl
    simp [hc]

theorem readFraction_point {digits rest : List Char} (hne : digits ≠ [])
    (hdigits : ∀ c ∈ digits, isDigit c = true) (hrest : ∀ c ∈ rest.head?, isDigit c = false) :
    readFraction ('.' :: (digits ++ rest)) = (digits, rest) := by
  obtain ⟨htake, hdrop⟩ := span_digits hdigits hrest
  simp [readFraction, htake, hdrop, hne]

theorem readFraction_of_ne {rest : List Char} (h : ∀ c ∈ rest.head?, c ≠ '.') :
    readFraction rest = ([], rest) := by
  unfold readFraction
  split
  · exact absurd rfl (h '.' rfl)
  · rfl

theorem readExponent_of_ne {rest : List Char} (h : ∀ c ∈ rest.head?, c ≠ 'e' ∧ c ≠ 'E') :
    readExponent rest = (none, rest) := by
  cases rest with
  | nil => rfl
  | cons c rest =>
    obtain ⟨he, hE⟩ := h c rfl
    simp [readExponent, he, hE]

theorem readExponent_signed (negative : Bool) {digits rest : List Char} (hne : digits ≠ [])
    (hdigits : ∀ c ∈ digits, isDigit c = true) (hrest : ∀ c ∈ rest.head?, isDigit c = false) :
    readExponent ('e' :: (if negative then '-' else '+') :: (digits ++ rest)) =
      (some (if negative then -(natOfDigits digits : Int) else natOfDigits digits), rest) := by
  obtain ⟨htake, hdrop⟩ := span_digits hdigits hrest
  cases negative <;> simp [readExponent, htake, hdrop, hne]

/-- A number is read by its three parts. -/
theorem readNumber_eq {whole rest : List Char} (limit : Option Nat) (negative : Bool)
    (hdigits : ∀ c ∈ whole, isDigit c = true) (hne : whole ≠ [])
    (hzero : whole.head? = some '0' → whole = ['0']) (hrest : ∀ c ∈ rest.head?, isDigit c = false) :
    readNumber limit negative (whole ++ rest) =
      let (fraction, rest) := readFraction rest
      let (exponent, rest) := readExponent rest
      if fraction.isEmpty && exponent.isNone then
        if limit.any (· < whole.length) then .error (.tooManyDigits whole.length)
        else .ok (.int (if negative then -(natOfDigits whole : Int) else natOfDigits whole), rest)
      else .ok (.float (ofDecimal negative (natOfDigits (whole ++ fraction))
        (exponent.getD 0 - fraction.length)), rest) := by
  obtain ⟨htake, hdrop⟩ := span_digits hdigits hrest
  unfold readNumber
  by_cases hhead : whole.head? = some '0'
  · rw [hzero hhead]
    rfl
  · obtain ⟨c, digits, rfl⟩ := List.exists_cons_of_ne_nil hne
    split
    rename_i whole' rest' hwhole
    split at hwhole
    · simp_all
    · obtain ⟨rfl, rfl⟩ := Prod.mk.inj hwhole
      rw [htake, hdrop]
      rfl

/-- An integer is read back. -/
theorem readNumber_toDigits {rest : List Char} {limit : Option Nat} {n : Nat} (negative : Bool)
    (hlimit : limit.any (· < (Nat.toDigits 10 n).length) = false) (hrest : EndsNumber rest) :
    readNumber limit negative (Nat.toDigits 10 n ++ rest) =
      .ok (.int (if negative then -(n : Int) else n), rest) := by
  have hzero : (Nat.toDigits 10 n).head? = some '0' → Nat.toDigits 10 n = ['0'] := by
    intro h
    obtain rfl | hpos := Nat.eq_zero_or_pos n
    · rfl
    · exact absurd h (head?_toDigits hpos)
  rw [readNumber_eq limit negative (fun _ => isDigit_of_mem_toDigits) Nat.toDigits_ne_nil hzero
    fun c hc => (hrest c hc).1]
  rw [readFraction_of_ne fun c hc => (hrest c hc).2.1]
  simp only [readExponent_of_ne fun c hc => (hrest c hc).2.2]
  simp [hlimit, natOfDigits_toDigits]

/-- A number with digits after the point is read as a decimal. -/
theorem readNumber_fraction {whole fraction rest tail : List Char} {exponent : Option Int}
    (limit : Option Nat) (negative : Bool)
    (hdigits : ∀ c ∈ whole, isDigit c = true) (hne : whole ≠ [])
    (hzero : whole.head? = some '0' → whole = ['0'])
    (hfraction : ∀ c ∈ fraction, isDigit c = true) (hsome : fraction ≠ [])
    (hrest : ∀ c ∈ rest.head?, isDigit c = false) (hexponent : readExponent rest = (exponent, tail)) :
    readNumber limit negative (whole ++ '.' :: (fraction ++ rest)) =
      .ok (.float (ofDecimal negative (natOfDigits (whole ++ fraction))
        (exponent.getD 0 - fraction.length)), tail) := by
  rw [readNumber_eq limit negative hdigits hne hzero (by simp [isDigit])]
  rw [readFraction_point hsome hfraction hrest]
  simp [hexponent, hsome]

theorem trimmed_append_zeros (cs : List Char) : ∃ n, trimmed cs ++ zeros n = cs := by
  have hsplit := List.takeWhile_append_dropWhile (p := (· == '0')) (l := cs.reverse)
  have hzeros : cs.reverse.takeWhile (· == '0') = zeros (cs.reverse.takeWhile (· == '0')).length := by
    refine List.eq_replicate_of_mem fun c hc => ?_
    simpa using List.all_eq_true.mp List.all_takeWhile c hc
  generalize (cs.reverse.takeWhile (· == '0')).length = n at hzeros
  refine ⟨n, ?_⟩
  calc trimmed cs ++ zeros n = (zeros n ++ cs.reverse.dropWhile (· == '0')).reverse := by
        rw [List.reverse_append, zeros, List.reverse_replicate, trimmed]
    _ = cs := by rw [← hzeros, hsplit, List.reverse_reverse]

/-- The digits of a decimal without the zeros at their end. -/
theorem trimmed_toDigits {n : Nat} (h : 0 < n) : trimmed (Nat.toDigits 10 n) ≠ [] ∧
    (∀ c ∈ trimmed (Nat.toDigits 10 n), isDigit c = true) ∧
    (trimmed (Nat.toDigits 10 n)).head? ≠ some '0' ∧
    ∃ count, (trimmed (Nat.toDigits 10 n)).length + count = (Nat.toDigits 10 n).length ∧
      natOfDigits (trimmed (Nat.toDigits 10 n)) * 10 ^ count = n := by
  obtain ⟨count, hcount⟩ := trimmed_append_zeros (Nat.toDigits 10 n)
  have hhead := head?_toDigits h
  have hne : trimmed (Nat.toDigits 10 n) ≠ [] := by
    intro hnil
    rw [hnil, List.nil_append] at hcount
    rw [← hcount] at hhead
    have hpos : 0 < (Nat.toDigits 10 n).length := Nat.length_toDigits_pos
    rw [← hcount, zeros, List.length_replicate] at hpos
    obtain ⟨count, rfl⟩ := Nat.exists_eq_succ_of_ne_zero hpos.ne'
    exact hhead rfl
  refine ⟨hne, fun c hc => ?_, ?_, count, ?_, ?_⟩
  · apply isDigit_of_mem_toDigits (n := n)
    rw [← hcount]
    exact List.mem_append_left _ hc
  · obtain ⟨c, digits, hdigits⟩ := List.exists_cons_of_ne_nil hne
    rw [← hcount, hdigits] at hhead
    rwa [hdigits]
  · have hlength := congrArg List.length hcount
    rwa [List.length_append, zeros, List.length_replicate] at hlength
  · rw [← natOfDigits_append_zeros, hcount, natOfDigits_toDigits]

/-- What is read is a decimal that is nearest to the rank. -/
def ReadsNearest (limit : Option Nat) (negative : Bool) (rank : Nat) (cs rest : List Char) : Prop :=
  ∃ digits exponent, NearestDecimal rank digits exponent ∧
    readNumber limit negative (cs ++ rest) = .ok (.float (ofDecimal negative digits exponent), rest)

section

variable {limit : Option Nat} {negative : Bool} {rank : Nat} {digits rest : List Char} {leading : Int}

/-- A number below one: the point stands before zeros and the digits. -/
theorem readsNearest_below_one (hne : digits ≠ []) (hdigits : ∀ c ∈ digits, isDigit c = true)
    (hnearest : NearestDecimal rank (natOfDigits digits) (leading + 1 - digits.length))
    (hleading : leading < 0) (hrest : EndsNumber rest) :
    ReadsNearest limit negative rank ('0' :: '.' :: (zeros (-leading - 1).toNat ++ digits)) rest := by
  refine ⟨_, _, hnearest, ?_⟩
  have hfraction : ∀ c ∈ zeros (-leading - 1).toNat ++ digits, isDigit c = true := by
    intro c hc
    exact (List.mem_append.mp hc).elim isDigit_of_mem_zeros (hdigits c)
  have hexponent := readExponent_of_ne fun c hc => (hrest c hc).2.2
  have h := readNumber_fraction limit negative isDigit_of_mem_zero (by decide)
    (fun _ => rfl) hfraction (by simp [hne]) (fun c hc => (hrest c hc).1) hexponent
  have hvalue : natOfDigits (['0'] ++ (zeros (-leading - 1).toNat ++ digits)) = natOfDigits digits := by
    rw [← List.append_assoc]
    exact natOfDigits_zeros_append ((-leading - 1).toNat + 1) digits
  have hplaces : (none : Option Int).getD 0 - (zeros (-leading - 1).toNat ++ digits).length =
      leading + 1 - digits.length := by
    simp only [zeros, List.length_append, List.length_replicate, Option.getD_none]
    omega
  rw [hvalue, hplaces] at h
  exact h

/-- A number without digits after the point gets a zero there. -/
theorem readsNearest_whole (hne : digits ≠ []) (hdigits : ∀ c ∈ digits, isDigit c = true)
    (hhead : digits.head? ≠ some '0')
    (hnearest : NearestDecimal rank (natOfDigits digits) (leading + 1 - digits.length))
    {count : Nat} (hcount : (digits.length + count : Int) = leading + 1) (hrest : EndsNumber rest) :
    ReadsNearest limit negative rank (digits ++ zeros count ++ ['.', '0']) rest := by
  have hshift := (nearestDecimal_shift (count + 1)).mpr hnearest
  refine ⟨_, _, hshift, ?_⟩
  have hwhole : ∀ c ∈ digits ++ zeros count, isDigit c = true := by
    intro c hc
    exact (List.mem_append.mp hc).elim (hdigits c) isDigit_of_mem_zeros
  have hzero : (digits ++ zeros count).head? = some '0' → digits ++ zeros count = ['0'] := by
    obtain ⟨c, more, rfl⟩ := List.exists_cons_of_ne_nil hne
    exact fun h => absurd h hhead
  have hexponent := readExponent_of_ne fun c hc => (hrest c hc).2.2
  have h := readNumber_fraction limit negative hwhole (by simp [hne]) hzero
    isDigit_of_mem_zero (by decide) (fun c hc => (hrest c hc).1) hexponent
  have hvalue : natOfDigits (digits ++ zeros count ++ ['0']) =
      natOfDigits digits * 10 ^ (count + 1) := by
    have hzeros : zeros count ++ ['0'] = zeros (count + 1) := List.replicate_succ'.symm
    rw [List.append_assoc, hzeros, natOfDigits_append_zeros]
  have hplaces : (none : Option Int).getD 0 - (['0'] : List Char).length =
      leading + 1 - digits.length - ((count + 1 : Nat) : Int) := by
    simp only [Option.getD_none, List.length_singleton]
    omega
  rw [hvalue, hplaces] at h
  rw [List.append_assoc]
  exact h

/-- A number with the point among its digits, and perhaps with an exponent. -/
theorem readsNearest_split {front back tail : List Char} {exponent : Option Int}
    (hdigits : ∀ c ∈ front ++ back, isDigit c = true) (hhead : front.head? ≠ some '0')
    (hfront : front ≠ []) (hback : back ≠ [])
    (hnearest : NearestDecimal rank (natOfDigits (front ++ back)) (exponent.getD 0 - back.length))
    (htail : ∀ c ∈ (tail ++ rest).head?, isDigit c = false)
    (hexponent : readExponent (tail ++ rest) = (exponent, rest)) :
    ReadsNearest limit negative rank (front ++ '.' :: (back ++ tail)) rest := by
  refine ⟨_, _, hnearest, ?_⟩
  have h := readNumber_fraction limit negative (fun c hc => hdigits c (List.mem_append_left _ hc)) hfront
    (fun h => absurd h hhead) (fun c hc => hdigits c (List.mem_append_right _ hc)) hback htail hexponent
  rw [← List.append_assoc back] at h
  rw [List.append_assoc, List.cons_append]
  exact h

/-- A number of one digit with an exponent has no point. -/
theorem readsNearest_single {front tail : List Char} {exponent : Int}
    (hdigits : ∀ c ∈ front, isDigit c = true) (hhead : front.head? ≠ some '0') (hfront : front ≠ [])
    (hnearest : NearestDecimal rank (natOfDigits front) exponent)
    (htail : ∀ c ∈ (tail ++ rest).head?, isDigit c = false ∧ c ≠ '.')
    (hexponent : readExponent (tail ++ rest) = (some exponent, rest)) :
    ReadsNearest limit negative rank (front ++ tail) rest := by
  refine ⟨_, _, hnearest, ?_⟩
  rw [List.append_assoc, readNumber_eq limit negative hdigits hfront (fun h => absurd h hhead)
    fun c hc => (htail c hc).1]
  rw [readFraction_of_ne fun c hc => (htail c hc).2]
  simp [hexponent]

/-- The exponent that is written is read. -/
theorem readExponent_text (count : Nat) (leading : Int) (hrest : EndsNumber rest) :
    readExponent ('e' :: (if leading < 0 then '-' else '+') ::
      (zeros count ++ Nat.toDigits 10 leading.natAbs) ++ rest) = (some leading, rest) := by
  have hdigits : ∀ c ∈ zeros count ++ Nat.toDigits 10 leading.natAbs, isDigit c = true := by
    intro c hc
    exact (List.mem_append.mp hc).elim isDigit_of_mem_zeros isDigit_of_mem_toDigits
  have h := readExponent_signed (leading < 0) (by simp [Nat.toDigits_ne_nil]) hdigits
    fun c hc => (hrest c hc).1
  rw [natOfDigits_zeros_append, natOfDigits_toDigits] at h
  simp only [decide_eq_true_eq] at h
  rw [List.cons_append, List.cons_append, h]
  congr 2
  split_ifs <;> omega

/-- A number from one on that is written without an exponent. -/
theorem readsNearest_positional (hne : digits ≠ []) (hdigits : ∀ c ∈ digits, isDigit c = true)
    (hhead : digits.head? ≠ some '0')
    (hnearest : NearestDecimal rank (natOfDigits digits) (leading + 1 - digits.length))
    (hleading : 0 ≤ leading) (hrest : EndsNumber rest) {whole : Nat} (hwhole : whole = leading.toNat + 1) :
    ReadsNearest limit negative rank (digits.take whole ++ zeros (whole - (digits.take whole).length) ++
      '.' :: (if (digits.drop whole).isEmpty then ['0'] else digits.drop whole)) rest := by
  by_cases hlength : digits.length ≤ whole
  · have hfront : digits.take whole = digits := List.take_of_length_le hlength
    have hback : digits.drop whole = [] := List.drop_eq_nil_of_le hlength
    rw [hfront, hback]
    exact readsNearest_whole hne hdigits hhead hnearest (by omega) hrest
  · have hsplit : digits.take whole ++ digits.drop whole = digits := List.take_append_drop ..
    have hfront : (digits.take whole).length = whole := List.length_take_of_le (by omega)
    have hback : (digits.drop whole).length = digits.length - whole := List.length_drop
    have hnone : (digits.drop whole).isEmpty = false := by
      rw [List.isEmpty_eq_false_iff, ← List.length_pos_iff]
      omega
    have hcount : zeros (whole - (digits.take whole).length) = [] := by simp [hfront, zeros]
    rw [hcount, hnone, List.append_nil, if_neg (by decide), ← List.append_nil (digits.drop whole)]
    have hexponent := readExponent_of_ne fun c hc => (hrest c hc).2.2
    refine readsNearest_split ?_ ?_ ?_ ?_ ?_ (fun c hc => (hrest c hc).1) hexponent
    · rwa [hsplit]
    · rwa [List.head?_take, if_neg (by omega)]
    · rw [← List.length_pos_iff]
      omega
    · rw [← List.length_pos_iff]
      omega
    · have hplaces : (none : Option Int).getD 0 - (digits.drop whole).length =
          leading + 1 - digits.length := by
        rw [Option.getD_none, hback]
        omega
      rwa [hsplit, hplaces]

/-- A number that is written with an exponent. -/
theorem readsNearest_scientific (count : Nat) (hne : digits ≠ [])
    (hdigits : ∀ c ∈ digits, isDigit c = true) (hhead : digits.head? ≠ some '0')
    (hnearest : NearestDecimal rank (natOfDigits digits) (leading + 1 - digits.length))
    (hrest : EndsNumber rest) :
    ReadsNearest limit negative rank (digits.take 1 ++
      (if digits.length ≤ 1 then [] else '.' :: digits.drop 1) ++
      'e' :: (if leading < 0 then '-' else '+') ::
        (zeros count ++ Nat.toDigits 10 leading.natAbs)) rest := by
  have hexponent := readExponent_text count leading hrest
  have hfront : digits.take 1 ≠ [] := by simpa using hne
  have hfronthead : (digits.take 1).head? ≠ some '0' := by rwa [List.head?_take]
  by_cases hsingle : digits.length ≤ 1
  · have hall : digits.take 1 = digits := List.take_of_length_le hsingle
    have hone : digits.length = 1 := by
      have := List.length_pos_iff.mpr hne
      omega
    rw [if_pos hsingle, List.append_nil, hall]
    refine readsNearest_single hdigits hhead hne ?_ (by simp [isDigit]) hexponent
    have hplaces : leading + 1 - digits.length = leading := by omega
    rwa [hplaces] at hnearest
  · have hsplit : digits.take 1 ++ digits.drop 1 = digits := List.take_append_drop ..
    have hback : (digits.drop 1).length = digits.length - 1 := List.length_drop
    rw [if_neg hsingle, List.append_assoc]
    refine readsNearest_split ?_ hfronthead hfront ?_ ?_ (by simp [isDigit]) hexponent
    · rwa [hsplit]
    · rw [← List.length_pos_iff]
      omega
    · have hplaces : (some leading).getD 0 - (digits.drop 1).length = leading + 1 - digits.length := by
        rw [Option.getD_some, hback]
        omega
      rwa [hsplit, hplaces]

end

/-- The text of a decimal is read as a decimal that is nearest to the same rank. -/
theorem readsNearest_text {rank : Nat} {d : Decimal} {rest : List Char} (limit : Option Nat)
    (negative : Bool) (style : NumberStyle) (hrank : 0 < rank)
    (h : NearestDecimal rank d.digits d.exponent) (hrest : EndsNumber rest) :
    ReadsNearest limit negative rank (d.text style).toList rest := by
  obtain ⟨hne, hdigits, hhead, count, hlength, hvalue⟩ := trimmed_toDigits (h.digits_pos hrank)
  unfold Decimal.text
  extract_lets written leading digits whole front back power
  change digits ≠ [] at hne
  change digits.length + count = written.length at hlength
  have hleading : leading = d.exponent + written.length - 1 := rfl
  have hnearest : NearestDecimal rank (natOfDigits digits) (leading + 1 - digits.length) := by
    rw [← nearestDecimal_shift count, hvalue]
    have hexponent : leading + 1 - digits.length - count = d.exponent := by omega
    rwa [hexponent]
  rw [String.toList_ofList]
  by_cases hpositional : style.leastPositional ≤ leading ∧ leading < style.leastScientific
  · rw [if_pos hpositional]
    by_cases hbelow : leading < 0
    · rw [if_pos hbelow]
      exact readsNearest_below_one hne hdigits hnearest hbelow hrest
    · rw [if_neg hbelow]
      exact readsNearest_positional hne hdigits hhead hnearest (not_lt.mp hbelow) hrest rfl
  · rw [if_neg hpositional]
    exact readsNearest_scientific (style.exponentDigits - power.length) hne hdigits hhead hnearest hrest

/-- A finite number is read back. -/
theorem readNumber_text {rank : Nat} {rest : List Char} (limit : Option Nat) (negative : Bool)
    (style : NumberStyle) (hfinite : rank < overflowRank) (hrest : EndsNumber rest) :
    readNumber limit negative ((if rank = 0 then "0.0" else (shortest rank).text style).toList ++ rest) =
      .ok (.float (.finite negative rank), rest) := by
  obtain rfl | hrank := Nat.eq_zero_or_pos rank
  · have hexponent := readExponent_of_ne fun c hc => (hrest c hc).2.2
    have h := readNumber_fraction limit negative isDigit_of_mem_zero (by decide)
      (fun _ => rfl) isDigit_of_mem_zero (by decide)
      (fun c hc => (hrest c hc).1) hexponent
    rw [if_pos rfl]
    exact h
  · obtain ⟨digits, exponent, hnearest, hread⟩ :=
      readsNearest_text limit negative style hrank (shortest_nearest hrank) hrest
    rw [if_neg hrank.ne', hread, ofDecimal_of_nearest negative hrank hfinite hnearest]

end Sidecar.Json
