import Sidecar.Number.Shortest
import Sidecar.Proofs.Number.Rounding

/-!
The shortest decimal of a number reads back as it. Seventeen digits always suffice: the interval of a
rank is then wider than the distance of two decimals, so that one of the two decimals next to the number
lies within it.
-/

namespace Sidecar.Binary64

theorem unitsOfRank_lt_succ (rank : Nat) : unitsOfRank rank < unitsOfRank (rank + 1) := by
  obtain ⟨s, m, rfl, hm, hs⟩ := rank_cases rank
  have hself := unitsOfRank_add hm.le hs
  have hnext := unitsOfRank_add (s := s) (m := m + 1) (by omega) (by omega)
  rw [Nat.add_assoc, hnext, hself]
  exact Nat.mul_lt_mul_of_pos_right (by omega) (by positivity)

theorem unitsOfRank_strictMono : StrictMono unitsOfRank := strictMono_nat_of_lt_succ unitsOfRank_lt_succ

theorem unitsOfRank_pos {rank : Nat} (h : 0 < rank) : 0 < unitsOfRank rank :=
  Nat.zero_lt_of_lt (unitsOfRank_strictMono h)

/-- The interval of a rank is wide, compared with the number itself. -/
theorem interval_wide {rank : Nat} (h : 0 < rank) :
    2 * unitsOfRank rank + unitsOfRank (rank - 1) * 10 ^ 16 < unitsOfRank (rank + 1) * 10 ^ 16 := by
  obtain ⟨s, m, rfl, hm, hs⟩ := rank_cases rank
  have hself := unitsOfRank_add hm.le hs
  have hnext := unitsOfRank_add (s := s) (m := m + 1) (by omega) (by omega)
  rw [Nat.add_assoc, hnext, hself]
  rw [binade_eq] at hm
  by_cases hcase : s = 0 ∨ binade < m
  · have hpos : 0 < m := by
      rcases hcase with rfl | hcase
      · simpa using h
      · omega
    have hprev := (lower_midpoint (by rw [binade_eq]; exact hm) hcase).2 hpos
    rw [hself] at hprev
    have hscale : 0 < 2 ^ s := by positivity
    have hsmall := Nat.mul_lt_mul_of_pos_right (show m < 10 ^ 16 by omega) hscale
    linarith
  · obtain ⟨t, rfl⟩ : ∃ t, s = t + 1 := ⟨s - 1, by omega⟩
    obtain rfl : m = binade := by omega
    have hprev := lower_midpoint_binade t
    rw [hself, pow_succ] at hprev
    rw [binade_eq, pow_succ]
    rw [binade_eq] at hprev
    have hscale : 0 < 2 ^ t := by positivity
    omega

/-- A decimal lies between the midpoints around a rank. -/
def NearestDecimal (rank digits : Nat) (exponent : Int) : Prop :=
  Nearest rank (digits * 10 ^ exponent.toNat) (10 ^ (-exponent).toNat)

/-- Only the value of a ratio matters. -/
theorem Nearest.of_mul_eq {rank num den num' den' : Nat} (h : Nearest rank num den)
    (hden : 0 < den) (hden' : 0 < den') (heq : num * den' = num' * den) : Nearest rank num' den' := by
  unfold Nearest at h ⊢
  extract_lets low high exact at h
  extract_lets low' high' exact'
  have hlow : low' * den = low * den' := by simp only [low, low']; ring
  have hhigh : high' * den = high * den' := by simp only [high, high']; ring
  have hexact : exact' * den = exact * den' := by
    calc exact' * den = 2 * (num' * den) * unitsPerOne := by simp only [exact']; ring
      _ = exact * den' := by rw [← heq]; simp only [exact]; ring
  have hle {x y x' y' : Nat} (hx : x' * den = x * den') (hy : y' * den = y * den') (hxy : x ≤ y) :
      x' ≤ y' := by
    refine Nat.le_of_mul_le_mul_right ?_ hden
    rw [hx, hy]
    exact Nat.mul_le_mul_right den' hxy
  have hlt {x y x' y' : Nat} (hx : x' * den = x * den') (hy : y' * den = y * den') (hxy : x < y) :
      x' < y' := by
    refine Nat.lt_of_mul_lt_mul_right (a := den) ?_
    rw [hx, hy]
    exact Nat.mul_lt_mul_of_pos_right hxy hden'
  split_ifs at h ⊢
  · exact ⟨hle hlow hexact h.1, hle hexact hhigh h.2⟩
  · exact ⟨hlt hlow hexact h.1, hlt hexact hhigh h.2⟩

/-- Zeros at the end of a decimal do not change what is nearest to it. -/
theorem nearestDecimal_shift {rank digits : Nat} {exponent : Int} (zeros : Nat) :
    NearestDecimal rank (digits * 10 ^ zeros) (exponent - zeros) ↔
      NearestDecimal rank digits exponent := by
  have hpow : 10 ^ zeros * 10 ^ (exponent - zeros).toNat * 10 ^ (-exponent).toNat =
      10 ^ exponent.toNat * 10 ^ (-(exponent - zeros)).toNat := by
    rw [← pow_add, ← pow_add, ← pow_add]
    congr 1
    omega
  have hvalue : digits * 10 ^ zeros * 10 ^ (exponent - zeros).toNat * 10 ^ (-exponent).toNat =
      digits * 10 ^ exponent.toNat * 10 ^ (-(exponent - zeros)).toNat := by
    rw [Nat.mul_assoc digits, Nat.mul_assoc digits, hpow, Nat.mul_assoc digits]
  have hpos (n : Nat) : 0 < 10 ^ n := by positivity
  exact ⟨fun h => h.of_mul_eq (hpos _) (hpos _) hvalue, fun h => h.of_mul_eq (hpos _) (hpos _) hvalue.symm⟩

theorem decimalOfPlaces?_nearest {rank places : Nat} {leading : Int} {d : Decimal}
    (h : decimalOfPlaces? rank leading places = some d) : NearestDecimal rank d.digits d.exponent := by
  unfold decimalOfPlaces? at h
  extract_lets exponent up grid low high exact hits below above nearAbove at h
  have hhits {c : Nat} (hc : hits c = true) : NearestDecimal rank c exponent := by
    have hgrid : 2 * (c * 10 ^ exponent.toNat) * unitsPerOne = c * grid := by
      change _ = c * (2 * unitsPerOne * 10 ^ exponent.toNat)
      ring
    unfold NearestDecimal Nearest
    extract_lets low' high' exact'
    have hexact : exact' = c * grid := hgrid
    have hlow : low' = low := rfl
    have hhigh : high' = high := rfl
    rw [hexact, hlow, hhigh]
    by_cases heven : rank % 2 = 0
    · simpa [hits, heven] using hc
    · simpa [hits, heven] using hc
  split_ifs at h with h1 h2
  · obtain rfl := Option.some.inj h
    exact hhits (by simp_all)
  · obtain rfl := Option.some.inj h
    exact hhits h2

theorem length_toDigits_bounds {n : Nat} (h : 0 < n) :
    10 ^ ((Nat.toDigits 10 n).length - 1) ≤ n ∧ n < 10 ^ (Nat.toDigits 10 n).length := by
  have hpos : 0 < (Nat.toDigits 10 n).length := Nat.length_toDigits_pos
  constructor
  · obtain hone | hmore := Nat.eq_or_lt_of_le (Nat.succ_le_of_lt hpos)
    · rw [← hone]
      exact h
    · by_contra hlt
      have := (Nat.length_toDigits_le_iff (by decide) (show 0 < (Nat.toDigits 10 n).length - 1 by omega)).mpr
        (Nat.lt_of_not_le hlt)
      omega
  · exact (Nat.length_toDigits_le_iff (by decide) hpos).mp le_rfl

theorem unitsPerOne_pos : 0 < unitsPerOne := Nat.pow_pos (by decide)

theorem unitsPerOne_le : 2 * unitsPerOne ≤ 10 ^ 324 := by decide +kernel

/-- The leading digit of a number does not stand for more than the number. -/
theorem leadingExponent_le {rank : Nat} (h : 0 < rank) :
    unitsPerOne * 10 ^ (leadingExponent rank).toNat ≤
      unitsOfRank rank * 10 ^ (-leadingExponent rank).toNat := by
  have hunits := unitsOfRank_pos h
  set n := unitsOfRank rank * 10 ^ 400 / unitsPerOne with hn
  have hpos : 0 < n := by
    refine Nat.div_pos ?_ unitsPerOne_pos
    have hunit : unitsPerOne ≤ 10 ^ 400 := by decide +kernel
    exact hunit.trans (Nat.le_mul_of_pos_left _ hunits)
  have hlength : 0 < (Nat.toDigits 10 n).length := Nat.length_toDigits_pos
  have hleading : leadingExponent rank = ((Nat.toDigits 10 n).length : Int) - 401 := rfl
  set l := leadingExponent rank
  have hbound : 10 ^ (l + 400).toNat * unitsPerOne ≤ unitsOfRank rank * 10 ^ 400 := by
    have hexponent : (l + 400).toNat = (Nat.toDigits 10 n).length - 1 := by omega
    rw [hexponent]
    calc 10 ^ ((Nat.toDigits 10 n).length - 1) * unitsPerOne ≤ n * unitsPerOne :=
          Nat.mul_le_mul_right _ (length_toDigits_bounds hpos).1
      _ ≤ unitsOfRank rank * 10 ^ 400 := Nat.div_mul_le_self _ _
  have hpow : 10 ^ l.toNat * 10 ^ 400 = 10 ^ (l + 400).toNat * 10 ^ (-l).toNat := by
    rw [← pow_add, ← pow_add]
    congr 1
    omega
  refine Nat.le_of_mul_le_mul_right (c := 10 ^ 400) ?_ (by positivity)
  calc unitsPerOne * 10 ^ l.toNat * 10 ^ 400 = 10 ^ (l + 400).toNat * unitsPerOne * 10 ^ (-l).toNat := by
        rw [Nat.mul_assoc, hpow]
        ring
    _ ≤ unitsOfRank rank * 10 ^ 400 * 10 ^ (-l).toNat := Nat.mul_le_mul_right _ hbound
    _ = unitsOfRank rank * 10 ^ (-l).toNat * 10 ^ 400 := by ring

/-- With seventeen digits, decimals lie closer together than the ends of the interval of a rank. -/
theorem grid_lt_interval {rank : Nat} (h : 0 < rank) :
    2 * unitsPerOne * 10 ^ (leadingExponent rank - 16).toNat +
      unitsOfRank (rank - 1) * 10 ^ (-(leadingExponent rank - 16)).toNat <
    unitsOfRank (rank + 1) * 10 ^ (-(leadingExponent rank - 16)).toNat := by
  have hleading := leadingExponent_le h
  set l := leadingExponent rank
  set up := 10 ^ (-(l - 16)).toNat with hup
  have hpow : 10 ^ l.toNat * up = 10 ^ (l - 16).toNat * 10 ^ 16 * 10 ^ (-l).toNat := by
    rw [hup, ← pow_add, ← pow_add, ← pow_add]
    congr 1
    omega
  have hgrid : unitsPerOne * 10 ^ (l - 16).toNat * 10 ^ 16 ≤ unitsOfRank rank * up := by
    refine Nat.le_of_mul_le_mul_right (c := 10 ^ (-l).toNat) ?_ (by positivity)
    calc unitsPerOne * 10 ^ (l - 16).toNat * 10 ^ 16 * 10 ^ (-l).toNat
        = unitsPerOne * 10 ^ l.toNat * up := by
          rw [Nat.mul_assoc unitsPerOne (10 ^ l.toNat), hpow]
          ring
      _ ≤ unitsOfRank rank * 10 ^ (-l).toNat * up := Nat.mul_le_mul_right _ hleading
      _ = unitsOfRank rank * up * 10 ^ (-l).toNat := by ring
  have hwide := Nat.mul_lt_mul_of_pos_right (interval_wide h) (show 0 < up by positivity)
  linarith

/-- Of the two decimals of seventeen digits next to a number, one is nearest to its rank. -/
theorem decimalOfPlaces?_seventeen {rank : Nat} (h : 0 < rank) :
    (decimalOfPlaces? rank (leadingExponent rank) 17).isSome := by
  have hgap := grid_lt_interval h
  have hbelow := unitsOfRank_strictMono (show rank - 1 < rank by omega)
  have habove := unitsOfRank_lt_succ rank
  unfold decimalOfPlaces?
  extract_lets exponent up grid low high exact hits below above nearAbove
  have hexponent : leadingExponent rank - 16 = exponent := by
    change _ = leadingExponent rank + 1 - ((17 : Nat) : Int)
    omega
  rw [hexponent] at hgap
  change grid + unitsOfRank (rank - 1) * up < unitsOfRank (rank + 1) * up at hgap
  have hup : 0 < up := Nat.pow_pos (by decide)
  have hgrid : 0 < grid := Nat.mul_pos (Nat.mul_pos (by decide) unitsPerOne_pos) (Nat.pow_pos (by decide))
  have hfloor : below * grid ≤ exact := Nat.div_mul_le_self _ _
  have hceil : exact < above * grid := by
    rw [Nat.mul_comm]
    exact Nat.lt_mul_div_succ _ hgrid
  have hlowexact : low < exact := by
    have := Nat.mul_lt_mul_of_pos_right hbelow hup
    simp only [low, exact]
    linarith
  have hexacthigh : exact < high := by
    have := Nat.mul_lt_mul_of_pos_right habove hup
    simp only [high, exact]
    linarith
  have hspan : low + grid < high := by
    simp only [low, high]
    linarith
  have hstep : above * grid = below * grid + grid := Nat.succ_mul _ _
  have hhit : hits below = true ∨ hits above = true := by
    by_contra hmiss
    simp only [not_or, hits] at hmiss
    obtain ⟨hmissbelow, hmissabove⟩ := hmiss
    split_ifs at hmissbelow hmissabove <;>
      simp only [Bool.and_eq_true, decide_eq_true_eq, not_and_or, not_le, not_lt] at hmissbelow hmissabove <;>
      omega
  split_ifs with h1 h2
  · rfl
  · rfl
  · simp_all

/-- The decimal that a number is written with is nearest to its rank. -/
theorem shortest_nearest {rank : Nat} (h : 0 < rank) :
    NearestDecimal rank (shortest rank).digits (shortest rank).exponent := by
  obtain ⟨last, hlast⟩ := Option.isSome_iff_exists.mp (decimalOfPlaces?_seventeen h)
  have hsome : ((List.range 17).findSome? fun n =>
      decimalOfPlaces? rank (leadingExponent rank) (n + 1)).isSome := by
    rw [List.findSome?_isSome_iff]
    exact ⟨16, by simp, by simp [hlast]⟩
  obtain ⟨d, hd⟩ := Option.isSome_iff_exists.mp hsome
  have hshortest : shortest rank = d := by
    rw [shortest, hd, Option.getD_some]
  obtain ⟨n, -, hn⟩ := List.exists_of_findSome?_eq_some hd
  rw [hshortest]
  exact decimalOfPlaces?_nearest hn

theorem NearestDecimal.digits_pos {rank digits : Nat} {exponent : Int} (hrank : 0 < rank)
    (h : NearestDecimal rank digits exponent) : 0 < digits := by
  by_contra hzero
  obtain rfl : digits = 0 := by omega
  have hlow := h.le.1
  have hunits := unitsOfRank_pos hrank
  have hpos : 0 < (unitsOfRank (rank - 1) + unitsOfRank rank) * 10 ^ (-exponent).toNat :=
    Nat.mul_pos (by omega) (Nat.pow_pos (by decide))
  simp only [Nat.zero_mul, Nat.mul_zero] at hlow
  omega

theorem unitsOfRank_overflow : unitsOfRank overflowRank = binade * 2 ^ 2046 := by
  have h := unitsOfRank_add (s := 2046) (m := binade) (by rw [binade_eq]; omega) (.inr le_rfl)
  rw [← h]
  rfl

theorem unitsOfRank_overflow_le : unitsOfRank overflowRank ≤ 10 ^ 309 * unitsPerOne := by
  rw [unitsOfRank_overflow]
  decide +kernel

/-- A decimal that is nearest to a finite rank is not too large to be read. -/
theorem NearestDecimal.top_le {rank digits : Nat} {exponent : Int} (hfinite : rank < overflowRank)
    (hdigits : 0 < digits) (h : NearestDecimal rank digits exponent) :
    exponent + (Nat.toDigits 10 digits).length ≤ 310 := by
  have hhigh := h.le.2
  have hself := unitsOfRank_strictMono.monotone hfinite.le
  have hnext := unitsOfRank_strictMono.monotone (Nat.succ_le_of_lt hfinite)
  have hlength := (length_toDigits_bounds hdigits).1
  have hlengthpos : 0 < (Nat.toDigits 10 digits).length := Nat.length_toDigits_pos
  set length := (Nat.toDigits 10 digits).length
  have hvalue : digits * 10 ^ exponent.toNat ≤ 10 ^ 309 * 10 ^ (-exponent).toNat := by
    refine Nat.le_of_mul_le_mul_right (c := 2 * unitsPerOne) ?_ (Nat.mul_pos (by decide) unitsPerOne_pos)
    calc digits * 10 ^ exponent.toNat * (2 * unitsPerOne)
        = 2 * (digits * 10 ^ exponent.toNat) * unitsPerOne := by ring
      _ ≤ (unitsOfRank rank + unitsOfRank (rank + 1)) * 10 ^ (-exponent).toNat := hhigh
      _ ≤ (10 ^ 309 * unitsPerOne + 10 ^ 309 * unitsPerOne) * 10 ^ (-exponent).toNat :=
          Nat.mul_le_mul_right _ (Nat.add_le_add (hself.trans unitsOfRank_overflow_le)
            (hnext.trans unitsOfRank_overflow_le))
      _ = 10 ^ 309 * 10 ^ (-exponent).toNat * (2 * unitsPerOne) := by ring
  have hpow : 10 ^ (length - 1 + exponent.toNat) ≤ 10 ^ (309 + (-exponent).toNat) :=
    calc 10 ^ (length - 1 + exponent.toNat) = 10 ^ (length - 1) * 10 ^ exponent.toNat := pow_add ..
      _ ≤ digits * 10 ^ exponent.toNat := Nat.mul_le_mul_right _ hlength
      _ ≤ 10 ^ 309 * 10 ^ (-exponent).toNat := hvalue
      _ = 10 ^ (309 + (-exponent).toNat) := (pow_add ..).symm
  have := (Nat.pow_le_pow_iff_right (by decide)).mp hpow
  omega

/-- A decimal that is nearest to a positive rank is not too small to be read. -/
theorem NearestDecimal.le_top {rank digits : Nat} {exponent : Int} (hrank : 0 < rank)
    (h : NearestDecimal rank digits exponent) :
    -330 ≤ exponent + (Nat.toDigits 10 digits).length := by
  have hlow := h.le.1
  have hunits := unitsOfRank_pos hrank
  have hlength := (length_toDigits_bounds (h.digits_pos hrank)).2
  set length := (Nat.toDigits 10 digits).length
  have hpow : 10 ^ (-exponent).toNat ≤ 10 ^ (length + exponent.toNat + 324) :=
    calc 10 ^ (-exponent).toNat
        ≤ (unitsOfRank (rank - 1) + unitsOfRank rank) * 10 ^ (-exponent).toNat :=
          Nat.le_mul_of_pos_left _ (by omega)
      _ ≤ 2 * (digits * 10 ^ exponent.toNat) * unitsPerOne := hlow
      _ = digits * 10 ^ exponent.toNat * (2 * unitsPerOne) := by ring
      _ ≤ 10 ^ length * 10 ^ exponent.toNat * 10 ^ 324 :=
          Nat.mul_le_mul (Nat.mul_le_mul_right _ hlength.le) unitsPerOne_le
      _ = 10 ^ (length + exponent.toNat + 324) := by rw [pow_add, pow_add]
  have := (Nat.pow_le_pow_iff_right (by decide)).mp hpow
  omega

/-- A decimal that is nearest to a finite rank is read as it. -/
theorem ofDecimal_of_nearest {rank digits : Nat} {exponent : Int} (negative : Bool) (hrank : 0 < rank)
    (hfinite : rank < overflowRank) (h : NearestDecimal rank digits exponent) :
    ofDecimal negative digits exponent = .finite negative rank := by
  have hdigits := h.digits_pos hrank
  have hhigh := h.top_le hfinite hdigits
  have hlow := h.le_top hrank
  have hratio : ofRank negative rank = .finite negative rank := if_pos hfinite
  unfold ofDecimal
  extract_lets top
  rw [if_neg (by omega), if_neg (by omega), if_neg (by omega)]
  unfold NearestDecimal at h
  split_ifs with hexponent
  · have hden : (-exponent).toNat = 0 := by omega
    rw [hden] at h
    exact (ofRatio_of_nearest negative (by decide) h).trans hratio
  · have hnum : exponent.toNat = 0 := by omega
    rw [hnum, pow_zero, Nat.mul_one] at h
    exact (ofRatio_of_nearest negative (Nat.pow_pos (by decide)) h).trans hratio

end Sidecar.Binary64
