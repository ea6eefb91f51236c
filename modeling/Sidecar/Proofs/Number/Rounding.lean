import Mathlib.Tactic.Linarith
import Mathlib.Tactic.Ring
import Sidecar.Number.Binary64

/-!
Rounding to binary64. A number that lies between the midpoints on either side of a rank is rounded to
that rank; the midpoints themselves belong to the even ranks.
-/

namespace Sidecar.Binary64

theorem binade_eq : binade = 4503599627370496 := rfl

theorem roundDiv_eq {a b k : Nat} (hb : 0 < b) (hlow : 2 * k * b ≤ 2 * a + b)
    (hhigh : 2 * a ≤ (2 * k + 1) * b)
    (heven : 2 * k * b = 2 * a + b ∨ 2 * a = (2 * k + 1) * b → k % 2 = 0) : roundDiv a b = k := by
  have hdiv := Nat.div_add_mod a b
  have hmod := Nat.mod_lt a hb
  unfold roundDiv
  extract_lets q r
  change b * q + r = a at hdiv
  change r < b at hmod
  have hle : k ≤ q + 1 := by
    by_contra hlt
    have h : (2 * q + 4) * b ≤ 2 * k * b := Nat.mul_le_mul_right b (by omega)
    linarith
  have hge : q ≤ k := by
    by_contra hlt
    have h : (2 * k + 2) * b ≤ 2 * q * b := Nat.mul_le_mul_right b (by omega)
    linarith
  obtain hk | hk : q = k ∨ q + 1 = k := by omega
  · -- the rest is at most one half
    subst hk
    have hr : 2 * r ≤ b := by linarith
    split_ifs with h1 h2 h3
    · rfl
    · omega
    · rfl
    · refine absurd (heven (.inr ?_)) h3
      have : 2 * r = b := by omega
      linarith
  · -- the rest is at least one half
    rw [← hk] at hlow heven ⊢
    have hr : b ≤ 2 * r := by linarith
    split_ifs with h1 h2 h3
    · omega
    · rfl
    · have : (q + 1) % 2 = 0 := by
        apply heven
        left
        have : 2 * r = b := by omega
        linarith
      omega
    · rfl

/-- Within a binade, ranks and units go up together. -/
theorem unitsOfRank_add {s m : Nat} (hm : m ≤ 2 * binade) (hs : s = 0 ∨ binade ≤ m) :
    unitsOfRank (s * binade + m) = m * 2 ^ s := by
  rw [binade_eq] at hm hs
  unfold unitsOfRank
  rw [binade_eq]
  obtain hlow | hmid | htop : m < 4503599627370496 ∨
      (4503599627370496 ≤ m ∧ m < 9007199254740992) ∨ m = 9007199254740992 := by omega
  · obtain rfl : s = 0 := by omega
    rw [if_pos (by omega)]
    simp
  · have hdiv : (s * 4503599627370496 + m) / 4503599627370496 = s + 1 := by omega
    have hmod : (s * 4503599627370496 + m) % 4503599627370496 = m - 4503599627370496 := by omega
    rw [if_neg (by omega), hdiv, hmod]
    have hsum : 4503599627370496 + (m - 4503599627370496) = m := by omega
    rw [hsum]
    rfl
  · subst htop
    have hdiv : (s * 4503599627370496 + 9007199254740992) / 4503599627370496 = s + 2 := by omega
    have hmod : (s * 4503599627370496 + 9007199254740992) % 4503599627370496 = 0 := by omega
    rw [if_neg (by omega), hdiv, hmod]
    change 4503599627370496 * 2 ^ (s + 1) = 9007199254740992 * 2 ^ s
    ring

/-- Every rank lies in a binade. -/
theorem rank_cases (rank : Nat) : ∃ s m, rank = s * binade + m ∧ m < 2 * binade ∧
    (s = 0 ∨ binade ≤ m) := by
  refine ⟨rank / binade - 1, rank - (rank / binade - 1) * binade, ?_⟩
  rw [binade_eq]
  omega

/-- The number `num / den` lies between the midpoints around a rank. -/
def Nearest (rank num den : Nat) : Prop :=
  let low := (unitsOfRank (rank - 1) + unitsOfRank rank) * den
  let high := (unitsOfRank rank + unitsOfRank (rank + 1)) * den
  let exact := 2 * num * unitsPerOne
  if rank % 2 = 0 then low ≤ exact ∧ exact ≤ high else low < exact ∧ exact < high

theorem Nearest.le {rank num den : Nat} (h : Nearest rank num den) :
    (unitsOfRank (rank - 1) + unitsOfRank rank) * den ≤ 2 * num * unitsPerOne ∧
    2 * num * unitsPerOne ≤ (unitsOfRank rank + unitsOfRank (rank + 1)) * den := by
  unfold Nearest at h
  extract_lets low high exact at h
  split_ifs at h
  · exact h
  · exact ⟨h.1.le, h.2.le⟩

theorem Nearest.lt_of_odd {rank num den : Nat} (h : Nearest rank num den) (hodd : rank % 2 ≠ 0) :
    (unitsOfRank (rank - 1) + unitsOfRank rank) * den < 2 * num * unitsPerOne ∧
    2 * num * unitsPerOne < (unitsOfRank rank + unitsOfRank (rank + 1)) * den := by
  rw [Nearest, if_neg hodd] at h
  exact h

/-- What is rounded at the scale `s` is found in the binade `s`. -/
theorem log2_sub_eq {a den s : Nat} (hden : 0 < den) (hlow : s = 0 ∨ binade * 2 ^ s * den ≤ a)
    (hhigh : a < 2 * binade * 2 ^ s * den) : (a / den).log2 - 52 = s := by
  have hupper : a / den < 2 ^ (53 + s) := by
    rw [Nat.div_lt_iff_lt_mul hden, pow_add]
    exact hhigh
  rcases hlow with rfl | hlow
  · by_cases h0 : a / den = 0
    · simp [h0]
    · have := (Nat.log2_lt h0).mpr hupper
      omega
  · have hlower : 2 ^ (52 + s) ≤ a / den := by
      rw [Nat.le_div_iff_mul_le hden, pow_add]
      exact hlow
    have h0 : a / den ≠ 0 := by
      have : 0 < 2 ^ (52 + s) := by positivity
      omega
    have h1 := (Nat.log2_lt h0).mpr hupper
    have h2 := (Nat.le_log2 h0).mpr hlower
    omega

theorem ofRatio_eq_ofRank {num den s m : Nat} (negative : Bool) (hden : 0 < den)
    (hlow : s = 0 ∨ binade * 2 ^ s * den ≤ num * unitsPerOne)
    (hhigh : num * unitsPerOne < 2 * binade * 2 ^ s * den)
    (hround : roundDiv (num * unitsPerOne) (den * 2 ^ s) = m) :
    ofRatio negative num den = ofRank negative (s * binade + m) := by
  unfold ofRatio
  extract_lets scaled shift
  have hshift : shift = s := log2_sub_eq hden hlow hhigh
  rw [hshift, Nat.add_comm]
  change ofRank negative (s * binade + roundDiv (num * unitsPerOne) (den * 2 ^ s)) = _
  rw [hround]

/-- The lower midpoint of a rank within its binade. -/
theorem lower_midpoint {s m : Nat} (hm : m < 2 * binade) (hs : s = 0 ∨ binade < m) :
    unitsOfRank (s * binade + m - 1) + unitsOfRank (s * binade + m) + 2 ^ s ≥ 2 * m * 2 ^ s ∧
    (0 < m → unitsOfRank (s * binade + m - 1) + unitsOfRank (s * binade + m) + 2 ^ s =
      2 * m * 2 ^ s) := by
  have hself := unitsOfRank_add hm.le (hs.imp id le_of_lt)
  obtain rfl | hpos := Nat.eq_zero_or_pos m
  · simp
  · have hpred : s * binade + m - 1 = s * binade + (m - 1) := by omega
    have hprev := unitsOfRank_add (s := s) (m := m - 1) (by omega) (by omega)
    obtain ⟨k, rfl⟩ : ∃ k, m = k + 1 := ⟨m - 1, by omega⟩
    have hsum : unitsOfRank (s * binade + (k + 1) - 1) + unitsOfRank (s * binade + (k + 1)) + 2 ^ s =
        2 * (k + 1) * 2 ^ s := by
      rw [hpred, hprev, hself, Nat.add_sub_cancel]
      ring
    exact ⟨hsum.ge, fun _ => hsum⟩

theorem upper_midpoint {s m : Nat} (hm : m < 2 * binade) (hs : s = 0 ∨ binade ≤ m) :
    unitsOfRank (s * binade + m) + unitsOfRank (s * binade + m + 1) = (2 * m + 1) * 2 ^ s := by
  have hself := unitsOfRank_add hm.le hs
  have hnext := unitsOfRank_add (s := s) (m := m + 1) (by omega) (by omega)
  rw [hself, Nat.add_assoc, hnext]
  ring

/-- The midpoint below the least rank of a binade is nearer than the one above. -/
theorem lower_midpoint_binade (s : Nat) :
    unitsOfRank ((s + 1) * binade + binade - 1) + unitsOfRank ((s + 1) * binade + binade) =
      (4 * binade - 1) * 2 ^ s := by
  have hself := unitsOfRank_add (s := s + 1) (m := binade) (by rw [binade_eq]; omega) (.inr le_rfl)
  have hprev := unitsOfRank_add (s := s) (m := 2 * binade - 1) (by omega) (by rw [binade_eq]; omega)
  have hpred : (s + 1) * binade + binade - 1 = s * binade + (2 * binade - 1) := by
    rw [binade_eq]
    omega
  rw [hpred, hprev, hself, binade_eq, pow_succ]
  ring

theorem Nearest.high_le {s m num den : Nat} (hm : m < 2 * binade) (hs : s = 0 ∨ binade ≤ m)
    (h : Nearest (s * binade + m) num den) :
    2 * (num * unitsPerOne) ≤ (2 * m + 1) * (den * 2 ^ s) := by
  have hhigh := h.le.2
  rw [upper_midpoint hm hs] at hhigh
  calc 2 * (num * unitsPerOne) = 2 * num * unitsPerOne := by ring
    _ ≤ (2 * m + 1) * 2 ^ s * den := hhigh
    _ = (2 * m + 1) * (den * 2 ^ s) := by ring

/-- What lies below the upper midpoint of a rank lies below the end of its binade. -/
theorem lt_top_of_high_le {a s m den : Nat} (hden : 0 < den) (hm : m < 2 * binade)
    (h : 2 * a ≤ (2 * m + 1) * (den * 2 ^ s)) : a < 2 * binade * 2 ^ s * den := by
  have hD : 0 < den * 2 ^ s := by positivity
  have hle : (2 * m + 1) * (den * 2 ^ s) ≤ (4 * binade - 1) * (den * 2 ^ s) :=
    Nat.mul_le_mul_right _ (by omega)
  have hlt : (4 * binade - 1) * (den * 2 ^ s) < 4 * binade * (den * 2 ^ s) :=
    Nat.mul_lt_mul_of_pos_right (by rw [binade_eq]; omega) hD
  have hring : 4 * binade * (den * 2 ^ s) = 2 * (2 * binade * 2 ^ s * den) := by ring
  omega

/-- A rank whose midpoints are at the same distance. -/
theorem ofRatio_of_nearest_inside {num den s m : Nat} (negative : Bool) (hden : 0 < den)
    (hm : m < 2 * binade) (hs : s = 0 ∨ binade < m) (h : Nearest (s * binade + m) num den) :
    ofRatio negative num den = ofRank negative (s * binade + m) := by
  have hs' : s = 0 ∨ binade ≤ m := hs.imp id le_of_lt
  have hhigh := h.high_le hm hs'
  have htop := lt_top_of_high_le hden hm hhigh
  obtain ⟨hge, heq⟩ := lower_midpoint hm hs
  have hlow : 2 * m * (den * 2 ^ s) ≤ 2 * (num * unitsPerOne) + den * 2 ^ s := by
    have hmul := Nat.mul_le_mul_right den hge
    have hmid := h.le.1
    linarith
  refine ofRatio_eq_ofRank negative hden ?_ htop (roundDiv_eq (by positivity) hlow hhigh ?_)
  · refine hs.imp id fun hbinade => ?_
    have hmul := Nat.mul_le_mul_right (den * 2 ^ s) (Nat.succ_le_of_lt hbinade)
    linarith
  · intro htie
    by_contra hodd
    have hparity : (s * binade + m) % 2 = m % 2 := by
      rw [binade_eq]
      omega
    obtain ⟨hltlow, hlthigh⟩ := h.lt_of_odd (by rwa [hparity])
    rw [upper_midpoint hm hs'] at hlthigh
    rcases htie with htie | htie
    · have hmul : _ * den = _ * den := congrArg (· * den) (heq (by omega))
      linarith
    · linarith

/-- The least rank of a binade may also be reached from the binade below. -/
theorem ofRatio_of_nearest_bottom {num den t : Nat} (negative : Bool) (hden : 0 < den)
    (h : Nearest ((t + 1) * binade + binade) num den) :
    ofRatio negative num den = ofRank negative ((t + 1) * binade + binade) := by
  have hm : binade < 2 * binade := by decide
  have hhigh := h.high_le hm (.inr le_rfl)
  have htop := lt_top_of_high_le hden hm hhigh
  have hlow := h.le.1
  rw [lower_midpoint_binade] at hlow
  set a := num * unitsPerOne with ha
  have hnum : 2 * num * unitsPerOne = 2 * a := by rw [ha]; ring
  rw [hnum] at hlow
  by_cases habove : binade * 2 ^ (t + 1) * den ≤ a
  · refine ofRatio_eq_ofRank negative hden (.inr habove) htop
      (roundDiv_eq (by positivity) ?_ hhigh fun _ => rfl)
    linarith
  · have hround : roundDiv a (den * 2 ^ t) = 2 * binade := by
      refine roundDiv_eq (by positivity) ?_ ?_ fun _ => rfl
      · have hcoefficient : 2 * (2 * binade) = (4 * binade - 1) + 1 := rfl
        rw [hcoefficient, Nat.add_mul, Nat.one_mul]
        linarith
      · have hpow : binade * 2 ^ (t + 1) * den = 2 * binade * (den * 2 ^ t) := by ring
        have hpos : 0 < den * 2 ^ t := by positivity
        linarith
    have hbottom : binade * 2 ^ t * den ≤ a := by
      have hcoefficient : 2 * binade ≤ 4 * binade - 1 := by decide
      have hmul := Nat.mul_le_mul_right (2 ^ t * den) hcoefficient
      linarith
    have hbelow : a < 2 * binade * 2 ^ t * den := by
      have hpow : binade * 2 ^ (t + 1) * den = 2 * binade * 2 ^ t * den := by ring
      omega
    have hrank : t * binade + 2 * binade = (t + 1) * binade + binade := by
      rw [binade_eq]
      omega
    rw [ofRatio_eq_ofRank negative hden (.inr hbottom) hbelow hround, hrank]

/-- A ratio between the midpoints around a rank is rounded to it. -/
theorem ofRatio_of_nearest {rank num den : Nat} (negative : Bool) (hden : 0 < den)
    (h : Nearest rank num den) : ofRatio negative num den = ofRank negative rank := by
  obtain ⟨s, m, rfl, hm, hs⟩ := rank_cases rank
  by_cases hcase : s = 0 ∨ binade < m
  · exact ofRatio_of_nearest_inside negative hden hm hcase h
  · obtain ⟨t, rfl⟩ : ∃ t, s = t + 1 := ⟨s - 1, by omega⟩
    obtain rfl : m = binade := by omega
    exact ofRatio_of_nearest_bottom negative hden h

end Sidecar.Binary64
