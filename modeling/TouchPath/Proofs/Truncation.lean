import Mathlib.Tactic.Linarith
import TouchPath.Proofs.Rounding

/-! # Cutting rounded quotients

A float is off its quotient by half a unit of its last place at most. For a numerator of less than
53 binary digits that is less than the distance from the quotient to the next integer above, so the
float is cut to the same integer as the quotient (`truncNearest?_eq_tdiv`). A part of a whole whose
product with the number of parts has 53 digits is such a quotient, or the whole itself.
-/
namespace TouchPath
set_option autoImplicit false

theorem two_mul_roundDiv_mul_le (num den : Nat) : 2 * (roundDiv num den * den) ≤ 2 * num + den := by
  have hDivMod := Nat.div_add_mod num den
  rw [Nat.mul_comm] at hDivMod
  simp only [roundDiv]
  split
  · omega
  · split
    · rw [Nat.add_mul]
      omega
    · have hParity : (num / den + num / den % 2) * den ≤ (num / den + 1) * den :=
        Nat.mul_le_mul_right den (by omega)
      rw [Nat.add_mul _ 1] at hParity
      omega

namespace Dyadic

variable {num den : Nat}

theorem nearest_le_add_half (hDen : 0 < den) :
    (nearest num den).toRat ≤ num / den + 2 ^ (lastPlace num den - 1) := by
  have hPos : (0 : ℚ) < den := Nat.cast_pos.mpr hDen
  rw [zpow_sub_one₀ two_ne_zero, div_add' _ _ _ hPos.ne', le_div_iff₀ hPos, toRat,
    significand_nearest]
  change _ * 2 ^ lastPlace num den * _ ≤ _
  generalize lastPlace num den = e
  have hRound : (2 : ℚ) * (roundDiv (num * Nat.pow 2 (-e).toNat) (den * Nat.pow 2 e.toNat) *
      (den * 2 ^ e.toNat)) ≤ 2 * (num * 2 ^ (-e).toNat) + den * 2 ^ e.toNat := by
    exact_mod_cast two_mul_roundDiv_mul_le (num * 2 ^ (-e).toNat) (den * 2 ^ e.toNat)
  rw [two_zpow_eq_div, Int.cast_natCast]
  field_simp
  linarith

theorem two_zpow_lastPlace_lt (hNum : 0 < num) (hDen : 0 < den) (hBound : num < 2 ^ 53)
    (hPlaces : den ≤ 2 ^ 53) : (2 : ℚ) ^ (lastPlace num den - 1) * den < 1 := by
  have hStep : (0 : ℚ) < 2 ^ (-53 : Int) := by positivity
  rcases max_choice (log2Quotient num den - 52) (-1074) with hPlace | hPlace
  · have hSplit : lastPlace num den - 1 = log2Quotient num den + -53 := by
      rw [lastPlace, hPlace]
      omega
    calc (2 : ℚ) ^ (lastPlace num den - 1) * den
        = den * 2 ^ log2Quotient num den * 2 ^ (-53 : Int) := by
          rw [hSplit, zpow_add₀ two_ne_zero]
          ring
      _ ≤ num * 2 ^ (-53 : Int) :=
          mul_le_mul_of_nonneg_right (log2Quotient_spec hNum hDen).1 hStep.le
      _ < 2 ^ 53 * 2 ^ (-53 : Int) := mul_lt_mul_of_pos_right (by exact_mod_cast hBound) hStep
      _ = 1 := by norm_num
  · have hSplit : lastPlace num den - 1 = -53 + -1022 := by
      rw [lastPlace, hPlace]
      rfl
    calc (2 : ℚ) ^ (lastPlace num den - 1) * den
        ≤ 2 ^ (lastPlace num den - 1) * 2 ^ 53 :=
          mul_le_mul_of_nonneg_left (by exact_mod_cast hPlaces) (by positivity)
      _ = 2 ^ (-1022 : Int) := by
          have hOne : (2 : ℚ) ^ (-53 : Int) * 2 ^ 53 = 1 := by norm_num
          rw [hSplit, zpow_add₀ two_ne_zero, mul_right_comm, hOne, one_mul]
      _ < 1 := zpow_lt_one_of_neg₀ one_lt_two (by decide)

/-- Below 53 binary digits a float is cut to the integer that its quotient is cut to. -/
theorem floor_nearest (hDen : 0 < den) (hBound : num < 2 ^ 53) (hPlaces : den ≤ 2 ^ 53) :
    ⌊(nearest num den).toRat⌋ = (num / den : Nat) := by
  rcases Nat.eq_zero_or_pos num with rfl | hNum
  · rw [nearest_zero, Int.floor_zero, Nat.zero_div, Int.natCast_zero]
  have hPos : (0 : ℚ) < den := Nat.cast_pos.mpr hDen
  rw [Int.floor_eq_iff, Int.cast_natCast]
  constructor
  · rw [← nearest_mul hDen ((Nat.div_le_self num den).trans hBound.le)]
    exact nearest_mono hDen (Nat.div_mul_le_self num den)
  · have hHalf := two_zpow_lastPlace_lt hNum hDen hBound hPlaces
    rw [← lt_div_iff₀ hPos] at hHalf
    have hNext : (num : ℚ) + 1 ≤ ((num / den : Nat) + 1) * den := by
      have hLt : num < (num / den + 1) * den := Nat.lt_mul_of_div_lt (Nat.lt_succ_self _) hDen
      exact_mod_cast hLt
    calc (nearest num den).toRat ≤ num / den + 2 ^ (lastPlace num den - 1) :=
          nearest_le_add_half hDen
      _ < num / den + 1 / den := by
          rw [add_lt_add_iff_left]
          exact hHalf
      _ = (num + 1) / den := (add_div _ _ _).symm
      _ ≤ (num / den : Nat) + 1 := by
          rw [div_le_iff₀ hPos]
          exact hNext

end Dyadic

theorem sign_mul_natAbs_div (a : Int) (n : Nat) : a.sign * (a.natAbs / n : Nat) = a.tdiv n := by
  obtain ⟨k, rfl | rfl⟩ := a.eq_nat_or_neg
  · rcases Nat.eq_zero_or_pos k with rfl | hk
    · simp
    · rw [Int.sign_eq_one_of_pos (by omega), Int.natAbs_natCast, one_mul, Int.ofNat_tdiv]
  · rcases Nat.eq_zero_or_pos k with rfl | hk
    · simp
    · rw [Int.sign_eq_neg_one_of_neg (by omega), Int.natAbs_neg, Int.natAbs_natCast, Int.neg_tdiv,
        Int.ofNat_tdiv, neg_one_mul]

/-- A quotient of less than 53 binary digits is cut as if it were not rounded before. -/
theorem truncNearest?_eq_tdiv {num : Int} {den : Nat} (hDen : 0 < den)
    (hBound : num.natAbs < 2 ^ 53) (hPlaces : den ≤ 2 ^ 53) :
    truncNearest? num den = some (num.tdiv den) := by
  rw [truncNearest?_eq_some_iff, Dyadic.floor_nearest hDen hBound hPlaces, sign_mul_natAbs_div]
  have hLimit : 53 < 1024 := by decide
  generalize 1024 = k at hLimit ⊢
  refine ⟨?_, rfl⟩
  calc (Dyadic.nearest num.natAbs den).toRat ≤ (Dyadic.nearest (2 ^ 53 * den) den).toRat :=
        Dyadic.nearest_mono hDen (hBound.le.trans (Nat.le_mul_of_pos_right _ hDen))
    _ = (2 ^ 53 : Nat) := Dyadic.nearest_mul hDen le_rfl
    _ < (Nat.pow 2 k : Nat) := Nat.cast_lt.mpr (Nat.pow_lt_pow_right (by decide) hLimit)

theorem truncNearest?_fraction {t : Int} {i n : Nat} (hn : 0 < n) (hi : i ≤ n)
    (hBound : t.natAbs * n ≤ 2 ^ 53) : truncNearest? (t * i) n = some ((t * i).tdiv n) := by
  rcases Nat.lt_or_eq_of_le hi with hLt | rfl
  · rcases eq_or_ne t 0 with rfl | hZero
    · rw [zero_mul, truncNearest?_zero, Int.zero_tdiv]
    · have hAbs : 0 < t.natAbs := Int.natAbs_pos.mpr hZero
      have hPart : (t * i).natAbs < t.natAbs * n := by
        rw [Int.natAbs_mul, Int.natAbs_natCast]
        exact Nat.mul_lt_mul_of_pos_left hLt hAbs
      exact truncNearest?_eq_tdiv hn (hPart.trans_le hBound)
        ((Nat.le_mul_of_pos_left n hAbs).trans hBound)
  · rw [truncNearest?_mul hn ((Nat.le_mul_of_pos_right _ hn).trans hBound),
      Int.mul_tdiv_cancel _ (by omega)]

end TouchPath
