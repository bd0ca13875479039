import Mathlib.Algebra.Order.Field.Power
import Mathlib.Data.Rat.Floor
import Mathlib.Tactic.FieldSimp
import Mathlib.Tactic.NormNum
import Mathlib.Tactic.Positivity
import Mathlib.Tactic.Ring
import Mathlib.Tactic.SplitIfs
import TouchPath.Number.Dyadic

/-! # Rounding of quotients

The float nearest to a quotient grows with the quotient (`Dyadic.nearest_mono`), and is the quotient
itself where that is an integer of at most 53 binary digits (`Dyadic.nearest_mul`). Between two
quotients with the same last place this is the order of the rounded significands; otherwise a power
of two lies between them.
-/
namespace TouchPath
set_option autoImplicit false

theorem div_le_roundDiv (num den : Nat) : num / den ≤ roundDiv num den := by
  simp only [roundDiv]
  split
  · exact Nat.le_refl _
  · split <;> omega

theorem roundDiv_le_div_add_one (num den : Nat) : roundDiv num den ≤ num / den + 1 := by
  simp only [roundDiv]
  split
  · omega
  · split <;> omega

theorem roundDiv_mono {a b : Nat} (den : Nat) (h : a ≤ b) : roundDiv a den ≤ roundDiv b den := by
  rcases Nat.lt_or_eq_of_le (Nat.div_le_div_right (c := den) h) with hDiv | hDiv
  · exact (roundDiv_le_div_add_one a den).trans (Nat.le_trans hDiv (div_le_roundDiv b den))
  · have hMod : a % den ≤ b % den := by
      have ha := Nat.div_add_mod a den
      have hb := Nat.div_add_mod b den
      rw [hDiv] at ha
      omega
    simp only [roundDiv, hDiv]
    split_ifs <;> omega

theorem le_roundDiv {n num den : Nat} (hDen : 0 < den) (h : n * den ≤ num) :
    n ≤ roundDiv num den := by
  rw [← roundDiv_mul n hDen]
  exact roundDiv_mono den h

theorem roundDiv_le {n num den : Nat} (hDen : 0 < den) (h : num ≤ n * den) :
    roundDiv num den ≤ n := by
  rw [← roundDiv_mul n hDen]
  exact roundDiv_mono den h

theorem two_zpow_eq_div (k : Int) : (2 : ℚ) ^ k = 2 ^ k.toNat / 2 ^ (-k).toNat := by
  rcases Int.le_total 0 k with hk | hk
  · rw [Int.toNat_of_nonpos (by omega : -k ≤ 0), pow_zero, div_one, ← zpow_natCast,
      Int.toNat_of_nonneg hk]
  · rw [Int.toNat_of_nonpos hk, pow_zero, one_div, ← zpow_natCast,
      Int.toNat_of_nonneg (by omega), zpow_neg, inv_inv]

theorem scaled_le_iff (a b : Nat) (k : Int) :
    a * Nat.pow 2 k.toNat ≤ b * Nat.pow 2 (-k).toNat ↔ (a : ℚ) * 2 ^ k ≤ b := by
  rw [two_zpow_eq_div, mul_div_assoc', div_le_iff₀ (by positivity), Nat.pow_eq, Nat.pow_eq,
    ← Nat.cast_le (α := ℚ)]
  push_cast
  rfl

theorem le_scaled_iff (a b : Nat) (k : Int) :
    b * Nat.pow 2 (-k).toNat ≤ a * Nat.pow 2 k.toNat ↔ (b : ℚ) ≤ a * 2 ^ k := by
  rw [two_zpow_eq_div, mul_div_assoc', le_div_iff₀ (by positivity), Nat.pow_eq, Nat.pow_eq,
    ← Nat.cast_le (α := ℚ)]
  push_cast
  rfl

namespace Dyadic

def toRat (d : Dyadic) : ℚ := d.significand * 2 ^ d.exponent

theorem toRat_eq_div (d : Dyadic) : d.toRat = d.numerator / d.denominator := by
  rw [toRat, two_zpow_eq_div, numerator, denominator, Nat.pow_eq, Nat.pow_eq]
  push_cast
  rw [mul_div_assoc]

theorem trunc_eq_floor {d : Dyadic} (h : 0 ≤ d.significand) : d.trunc = ⌊d.toRat⌋ := by
  have hNumerator : 0 ≤ d.numerator := Int.mul_nonneg h (Int.natCast_nonneg _)
  rw [toRat_eq_div, Rat.floor_intCast_div_natCast, trunc,
    Int.tdiv_eq_ediv_of_nonneg hNumerator]

theorem inRange_iff {d : Dyadic} (h : 0 ≤ d.significand) :
    d.inRange = true ↔ d.toRat < (Nat.pow 2 1024 : Nat) := by
  have hNumerator : 0 ≤ d.numerator := Int.mul_nonneg h (Int.natCast_nonneg _)
  obtain ⟨n, hn⟩ := Int.eq_ofNat_of_zero_le hNumerator
  rw [inRange, decide_eq_true_eq, toRat_eq_div, div_lt_iff₀ (Nat.cast_pos.mpr d.denominator_pos),
    hn, Int.natAbs_natCast, Int.cast_natCast, ← Nat.cast_mul, Nat.cast_lt]

theorem log2Quotient_spec {num den : Nat} (hNum : 0 < num) (hDen : 0 < den) :
    den * (2 : ℚ) ^ log2Quotient num den ≤ num ∧
      num < den * (2 : ℚ) ^ (log2Quotient num den + 1) := by
  have hNumLow : (2 : ℚ) ^ (num.log2 : Int) ≤ num := by
    exact_mod_cast Nat.log2_self_le hNum.ne'
  have hNumHigh : num < (2 : ℚ) ^ ((num.log2 : Int) + 1) := by
    have hLog : num < _ := Nat.lt_log2_self
    exact_mod_cast hLog
  have hDenLow : (2 : ℚ) ^ (den.log2 : Int) ≤ den := by
    exact_mod_cast Nat.log2_self_le hDen.ne'
  have hDenHigh : den < (2 : ℚ) ^ ((den.log2 : Int) + 1) := by
    have hLog : den < _ := Nat.lt_log2_self
    exact_mod_cast hLog
  have hScale (k : Int) : 0 < (2 : ℚ) ^ k := by positivity
  simp only [log2Quotient]
  split
  · rename_i h
    rw [scaled_le_iff] at h
    refine ⟨h, hNumHigh.trans_le ?_⟩
    calc (2 : ℚ) ^ ((num.log2 : Int) + 1)
        = 2 ^ (den.log2 : Int) * 2 ^ ((num.log2 : Int) - den.log2 + 1) := by
          rw [← zpow_add₀ two_ne_zero]
          congr 1
          omega
      _ ≤ den * 2 ^ ((num.log2 : Int) - den.log2 + 1) :=
          mul_le_mul_of_nonneg_right hDenLow (hScale _).le
  · rename_i h
    rw [scaled_le_iff, not_le] at h
    refine ⟨le_trans ?_ hNumLow, by rwa [Int.sub_add_cancel]⟩
    calc (den : ℚ) * 2 ^ ((num.log2 : Int) - den.log2 - 1)
        ≤ 2 ^ ((den.log2 : Int) + 1) * 2 ^ ((num.log2 : Int) - den.log2 - 1) :=
          mul_le_mul_of_nonneg_right hDenHigh.le (hScale _).le
      _ = 2 ^ (num.log2 : Int) := by
          rw [← zpow_add₀ two_ne_zero]
          congr 1
          omega

variable {num den : Nat}

theorem lastPlace_ge : -1074 ≤ lastPlace num den := Int.le_max_right _ _

theorem significand_nearest : (nearest num den).significand =
    roundDiv (num * Nat.pow 2 (-lastPlace num den).toNat)
      (den * Nat.pow 2 (lastPlace num den).toNat) := rfl

theorem nearest_significand_nonneg : 0 ≤ (nearest num den).significand := Int.natCast_nonneg _

@[simp] theorem nearest_zero : (nearest 0 den).toRat = 0 := by
  have hZero (n : Nat) : roundDiv 0 n = 0 := by simp [roundDiv]
  simp [nearest, toRat, hZero]

theorem cast_two_pow_mul (n : Nat) (e : Int) :
    ((2 ^ n * den : Nat) : ℚ) * 2 ^ e = den * 2 ^ (n + e) := by
  rw [zpow_add₀ two_ne_zero, zpow_natCast]
  push_cast
  ring

theorem nearest_significand_le (hNum : 0 < num) (hDen : 0 < den) :
    (nearest num den).significand ≤ 2 ^ 53 := by
  have hScaled : num * Nat.pow 2 (-lastPlace num den).toNat ≤
      2 ^ 53 * den * Nat.pow 2 (lastPlace num den).toNat := by
    rw [le_scaled_iff, cast_two_pow_mul]
    refine (log2Quotient_spec hNum hDen).2.le.trans ?_
    have hPlace : log2Quotient num den - 52 ≤ lastPlace num den := Int.le_max_left _ _
    have hPow : (2 : ℚ) ^ (log2Quotient num den + 1) ≤ 2 ^ ((53 : Nat) + lastPlace num den) :=
      zpow_le_zpow_right₀ one_le_two (by omega)
    exact mul_le_mul_of_nonneg_left hPow (Nat.cast_nonneg den)
  rw [Nat.mul_assoc] at hScaled
  rw [significand_nearest]
  exact_mod_cast roundDiv_le (Nat.mul_pos hDen (Nat.two_pow_pos _)) hScaled

theorem le_nearest_significand (hNum : 0 < num) (hDen : 0 < den)
    (hPlace : -1074 < lastPlace num den) : 2 ^ 52 ≤ (nearest num den).significand := by
  have hExact : lastPlace num den = log2Quotient num den - 52 := by
    rw [lastPlace] at hPlace ⊢
    omega
  have hScaled : 2 ^ 52 * den * Nat.pow 2 (lastPlace num den).toNat ≤
      num * Nat.pow 2 (-lastPlace num den).toNat := by
    rw [scaled_le_iff, cast_two_pow_mul, hExact]
    convert (log2Quotient_spec hNum hDen).1 using 3
    omega
  rw [Nat.mul_assoc] at hScaled
  rw [significand_nearest]
  exact_mod_cast le_roundDiv (Nat.mul_pos hDen (Nat.two_pow_pos _)) hScaled

theorem log2Quotient_mono {a b : Nat} (ha : 0 < a) (hDen : 0 < den) (h : a ≤ b) :
    log2Quotient a den ≤ log2Quotient b den := by
  by_contra hBack
  have hPow : (2 : ℚ) ^ (log2Quotient b den + 1) ≤ 2 ^ log2Quotient a den :=
    zpow_le_zpow_right₀ one_le_two (by omega)
  have hBelow : (b : ℚ) < a :=
    calc (b : ℚ) < den * 2 ^ (log2Quotient b den + 1) :=
          (log2Quotient_spec (ha.trans_le h) hDen).2
      _ ≤ den * 2 ^ log2Quotient a den :=
          mul_le_mul_of_nonneg_left hPow (Nat.cast_nonneg den)
      _ ≤ a := (log2Quotient_spec ha hDen).1
  exact absurd h (by exact_mod_cast hBelow.not_ge)

theorem toRat_nearest_nonneg : 0 ≤ (nearest num den).toRat := by
  have hSignificand : (0 : ℚ) ≤ (nearest num den).significand := by
    exact_mod_cast nearest_significand_nonneg
  exact mul_nonneg hSignificand (by positivity)

theorem nearest_mono {a b : Nat} (hDen : 0 < den) (h : a ≤ b) :
    (nearest a den).toRat ≤ (nearest b den).toRat := by
  rcases Nat.eq_zero_or_pos a with rfl | ha
  · rw [nearest_zero]
    exact toRat_nearest_nonneg
  have hb := ha.trans_le h
  have hPlaces : lastPlace a den ≤ lastPlace b den :=
    max_le_max (by have := log2Quotient_mono ha hDen h; omega) (Int.le_refl _)
  have hScale (e : Int) : (0 : ℚ) ≤ 2 ^ e := by positivity
  rcases Int.lt_or_eq_of_le hPlaces with hPlace | hPlace
  · -- a power of two lies between the two values
    have hLow : ((nearest a den).significand : ℚ) ≤ 2 ^ (53 : Int) := by
      exact_mod_cast nearest_significand_le ha hDen
    have hHigh : (2 : ℚ) ^ (52 : Int) ≤ (nearest b den).significand := by
      exact_mod_cast le_nearest_significand hb hDen (lastPlace_ge.trans_lt hPlace)
    calc (nearest a den).toRat ≤ 2 ^ (53 : Int) * 2 ^ lastPlace a den :=
          mul_le_mul_of_nonneg_right hLow (hScale _)
      _ ≤ 2 ^ (52 : Int) * 2 ^ lastPlace b den := by
          rw [← zpow_add₀ two_ne_zero, ← zpow_add₀ two_ne_zero]
          exact zpow_le_zpow_right₀ one_le_two (by omega)
      _ ≤ (nearest b den).toRat := mul_le_mul_of_nonneg_right hHigh (hScale _)
  · have hSignificand : (nearest a den).significand ≤ (nearest b den).significand := by
      rw [significand_nearest, significand_nearest, hPlace]
      exact_mod_cast roundDiv_mono _ (Nat.mul_le_mul_right _ h)
    simp only [toRat]
    change _ * (2 : ℚ) ^ lastPlace a den ≤ _ * (2 : ℚ) ^ lastPlace b den
    rw [hPlace]
    exact mul_le_mul_of_nonneg_right (by exact_mod_cast hSignificand) (hScale _)

theorem toRat_nearest_of_scaled {m : Nat} (hDen : 0 < den)
    (h : num * Nat.pow 2 (-lastPlace num den).toNat =
      m * (den * Nat.pow 2 (lastPlace num den).toNat)) :
    (nearest num den).toRat = m * 2 ^ lastPlace num den := by
  have hPos : 0 < den * Nat.pow 2 (lastPlace num den).toNat :=
    Nat.mul_pos hDen (Nat.two_pow_pos _)
  rw [toRat, significand_nearest, h, roundDiv_mul m hPos]
  rfl

/-- An integer of at most 53 binary digits is its own float. -/
theorem nearest_mul {t n : Nat} (hn : 0 < n) (ht : t ≤ 2 ^ 53) : (nearest (t * n) n).toRat = t := by
  rcases Nat.eq_zero_or_pos t with rfl | hPos
  · rw [Nat.zero_mul, nearest_zero, Nat.cast_zero]
  by_cases hPlace : lastPlace (t * n) n ≤ 0
  · have hScaled : t * n * Nat.pow 2 (-lastPlace (t * n) n).toNat =
        t * 2 ^ (-lastPlace (t * n) n).toNat * (n * Nat.pow 2 (lastPlace (t * n) n).toNat) := by
      rw [Int.toNat_of_nonpos hPlace, Nat.pow_eq, Nat.pow_eq]
      ring
    rw [toRat_nearest_of_scaled hn hScaled, two_zpow_eq_div, Int.toNat_of_nonpos hPlace]
    push_cast
    field_simp
  · -- the only such integer with a last place above the units is the last one
    have hPow : (2 : ℚ) ^ log2Quotient (t * n) n ≤ t := by
      have hLow := (log2Quotient_spec (Nat.mul_pos hPos hn) hn).1
      rw [Nat.cast_mul, mul_comm] at hLow
      exact le_of_mul_le_mul_right hLow (Nat.cast_pos.mpr hn)
    have hLog : log2Quotient (t * n) n ≤ 53 := by
      have hTop : (2 : ℚ) ^ log2Quotient (t * n) n ≤ 2 ^ (53 : Int) :=
        hPow.trans (by exact_mod_cast ht)
      exact (zpow_le_zpow_iff_right₀ one_lt_two).mp hTop
    have hLogEq : log2Quotient (t * n) n = 53 := by
      rw [lastPlace] at hPlace
      omega
    have hPlaceEq : lastPlace (t * n) n = 1 := by
      rw [lastPlace, hLogEq]
      rfl
    have hTop : t = 2 ^ 53 := by
      rw [hLogEq] at hPow
      have : 2 ^ 53 ≤ t := by exact_mod_cast hPow
      omega
    have hScaled : t * n * Nat.pow 2 (-lastPlace (t * n) n).toNat =
        2 ^ 52 * (n * Nat.pow 2 (lastPlace (t * n) n).toNat) := by
      rw [hPlaceEq, hTop]
      change 2 ^ 53 * n * 1 = 2 ^ 52 * (n * 2)
      omega
    rw [toRat_nearest_of_scaled hn hScaled, hPlaceEq, hTop]
    norm_num

end Dyadic

/-- The integer part of the nearest float, with the sign of the quotient. -/
theorem truncNearest?_eq_some_iff {num m : Int} {den : Nat} :
    truncNearest? num den = some m ↔
      (Dyadic.nearest num.natAbs den).toRat < (Nat.pow 2 1024 : Nat) ∧
        num.sign * ⌊(Dyadic.nearest num.natAbs den).toRat⌋ = m := by
  have hSignificand : 0 ≤ (Dyadic.nearest num.natAbs den).significand :=
    Dyadic.nearest_significand_nonneg
  rw [← Dyadic.inRange_iff hSignificand, ← Dyadic.trunc_eq_floor hSignificand]
  simp only [truncNearest?]
  split
  · rename_i hRange
    rw [Option.some_inj, hRange, eq_self, true_and]
  · rename_i hRange
    exact ⟨nofun, fun h => absurd h.1 hRange⟩

theorem truncNearest?_zero (den : Nat) : truncNearest? 0 den = some 0 := by
  rw [truncNearest?_eq_some_iff, Int.natAbs_zero, Dyadic.nearest_zero, Int.sign_zero, zero_mul]
  generalize 1024 = k
  exact ⟨Nat.cast_pos.mpr (Nat.two_pow_pos k), rfl⟩

theorem truncNearest?_mono {a b m n : Int} {den : Nat} (hDen : 0 < den) (ha : 0 ≤ a) (h : a ≤ b)
    (hm : truncNearest? a den = some m) (hn : truncNearest? b den = some n) : m ≤ n := by
  obtain ⟨-, rfl⟩ := truncNearest?_eq_some_iff.mp hm
  obtain ⟨-, rfl⟩ := truncNearest?_eq_some_iff.mp hn
  have hFloor : ⌊(Dyadic.nearest a.natAbs den).toRat⌋ ≤ ⌊(Dyadic.nearest b.natAbs den).toRat⌋ :=
    Int.floor_le_floor (Dyadic.nearest_mono hDen (by omega))
  have hNonneg : 0 ≤ ⌊(Dyadic.nearest b.natAbs den).toRat⌋ :=
    Int.floor_nonneg.mpr Dyadic.toRat_nearest_nonneg
  rcases Int.lt_or_eq_of_le ha with hPos | rfl
  · rw [Int.sign_eq_one_of_pos hPos, Int.sign_eq_one_of_pos (hPos.trans_le h), one_mul, one_mul]
    exact hFloor
  · rw [Int.sign_zero, zero_mul]
    exact Int.mul_nonneg (Int.sign_nonneg_iff.mpr h) hNonneg

section

variable {t m : Int} {n : Nat} (hn : 0 < n)

include hn

theorem truncNearest?_mul (ht : t.natAbs ≤ 2 ^ 53) : truncNearest? (t * n) n = some t := by
  have hValue : (Dyadic.nearest (t * n).natAbs n).toRat = t.natAbs := by
    rw [Int.natAbs_mul, Int.natAbs_natCast, Dyadic.nearest_mul hn ht]
  rw [truncNearest?_eq_some_iff, hValue, Int.floor_natCast, Int.sign_mul,
    Int.sign_eq_one_of_pos (by omega : (0 : Int) < n), mul_one, Int.sign_mul_natAbs]
  have hLimit : 53 < 1024 := by decide
  generalize 1024 = k at hLimit ⊢
  exact ⟨Nat.cast_lt.mpr (ht.trans_lt (Nat.pow_lt_pow_right (by decide) hLimit)), rfl⟩

theorem truncNearest?_neg (ht : t < 0) (hm : truncNearest? (t * n) n = some m) : m < 0 := by
  obtain ⟨-, rfl⟩ := truncNearest?_eq_some_iff.mp hm
  have hOne : (1 : ℚ) ≤ (Dyadic.nearest (t * n).natAbs n).toRat :=
    calc (1 : ℚ) = (Dyadic.nearest (1 * n) n).toRat := by
          rw [Dyadic.nearest_mul hn (by decide), Nat.cast_one]
      _ ≤ _ := Dyadic.nearest_mono hn (by
          rw [Int.natAbs_mul, Int.natAbs_natCast]
          exact Nat.mul_le_mul_right n (by omega))
  have hFloor : 1 ≤ ⌊(Dyadic.nearest (t * n).natAbs n).toRat⌋ := Int.le_floor.mpr hOne
  rw [Int.sign_eq_neg_one_of_neg (Int.mul_neg_of_neg_of_pos ht (by omega))]
  omega

end

end TouchPath
