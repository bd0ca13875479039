import Mathlib.Data.Rat.Floor
import TouchPath.Geometry.Basic

/-! # Quotients of magnitudes

A quotient is the floor of the magnitude of a value over the divisor, with the sign of the value. By
a positive divisor it is cut toward zero. By a negative one the floor lies on the far side of the
exact quotient, so it is raised away from zero (`truncQuotient_eq_awayFromZero`). What it leaves of
the value has the value's sign in the first case and the opposite one in the second
(`truncQuotient_leaves`); both agree exactly on the multiples of the divisor.
-/
namespace TouchPath
set_option autoImplicit false

theorem truncQuotient_of_nonneg {value : Int} (h : 0 ≤ value) (divisor : Int) :
    truncQuotient value divisor = value.fdiv divisor := by
  rw [truncQuotient, if_pos h, Int.natAbs_of_nonneg h]

theorem truncQuotient_neg (value divisor : Int) :
    truncQuotient (-value) divisor = -truncQuotient value divisor := by
  rcases Int.lt_trichotomy value 0 with hNeg | rfl | hPos
  · rw [truncQuotient, truncQuotient, if_pos (by omega), if_neg (by omega), Int.natAbs_neg,
      Int.neg_neg]
  · rw [Int.neg_zero, truncQuotient_of_nonneg (Int.le_refl 0), Int.zero_fdiv, Int.neg_zero]
  · rw [truncQuotient, truncQuotient, if_neg (by omega), if_pos (by omega), Int.natAbs_neg]

theorem truncQuotient_eq_tdiv (value : Int) {divisor : Int} (h : 0 ≤ divisor) :
    truncQuotient value divisor = value.tdiv divisor := by
  rcases Int.le_total 0 value with hSign | hSign
  · rw [truncQuotient_of_nonneg hSign, Int.fdiv_eq_tdiv_of_nonneg hSign h]
  · have hTurned : 0 ≤ -value := Int.neg_nonneg_of_nonpos hSign
    rw [← Int.neg_inj, ← truncQuotient_neg, ← Int.neg_tdiv, truncQuotient_of_nonneg hTurned,
      Int.fdiv_eq_tdiv_of_nonneg hTurned h]

/-- Less than the divisor is left of a value, and if anything, it has a given sign. -/
structure Leaves (value divisor sign quotient : Int) : Prop where
  small : |value - quotient * divisor| < |divisor|
  signed : value - quotient * divisor = 0 ∨ (value - quotient * divisor).sign = sign

namespace Leaves

variable {value divisor sign quotient other : Int}

theorem neg (h : Leaves value divisor sign quotient) :
    Leaves (-value) divisor (-sign) (-quotient) := by
  have hRest : -value - -quotient * divisor = -(value - quotient * divisor) := by
    rw [Int.neg_mul]
    omega
  constructor
  · rw [hRest, abs_neg]
    exact h.small
  · rw [hRest, Int.neg_eq_zero, Int.sign_neg, Int.neg_inj]
    exact h.signed

theorem neg_divisor (h : Leaves value divisor sign quotient) :
    Leaves value (-divisor) sign (-quotient) := by
  constructor
  · rw [Int.neg_mul_neg, abs_neg]
    exact h.small
  · rw [Int.neg_mul_neg]
    exact h.signed

theorem divisor_ne_zero (h : Leaves value divisor sign quotient) : divisor ≠ 0 :=
  abs_pos.mp ((abs_nonneg _).trans_lt h.small)

theorem rest_nonneg (h : Leaves value divisor sign quotient) (hSign : 0 ≤ sign) :
    0 ≤ value - quotient * divisor := by
  rcases h.signed with hZero | hEq
  · exact hZero.ge
  · exact Int.sign_nonneg_iff.mp (hSign.trans_eq hEq.symm)

theorem rest_nonpos (h : Leaves value divisor sign quotient) (hSign : sign ≤ 0) :
    value - quotient * divisor ≤ 0 := by
  rcases h.signed with hZero | hEq
  · exact hZero.le
  · exact Int.sign_nonpos_iff.mp (hEq.trans_le hSign)

theorem rest_eq_zero (h : Leaves value divisor sign quotient) (hDvd : divisor ∣ value) :
    value - quotient * divisor = 0 := by
  have hRest : divisor ∣ value - quotient * divisor := Int.dvd_sub hDvd (Int.dvd_mul_left _ _)
  exact Int.eq_zero_of_abs_lt_dvd ((abs_dvd _ _).mpr hRest) h.small

theorem of_dvd (h : Leaves value divisor sign quotient) (hDvd : divisor ∣ value) (sign' : Int) :
    Leaves value divisor sign' quotient :=
  ⟨h.small, .inl (h.rest_eq_zero hDvd)⟩

/-- What could have both signs is nothing. -/
theorem dvd_of_opposite (h : Leaves value divisor sign quotient)
    (hOpposite : Leaves value divisor (-sign) quotient) : divisor ∣ value := by
  have hZero : value - quotient * divisor = 0 := by
    rcases Int.le_total 0 sign with hSign | hSign
    · have hNonneg := h.rest_nonneg hSign
      have hNonpos := hOpposite.rest_nonpos (by omega)
      omega
    · have hNonpos := h.rest_nonpos hSign
      have hNonneg := hOpposite.rest_nonneg (by omega)
      omega
  exact ⟨quotient, by rw [Int.mul_comm]; omega⟩

/-- Two quotients that leave something of one sign are the same. -/
theorem unique (h : Leaves value divisor sign quotient) (hOther : Leaves value divisor sign other) :
    quotient = other := by
  -- the rests differ by a multiple of the divisor, and by less than it since their signs agree
  have hStep : divisor ∣ (value - other * divisor) - (value - quotient * divisor) :=
    ⟨quotient - other, by ring⟩
  have hClose : |(value - other * divisor) - (value - quotient * divisor)| < |divisor| := by
    have hSmall := abs_lt.mp h.small
    have hSmallOther := abs_lt.mp hOther.small
    rw [abs_lt]
    rcases Int.le_total 0 sign with hSign | hSign
    · have hRest := h.rest_nonneg hSign
      have hRestOther := hOther.rest_nonneg hSign
      omega
    · have hRest := h.rest_nonpos hSign
      have hRestOther := hOther.rest_nonpos hSign
      omega
  have hZero := Int.eq_zero_of_abs_lt_dvd ((abs_dvd _ _).mpr hStep) hClose
  have hProduct : quotient * divisor = other * divisor := by omega
  exact Int.eq_of_mul_eq_mul_right h.divisor_ne_zero hProduct

end Leaves

variable (value : Int) {divisor : Int}

theorem fdiv_leaves_of_pos (h : 0 < divisor) : Leaves value divisor 1 (value.fdiv divisor) := by
  have hNonneg := Int.fmod_nonneg_of_pos value h
  have hLess := Int.fmod_lt_of_pos value h
  have hRest : value - value.fdiv divisor * divisor = value.fmod divisor := by
    rw [Int.fdiv_mul_self]
    omega
  constructor
  · rwa [hRest, abs_of_nonneg hNonneg, abs_of_pos h]
  · rw [hRest, Int.sign_eq_one_iff_pos]
    omega

theorem fdiv_leaves (h : divisor ≠ 0) :
    Leaves value divisor divisor.sign (value.fdiv divisor) := by
  rcases Int.lt_or_gt_of_ne h with hNeg | hPos
  · have hTurned := (fdiv_leaves_of_pos (-value) (Int.neg_pos_of_neg hNeg)).neg.neg_divisor
    rwa [Int.neg_fdiv_neg, Int.neg_neg, Int.neg_neg, Int.neg_neg,
      ← Int.sign_eq_neg_one_of_neg hNeg] at hTurned
  · rw [Int.sign_eq_one_of_pos hPos]
    exact fdiv_leaves_of_pos value hPos

/-- What is left has the value's sign when the divisor is positive, and the opposite one when it is
negative. -/
theorem truncQuotient_leaves (h : divisor ≠ 0) :
    Leaves value divisor (value.sign * divisor.sign) (truncQuotient value divisor) := by
  rcases Int.lt_trichotomy value 0 with hNeg | rfl | hPos
  · have hTurned := (fdiv_leaves (-value) h).neg
    rwa [← truncQuotient_of_nonneg (by omega), truncQuotient_neg, Int.neg_neg, Int.neg_neg,
      ← Int.neg_one_mul, ← Int.sign_eq_neg_one_of_neg hNeg] at hTurned
  · rw [truncQuotient_of_nonneg (Int.le_refl 0), Int.zero_fdiv]
    constructor
    · simpa using h
    · exact .inl (by omega)
  · rw [truncQuotient_of_nonneg hPos.le, Int.sign_eq_one_of_pos hPos, Int.one_mul]
    exact fdiv_leaves value h

def towardZero (x : ℚ) : Int := if 0 ≤ x then ⌊x⌋ else ⌈x⌉

def awayFromZero (x : ℚ) : Int := if 0 ≤ x then ⌈x⌉ else ⌊x⌋

section

variable {x : ℚ}

theorem towardZero_of_nonneg (h : 0 ≤ x) : towardZero x = ⌊x⌋ := if_pos h

theorem awayFromZero_of_nonneg (h : 0 ≤ x) : awayFromZero x = ⌈x⌉ := if_pos h

theorem towardZero_of_nonpos (h : x ≤ 0) : towardZero x = ⌈x⌉ := by
  rcases h.lt_or_eq with hNeg | rfl
  · exact if_neg hNeg.not_ge
  · decide

theorem awayFromZero_of_nonpos (h : x ≤ 0) : awayFromZero x = ⌊x⌋ := by
  rcases h.lt_or_eq with hNeg | rfl
  · exact if_neg hNeg.not_ge
  · decide

end

theorem fdiv_eq_floor_of_nonneg (h : 0 ≤ divisor) :
    value.fdiv divisor = ⌊(value / divisor : ℚ)⌋ := by
  obtain ⟨n, rfl⟩ := Int.eq_ofNat_of_zero_le h
  rw [Int.fdiv_eq_ediv_of_nonneg _ h, Int.cast_natCast, Rat.floor_intCast_div_natCast]

theorem fdiv_eq_floor (divisor : Int) : value.fdiv divisor = ⌊(value / divisor : ℚ)⌋ := by
  rcases Int.le_total 0 divisor with hSign | hSign
  · exact fdiv_eq_floor_of_nonneg value hSign
  · rw [← Int.neg_fdiv_neg, fdiv_eq_floor_of_nonneg (-value) (Int.neg_nonneg_of_nonpos hSign),
      Int.cast_neg, Int.cast_neg, neg_div_neg_eq]

theorem truncQuotient_eq_floor {value : Int} (h : 0 ≤ value) (divisor : Int) :
    truncQuotient value divisor = ⌊(value / divisor : ℚ)⌋ := by
  rw [truncQuotient_of_nonneg h, fdiv_eq_floor]

theorem truncQuotient_eq_ceil {value : Int} (h : value ≤ 0) (divisor : Int) :
    truncQuotient value divisor = ⌈(value / divisor : ℚ)⌉ := by
  have hTurned := truncQuotient_eq_floor (Int.neg_nonneg_of_nonpos h) divisor
  rw [truncQuotient_neg, Int.cast_neg, neg_div, Int.floor_neg] at hTurned
  exact Int.neg_inj.mp hTurned

theorem truncQuotient_eq_towardZero (h : 0 < divisor) :
    truncQuotient value divisor = towardZero (value / divisor) := by
  have hDivisor : (0 : ℚ) ≤ divisor := Int.cast_nonneg h.le
  rcases Int.le_total 0 value with hSign | hSign
  · have hValue : (0 : ℚ) ≤ value := Int.cast_nonneg hSign
    rw [truncQuotient_eq_floor hSign, towardZero_of_nonneg (div_nonneg hValue hDivisor)]
  · have hValue : (value : ℚ) ≤ 0 := Int.cast_nonpos.mpr hSign
    rw [truncQuotient_eq_ceil hSign,
      towardZero_of_nonpos (div_nonpos_of_nonpos_of_nonneg hValue hDivisor)]

theorem truncQuotient_eq_awayFromZero (h : divisor < 0) :
    truncQuotient value divisor = awayFromZero (value / divisor) := by
  have hDivisor : (divisor : ℚ) ≤ 0 := Int.cast_nonpos.mpr h.le
  rcases Int.le_total 0 value with hSign | hSign
  · have hValue : (0 : ℚ) ≤ value := Int.cast_nonneg hSign
    rw [truncQuotient_eq_floor hSign,
      awayFromZero_of_nonpos (div_nonpos_of_nonneg_of_nonpos hValue hDivisor)]
  · have hValue : (value : ℚ) ≤ 0 := Int.cast_nonpos.mpr hSign
    rw [truncQuotient_eq_ceil hSign, awayFromZero_of_nonneg (div_nonneg_of_nonpos hValue hDivisor)]

theorem towardZero_leaves (h : divisor ≠ 0) :
    Leaves value divisor value.sign (towardZero (value / divisor)) := by
  rcases Int.lt_or_gt_of_ne h with hNeg | hPos
  · -- with both signs turned the exact quotient is the same
    have hTurned : 0 < -divisor := Int.neg_pos_of_neg hNeg
    have hLeaves := (truncQuotient_leaves (-value) hTurned.ne').neg.neg_divisor
    rw [truncQuotient_eq_towardZero (-value) hTurned] at hLeaves
    simpa [Int.sign_eq_one_of_pos hTurned] using hLeaves
  · have hLeaves := truncQuotient_leaves value h
    rwa [truncQuotient_eq_towardZero value hPos, Int.sign_eq_one_of_pos hPos,
      Int.mul_one] at hLeaves

/-- The exact quotient is cut toward zero exactly when what is left has the sign of the value. -/
theorem leaves_iff_eq_towardZero (h : divisor ≠ 0) {quotient : Int} :
    Leaves value divisor value.sign quotient ↔ quotient = towardZero (value / divisor) := by
  have hCut := towardZero_leaves value h
  constructor
  · intro hLeaves
    exact hLeaves.unique hCut
  · rintro rfl
    exact hCut

theorem truncQuotient_leaves_iff (h : divisor ≠ 0) :
    Leaves value divisor value.sign (truncQuotient value divisor) ↔
      0 < divisor ∨ divisor ∣ value := by
  have hLeaves := truncQuotient_leaves value h
  constructor
  · intro hCut
    rcases Int.lt_or_gt_of_ne h with hNeg | hPos
    · rw [Int.sign_eq_neg_one_of_neg hNeg, Int.mul_neg_one] at hLeaves
      exact .inr (hCut.dvd_of_opposite hLeaves)
    · exact .inl hPos
  · rintro (hPos | hDvd)
    · rwa [Int.sign_eq_one_of_pos hPos, Int.mul_one] at hLeaves
    · exact hLeaves.of_dvd hDvd value.sign

theorem truncQuotient_eq_towardZero_iff (h : divisor ≠ 0) :
    truncQuotient value divisor = towardZero (value / divisor) ↔ 0 < divisor ∨ divisor ∣ value :=
  (leaves_iff_eq_towardZero value h).symm.trans (truncQuotient_leaves_iff value h)

theorem truncQuotient_neg_divisor_iff (h : divisor ≠ 0) :
    truncQuotient value (-divisor) = -truncQuotient value divisor ↔ divisor ∣ value := by
  have hLeaves := truncQuotient_leaves value h
  have hTurned := (truncQuotient_leaves value (Int.neg_ne_zero.mpr h)).neg_divisor
  rw [Int.neg_neg, Int.sign_neg, Int.mul_neg] at hTurned
  constructor
  · intro hEq
    rw [hEq, Int.neg_neg] at hTurned
    exact hLeaves.dvd_of_opposite hTurned
  · intro hDvd
    rw [hLeaves.unique (hTurned.of_dvd hDvd _), Int.neg_neg]

end TouchPath
