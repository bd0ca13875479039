import TouchPath.Proofs.Defaults
import TouchPath.Proofs.Pinch

/-! # Denominators of either sign

Half of a size is cut toward zero, and so is what a pinch takes off by a positive denominator. The
settings may give a negative one, by which it is raised away from zero (`truncDiv_rounds`).
-/
namespace TouchPath
set_option autoImplicit false

namespace Bounds

theorem center_eq_add (b : Bounds) :
    b.center = b.upperLeft + ⟨towardZero (b.width / 2), towardZero (b.height / 2)⟩ := by
  have hHalf (size : Int) : truncQuotient size 2 = towardZero (size / 2) :=
    truncQuotient_eq_towardZero size (by decide)
  rw [center, hHalf, hHalf]
  rfl

theorem inset_eq_towardZero_iff (b : Bounds) {denominator : Int} (h : denominator ≠ 0) :
    b.inset denominator =
        ⟨towardZero (b.width / denominator), towardZero (b.height / denominator)⟩ ↔
      0 < denominator ∨ denominator ∣ b.width ∧ denominator ∣ b.height := by
  rw [Point.ext_iff_coords, or_and_left]
  exact and_congr (truncQuotient_eq_towardZero_iff b.width h)
    (truncQuotient_eq_towardZero_iff b.height h)

end Bounds

theorem Registry.build_pinchIn {s : Settings} {params : Value} {es : Entries} {b : Bounds}
    {duration denominator : Int} (h : denominator ≠ 0)
    (hDenominator : s.pinchDenominator.toNumber = .ok (denominator : Number))
    (hMapping : params.opened = .dict es) (hBounds : Param.bounds params "bounds" = .ok b)
    (hDuration : Param.int params "duration" s.pinchDuration = .ok duration) :
    (standard s).build "pinch_in" params = .ok
      [⟨[.ofPoint (b.lowerRight - b.inset denominator) (0 : Int),
          .ofPoint b.center duration]⟩,
        ⟨[.ofPoint (b.upperLeft + b.inset denominator) (0 : Int),
          .ofPoint b.center duration]⟩] := by
  have hTime : Number.add (0 : Int) duration = .ok (duration : Number) := by
    rw [Number.add_int, Int.zero_add]
  rw [build_of_lookup hMapping rfl]
  simp only [Builder.pinchIn, hBounds, hDuration, hDenominator, ok_bind,
    pinchIn_eq hTime h]

/-- The quotient is less than one off the exact one, and odd in the value. It is cut toward zero by
a positive divisor and raised away from zero by a negative one. So what is left has the value's
sign by a positive divisor, and by a negative one only where nothing is left; there alone the
quotient is odd in the divisor as well. Centers cut, and a pinch does as the denominator in the
settings has it. -/
theorem truncDiv_rounds (value : Int) {divisor : Int} (h : divisor ≠ 0) :
    truncDiv value divisor = .ok ((truncQuotient value divisor : Int) : Number) ∧
    Leaves value divisor (value.sign * divisor.sign) (truncQuotient value divisor) ∧
    truncQuotient (-value) divisor = -truncQuotient value divisor ∧
    (divisor < 0 → truncQuotient value divisor = awayFromZero (value / divisor)) ∧
    (truncQuotient value divisor = towardZero (value / divisor) ↔ 0 < divisor ∨ divisor ∣ value) ∧
    (Leaves value divisor value.sign (truncQuotient value divisor) ↔
      0 < divisor ∨ divisor ∣ value) ∧
    (truncQuotient value (-divisor) = -truncQuotient value divisor ↔ divisor ∣ value) ∧
    (∀ b : Bounds,
      b.center = b.upperLeft + ⟨towardZero (b.width / 2), towardZero (b.height / 2)⟩) ∧
    ∀ (s : Settings) (params : Value) (es : Entries) (b : Bounds) (duration : Int),
      s.pinchDenominator.toNumber = .ok (divisor : Number) → params.opened = .dict es →
      Param.bounds params "bounds" = .ok b →
      Param.int params "duration" s.pinchDuration = .ok duration →
      (Registry.standard s).build "pinch_in" params = .ok
        [⟨[.ofPoint (b.lowerRight - b.inset divisor) (0 : Int),
            .ofPoint b.center duration]⟩,
          ⟨[.ofPoint (b.upperLeft + b.inset divisor) (0 : Int),
            .ofPoint b.center duration]⟩] ∧
      (b.inset divisor = ⟨towardZero (b.width / divisor), towardZero (b.height / divisor)⟩ ↔
        0 < divisor ∨ divisor ∣ b.width ∧ divisor ∣ b.height) := by
  refine ⟨truncDiv_int value h, truncQuotient_leaves value h, truncQuotient_neg value divisor,
    truncQuotient_eq_awayFromZero value, truncQuotient_eq_towardZero_iff value h,
    truncQuotient_leaves_iff value h, truncQuotient_neg_divisor_iff value h, Bounds.center_eq_add,
    ?_⟩
  intro s params es b duration hDenominator hMapping hBounds hDuration
  exact ⟨Registry.build_pinchIn h hDenominator hMapping hBounds hDuration,
    b.inset_eq_towardZero_iff h⟩

/-- Of minus seven, two leaves minus one and minus two leaves one. So by minus two both fingers of a
pinch start four pixels outside a rectangle of seven by minus seven. -/
theorem truncDiv_rounds_sevens :
    Leaves (-7) 2 (-1) (truncQuotient (-7) 2) ∧
    ¬ Leaves (-7) (-2) (-1) (truncQuotient (-7) (-2)) ∧
    truncQuotient (-7) (-2) = awayFromZero ((-7 : Int) / (-2 : Int)) ∧
    (Registry.standard { pinchDenominator := .int (-2) }).build "pinch_in"
        (.dict [(.text "bounds", .text "[0,0][7,-7]")]) =
      .ok [⟨[.ofPoint ⟨11, -11⟩ (0 : Int), .ofPoint ⟨3, -3⟩ (500 : Int)]⟩,
        ⟨[.ofPoint ⟨-4, 4⟩ (0 : Int), .ofPoint ⟨3, -3⟩ (500 : Int)]⟩] := by
  obtain ⟨_, _, _, _, _, hPositive, _⟩ := truncDiv_rounds (-7) (show (2 : Int) ≠ 0 by decide)
  obtain ⟨_, _, _, hAway, _, hNegative, _, _, hPinch⟩ :=
    truncDiv_rounds (-7) (show (-2 : Int) ≠ 0 by decide)
  refine ⟨hPositive.mpr (.inl (by decide)), fun hCut => ?_, hAway (by decide), ?_⟩
  · exact absurd (hNegative.mp hCut) (by decide)
  · exact (hPinch { pinchDenominator := .int (-2) } (.dict [(.text "bounds", .text "[0,0][7,-7]")])
      _ ⟨⟨0, 0⟩, 7, -7⟩ 500 rfl rfl rfl rfl).1

/-- By minus two seven gives minus four, which is not the exact quotient cut toward zero, leaves
minus one and is not what seven gives by two with the sign turned. -/
theorem truncDiv_negative_divisor :
    truncDiv 7 (-2 : Int) = .ok (-4 : Int) ∧ towardZero ((7 : Int) / (-2 : Int)) = -3 ∧
      ¬ Leaves 7 (-2) (Int.sign 7) (truncQuotient 7 (-2)) ∧
      truncQuotient 7 (-2) ≠ -truncQuotient 7 2 := by
  have hQuotient : truncDiv 7 (-2 : Int) = .ok (-4 : Int) := rfl
  have hCut : Leaves 7 (-2) (Int.sign 7) (-3) := ⟨by decide, by decide⟩
  refine ⟨hQuotient, ((leaves_iff_eq_towardZero 7 (by decide)).mp hCut).symm, fun hLeaves => ?_,
    by decide⟩
  exact absurd hLeaves.signed (by decide)

end TouchPath
