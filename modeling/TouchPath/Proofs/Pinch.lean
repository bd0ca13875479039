import TouchPath.Proofs.Containment
import TouchPath.Proofs.Shape

/-! # Fingers of a pinch

By a denominator of two or more at most half of each size is taken off at each end. So the fingers
of a pinch start between their corners and the center, whatever the signs of the sizes, and stand
opposite to one another about the middle of the rectangle, which may lie between pixels
(`pinch_meets`).
-/
namespace TouchPath
set_option autoImplicit false

/-- A coordinate comes before another, or with it, in the direction of a size. -/
def Along (size a b : Int) : Prop := (0 ≤ size → a ≤ b) ∧ (size ≤ 0 → b ≤ a)

theorem truncQuotient_le_half {size denominator : Int} (hSize : 0 ≤ size) (h : 2 ≤ denominator) :
    0 ≤ truncQuotient size denominator ∧ truncQuotient size denominator ≤ truncQuotient size 2 ∧
      2 * truncQuotient size 2 ≤ size := by
  have hPos : 0 < denominator := by omega
  rw [truncQuotient_eq_tdiv size hPos.le, truncQuotient_eq_tdiv size (by decide),
    Int.tdiv_eq_ediv_of_nonneg hSize, Int.tdiv_eq_ediv_of_nonneg hSize]
  have hNonneg : 0 ≤ size / denominator := Int.ediv_nonneg hSize hPos.le
  have hWhole : size / denominator * denominator ≤ size := Int.ediv_mul_le size hPos.ne'
  have hTwice : size / denominator * 2 ≤ size / denominator * denominator :=
    Int.mul_le_mul_of_nonneg_left h hNonneg
  omega

theorem inset_along (corner size : Int) {denominator : Int} (h : 2 ≤ denominator) :
    [corner, corner + truncQuotient size denominator, corner + truncQuotient size 2,
      corner + size - truncQuotient size denominator, corner + size].IsChain (Along size) := by
  simp only [List.isChain_cons_cons, List.isChain_singleton, and_true, Along]
  rcases Int.le_total 0 size with hSize | hSize
  · obtain ⟨hNonneg, hHalf, hRest⟩ := truncQuotient_le_half hSize h
    omega
  · -- the other way round for the size with its sign turned
    obtain ⟨hNonneg, hHalf, hRest⟩ := truncQuotient_le_half (Int.neg_nonneg_of_nonpos hSize) h
    simp only [truncQuotient_neg] at hNonneg hHalf hRest
    omega

namespace Bounds

def inset (b : Bounds) (denominator : Int) : Point :=
  ⟨truncQuotient b.width denominator, truncQuotient b.height denominator⟩

/-- The exact middle, which may lie between pixels. -/
def middle (b : Bounds) : ℚ × ℚ := (b.upperLeft.x + b.width / 2, b.upperLeft.y + b.height / 2)

/-- Two points lie opposite to one another, as far from the middle of a rectangle. -/
def Mirrors (b : Bounds) (p q : Point) : Prop :=
  p.x - b.middle.1 = b.middle.1 - q.x ∧ p.y - b.middle.2 = b.middle.2 - q.y

/-- Starts of two fingers that close on the center, the first from the lower-right corner and the
second from the upper-left one. -/
structure ClosesFrom (b : Bounds) (first second : Point) : Prop where
  horizontal :
    [b.upperLeft.x, second.x, b.center.x, first.x, b.lowerRight.x].IsChain (Along b.width)
  vertical :
    [b.upperLeft.y, second.y, b.center.y, first.y, b.lowerRight.y].IsChain (Along b.height)
  mirrored : b.Mirrors first second

theorem mirrors_of_add {b : Bounds} {p q : Point} (h : p + q = b.upperLeft + b.lowerRight) :
    b.Mirrors p q := by
  rw [Point.ext_iff_coords, Point.add_x, Point.add_x, Point.add_y, Point.add_y, lowerRight_x,
    lowerRight_y] at h
  obtain ⟨hx, hy⟩ := h
  have hx' : (p.x : ℚ) + q.x = b.upperLeft.x + (b.upperLeft.x + b.width) := by exact_mod_cast hx
  have hy' : (p.y : ℚ) + q.y = b.upperLeft.y + (b.upperLeft.y + b.height) := by exact_mod_cast hy
  constructor <;> dsimp only [middle] <;> linarith

theorem closesFrom_inset (b : Bounds) {denominator : Int} (h : 2 ≤ denominator) :
    b.ClosesFrom (b.lowerRight - b.inset denominator) (b.upperLeft + b.inset denominator) where
  horizontal := inset_along b.upperLeft.x b.width h
  vertical := inset_along b.upperLeft.y b.height h
  mirrored := by
    apply mirrors_of_add
    rw [Point.ext_iff_coords]
    simp only [Point.add_x, Point.add_y, Point.sub_x, Point.sub_y]
    omega

theorem ClosesFrom.inside {b : Bounds} {first second : Point} (h : b.ClosesFrom first second)
    (hProper : b.IsProper) : first ∈ b ∧ second ∈ b ∧ b.center ∈ b := by
  obtain ⟨hWidth, hHeight⟩ := hProper
  have hx := h.horizontal.imp fun _ _ hAlong => hAlong.1 hWidth
  have hy := h.vertical.imp fun _ _ hAlong => hAlong.1 hHeight
  simp only [List.isChain_cons_cons, List.isChain_singleton, and_true] at hx hy
  simp only [mem_iff]
  omega

end Bounds

variable {b : Bounds} {duration time : Number}

theorem pinchIn_eq (hTime : Number.add (0 : Int) duration = .ok time) {denominator : Int}
    (h : denominator ≠ 0) : pinchIn b duration denominator =
      .ok [⟨[.ofPoint (b.lowerRight - b.inset denominator) (0 : Int), .ofPoint b.center time]⟩,
        ⟨[.ofPoint (b.upperLeft + b.inset denominator) (0 : Int), .ofPoint b.center time]⟩] := by
  simp only [pinchIn, truncDiv_int _ h, ok_bind, Number.sub_int, Number.add_int, drag, hTime]
  rfl

theorem pinchOut_eq (hTime : Number.add (0 : Int) duration = .ok time) : pinchOut b duration =
    .ok [⟨[.ofPoint b.center (0 : Int), .ofPoint b.upperLeft time]⟩,
      ⟨[.ofPoint b.center (0 : Int), .ofPoint b.lowerRight time]⟩] := by
  simp only [pinchOut, drag, hTime, ok_bind]
  rfl

/-- The fingers of a pinch meet at the center, each coming from its corner, and spread from it to
the corners themselves. They move for as long as is asked. -/
theorem pinch_meets (b : Bounds) {denominator : Int} (h : 2 ≤ denominator) (duration : Number) :
    ∃ first second time, first = b.lowerRight - b.inset denominator ∧
      second = b.upperLeft + b.inset denominator ∧
      Number.add (0 : Int) duration = .ok time ∧ (∀ n : Int, duration = n → time = n) ∧
      pinchIn b duration denominator =
        .ok [⟨[.ofPoint first (0 : Int), .ofPoint b.center time]⟩,
          ⟨[.ofPoint second (0 : Int), .ofPoint b.center time]⟩] ∧
      b.ClosesFrom first second ∧
      (b.IsProper → first ∈ b ∧ second ∈ b ∧ b.center ∈ b) ∧
      pinchOut b duration =
        .ok [⟨[.ofPoint b.center (0 : Int), .ofPoint b.upperLeft time]⟩,
          ⟨[.ofPoint b.center (0 : Int), .ofPoint b.lowerRight time]⟩] := by
  obtain ⟨time, hTime⟩ := duration.exists_zero_add
  have hCloses := b.closesFrom_inset h
  refine ⟨_, _, time, rfl, rfl, hTime, ?_, pinchIn_eq hTime (by omega), hCloses, hCloses.inside,
    pinchOut_eq hTime⟩
  rintro n rfl
  rw [Number.add_int, Int.zero_add] at hTime
  exact (Except.ok.inj hTime).symm

theorem pinch_meets_turned :
    pinchIn ⟨⟨4, 4⟩, -7, 5⟩ (.int 500) (3 : Int) =
        .ok [⟨[.ofPoint ⟨-1, 8⟩ (0 : Int), .ofPoint ⟨1, 6⟩ (500 : Int)]⟩,
          ⟨[.ofPoint ⟨2, 5⟩ (0 : Int), .ofPoint ⟨1, 6⟩ (500 : Int)]⟩] ∧
      Bounds.ClosesFrom ⟨⟨4, 4⟩, -7, 5⟩ ⟨-1, 8⟩ ⟨2, 5⟩ := by
  obtain ⟨first, second, time, hFirst, hSecond, _, hTime, hPinch, hCloses, _, _⟩ :=
    pinch_meets ⟨⟨4, 4⟩, -7, 5⟩ (show (2 : Int) ≤ 3 by decide) (.int 500)
  have hFirst' : first = ⟨-1, 8⟩ := hFirst.trans (by decide)
  have hSecond' : second = ⟨2, 5⟩ := hSecond.trans (by decide)
  rw [hFirst', hSecond', hTime 500 rfl] at hPinch
  rw [hFirst', hSecond'] at hCloses
  exact ⟨hPinch, hCloses⟩

end TouchPath
