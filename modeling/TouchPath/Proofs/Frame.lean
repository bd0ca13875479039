import TouchPath.Proofs.Target

/-! # Local frames

Seen from the upper-left corner of another rectangle, a rectangle keeps its sizes and all that is
made of it moves along: its corners, its center, what lies in it and where it is tapped
(`Bounds.frame_faithful`). The center moves along because it cuts half of a size, and no coordinate.
-/
namespace TouchPath
set_option autoImplicit false

namespace Bounds

variable (f b c : Bounds) (p : Point)

@[simp] theorem relative_x : (f.relative p).x = p.x - f.upperLeft.x := rfl

@[simp] theorem relative_y : (f.relative p).y = p.y - f.upperLeft.y := rfl

@[simp] theorem absolute_relative : f.absolute (f.relative p) = p := by
  rw [Point.ext_iff_coords, absolute, Point.add_x, Point.add_y, relative_x, relative_y]
  omega

@[simp] theorem relative_absolute : f.relative (f.absolute p) = p := by
  rw [Point.ext_iff_coords, relative_x, relative_y, absolute, Point.add_x, Point.add_y]
  omega

@[simp] theorem relativeBounds_upperLeft :
    (f.relativeBounds b).upperLeft = f.relative b.upperLeft := rfl

/-- What is given from the upper-left corner moves along with it. -/
theorem absolute_relativeBounds (r : Point) :
    (f.relativeBounds b).absolute r = f.relative (b.absolute r) := by
  rw [Point.ext_iff_coords]
  simp only [absolute, relativeBounds_upperLeft, Point.add_x, Point.add_y, relative_x, relative_y]
  omega

@[simp] theorem relativeBounds_lowerRight :
    (f.relativeBounds b).lowerRight = f.relative b.lowerRight :=
  f.absolute_relativeBounds b ⟨b.width, b.height⟩

theorem relativeBounds_center : (f.relativeBounds b).center = f.relative b.center :=
  f.absolute_relativeBounds b ⟨truncQuotient b.width 2, truncQuotient b.height 2⟩

-- half of the way between the corners, cut toward zero, would be -1 instead of -2 here
example : ((⟨⟨5, 5⟩, 1, 1⟩ : Bounds).relativeBounds ⟨⟨2, 2⟩, 3, -3⟩).center = ⟨-2, -4⟩ := by decide

theorem relativeBounds_upperRight : (f.relativeBounds b).upperRight = f.relative b.upperRight := by
  have hx := congrArg Point.x (f.relativeBounds_lowerRight b)
  exact Point.ext_iff_coords.mpr ⟨hx, rfl⟩

theorem relativeBounds_lowerLeft : (f.relativeBounds b).lowerLeft = f.relative b.lowerLeft := by
  have hy := congrArg Point.y (f.relativeBounds_lowerRight b)
  exact Point.ext_iff_coords.mpr ⟨rfl, hy⟩

theorem relativeBounds_corners : (f.relativeBounds b).corners = b.corners.map f.relative := by
  rw [corners, relativeBounds_upperLeft, relativeBounds_upperRight, relativeBounds_lowerRight,
    relativeBounds_lowerLeft]
  rfl

theorem relative_mem_iff : f.relative p ∈ f.relativeBounds b ↔ p ∈ b := by
  simp only [mem_iff, relativeBounds_upperLeft, relativeBounds_lowerRight, relative_x, relative_y,
    Int.sub_le_sub_right_iff]

theorem relativeBounds_le_iff : f.relativeBounds c ≤ f.relativeBounds b ↔ c ≤ b := by
  simp only [le_iff, relativeBounds_upperLeft, relativeBounds_lowerRight, relative_mem_iff,
    relative_x, relative_y, Int.sub_le_sub_right_iff]

theorem tapPoint_relativeBounds (target : Option Point) :
    ((f.relativeBounds b).tapPoint target).toOption =
      (b.tapPoint target).toOption.map f.relative := by
  cases target with
  | none => exact congrArg some (f.relativeBounds_center b)
  | some r =>
    rw [tapPoint_some, tapPoint_some]
    by_cases hReaches : b.Reaches r
    · rw [if_pos hReaches, if_pos (show (f.relativeBounds b).Reaches r from hReaches)]
      exact congrArg some (f.absolute_relativeBounds b r)
    · rw [if_neg hReaches, if_neg (show ¬ (f.relativeBounds b).Reaches r from hReaches)]
      rfl

/-- A frame loses no point and makes none up. In it the corners, the center and the points to tap of
a rectangle are those of the screen moved along, and the same points and rectangles lie in it. -/
theorem frame_faithful (f : Bounds) :
    (∀ p, f.absolute (f.relative p) = p ∧ f.relative (f.absolute p) = p) ∧
    (∀ b, (f.relativeBounds b).corners = b.corners.map f.relative ∧
      (f.relativeBounds b).center = f.relative b.center) ∧
    (∀ b p, p ∈ b ↔ f.relative p ∈ f.relativeBounds b) ∧
    (∀ b c, c ≤ b ↔ f.relativeBounds c ≤ f.relativeBounds b) ∧
    ∀ b target, ((f.relativeBounds b).tapPoint target).toOption =
      (b.tapPoint target).toOption.map f.relative := by
  refine ⟨fun p => ?_, fun b => ?_, fun b p => ?_, fun b c => ?_, f.tapPoint_relativeBounds⟩
  · exact ⟨f.absolute_relative p, f.relative_absolute p⟩
  · exact ⟨f.relativeBounds_corners b, f.relativeBounds_center b⟩
  · exact (f.relative_mem_iff b p).symm
  · exact (f.relativeBounds_le_iff b c).symm

end Bounds
end TouchPath
