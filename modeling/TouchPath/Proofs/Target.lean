import TouchPath.Proofs.Containment
import TouchPath.Proofs.Writable
import TouchPath.Shape

/-! # Points to tap

A point given from the upper-left corner is tapped exactly when it lies in the rectangle, and is
refused otherwise. The center is tapped without being looked at, so in a rectangle of a negative
size a point outside is tapped (`Bounds.tapPoint_ends`).
-/
namespace TouchPath
set_option autoImplicit false

namespace Bounds

variable {b : Bounds} {r : Point}

/-- A point given from the upper-left corner lies within the sizes. -/
def Reaches (b : Bounds) (r : Point) : Prop :=
  (0 ≤ r.x ∧ r.x ≤ b.width) ∧ 0 ≤ r.y ∧ r.y ≤ b.height

instance (b : Bounds) (r : Point) : Decidable (b.Reaches r) :=
  inferInstanceAs (Decidable ((0 ≤ r.x ∧ r.x ≤ b.width) ∧ 0 ≤ r.y ∧ r.y ≤ b.height))

theorem absolute_mem_iff : b.absolute r ∈ b ↔ b.Reaches r := by
  rw [mem_iff, Reaches, lowerRight_x, lowerRight_y]
  change (b.upperLeft.x ≤ b.upperLeft.x + r.x ∧ b.upperLeft.x + r.x ≤ b.upperLeft.x + b.width) ∧
    (b.upperLeft.y ≤ b.upperLeft.y + r.y ∧ b.upperLeft.y + r.y ≤ b.upperLeft.y + b.height) ↔ _
  omega

theorem tapPoint_some (b : Bounds) (r : Point) :
    b.tapPoint (some r) =
      if b.Reaches r then .ok (b.upperLeft + r) else fail (.outsideBounds r b) := by
  by_cases h : b.Reaches r
  · have hMem : b.containsPoint (b.absolute r) = true := absolute_mem_iff.mpr h
    rw [if_pos h, tapPoint, if_pos hMem]
    rfl
  · have hMem : ¬ b.containsPoint (b.absolute r) = true := fun hMem => h (absolute_mem_iff.mp hMem)
    rw [if_neg h, tapPoint, if_neg hMem]

theorem mem_of_tapPoint_some {p : Point} (h : b.tapPoint (some r) = .ok p) : p ∈ b := by
  rw [tapPoint_some] at h
  split at h
  · rename_i hReaches
    cases h
    exact absolute_mem_iff.mpr hReaches
  · cases h

/-- Without a point the center is tapped. A point given from the upper-left corner is tapped when it
lies within the sizes, and otherwise refused by name as long as the message can be written. What is
tapped lies outside for the center of a negative size, and never else. -/
theorem tapPoint_ends (b : Bounds) :
    b.tapPoint none = .ok b.center ∧
    (∀ r, b.tapPoint (some r) =
      if b.Reaches r then .ok (b.upperLeft + r)
      else if r.IsWritable ∧ b.upperLeft.IsWritable ∧ b.lowerRight.IsWritable then
        .error (.outsideBounds r b)
      else .error .badValue) ∧
    ∀ relative, (∃ p, b.tapPoint relative = .ok p ∧ p ∉ b) ↔ relative = none ∧ ¬ b.IsProper := by
  refine ⟨rfl, fun r => ?_, fun relative => ?_⟩
  · rw [tapPoint_some, fail_outsideBounds]
  · cases relative with
    | none =>
      rw [← center_mem_iff]
      constructor
      · rintro ⟨p, hp, hOutside⟩
        cases hp
        exact ⟨rfl, hOutside⟩
      · rintro ⟨_, hOutside⟩
        exact ⟨b.center, rfl, hOutside⟩
    | some r =>
      constructor
      · rintro ⟨p, hp, hOutside⟩
        exact absurd (mem_of_tapPoint_some hp) hOutside
      · rintro ⟨hNone, _⟩
        cases hNone

theorem tapPoint_outside :
    (⟨⟨4, 4⟩, -3, 2⟩ : Bounds).tapPoint none = .ok ⟨3, 5⟩ ∧
      (⟨3, 5⟩ : Point) ∉ (⟨⟨4, 4⟩, -3, 2⟩ : Bounds) :=
  ⟨rfl, by decide⟩

end Bounds
end TouchPath
