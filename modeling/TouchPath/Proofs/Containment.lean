import TouchPath.Proofs.Quotient

/-! # Containment of rectangles

A rectangle whose sizes are not negative is the set of its points: it lies in another when its
corners do, and when all of its points do. With a negative size it has no points, not even its
center, and does not lie in itself; still, lying in one another is transitive and antisymmetric
among rectangles of all sizes (`Bounds.containment_laws`).
-/
namespace TouchPath
set_option autoImplicit false

namespace Bounds

@[simp] theorem lowerRight_x (b : Bounds) : b.lowerRight.x = b.upperLeft.x + b.width := rfl

@[simp] theorem lowerRight_y (b : Bounds) : b.lowerRight.y = b.upperLeft.y + b.height := rfl

/-- The sizes are not negative. -/
def IsProper (b : Bounds) : Prop := 0 ≤ b.width ∧ 0 ≤ b.height

variable {a b c : Bounds}

theorem le_iff_coords : b ≤ a ↔
    (a.upperLeft.x ≤ b.upperLeft.x ∧ b.upperLeft.x ≤ a.lowerRight.x ∧
      b.lowerRight.x ≤ a.lowerRight.x) ∧
    a.upperLeft.y ≤ b.upperLeft.y ∧ b.upperLeft.y ≤ a.lowerRight.y ∧
      b.lowerRight.y ≤ a.lowerRight.y := by
  rw [le_iff, mem_iff]
  omega

theorem le_trans (h : c ≤ b) (k : b ≤ a) : c ≤ a := by
  rw [le_iff_coords] at *
  omega

theorem le_antisymm (h : b ≤ a) (k : a ≤ b) : a = b := by
  obtain ⟨⟨x, y⟩, w, h'⟩ := a
  obtain ⟨⟨x', y'⟩, w', h''⟩ := b
  rw [le_iff_coords] at h k
  simp only [lowerRight_x, lowerRight_y] at h k
  simp only [mk.injEq, Point.mk.injEq]
  omega

theorem le_self_iff : a ≤ a ↔ a.IsProper := by
  rw [le_iff_coords, IsProper, lowerRight_x, lowerRight_y]
  omega

theorem isProper_of_mem {p : Point} (h : p ∈ a) : a.IsProper := by
  rw [mem_iff, lowerRight_x, lowerRight_y] at h
  rw [IsProper]
  omega

theorem upperLeft_mem_iff : a.upperLeft ∈ a ↔ a.IsProper := by
  rw [mem_iff, IsProper, lowerRight_x, lowerRight_y]
  omega

theorem lowerRight_mem_iff : a.lowerRight ∈ a ↔ a.IsProper := by
  rw [mem_iff, IsProper, lowerRight_x, lowerRight_y]
  omega

theorem half_between {size : Int} (h : 0 ≤ size) :
    0 ≤ truncQuotient size 2 ∧ truncQuotient size 2 ≤ size := by
  rw [truncQuotient_eq_tdiv size (by decide), Int.tdiv_eq_ediv_of_nonneg h]
  omega

theorem center_mem_iff : a.center ∈ a ↔ a.IsProper := by
  constructor
  · exact isProper_of_mem
  · rintro ⟨hWidth, hHeight⟩
    have hx := half_between hWidth
    have hy := half_between hHeight
    rw [mem_iff]
    simp only [center, lowerRight_x, lowerRight_y]
    omega

theorem exists_mem_iff : (∃ p, p ∈ a) ↔ a.IsProper := by
  constructor
  · rintro ⟨p, hp⟩
    exact isProper_of_mem hp
  · intro h
    exact ⟨a.upperLeft, upperLeft_mem_iff.mpr h⟩

theorem forall_mem_corners_iff {P : Point → Prop} : (∀ p ∈ b.corners, P p) ↔
    P b.upperLeft ∧ P b.upperRight ∧ P b.lowerRight ∧ P b.lowerLeft := by
  simp [corners]

theorem le_iff_corners (hProper : b.IsProper) : b ≤ a ↔ ∀ p ∈ b.corners, p ∈ a := by
  obtain ⟨hWidth, hHeight⟩ := hProper
  simp only [forall_mem_corners_iff, le_iff_coords, mem_iff, upperRight, lowerLeft, lowerRight_x,
    lowerRight_y]
  omega

theorem mem_of_le (h : b ≤ a) {p : Point} (hp : p ∈ b) : p ∈ a := by
  rw [le_iff_coords] at h
  rw [mem_iff] at *
  omega

theorem le_iff_forall_mem (hProper : b.IsProper) : b ≤ a ↔ ∀ p ∈ b, p ∈ a := by
  constructor
  · exact fun h p => mem_of_le h
  · intro h
    -- two opposite corners are enough
    have hUpper := h b.upperLeft (upperLeft_mem_iff.mpr hProper)
    have hLower := h b.lowerRight (lowerRight_mem_iff.mpr hProper)
    rw [mem_iff] at hLower
    rw [le_iff]
    exact ⟨hUpper, hLower.1.2, hLower.2.2⟩

/-- Rectangles of any sizes are ordered by lying in one another, but for reflexivity: those of
negative size have no points and do not lie in themselves. A rectangle that has points lies in
another with its corners, and with its points. -/
theorem containment_laws :
    (∀ a b c : Bounds, b ≤ a → c ≤ b → c ≤ a) ∧
    (∀ a b : Bounds, b ≤ a → a ≤ b → a = b) ∧
    (∀ a : Bounds, (a ≤ a ↔ a.IsProper) ∧ (a.center ∈ a ↔ a.IsProper) ∧
      ((∃ p, p ∈ a) ↔ a.IsProper)) ∧
    ∀ a b : Bounds, b.IsProper →
      (b ≤ a ↔ ∀ p ∈ b.corners, p ∈ a) ∧ (b ≤ a ↔ ∀ p ∈ b, p ∈ a) := by
  refine ⟨?_, ?_, ?_, ?_⟩
  · exact fun a b c hab hbc => le_trans hbc hab
  · exact fun a b hab hba => le_antisymm hab hba
  · exact fun a => ⟨le_self_iff, center_mem_iff, exists_mem_iff⟩
  · exact fun a b hProper => ⟨le_iff_corners hProper, le_iff_forall_mem hProper⟩

/-- A rectangle of negative width lies in another one and in all around it, though not in itself. -/
theorem containment_laws_swapped :
    (⟨⟨4, 4⟩, -3, 2⟩ : Bounds) ≤ ⟨⟨0, 0⟩, 9, 9⟩ ∧ ¬(⟨⟨4, 4⟩, -3, 2⟩ : Bounds) ≤ ⟨⟨4, 4⟩, -3, 2⟩ ∧
      ∀ p ∈ (⟨⟨2, 2⟩, 5, 5⟩ : Bounds).corners, p ∈ (⟨⟨0, 0⟩, 9, 9⟩ : Bounds) := by
  obtain ⟨hTrans, _, hSelf, hCorners⟩ := containment_laws
  have hOuter : (⟨⟨2, 2⟩, 5, 5⟩ : Bounds) ≤ ⟨⟨0, 0⟩, 9, 9⟩ := by
    rw [le_iff_coords]
    decide
  have hInner : (⟨⟨4, 4⟩, -3, 2⟩ : Bounds) ≤ ⟨⟨2, 2⟩, 5, 5⟩ := by
    rw [le_iff_coords]
    decide
  refine ⟨hTrans _ _ _ hOuter hInner, ?_, ?_⟩
  · rw [(hSelf _).1, IsProper]
    decide
  · exact (hCorners _ _ ⟨by decide, by decide⟩).1.mp hOuter

end Bounds
end TouchPath
