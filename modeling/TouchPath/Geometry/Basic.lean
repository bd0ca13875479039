/-! # Points and rectangles of the screen

Coordinates are integers of any size. A rectangle is its upper-left corner with a width and a
height, which may be negative; the other corners and the center follow from these.
Moving the upper-left corner keeps the lower-right corner (`moveTo_lowerRight`).
-/
namespace TouchPath
set_option autoImplicit false

/-- Integer quotient of the magnitude, given back the sign of the value. -/
def truncQuotient (value divisor : Int) : Int :=
  let quotient := Int.fdiv value.natAbs divisor
  if 0 ≤ value then quotient else -quotient

structure Point where
  x : Int
  y : Int
  deriving DecidableEq, Repr, Inhabited

namespace Point

def add (p q : Point) : Point := ⟨p.x + q.x, p.y + q.y⟩

def sub (p q : Point) : Point := ⟨p.x - q.x, p.y - q.y⟩

instance : Add Point := ⟨add⟩
instance : Sub Point := ⟨sub⟩

@[simp] theorem add_x (p q : Point) : (p + q).x = p.x + q.x := rfl
@[simp] theorem add_y (p q : Point) : (p + q).y = p.y + q.y := rfl
@[simp] theorem sub_x (p q : Point) : (p - q).x = p.x - q.x := rfl
@[simp] theorem sub_y (p q : Point) : (p - q).y = p.y - q.y := rfl

theorem ext_iff_coords {p q : Point} : p = q ↔ p.x = q.x ∧ p.y = q.y := by
  cases p; cases q; simp

end Point

structure Bounds where
  upperLeft : Point
  width : Int
  height : Int
  deriving DecidableEq, Repr, Inhabited

namespace Bounds

/-- The rectangle spanned by two corners; swapped corners give negative sizes. -/
def ofCorners (upperLeft lowerRight : Point) : Bounds :=
  ⟨upperLeft, lowerRight.x - upperLeft.x, lowerRight.y - upperLeft.y⟩

def upperRight (b : Bounds) : Point := ⟨b.upperLeft.x + b.width, b.upperLeft.y⟩

def lowerLeft (b : Bounds) : Point := ⟨b.upperLeft.x, b.upperLeft.y + b.height⟩

def lowerRight (b : Bounds) : Point := ⟨b.upperLeft.x + b.width, b.upperLeft.y + b.height⟩

def corners (b : Bounds) : List Point := [b.upperLeft, b.upperRight, b.lowerRight, b.lowerLeft]

/-- Integer midpoint; the half sizes are cut toward zero. -/
def center (b : Bounds) : Point :=
  ⟨b.upperLeft.x + truncQuotient b.width 2, b.upperLeft.y + truncQuotient b.height 2⟩

def area (b : Bounds) : Int := b.width * b.height

@[simp] theorem ofCorners_upperLeft (p q : Point) : (ofCorners p q).upperLeft = p := rfl

@[simp] theorem ofCorners_lowerRight (p q : Point) : (ofCorners p q).lowerRight = q := by
  cases p; cases q; simp only [ofCorners, lowerRight, Point.mk.injEq]; omega

@[simp] theorem ofCorners_self (b : Bounds) : ofCorners b.upperLeft b.lowerRight = b := by
  rcases b with ⟨⟨x, y⟩, w, h⟩
  simp only [ofCorners, lowerRight, mk.injEq, true_and]; omega

/-- A point lies in a rectangle when it is between the two corners, edges included. -/
def containsPoint (b : Bounds) (p : Point) : Bool :=
  (decide (b.upperLeft.x ≤ p.x) && decide (p.x ≤ b.lowerRight.x)) &&
    (decide (b.upperLeft.y ≤ p.y) && decide (p.y ≤ b.lowerRight.y))

/-- A rectangle lies in another when its upper-left corner does and its right and bottom edges
do not exceed the other's. -/
def containsBounds (b c : Bounds) : Bool :=
  b.containsPoint c.upperLeft && decide (c.lowerRight.x ≤ b.lowerRight.x) &&
    decide (c.lowerRight.y ≤ b.lowerRight.y)

instance : Membership Point Bounds := ⟨fun b p => b.containsPoint p = true⟩

theorem mem_iff {b : Bounds} {p : Point} : p ∈ b ↔
    (b.upperLeft.x ≤ p.x ∧ p.x ≤ b.lowerRight.x) ∧
      (b.upperLeft.y ≤ p.y ∧ p.y ≤ b.lowerRight.y) := by
  change b.containsPoint p = true ↔ _
  simp [containsPoint]

instance (b : Bounds) (p : Point) : Decidable (p ∈ b) :=
  inferInstanceAs (Decidable (b.containsPoint p = true))

instance : LE Bounds := ⟨fun c b => b.containsBounds c = true⟩

theorem le_iff {b c : Bounds} : c ≤ b ↔
    c.upperLeft ∈ b ∧ c.lowerRight.x ≤ b.lowerRight.x ∧ c.lowerRight.y ≤ b.lowerRight.y := by
  change b.containsBounds c = true ↔ _
  change _ ↔ b.containsPoint c.upperLeft = true ∧ _
  simp [containsBounds, and_assoc]

/-- Moves the upper-left corner while the lower-right corner stays where it is. -/
def moveTo (b : Bounds) (p : Point) : Bounds :=
  ⟨p, b.width - (p.x - b.upperLeft.x), b.height - (p.y - b.upperLeft.y)⟩

def resize (b : Bounds) (width height : Int) : Bounds := { b with width, height }

@[simp] theorem moveTo_lowerRight (b : Bounds) (p : Point) :
    (b.moveTo p).lowerRight = b.lowerRight := by
  simp only [moveTo, lowerRight, Point.mk.injEq]; omega

/-- A point of the screen as seen from the upper-left corner. -/
def relative (b : Bounds) (p : Point) : Point := p - b.upperLeft

/-- The point of the screen that a local point names. -/
def absolute (b : Bounds) (p : Point) : Point := b.upperLeft + p

def relativeBounds (b c : Bounds) : Bounds := ⟨b.relative c.upperLeft, c.width, c.height⟩

end Bounds
end TouchPath
