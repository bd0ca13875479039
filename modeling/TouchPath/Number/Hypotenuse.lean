/-! # Length of the hypotenuse

The squares of the sides are summed without loss: the sides are scaled by a power of two, a product
and a sum of floats are kept as pairs, and what the rounded sum has lost corrects the root once.
-/
namespace TouchPath
set_option autoImplicit false

/-- A float with what rounding has taken from it. -/
structure Paired where
  high : Float
  low : Float

namespace Paired

/-- Two halves of a float, short enough for their products to be exact. -/
def split (x : Float) : Paired :=
  let t := x * 134217729.0
  let high := t - (t - x)
  ⟨high, x - high⟩

def product (x y : Float) : Paired :=
  let a := split x
  let b := split y
  let p := a.high * b.high
  let q := a.high * b.low + a.low * b.high
  let z := p + q
  ⟨z, p - z + q + a.low * b.low⟩

def sum (x y : Float) : Paired :=
  let s := x + y
  ⟨s, x - s + y⟩

end Paired

structure SquareSum where
  total : Float := 1
  ofProducts : Float := 0
  ofSums : Float := 0

namespace SquareSum

def add (s : SquareSum) (x y : Float) : SquareSum :=
  let p := Paired.product x y
  let t := Paired.sum s.total p.high
  ⟨t.high, s.ofProducts + p.low, s.ofSums + t.low⟩

def value (s : SquareSum) : Float := s.total - 1 + (s.ofProducts + s.ofSums)

end SquareSum

def rootOfSquares (x y : Float) : Float :=
  let squares := (SquareSum.add {} x x).add y y
  let root := squares.value.sqrt
  root + (squares.add (-root) root).value / (2 * root)

/-- As `rootOfSquares`, of sides that are too small to be scaled by a power of two. -/
def rootOfQuotients (x y largest : Float) : Float :=
  let a := x / largest * (x / largest)
  let b := y / largest * (y / largest)
  let s := Paired.sum 1 a
  let t := Paired.sum s.high b
  (t.high - 1 + (s.low + t.low)).sqrt

/-- Length of the hypotenuse; an infinite side wins over an undefined one. -/
def hypot (x y : Float) : Float :=
  let a := x.abs
  let b := y.abs
  let largest := if a < b then b else a
  if a.isInf || b.isInf then 1.0 / 0.0
  else if a.isNaN || b.isNaN then 0.0 / 0.0
  else if largest == 0 then 0
  else
    let (_, exponent) := largest.frExp
    if exponent < -1023 then largest * rootOfQuotients a b largest
    else
      let scale := Float.scaleB 1 (-exponent)
      rootOfSquares (a * scale) (b * scale) / scale

end TouchPath
