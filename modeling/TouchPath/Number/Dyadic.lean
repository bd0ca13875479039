/-! # Exact binary values

A finite float is an integer times a power of two. Truncation, rounding to the even neighbour,
comparison with integers and decimal rounding are done on that exact value.
`Dyadic.nearest` is the float nearest to a quotient of two naturals, a tie going to the even
significand.
-/
namespace TouchPath
set_option autoImplicit false

/-- Quotient rounded to the nearest natural; a half goes to the even neighbour. -/
def roundDiv (num den : Nat) : Nat :=
  let q := num / den
  let r := num % den
  if 2 * r < den then q else if den < 2 * r then q + 1 else q + q % 2

theorem roundDiv_mul (n : Nat) {den : Nat} (h : 0 < den) : roundDiv (n * den) den = n := by
  simp [roundDiv, Nat.mul_div_cancel _ h, h]

structure Dyadic where
  significand : Int
  exponent : Int
  deriving DecidableEq, Repr, Inhabited

namespace Dyadic

def numerator (d : Dyadic) : Int := d.significand * Nat.pow 2 d.exponent.toNat

def denominator (d : Dyadic) : Nat := Nat.pow 2 (-d.exponent).toNat

theorem denominator_pos (d : Dyadic) : 0 < d.denominator := Nat.two_pow_pos _

def ofFloat? (x : Float) : Option Dyadic :=
  match x.toModel.unpack with
  | .zero _ => some ⟨0, 0⟩
  | .finite sign m e _ => some ⟨sign.apply m, e⟩
  | _ => none

theorem ofFloat?_isSome (x : Float) : (ofFloat? x).isSome = x.isFinite := by
  change _ = x.toModel.unpack.isFinite
  unfold ofFloat? Float.Model.UnpackedFloat.isFinite
  cases x.toModel.unpack <;> rfl

def trunc (d : Dyadic) : Int := d.numerator.tdiv d.denominator

def floor (d : Dyadic) : Int := d.numerator.fdiv d.denominator

/-- The nearest integer; a half goes to the even neighbour. -/
def round (d : Dyadic) : Int := d.numerator.sign * roundDiv d.numerator.natAbs d.denominator

/-- The floor, or the integer above it where that is nearer. -/
def snap (d : Dyadic) : Int :=
  let rest := d.numerator - d.floor * d.denominator
  if (d.denominator : Int) < 2 * rest then d.floor + 1 else d.floor

def neg (d : Dyadic) : Dyadic := ⟨-d.significand, d.exponent⟩

def leInt (d : Dyadic) (n : Int) : Bool := decide (d.numerator ≤ n * d.denominator)

def geInt (d : Dyadic) (n : Int) : Bool := decide (n * d.denominator ≤ d.numerator)

def decimalUnits (d : Dyadic) (places : Nat) : Nat :=
  roundDiv (d.numerator.natAbs * Nat.pow 10 places) d.denominator

def log2Quotient (num den : Nat) : Int :=
  let k : Int := (num.log2 : Int) - den.log2
  if den * Nat.pow 2 k.toNat ≤ num * Nat.pow 2 (-k).toNat then k else k - 1

/-- The exponent of the last of 53 binary digits of a quotient, or that of the least positive
float. -/
def lastPlace (num den : Nat) : Int := max (log2Quotient num den - 52) (-1074)

/-- The float nearest to a quotient of naturals, as far as its exponent range goes upward. -/
def nearest (num den : Nat) : Dyadic :=
  let e := lastPlace num den
  ⟨roundDiv (num * Nat.pow 2 (-e).toNat) (den * Nat.pow 2 e.toNat), e⟩

def nearestQuotient (d e : Dyadic) : Dyadic :=
  nearest (d.numerator.natAbs * e.denominator) (e.numerator.natAbs * d.denominator)

/-- Floor of a magnitude over the float `w`, computed in floats: the multiple of `w` below it, their
ratio and the step to the other side of zero are each rounded to a float, and the result to the
integer that it should be. -/
def floorQuotient (d w : Dyadic) : Int :=
  let num := d.numerator.natAbs * w.denominator
  let den := w.numerator.natAbs * d.denominator
  let ratio := (nearest (num / den * w.numerator.natAbs) w.denominator).nearestQuotient w
  if 0 < w.significand then ratio.snap
  else if num % den = 0 then ratio.neg.snap
  else
    (nearest (ratio.numerator.natAbs + ratio.denominator) ratio.denominator).neg.snap

/-- Whether the magnitude is below `2 ^ 1024`, the end of the range of floats. -/
def inRange (d : Dyadic) : Bool := decide (d.numerator.natAbs < Nat.pow 2 1024 * d.denominator)

end Dyadic

/-- The float nearest to `num / den`, cut to its integer part toward zero. Without a value when the
quotient is beyond the floats. -/
def truncNearest? (num : Int) (den : Nat) : Option Int :=
  let d := Dyadic.nearest num.natAbs den
  if d.inRange then some (num.sign * d.trunc) else none

end TouchPath
