import TouchPath.Number.Dyadic

/-! # Shortest decimal text of a float

The fewest digits that read back to the same float, and of those the digits nearest to its value.
The candidates on a decimal grid are the two neighbours of the value; the first grid with a
candidate inside the interval of reals that round to the float wins. Exponents from -4 to 15 are
written positionally, with at least one digit after the point.
-/
namespace TouchPath
set_option autoImplicit false

/-- The reals that round to a positive float, in quarters of its last place. -/
structure Interval where
  low : Nat
  value : Nat
  high : Nat
  exponent : Int
  closed : Bool

namespace Interval

/-- Below a power of two the neighbouring floats are closer than above it. -/
def ofParts (m : Nat) (e : Int) : Interval :=
  let gap := if m = Nat.pow 2 52 && decide (-1074 < e) then 1 else 2
  ⟨4 * m - gap, 4 * m, 4 * m + 2, e - 2, m % 2 == 0⟩

def gridNum (i : Interval) (unit : Int) : Nat :=
  Nat.pow 2 i.exponent.toNat * Nat.pow 10 (-unit).toNat

def gridDen (i : Interval) (unit : Int) : Nat :=
  Nat.pow 2 (-i.exponent).toNat * Nat.pow 10 unit.toNat

def holds (i : Interval) (unit : Int) (c : Nat) : Bool :=
  let p := c * i.gridDen unit
  let low := i.low * i.gridNum unit
  let high := i.high * i.gridNum unit
  if i.closed then decide (low ≤ p) && decide (p ≤ high) else decide (low < p) && decide (p < high)

/-- The multiple of `10 ^ unit` inside the interval that is nearest to the value. -/
def onGrid? (i : Interval) (unit : Int) : Option Nat :=
  let num := i.value * i.gridNum unit
  let den := i.gridDen unit
  let below := num / den
  let rest := num % den
  match i.holds unit below, i.holds unit (below + 1) with
  | true, true =>
    if 2 * rest < den || (2 * rest == den && below % 2 == 0) then some below else some (below + 1)
  | true, false => some below
  | false, true => some (below + 1)
  | false, false => none

end Interval

def digitCount (n : Nat) : Nat := (Nat.toDigits 10 n).length

def log10Quotient (num den : Nat) : Int :=
  if den ≤ num then digitCount (num / den) - 1 else -(digitCount ((den - 1) / num) : Int)

structure Decimal where
  digits : Nat
  exponent : Int
  deriving DecidableEq, Repr

namespace Decimal

def shortest (m : Nat) (e : Int) : Decimal :=
  let i := Interval.ofParts m e
  let top := log10Quotient (m * Nat.pow 2 e.toNat) (Nat.pow 2 (-e).toNat)
  let unit (n : Nat) : Int := top - n
  match (List.range 17).findSome? fun n => (i.onGrid? (unit n)).map (Decimal.mk · (unit n)) with
  | some d => d
  | none => ⟨m, e⟩

/-- Place of the first digit: the number lies between `10 ^ leading` and `10 ^ (leading + 1)`. -/
def leading (d : Decimal) : Int := d.exponent + digitCount d.digits - 1

def significant (d : Decimal) : List Char :=
  ((Nat.toDigits 10 d.digits).reverse.dropWhile (· == '0')).reverse

def exponentText (k : Int) : List Char :=
  let ds := Nat.toDigits 10 k.natAbs
  (if k < 0 then '-' else '+') :: (List.replicate (2 - ds.length) '0' ++ ds)

/-- Positional from `10 ^ -4` up to below `10 ^ 16`, otherwise with an exponent. -/
def toText (d : Decimal) : List Char :=
  let ds := d.significant
  let k := d.leading
  if k < -4 || 16 ≤ k then
    ds.take 1 ++ (if ds.length ≤ 1 then [] else '.' :: ds.drop 1) ++ 'e' :: exponentText k
  else if k < 0 then
    '0' :: '.' :: (List.replicate (-k - 1).toNat '0' ++ ds)
  else
    let whole := ds.take (k.toNat + 1)
    let rest := ds.drop (k.toNat + 1)
    whole ++ List.replicate (k.toNat + 1 - whole.length) '0' ++
      '.' :: (if rest.isEmpty then ['0'] else rest)

end Decimal

def floatText (x : Float) : String :=
  match x.toModel.unpack with
  | .notANumber => "nan"
  | .infinity sign => if sign matches .negative then "-inf" else "inf"
  | .zero sign => if sign matches .negative then "-0.0" else "0.0"
  | .finite sign m e _ =>
    let text := (Decimal.shortest m e).toText
    String.ofList (if sign matches .negative then '-' :: text else text)

end TouchPath
