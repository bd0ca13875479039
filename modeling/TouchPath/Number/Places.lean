import TouchPath.Number.Dyadic

/-! # Decimal places

A finite float written with a fixed number of decimal places, and a float rounded to a number of
places. Both round the exact binary value, a half going to the even neighbour.
-/
namespace TouchPath
set_option autoImplicit false

def pointed (units places : Nat) : List Char :=
  let ds := Nat.toDigits 10 units
  let ds := List.replicate (places + 1 - ds.length) '0' ++ ds
  ds.take (ds.length - places) ++ '.' :: ds.drop (ds.length - places)

def roundPlaces (places : Nat) (x : Float) : Float :=
  match Dyadic.ofFloat? x with
  | none => x
  | some d =>
    let y := Float.ofScientific (d.decimalUnits places) true places
    if x.toBits >>> 63 == 1 then -y else y

end TouchPath
