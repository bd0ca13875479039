import TouchPath.Circle

/-! # Arcs

An arc between two anchors is found by repeated bisection. A pass puts the middle of the arc between
every two neighbours, and the next pass works with half the angle; after five passes the arc has
thirty-two chords. `Bisection.refine` and `Bisection.subdivide` do this for any midpoint.
-/
namespace TouchPath
set_option autoImplicit false

namespace Bisection

variable {α θ ε : Type}

def refine (middle : α → α → Except ε α) : List α → Except ε (List α)
  | a :: b :: rest => do
    let m ← middle a b
    let tail ← refine middle (b :: rest)
    return a :: m :: tail
  | as => .ok as

/-- Passes of refinement, the angle halved from each to the next. -/
def subdivide (middle : θ → α → α → Except ε α) (halve : θ → θ) :
    Nat → θ → List α → Except ε (List α)
  | 0, _, as => .ok as
  | n + 1, angle, as => do subdivide middle halve n (halve angle) (← refine (middle angle) as)

/-- The two halves of an arc one after the other, their common anchor once. -/
def bisect (middle : θ → α → α → Except ε α) (halve : θ → θ) :
    Nat → θ → α → α → Except ε (List α)
  | 0, _, a, b => .ok [a, b]
  | n + 1, angle, a, b => do
    let m ← middle angle a b
    let left ← bisect middle halve n (halve angle) a m
    let right ← bisect middle halve n (halve angle) m b
    return left ++ right.tail

end Bisection

namespace Arc

def minAngle : Int := 2

def maxAngle : Int := 355

def depth : Nat := 5

def sine (x : Float) : Except Fault Float :=
  if x.isInf then .error .badValue else .ok x.sin

def quotient (x y : Float) : Except Fault Float :=
  if y == 0 then .error .divisionByZero else .ok (x / y)

def height (degrees chord : Float) : Except Fault Float := do
  let beta := (180.0 - degrees / 2.0) * (pi / 180.0)
  let shoulder ← sine ((pi - beta) / 2.0)
  let base ← sine (beta / 2.0)
  quotient (shoulder * chord) (base * 2.0)

/-- The middle of the arc of a number of degrees between two anchors. The positive side is the one
of the chord turned by a right angle from x toward y. Between two anchors at one place the angle is
not looked at. -/
def midpoint (degrees : Value) (positive : Bool) (start stop : Anchor) :
    Except Fault Anchor := do
  let dx ← (← stop.x.sub start.x).toFloat
  let dy ← (← stop.y.sub start.y).toFloat
  let chord := hypot dx dy
  let time := (← start.time.add stop.time).half
  if chord == 0 then
    return ⟨.float (← start.x.toFloat), .float (← start.y.toFloat), time⟩
  else
    let h ← height (← (← degrees.toNumber).toFloat) chord
    let mx := (← start.x.toFloat) + dx / 2.0
    let my := (← start.y.toFloat) + dy / 2.0
    let (nx, ny) := if positive then (-dy / chord, dx / chord) else (dy / chord, -dx / chord)
    return ⟨.float (mx + nx * h), .float (my + ny * h), time⟩

end Arc

/-- The arc between two anchors, from `Arc.minAngle` to `Arc.maxAngle` degrees. -/
def curve (start stop : Anchor) (degrees : Value) (positive : Bool) : Except Fault Timeline := do
  let angle ← degrees.toNumber
  if (Number.int Arc.minAngle).le angle && angle.le (Number.int Arc.maxAngle) then
    let middle (t : Float) := Arc.midpoint (.float t) positive
    return ⟨← Bisection.subdivide middle (· / 2.0) Arc.depth (← angle.toFloat) [start, stop]⟩
  else fail (.angleRange degrees)

end TouchPath
