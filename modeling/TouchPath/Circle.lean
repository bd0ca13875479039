import TouchPath.Timeline

/-! # Circles

A circle is sampled from angle zero through a full turn, which closes it. The time of a sample is
proportional to its angle: the total time, multiplied by the number of the sample and divided by the
number of steps, goes through the nearest float before it is cut to whole milliseconds.
-/
namespace TouchPath
set_option autoImplicit false

def pi : Float := 3.141592653589793

namespace Circle

def fullTurn : Float := 2.0 * pi

/-- The angle of a sample; the last one is a full turn exactly. -/
def angle (steps i : Nat) : Float :=
  if i = steps then fullTurn else Float.ofNat i * (fullTurn / Float.ofNat steps)

def progress (total : Number) (steps i : Nat) : Except Fault Int :=
  match total with
  | .int t =>
    match truncNearest? (t * i) steps with
    | some n => .ok n
    | none => .error .overflow
  | .float t => (Number.float (t * Float.ofNat i / Float.ofNat steps)).trunc

def stepCount (steps : Value) : Except Fault Nat := do
  match ← steps.toNumber with
  | .int n => if n ≤ 0 then fail (.stepCount steps) else return n.toNat
  | .float x => if x ≤ 0 then fail (.stepCount steps) else .error .wrongType

def sample (center : Point) (radius start total : Value) (steps : Nat) :
    Except Fault Timeline := do
  let r ← (← radius.toNumber).toFloat
  let cx ← intToFloat center.x
  let cy ← intToFloat center.y
  let anchor (i : Nat) : Except Fault Anchor := do
    let t := angle steps i
    let elapsed ← progress (← total.toNumber) steps i
    let time ← (← start.toNumber).add (.int elapsed)
    return ⟨.float (cx + Float.cos t * r), .float (cy + Float.sin t * r), time⟩
  return ⟨← (List.range (steps + 1)).mapM anchor⟩

end Circle

/-- A circle. Its times are looked at only when it has samples. -/
def circle (center : Point) (radius start total steps : Value) : Except Fault Timeline := do
  Circle.sample center radius start total (← Circle.stepCount steps)

end TouchPath
