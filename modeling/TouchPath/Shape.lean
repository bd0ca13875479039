import TouchPath.Timeline

/-! # Timelines of common touches

Taps, drags, swipes and pinches. A touch of several fingers is a list of timelines on one clock.
A swipe ends on the screen; the fingers of a pinch start or end at the corners of a rectangle, and
meet at its center.
-/
namespace TouchPath
set_option autoImplicit false

namespace Default

def doubleTapInterval : Int := 150
def swipeDistance : Int := 75
def swipeDuration : Int := 250
def pinchDuration : Int := 500
def pinchDenominator : Int := 10

end Default

/-- Where a finger is, not necessarily on a whole pixel. -/
structure Position where
  x : Number
  y : Number
  deriving Inhabited

namespace Position

def ofPoint (p : Point) : Position := ⟨p.x, p.y⟩

instance : Coe Point Position := ⟨ofPoint⟩

def anchor (p : Position) (time : Number) : Anchor := ⟨p.x, p.y, time⟩

@[simp] theorem anchor_ofPoint (p : Point) (time : Number) :
    (ofPoint p).anchor time = Anchor.ofPoint p time := rfl

end Position

def drag (start stop : Position) (duration startTime : Number) : Except Fault Timeline := do
  return ⟨[start.anchor startTime, stop.anchor (← startTime.add duration)]⟩

/-- Touches a point and lifts after `hold`. -/
def tap (p : Point) (hold startTime : Number) : Except Fault Timeline := drag p p hold startTime

/-- Two taps on one point, the second one `interval` after the first. -/
def doubleTap (p : Point) (interval hold : Number) : Except Fault (List Timeline) := do
  return [← tap p hold (0 : Int), ← tap p hold interval]

inductive Direction where
  | up
  | down
  | left
  | right
  deriving DecidableEq, Repr

namespace Direction

def all : List Direction := [up, down, left, right]

def name : Direction → String
  | up => "up"
  | down => "down"
  | left => "left"
  | right => "right"

/-- The direction with a name, in lower case. -/
def ofName? (s : String) : Option Direction := all.find? (·.name == s)

def parse (s : String) : Except Fault Direction :=
  match ofName? s.toLower with
  | some d => .ok d
  | none => fail (.unknownDirection s)

@[simp] theorem ofName?_name (d : Direction) : ofName? d.name = some d := by
  cases d <;> rfl

end Direction

/-- The end of a swipe: the distance is gone along one axis and cut at the edge of the screen. -/
def swipeEnd (p : Point) (direction : Direction) (width height : Int) (distance : Number) :
    Except Fault Position := do
  match direction with
  | .up => return ⟨p.x, ((← Number.sub p.y distance).max (0 : Int))⟩
  | .down => return ⟨p.x, ((← Number.add p.y distance).min height)⟩
  | .left => return ⟨((← Number.sub p.x distance).max (0 : Int)), p.y⟩
  | .right => return ⟨((← Number.add p.x distance).min width), p.y⟩

/-- A swipe. The distance has to be a number before the duration has. -/
def swipe (p : Point) (direction : Direction) (width height : Int) (distance duration : Value) :
    Except Fault Timeline := do
  let stop ← swipeEnd p direction width height (← distance.toNumber)
  drag p stop (← duration.toNumber) (0 : Int)

/-- Two fingers closing on the center. They start a fraction of the size inside the lower-right and
upper-left corners. -/
def pinchIn (b : Bounds) (duration denominator : Number) : Except Fault (List Timeline) := do
  let dx ← truncDiv b.width denominator
  let dy ← truncDiv b.height denominator
  let first := ⟨← Number.sub b.lowerRight.x dx, ← Number.sub b.lowerRight.y dy⟩
  let second := ⟨← Number.add b.upperLeft.x dx, ← Number.add b.upperLeft.y dy⟩
  return [← drag first b.center duration (0 : Int), ← drag second b.center duration (0 : Int)]

/-- Two fingers spreading from the center to the upper-left and lower-right corners. -/
def pinchOut (b : Bounds) (duration : Number) : Except Fault (List Timeline) := do
  return [← drag b.center b.upperLeft duration (0 : Int),
    ← drag b.center b.lowerRight duration (0 : Int)]

namespace Bounds

/-- The point to tap: the center, or a point given from the upper-left corner, which has to lie
inside. -/
def tapPoint (b : Bounds) : Option Point → Except Fault Point
  | none => .ok b.center
  | some relative =>
    if b.containsPoint (b.absolute relative) then .ok (b.absolute relative)
    else fail (.outsideBounds relative b)

end Bounds
end TouchPath
