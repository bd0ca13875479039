import TouchPath.Arc
import TouchPath.Circle
import TouchPath.Param
import TouchPath.Settings
import TouchPath.Shape

/-! # Builders of shapes by name

A builder makes the timelines of a shape, one for each finger, from its parameters and the
settings. A registry keeps builders under the names of their shapes; the standard one has nine.
-/
namespace TouchPath
set_option autoImplicit false

abbrev Builder := Value → Settings → Except Fault (List Timeline)

namespace Builder

/-- A builder of shapes with one finger. -/
def ofTimeline (build : Value → Settings → Except Fault Timeline) : Builder :=
  fun params settings => do return [← build params settings]

def circle : Builder := ofTimeline fun params settings => do
  let center ← Param.point params "center"
  let radius ← Param.float params "radius"
  let start ← Param.int params "start_time" settings.circleStart
  let duration ← Param.int params "duration" settings.circleDuration
  let steps ← Param.int params "steps" settings.circleSteps
  TouchPath.circle center (.float radius) (.int start) (.int duration) (.int steps)

def curve : Builder := ofTimeline fun params settings => do
  let startTime ← Param.int params "start_time" (.int 0)
  let duration ← Param.int params "duration" settings.dragDuration
  let start ← Param.point params "start"
  let stop ← Param.point params "end"
  let angle ← Param.float params "angle"
  let positive := (← params.fieldD "positive" (.bool true)).truthy
  TouchPath.curve (.ofPoint start startTime) (.ofPoint stop (startTime + duration : Int))
    (.float angle) positive

/-- A tap whose hold has a default of its own. -/
def tapHolding (hold : Settings → Value) : Builder := ofTimeline fun params settings => do
  let p ← Param.point params "point"
  let hold ← Param.int params "hold" (hold settings)
  let start ← Param.int params "start_time" (.int 0)
  TouchPath.tap p hold start

def tap : Builder := tapHolding Settings.tapHold

def longPress : Builder := tapHolding Settings.longPressHold

def doubleTap : Builder := fun params settings => do
  let p ← Param.point params "point"
  let interval ← Param.int params "interval" settings.doubleTapInterval
  let hold ← Param.int params "hold" settings.tapHold
  TouchPath.doubleTap p interval hold

def drag : Builder := ofTimeline fun params settings => do
  let start ← Param.point params "start"
  let stop ← Param.point params "end"
  let duration ← Param.int params "duration" settings.dragDuration
  let startTime ← Param.int params "start_time" (.int 0)
  TouchPath.drag start stop duration startTime

def swipe : Builder := ofTimeline fun params settings => do
  let resolution ← Param.point params "resolution"
  let p ← Param.point params "point"
  let name ← writeValue (← params.require "direction")
  let distance ← Param.int params "distance" settings.swipeDistance
  let duration ← Param.int params "duration" settings.swipeDuration
  TouchPath.swipe p (← Direction.parse name) resolution.x resolution.y
    (.int distance) (.int duration)

def pinchIn : Builder := fun params settings => do
  let b ← Param.bounds params "bounds"
  let duration ← Param.int params "duration" settings.pinchDuration
  TouchPath.pinchIn b duration (← settings.pinchDenominator.toNumber)

def pinchOut : Builder := fun params settings => do
  let b ← Param.bounds params "bounds"
  let duration ← Param.int params "duration" settings.pinchDuration
  TouchPath.pinchOut b duration

def standard : List (String × Builder) :=
  [("circle", circle), ("curve", curve), ("tap", tap), ("long_press", longPress),
    ("double_tap", doubleTap), ("drag", drag), ("swipe", swipe), ("pinch_in", pinchIn),
    ("pinch_out", pinchOut)]

end Builder

structure Registry where
  settings : Settings
  builders : List (String × Builder)

namespace Registry

def empty (settings : Settings) : Registry := ⟨settings, []⟩

def standard (settings : Settings) : Registry := ⟨settings, Builder.standard⟩

def keys (r : Registry) : List String := r.builders.map Prod.fst

def has (r : Registry) (key : String) : Bool := r.keys.contains key

/-- Gives a key its builder, in its old place when the key is there already. -/
def set (r : Registry) (key : String) (b : Builder) : Registry :=
  if r.has key then
    { r with builders := r.builders.map fun e => if e.1 = key then (key, b) else e }
  else { r with builders := r.builders ++ [(key, b)] }

/-- As `set`, with a notice when a builder is replaced. -/
def register (r : Registry) (key : String) (b : Builder) : Reported Registry := do
  if r.has key then notify (.builderReplaced key)
  return r.set key b

/-- The timelines of a shape, one for each finger. Parameters that count as false are none. -/
def build (r : Registry) (key : String) (params : Value) : Except Fault (List Timeline) :=
  match r.builders.lookup key with
  | some b => b (if params.truthy then params else .dict []) r.settings
  | none => fail (.unknownShape key (Settings.sortedNames r.keys))

end Registry
end TouchPath
