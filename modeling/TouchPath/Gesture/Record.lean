import TouchPath.Gesture.Path
import TouchPath.Value.Access

/-! # Gestures as values

A segment, a path and a touch are written as mappings and lists and read back from them. Reading
takes integers from any value that is one, and builds paths by `Path.add`, with all its checks.
A segment with an integer time reads back as itself (`Segment.ofValue_toValue`).
-/
namespace TouchPath
set_option autoImplicit false

namespace Segment

def toValue (s : Segment) : Value :=
  .dict [(.text "start_x", .int s.start.x), (.text "start_y", .int s.start.y),
    (.text "end_x", .int s.stop.x), (.text "end_y", .int s.stop.y),
    (.text "execution_time", .ofNumber s.time)]

def ofValue (v : Value) : Except Fault Segment := do
  let startX ← v.intField "start_x"
  let startY ← v.intField "start_y"
  let stopX ← v.intField "end_x"
  let stopY ← v.intField "end_y"
  let time ← v.intField "execution_time"
  return ⟨⟨startX, startY⟩, ⟨stopX, stopY⟩, time⟩

theorem ofValue_toValue (start stop : Point) (time : Int) :
    ofValue (toValue ⟨start, stop, time⟩) = .ok ⟨start, stop, time⟩ := rfl

end Segment

namespace Path

def toValue (p : Path) : Value :=
  .dict [(.text "start_offset", p.offset),
    (.text "segments", .list (p.segments.map Segment.toValue))]

def ofValue (v : Value) (checked : Bool) : Except Fault Path := do
  let items ← (← v.fieldD "segments" (.list [])).elements
  let segments ← items.mapM Segment.ofValue
  let offset ← (← v.fieldD "start_offset" (.int 0)).toInt
  ofSegments segments (.int offset) checked

end Path

namespace Touch

def toValue (t : Touch) : Value := .dict [(.text "fingers", .list (t.fingers.map Path.toValue))]

def ofValue (v : Value) (checked : Bool) : Except Fault Touch := do
  let items ← (← v.fieldD "fingers" (.list [])).elements
  return ⟨← items.mapM (Path.ofValue · checked)⟩

end Touch
end TouchPath
