import TouchPath.Geometry.Measure
import TouchPath.Sequence

/-! # Segments, paths and touches

A segment is one straight drag; without displacement it is a tap or a hold. A path is what one
finger does: segments one after the other from a start offset, which is kept as it was given and has
to be a number only for the end time. A touch has one path for each finger, all on one clock.
`Path.add` refuses a segment of negative duration, and, where the path is checked,
one that does not start where the last segment stopped.
-/
namespace TouchPath
set_option autoImplicit false

structure Segment where
  start : Point
  stop : Point
  time : Number
  deriving Inhabited

namespace Segment

def isStationary (s : Segment) : Bool := s.start == s.stop

def length (s : Segment) : Except Fault Float := s.start.distance s.stop

def literal (s : Segment) : String :=
  let start := s!"start_x={s.start.x}, start_y={s.start.y}"
  let stop := s!"end_x={s.stop.x}, end_y={s.stop.y}"
  s!"SimpleGesture({start}, {stop}, execution_time={Fault.numberText s.time})"

end Segment

structure Path where
  offset : Value
  checked : Bool
  segments : List Segment
  deriving Inhabited

namespace Path

def empty (offset : Value) (checked : Bool) : Path := ⟨offset, checked, []⟩

def add (p : Path) (s : Segment) : Except Fault Path :=
  if s.time.lt (0 : Int) then fail (.negativeDuration s.start s.stop s.time)
  else
    match p.segments.getLast? with
    | some last =>
      if p.checked && last.stop != s.start then fail (.gap p.segments.length s.start last.stop)
      else .ok { p with segments := p.segments ++ [s] }
    | none => .ok { p with segments := p.segments ++ [s] }

def addAll (p : Path) (segments : List Segment) : Except Fault Path := segments.foldlM add p

def ofSegments (segments : List Segment) (offset : Value) (checked : Bool) : Except Fault Path :=
  (empty offset checked).addAll segments

/-- Time of all segments together, the start offset not counted. -/
def duration (p : Path) : Except Fault Number := Number.sum (p.segments.map (·.time))

def endTime (p : Path) : Except Fault Number := do
  let duration ← p.duration
  (← p.offset.toNumber).add duration

def isContinuous (p : Path) : Bool := (neighbours p.segments).all fun (s, t) => s.stop == t.start

theorem isContinuous_iff (p : Path) :
    p.isContinuous = true ↔ ∀ q ∈ neighbours p.segments, q.1.stop = q.2.start := by
  simp [isContinuous, List.all_eq_true]

def literal (p : Path) : Except Fault String := do
  let offset ← writeValue p.offset
  let duration ← writeNumber (← p.duration)
  return s!"ComplexGesture({p.segments.length} segments, " ++
    s!"start_offset={offset}ms, duration={duration}ms)"

end Path

structure Touch where
  fingers : List Path
  deriving Inhabited

namespace Touch

def empty : Touch := ⟨[]⟩

def add (t : Touch) (p : Path) : Touch := ⟨t.fingers ++ [p]⟩

/-- The larger of two numbers, if there is a first one. -/
def laterOf : Option Number → Number → Option Number
  | none, b => some b
  | some a, b => some (a.max b)

/-- Time until the last finger lifts. -/
def duration (t : Touch) : Except Fault Number := do
  let ends ← t.fingers.mapM Path.endTime
  return (ends.foldl laterOf none).getD (0 : Int)

def literal (t : Touch) : Except Fault String := do
  let duration ← writeNumber (← t.duration)
  return s!"TouchGesture({t.fingers.length} fingers, duration={duration}ms)"

end Touch
end TouchPath
