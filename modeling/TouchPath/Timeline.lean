import TouchPath.Geometry.Measure
import TouchPath.Sequence
import TouchPath.Table

/-! # Timelines

A timeline is the trajectory of one finger: anchors, each a position with a time in milliseconds,
in the order of playback. Times are not checked on insertion; `isMonotonic` says whether they never
decrease (`isMonotonic_iff`).
-/
namespace TouchPath
set_option autoImplicit false

structure Anchor where
  x : Number
  y : Number
  time : Number
  deriving Inhabited

namespace Anchor

def ofPoint (p : Point) (time : Number) : Anchor := ⟨p.x, p.y, time⟩

def toPoint (a : Anchor) : Except Fault Point := do
  return ⟨← a.x.round, ← a.y.round⟩

@[simp] theorem toPoint_ofPoint (p : Point) (time : Number) :
    (Anchor.ofPoint p time).toPoint = .ok p := rfl

def distance (a b : Anchor) : Except Fault Float := do
  let dx ← b.x.sub a.x
  let dy ← b.y.sub a.y
  return hypot (← dx.toFloat) (← dy.toFloat)

def same (a b : Anchor) : Bool := a.x.same b.x && a.y.same b.y && a.time.same b.time

def toValue (a : Anchor) : Value :=
  .dict [(.text "x", .ofNumber a.x), (.text "y", .ofNumber a.y),
    (.text "time_offset", .ofNumber a.time)]

def toRow (a : Anchor) : Except Fault (List Float) := [a.x, a.y, a.time].mapM Number.toFloat

def delay (ms : Number) (a : Anchor) : Except Fault Anchor := do
  return { a with time := ← a.time.add ms }

end Anchor

structure Timeline where
  anchors : List Anchor
  deriving Inhabited

namespace Timeline

def empty : Timeline := ⟨[]⟩

def add (t : Timeline) (a : Anchor) : Timeline := ⟨t.anchors ++ [a]⟩

def extend (t : Timeline) (anchors : List Anchor) : Timeline := ⟨t.anchors ++ anchors⟩

def size (t : Timeline) : Nat := t.anchors.length

def first? (t : Timeline) : Option Anchor := t.anchors.head?

def last? (t : Timeline) : Option Anchor := t.anchors.getLast?

def duration (t : Timeline) : Except Fault Number :=
  match t.last?, t.first? with
  | some b, some a => b.time.sub a.time
  | _, _ => .ok (0 : Int)

def isMonotonic (t : Timeline) : Bool :=
  (neighbours t.anchors).all fun (a, b) => a.time.le b.time

theorem isMonotonic_iff (t : Timeline) :
    t.isMonotonic = true ↔ ∀ p ∈ neighbours t.anchors, p.1.time.le p.2.time = true := by
  simp [isMonotonic, List.all_eq_true]

/-- The same trajectory, every anchor later by `ms`. -/
def shifted (t : Timeline) (ms : Number) : Except Fault Timeline := do
  return ⟨← t.anchors.mapM (Anchor.delay ms)⟩

def same (t u : Timeline) : Bool :=
  t.size == u.size && (t.anchors.zip u.anchors).all fun (a, b) => a.same b

def toRows (t : Timeline) : Except Fault (List (List Float)) := t.anchors.mapM Anchor.toRow

def toTable (t : Timeline) : Except Fault (Table Float) := do Table.ofRowsOr 3 (← t.toRows)

/-- Distance between the positions of two rows. -/
def step : List Float → List Float → Float
  | x :: y :: _, x' :: y' :: _ => Float.sqrt ((x' - x) * (x' - x) + (y' - y) * (y' - y))
  | _, _ => 0

def pathLength (t : Timeline) : Except Fault Float :=
  if t.size < 2 then .ok 0
  else do
    let rows ← t.toRows
    return (neighbours rows).foldl (fun total (r, s) => total + step r s) 0

def points (t : Timeline) : Except Fault (List Point) := t.anchors.mapM Anchor.toPoint

def toValue (t : Timeline) : Value := .list (t.anchors.map Anchor.toValue)

def literal (t : Timeline) : Except Fault String := do
  let duration ← writeNumber (← t.duration)
  return s!"Timeline({t.size} anchors, duration={duration}ms)"

end Timeline
end TouchPath
