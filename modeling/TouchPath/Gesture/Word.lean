import TouchPath.Gesture.Path
import TouchPath.Table

/-! # Touches in words

A touch as a table of words of 64 bits: a row for each segment with the number of its finger, its
coordinates and its time, finger after finger. A number that fits no word has no table.
-/
namespace TouchPath
set_option autoImplicit false

def fitsWord (n : Int) : Bool :=
  decide (-9223372036854775808 ≤ n) && decide (n ≤ 9223372036854775807)

/-- A number as a word; a float is cut toward zero. -/
def Number.toWord (a : Number) : Except Fault Int := do
  let n ← a.trunc
  if fitsWord n then return n else .error .overflow

def Segment.numbers (s : Segment) : List Number :=
  [s.start.x, s.start.y, s.stop.x, s.stop.y, s.time]

namespace Touch

/-- The row of a segment. The number of its finger is a place in a list, which always fits. -/
def row (finger : Nat) (s : Segment) : Except Fault (List Int) := do
  let words ← s.numbers.mapM Number.toWord
  return (finger : Int) :: words

def toTable (t : Touch) : Except Fault (Table Int) := do
  let rows ← t.fingers.zipIdx.mapM fun (p, i) => p.segments.mapM (row i)
  Table.ofRowsOr 6 rows.flatten

end Touch
end TouchPath
