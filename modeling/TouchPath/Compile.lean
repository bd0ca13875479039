import TouchPath.Gesture.Path
import TouchPath.Timeline

/-! # Timelines compiled to touches

Every two neighbouring anchors of a timeline become a segment between their nearest pixels, which
lasts the difference of their times. A single anchor becomes a tap of no duration. A clock that runs
backwards is a fault.
-/
namespace TouchPath
set_option autoImplicit false

namespace Timeline

/-- Appends the segment from an anchor to the next one. -/
def addLeg (p : Path) (leg : (Anchor × Anchor) × Nat) : Except Fault Path := do
  let ((a, b), i) := leg
  let elapsed ← b.time.sub a.time
  if elapsed.lt (0 : Int) then fail (.clockBackwards (i + 1) b.time a.time)
  else p.add ⟨← a.toPoint, ← b.toPoint, elapsed⟩

def compile (t : Timeline) (checked : Bool) : Except Fault Path := do
  match t.anchors with
  | [] => fail .emptyTimeline
  | [a] =>
    let p ← a.toPoint
    (Path.empty (.ofNumber a.time) checked).add ⟨p, p, (0 : Int)⟩
  | a :: rest =>
    (neighbours (a :: rest)).zipIdx.foldlM addLeg (Path.empty (.ofNumber a.time) checked)

def compileAll (timelines : List Timeline) (checked : Bool) : Except Fault Touch := do
  return ⟨← timelines.mapM (compile · checked)⟩

end Timeline
end TouchPath
