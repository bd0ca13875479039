import TouchPath.Number.Arithmetic
import TouchPath.Number.Hypotenuse

/-! # Lengths

Lengths between integer points go through floats and fail when a difference is beyond them.
-/
namespace TouchPath
set_option autoImplicit false

namespace Point

def distance (p q : Point) : Except Fault Float := do
  return hypot (← intToFloat (q.x - p.x)) (← intToFloat (q.y - p.y))

end Point

namespace Bounds

def diagonal (b : Bounds) : Except Fault Float := do
  return Float.sqrt (← intToFloat (b.width * b.width + b.height * b.height))

end Bounds
end TouchPath
