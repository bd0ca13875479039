import TouchPath.Value.Access

/-! # Parameters of shapes

A parameter is read as a number, a point or a rectangle. One that is missing or cannot be read is a
fault that names it. A number may have a default, which counts as none when it is null.
-/
namespace TouchPath
set_option autoImplicit false

namespace Param

def valueOr (params : Value) (key : String) : Value → Except Fault Value
  | .null => params.require key
  | default => params.fieldD key default

/-- The fault to raise for a value that could not be read, whatever the reason. -/
def orFault {α : Type} (f : Fault) : Except Fault α → Except Fault α
  | .ok a => .ok a
  | .error _ => fail f

/-- As `orFault`, but a number out of range stays what it is. -/
def orFaultInRange {α : Type} (f : Fault) : Except Fault α → Except Fault α
  | .ok a => .ok a
  | .error .overflow => .error .overflow
  | .error _ => fail f

def int (params : Value) (key : String) (default : Value) : Except Fault Int := do
  let v ← valueOr params key default
  orFault (.notNumber key v) v.toInt

def float (params : Value) (key : String) : Except Fault Float := do
  let v ← params.require key
  orFault (.notNumber key v) v.toFloat

/-- The two elements of a pair as the coordinates of a point. -/
def pairPoint (v : Value) : Except Fault Point := do
  match ← v.elements with
  | [x, y] => return ⟨← x.toInt, ← y.toInt⟩
  | _ => .error .badValue

def fieldPoint (v : Value) : Except Fault Point := do
  return ⟨← v.intField "x", ← v.intField "y"⟩

def asPoint (key : String) (v : Value) : Except Fault Point :=
  match v.opened with
  | .point p => .ok p
  | .dict _ => orFaultInRange (.notPoint key v) (fieldPoint v)
  | _ => orFaultInRange (.notPoint key v) (pairPoint v)

def point (params : Value) (key : String) : Except Fault Point := do
  asPoint key (← params.require key)

def asBounds (key : String) (v : Value) : Except Fault Bounds :=
  match v.opened with
  | .bounds b => .ok b
  | .text s => Bounds.parse s
  | .dict _ => orFaultInRange (.notBoundsFields key v) (Bounds.ofValue v)
  | _ => fail (.notBounds key v)

def bounds (params : Value) (key : String) : Except Fault Bounds := do
  asBounds key (← params.require key)

end Param
end TouchPath
