import TouchPath.Number.Arithmetic

/-! # Access to the parts of a value

The entry of a mapping that has to be there, an entry with a default, and the elements of what can
be gone through. Each fails in its own way on a value of another kind. A value that holds itself is
opened first.
-/
namespace TouchPath
set_option autoImplicit false

namespace Value

/-- The entry under a key that a mapping has to have. -/
def field (v : Value) (key : String) : Except Fault Value :=
  match v.opened with
  | dict es =>
    match Entries.get? es key with
    | some w => .ok w
    | none => .error .missingKey
  | _ => .error .wrongType

def fieldD (v : Value) (key : String) (default : Value) : Except Fault Value :=
  match v.opened with
  | dict es => .ok ((Entries.get? es key).getD default)
  | _ => .error .noAttribute

def elements (v : Value) : Except Fault (List Value) :=
  match v.opened with
  | list items => .ok items
  | set items => .ok items
  | pair a b => .ok [a, b]
  | dict es => .ok (es.map Prod.fst)
  | text s => .ok (s.toList.map fun c => text (String.singleton c))
  | bytes bs => .ok (bs.map fun b => int b.toNat)
  | _ => .error .wrongType

/-- Whether a text is among the keys or the elements of a value, or a part of it. -/
def holds (v : Value) (key : String) : Except Fault Bool :=
  match v.opened with
  | dict es => .ok (Entries.has es key)
  | list items => .ok (items.any (·.text? == some key))
  | set items => .ok (items.any (·.text? == some key))
  | pair a b => .ok ([a, b].any (·.text? == some key))
  | text s => .ok (decide (1 < (s.splitOn key).length))
  | bounds _ => .error .noAttribute
  | _ => .error .wrongType

/-- The entry under a key, which is asked for as missing when it is not held. -/
def require (v : Value) (key : String) : Except Fault Value := do
  if ← v.holds key then v.field key else fail (.missingParameter key)

mutual

/-- A value with a mapping of its coordinates in place of every point. One that holds itself has no
end. -/
def plain : Value → Except Fault Value
  | point p => .ok (dict [(text "x", int p.x), (text "y", int p.y)])
  | list items => do return list (← plainItems items)
  | dict entries => do return dict (← plainEntries entries)
  | pair a b => do return pair (← plain a) (← plain b)
  | ring .. | again _ => .error .recursion
  | v => .ok v

def plainItems : List Value → Except Fault (List Value)
  | [] => .ok []
  | v :: vs => do return (← plain v) :: (← plainItems vs)

def plainEntries : List (Value × Value) → Except Fault (List (Value × Value))
  | [] => .ok []
  | (k, v) :: es => do return (k, ← plain v) :: (← plainEntries es)

end

def intField (v : Value) (key : String) : Except Fault Int := do (← v.field key).toInt

end Value

namespace Bounds

def toValue (b : Bounds) : Value :=
  .dict [(.text "x", .int b.upperLeft.x), (.text "y", .int b.upperLeft.y),
    (.text "width", .int b.width), (.text "height", .int b.height)]

def ofValue (v : Value) : Except Fault Bounds := do
  let x ← v.intField "x"
  let y ← v.intField "y"
  let width ← v.intField "width"
  let height ← v.intField "height"
  return ⟨⟨x, y⟩, width, height⟩

@[simp] theorem ofValue_toValue (b : Bounds) : ofValue b.toValue = .ok b := rfl

end Bounds
end TouchPath
