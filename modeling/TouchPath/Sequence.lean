import TouchPath.Fault

/-! # Positions counted from either end

A negative position counts from the end of a list; a position outside is a fault.
-/
namespace TouchPath
set_option autoImplicit false

/-- The place that a position names in a list of a given length. -/
def place? (length : Nat) (i : Int) : Option Nat :=
  let k := if i < 0 then i + length else i
  if 0 ≤ k && k < length then some k.toNat else none

def nth {α : Type} (xs : List α) (i : Int) : Except Fault α :=
  match (place? xs.length i).bind (xs[·]?) with
  | some x => .ok x
  | none => .error .noIndex

def neighbours {α : Type} (xs : List α) : List (α × α) := xs.zip xs.tail

@[simp] theorem neighbours_nil {α : Type} : neighbours ([] : List α) = [] := rfl

@[simp] theorem neighbours_singleton {α : Type} (a : α) : neighbours [a] = [] := rfl

@[simp] theorem neighbours_cons_cons {α : Type} (a b : α) (xs : List α) :
    neighbours (a :: b :: xs) = (a, b) :: neighbours (b :: xs) := rfl

theorem length_neighbours {α : Type} (xs : List α) :
    (neighbours xs).length = xs.length - 1 := by
  simp [neighbours]

end TouchPath
