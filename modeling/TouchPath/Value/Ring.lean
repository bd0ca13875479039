import TouchPath.Value.Basic

/-! # Values that hold themselves

A list or a mapping may hold itself, directly or through others. Such a value is a ring: all its
containers are cells, and where one of them stands inside another its number stands instead.
`Value.opened` is the container itself, whose parts are rings in their turn; it is never a ring.
-/
namespace TouchPath.Value
set_option autoImplicit false

/-- A part of a container, with a value in place of a cell. -/
def link (cell : Nat → Value) : Value → Value
  | again i => cell i
  | pair a b => pair (link cell a) (link cell b)
  | v => v

def linkParts (cell : Nat → Value) : Value → Value
  | list items => list (items.map (link cell))
  | dict entries => dict (entries.map fun e => (e.1, link cell e.2))
  | v => v

def opened : Value → Value
  | ring cells i =>
    match cells[i]? with
    | some (list items) => linkParts (ring cells) (list items)
    | some (dict entries) => linkParts (ring cells) (dict entries)
    | _ => null
  | v => v

def names : Value → List Nat
  | again i => [i]
  | pair a b => names a ++ names b
  | _ => []

def partNames : Value → List Nat
  | list items => items.flatMap names
  | dict entries => entries.flatMap fun e => names e.2
  | _ => []

/-- All cells that are named by given ones, directly or through others. -/
def reachedWithin (cells : List Value) : Nat → List Nat → List Nat
  | 0, seen => seen
  | n + 1, seen =>
    let more := (seen ++ seen.flatMap fun i => ((cells[i]?).map partNames).getD []).eraseDups
    if more.length = seen.length then seen else reachedWithin cells n more

def reached (cells : List Value) (start : List Nat) : List Nat :=
  reachedWithin cells cells.length start

end TouchPath.Value
