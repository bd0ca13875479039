import TouchPath.Value.Basic

/-! # The order of sets

A set of numbers shows its members by the slots of a table. The table has eight slots, or from five
members on the least power of two that exceeds twice their number. A member takes the slot of its
remainder, or else the first free one of a run of ten behind it; a run that would leave the table is
a single slot. When the run is taken, the search goes on at a slot that the remainder decides.
Members that are not all numbers keep the order in which they were given.
-/
namespace TouchPath.Members
set_option autoImplicit false

def modulus : Nat := Nat.pow 2 61 - 1

/-- The remainder of a fraction over a power of two; a half is `2 ^ 60`. Minus one counts as minus
two. -/
def remainder (numerator : Int) (places : Nat) : Int :=
  let r := numerator.sign * (numerator.natAbs * Nat.pow 2 (60 * places % 61) % modulus : Nat)
  if r = -1 then -2 else r

def remainder? : Number → Option Int
  | .int n => some (remainder n 0)
  | .float x =>
    match Dyadic.ofFloat? x with
    | some d => some (remainder d.numerator (-d.exponent).toNat)
    | none => if x.isNaN then none else if x < 0 then some (-314159) else some 314159

/-- The remainder of a value as a word of 64 bits. -/
def code? (v : Value) : Option Nat :=
  (v.number?.bind remainder?).map fun r => (r.emod (Nat.pow 2 64)).toNat

/-- The least power of two that exceeds a number, from a given power on. -/
def powerAbove (n : Nat) : Nat → Nat → Nat
  | 0, size => size
  | fuel + 1, size => if n < size then size else powerAbove n fuel (2 * size)

def tableSize (count : Nat) : Nat := if count < 5 then 8 else powerAbove (2 * count) count 8

def freeSlot (size : Nat) (taken : List Nat) : Nat → Nat → Nat → Nat
  | 0, i, _ => i
  | fuel + 1, i, rest =>
    let run := if i + 9 < size then List.range' i 10 else [i]
    match run.find? (!taken.contains ·) with
    | some slot => slot
    | none => freeSlot size taken fuel ((i * 5 + 1 + rest / 32) % size) (rest / 32)

def place (size : Nat) (slots : List (Nat × Value)) (member : Value × Nat) : List (Nat × Value) :=
  let (v, code) := member
  slots ++ [(freeSlot size (slots.map Prod.fst) (size + 13) (code % size) code, v)]

def ordered (members : List Value) : List Value :=
  match members.mapM fun v => (code? v).map (v, ·) with
  | none => members
  | some coded =>
    let slots := coded.foldl (place (tableSize members.length)) []
    (slots.mergeSort fun a b => decide (a.1 ≤ b.1)).map Prod.snd

end TouchPath.Members
