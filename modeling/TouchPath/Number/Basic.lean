import TouchPath.Number.Dyadic

/-! # Numbers

A coordinate or a time is an integer of any size or a float. The two kinds stay distinct, and are
compared by their exact values; a float without a value is below and above nothing.
-/
namespace TouchPath
set_option autoImplicit false

inductive Number where
  | int (n : Int)
  | float (x : Float)
  deriving Inhabited

namespace Number

instance : Coe Int Number := ⟨Number.int⟩

/-- Whether an integer is at most a float. -/
def intLeFloat (n : Int) (x : Float) : Bool :=
  match Dyadic.ofFloat? x with
  | some d => d.geInt n
  | none => decide (0 < x)

def floatLeInt (x : Float) (n : Int) : Bool :=
  match Dyadic.ofFloat? x with
  | some d => d.leInt n
  | none => decide (x < 0)

def le : Number → Number → Bool
  | int a, int b => decide (a ≤ b)
  | int a, float y => intLeFloat a y
  | float x, int b => floatLeInt x b
  | float x, float y => decide (x ≤ y)

def same : Number → Number → Bool
  | int a, int b => decide (a = b)
  | float x, float y => x == y
  | a, b => le a b && le b a

def lt (a b : Number) : Bool := le a b && !same a b

@[simp] theorem le_int (a b : Int) : le a b = decide (a ≤ b) := rfl

@[simp] theorem same_int (a b : Int) : same a b = decide (a = b) := rfl

@[simp] theorem lt_int (a b : Int) : lt a b = decide (a < b) := by
  rw [lt, le_int, same_int, ← decide_not, ← Bool.decide_and]
  exact decide_eq_decide.mpr (by omega)

/-- The larger of two numbers, the first when neither exceeds the other. -/
def max (a b : Number) : Number := if lt a b then b else a

/-- The smaller of two numbers, the first when neither is below the other. -/
def min (a b : Number) : Number := if lt b a then b else a

@[simp] theorem max_int (a b : Int) : max a b = ((Max.max a b : Int) : Number) := by
  simp only [max, lt_int, decide_eq_true_eq]
  split
  · rw [Int.max_eq_right (by omega)]
  · rw [Int.max_eq_left (by omega)]

@[simp] theorem min_int (a b : Int) : min a b = ((Min.min a b : Int) : Number) := by
  simp only [min, lt_int, decide_eq_true_eq]
  split
  · rw [Int.min_eq_right (by omega)]
  · rw [Int.min_eq_left (by omega)]

def isInt : Number → Bool
  | int _ => true
  | float _ => false

end Number
end TouchPath
