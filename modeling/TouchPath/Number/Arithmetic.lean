import TouchPath.Fault

/-! # Arithmetic of numbers

Integers stay exact; an operation with a float on either side is done on floats, and an integer
beyond the floats cannot take part. On integers every operation is the one of `Int` (`add_int`,
`sub_int`). A value is read as an integer or a float when it is a number or a text that is one.
-/
namespace TouchPath
set_option autoImplicit false

def intToFloat (n : Int) : Except Fault Float :=
  let x := Float.ofInt n
  if x.isInf then .error .overflow else .ok x

namespace Number

def toFloat : Number → Except Fault Float
  | int n => intToFloat n
  | float x => .ok x

def add : Number → Number → Except Fault Number
  | int a, int b => .ok (int (a + b))
  | a, b => do return float ((← a.toFloat) + (← b.toFloat))

def sub : Number → Number → Except Fault Number
  | int a, int b => .ok (int (a - b))
  | a, b => do return float ((← a.toFloat) - (← b.toFloat))

@[simp] theorem add_int (a b : Int) : add a b = .ok ((a + b : Int) : Number) := rfl

@[simp] theorem sub_int (a b : Int) : sub a b = .ok ((a - b : Int) : Number) := rfl

def neg : Number → Number
  | int a => int (-a)
  | float x => float (-x)

def sum (ns : List Number) : Except Fault Number := ns.foldlM add (int 0)

/-- A float without an integer next to it. -/
def noInteger (x : Float) : Fault := if x.isNaN then .badValue else .overflow

def trunc : Number → Except Fault Int
  | int n => .ok n
  | float x =>
    match Dyadic.ofFloat? x with
    | some d => .ok d.trunc
    | none => .error (noInteger x)

/-- The nearest integer, a half going to the even neighbour. -/
def round : Number → Except Fault Int
  | int n => .ok n
  | float x =>
    match Dyadic.ofFloat? x with
    | some d => .ok d.round
    | none => .error (noInteger x)

@[simp] theorem trunc_int (n : Int) : trunc n = .ok n := rfl

@[simp] theorem round_int (n : Int) : round n = .ok n := rfl

/-- A number has an integer next to it when it is an integer or a finite float. -/
def IsFinite : Number → Prop
  | int _ => True
  | float x => x.isFinite = true

theorem round_isOk {a : Number} (h : a.IsFinite) : ∃ n, a.round = .ok n := by
  cases a with
  | int n => exact ⟨n, rfl⟩
  | float x =>
    have hs : (Dyadic.ofFloat? x).isSome = true := by rw [Dyadic.ofFloat?_isSome]; exact h
    obtain ⟨d, hd⟩ := Option.isSome_iff_exists.mp hs
    exact ⟨d.round, by simp [round, hd]⟩

/-- Half of a number toward zero; an infinite one has none. -/
def half : Number → Number
  | int n => int (n.tdiv 2)
  | float x =>
    let h := if x.isInf then 0.0 / 0.0 else Float.floor (x.abs / 2)
    float (if 0 ≤ x then h else -h)

@[simp] theorem half_int (n : Int) : half n = ((n.tdiv 2 : Int) : Number) := rfl

/-- Floor of a float that is not negative over one that is not zero. -/
def floorDivFloat (value divisor : Float) : Float :=
  match Dyadic.ofFloat? value, Dyadic.ofFloat? divisor with
  | some v, some w => Float.ofInt (v.floorQuotient w)
  | _, _ => if divisor.isNaN then divisor else if divisor < 0 && 0 < value then -1 else 0

end Number

/-- Integer quotient of the magnitude with the sign of the value, for a divisor of either kind. -/
def truncDiv (value : Int) : Number → Except Fault Number
  | .int d => if d = 0 then .error .divisionByZero else .ok (.int (truncQuotient value d))
  | .float d => do
    let x ← intToFloat value.natAbs
    if d == 0 then .error .divisionByZero
    else
      let q := Number.floorDivFloat x d
      return .float (if 0 ≤ value then q else -q)

theorem truncDiv_int (value : Int) {d : Int} (h : d ≠ 0) :
    truncDiv value d = .ok ((truncQuotient value d : Int) : Number) := by
  simp [truncDiv, h]

namespace Value

def asciiText? (bs : List UInt8) : Option String :=
  if bs.all (· < 128) then some (String.ofList (bs.map fun b => Char.ofNat b.toNat)) else none

def readAs {α : Type} (read : String → Option α) (s : Option String) : Except Fault α :=
  match s.bind read with
  | some a => .ok a
  | none => .error .badValue

/-- A value as an integer: a float is cut toward zero, a text is read. -/
def toInt : Value → Except Fault Int
  | bool b => .ok (if b then 1 else 0)
  | int n => .ok n
  | float x => (Number.float x).trunc
  | text s => readAs readInt? (some s)
  | bytes bs => readAs readInt? (asciiText? bs)
  | _ => .error .wrongType

def toFloat : Value → Except Fault Float
  | bool b => .ok (if b then 1 else 0)
  | int n => intToFloat n
  | float x => .ok x
  | text s => readAs readFloat? (some s)
  | bytes bs => readAs readFloat? (asciiText? bs)
  | _ => .error .wrongType

/-- A value that has to be a number already. -/
def toNumber (v : Value) : Except Fault Number :=
  match v.number? with
  | some a => .ok a
  | none => .error .wrongType

@[simp] theorem toNumber_ofNumber (a : Number) : (ofNumber a).toNumber = .ok a := by
  simp [toNumber]

@[simp] theorem toInt_int (n : Int) : toInt (.int n) = .ok n := rfl

@[simp] theorem toNumber_int (n : Int) : toNumber (.int n) = .ok (n : Number) := rfl

end Value
end TouchPath
