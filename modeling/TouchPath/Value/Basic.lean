import TouchPath.Geometry.Basic
import TouchPath.Number.Basic
import TouchPath.Value.Calendar

/-! # Dynamic values

What a settings file, a script or a parameter may hold. A mapping keeps its entries in the order of
insertion. Numbers of both kinds and the truth values are one as keys and in comparisons:
`1`, `1.0` and true are the same key.
-/
namespace TouchPath
set_option autoImplicit false

inductive Value where
  | null
  | bool (b : Bool)
  | int (n : Int)
  | float (x : Float)
  | text (s : String)
  | list (items : List Value)
  | dict (entries : List (Value × Value))
  | point (p : Point)
  | bounds (b : Bounds)
  | date (d : Date)
  | moment (m : Moment)
  | bytes (bs : List UInt8)
  | pair (first second : Value)
  | set (items : List Value)
  /-- A container that holds itself: one of several cells, which name each other by number. -/
  | ring (cells : List Value) (index : Nat)
  /-- Inside a cell of a ring, the cell with a number. -/
  | again (index : Nat)
  deriving Inhabited

abbrev Entries := List (Value × Value)

namespace Value

/-- The number that a value is, a truth value counting as one or zero. -/
def number? : Value → Option Number
  | bool b => some (.int (if b then 1 else 0))
  | int n => some (.int n)
  | float x => some (.float x)
  | _ => none

def ofNumber : Number → Value
  | .int n => int n
  | .float x => float x

@[simp] theorem number?_ofNumber (a : Number) : (ofNumber a).number? = some a := by
  cases a <;> rfl

mutual

/-- Equality of values; mappings and sets are compared without regard to order. -/
def same : Value → Value → Bool
  | null, null => true
  | text s, text t => s == t
  | list xs, list ys => sameList xs ys
  | dict es, dict fs => es.length == fs.length && sameEntries es fs
  | point p, point q => p == q
  | bounds b, bounds c => b == c
  | date d, date e => d == e
  | moment m, moment n => m.same n
  | bytes xs, bytes ys => xs == ys
  | pair a b, pair c d => same a c && same b d
  | set xs, set ys => xs.length == ys.length && sameMembers xs ys
  | ring cs i, ring ds j => i == j && sameList cs ds
  | again i, again j => i == j
  | v, w =>
    match v.number?, w.number? with
    | some a, some b => a.same b
    | _, _ => false

def sameList : List Value → List Value → Bool
  | [], [] => true
  | v :: vs, w :: ws => same v w && sameList vs ws
  | _, _ => false

def sameEntries : List (Value × Value) → List (Value × Value) → Bool
  | [], _ => true
  | (k, v) :: es, fs => fs.any (fun f => same k f.1 && same v f.2) && sameEntries es fs

def sameMembers : List Value → List Value → Bool
  | [], _ => true
  | v :: vs, ws => ws.any (same v ·) && sameMembers vs ws

end

instance : BEq Value := ⟨same⟩

/-- Whether a value counts as true: zero and what is empty do not. -/
def truthy : Value → Bool
  | null => false
  | bool b => b
  | int n => n != 0
  | float x => x != 0
  | text s => !s.isEmpty
  | list xs => !xs.isEmpty
  | dict es => !es.isEmpty
  | bytes bs => !bs.isEmpty
  | set xs => !xs.isEmpty
  | _ => true

def text? : Value → Option String
  | text s => some s
  | _ => none

def isKey : Value → Bool
  | list _ | dict _ | bounds _ | set _ | ring .. | again _ => false
  | pair a b => isKey a && isKey b
  | _ => true

end Value

namespace Entries

def get? (es : Entries) (key : String) : Option Value :=
  (es.find? fun e => e.1.text? == some key).map Prod.snd

def has (es : Entries) (key : String) : Bool := (es.get? key).isSome

/-- Gives a key its value, in its old place when the key is there already. -/
def insert (es : Entries) (key value : Value) : Entries :=
  if es.any (·.1.same key) then es.map fun e => if e.1.same key then (e.1, value) else e
  else es ++ [(key, value)]

/-- Adds all entries of `fs`, which win over those of `es`. -/
def update (es fs : Entries) : Entries := fs.foldl (fun acc e => acc.insert e.1 e.2) es

def ofList (es : List (Value × Value)) : Entries := update [] es

def erase (es : Entries) (key : String) : Entries := es.filter fun e => e.1.text? != some key

@[simp] theorem get?_nil (key : String) : get? [] key = none := rfl

theorem get?_cons (e : Value × Value) (es : Entries) (key : String) :
    get? (e :: es) key = if e.1.text? = some key then some e.2 else get? es key := by
  by_cases h : e.1.text? = some key
  · simp [get?, h]
  · rw [get?, List.find?_cons_of_neg (by simpa using h), if_neg h, get?]

end Entries
end TouchPath
