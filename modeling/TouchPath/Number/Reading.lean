import TouchPath.Text.Blank
import TouchPath.Text.Digit

/-! # Numbers read from text

Blanks around a number are dropped, digits may be of any script, and single underscores may stand
between digits. An integer has at most 4300 digits. A float has digits before or after its point,
an optional exponent, or is one of the names of infinity and of the undefined value in any case.
-/
namespace TouchPath
open Text
set_option autoImplicit false

/-- The most digits an integer may have when it is read from a text or written into one. -/
def maxDigits : Nat := 4300

/-- The least magnitude with more than `maxDigits` digits. -/
def unwritable : Nat := Nat.pow 10 maxDigits

def splitAtChar (sep : Char) : List Char → List (List Char)
  | [] => [[]]
  | c :: cs =>
    match splitAtChar sep cs with
    | [] => [[c]]
    | piece :: pieces => if c = sep then [] :: piece :: pieces else (c :: piece) :: pieces

def digits? (cs : List Char) : Option (List Nat) :=
  if cs.isEmpty then none else cs.mapM digit?

/-- Digits with single underscores between them. -/
def digitRun? (cs : List Char) : Option (List Nat) :=
  ((splitAtChar '_' cs).mapM digits?).map List.flatten

def ofDigits (base : Nat) (ds : List Nat) : Nat := ds.foldl (fun n d => n * base + d) 0

def takeSign : List Char → Bool × List Char
  | '-' :: cs => (true, cs)
  | '+' :: cs => (false, cs)
  | cs => (false, cs)

def applySign (negative : Bool) (n : Nat) : Int := if negative then -n else n

def readInt? (s : String) : Option Int := do
  let (negative, cs) := takeSign (strip s.toList)
  let ds ← digitRun? cs
  if ds.length ≤ maxDigits then some (applySign negative (ofDigits 10 ds)) else none

def optionalRun? (cs : List Char) : Option (List Nat) :=
  if cs.isEmpty then some [] else digitRun? cs

def lowered (cs : List Char) : List Char := cs.map Char.toLower

/-- `digits * 10 ^ exponent` as the nearest float. An exponent that leaves nothing but infinity or
zero is not computed with. -/
def scientific (digits : Nat) (exponent : Int) : Float :=
  if digits = 0 then 0
  else if 400 < exponent then 1.0 / 0.0
  else if exponent + digits.log2 < -401 then 0
  else Float.ofScientific digits (decide (exponent < 0)) exponent.natAbs

/-- Digits around a point, at least one digit in all. -/
def readMantissa? (cs : List Char) : Option (Nat × Nat) := do
  let whole ← optionalRun? (cs.takeWhile (· != '.'))
  let rest := cs.dropWhile (· != '.')
  let frac ← optionalRun? (rest.drop 1)
  if whole.isEmpty && frac.isEmpty then none
  else some (ofDigits 10 (whole ++ frac), frac.length)

def readExponent? : List Char → Option Int
  | [] => some 0
  | _ :: cs => do
    let (negative, cs) := takeSign cs
    let ds ← digitRun? cs
    some (applySign negative (ofDigits 10 ds))

def isExponentMark (c : Char) : Bool := c == 'e' || c == 'E'

def readMagnitude? (cs : List Char) : Option Float :=
  let name := lowered cs
  if name = "inf".toList || name = "infinity".toList then some (1.0 / 0.0)
  else if name = "nan".toList then some (0.0 / 0.0)
  else do
    let (digits, places) ← readMantissa? (cs.takeWhile (!isExponentMark ·))
    let exponent ← readExponent? (cs.dropWhile (!isExponentMark ·))
    some (scientific digits (exponent - places))

def readFloat? (s : String) : Option Float := do
  let (negative, cs) := takeSign (strip s.toList)
  let x ← readMagnitude? cs
  some (if negative then -x else x)

end TouchPath
