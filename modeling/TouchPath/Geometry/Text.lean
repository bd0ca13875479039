import TouchPath.Geometry.Basic
import TouchPath.Number.Reading

/-! # Texts of points and rectangles

A rectangle is written `[x1,y1][x2,y2]` by its upper-left and lower-right corners. The reader takes
exactly this form: each number has at most one sign and ASCII digits, and nothing stands around it.
-/
namespace TouchPath
set_option autoImplicit false

namespace Point

def text (p : Point) : String := s!"({p.x}, {p.y})"

def literal (p : Point) : String := s!"Point(x={p.x}, y={p.y})"

end Point

/-- A number as it stands in a text: its sign and its digits. -/
structure Numeral where
  negative : Bool
  digits : List Nat
  deriving DecidableEq, Repr

namespace Numeral

def value (n : Numeral) : Int := applySign n.negative (ofDigits 10 n.digits)

/-- A sign if there is one, then as many ASCII digits as there are, at least one. -/
def take? (cs : List Char) : Option (Numeral × List Char) :=
  let (negative, rest) := takeSign cs
  let digits := rest.takeWhile Char.isDigit
  if digits.isEmpty then none
  else some (⟨negative, digits.map (·.toNat - 48)⟩, rest.dropWhile Char.isDigit)

end Numeral

/-- What follows a character that has to come first. -/
def after? (c : Char) : List Char → Option (List Char)
  | [] => none
  | d :: cs => if d = c then some cs else none

namespace Bounds

def textChars (b : Bounds) : List Char :=
  let corner (p : Point) : List Char :=
    '[' :: ((toString p.x).toList ++ ',' :: ((toString p.y).toList ++ [']']))
  corner b.upperLeft ++ corner b.lowerRight

def text (b : Bounds) : String := String.ofList b.textChars

def literal (b : Bounds) : String :=
  s!"Bounds(upper_left={b.upperLeft.literal}, width={b.width}, height={b.height})"

def takeCorner? (cs : List Char) : Option (Numeral × Numeral × List Char) := do
  let cs ← after? '[' cs
  let (x, cs) ← Numeral.take? cs
  let cs ← after? ',' cs
  let (y, cs) ← Numeral.take? cs
  let cs ← after? ']' cs
  return (x, y, cs)

/-- The four numbers of a text that is a rectangle as a whole. -/
def numerals? (cs : List Char) : Option (List Numeral) := do
  let (x1, y1, cs) ← takeCorner? cs
  let (x2, y2, cs) ← takeCorner? cs
  if cs.isEmpty then some [x1, y1, x2, y2] else none

end Bounds
end TouchPath
