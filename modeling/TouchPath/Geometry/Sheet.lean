import TouchPath.Geometry.Basic

/-! # Rectangles that change in place

A sheet holds rectangles in numbered places. The sizes of a rectangle may be assigned, and its
upper-left corner may be moved under either of two names; a move assigns both sizes before it puts
the corner down. A copy takes a new place and is a rectangle of its own from then on.
-/
namespace TouchPath
set_option autoImplicit false

namespace Bounds

def setWidth (b : Bounds) (width : Int) : Bounds := b.resize width b.height

def setHeight (b : Bounds) (height : Int) : Bounds := b.resize b.width height

inductive Edit where
  | move (target : Point)
  | setUpperLeft (target : Point)
  | setWidth (width : Int)
  | setHeight (height : Int)
  deriving DecidableEq, Repr

namespace Edit

def target? : Edit → Option Point
  | move p | setUpperLeft p => some p
  | setWidth _ | setHeight _ => none

def isMove (e : Edit) : Bool := e.target?.isSome

end Edit

/-- What a rectangle is after an edit. -/
def edit (b : Bounds) : Edit → Bounds
  | .move p | .setUpperLeft p => b.moveTo p
  | .setWidth width => b.setWidth width
  | .setHeight height => b.setHeight height

end Bounds

structure Sheet where
  rects : List Bounds
  deriving Repr

namespace Sheet

def ofBounds (b : Bounds) : Sheet := ⟨[b]⟩

def size (s : Sheet) : Nat := s.rects.length

def at? (s : Sheet) (place : Nat) : Option Bounds := s.rects[place]?

def update (s : Sheet) (place : Nat) (f : Bounds → Bounds) : Sheet := ⟨s.rects.modify place f⟩

/-- Three assignments, each of which finds what the ones before it have left. -/
def moveTo (s : Sheet) (place : Nat) (p : Point) : Sheet :=
  let s := s.update place fun b => b.setWidth (b.width - (p.x - b.upperLeft.x))
  let s := s.update place fun b => b.setHeight (b.height - (p.y - b.upperLeft.y))
  s.update place fun b => { b with upperLeft := p }

def edit (s : Sheet) (place : Nat) : Bounds.Edit → Sheet
  | .move p => s.moveTo place p
  | .setUpperLeft p => s.moveTo place p
  | .setWidth width => s.update place (·.setWidth width)
  | .setHeight height => s.update place (·.setHeight height)

/-- Puts a copy of the rectangle of a place behind all others. -/
def copy (s : Sheet) (place : Nat) : Sheet := ⟨s.rects ++ (s.at? place).toList⟩

inductive Action where
  | edit (place : Nat) (e : Bounds.Edit)
  | copy (place : Nat)
  deriving DecidableEq, Repr

def act (s : Sheet) : Action → Sheet
  | .edit place e => s.edit place e
  | .copy place => s.copy place

def run (s : Sheet) (actions : List Action) : Sheet := actions.foldl act s

end Sheet
end TouchPath
