/-! # A place in a text

The characters that are still to be read, with the line and column reached so far. The end of the
text is seen as the null character, which no text to be read contains. A byte order mark has no
width. The bound exceeds the number of characters, and so the steps of any loop over them.
-/
namespace TouchPath.Yaml
set_option autoImplicit false

def endMark : Char := Char.ofNat 0

def isBreak (c : Char) : Bool :=
  c == '\n' || c == Char.ofNat 0x85 || c == Char.ofNat 0x2028 || c == Char.ofNat 0x2029

def isBreakOrEnd (c : Char) : Bool := isBreak c || c == endMark

/-- A space, a line break or the end. -/
def isGap (c : Char) : Bool := isBreakOrEnd c || c == ' '

/-- A space, a tabulation, a line break or the end. -/
def isWideGap (c : Char) : Bool := isGap c || c == '\t'

/-- The characters of names: anchors, directives and handles of tags. -/
def isWord (c : Char) : Bool := c.isAlphanum || c == '-' || c == '_'

def isHex (c : Char) : Bool :=
  c.isDigit || ('a' ≤ c && c ≤ 'f') || ('A' ≤ c && c ≤ 'F')

def hexValue (cs : List Char) : Nat :=
  cs.foldl (fun n c => n * 16 +
    if c.isDigit then c.toNat - 48 else if c.isUpper then c.toNat - 55 else c.toNat - 87) 0

structure Cursor where
  rest : List Char
  index : Nat
  line : Nat
  column : Nat
  bound : Nat
  deriving Repr, Inhabited

namespace Cursor

def ofText (cs : List Char) : Cursor := ⟨cs, 0, 0, 0, cs.length + 1⟩

def peek (c : Cursor) : Char := c.rest.headD endMark

def ahead (c : Cursor) (n : Nat) : Char := c.rest.getD n endMark

def next (c : Cursor) : Cursor :=
  match c.rest with
  | [] => c
  | ch :: rest =>
    if isBreak ch then ⟨rest, c.index + 1, c.line + 1, 0, c.bound⟩
    else if ch == Char.ofNat 0xFEFF then ⟨rest, c.index + 1, c.line, c.column, c.bound⟩
    else ⟨rest, c.index + 1, c.line, c.column + 1, c.bound⟩

def skip (c : Cursor) (n : Nat) : Cursor := n.repeat next c

/-- The run of characters with a property, and the place after it. -/
def span (c : Cursor) (p : Char → Bool) : List Char × Cursor :=
  let run := c.rest.takeWhile p
  (run, c.skip run.length)

def skipWhile (c : Cursor) (p : Char → Bool) : Cursor := (c.span p).2

/-- A line break here, as it counts in a scalar, and the place after it. -/
def lineBreak? (c : Cursor) : Option (Char × Cursor) :=
  let ch := c.peek
  if ch == '\n' || ch == Char.ofNat 0x85 then some ('\n', c.next)
  else if isBreak ch then some (ch, c.next)
  else none

/-- Whether three dashes or three dots stand here before a gap. -/
def atMarker (c : Cursor) (dot : Char) : Bool :=
  c.rest.take 3 == [dot, dot, dot] && isWideGap (c.ahead 3)

def atSeparator (c : Cursor) : Bool := c.atMarker '-' || c.atMarker '.'

end Cursor
end TouchPath.Yaml
