import TouchPath.Value.Text

/-! # Faults

Why an operation has no result. Most causes have a message for the user; the last group are misuses
of a value, told apart by their kind alone. A message never shows an integer of more than
`maxDigits` digits: such a fault is raised as an unusable value instead.
-/
namespace TouchPath
set_option autoImplicit false

inductive Fault where
  /-- A text that is no rectangle. -/
  | boundsText (given : Value)
  | stepCount (given : Value)
  | angleRange (given : Value)
  | unknownDirection (given : String)
  | outsideBounds (relative : Point) (bounds : Bounds)
  | emptyTimeline
  | missingParameter (name : String)
  | notNumber (name : String) (given : Value)
  | notPoint (name : String) (given : Value)
  | notBoundsFields (name : String) (given : Value)
  | notBounds (name : String) (given : Value)
  | unknownShape (name : String) (known : List String)
  | noShapes
  | fingersNotList
  | badEntry (given : Value)
  /-- A document that is no YAML, with the problem in the reader's words. -/
  | settingsSyntax (path problem : String)
  | settingsNotMapping (path : String)
  | scriptSyntax (path problem : String)
  | scriptNotMapping (path : String)
  /-- A segment that would take less than no time. -/
  | negativeDuration (start stop : Point) (time : Number)
  /-- The anchor at `index` is earlier than the one before it. -/
  | clockBackwards (index : Nat) (time previous : Number)
  /-- A segment that does not start where the one before it ended. -/
  | gap (index : Nat) (start previousStop : Point)
  | wrongType
  | badValue
  | missingKey
  | noIndex
  | noAttribute
  | overflow
  | divisionByZero
  | isDirectory
  | noFile
  | notDirectory
  | nameTooLong
  | recursion
  deriving Inhabited

namespace Fault

inductive Family where
  | argument
  | geometry
  | continuity
  deriving DecidableEq, Repr

def family? : Fault → Option Family
  | negativeDuration .. | clockBackwards .. => some .geometry
  | gap .. => some .continuity
  | wrongType | badValue | missingKey | noIndex | noAttribute | overflow | divisionByZero
  | isDirectory | noFile | notDirectory | nameTooLong | recursion => none
  | _ => some .argument

def numberText : Number → String
  | .int n => toString n
  | .float x => floatText x

def message : Fault → String
  | boundsText v => s!"'{v.display}' is not in the required format [x1,y1][x2,y2]."
  | stepCount v => s!"Circle step count must be positive, got {v.display}"
  | angleRange v => s!"Angular value '{v.display}' is not in the acceptable range [2; 355]."
  | unknownDirection s => s!"Unknown swipe direction '{s}'"
  | outsideBounds p b => s!"Point {p.text} not in element bounds {b.text}."
  | emptyTimeline => "Cannot compile an empty timeline"
  | missingParameter name => s!"Missing required parameter '{name}'"
  | notNumber name v => s!"Parameter '{name}' must be a number, got {v.literal}"
  | notPoint name v =>
    s!"Parameter '{name}' must be an [x, y] pair or an x/y mapping, got {v.literal}"
  | notBoundsFields name v =>
    s!"Parameter '{name}' needs integer x, y, width and height, got {v.literal}"
  | notBounds name v => s!"Parameter '{name}' must be a bounds string or mapping, got {v.literal}"
  | unknownShape name known =>
    let names := ", ".intercalate known
    s!"Unknown shape '{name}'. Known shapes: {names}"
  | noShapes => "Gesture script has no shapes"
  | fingersNotList => "'fingers' must be a list of shape entries"
  | badEntry v => s!"Script entry must be a mapping with a 'shape' key, got {v.literal}"
  | settingsSyntax path problem => s!"Config {path} is not valid YAML: {problem}"
  | settingsNotMapping path => s!"Config {path} must contain a mapping"
  | scriptSyntax path problem => s!"Gesture script {path} is not valid YAML: {problem}"
  | scriptNotMapping path => s!"Gesture script {path} must contain a mapping"
  | negativeDuration p q t =>
    s!"Segment {p.text} -> {q.text} has negative duration {numberText t}ms"
  | clockBackwards i t u =>
    s!"Anchor {i} at {numberText t}ms precedes anchor {i - 1} at {numberText u}ms"
  | gap i p q => s!"Segment {i} starts at {p.text} but the previous segment ended at {q.text}"
  | wrongType => "wrong type"
  | badValue => "unusable value"
  | missingKey => "missing key"
  | noIndex => "index out of range"
  | noAttribute => "no such attribute"
  | overflow => "number out of range"
  | divisionByZero => "division by zero"
  | isDirectory => "is a directory"
  | noFile => "no such file"
  | notDirectory => "not a directory"
  | nameTooLong => "name too long"
  | recursion => "too much recursion"

/-- The values whose integers the message shows. -/
def shown : Fault → List Value
  | boundsText v | stepCount v | angleRange v => v.displayed
  | notNumber _ v | notPoint _ v | notBoundsFields _ v | notBounds _ v | badEntry v => [v]
  | outsideBounds p b => .point p :: (Value.bounds b).displayed
  | negativeDuration p q t => [.point p, .point q, .ofNumber t]
  | clockBackwards _ t u => [.ofNumber t, .ofNumber u]
  | gap _ p q => [.point p, .point q]
  | _ => []

def writable (f : Fault) : Bool := f.shown.all Value.writable

/-- What is raised for a cause: the cause itself when its message can be written. -/
def raised (f : Fault) : Fault := if f.writable then f else badValue

theorem raised_eq_self {f : Fault} (h : f.writable = true) : f.raised = f := by simp [raised, h]

end Fault

def fail {α : Type} (f : Fault) : Except Fault α := .error f.raised

/-- An integer as a text, if it has at most `maxDigits` digits. -/
def writeInt (n : Int) : Except Fault String :=
  if n.natAbs < unwritable then .ok (toString n) else .error .badValue

def writeValue (v : Value) : Except Fault String :=
  if v.displayed.all Value.writable then .ok v.display else .error .badValue

/-- A number as a text, if it is a float or has at most `maxDigits` digits. -/
def writeNumber : Number → Except Fault String
  | .int n => writeInt n
  | .float x => .ok (floatText x)

namespace Bounds

/-- The text of a rectangle, if its corners can be written. -/
def write (b : Bounds) : Except Fault String := writeValue (.bounds b)

def parse (s : String) : Except Fault Bounds :=
  match numerals? s.toList with
  | some [x1, y1, x2, y2] =>
    if [x1, y1, x2, y2].all (·.digits.length ≤ maxDigits) then
      .ok (ofCorners ⟨x1.value, y1.value⟩ ⟨x2.value, y2.value⟩)
    else .error .badValue
  | _ => fail (.boundsText (.text s))

/-- Reads a rectangle from a value, which has to be a text. -/
def parseValue : Value → Except Fault Bounds
  | .text s => parse s
  | v => fail (.boundsText v)

end Bounds
end TouchPath
