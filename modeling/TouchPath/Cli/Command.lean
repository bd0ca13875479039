import TouchPath.Circle
import TouchPath.Cli.Arguments
import TouchPath.Shape

/-! # Commands

The five commands with their arguments, read from a command line. A command line that is none of
them, lacks an argument, has one too many or one that cannot be read, has no command.
-/
namespace TouchPath.Cli
set_option autoImplicit false

inductive Command where
  | circle (center : Point) (radius : Float) (steps duration start : Option Int)
      (compiled : Bool) (settings : Option String)
  | curve (start stop : Point) (angle : Float) (positive : Bool) (duration : Int)
      (compiled : Bool)
  | swipe (start : Point) (direction : Direction) (width height : Int) (compiled : Bool)
      (settings : Option String)
  | parseBounds (text : String)
  | compile (script : String) (output settings : Option String)

inductive Request where
  | help
  | run (command : Command)

namespace Command

def valued (name : String) : Flag := ⟨name, true⟩

def bare (name : String) : Flag := ⟨name, false⟩

def helpFlag : Flag := bare "--help"

def topFlags : List Flag := [valued "--log-level", helpFlag]

def flagsOf : String → Option (List Flag)
  | "circle" =>
    some [valued "--steps", valued "--duration", valued "--start", bare "--compiled",
      valued "--config", helpFlag]
  | "curve" => some [bare "--negative", valued "--duration", bare "--compiled", helpFlag]
  | "swipe" =>
    some [valued "--width", valued "--height", bare "--compiled", valued "--config", helpFlag]
  | "parse-bounds" => some [helpFlag]
  | "compile" => some [valued "-o", valued "--config", helpFlag]
  | _ => none

def intOption (a : Arguments) (name : String) : Option (Option Int) :=
  optional? readInt? (a.value? name)

def circleOf (a : Arguments) : Option Command := do
  let [x, y, radius] := a.positional | none
  some (.circle ⟨← readInt? x, ← readInt? y⟩ (← readFloat? radius) (← intOption a "--steps")
    (← intOption a "--duration") (← intOption a "--start") (a.has "--compiled")
    (a.value? "--config"))

def curveOf (a : Arguments) : Option Command := do
  let [x1, y1, x2, y2, angle] := a.positional | none
  let duration := (← intOption a "--duration").getD 500
  some (.curve ⟨← readInt? x1, ← readInt? y1⟩ ⟨← readInt? x2, ← readInt? y2⟩
    (← readFloat? angle) (!a.has "--negative") duration (a.has "--compiled"))

def swipeOf (a : Arguments) : Option Command := do
  let [x, y, direction] := a.positional | none
  let width := (← intOption a "--width").getD 1080
  let height := (← intOption a "--height").getD 1920
  some (.swipe ⟨← readInt? x, ← readInt? y⟩ (← Direction.ofName? direction) width height
    (a.has "--compiled") (a.value? "--config"))

def parseBoundsOf (a : Arguments) : Option Command := do
  let [text] := a.positional | none
  some (.parseBounds text)

def compileOf (a : Arguments) : Option Command := do
  let [script] := a.positional | none
  some (.compile script (a.value? "-o") (a.value? "--config"))

def ofArguments? (name : String) (a : Arguments) : Option Command :=
  match name with
  | "circle" => circleOf a
  | "curve" => curveOf a
  | "swipe" => swipeOf a
  | "parse-bounds" => parseBoundsOf a
  | "compile" => compileOf a
  | _ => none

def parse? (args : List String) : Option Request := do
  let top ← Cli.parse? topFlags false args
  if top.has "--help" then some .help
  else
    let name :: rest := top.positional | none
    let a ← Cli.parse? (← flagsOf name) true rest
    if a.has "--help" then some .help else return .run (← ofArguments? name a)

end Command
end TouchPath.Cli
