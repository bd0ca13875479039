import TouchPath.Cli.Command
import TouchPath.Gesture.Record
import TouchPath.Json
import TouchPath.Number.Places
import TouchPath.Script

/-! # What a command does

A command prints its result, may write one file, or ends with a report of a fault. Some faults are
not reported but left to escape: those that have no message, and those of settings and of the
compilation of a single timeline.
-/
namespace TouchPath.Cli
set_option autoImplicit false

inductive Outcome where
  | help
  | usage
  | done (output : String) (written : Option (String × String))
  | failed (report : String)
  | escaped (fault : Fault)
  deriving Inhabited

namespace Outcome

def exitCode : Outcome → UInt32
  | help => 0
  | usage => 2
  | done .. => 0
  | failed _ => 1
  | escaped _ => 1

end Outcome

/-- The report of a fault, which has characters only. -/
def reportOf (message : String) : Outcome :=
  .failed ("Error: " ++ Text.spellOut message ++ "\n")

def print (text : String) : Outcome := .done (text ++ "\n") none

/-- Reports a fault that has a message; any other one escapes. -/
def report (f : Fault) : Reported Outcome :=
  if f.family?.isSome then return reportOf f.message else throw f

def payload (t : Timeline) (compiled : Bool) : Except Fault Value :=
  if compiled then do return (← t.compile true).toValue else .ok t.toValue

section

variable (real : Float → String) (words : Yaml.Wording)

def emit (t : Timeline) (compiled : Bool) : Reported Outcome := do
  return print (← Json.write real (← payload t compiled))

/-- Prints a timeline; a fault in making it is reported, one in compiling it escapes. -/
def emitMade (made : Except Fault Timeline) (compiled : Bool) : Reported Outcome :=
  match made with
  | .ok t => emit real t compiled
  | .error f => report f

/-- The circle under settings, which an option overrides. -/
def circleTimeline (s : Settings) (center : Point) (radius : Float)
    (steps duration start : Option Int) : Except Fault Timeline :=
  let orSetting (given : Option Int) (field : Value) : Value := (given.map Value.int).getD field
  TouchPath.circle center (.float radius) (orSetting start s.circleStart)
    (orSetting duration s.circleDuration) (orSetting steps s.circleSteps)

def curveTimeline (start stop : Point) (angle : Float) (positive : Bool) (duration : Int) :
    Except Fault Timeline :=
  TouchPath.curve (.ofPoint start (0 : Int)) (.ofPoint stop duration) (.float angle) positive

def swipeTimeline (s : Settings) (start : Point) (direction : Direction) (width height : Int) :
    Except Fault Timeline :=
  TouchPath.swipe start direction width height s.swipeDistance s.swipeDuration

/-- A rectangle with its center and the length of its diagonal to three places. -/
def boundsValue (b : Bounds) : Except Fault Value := do
  let diagonal := roundPlaces 3 (← b.diagonal)
  return .dict [(.text "x", .int b.upperLeft.x), (.text "y", .int b.upperLeft.y),
    (.text "width", .int b.width), (.text "height", .int b.height),
    (.text "center", .list [.int b.center.x, .int b.center.y]), (.text "diagonal", .float diagonal)]

/-- Prints a compiled touch, or writes it to a file and says so. -/
def deliver (files : Files) (touch : Touch) (output : Option String) : Reported Outcome := do
  let text ← Json.write real touch.toValue
  match output with
  | none | some "" => return print text
  | some name =>
    files.checkWrite (Files.normalName name)
    let count := touch.fingers.length
    return .done s!"Wrote {count} finger(s) to {name}\n" (some (Files.normalName name, text))

def compileScript (files : Files) (script : String) (settings : Option String) :
    Reported Touch := do
  let s ← Settings.load words files settings
  (← Script.load words files (Files.normalName script) s).compile

def Command.perform (files : Files) : Command → Reported Outcome
  | .circle center radius steps duration start compiled settings => do
    let s ← Settings.load words files settings
    emitMade real (circleTimeline s center radius steps duration start) compiled
  | .curve start stop angle positive duration compiled =>
    emitMade real (curveTimeline start stop angle positive duration) compiled
  | .swipe start direction width height compiled settings => do
    let s ← Settings.load words files settings
    emit real (← swipeTimeline s start direction width height) compiled
  | .parseBounds text =>
    match Bounds.parse text with
    | .ok b => do return print (← Json.write real (← boundsValue b))
    | .error f => report f
  | .compile script output settings => do
    if !(← files.has (Files.normalName script)) then
      return reportOf s!"script not found: {script}"
    else
      match ← (compileScript words files script settings).attempt with
      | .ok touch => deliver real files touch output
      | .error f => report f

def run (files : Files) (args : List String) : Outcome × List Notice :=
  match Command.parse? args with
  | none => (.usage, [])
  | some .help => (.help, [])
  | some (.run command) =>
    match (command.perform real words files).report with
    | (.ok outcome, notices) => (outcome, notices)
    | (.error f, notices) => (.escaped f, notices)

end

end TouchPath.Cli
