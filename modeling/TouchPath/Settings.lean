import TouchPath.Files
import TouchPath.Notice
import TouchPath.Value.Access
import TouchPath.Yaml.Load
import TouchPath.Yaml.Writer

/-! # Settings

The defaults of the shapes. A field holds whatever value it was given; its kind shows only where it
is used. Settings read from a mapping take its known keys and ignore the others, about which a
notice is told when their names can be listed.
-/
namespace TouchPath
set_option autoImplicit false

structure Settings where
  circleSteps : Value := .int 20
  circleDuration : Value := .int 1000
  circleStart : Value := .int 0
  tapHold : Value := .int 0
  longPressHold : Value := .int 1000
  doubleTapInterval : Value := .int 150
  swipeDistance : Value := .int 75
  swipeDuration : Value := .int 250
  dragDuration : Value := .int 500
  pinchDuration : Value := .int 500
  pinchDenominator : Value := .int 10
  checkContinuity : Value := .bool true
  deriving Inhabited

namespace Settings

def standard : Settings := {}

/-- The key of each field with its value, in the order in which they are written. -/
def fields (s : Settings) : List (String × Value) :=
  [("circle_steps", s.circleSteps), ("circle_duration", s.circleDuration),
    ("circle_start", s.circleStart), ("tap_hold", s.tapHold),
    ("long_press_hold", s.longPressHold), ("double_tap_interval", s.doubleTapInterval),
    ("swipe_distance", s.swipeDistance), ("swipe_duration", s.swipeDuration),
    ("drag_duration", s.dragDuration), ("pinch_duration", s.pinchDuration),
    ("pinch_offset_denominator", s.pinchDenominator),
    ("check_continuity", s.checkContinuity)]

def keys : List String := standard.fields.map Prod.fst

def entries (s : Settings) : Entries := s.fields.map fun f => (.text f.1, f.2)

def plainEntries (s : Settings) : Except Fault Entries := Value.plainEntries s.entries

def toValue (s : Settings) : Except Fault Value := do return .dict (← s.plainEntries)

def write (s : Settings) (tags : Yaml.ObjectTags) : Except Fault String := do
  Yaml.dump tags (← s.plainEntries)

/-- The settings with the values that a mapping gives for their keys. -/
def override (s : Settings) (es : Entries) : Settings where
  circleSteps := (es.get? "circle_steps").getD s.circleSteps
  circleDuration := (es.get? "circle_duration").getD s.circleDuration
  circleStart := (es.get? "circle_start").getD s.circleStart
  tapHold := (es.get? "tap_hold").getD s.tapHold
  longPressHold := (es.get? "long_press_hold").getD s.longPressHold
  doubleTapInterval := (es.get? "double_tap_interval").getD s.doubleTapInterval
  swipeDistance := (es.get? "swipe_distance").getD s.swipeDistance
  swipeDuration := (es.get? "swipe_duration").getD s.swipeDuration
  dragDuration := (es.get? "drag_duration").getD s.dragDuration
  pinchDuration := (es.get? "pinch_duration").getD s.pinchDuration
  pinchDenominator := (es.get? "pinch_offset_denominator").getD s.pinchDenominator
  checkContinuity := (es.get? "check_continuity").getD s.checkContinuity

def set (s : Settings) (key : String) (value : Value) : Settings :=
  s.override [(.text key, value)]

def same (s t : Settings) : Bool := (Value.dict s.entries).same (.dict t.entries)

def isKnown (v : Value) : Bool :=
  match v with
  | .text s => keys.contains s
  | _ => false

/-- Names in ascending order, each once. -/
def sortedNames (names : List String) : List String := names.eraseDups.mergeSort (decide <| · ≤ ·)

/-- Tells the names of unknown keys, which have to be texts. -/
def reportUnknown (unknown : List Value) : Reported Unit := do
  match unknown.mapM Value.text? with
  | none => throw .wrongType
  | some [] => return
  | some names => notify (.unknownKeys (sortedNames names))

def ofValue (v : Value) : Reported Settings := do
  let items ← v.elements
  if !items.all Value.isKey then throw .wrongType
  reportUnknown (items.filter (!isKnown ·))
  match v.opened with
  | .dict es => return standard.override es
  | _ => throw .noAttribute

def ofText (words : Yaml.Wording) (path text : String) : Reported Settings := do
  match Yaml.load text with
  | .error .malformed => throw (.settingsSyntax path (words path text))
  | .error (.fault f) => throw f
  | .ok v =>
    if !v.truthy then ofValue (.dict [])
    else
      match v.opened with
      | .dict _ => ofValue v
      | _ => throw (.settingsNotMapping path)

/-- Reads settings from a file; without a name, or without a file of that name, they are the
standard ones. -/
def load (words : Yaml.Wording) (files : Files) (path : Option String) : Reported Settings := do
  match path with
  | none => return standard
  | some given =>
    let path := Files.normalName given
    if ← files.has path then ofText words path (← files.read path)
    else
      notify (.settingsMissing path)
      return standard

end Settings
end TouchPath
