import TouchPath.Compile
import TouchPath.Registry

/-! # Scripts

A script lists shapes with their parameters; every shape adds a finger for each timeline that it
builds. All shapes are built before any timeline is compiled. A step is written as a mapping with
its shape first, and read back from one.
-/
namespace TouchPath
set_option autoImplicit false

structure Step where
  shape : String
  params : Entries
  deriving Inhabited

namespace Step

def toValue (s : Step) : Value := .dict ((.text "shape", .text s.shape) :: s.params)

def ofValue (v : Value) : Except Fault Step :=
  match v.opened with
  | .dict es =>
    match Entries.get? es "shape" with
    | some (.text shape) => .ok ⟨shape, Entries.erase es "shape"⟩
    | _ => fail (.badEntry v)
  | _ => fail (.badEntry v)

end Step

structure Script where
  steps : List Step
  registry : Registry

namespace Script

/-- A script over a registry; one without builders stands for the standard one. -/
def make (steps : List Step) (registry : Option Registry) : Script :=
  match registry with
  | some r => ⟨steps, if r.builders.isEmpty then .standard .standard else r⟩
  | none => ⟨steps, .standard .standard⟩

/-- Names that a parameter given by name cannot have. -/
def reservedNames : List String := ["self", "shape"]

def isParameterName : Value → Bool
  | .text s => !reservedNames.contains s
  | _ => false

/-- Appends a step with parameters given by name. -/
def add (s : Script) (shape : String) (params : Entries) : Except Fault Script :=
  if params.all (isParameterName ·.1) then .ok { s with steps := s.steps ++ [⟨shape, params⟩] }
  else .error .wrongType

def addStep (s : Script) (step : Step) : Script := { s with steps := s.steps ++ [step] }

def timelines (s : Script) : Except Fault (List Timeline) := do
  let built ← s.steps.mapM fun step => s.registry.build step.shape (.dict step.params)
  return built.flatten

/-- Builds and compiles a script, as a whole or with the first fault. -/
def compile? (s : Script) : Except Fault Touch := do
  if s.steps.isEmpty then fail .noShapes
  else Timeline.compileAll (← s.timelines) s.registry.settings.checkContinuity.truthy

/-- Compiles a script and tells how long it lasts. -/
def compile (s : Script) : Reported Touch := do
  let touch ← s.compile?
  let duration ← touch.duration
  notify (.compiled s.steps.length touch.fingers.length duration)
  return touch

def entries (s : Script) : Entries := [(.text "fingers", .list (s.steps.map Step.toValue))]

def toValue (s : Script) : Value := .dict s.entries

def write (s : Script) (tags : Yaml.ObjectTags) : Except Fault String :=
  Yaml.dump tags s.entries

def ofValue (v : Value) (registry : Option Registry) : Except Fault Script := do
  let data := if v.truthy then v else .dict []
  match (← data.fieldD "fingers" (.list [])).opened with
  | .list items => return make (← items.mapM Step.ofValue) registry
  | _ => fail .fingersNotList

def ofText (words : Yaml.Wording) (path text : String) (settings : Settings) :
    Reported Script := do
  match Yaml.load text with
  | .error .malformed =>
    notify (.scriptSyntax path)
    throw (.scriptSyntax path (words path text))
  | .error (.fault f) => throw f
  | .ok v =>
    match v.opened with
    | .null | .dict _ => ofValue v (some (.standard settings))
    | _ =>
      notify (.scriptNotMapping path)
      throw (.scriptNotMapping path)

def load (words : Yaml.Wording) (files : Files) (path : String) (settings : Settings) :
    Reported Script := do
  ofText words path (← files.read path) settings

end Script
end TouchPath
