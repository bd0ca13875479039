import TouchPath.Number.Arithmetic

/-! # Notices

What happened on the way and is told beside the result: warnings and information, each on the
channel of one part of the library. They are kept when the operation fails afterwards. A notice
holds what it is about; it is put into words only where it is shown.
-/
namespace TouchPath
set_option autoImplicit false

inductive Notice where
  | unknownKeys (keys : List String)
  | settingsMissing (path : String)
  | builderReplaced (key : String)
  | scriptSyntax (path : String)
  | scriptNotMapping (path : String)
  | compiled (steps fingers : Nat) (duration : Number)
  deriving Inhabited

inductive Level where
  | warning
  | info
  deriving DecidableEq, Repr

inductive Channel where
  | settings
  | registry
  | script
  deriving DecidableEq, Repr

namespace Notice

def level : Notice → Level
  | unknownKeys _ | scriptSyntax _ | scriptNotMapping _ => .warning
  | settingsMissing _ | builderReplaced _ | compiled .. => .info

def channel : Notice → Channel
  | unknownKeys _ | settingsMissing _ => .settings
  | builderReplaced _ => .registry
  | scriptSyntax _ | scriptNotMapping _ | compiled .. => .script

/-- A notice in words. A duration is shown in whole milliseconds, which have to be written. -/
def message : Notice → Except Fault String
  | unknownKeys keys =>
    let names := ", ".intercalate keys
    return s!"Ignoring unknown config keys: {names}"
  | settingsMissing path => return s!"Config {path} not found, using defaults"
  | builderReplaced key => return s!"Replacing builder for shape '{key}'"
  | scriptSyntax path => return s!"Rejected gesture script {path}: invalid YAML"
  | scriptNotMapping path => return s!"Rejected gesture script {path}: top level is not a mapping"
  | compiled steps fingers duration => do
    let whole ← writeInt (← duration.trunc)
    return s!"Compiled script with {steps} step(s) into {fingers} finger(s), {whole}ms"

end Notice

/-- An operation that may fail and tells notices. -/
abbrev Reported := ExceptT Fault (StateM (List Notice))

def notify (n : Notice) : Reported Unit := modify (· ++ [n])

namespace Reported

variable {α : Type}

/-- The result of an operation as a value; its notices are told all the same. -/
def attempt (r : Reported α) : Reported (Except Fault α) := ExceptT.lift (ExceptT.run r)

/-- The result together with the notices told on the way. -/
def report (r : Reported α) : Except Fault α × List Notice := (ExceptT.run r).run []

end Reported
end TouchPath
