import TouchPath.Number.Reading

/-! # Command line arguments

Options have a long name after two dashes, or one letter after a single dash. A value stands in the
next argument, after an equals sign, or right behind a letter; the last value of an option counts.
Two dashes alone end the options. Every argument is an option, a value of one, or positional
(`parse?`), else there is no reading.
-/
namespace TouchPath.Cli
set_option autoImplicit false

structure Flag where
  name : String
  takesValue : Bool

/-- An option with its value, empty for an option without one. -/
abbrev Setting := String × String

structure Arguments where
  settings : List Setting
  positional : List String
  deriving Inhabited, Repr

namespace Arguments

def give (name value : String) (a : Arguments) : Arguments :=
  { a with settings := (name, value) :: a.settings }

def place (arg : String) (a : Arguments) : Arguments :=
  { a with positional := arg :: a.positional }

def value? (a : Arguments) (name : String) : Option String := a.settings.reverse.lookup name

def has (a : Arguments) (name : String) : Bool := (a.value? name).isSome

end Arguments

def looksLikeOption (arg : String) : Bool := arg.startsWith "-" && 1 < arg.length

/-- An argument up to its first equals sign, and the value behind it. -/
def splitValue (arg : String) : String × Option String :=
  let cs := arg.toList
  let name := String.ofList (cs.takeWhile (· != '='))
  match cs.dropWhile (· != '=') with
  | [] => (name, none)
  | _ :: value => (name, some (String.ofList value))

/-- How an argument that looks like an option is read: with a value of its own, with the next
argument as value, without one, or not at all. -/
inductive Form where
  | complete (name value : String)
  | needsValue (name : String)
  | unknown

def formOf (flags : List Flag) (arg : String) : Form :=
  let (name, value) := splitValue arg
  match (flags.filter (·.name.startsWith "--")).find? (·.name == name), value with
  | some f, some v => if f.takesValue then .complete name v else .unknown
  | some f, none => if f.takesValue then .needsValue name else .complete name ""
  | none, _ =>
    let letter := String.ofList (arg.toList.take 2)
    let rest := String.ofList (arg.toList.drop 2)
    match flags.find? (·.name == letter) with
    | some f =>
      if !f.takesValue then .unknown
      else if rest.isEmpty then .needsValue letter else .complete letter rest
    | none => .unknown

/-- Reads arguments. Where options may not stand behind positional arguments, the first of these
ends the options. -/
def parse? (flags : List Flag) (interspersed : Bool) : List String → Option Arguments
  | [] => some ⟨[], []⟩
  | arg :: rest =>
    if arg = "--" then some ⟨[], rest⟩
    else if looksLikeOption arg then
      match formOf flags arg with
      | .complete name v => (parse? flags interspersed rest).map (.give name v)
      | .needsValue name =>
        match rest with
        | v :: rest => (parse? flags interspersed rest).map (.give name v)
        | [] => none
      | .unknown => none
    else if interspersed then (parse? flags interspersed rest).map (.place arg)
    else some ⟨[], arg :: rest⟩

def optional? {α : Type} (read : String → Option α) : Option String → Option (Option α)
  | none => some none
  | some s => (read s).map some

end TouchPath.Cli
