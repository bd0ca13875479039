import TouchPath.Fault

/-! # Why a text gives no value

Either the text is malformed, or one of its scalars cannot be turned into the value that its tag
asks for.
-/
namespace TouchPath.Yaml
set_option autoImplicit false

inductive Problem where
  | malformed
  | fault (f : Fault)
  deriving Inhabited

abbrev Attempt := Except Problem

/-- The reader's words for what is malformed in a text, which stands in a file of some name. -/
abbrev Wording := String → String → String

/-- Words that name the file and nothing of its text. -/
def Wording.ofName : Wording := fun path _ => s!"in \"{path}\""

def malformed {α : Type} : Attempt α := .error .malformed

def require (b : Bool) : Attempt Unit := if b then .ok () else malformed

end TouchPath.Yaml
