import TouchPath.Yaml.Tag

/-! # Nodes

The tree of a value as it is written: tagged scalars, sequences and mappings.
-/
namespace TouchPath.Yaml
set_option autoImplicit false

inductive Node where
  | scalar (tag text : String)
  | sequence (tag : String) (items : List Node)
  | mapping (tag : String) (entries : List (Node × Node))
  deriving Inhabited

end TouchPath.Yaml
