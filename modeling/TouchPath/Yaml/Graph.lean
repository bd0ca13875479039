import TouchPath.Yaml.Problem
import TouchPath.Yaml.Tag

/-! # Graphs of nodes

The nodes of a document are numbered, and a container names its parts by their numbers. So one node
may be part of several containers, and of itself. Merge keys are resolved in the graph
(`Graph.flatten`): the entries merged into a mapping come in front of its own.
-/
namespace TouchPath.Yaml
set_option autoImplicit false

inductive Vertex where
  | scalar (tag text : String)
  | sequence (tag : String) (items : List Nat)
  | mapping (tag : String) (entries : List (Nat × Nat))
  deriving DecidableEq, Repr, Inhabited

namespace Vertex

def tag : Vertex → String
  | scalar t _ => t
  | sequence t _ => t
  | mapping t _ => t

def retag (tag : String) : Vertex → Vertex
  | scalar _ text => scalar tag text
  | sequence _ items => sequence tag items
  | mapping _ entries => mapping tag entries

def size : Vertex → Nat
  | scalar .. => 0
  | sequence _ items => items.length
  | mapping _ entries => entries.length

end Vertex

abbrev Graph := Array Vertex

namespace Graph

def vertex (g : Graph) (n : Nat) : Vertex := g.getD n default

def tagOf (g : Graph) (n : Nat) : String := (g.vertex n).tag

def entries (g : Graph) (n : Nat) : List (Nat × Nat) :=
  match g.vertex n with
  | .mapping _ es => es
  | _ => []

def setVertex (g : Graph) (n : Nat) (v : Vertex) : Graph := g.setIfInBounds n v

/-- Enough steps to go through a graph: its nodes with all that they name. -/
def extent (g : Graph) : Nat := g.foldl (fun total v => total + v.size + 1) 1

/-- The text of a scalar. A mapping has that of its first default entry, which may lead back to the
mapping itself. -/
def text : Nat → Graph → Nat → Attempt String
  | 0, _, _ => .error (.fault .recursion)
  | fuel + 1, g, n =>
    match g.vertex n with
    | .scalar _ s => .ok s
    | .sequence .. => malformed
    | .mapping _ es =>
      match es.find? fun e => g.tagOf e.1 == coreTag "value" with
      | some e => text fuel g e.2
      | none => malformed

/-- Within a mapping, the mark of a default entry is a text like any other key. -/
def plainKeys (g : Graph) (keys : List Nat) : Graph :=
  keys.foldl (fun g k =>
    if g.tagOf k == coreTag "value" then g.setVertex k ((g.vertex k).retag (coreTag "str"))
    else g) g

mutual

/-- Puts the entries merged into a mapping in front of its own. -/
def flatten : Nat → Nat → Graph → Attempt Graph
  | 0, _, _ => .error (.fault .recursion)
  | fuel + 1, n, g => do
    let (merged, g) ← takeMerged fuel n g
    let own := g.entries n
    let g := g.plainKeys (own.map Prod.fst)
    if merged.isEmpty then return g
    else return g.setVertex n (.mapping (g.tagOf n) (merged ++ own))

/-- Takes the merge entries out of a mapping, and gives the entries that they stand for. -/
def takeMerged : Nat → Nat → Graph → Attempt (List (Nat × Nat) × Graph)
  | 0, _, _ => .error (.fault .recursion)
  | fuel + 1, n, g => do
    let own := g.entries n
    match own.find? fun e => g.tagOf e.1 == coreTag "merge" with
    | none => return ([], g)
    | some e =>
      let rest := own.eraseP fun e => g.tagOf e.1 == coreTag "merge"
      let g := g.setVertex n (.mapping (g.tagOf n) rest)
      let (here, g) ← match g.vertex e.2 with
        | .mapping .. => do
          let g ← flatten fuel e.2 g
          pure (g.entries e.2, g)
        | .sequence _ items => do
          let (parts, g) ← flattenEach fuel items g
          pure (parts.reverse.flatten, g)
        | .scalar .. => malformed
      let (more, g) ← takeMerged fuel n g
      return (here ++ more, g)

def flattenEach : Nat → List Nat → Graph → Attempt (List (List (Nat × Nat)) × Graph)
  | 0, _, _ => .error (.fault .recursion)
  | _, [], g => .ok ([], g)
  | fuel + 1, n :: ns, g => do
    match g.vertex n with
    | .mapping .. =>
      let g ← flatten fuel n g
      let here := g.entries n
      let (others, g) ← flattenEach fuel ns g
      return (here :: others, g)
    | _ => malformed

end

end Graph
end TouchPath.Yaml
