import TouchPath.Value.Members
import TouchPath.Yaml.Atom
import TouchPath.Yaml.Document

/-! # Values of documents

Every node becomes one value. A scalar has its value at once; a container is a cell first, and is
filled when its turn comes, in the order in which the containers were met. So a container may name
itself. Cells that do not lead back to themselves are replaced by their contents in the end; what
remains is a ring. In a mapping the last of several entries with one key wins, in the place of the
first.
-/
namespace TouchPath.Yaml
set_option autoImplicit false

structure Made where
  value : Value
  mark : Nat
  deriving Inhabited

namespace Made

def isUndefined (m : Made) : Bool :=
  match m.value with
  | .float x => x.isNaN
  | _ => false

def sameKey (a b : Made) : Bool :=
  a.value.same b.value || (a.isUndefined && b.isUndefined && a.mark == b.mark)

def insert (es : List (Made × Value)) (e : Made × Value) : List (Made × Value) :=
  if es.any (·.1.sameKey e.1) then
    es.map fun f => if f.1.sameKey e.1 then (f.1, e.2) else f
  else es ++ [e]

end Made

/-- The nodes that have values, the cells, and the nodes whose cells are still to be filled, the
last one first. -/
structure Loader where
  graph : Graph
  made : Array (Option Made)
  cells : Array Value
  pending : List (Nat × Nat)
  /-- Bounds the steps that merging takes. -/
  bound : Nat

abbrev Loading := StateT Loader Attempt

namespace Loading

def start (g : Graph) : Loader :=
  ⟨g, Array.replicate g.size none, #[], [], (g.extent + 3) * (g.extent + 3)⟩

def containerTags : List String :=
  [coreTag "map", coreTag "seq", coreTag "set", coreTag "omap", coreTag "pairs"]

def addCell (n : Nat) : Loading Value :=
  modifyGet fun l =>
    (.again l.cells.size,
      { l with cells := l.cells.push .null, pending := (n, l.cells.size) :: l.pending })

def makeScalar (n : Nat) : Loading Made := do
  let g := (← get).graph
  match scalarReaders.lookup (g.tagOf n) with
  | none => throw .malformed
  | some read =>
    let text ← g.text (g.size + 1) n
    match g.vertex n with
    | .mapping tag _ => if tag = coreTag "timestamp" then throw (.fault .wrongType)
    | _ => pure ()
    return ⟨← read text, if isUndefinedName text then 0 else n + 1⟩

/-- The value of a node, which is made once. -/
def make (n : Nat) : Loading Made := do
  match (← get).made.getD n none with
  | some m => return m
  | none =>
    let m ←
      if containerTags.contains ((← get).graph.tagOf n) then do pure (Made.mk (← addCell n) 0)
      else makeScalar n
    modify fun l => { l with made := l.made.setIfInBounds n (some m) }
    return m

def makeItems (n : Nat) : Loading (List Value) := do
  match (← get).graph.vertex n with
  | .sequence _ items => items.mapM fun i => do return (← make i).value
  | _ => throw .malformed

def makeEntry (e : Nat × Nat) : Loading (Made × Value) := do
  let key ← make e.1
  if !key.value.isKey then throw .malformed
  return (key, (← make e.2).value)

def makeEntries (n : Nat) : Loading (List (Value × Value)) := do
  match (← get).graph.vertex n with
  | .mapping .. =>
    let l ← get
    let g ← l.graph.flatten l.bound n
    set { l with graph := g }
    let es ← (g.entries n).mapM makeEntry
    return (es.foldl Made.insert []).map fun e => (e.1.value, e.2)
  | _ => throw .malformed

/-- Items that are mappings of one entry each, as pairs. -/
def makePairs (n : Nat) : Loading (List Value) := do
  match (← get).graph.vertex n with
  | .sequence _ items =>
    items.mapM fun i => do
      match (← get).graph.vertex i with
      | .mapping _ [(k, v)] => return .pair (← make k).value (← make v).value
      | _ => throw .malformed
  | _ => throw .malformed

def fill (job : Nat × Nat) : Loading Unit := do
  let (n, cell) := job
  let tag := (← get).graph.tagOf n
  let v ←
    if tag = coreTag "seq" then do pure (Value.list (← makeItems n))
    else if tag = coreTag "map" then do pure (Value.dict (← makeEntries n))
    else if tag = coreTag "set" then do
      pure (Value.set (Members.ordered ((← makeEntries n).map Prod.fst)))
    else do pure (Value.list (← makePairs n))
  modify fun l => { l with cells := l.cells.setIfInBounds cell v }

def fillAll : Nat → Loading Unit
  | 0 => return
  | fuel + 1 => do
    match (← get).pending with
    | [] => return
    | jobs =>
      modify fun l => { l with pending := [] }
      jobs.reverse.forM fill
      fillAll fuel

end Loading

/-- Contents of the cells that do not lead back to themselves, as far as they are known. -/
abbrev Settled := Array (Option Value)

namespace Settled

/-- A cell is settled when all cells that it names are. -/
def settleCell (cells : Array Value) (s : Settled) (i : Nat) : Settled :=
  let cell := cells.getD i .null
  if (s.getD i none).isNone && cell.partNames.all fun j => (s.getD j none).isSome then
    s.setIfInBounds i (some (cell.linkParts fun j => (s.getD j none).getD .null))
  else s

/-- Goes through all cells from the last to the first and back. -/
def pass (cells : Array Value) (s : Settled) : Settled :=
  let order := List.range cells.size
  order.foldl (settleCell cells) (order.reverse.foldl (settleCell cells) s)

def count (s : Settled) : Nat := (s.toList.filter Option.isSome).length

def settle (cells : Array Value) : Nat → Settled → Settled
  | 0, s => s
  | fuel + 1, s =>
    let next := pass cells s
    if next.count = s.count then s else settle cells fuel next

def ofCells (cells : Array Value) : Settled :=
  settle cells (cells.size + 1) (Array.replicate cells.size none)

def ringCells (cells : Array Value) (s : Settled) : List Value :=
  cells.toList.zipIdx.map fun (cell, i) =>
    if (s.getD i none).isSome then .null
    else cell.linkParts fun j => (s.getD j none).getD (.again j)

def resolve (cells : Array Value) : Value → Value
  | .again i =>
    let s := ofCells cells
    (s.getD i none).getD (.ring (s.ringCells cells) i)
  | v => v

end Settled

def Graph.toValue (g : Graph) (root : Nat) : Attempt Value := do
  let made : Loading Made := do
    let m ← Loading.make root
    Loading.fillAll (g.size + 1)
    return m
  let (m, l) ← made.run (Loading.start g)
  return Settled.resolve l.cells m.value

/-- Every line break of a text file as a single character. -/
def unixLines : List Char → List Char
  | '\r' :: '\n' :: cs => '\n' :: unixLines cs
  | '\r' :: cs => '\n' :: unixLines cs
  | c :: cs => c :: unixLines cs
  | [] => []

/-- The value of the one document in a text, null for an empty text. -/
def load (text : String) : Attempt Value := do
  let (g, root) ← Graph.ofTokens (TokenList.ofText (unixLines text.toList))
  match root with
  | some n => g.toValue n
  | none => return .null

end TouchPath.Yaml
