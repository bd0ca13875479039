import TouchPath.Yaml.Graph
import TouchPath.Yaml.Token

/-! # Documents

Tokens are put together to the graph of one document. A container has its number before its parts
have theirs, so that an alias inside it may name it. The number that bounds the recursion is
computed from the number of tokens; how deep containers may stand in each other is bounded too.
-/
namespace TouchPath.Yaml
set_option autoImplicit false

/-- What is still to be read, and what has been found out so far. -/
structure Reader where
  rest : TokenList
  handles : List (String × String)
  anchors : List (String × Nat)
  graph : Graph
  deriving Inhabited

abbrev Reading := StateT Reader Attempt

namespace Reading

def ofTokens (ts : TokenList) : Reader := ⟨ts, [], [], #[]⟩

def refuse {α : Type} : Reading α := throw .malformed

def check (b : Bool) : Reading Unit := if b then return else refuse

def peek : Reading Token := do
  let r ← get
  match r.rest.tokens with
  | t :: _ => return t
  | [] => throw r.rest.ending

def skip : Reading Unit := modify fun r => { r with rest.tokens := r.rest.tokens.tail }

def skipIf (t : Token) : Reading Bool := do
  if (← peek) = t then
    skip
    return true
  else return false

def addVertex (v : Vertex) : Reading Nat :=
  modifyGet fun r => (r.graph.size, { r with graph := r.graph.push v })

def setVertex (n : Nat) (v : Vertex) : Reading Unit :=
  modify fun r => { r with graph := r.graph.setVertex n v }

/-- A new node, under its anchor if it has one; an anchor is given once. -/
def addNode (anchor : Option String) (v : Vertex) : Reading Nat := do
  match anchor with
  | none => addVertex v
  | some name =>
    check ((← get).anchors.lookup name).isNone
    let n ← addVertex v
    modify fun r => { r with anchors := (name, n) :: r.anchors }
    return n

/-- What is left out stands for null. -/
def emptyNode : Reading Nat := addVertex (.scalar (coreTag "null") "")

def aliased (name : String) : Reading Nat := do
  match (← get).anchors.lookup name with
  | some n => return n
  | none => refuse

/-- A tag as it is given: a handle with a suffix, or in full. -/
abbrev GivenTag := Option String × String

def properties : Reading (Option String × Option GivenTag) := do
  match ← peek with
  | .anchor a =>
    skip
    match ← peek with
    | .tag h s =>
      skip
      return (some a, some (h, s))
    | _ => return (some a, none)
  | .tag h s =>
    skip
    match ← peek with
    | .anchor a =>
      skip
      return (some a, some (h, s))
    | _ => return (none, some (h, s))
  | _ => return (none, none)

def resolveTag : Option GivenTag → Reading (Option String)
  | none => return none
  | some (none, suffix) => return some suffix
  | some (some h, suffix) => do
    match (← get).handles.lookup h with
    | some target => return some (target ++ suffix)
    | none => refuse

def scalarTag (tag : Option String) (text : String) (plain : Bool) : String :=
  match tag with
  | none => if plain then implicitTag text else coreTag "str"
  | some t => if t = "!" then implicitTag text else t

def collectionTag (tag : Option String) (kind : String) : String :=
  match tag with
  | none => coreTag kind
  | some t => if t = "!" then coreTag kind else t

/-- Where a node stands: in brackets, as an item of a block, or as a key or value of a block
mapping, where a sequence need not be indented. -/
inductive Place where
  | flow
  | block
  | field
  deriving DecidableEq

/-- A container whose parts are read after it has its number. -/
def container (depth : Nat) (anchor : Option String) (make : List (Nat × Nat) → Vertex)
    (parts : Reading (List (Nat × Nat))) : Reading Nat := do
  if depth = 0 then throw (.fault .recursion)
  let n ← addNode anchor (make [])
  setVertex n (make (← parts))
  return n

mutual

/-- One node; `depth` is how many containers may still stand in each other. -/
def node : Nat → Nat → Place → Reading Nat
  | 0, _, _ => refuse
  | fuel + 1, depth, place => do
    if let .alias name := ← peek then
      skip
      aliased name
    else
      let (anchor, given) ← properties
      let tag ← resolveTag given
      let sequence (items : Reading (List Nat)) : Reading Nat :=
        container depth anchor (fun es => .sequence (collectionTag tag "seq") (es.map Prod.fst)) do
          return (← items).map (·, 0)
      let mapping (entries : Reading (List (Nat × Nat))) : Reading Nat :=
        container depth anchor (.mapping (collectionTag tag "map")) entries
      match ← peek, place with
      | .scalar text plain, _ => do
        skip
        addNode anchor (.scalar (scalarTag tag text plain) text)
      | .flowSequence, _ => do
        skip
        sequence (flowItems fuel (depth - 1) true)
      | .flowMapping, _ => do
        skip
        mapping (flowEntries fuel (depth - 1) true)
      | .entry, .field => sequence (fieldItems fuel (depth - 1))
      | .blockSequence, .block | .blockSequence, .field => do
        skip
        sequence (blockItems fuel (depth - 1))
      | .blockMapping, .block | .blockMapping, .field => do
        skip
        mapping (blockEntries fuel (depth - 1))
      | _, _ =>
        if given.isSome || anchor.isSome then addNode anchor (.scalar (scalarTag tag "" true) "")
        else refuse
termination_by structural fuel => fuel

def blockItems : Nat → Nat → Reading (List Nat)
  | 0, _ => refuse
  | fuel + 1, depth => do
    match ← peek with
    | .entry =>
      skip
      let item ← match ← peek with
        | .entry | .blockEnd => emptyNode
        | _ => node fuel depth .block
      return item :: (← blockItems fuel depth)
    | .blockEnd =>
      skip
      return []
    | _ => refuse
termination_by structural fuel => fuel

/-- Items of a sequence at the indentation of its key. -/
def fieldItems : Nat → Nat → Reading (List Nat)
  | 0, _ => refuse
  | fuel + 1, depth => do
    match ← peek with
    | .entry =>
      skip
      let item ← match ← peek with
        | .entry | .key | .value | .blockEnd => emptyNode
        | _ => node fuel depth .block
      return item :: (← fieldItems fuel depth)
    | _ => return []
termination_by structural fuel => fuel

def blockField : Nat → Nat → Reading Nat
  | 0, _ => refuse
  | fuel + 1, depth => do
    match ← peek with
    | .key | .value | .blockEnd => emptyNode
    | _ => node fuel depth .field
termination_by structural fuel => fuel

def blockEntries : Nat → Nat → Reading (List (Nat × Nat))
  | 0, _ => refuse
  | fuel + 1, depth => do
    match ← peek with
    | .key =>
      skip
      let k ← blockField fuel depth
      let v ← do if ← skipIf .value then blockField fuel depth else emptyNode
      return (k, v) :: (← blockEntries fuel depth)
    | .blockEnd =>
      skip
      return []
    | _ => refuse
termination_by structural fuel => fuel

def flowField (closing : Token) : Nat → Nat → Reading Nat
  | 0, _ => refuse
  | fuel + 1, depth => do
    let t ← peek
    if t = .comma || t = closing then emptyNode else node fuel depth .flow
termination_by structural fuel => fuel

def flowValue (closing : Token) : Nat → Nat → Reading Nat
  | 0, _ => refuse
  | fuel + 1, depth => do
    if ← skipIf .value then flowField closing fuel depth else emptyNode
termination_by structural fuel => fuel

def flowKey (closing : Token) : Nat → Nat → Reading Nat
  | 0, _ => refuse
  | fuel + 1, depth => do
    if (← peek) = .value then emptyNode else flowField closing fuel depth
termination_by structural fuel => fuel

/-- Items up to the closing bracket; all but the first one come after a comma. -/
def flowItems : Nat → Nat → Bool → Reading (List Nat)
  | 0, _, _ => refuse
  | fuel + 1, depth, first => do
    if ← skipIf .flowSequenceEnd then return []
    else
      if !first then check (← skipIf .comma)
      match ← peek with
      | .flowSequenceEnd =>
        skip
        return []
      | .key =>
        skip
        let n ← container depth none (.mapping (coreTag "map")) do
          let k ← flowKey .flowSequenceEnd fuel (depth - 1)
          return [(k, ← flowValue .flowSequenceEnd fuel (depth - 1))]
        return n :: (← flowItems fuel depth false)
      | _ =>
        let item ← node fuel depth .flow
        return item :: (← flowItems fuel depth false)
termination_by structural fuel => fuel

def flowEntries : Nat → Nat → Bool → Reading (List (Nat × Nat))
  | 0, _, _ => refuse
  | fuel + 1, depth, first => do
    if ← skipIf .flowMappingEnd then return []
    else
      if !first then check (← skipIf .comma)
      match ← peek with
      | .flowMappingEnd =>
        skip
        return []
      | .key =>
        skip
        let k ← flowKey .flowMappingEnd fuel depth
        let v ← flowValue .flowMappingEnd fuel depth
        return (k, v) :: (← flowEntries fuel depth false)
      | _ =>
        let k ← node fuel depth .flow
        let v ← emptyNode
        return (k, v) :: (← flowEntries fuel depth false)
termination_by structural fuel => fuel

end

def standardHandles : List (String × String) := [("!", "!"), ("!!", tagBase)]

/-- Directives in front of a document: at most one version, which has to be 1, and at most one
target for each handle. -/
def directives : Nat → Bool → List (String × String) → Reading (List (String × String))
  | 0, _, _ => refuse
  | fuel + 1, versioned, handles => do
    match ← peek with
    | .version major =>
      skip
      check (!versioned && major == 1)
      directives fuel true handles
    | .tagHandle h target =>
      skip
      check (handles.lookup h).isNone
      directives fuel versioned ((h, target) :: handles)
    | .directive =>
      skip
      directives fuel versioned handles
    | _ => return handles

def isContent : Token → Bool
  | .version _ | .tagHandle .. | .directive | .documentStart | .documentEnd | .streamEnd => false
  | _ => true

def skipEnds : Nat → Reading Unit
  | 0 => return
  | fuel + 1 => do if ← skipIf .documentEnd then skipEnds fuel

/-- The end of a document and of the text: no further document may follow. -/
def endOfText (fuel : Nat) : Reading Unit := do
  skipEnds fuel
  if (← peek) = .streamEnd then return
  else
    let _ ← directives fuel false []
    let _ ← peek
    refuse

def maxDepth : Nat := 489

def content (fuel : Nat) (handles : List (String × String)) : Reading (Option Nat) := do
  modify fun r => { r with handles := handles ++ standardHandles }
  let root ← node fuel maxDepth .block
  endOfText fuel
  return some root

/-- The root of the one document of a text; there is none in a text without documents. -/
def document (fuel : Nat) : Reading (Option Nat) := do
  let first ← peek
  if first = .streamEnd then return none
  else if isContent first || first = .documentEnd then content fuel []
  else
    let handles ← directives fuel false []
    check (← skipIf .documentStart)
    if isContent (← peek) then content fuel handles
    else
      let root ← emptyNode
      endOfText fuel
      return some root

end Reading

/-- The graph of the one document of a text, and its root. -/
def Graph.ofTokens (ts : TokenList) : Attempt (Graph × Option Nat) := do
  let (root, r) ← (Reading.document (4 * ts.tokens.length + 8)).run (Reading.ofTokens ts)
  return (r.graph, root)

end TouchPath.Yaml
