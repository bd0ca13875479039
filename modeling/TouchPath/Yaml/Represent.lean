import TouchPath.Fault
import TouchPath.Yaml.Node

/-! # Values as nodes

Every value has a node that stands for it. The tags of points, rectangles and pairs are none of this
format and are given by the caller; a reader that does not know them takes the text for malformed.
A value that holds itself is written as its literal.
-/
namespace TouchPath.Yaml
set_option autoImplicit false

/-- The tags under which values that are no core values are written. -/
structure ObjectTags where
  point : String
  bounds : String
  pair : String

/-- A float as it reads back as one: a number with an exponent has a point too. -/
def realText (x : Float) : String :=
  if x.isNaN then ".nan"
  else if x.isInf then if x < 0 then "-.inf" else ".inf"
  else
    let s := floatText x
    if s.contains 'e' && !s.contains '.' then ".0e".intercalate (s.splitOn "e") else s

namespace Node

def core (tag text : String) : Node := scalar (coreTag tag) text

def ofText (s : String) : Node := core "str" s

def ofInt (n : Int) : Node := core "int" (toString n)

def ofFields (tag : String) (fields : List (String × Node)) : Node :=
  mapping tag (fields.map fun f => (ofText f.1, f.2))

def ofPoint (tags : ObjectTags) (p : Point) : Node :=
  ofFields tags.point [("x", ofInt p.x), ("y", ofInt p.y)]

/-- A rectangle is written by its state: nothing that could be looked up, and its three parts. -/
def ofBounds (tags : ObjectTags) (b : Bounds) : Node :=
  let parts := ofFields (coreTag "map")
    [("_upper_left", ofPoint tags b.upperLeft), ("width", ofInt b.width),
      ("height", ofInt b.height)]
  ofFields tags.bounds [("state", sequence tags.pair [core "null" "null", parts])]

mutual

def ofValue (tags : ObjectTags) : Value → Node
  | .null => core "null" "null"
  | .bool b => core "bool" (if b then "true" else "false")
  | .int n => ofInt n
  | .float x => core "float" (realText x)
  | .text s => ofText s
  | .list items => sequence (coreTag "seq") (ofValues tags items)
  | .dict entries => mapping (coreTag "map") (ofEntries tags entries)
  | .point p => ofPoint tags p
  | .bounds b => ofBounds tags b
  | .date d => core "timestamp" d.text
  | .moment m => core "timestamp" m.text
  | .bytes bs => ofText (bytesLiteral bs)
  | .pair a b => sequence tags.pair [ofValue tags a, ofValue tags b]
  | .set items => mapping (coreTag "set") (ofMembers tags items)
  | .ring cells i => ofText (Value.ring cells i).literal
  | .again i => ofText (Value.again i).literal

def ofValues (tags : ObjectTags) : List Value → List Node
  | [] => []
  | v :: vs => ofValue tags v :: ofValues tags vs

def ofEntries (tags : ObjectTags) : List (Value × Value) → List (Node × Node)
  | [] => []
  | (k, v) :: es => (ofValue tags k, ofValue tags v) :: ofEntries tags es

/-- The members of a set are keys without values. -/
def ofMembers (tags : ObjectTags) : List Value → List (Node × Node)
  | [] => []
  | v :: vs => (ofValue tags v, core "null" "null") :: ofMembers tags vs

end

end Node
end TouchPath.Yaml
