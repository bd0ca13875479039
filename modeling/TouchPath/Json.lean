import TouchPath.Fault

/-! # Values written as JSON

Each entry and item has a line of its own, two spaces deeper than its container; empty containers
are closed at once. How a float is written is a parameter; `Json.floatText` is the shortest text.
-/
namespace TouchPath.Json
set_option autoImplicit false

def floatText (x : Float) : String :=
  if x.isNaN then "NaN"
  else if x.isInf then if x < 0 then "-Infinity" else "Infinity"
  else TouchPath.floatText x

def unit (n : Nat) : List Char := '\\' :: 'u' :: Text.hex 4 n

def escapeChar (c : Char) : List Char :=
  let n := Text.codeOf c
  if c == '"' || c == '\\' then ['\\', c]
  else if n == 8 then ['\\', 'b']
  else if n == 9 then ['\\', 't']
  else if n == 10 then ['\\', 'n']
  else if n == 12 then ['\\', 'f']
  else if n == 13 then ['\\', 'r']
  else if 0x20 ≤ n && n ≤ 0x7E then [c]
  else if n ≤ 0xFFFF then unit n
  else unit (0xD800 + (n - 0x10000) / 0x400) ++ unit (0xDC00 + (n - 0x10000) % 0x400)

def quoted (s : String) : String := String.ofList ('"' :: (s.toList.flatMap escapeChar ++ ['"']))

def newLine (depth : Nat) : String := "\n" ++ String.ofList (List.replicate (2 * depth) ' ')

/-- Parts of a container on lines of their own. -/
def enclosed (opening closing : String) (depth : Nat) (parts : List String) : String :=
  if parts.isEmpty then opening ++ closing
  else
    let inner := newLine (depth + 1)
    opening ++ inner ++ ("," ++ inner).intercalate parts ++ newLine depth ++ closing

def keyText (real : Float → String) : Value → String
  | .text s => s
  | .null => "null"
  | .bool b => if b then "true" else "false"
  | .float x => real x
  | v => v.literal

mutual

def render (real : Float → String) (depth : Nat) : Value → String
  | .null => "null"
  | .bool b => if b then "true" else "false"
  | .int n => toString n
  | .float x => real x
  | .text s => quoted s
  | .list items => enclosed "[" "]" depth (renderItems real (depth + 1) items)
  | .dict entries => enclosed "\x7b" "\x7d" depth (renderEntries real (depth + 1) entries)
  | v => quoted v.literal

def renderItems (real : Float → String) (depth : Nat) : List Value → List String
  | [] => []
  | v :: vs => render real depth v :: renderItems real depth vs

def renderEntries (real : Float → String) (depth : Nat) : List (Value × Value) → List String
  | [] => []
  | (k, v) :: es =>
    (quoted (keyText real k) ++ ": " ++ render real depth v) :: renderEntries real depth es

end

def write (real : Float → String) (v : Value) : Except Fault String :=
  if v.writable then .ok (render real 0 v) else .error .badValue

end TouchPath.Json
