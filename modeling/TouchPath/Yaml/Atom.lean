import TouchPath.Number.Arithmetic
import TouchPath.Yaml.Cursor
import TouchPath.Yaml.Problem
import TouchPath.Yaml.Tag

/-! # Values of scalars

The value that a tag asks for, read from the text of a scalar. A spelling that the tag has no use
for is a fault: an unusable value, or a missing key for a word that is no truth value.
-/
namespace TouchPath.Yaml
set_option autoImplicit false

def badValue {α : Type} : Attempt α := .error (.fault .badValue)

def orBadValue {α : Type} : Option α → Attempt α
  | some a => .ok a
  | none => badValue

def withoutLines (s : String) : List Char := s.toList.filter (· != '_')

def baseDigit? (base : Nat) (c : Char) : Option Nat :=
  let d := if isHex c then hexValue [c] else (Text.digit? c).getD base
  if d < base then some d else none

/-- Digits of a number in a base that is a power of two, with sign and mark of the base allowed. -/
def readBase? (base : Nat) (mark : Char) (cs : List Char) : Option Int := do
  let (negative, cs) := takeSign (Text.strip cs)
  let ds := match cs with
    | '0' :: m :: rest => if m.toLower == mark then rest else cs
    | _ => cs
  if ds.isEmpty then none
  else some (applySign negative (ofDigits base (← ds.mapM (baseDigit? base))))

/-- Integers between colons, the last one counting units and each other one sixty of the next. -/
def sixties (parts : List Int) : Int := parts.foldl (fun total n => total * 60 + n) 0

def readInteger (s : String) : Attempt Value := do
  let cs := withoutLines s
  if cs.isEmpty then .error (.fault .noIndex)
  else
    let negative := cs.head? == some '-'
    let cs := if cs.head? == some '-' || cs.head? == some '+' then cs.tail else cs
    let magnitude ← match cs with
      | ['0'] => pure (0 : Int)
      | '0' :: 'b' :: ds => orBadValue (readBase? 2 'b' ds)
      | '0' :: 'x' :: ds => orBadValue (readBase? 16 'x' ds)
      | '0' :: _ => orBadValue (readBase? 8 'o' cs)
      | [] => .error (.fault .noIndex)
      | _ =>
        if cs.contains ':' then
          let parts ← (splitAtChar ':' cs).mapM fun p => orBadValue (readInt? (String.ofList p))
          pure (sixties parts)
        else orBadValue (readInt? (String.ofList cs))
    return .int (if negative then -magnitude else magnitude)

/-- A float without its sign, as it is compared with the names of special floats. -/
def unsignedReal (cs : List Char) : List Char :=
  if cs.head? == some '-' || cs.head? == some '+' then cs.tail else cs

/-- Floats between colons. The place of each has to be a float too. -/
def sixtyFloats (parts : List Float) : Attempt Float :=
  parts.reverse.zipIdx.foldlM (fun total (x, i) =>
    match intToFloat (Nat.pow 60 i) with
    | .ok place => .ok (total + x * place)
    | .error f => .error (.fault f)) 0.0

def readReal (s : String) : Attempt Value := do
  let cs := lowered (withoutLines s)
  if cs.isEmpty then .error (.fault .noIndex)
  else
    let negative := cs.head? == some '-'
    let cs := unsignedReal cs
    let text := String.ofList cs
    let magnitude ←
      if text = ".inf" then pure (1.0 / 0.0)
      else if text = ".nan" then pure (0.0 / 0.0)
      else if cs.contains ':' then
        sixtyFloats (← (splitAtChar ':' cs).mapM fun p => orBadValue (readFloat? (String.ofList p)))
      else orBadValue (readFloat? text)
    return .float (if negative then -magnitude else magnitude)

def isUndefinedName (s : String) : Bool :=
  unsignedReal (lowered (withoutLines s)) == ".nan".toList

def readBool (s : String) : Attempt Value :=
  let word := s.toLower
  if ["yes", "true", "on"].contains word then .ok (.bool true)
  else if ["no", "false", "off"].contains word then .ok (.bool false)
  else .error (.fault .missingKey)

def readStamp (s : String) : Attempt Value := do
  match stamp? (withoutBreak s.toList) with
  | none => .error (.fault .noAttribute)
  | some t =>
    if !(Date.mk t.year t.month t.day).isValid then badValue
    else
      match t.clock with
      | none => return .date ⟨t.year, t.month, t.day⟩
      | some (h, m, sec) =>
        let micro := natOf (t.fraction.take 6 ++ List.replicate (6 - t.fraction.length) '0')
        let zoneOk := match t.offset with
          | some minutes => decide (minutes.natAbs < 24 * 60)
          | none => true
        if h < 24 && m < 60 && sec < 60 && zoneOk then
          return .moment ⟨⟨t.year, t.month, t.day⟩, h, m, sec, micro, t.offset⟩
        else badValue

def base64Value? (c : Char) : Option Nat :=
  if c.isUpper then some (c.toNat - 65)
  else if c.isLower then some (c.toNat - 71)
  else if c.isDigit then some (c.toNat + 4)
  else if c == '+' then some 62
  else if c == '/' then some 63
  else none

/-- The six-bit digits of a text. Padding ends it where it completes a group of four that has two
digits or more; padding elsewhere and other characters are skipped. -/
def base64Digits : Nat → Nat → List Char → Option (List Nat)
  | count, _, [] => if count % 4 = 0 then some [] else none
  | count, pads, '=' :: cs =>
    if count % 4 < 2 then base64Digits count pads cs
    else if 4 ≤ count % 4 + pads + 1 then some []
    else base64Digits count (pads + 1) cs
  | count, pads, c :: cs =>
    match base64Value? c with
    | some d => (base64Digits (count + 1) 0 cs).map (d :: ·)
    | none => base64Digits count pads cs

/-- Groups of four digits as three bytes; a group may be cut after two or three digits. -/
def base64Bytes : List Nat → List UInt8
  | a :: b :: c :: d :: rest =>
    let n := a * 262144 + b * 4096 + c * 64 + d
    UInt8.ofNat (n / 65536) :: UInt8.ofNat (n / 256) :: UInt8.ofNat n :: base64Bytes rest
  | [a, b, c] => [UInt8.ofNat ((a * 64 + b) / 16), UInt8.ofNat ((b * 64 + c) / 4)]
  | [a, b] => [UInt8.ofNat ((a * 64 + b) / 16)]
  | [_] => []
  | [] => []

def readBinary (s : String) : Attempt Value := do
  let cs := s.toList
  require (cs.all (·.toNat < 128))
  match base64Digits 0 0 cs with
  | some ds => return .bytes (base64Bytes ds)
  | none => malformed

def scalarReaders : List (String × (String → Attempt Value)) :=
  [(coreTag "str", fun s => .ok (.text s)), (coreTag "int", readInteger),
    (coreTag "float", readReal), (coreTag "bool", readBool), (coreTag "null", fun _ => .ok .null),
    (coreTag "timestamp", readStamp), (coreTag "binary", readBinary)]

end TouchPath.Yaml
