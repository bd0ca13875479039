import TouchPath.Value.Basic
import TouchPath.Number.Reading

/-! # Tags of plain scalars

A plain scalar is taken for a truth value, a number, a date, nothing at all, a merge or a default
key by its spelling, and is a text otherwise.
-/
namespace TouchPath.Yaml
set_option autoImplicit false

def tagBase : String := "tag:yaml.org,2002:"

def coreTag (name : String) : String := tagBase ++ name

def boolWords : List String :=
  ["yes", "Yes", "YES", "no", "No", "NO", "true", "True", "TRUE", "false", "False", "FALSE",
    "on", "On", "ON", "off", "Off", "OFF"]

def nullWords : List String := ["", "~", "null", "Null", "NULL"]

def isDigitOrLine (c : Char) : Bool := c.isDigit || c == '_'

def isOctal (c : Char) : Bool := '0' ≤ c && c ≤ '7'

def nonEmptyAll (p : Char → Bool) (cs : List Char) : Bool := !cs.isEmpty && cs.all p

def isSexagesimal : List Char → Bool
  | [a] => a.isDigit
  | [a, b] => '0' ≤ a && a ≤ '5' && b.isDigit
  | _ => false

/-- Digits with underscores, then colons with numbers below sixty after them. -/
def isClock (cs : List Char) : Bool :=
  match splitAtChar ':' cs with
  | first :: others => nonEmptyAll isDigitOrLine first && others.all isSexagesimal
  | [] => false

def isIntMagnitude : List Char → Bool
  | ['0'] => true
  | '0' :: 'b' :: cs => nonEmptyAll (fun c => c == '0' || c == '1' || c == '_') cs
  | '0' :: 'x' :: cs =>
    nonEmptyAll (fun c => c.isDigit || ('a' ≤ c && c ≤ 'f') || ('A' ≤ c && c ≤ 'F') || c == '_') cs
  | '0' :: cs => nonEmptyAll (fun c => isOctal c || c == '_') cs
  | c :: cs => c.isDigit && isClock (c :: cs)
  | [] => false

def isInt (cs : List Char) : Bool := isIntMagnitude (takeSign cs).2

def isExponent : List Char → Bool
  | [] => true
  | e :: sign :: ds =>
    isExponentMark e && (sign == '+' || sign == '-') && nonEmptyAll Char.isDigit ds
  | _ => false

/-- Digits before the point, perhaps as a clock, which then has no exponent. -/
def isPointed (cs : List Char) : Bool :=
  let whole := cs.takeWhile (· != '.')
  match cs.dropWhile (· != '.') with
  | _ :: rest =>
    let tail := rest.dropWhile isDigitOrLine
    (whole.headD ' ').isDigit &&
      ((whole.all isDigitOrLine && isExponent tail) ||
        (whole.contains ':' && isClock whole && tail.isEmpty))
  | [] => false

def isFraction : List Char → Bool
  | '.' :: d :: rest => d.isDigit && isExponent (rest.dropWhile isDigitOrLine)
  | _ => false

def isFloat (cs : List Char) : Bool :=
  let magnitude := (takeSign cs).2
  isPointed magnitude || isFraction cs ||
    [".inf", ".Inf", ".INF"].contains (String.ofList magnitude) ||
    [".nan", ".NaN", ".NAN"].contains (String.ofList cs)

/-- A date as it is written, with a time of day perhaps. -/
structure Stamp where
  year : Nat
  month : Nat
  day : Nat
  clock : Option (Nat × Nat × Nat)
  fraction : List Char
  offset : Option Int
  /-- Whether month and day have two digits. -/
  wide : Bool

/-- Between `least` and `most` digits at the front. -/
def takeDigits? (least most : Nat) (cs : List Char) : Option (List Char × List Char) :=
  let ds := (cs.take most).takeWhile Char.isDigit
  if least ≤ ds.length then some (ds, cs.drop ds.length) else none

def natOf (ds : List Char) : Nat := ofDigits 10 (ds.map (·.toNat - 48))

def expect? (c : Char) : List Char → Option (List Char)
  | d :: cs => if d = c then some cs else none
  | [] => none

def isSpaceTab (c : Char) : Bool := c == ' ' || c == '\t'

/-- Minutes east of Greenwich at the end of a date, or nothing. -/
def zone? (cs : List Char) : Option (Option Int) := do
  match cs.dropWhile isSpaceTab with
  | [] => if cs.isEmpty then some none else none
  | ['Z'] => some (some 0)
  | sign :: rest =>
    if sign != '+' && sign != '-' then none
    else
      let (hours, rest) ← takeDigits? 1 2 rest
      let minutes ← match rest with
        | [] => some 0
        | _ => do
          let (ms, rest) ← takeDigits? 2 2 (← expect? ':' rest)
          if rest.isEmpty then some (natOf ms) else none
      some (some (applySign (sign == '-') (natOf hours * 60 + minutes)))

def afterDate? : List Char → Option (List Char)
  | [] => none
  | c :: cs =>
    if c == 'T' || c == 't' then some cs
    else if isSpaceTab c then some (cs.dropWhile isSpaceTab) else none

def stamp? (cs : List Char) : Option Stamp := do
  let (year, cs) ← takeDigits? 4 4 cs
  let (month, cs) ← takeDigits? 1 2 (← expect? '-' cs)
  let (day, cs) ← takeDigits? 1 2 (← expect? '-' cs)
  let wide := month.length == 2 && day.length == 2
  let date : Stamp := ⟨natOf year, natOf month, natOf day, none, [], none, wide⟩
  if cs.isEmpty then some date
  else
    let (hour, cs) ← takeDigits? 1 2 (← afterDate? cs)
    let (minute, cs) ← takeDigits? 2 2 (← expect? ':' cs)
    let (second, cs) ← takeDigits? 2 2 (← expect? ':' cs)
    let (fraction, cs) := match cs with
      | '.' :: rest => (rest.takeWhile Char.isDigit, rest.dropWhile Char.isDigit)
      | _ => ([], cs)
    let offset ← zone? cs
    some { date with
      clock := some (natOf hour, natOf minute, natOf second)
      fraction := fraction
      offset := offset }

def isStamp (cs : List Char) : Bool :=
  match stamp? cs with
  | some s => s.clock.isSome || s.wide
  | none => false

/-- A spelling without the line break at its end, which does not count unless it is all there is. -/
def withoutBreak (cs : List Char) : List Char :=
  if cs.getLast? = some '\n' && 1 < cs.length then cs.dropLast else cs

def implicitTag (text : String) : String :=
  let cs := withoutBreak text.toList
  let s := String.ofList cs
  if boolWords.contains s then coreTag "bool"
  else if isFloat cs then coreTag "float"
  else if isInt cs then coreTag "int"
  else if s = "<<" then coreTag "merge"
  else if nullWords.contains s then coreTag "null"
  else if isStamp cs then coreTag "timestamp"
  else if s = "=" then coreTag "value"
  else if ["!", "&", "*"].contains s then coreTag "yaml"
  else coreTag "str"

end TouchPath.Yaml
