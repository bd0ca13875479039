import TouchPath.Yaml.Cursor
import TouchPath.Yaml.Problem

/-! # Scalars as they are written

Quoted scalars, plain scalars and block scalars. A line break inside a scalar is folded: a single
one becomes a space, and of several the first is dropped.
-/
namespace TouchPath.Yaml
set_option autoImplicit false

/-- A line break with the breaks after it, folded. -/
def foldBreaks (first : Char) (others : List Char) : List Char :=
  if first != '\n' then first :: others else if others.isEmpty then [' '] else others

def isSpaceOrTab (c : Char) : Bool := c == ' ' || c == '\t'

/-- The breaks of empty lines in a quoted scalar; blanks around them are dropped. -/
def quotedBreaks : Nat → Cursor → Attempt (List Char × Cursor)
  | 0, _ => malformed
  | n + 1, c =>
    if c.atSeparator then malformed
    else
      let c := c.skipWhile isSpaceOrTab
      match c.lineBreak? with
      | some (b, c) => do
        let (bs, c) ← quotedBreaks n c
        return (b :: bs, c)
      | none => .ok ([], c)

def escapes : List (Char × Nat) :=
  [('0', 0), ('a', 7), ('b', 8), ('t', 9), ('\t', 9), ('n', 10), ('v', 11), ('f', 12), ('r', 13),
    ('e', 27), (' ', 32), ('"', 34), ('\\', 92), ('/', 47), ('N', 0x85), ('_', 0xA0),
    ('L', 0x2028), ('P', 0x2029)]

def escapeDigits : List (Char × Nat) := [('x', 2), ('u', 4), ('U', 8)]

/-- A character by its code. Beyond the last character there is none, and beyond 31 bits not even a
number to look for one by. -/
def charOfCode (code : Nat) : Attempt Char :=
  if code ≤ 0x10FFFF then .ok (if code.isValidChar then Char.ofNat code else Text.standIn code)
  else if code ≤ 0x7FFFFFFF then .error (.fault .badValue)
  else .error (.fault .overflow)

def escape (c : Cursor) : Attempt (List Char × Cursor) := do
  match escapes.lookup c.peek with
  | some code => return ([Char.ofNat code], c.next)
  | none =>
    match escapeDigits.lookup c.peek with
    | some n =>
      let ds := c.next.rest.take n
      require (ds.length == n && ds.all isHex)
      return ([← charOfCode (hexValue ds)], c.next.skip n)
    | none =>
      match c.lineBreak? with
      | some (_, c) => quotedBreaks c.bound c
      | none => malformed

def quotedBody (quote : Char) : Nat → Cursor → Attempt (List Char × Cursor)
  | 0, _ => malformed
  | n + 1, c =>
    let ch := c.peek
    let andThen (part : List Char × Cursor) : Attempt (List Char × Cursor) := do
      let (more, c) ← quotedBody quote n part.2
      return (part.1 ++ more, c)
    if ch == quote then
      if quote == '\'' && c.ahead 1 == '\'' then andThen (['\''], c.skip 2) else .ok ([], c.next)
    else if c.rest.isEmpty then malformed
    else if isSpaceOrTab ch || isBreak ch then do
      let (blanks, c) := c.span isSpaceOrTab
      require (!c.rest.isEmpty)
      match c.lineBreak? with
      | some (b, c) =>
        let (bs, c) ← quotedBreaks c.bound c
        andThen (foldBreaks b bs, c)
      | none => andThen (blanks, c)
    else if quote == '"' && ch == '\\' then do andThen (← escape c.next)
    else andThen ([ch], c.next)

def quotedScalar (c : Cursor) : Attempt (List Char × Cursor) :=
  quotedBody c.peek c.bound c.next

def isFlowMark (c : Char) : Bool :=
  c == ',' || c == '[' || c == ']' || c == Char.ofNat 0x7B || c == Char.ofNat 0x7D

def plainRun (inFlow : Bool) : List Char → List Char
  | [] => []
  | ch :: rest =>
    let following := rest.headD endMark
    if isWideGap ch || (ch == ':' && (isWideGap following || (inFlow && isFlowMark following))) ||
        (inFlow && (ch == '?' || isFlowMark ch)) then []
    else ch :: plainRun inFlow rest

/-- The breaks of empty lines in a plain scalar, none at all before a separator of documents. -/
def plainBreaks : Nat → Cursor → Option (List Char) × Cursor
  | 0, c => (none, c)
  | n + 1, c =>
    if c.peek == ' ' then plainBreaks n c.next
    else
      match c.lineBreak? with
      | some (b, c) =>
        if c.atSeparator then (none, c)
        else
          let (bs, c) := plainBreaks n c
          (bs.map (b :: ·), c)
      | none => (some [], c)

/-- What stands between two runs of a plain scalar, and whether it has a line break. -/
def plainSpaces (c : Cursor) : List Char × Cursor × Bool :=
  let (blanks, c) := c.span (· == ' ')
  match c.lineBreak? with
  | none => (blanks, c, false)
  | some (b, c) =>
    if c.atSeparator then ([], c, true)
    else
      match plainBreaks c.bound c with
      | (some bs, c) => (foldBreaks b bs, c, true)
      | (none, c) => ([], c, true)

/-- A plain scalar, and whether a line break comes right after it. Its further lines are indented
by at least `indent`. -/
def plainScalar (inFlow : Bool) (indent : Int) :
    Nat → List Char → Bool → Cursor → List Char × Cursor × Bool
  | 0, _, crossed, c => ([], c, crossed)
  | n + 1, spaces, crossed, c =>
    let run := if c.peek == '#' then [] else plainRun inFlow c.rest
    if run.isEmpty then ([], c, crossed)
    else
      let (more, c, crossed) := plainSpaces (c.skip run.length)
      if more.isEmpty || c.peek == '#' || (!inFlow && decide ((c.column : Int) < indent)) then
        (spaces ++ run, c, crossed)
      else
        let (tail, c, crossed) := plainScalar inFlow indent n more crossed c
        (spaces ++ run ++ tail, c, crossed)

/-- How a block scalar ends: the last line break is dropped, kept, or kept with the empty lines
after it. -/
inductive Chomping where
  | strip
  | clip
  | keep
  deriving DecidableEq, Repr

def chomping? (c : Char) : Option Chomping :=
  if c == '+' then some .keep else if c == '-' then some .strip else none

def blockIncrement? (c : Char) : Attempt (Option Nat) :=
  if c.isDigit then if c == '0' then malformed else .ok (some (c.toNat - 48)) else .ok none

def blockHeader (c : Cursor) : Attempt (Chomping × Option Nat × Cursor) := do
  let (chomping, increment, c) ← do
    match chomping? c.peek with
    | some chomping =>
      let increment ← blockIncrement? c.next.peek
      pure (chomping, increment, if increment.isSome then c.next.next else c.next)
    | none =>
      let increment ← blockIncrement? c.peek
      let c := if increment.isSome then c.next else c
      match increment.bind fun _ => chomping? c.peek with
      | some chomping => pure (chomping, increment, c.next)
      | none => pure (Chomping.clip, increment, c)
  require (isGap c.peek)
  return (chomping, increment, c)

def ignoredLine (c : Cursor) : Attempt Cursor := do
  let c := c.skipWhile (· == ' ')
  let c := if c.peek == '#' then c.skipWhile (!isBreakOrEnd ·) else c
  require (isBreakOrEnd c.peek)
  return (c.lineBreak?.map Prod.snd).getD c

/-- Empty lines before the first line of a block scalar, and the widest indentation among them. -/
def blockLead : Nat → Nat → Cursor → List Char × Nat × Cursor
  | 0, widest, c => ([], widest, c)
  | n + 1, widest, c =>
    if c.peek == ' ' then blockLead n (max widest c.next.column) c.next
    else
      match c.lineBreak? with
      | some (b, c) =>
        let (bs, widest, c) := blockLead n widest c
        (b :: bs, widest, c)
      | none => ([], widest, c)

def indentTo (indent : Nat) (c : Cursor) : Cursor :=
  c.skip (min (c.rest.takeWhile (· == ' ')).length (indent - c.column))

def blockBreaks (indent : Nat) : Nat → Cursor → List Char × Cursor
  | 0, c => ([], c)
  | n + 1, c =>
    let c := indentTo indent c
    match c.lineBreak? with
    | some (b, c) =>
      let (bs, c) := blockBreaks indent n c
      (b :: bs, c)
    | none => ([], c)

/-- The lines of a block scalar: their text, the last line break and the breaks after it. -/
def blockLines (folded : Bool) (indent : Nat) :
    Nat → List Char → Cursor → List Char × List Char × List Char × Cursor
  | 0, breaks, c => ([], [], breaks, c)
  | n + 1, breaks, c =>
    if c.column == indent && !c.rest.isEmpty then
      let flush := !isSpaceOrTab c.peek
      let (run, c) := c.span (!isBreakOrEnd ·)
      let (last, c) := match c.lineBreak? with
        | some (b, c) => ([b], c)
        | none => ([], c)
      let (following, c) := blockBreaks indent c.bound c
      if c.column == indent && !c.rest.isEmpty then
        let join :=
          if folded && last == ['\n'] && flush && !isSpaceOrTab c.peek then
            if following.isEmpty then [' '] else []
          else last
        let (tail, last, rest, c) := blockLines folded indent n following c
        (breaks ++ run ++ join ++ tail, last, rest, c)
      else (breaks ++ run, last, following, c)
    else ([], [], breaks, c)

def blockScalar (folded : Bool) (parent : Int) (c : Cursor) : Attempt (List Char × Cursor) := do
  let (chomping, increment, c) ← blockHeader c
  let c ← ignoredLine c
  let least := (max (parent + 1) 1).toNat
  let (breaks, indent, c) := match increment with
    | none =>
      let (breaks, widest, c) := blockLead c.bound 0 c
      (breaks, max least widest, c)
    | some n =>
      let (breaks, c) := blockBreaks (least + n - 1) c.bound c
      (breaks, least + n - 1, c)
  let (text, last, rest, c) := blockLines folded indent c.bound breaks c
  let tail := match chomping with
    | .strip => []
    | .clip => last
    | .keep => last ++ rest
  return (text ++ tail, c)

end TouchPath.Yaml
