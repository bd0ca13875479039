import TouchPath.Yaml.Scalar

/-! # Tokens

A text is cut into tokens: indicators, names, scalars, and the starts and ends of blocks that follow
from indentation. A scalar, an alias or a bracket may turn out to be a key when a colon follows on
its line within 1024 characters; the key token is then put in front of it. Where a text goes wrong,
the tokens before that place remain, as far as they are settled (`TokenList`).
-/
namespace TouchPath.Yaml
set_option autoImplicit false

inductive Token where
  | version (major : Nat)
  | tagHandle (handle target : String)
  | directive
  | documentStart
  | documentEnd
  | streamEnd
  | blockSequence
  | blockMapping
  | blockEnd
  | flowSequence
  | flowSequenceEnd
  | flowMapping
  | flowMappingEnd
  | entry
  | comma
  | key
  | value
  | alias (name : String)
  | anchor (name : String)
  | tag (handle : Option String) (suffix : String)
  | scalar (text : String) (plain : Bool)
  deriving DecidableEq, Repr, Inhabited

/-- A place where a key may have begun: the number of tokens before it and its position. -/
structure KeyStart where
  tokens : Nat
  required : Bool
  index : Nat
  line : Nat
  column : Nat
  deriving Inhabited

def KeyStart.isStale (k : KeyStart) (c : Cursor) : Bool :=
  k.line != c.line || decide (k.index + 1024 < c.index)

/-- Tokens so far, the last one first, and their number, with all that the next one depends on.
Possible keys are kept for every level of brackets, the innermost first. -/
structure Scan where
  cursor : Cursor
  tokens : List Token
  count : Nat
  indent : Int
  indents : List Int
  keyAllowed : Bool
  keys : List (Option KeyStart)
  deriving Inhabited

namespace Scan

def start (cs : List Char) : Scan := ⟨.ofText cs, [], 0, -1, [], true, [none]⟩

def inFlow (s : Scan) : Bool := decide (1 < s.keys.length)

def emit (s : Scan) (t : Token) : Scan := { s with tokens := t :: s.tokens, count := s.count + 1 }

def emitOver (s : Scan) (t : Token) (width : Nat) : Scan :=
  { s.emit t with cursor := s.cursor.skip width }

def closeBlocks (s : Scan) (column : Int) : Scan :=
  if s.inFlow then s
  else
    let levels := s.indent :: s.indents
    let closed := (levels.takeWhile (fun i => decide (column < i))).length
    let open' := levels.drop closed
    { s with
      tokens := List.replicate closed .blockEnd ++ s.tokens
      count := s.count + closed
      indent := open'.headD (-1)
      indents := open'.tail }

def openBlock? (s : Scan) (column : Nat) : Option Scan :=
  if s.indent < column then some { s with indents := s.indent :: s.indents, indent := column }
  else none

/-- Drops the possible key of this level, which must not be a required one. -/
def dropKey (s : Scan) : Attempt Scan := do
  match s.keys with
  | some k :: ks =>
    require (!k.required)
    return { s with keys := none :: ks }
  | _ => return s

def noteKey (s : Scan) : Attempt Scan := do
  if s.keyAllowed then
    let s ← s.dropKey
    let c := s.cursor
    let required := !s.inFlow && decide (s.indent = c.column)
    let key : KeyStart := ⟨s.count, required, c.index, c.line, c.column⟩
    return { s with keys := some key :: s.keys.tail }
  else return s

def forgetKeys (s : Scan) : Attempt Scan := do
  let check (k : Option KeyStart) : Attempt (Option KeyStart) := do
    match k with
    | some k =>
      if k.isStale s.cursor then
        require (!k.required)
        return none
      else return some k
    | none => return none
  return { s with keys := ← s.keys.mapM check }

/-- Passes over spaces, comments and line breaks; a key may begin on a new line of a block. -/
def toNextToken : Nat → Scan → Scan
  | 0, s => s
  | n + 1, s =>
    let c := s.cursor.skipWhile (· == ' ')
    let c := if c.peek == '#' then c.skipWhile (!isBreakOrEnd ·) else c
    match c.lineBreak? with
    | some (_, c) =>
      toNextToken n { s with cursor := c, keyAllowed := s.keyAllowed || !s.inFlow }
    | none => { s with cursor := c }

/-- Ends all blocks before a directive, a separator of documents or the end of the text. -/
def endBlocks (s : Scan) : Attempt Scan := do
  let s ← (s.closeBlocks (-1)).dropKey
  return { s with keyAllowed := false }

def uriMarks : List Char := "-;/?:@&=+$,_.!~*'()[]".toList

def uriBytes : Nat → Cursor → Attempt (List UInt8 × Cursor)
  | 0, _ => malformed
  | n + 1, c =>
    if c.peek == '%' then do
      let ds := c.next.rest.take 2
      require (ds.length == 2 && ds.all isHex)
      let (bs, c) ← uriBytes n (c.skip 3)
      return (UInt8.ofNat (hexValue ds) :: bs, c)
    else .ok ([], c)

def uriText : Nat → Cursor → Attempt (List Char × Cursor)
  | 0, _ => malformed
  | n + 1, c => do
    let (run, c) := c.span fun ch => ch.isAlphanum || uriMarks.contains ch
    if c.peek == '%' then
      let (bs, c) ← uriBytes c.bound c
      match String.fromUTF8? (ByteArray.mk bs.toArray) with
      | some s =>
        let (tail, c) ← uriText n c
        return (run ++ s.toList ++ tail, c)
      | none => malformed
    else return (run, c)

def uri (c : Cursor) : Attempt (String × Cursor) := do
  let (cs, c') ← uriText c.bound c
  require (c'.index != c.index)
  return (String.ofList cs, c')

def handle (c : Cursor) : Attempt (String × Cursor) := do
  require (c.peek == '!')
  if c.ahead 1 == ' ' then return ("!", c.next)
  else
    let name := (c.next.rest.takeWhile isWord)
    let c' := c.skip (name.length + 1)
    require (c'.peek == '!')
    return (String.ofList ('!' :: (name ++ ['!'])), c'.next)

def numberAt (c : Cursor) : Attempt (Nat × Cursor) := do
  let (ds, c) := c.span Char.isDigit
  require (!ds.isEmpty)
  if maxDigits < ds.length then throw (.fault .badValue)
  return (ds.foldl (fun n d => n * 10 + (d.toNat - 48)) 0, c)

def directive (c : Cursor) : Attempt (Token × Cursor) := do
  let (name, c) := c.next.span isWord
  require (!name.isEmpty && isGap c.peek)
  if name = "YAML".toList then
    let (major, c) ← numberAt (c.skipWhile (· == ' '))
    require (c.peek == '.')
    let (_, c) ← numberAt c.next
    require (isGap c.peek)
    return (.version major, ← ignoredLine c)
  else if name = "TAG".toList then
    let (h, c) ← handle (c.skipWhile (· == ' '))
    require (c.peek == ' ')
    let (target, c) ← uri (c.skipWhile (· == ' '))
    require (isGap c.peek)
    return (.tagHandle h target, ← ignoredLine c)
  else return (.directive, ← ignoredLine (c.skipWhile (!isBreakOrEnd ·)))

/-- The name of an anchor or an alias; the cursor is at its indicator. -/
def anchorName (c : Cursor) : Attempt (String × Cursor) := do
  let (name, c) := c.next.span isWord
  let closing := "?:,]%@".toList ++ [Char.ofNat 0x7D, Char.ofNat 0x60]
  require (!name.isEmpty && (isWideGap c.peek || closing.contains c.peek))
  return (String.ofList name, c)

def tag (c : Cursor) : Attempt (Token × Cursor) := do
  let (t, c) ← do
    if c.ahead 1 == '<' then
      let (suffix, c) ← uri (c.skip 2)
      require (c.peek == '>')
      pure (Token.tag none suffix, c.next)
    else if isWideGap (c.ahead 1) then pure (Token.tag none "!", c.next)
    else if (c.next.rest.takeWhile (!isGap ·)).contains '!' then
      let (h, c) ← handle c
      let (suffix, c) ← uri c
      pure (Token.tag (some h) suffix, c)
    else
      let (suffix, c) ← uri c.next
      pure (Token.tag (some "!") suffix, c)
  require (isGap c.peek)
  return (t, c)

def blockEntry (s : Scan) : Attempt Scan := do
  let s ← if s.inFlow then pure s else do
    require s.keyAllowed
    pure (((s.openBlock? s.cursor.column).map (emit · .blockSequence)).getD s)
  let s ← { s with keyAllowed := true }.dropKey
  return s.emitOver .entry 1

def explicitKey (s : Scan) : Attempt Scan := do
  let s ← if s.inFlow then pure s else do
    require s.keyAllowed
    pure (((s.openBlock? s.cursor.column).map (emit · .blockMapping)).getD s)
  let s ← { s with keyAllowed := !s.inFlow }.dropKey
  return s.emitOver .key 1

/-- Puts tokens behind the first `n` of them. -/
def insertAfter (s : Scan) (n : Nat) (ts : List Token) : Scan :=
  let later := s.count - n
  { s with
    tokens := s.tokens.take later ++ ts ++ s.tokens.drop later
    count := s.count + ts.length }

/-- The value of a key, which may have been a simple one. -/
def mappingValue (s : Scan) : Attempt Scan := do
  match s.keys with
  | some k :: ks =>
    let s := { s with keys := none :: ks, keyAllowed := false }
    let s :=
      if s.inFlow then s.insertAfter k.tokens [.key]
      else
        match s.openBlock? k.column with
        | some s => s.insertAfter k.tokens [.key, .blockMapping]
        | none => s.insertAfter k.tokens [.key]
    return s.emitOver .value 1
  | _ =>
    let s ← if s.inFlow then pure s else do
      require s.keyAllowed
      pure (((s.openBlock? s.cursor.column).map (emit · .blockMapping)).getD s)
    let s ← { s with keyAllowed := !s.inFlow }.dropKey
    return s.emitOver .value 1

def openFlow (s : Scan) (t : Token) : Attempt Scan := do
  let s ← s.noteKey
  return { s with keys := none :: s.keys, keyAllowed := true }.emitOver t 1

def closeFlow (s : Scan) (t : Token) : Attempt Scan := do
  let s ← s.dropKey
  require s.inFlow
  return { s with keys := s.keys.tail, keyAllowed := false }.emitOver t 1

/-- A token that may be a key, after which no other key may begin. -/
def keyLike (s : Scan) (read : Cursor → Attempt (Token × Cursor)) : Attempt Scan := do
  let s ← s.noteKey
  let (t, c) ← read s.cursor
  return { s with keyAllowed := false, cursor := c }.emit t

def named (make : String → Token) (c : Cursor) : Attempt (Token × Cursor) := do
  let (name, c) ← anchorName c
  return (make name, c)

def quoted (c : Cursor) : Attempt (Token × Cursor) := do
  let (cs, c) ← quotedScalar c
  return (.scalar (String.ofList cs) false, c)

def block (s : Scan) (folded : Bool) : Attempt Scan := do
  let s ← { s with keyAllowed := true }.dropKey
  let (cs, c) ← blockScalar folded s.indent s.cursor.next
  return { s with cursor := c }.emit (.scalar (String.ofList cs) false)

def plain (s : Scan) : Attempt Scan := do
  let s ← s.noteKey
  let c := s.cursor
  let (cs, c, crossed) := plainScalar s.inFlow (s.indent + 1) c.bound [] false c
  return { s with keyAllowed := crossed, cursor := c }.emit (.scalar (String.ofList cs) true)

def indicators : List Char :=
  "-?:,[]#&*!|>'\"%@".toList ++ [Char.ofNat 0x7B, Char.ofNat 0x7D, Char.ofNat 0x60]

def startsPlain (s : Scan) : Bool :=
  let ch := s.cursor.peek
  (!isWideGap ch && !indicators.contains ch) ||
    (!isWideGap (s.cursor.ahead 1) && (ch == '-' || (!s.inFlow && (ch == '?' || ch == ':'))))

/-- The next token; the cursor is at its first character, which is not the end of the text. -/
def step (s : Scan) : Attempt Scan := do
  let c := s.cursor
  let ch := c.peek
  let spaced := isWideGap (c.ahead 1)
  if ch == '%' && c.column == 0 then
    let s ← s.endBlocks
    let (t, c) ← directive c
    return { s with cursor := c }.emit t
  else if c.column == 0 && c.atMarker '-' then return (← s.endBlocks).emitOver .documentStart 3
  else if c.column == 0 && c.atMarker '.' then return (← s.endBlocks).emitOver .documentEnd 3
  else if ch == '[' then s.openFlow .flowSequence
  else if ch == Char.ofNat 0x7B then s.openFlow .flowMapping
  else if ch == ']' then s.closeFlow .flowSequenceEnd
  else if ch == Char.ofNat 0x7D then s.closeFlow .flowMappingEnd
  else if ch == ',' then
    let s ← { s with keyAllowed := true }.dropKey
    return s.emitOver .comma 1
  else if ch == '-' && spaced then s.blockEntry
  else if ch == '?' && (s.inFlow || spaced) then s.explicitKey
  else if ch == ':' && (s.inFlow || spaced) then s.mappingValue
  else if ch == '*' then s.keyLike (named .alias)
  else if ch == '&' then s.keyLike (named .anchor)
  else if ch == '!' then s.keyLike tag
  else if ch == '|' && !s.inFlow then s.block false
  else if ch == '>' && !s.inFlow then s.block true
  else if ch == '\'' || ch == '"' then s.keyLike quoted
  else if s.startsPlain then s.plain
  else malformed

/-- Goes to the place of the next token and closes the blocks that end before it. -/
def approach (s : Scan) : Attempt Scan := do
  let s ← (s.toNextToken s.cursor.bound).forgetKeys
  return s.closeBlocks s.cursor.column

/-- The first of the tokens that may still turn out to be a key, or else their number. -/
def settled (s : Scan) : Nat :=
  let open' := (s.keys.filterMap id).filter (!·.isStale s.cursor)
  (open'.map (·.tokens)).foldl min s.count

end Scan

/-- Tokens in order, and what is wrong with the text behind them. Nothing is wrong while a reader
asks for no more than these. -/
structure TokenList where
  tokens : List Token
  ending : Problem
  deriving Inhabited

namespace Scan

def stop (s : Scan) (p : Problem) : TokenList := ⟨s.tokens.reverse.take s.settled, p⟩

def run : Nat → Scan → TokenList
  | 0, s => s.stop .malformed
  | n + 1, s =>
    match s.approach with
    | .error p => s.stop p
    | .ok t =>
      if t.cursor.rest.isEmpty then
        match t.endBlocks with
        | .error p => s.stop p
        | .ok t => ⟨(t.emit .streamEnd).tokens.reverse, .malformed⟩
      else
        match t.step with
        | .error p => s.stop p
        | .ok t => run n t

end Scan

def skipByteOrderMark : List Char → List Char
  | c :: cs => if c == Char.ofNat 0xFEFF then cs else c :: cs
  | [] => []

def isAllowed (c : Char) : Bool :=
  let n := c.toNat
  n == 9 || n == 10 || n == 13 || (0x20 ≤ n && n ≤ 0x7E) || n == 0x85 ||
    (0xA0 ≤ n && n ≤ 0xD7FF) || (0xE000 ≤ n && n ≤ 0xFFFD) || 0x10000 ≤ n

def TokenList.ofText (cs : List Char) : TokenList :=
  if cs.all isAllowed then
    let cs := skipByteOrderMark cs
    Scan.run (cs.length + 2) (.start cs)
  else ⟨[], .malformed⟩

end TouchPath.Yaml
