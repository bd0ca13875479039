import TouchPath.Yaml.Cursor
import TouchPath.Yaml.Represent

/-! # Nodes written as documents

Mappings and sequences are written as blocks in the order of their entries, empty ones in brackets.
A scalar is written plain where its spelling implies its tag, else in single quotes, and in double
quotes where only escapes can show it. Lines are folded at a space once they are wider than eighty
characters. A tag is written where nothing implies it.
-/
namespace TouchPath.Yaml
set_option autoImplicit false

/-- What has been written, and the state of the current line: its width, whether it ends with a
blank, and whether it holds nothing but indentation and indicators of blocks. -/
structure Pen where
  text : String
  column : Nat
  blank : Bool
  fresh : Bool

namespace Pen

def start : Pen := ⟨"", 0, true, true⟩

def bestWidth : Nat := 80

def write (p : Pen) (cs : List Char) : Pen :=
  { p with text := p.text ++ String.ofList cs, column := p.column + cs.length }

def breakLine (p : Pen) (mark : Char) : Pen := ⟨p.text.push mark, 0, true, true⟩

def indentTo (p : Pen) (indent : Nat) : Pen :=
  let p :=
    if !p.fresh || decide (indent < p.column) || (p.column == indent && !p.blank) then
      p.breakLine '\n'
    else p
  if p.column < indent then
    { p.write (List.replicate (indent - p.column) ' ') with blank := true }
  else p

def indicator (p : Pen) (mark : List Char) (spaced fresh : Bool) : Pen :=
  let p := p.write (if p.blank || !spaced then mark else ' ' :: mark)
  { p with blank := false, fresh := p.fresh && fresh }

def inScalar (p : Pen) : Pen := { p with blank := false, fresh := false }

end Pen

/-- What decides how a text may be written. -/
structure Shape where
  multiline : Bool
  plain : Bool
  single : Bool

def leadingMarks : List Char :=
  "#,[]&*!|>'\"%@".toList ++ [Char.ofNat 0x7B, Char.ofNat 0x7D, Char.ofNat 0x60]

def isIndicator (first : Bool) (before ch after : Char) : Bool :=
  (first && (leadingMarks.contains ch || ch == '-' && isWideGap after)) ||
    (ch == '?' && first && isWideGap after) || (ch == ':' && isWideGap after) ||
    (ch == '#' && isWideGap before)

def hasIndicator (first : Bool) (before : Char) : List Char → Bool
  | [] => false
  | ch :: cs =>
    isIndicator first before ch (cs.headD endMark) || hasIndicator false ch cs

def startsWithMarker (cs : List Char) : Bool :=
  cs.take 3 == ['-', '-', '-'] || cs.take 3 == ['.', '.', '.']

def hasPair (p q : Char → Bool) (cs : List Char) : Bool :=
  (cs.zip cs.tail).any fun (a, b) => p a && q b

def isSpecial (c : Char) : Bool := !(c == '\n' || (0x20 ≤ c.toNat && c.toNat ≤ 0x7E))

def isSpace (c : Char) : Bool := c == ' '

def shapeOf (cs : List Char) : Shape :=
  if cs.isEmpty then ⟨false, true, true⟩
  else
    let edge (c : Char) : Bool := isSpace c || isBreak c
    let edges := edge (cs.headD 'x') || edge (cs.getLastD 'x')
    let breakSpace := hasPair isBreak isSpace cs
    let hard := hasPair isSpace isBreak cs || cs.any isSpecial
    let multiline := cs.any isBreak
    let indicators := startsWithMarker cs || hasIndicator true ' ' cs
    ⟨multiline, !edges && !breakSpace && !hard && !multiline && !indicators, !breakSpace && !hard⟩

/-- Runs of equal kind, in order. -/
def runs (kind : Char → Nat) (cs : List Char) : List (List Char) :=
  cs.splitBy fun a b => kind a == kind b

def spaceKind (c : Char) : Nat := if c == ' ' then 1 else if isBreak c then 2 else 0

/-- Writes the runs of a plain text; a single space becomes a new line where a line is too wide. -/
def writePlain (split : Bool) (indent : Nat) (p : Pen) (cs : List Char) : Pen :=
  let p := (if p.blank then p else p.write [' ']).inScalar
  (runs spaceKind cs).foldl (fun p run =>
    if split && run == [' '] && decide (Pen.bestWidth < p.column) then (p.indentTo indent).inScalar
    else p.write run) p

/-- Writes one run of a text in single quotes, where `inner` says that it is neither the first nor
the last one. -/
def writeSingleRun (split : Bool) (indent : Nat) (p : Pen) (run : List Char) (inner : Bool) :
    Pen :=
  match run with
  | [] => p
  | c :: _ =>
    if c == ' ' then
      if split && inner && run == [' '] && decide (Pen.bestWidth < p.column) then p.indentTo indent
      else p.write run
    else if isBreak c then
      let p := if c == '\n' then p.breakLine '\n' else p
      (run.foldl Pen.breakLine p).indentTo indent
    else p.write (run.flatMap fun c => if c == '\'' then ['\'', '\''] else [c])

def writeSingle (split : Bool) (indent : Nat) (p : Pen) (cs : List Char) : Pen :=
  let parts := runs spaceKind cs
  let count := parts.length
  let p := p.indicator ['\''] true false
  let p := parts.zipIdx.foldl (fun p (run, i) =>
    writeSingleRun split indent p run (0 < i && i + 1 < count)) p
  p.indicator ['\''] false false

def shortEscapes : List (Nat × Char) :=
  [(0, '0'), (7, 'a'), (8, 'b'), (9, 't'), (10, 'n'), (11, 'v'), (12, 'f'), (13, 'r'), (27, 'e'),
    (34, '"'), (92, '\\'), (0x85, 'N'), (0xA0, '_'), (0x2028, 'L'), (0x2029, 'P')]

/-- Upper-case hexadecimal digits, `width` of them. -/
def upperHex (width n : Nat) : List Char :=
  let ds := (Nat.toDigits 16 n).map Char.toUpper
  List.replicate (width - ds.length) '0' ++ ds

def escapeOf (c : Char) : List Char :=
  match shortEscapes.lookup c.toNat with
  | some letter => ['\\', letter]
  | none =>
    let n := Text.codeOf c
    if n ≤ 0xFF then '\\' :: 'x' :: upperHex 2 n
    else if n ≤ 0xFFFF then '\\' :: 'u' :: upperHex 4 n
    else '\\' :: 'U' :: upperHex 8 n

def needsEscape (c : Char) : Bool :=
  c == '"' || c == '\\' || c.toNat < 0x20 || 0x7E < c.toNat

/-- Ends a line within double quotes; a space at the start of the next one is escaped. -/
def foldDouble (indent : Nat) (p : Pen) (following : Char) : Pen :=
  let p := ((p.write ['\\']).indentTo indent).inScalar
  if following == ' ' then p.write ['\\'] else p

/-- The rest of a text in double quotes; `pending` is not yet written, and `i` of `size` characters
have been passed. -/
def doubleBody (split : Bool) (indent size : Nat) : Nat → List Char → List Char → Pen → Pen
  | _, pending, [], p => p.write pending
  | i, pending, ch :: rest, p =>
    let inner := split && decide (0 < i) && decide (i + 1 < size)
    if needsEscape ch then
      let p := (p.write pending).write (escapeOf ch)
      let p :=
        if inner && decide (Pen.bestWidth + 1 < p.column) then
          foldDouble indent p (rest.headD endMark)
        else p
      doubleBody split indent size (i + 1) [] rest p
    else if inner && (ch == ' ' || pending.isEmpty) &&
        decide (Pen.bestWidth < p.column + pending.length) then
      doubleBody split indent size (i + 1) [ch] rest (foldDouble indent (p.write pending) ch)
    else doubleBody split indent size (i + 1) (pending ++ [ch]) rest p

def writeDouble (split : Bool) (indent : Nat) (p : Pen) (cs : List Char) : Pen :=
  let p := p.indicator ['"'] true false
  (doubleBody split indent cs.length 0 [] cs p).indicator ['"'] false false

def shownTag (tag : String) : String :=
  if tag.startsWith tagBase then "!!" ++ (tag.drop tagBase.length).toString
  else "!<" ++ tag ++ ">"

def writeTag (implied : Bool) (tag : String) (p : Pen) : Pen :=
  if implied then p else p.indicator (shownTag tag).toList true false

def writeScalar (simpleKey : Bool) (indent : Nat) (p : Pen) (tag text : String) : Pen :=
  let cs := text.toList
  let shape := shapeOf cs
  let quoted := writeTag (tag == coreTag "str") tag p
  if implicitTag text == tag && shape.plain && !(simpleKey && cs.isEmpty) then
    writePlain (!simpleKey) indent p cs
  else if shape.single && !(simpleKey && shape.multiline) then
    writeSingle (!simpleKey) indent quoted cs
  else writeDouble (!simpleKey) indent quoted cs

namespace Node

/-- Whether a key can stand on one line before its colon. -/
def isSimpleKey : Node → Bool
  | scalar tag text =>
    decide ((shownTag tag).length + text.length < 128) && !text.isEmpty && !text.toList.any isBreak
  | _ => false

mutual

/-- Writes a node whose container has an indentation; `field` says that it is the key or the value
of a mapping. -/
def write (indent : Nat) (field : Bool) : Node → Pen → Pen
  | scalar tag text, p => writeScalar false (indent + 2) p tag text
  | sequence tag items, p =>
    let p := writeTag (tag == coreTag "seq") tag p
    if items.isEmpty then p.indicator ['[', ']'] true false
    else writeItems (if field && !p.fresh then indent else indent + 2) items p
  | mapping tag entries, p =>
    let p := writeTag (tag == coreTag "map") tag p
    if entries.isEmpty then p.indicator [Char.ofNat 0x7B, Char.ofNat 0x7D] true false
    else writeEntries (indent + 2) entries p

def writeItems (indent : Nat) : List Node → Pen → Pen
  | [], p => p
  | n :: ns, p =>
    let p := (p.indentTo indent).indicator ['-'] true true
    writeItems indent ns (write indent false n p)

def writeEntries (indent : Nat) : List (Node × Node) → Pen → Pen
  | [], p => p
  | (k, v) :: es, p =>
    let p := p.indentTo indent
    let p :=
      if isSimpleKey k then
        match k with
        | scalar tag text =>
          (writeScalar true (indent + 2) p tag text).indicator [':'] false false
        | _ => p
      else
        let p := write indent true k (p.indicator ['?'] true true)
        (p.indentTo indent).indicator [':'] true true
    writeEntries indent es (write indent true v p)

end

def document (entries : List (Node × Node)) : String :=
  let p :=
    if entries.isEmpty then Pen.start.indicator [Char.ofNat 0x7B, Char.ofNat 0x7D] true false
    else writeEntries 0 entries .start
  (p.breakLine '\n').text

end Node

/-- A mapping as a document, if its integers can be written. -/
def dump (tags : ObjectTags) (es : Entries) : Except Fault String :=
  if (Value.dict es).writable then .ok (Node.document (Node.ofEntries tags es))
  else .error .badValue

end TouchPath.Yaml
