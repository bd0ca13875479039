import TouchPath.Geometry.Text
import TouchPath.Number.Shortest
import TouchPath.Text.Quoted
import TouchPath.Value.Ring

/-! # Texts of values

`Value.literal` writes a value so that its kind shows: a text is quoted. `Value.display` leaves a
text, a date or a point as a reader would write it by hand, and is otherwise the literal.
-/
namespace TouchPath
set_option autoImplicit false

/-- Decimal digits of a number, at least `width` of them. -/
def padded (width n : Nat) : String :=
  let ds := Nat.toDigits 10 n
  String.ofList (List.replicate (width - ds.length) '0' ++ ds)

namespace Date

def text (d : Date) : String := s!"{padded 4 d.year}-{padded 2 d.month}-{padded 2 d.day}"

def literal (d : Date) : String := s!"datetime.date({d.year}, {d.month}, {d.day})"

end Date

namespace Moment

/-- Sign, hours and minutes of an offset from Greenwich. -/
def offsetText (minutes : Int) : String :=
  let sign := if minutes < 0 then "-" else "+"
  let n := minutes.natAbs
  s!"{sign}{padded 2 (n / 60)}:{padded 2 (n % 60)}"

def text (m : Moment) : String :=
  let clock := s!" {padded 2 m.hour}:{padded 2 m.minute}:{padded 2 m.second}"
  let fraction := if m.microsecond = 0 then "" else "." ++ padded 6 m.microsecond
  let zone := match m.offset with
    | none => ""
    | some minutes => offsetText minutes
  m.date.text ++ clock ++ fraction ++ zone

/-- An offset as days and seconds; the seconds are never negative. -/
def offsetLiteral (minutes : Int) : String :=
  if minutes = 0 then "datetime.timezone.utc"
  else
    let seconds := (minutes * 60).emod 86400
    let days := if minutes < 0 then "days=-1, " else ""
    s!"datetime.timezone(datetime.timedelta({days}seconds={seconds}))"

def literal (m : Moment) : String :=
  let tail :=
    if m.microsecond ≠ 0 then [m.second, m.microsecond]
    else if m.second ≠ 0 then [m.second] else []
  let fields := [m.date.year, m.date.month, m.date.day, m.hour, m.minute] ++ tail
  let zone := match m.offset with
    | none => []
    | some minutes => ["tzinfo=" ++ offsetLiteral minutes]
  "datetime.datetime(" ++ ", ".intercalate (fields.map toString ++ zone) ++ ")"

end Moment

def bytesLiteral (bs : List UInt8) : String :=
  let cs := bs.map fun b => Char.ofNat b.toNat
  let q := Text.quoteFor cs
  let shown (c : Char) : List Char :=
    if c.toNat < 0x7F then Text.escapeChar q c else Text.escapeCode c
  String.ofList ('b' :: q :: (cs.flatMap shown ++ [q]))

namespace Value

def enclosed (opening closing : String) (parts : List String) : String :=
  opening ++ ", ".intercalate parts ++ closing

/-- What stands for a container inside itself. -/
def hint : Value → String
  | list _ => "[...]"
  | _ => "\x7b...\x7d"

/-- The text of a cell, given how each cell is written around the texts of others. A cell that is
met again inside itself is only hinted at; `within` lists the cells around it. -/
def cellText (texts : List ((Nat → String) → String)) (hints : List String) :
    Nat → List Nat → Nat → String
  | 0, _, _ => ""
  | n + 1, within, i =>
    if within.contains i then hints.getD i ""
    else texts.getD i (fun _ => "") (cellText texts hints n (i :: within))

mutual

/-- The text of a value around the texts of the cells that it names. -/
def textAround : Value → (Nat → String) → String
  | null, _ => "None"
  | bool b, _ => if b then "True" else "False"
  | int n, _ => toString n
  | float x, _ => floatText x
  | text s, _ => Text.quoted s
  | list items, cell => enclosed "[" "]" (textsAround items cell)
  | dict entries, cell => enclosed "\x7b" "\x7d" (entryTextsAround entries cell)
  | point p, _ => p.literal
  | bounds b, _ => b.literal
  | date d, _ => d.literal
  | moment m, _ => m.literal
  | bytes bs, _ => bytesLiteral bs
  | pair a b, cell => enclosed "(" ")" [textAround a cell, textAround b cell]
  | set items, cell =>
    if items.isEmpty then "set()" else enclosed "\x7b" "\x7d" (textsAround items cell)
  | ring cells i, _ => cellText (cellTexts cells) (cells.map hint) (cells.length + 1) [] i
  | again i, cell => cell i

def textsAround : List Value → (Nat → String) → List String
  | [], _ => []
  | v :: vs, cell => textAround v cell :: textsAround vs cell

def entryTextsAround : List (Value × Value) → (Nat → String) → List String
  | [], _ => []
  | (k, v) :: es, cell =>
    (textAround k cell ++ ": " ++ textAround v cell) :: entryTextsAround es cell

def cellTexts : List Value → List ((Nat → String) → String)
  | [] => []
  | v :: vs => textAround v :: cellTexts vs

end

def literal (v : Value) : String := textAround v fun _ => ""

def display : Value → String
  | text s => s
  | point p => p.text
  | bounds b => b.text
  | date d => d.text
  | moment m => m.text
  | v => v.literal

/-- The values that `display` shows: a rectangle is shown by its corners. -/
def displayed : Value → List Value
  | bounds b => [point b.upperLeft, point b.lowerRight]
  | v => [v]

@[simp] theorem displayed_text (s : String) : (text s).displayed = [text s] := rfl

mutual

/-- Whether every integer of the text has at most `maxDigits` digits. -/
def writable : Value → Bool
  | int n => decide (n.natAbs < unwritable)
  | list items => allWritable items
  | dict entries => entriesWritable entries
  | point p => decide (p.x.natAbs < unwritable) && decide (p.y.natAbs < unwritable)
  | bounds b =>
    decide (b.upperLeft.x.natAbs < unwritable) && decide (b.upperLeft.y.natAbs < unwritable) &&
      decide (b.width.natAbs < unwritable) && decide (b.height.natAbs < unwritable)
  | pair a b => writable a && writable b
  | set items => allWritable items
  | ring cells i => (reached cells [i]).all fun j => (writableCells cells).getD j true
  | _ => true

def allWritable : List Value → Bool
  | [] => true
  | v :: vs => writable v && allWritable vs

def writableCells : List Value → List Bool
  | [] => []
  | v :: vs => writable v :: writableCells vs

def entriesWritable : List (Value × Value) → Bool
  | [] => true
  | (k, v) :: es => writable k && writable v && entriesWritable es

end

end Value
end TouchPath
