/-! # Dates

Days of the calendar in the proleptic Gregorian count, and times of day. A time of day with an
offset from Greenwich names an instant; two of them are the same when their instants are, whatever
the offsets. A time of day without an offset is never the same as one with an offset.
-/
namespace TouchPath
set_option autoImplicit false

def isLeapYear (y : Nat) : Bool := y % 4 == 0 && (y % 100 != 0 || y % 400 == 0)

def daysIn (y m : Nat) : Nat :=
  if m = 2 then if isLeapYear y then 29 else 28
  else if m = 4 || m = 6 || m = 9 || m = 11 then 30 else 31

structure Date where
  year : Nat
  month : Nat
  day : Nat
  deriving DecidableEq, Repr, Inhabited

namespace Date

def isValid (d : Date) : Bool :=
  1 ≤ d.year && 1 ≤ d.month && d.month ≤ 12 && 1 ≤ d.day && d.day ≤ daysIn d.year d.month

/-- The number of a day, the first one of the first year being one. -/
def ordinal (d : Date) : Nat :=
  let y := d.year - 1
  let months := (List.range (d.month - 1)).foldl (fun n m => n + daysIn d.year (m + 1)) 0
  y * 365 + y / 4 - y / 100 + y / 400 + months + d.day

end Date

/-- A date with a time of day, and the minutes east of Greenwich where they are known. -/
structure Moment where
  date : Date
  hour : Nat
  minute : Nat
  second : Nat
  microsecond : Nat
  offset : Option Int
  deriving DecidableEq, Repr, Inhabited

namespace Moment

/-- Minutes since a fixed instant, the offset taken away. -/
def minutes (m : Moment) (offset : Int) : Int :=
  (m.date.ordinal * 1440 + m.hour * 60 + m.minute : Nat) - offset

def same (m n : Moment) : Bool :=
  match m.offset, n.offset with
  | some a, some b =>
    m.minutes a == n.minutes b && m.second == n.second && m.microsecond == n.microsecond
  | none, none => m == n
  | _, _ => false

end Moment
end TouchPath
