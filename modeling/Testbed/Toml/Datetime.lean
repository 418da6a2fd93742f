import Testbed.Number.DecimalText

/-!
# Dates and times

A date, a time of day, both, or both with an offset from universal time. Dates exist in the
calendar; the second of a time may be the leap second and may be left out when it is read. A text
is written with all parts, a `T` between date and time and the fraction without its last zeros.
-/

namespace Testbed

/-- A day of the calendar. Years have four digits. -/
structure CalendarDate where
  year : Nat
  month : Nat
  day : Nat
  deriving DecidableEq, Repr, Inhabited

/-- A time of day. A second may be the sixtieth. -/
structure TimeOfDay where
  hour : Nat
  minute : Nat
  second : Nat
  nanosecond : Nat
  deriving DecidableEq, Repr, Inhabited

/-- An offset from universal time. Universal time and an offset of zero are two things, written in
two ways. -/
inductive TimeOffset where
  /-- Universal time itself. -/
  | universal
  /-- Some minutes ahead, or behind if negative. -/
  | minutes (ahead : Int)
  deriving DecidableEq, Repr, Inhabited

/-- **A date, a time or both.** An offset goes with a date and a time, and never with one of them
alone. -/
inductive Datetime where
  | date (d : CalendarDate)
  | time (t : TimeOfDay)
  | both (d : CalendarDate) (t : TimeOfDay)
  | zoned (d : CalendarDate) (t : TimeOfDay) (o : TimeOffset)
  deriving DecidableEq, Repr, Inhabited

/-- A number with at least `width` digits. A number with more of them is not cut. -/
def paddedDigits (width n : Nat) : List Char :=
  let digits := Nat.toDigits 10 n
  List.replicate (width - digits.length) '0' ++ digits

namespace CalendarDate

/-- Whether a year has a leap day. Centuries have none, except every fourth. -/
def isLeap (year : Nat) : Bool := (year % 4 == 0 && year % 100 != 0) || year % 400 == 0

/-- The number of days in a month. A month that does not exist has thirty-one, which nobody asks
for. -/
def daysIn (year month : Nat) : Nat :=
  if month = 2 then (if isLeap year then 29 else 28)
  else if month = 4 ∨ month = 6 ∨ month = 9 ∨ month = 11 then 30
  else 31

/-- The date, if the calendar has it. Day and month are counted from one. -/
def of? (year month day : Nat) : Option CalendarDate :=
  if 1 ≤ month ∧ month ≤ 12 ∧ 1 ≤ day ∧ day ≤ daysIn year month then some ⟨year, month, day⟩
  else none

/-- The text of a date. Its parts always have four and two digits. -/
def chars (d : CalendarDate) : List Char :=
  paddedDigits 4 d.year ++ '-' :: paddedDigits 2 d.month ++ '-' :: paddedDigits 2 d.day

end CalendarDate

namespace TimeOfDay

/-- The time, if its parts are in range. The nanoseconds are in range by the way they are read. -/
def of? (hour minute second nanosecond : Nat) : Option TimeOfDay :=
  if hour ≤ 23 ∧ minute ≤ 59 ∧ second ≤ 60 then some ⟨hour, minute, second, nanosecond⟩ else none

/-- The text of the fraction of a second. A whole second has none. -/
def fractionChars (nanosecond : Nat) : List Char :=
  if nanosecond = 0 then []
  else '.' :: ((paddedDigits 9 nanosecond).reverse.dropWhile (· == '0')).reverse

/-- The text of a time. The second is always written. -/
def chars (t : TimeOfDay) : List Char :=
  paddedDigits 2 t.hour ++ ':' :: paddedDigits 2 t.minute ++ ':' :: paddedDigits 2 t.second
    ++ fractionChars t.nanosecond

end TimeOfDay

/-- The text of an offset. Hours and minutes have two digits each. -/
def TimeOffset.chars : TimeOffset → List Char
  | universal => ['Z']
  | minutes ahead =>
    (if ahead < 0 then '-' else '+') :: paddedDigits 2 (ahead.natAbs / 60)
      ++ ':' :: paddedDigits 2 (ahead.natAbs % 60)

namespace Datetime

/-- The text. A time by itself has no mark in front. -/
def text : Datetime → String
  | date d => String.ofList d.chars
  | time t => String.ofList t.chars
  | both d t => String.ofList (d.chars ++ 'T' :: t.chars)
  | zoned d t o => String.ofList (d.chars ++ 'T' :: t.chars ++ o.chars)

/-! ## Reading -/

/-- The number of two digits. Both have to be digits. -/
def two? (a b : Char) : Option Nat :=
  if DecimalText.isDigit a && DecimalText.isDigit b then some (DecimalText.natOf [a, b]) else none

/-- Reads a date. What follows it is not looked at. -/
def readDate : List Char → Option (CalendarDate × List Char)
  | a :: b :: c :: d :: '-' :: e :: f :: '-' :: g :: h :: rest => do
    let year := (← two? a b) * 100 + (← two? c d)
    return (← CalendarDate.of? year (← two? e f) (← two? g h), rest)
  | _ => none

/-- The nanoseconds that the digits of a fraction stand for; those beyond the ninth are dropped.
Missing digits count as zeros. -/
def nanosOf (digits : List Char) : Nat :=
  DecimalText.natOf ((digits ++ List.replicate 9 '0').take 9)

/-- Reads the fraction of a second, if there is one. A point has to be followed by a digit. -/
def readFraction : List Char → Option (Nat × List Char)
  | '.' :: rest =>
    let digits := rest.takeWhile DecimalText.isDigit
    if digits.isEmpty then none else some (nanosOf digits, rest.dropWhile DecimalText.isDigit)
  | l => some (0, l)

/-- Reads the second and its fraction, if they are there. A time may end after its minutes. -/
def readSecond : List Char → Option (Nat × Nat × List Char)
  | ':' :: a :: b :: rest => do
    let second ← two? a b
    let (nanosecond, rest) ← readFraction rest
    return (second, nanosecond, rest)
  | ':' :: _ => none
  | l => some (0, 0, l)

/-- Reads a time. Whether its parts are in range is tested when all of them are there. -/
def readTime : List Char → Option (TimeOfDay × List Char)
  | a :: b :: ':' :: c :: d :: rest => do
    let hour ← two? a b
    let minute ← two? c d
    let (second, nanosecond, rest) ← readSecond rest
    return (← TimeOfDay.of? hour minute second nanosecond, rest)
  | _ => none

/-- Reads an offset of hours and minutes. Nothing may follow it. -/
def readOffset (behind : Bool) : List Char → Option TimeOffset
  | [a, b, ':', c, d] => do
    let hours ← two? a b
    let minutes ← two? c d
    if hours ≤ 23 ∧ minutes ≤ 59 then
      let n : Int := hours * 60 + minutes
      return .minutes (if behind then -n else n)
    else none
  | _ => none

/-- Reads what follows date and time. The letter for universal time may be small. -/
def withOffset (d : CalendarDate) (t : TimeOfDay) : List Char → Option Datetime
  | [] => some (both d t)
  | ['Z'] | ['z'] => some (zoned d t .universal)
  | '+' :: rest => (readOffset false rest).map (zoned d t)
  | '-' :: rest => (readOffset true rest).map (zoned d t)
  | _ => none

/-- Whether a character stands between date and time. A blank will do. -/
def isSeparator (c : Char) : Bool := c == 'T' || c == 't' || c == ' '

/-- Reads a text. A text that begins like a date is not tried as a time. -/
def ofChars? (l : List Char) : Option Datetime :=
  match readDate l with
  | some (d, []) => some (date d)
  | some (d, c :: rest) => do
    if isSeparator c then
      let (t, rest) ← readTime rest
      withOffset d t rest
    else none
  | none => do
    match ← readTime l with
    | (t, []) => return time t
    | _ => none

/-- Reads a text. Nothing may stand before or behind. -/
def ofText? (s : String) : Option Datetime := ofChars? s.toList

end Datetime

end Testbed
