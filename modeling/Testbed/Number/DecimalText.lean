import Testbed.Number.Binary64

/-!
# Reading a decimal text

A number in floating point as people write it: a sign, digits around a point, an exponent, or one of
the words for the data that are no finite numbers. The datum is the nearest one, whatever the number
of digits.

What is read is rounded once, from the exact number that the digits write. Before a word is
recognised its letters are made small, so the words may be written in any case.
-/

namespace Testbed

namespace DecimalText

/-- Whether a character is a decimal digit. Digits of other scripts are none. -/
def isDigit (c : Char) : Bool := '0' ≤ c && c ≤ '9'

/-- The number that digits write. No digits write zero. -/
def natOf (l : List Char) : Nat := l.foldl (fun n c => n * 10 + (c.toNat - '0'.toNat)) 0

/-- A sign, negative or not, and what follows it. Without a sign the number is positive. -/
def splitSign : List Char → Bool × List Char
  | '-' :: rest => (true, rest)
  | '+' :: rest => (false, rest)
  | l => (false, l)

/-- The exponent that a mark and digits write; zero if nothing is left. The mark is an `e` in either
case, and digits have to follow. -/
def exponent? : List Char → Option Int
  | [] => some 0
  | mark :: rest =>
    let (negative, digits) := splitSign rest
    if (mark == 'e' || mark == 'E') && !digits.isEmpty && digits.all isDigit then
      let e : Int := natOf digits
      some (if negative then -e else e)
    else none

/-- The digits after a point, and what follows them. There may be none of them even after a point.
-/
def splitFraction : List Char → List Char × List Char
  | '.' :: rest => (rest.takeWhile isDigit, rest.dropWhile isDigit)
  | l => ([], l)

/-- The datum nearest to a finite number without its sign. Digits have to stand on one side of the
point at least. -/
def magnitude? (negative : Bool) (l : List Char) : Option Binary64 :=
  let whole := l.takeWhile isDigit
  let (fraction, rest) := splitFraction (l.dropWhile isDigit)
  if whole.isEmpty && fraction.isEmpty then none
  else (exponent? rest).map (fun e =>
    Binary64.ofDecimal negative (natOf (whole ++ fraction)) (e - fraction.length))

/-- The datum that a word names. A sign in front of the last one is dropped. -/
def word? (negative : Bool) (l : List Char) : Option Binary64 :=
  match String.ofList (l.map Char.toLower) with
  | "inf" | "infinity" => some (.infinite negative)
  | "nan" => some .nan
  | _ => none

end DecimalText

/-- Reads a number. Blanks are not allowed anywhere. -/
def Binary64.ofText? (s : String) : Option Binary64 :=
  let (negative, l) := DecimalText.splitSign s.toList
  match DecimalText.word? negative l with
  | some x => some x
  | none => DecimalText.magnitude? negative l

end Testbed
