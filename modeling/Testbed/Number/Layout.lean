import Testbed.Number.Shortest

/-!
# Writing a number down

Two formats write the same shortest digits differently. What differs is data: from which power of
ten on the exponent is written out, whether a whole number keeps its `.0`, how a positive exponent
is marked and which words stand for the data that are no finite numbers. `Layout` is that data and
`Binary64.render` the one function that reads it.
-/

namespace Testbed

/-- How a format writes a number. No field depends on the number, so a format is a value. -/
structure Layout where
  /-- The exponents of the leading digit that are written positionally. -/
  positional : Int → Bool
  /-- Whether a whole number written positionally ends in `.0`. -/
  keepsPoint : Bool
  /-- What stands between an exponent mark and the digits of a positive exponent. -/
  positiveMark : String
  /-- The word for the datum that is no number. -/
  nan : String
  /-- The word for positive infinity. -/
  infinity : String

namespace Layout

/-- Numbers in JSON: positional from `0.00001` up to sixteen digits before the point, a whole number
keeps `.0`, a positive exponent has a plus sign. JSON has no other data, and `null` stands for them.
The bounds are inclusive. -/
def json : Layout where
  positional e := -5 ≤ e ∧ e ≤ 15
  keepsPoint := true
  positiveMark := "+"
  nan := "null"
  infinity := "null"

/-- Plain decimals: always positional, a whole number has no point. A large number is written with
all its zeros. -/
def plain : Layout where
  positional _ := true
  keepsPoint := false
  positiveMark := ""
  nan := "NaN"
  infinity := "inf"

/-- Digits with the point placed so that the leading digit has exponent `lead`. A number below one
has a zero in front of its point. -/
def place (l : Layout) (digits : List Char) (lead : Int) : List Char :=
  if lead < 0 then
    "0.".toList ++ List.replicate (-lead - 1).toNat '0' ++ digits
  else
    let whole := lead.toNat + 1
    if digits.length ≤ whole then
      digits ++ List.replicate (whole - digits.length) '0'
        ++ (if l.keepsPoint then ".0".toList else [])
    else digits.take whole ++ '.' :: digits.drop whole

/-- Digits with the point after the first of them and the exponent written out. A single digit has
no point behind it. -/
def scientific (l : Layout) (digits : List Char) (lead : Int) : List Char :=
  let mantissa := match digits with
    | [] => ['0']
    | [d] => [d]
    | d :: rest => d :: '.' :: rest
  let sign := if lead < 0 then ['-'] else l.positiveMark.toList
  mantissa ++ 'e' :: sign ++ Nat.toDigits 10 lead.natAbs

/-- A decimal in this layout. The exponent of the leading digit decides between the two ways. -/
def decimal (l : Layout) (d : Decimal) : List Char :=
  let digits := d.text
  let lead : Int := if d.digits = 0 then 0 else d.exponent + digits.length - 1
  if l.positional lead then l.place digits lead else l.scientific digits lead

end Layout

/-- A datum in a layout. The sign comes first, also that of a zero. -/
def Binary64.render (l : Layout) : Binary64 → String
  | .finite negative s e =>
    String.ofList ((if negative then ['-'] else []) ++ l.decimal (shortest s e))
  | .infinite negative => (if negative then "-" else "") ++ l.infinity
  | .nan => l.nan

end Testbed
