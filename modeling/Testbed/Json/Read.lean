import Testbed.Json.Basic
import Testbed.Json.Literal

/-!
# What a JSON text means

From the tree of what is written to the value. Strings are unescaped, of two members with one key
the later stays, and nesting has a limit. A number without point and exponent is an integer if 64
bits hold it. Every other number is read in floating point: as many leading digits as fit 64 bits
make a significand, further whole digits count towards the power of ten, and the significand is
rounded once before and once after it is scaled by that power. So the last bit of a number with
many digits can differ from the nearest one; a number beyond the largest finite one is refused.
-/

namespace Testbed.Json

/-- Significands stay within this bound. It is that of a number of 64 bits. -/
def significandLimit : Nat := UInt64.size

/-- Exponents with more digits than this bound has are settled by their sign. A number with such an
exponent is zero or too large, and nothing is scaled. -/
def exponentLimit : Nat := UInt32.size / 2

/-- The digit's number. It means something for digits only. -/
def digitValue (c : Char) : Nat := c.toNat - '0'.toNat

/-- The number that digits write. The first digit is the most significant. -/
def digitsValue (l : List Char) : Nat := l.foldl (fun n c => n * 10 + digitValue c) 0

/-- Takes whole digits into a significand while it fits; the rest are counted. Once one of them does
not fit, none of the later ones is tried. -/
def takeWhole : Nat → List Char → Nat × Nat
  | significand, [] => (significand, 0)
  | significand, c :: rest =>
    let next := significand * 10 + digitValue c
    if next < significandLimit then takeWhole next rest else (significand, rest.length + 1)

/-- Takes digits after the point into a significand while it fits; the rest are dropped. Gives the
significand and how many were taken. As with whole digits, the first that does not fit ends it. -/
def takeFraction : Nat → List Char → Nat × Nat
  | significand, [] => (significand, 0)
  | significand, c :: rest =>
    let next := significand * 10 + digitValue c
    if next < significandLimit then
      let (s, taken) := takeFraction next rest
      (s, taken + 1)
    else (significand, 0)

/-- The largest power of ten by which one step scales. It is the greatest whose value is finite. -/
def largestPower : Nat := 308

/-- The binary64 datum of a power of ten up to the largest. Powers up to the twenty-second are
exact, larger ones are rounded. -/
def powerOfTen (n : Nat) : Binary64 := Binary64.ofQuotient false (Nat.pow 10 n) 1

/-- Divides by a power of ten, in steps of at most the largest; a few steps reach zero. Every step
rounds once, which is where a very small number can lose its last bit. -/
def divPower : Nat → Binary64 → Nat → Binary64
  | 0, x, _ => x
  | fuel + 1, x, n =>
    if n ≤ largestPower then x.div (powerOfTen n)
    else if x.isZero then x
    else divPower fuel (x.div (powerOfTen largestPower)) (n - largestPower)

/-- A significand scaled by a power of ten; nothing beyond the finite numbers. Negative powers
divide and others multiply, so the rounding differs between them. -/
def scaled? (significand : Nat) (exponent : Int) : Option Binary64 :=
  let x := Binary64.ofQuotient false significand 1
  if exponent < 0 then some (divPower 5 x exponent.natAbs)
  else if exponent ≤ largestPower then
    let y := x.mul (powerOfTen exponent.toNat)
    if y.isFinite then some y else none
  else if significand = 0 then some x
  else none

namespace NumberLiteral

/-- The written exponent, or what settles a number whose exponent is out of bounds. It may be far
beyond what any number needs. -/
def exponentValue (n : NumberLiteral) : Int :=
  match n.exponent with
  | none => 0
  | some (negative, digits) =>
    let e : Int := digitsValue digits
    if negative then -e else e

/-- The magnitude of the number in floating point. A number that is too large is none, and one that
is too small is zero. -/
def magnitude? (n : NumberLiteral) : Option Binary64 :=
  let (significand, dropped) := takeWhole 0 n.whole
  let (significand, taken) := takeFraction significand (n.fraction.getD [])
  let written := n.exponentValue
  let power : Int := (dropped : Int) - taken
  if exponentLimit ≤ written.natAbs then
    if significand = 0 ∨ written < 0 then some (Binary64.zero false) else none
  else scaled? significand (power + written)

/-- The number that is meant. A minus sign in front of zero makes a float, as an integer has no sign
of its own there. -/
def value? (n : NumberLiteral) : Option Json :=
  let signed (x : Binary64) : Json := .float (if n.negative then x.neg else x)
  if n.fraction.isNone && n.exponent.isNone then
    let whole := digitsValue n.whole
    if n.negative then
      if whole ≠ 0 ∧ whole ≤ UInt64.size / 2 then some (.int (-(whole : Int)))
      else n.magnitude?.map signed
    else if whole < significandLimit then some (.int whole)
    else n.magnitude?.map signed
  else n.magnitude?.map signed

end NumberLiteral

namespace Literal

mutual

/-- The value of a text nested at most `depth` deep. A scalar is nested at no depth. -/
def value? (depth : Nat) : Literal → Option Json
  | .null => some .null
  | .bool b => some (.bool b)
  | .number n => n.value?
  | .str body => (unescape? body).map (fun l => .str (String.ofList l))
  | .arr items => if depth = 0 then none else (values? (depth - 1) items).map .arr
  | .obj members =>
    if depth = 0 then none else (memberValues? (depth - 1) members).map mkObj

/-- The values of items. One that means nothing spoils all. -/
def values? (depth : Nat) : List Literal → Option (List Json)
  | [] => some []
  | x :: rest => do return (← value? depth x) :: (← values? depth rest)

/-- The values of members with their keys. A key that stands twice is kept twice here. -/
def memberValues? (depth : Nat) : List (List Char × Literal) → Option (List (String × Json))
  | [] => some []
  | (key, x) :: rest => do
    return (String.ofList (← unescape? key), ← value? depth x) :: (← memberValues? depth rest)

end

end Literal

/-- How deep arrays and objects may be nested. A text that goes deeper is refused and not cut. -/
def nestingLimit : Nat := 127

/-- The value that a text means. There is none if the text is not JSON, or if it is and means
nothing. -/
def parse? (text : String) : Option Json := do
  (← Literal.read? text.toList).value? nestingLimit

end Testbed.Json
