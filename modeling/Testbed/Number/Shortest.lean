import Testbed.Number.Binary64

/-!
# The shortest decimal that reads back

A finite binary64 number stands for an interval of reals: those that round to it. Among the
decimals in that interval the ones with the fewest digits are wanted, and of these the nearest to
the number. `Binary64.shortest` tries one digit, then two, and so on; on the grid of decimals
with a given number of digits only the number's two neighbours need to be looked at, since if any
point of the grid lies in the interval one of them does. Seventeen digits always suffice.
-/

namespace Testbed

/-- The decimal number `digits · 10 ^ exponent`. It has no sign. -/
structure Decimal where
  /-- The digits as one number, without a trailing zero unless it is zero itself. -/
  digits : Nat
  /-- The power of ten. -/
  exponent : Int
  deriving DecidableEq, Repr, Inhabited

namespace Decimal

/-- Moves trailing zeros of the digits into the exponent; `fuel` bounds their number. Zero keeps its
one digit. -/
def strip : Nat → Nat → Int → Decimal
  | 0, digits, exponent => ⟨digits, exponent⟩
  | fuel + 1, digits, exponent =>
    if digits ≠ 0 ∧ digits % 10 = 0 then strip fuel (digits / 10) (exponent + 1)
    else ⟨digits, exponent⟩

/-- The digits as characters. Zero is one digit. -/
def text (d : Decimal) : List Char := Nat.toDigits 10 d.digits

end Decimal

namespace Binary64

/-- The interval of quotients `n / den` that round to a number, with the number itself. All three
are numerators over one denominator, so they are compared as natural numbers. -/
structure Rounding where
  /-- The common denominator. -/
  den : Nat
  /-- The lower end. -/
  lower : Nat
  /-- The number. -/
  value : Nat
  /-- The upper end. -/
  upper : Nat
  /-- Whether the ends belong to the interval. -/
  closed : Bool

/-- The interval of a finite significand and exponent. Below a power of two the neighbouring number
is only half as far. The ends belong to it where the significand is even, since a half is rounded to
such a one. -/
def roundingOf (significand : Nat) (exponent : Int) : Rounding :=
  let unit := Nat.pow 2 exponent.toNat
  let low := if significand = Nat.pow 2 52 ∧ exponent ≠ leastExponent then 1 else 2
  { den := 4 * Nat.pow 2 (-exponent).toNat
    lower := (4 * significand - low) * unit
    value := 4 * significand * unit
    upper := (4 * significand + 2) * unit
    closed := significand % 2 = 0 }

/-- Whether `digits · 10 ^ exponent` lies in the interval. Nothing is rounded in the test. -/
def Rounding.holds (r : Rounding) (digits : Nat) (exponent : Int) : Bool :=
  let n := digits * Nat.pow 10 exponent.toNat * r.den
  let scale := Nat.pow 10 (-exponent).toNat
  if r.closed then r.lower * scale ≤ n ∧ n ≤ r.upper * scale
  else r.lower * scale < n ∧ n < r.upper * scale

/-- The decimal on the grid `10 ^ exponent` that is in the interval and nearest to the number, if
the grid has a point there; of two equally near ones the even one. Zero may be the neighbour below.
-/
def Rounding.onGrid? (r : Rounding) (exponent : Int) : Option Decimal :=
  let num := r.value * Nat.pow 10 (-exponent).toNat
  let den := r.den * Nat.pow 10 exponent.toNat
  let below := num / den
  let above := below + 1
  let near := roundDiv num den
  match r.holds below exponent, r.holds above exponent with
  | true, true => some ⟨near, exponent⟩
  | true, false => some ⟨below, exponent⟩
  | false, true => some ⟨above, exponent⟩
  | false, false => none

/-- The number of digits before the decimal point of `num / den`, counted negatively for leading
zeros after it: the `k` with `10 ^ (k - 1) ≤ num / den < 10 ^ k`. The estimate from the binary
logarithms is off by at most one upwards and is corrected. It fixes where the first digit stands. -/
def decimalMagnitude (num den : Nat) : Int :=
  let bits : Int := (num.log2 : Int) - (den.log2 : Int) + 1
  let guess : Int := bits * 30103 / 100000 + 1
  let below (k : Int) : Bool := num * Nat.pow 10 (-k).toNat < den * Nat.pow 10 k.toNat
  if below (guess - 2) then guess - 2
  else if below (guess - 1) then guess - 1
  else if below guess then guess
  else guess + 1

/-- Searches the grids from `count` digits on, `fuel` of them. One more digit makes the grid ten
times as fine. -/
def shortestFrom (r : Rounding) (magnitude : Int) : Nat → Nat → Option Decimal
  | 0, _ => none
  | fuel + 1, count =>
    match r.onGrid? (magnitude - count) with
    | some d => some d
    | none => shortestFrom r magnitude fuel (count + 1)

/-- The shortest decimal that reads back as the finite number with this significand and exponent.
Zeros at the end of the digits are moved into the exponent. -/
def shortest (significand : Nat) (exponent : Int) : Decimal :=
  if significand = 0 then ⟨0, 0⟩
  else
    let r := roundingOf significand exponent
    let magnitude := decimalMagnitude r.value r.den
    match shortestFrom r magnitude 17 1 with
    | some d => Decimal.strip 20 d.digits d.exponent
    | none => ⟨0, 0⟩

end Binary64

end Testbed
