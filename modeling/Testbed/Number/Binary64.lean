/-!
# Double-precision numbers

A number of the IEEE 754 interchange format *binary64*, held as the integers it is made of: a
sign, a significand and a power of two. Arithmetic on it is exact arithmetic on natural numbers
followed by one rounding (`Binary64.ofQuotient`: to nearest, ties to the even significand), so a
decimal text is read correctly whatever its length, and equality is decidable.

Finite data are canonical: the significand is below `2 ^ 53`, the exponent is at least `-1074`,
and the significand reaches `2 ^ 52` unless the exponent is `-1074`. Every function of this
module keeps that form.
-/

namespace Testbed

/-- A binary64 datum. A finite one is `± significand · 2 ^ exponent`. The two zeros are two data,
and there is one datum that is no number. -/
inductive Binary64 where
  /-- A finite number; zero keeps its sign. -/
  | finite (negative : Bool) (significand : Nat) (exponent : Int)
  /-- An infinity. -/
  | infinite (negative : Bool)
  /-- The datum that is no number. -/
  | nan
  deriving DecidableEq, Repr, Inhabited

namespace Binary64

/-- Significands stay below this bound. It has fifty-three bits. -/
def significandBound : Nat := Nat.pow 2 53

/-- The exponent of the least finite numbers. Below it there is nothing but zero. -/
def leastExponent : Int := -1074

/-- The exponent of the greatest finite numbers. Beyond it everything is infinite. -/
def greatestExponent : Int := 971

/-- Zero with a sign. Its exponent is the least, as the canonical form demands. -/
def zero (negative : Bool) : Binary64 := .finite negative 0 leastExponent

/-- The quotient rounded to nearest, a half to the even neighbour. The remainder is compared with
half of the denominator by doubling it, so nothing is lost. -/
def roundDiv (num den : Nat) : Nat :=
  let q := num / den
  let r := num % den
  if 2 * r < den then q
  else if den < 2 * r then q + 1
  else if q % 2 = 0 then q else q + 1

/-- Whether `num / den` is at least `2 ^ e`. Both sides are multiplied out, so the test is exact. -/
def reachesPower (num den : Nat) (e : Int) : Bool :=
  den * Nat.pow 2 e.toNat ≤ num * Nat.pow 2 (-e).toNat

/-- The exponent at which `num / den` has a 53-bit significand, or the least exponent if that is
larger. The estimate from the logarithms is one too high at most. -/
def scaleOf (num den : Nat) : Int :=
  let e : Int := (num.log2 : Int) - (den.log2 : Int)
  let e := if reachesPower num den e then e else e - 1
  max (e - 52) leastExponent

/-- **The one rounding.** The datum nearest to `± num / den`; of two equally near ones that with the
even significand; an infinity beyond the greatest finite numbers. Where rounding up reaches the
bound the significand is halved and stays canonical. -/
def ofQuotient (negative : Bool) (num den : Nat) : Binary64 :=
  if num = 0 then zero negative
  else
    let scale := scaleOf num den
    let s := roundDiv (num * Nat.pow 2 (-scale).toNat) (den * Nat.pow 2 scale.toNat)
    let (s, scale) := if s = significandBound then (s / 2, scale + 1) else (s, scale)
    if scale > greatestExponent then .infinite negative else .finite negative s scale

/-- The datum nearest to `± digits · 10 ^ exponent`. Exponents that lie outside every finite
number's range are settled without computing the power. The bounds are generous, and between them
the power is small enough to be computed. -/
def ofDecimal (negative : Bool) (digits : Nat) (exponent : Int) : Binary64 :=
  if digits = 0 then zero negative
  else
    let magnitude : Int := ((Nat.toDigits 10 digits).length : Int) + exponent
    if magnitude > 310 then .infinite negative
    else if magnitude < -330 then zero negative
    else ofQuotient negative (digits * Nat.pow 10 exponent.toNat) (Nat.pow 10 (-exponent).toNat)

/-- Numerator and denominator of a finite significand and exponent. One of the two powers is always
one. -/
def quotientOf (significand : Nat) (exponent : Int) : Nat × Nat :=
  (significand * Nat.pow 2 exponent.toNat, Nat.pow 2 (-exponent).toNat)

/-- The product of two data, rounded once. Where no number can be meant, as with zero times
infinity, there is none. -/
def mul : Binary64 → Binary64 → Binary64
  | .finite n s e, .finite n' s' e' =>
    let (a, b) := quotientOf s e
    let (a', b') := quotientOf s' e'
    ofQuotient (n != n') (a * a') (b * b')
  | .infinite n, .finite n' s' _ => if s' = 0 then .nan else .infinite (n != n')
  | .finite n s _, .infinite n' => if s = 0 then .nan else .infinite (n != n')
  | .infinite n, .infinite n' => .infinite (n != n')
  | _, _ => .nan

/-- The quotient of two data, rounded once. Division by zero is infinite unless zero is divided. -/
def div : Binary64 → Binary64 → Binary64
  | .finite n s e, .finite n' s' e' =>
    if s' = 0 then (if s = 0 then .nan else .infinite (n != n'))
    else
      let (a, b) := quotientOf s e
      let (a', b') := quotientOf s' e'
      ofQuotient (n != n') (a * b') (b * a')
  | .infinite n, .finite n' _ _ => .infinite (n != n')
  | .finite n _ _, .infinite n' => zero (n != n')
  | _, _ => .nan

/-- The same magnitude with the other sign. It is exact. -/
def neg : Binary64 → Binary64
  | .finite n s e => .finite (!n) s e
  | .infinite n => .infinite (!n)
  | .nan => .nan

/-- Whether the datum is a zero of either sign. No rounding is involved. -/
def isZero : Binary64 → Bool
  | .finite _ s _ => s == 0
  | _ => false

/-- Whether the datum is a finite number. Zeros are. -/
def isFinite : Binary64 → Bool
  | .finite .. => true
  | _ => false

/-- The datum with the sign of a zero forgotten. Other data keep their sign. -/
def unsignedZero : Binary64 → Binary64
  | .finite _ 0 e => .finite false 0 e
  | x => x

end Binary64

end Testbed
