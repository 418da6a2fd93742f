import Testbed.Toml.Basic
import Testbed.Uuid

/-!
# Words of TOML

Booleans, numbers, dates and times are words. Digits may be separated by single underscores; whole
numbers have no leading zeros, and one with a base has no sign. A word has its value before it is
asked whether the value fits into its type (`wordFits`): whole numbers have 64 bits, and only the
words for infinity are infinite.
-/

namespace Testbed.Toml

/-- Whether a character is a decimal digit. Digits of other scripts are none. -/
def isDigit (c : Char) : Bool := DecimalText.isDigit c

/-- Digits without the underscores between them; nothing if an underscore is not between two digits
or there is no digit. `before` tells whether a digit stands before. Two underscores in a row are
refused. -/
def digitsFrom? (accepts : Char → Bool) : Bool → List Char → Option (List Char)
  | before, [] => if before then some [] else none
  | before, c :: rest =>
    if c = '_' then (if before then digitsFrom? accepts false rest else none)
    else if accepts c then (digitsFrom? accepts true rest).map (c :: ·)
    else none

/-- The digits of a number, underscores left out. There is one at least. -/
def digits? (accepts : Char → Bool) (l : List Char) : Option (List Char) :=
  digitsFrom? accepts false l

/-- Digits without a leading zero. Zero itself is fine. -/
def wholeDigits? (l : List Char) : Option (List Char) :=
  match digits? isDigit l with
  | some ('0' :: _ :: _) => none
  | digits => digits

/-- The number that digits of a base write. All of them are taken for digits of the base. -/
def natOfBase (base : Nat) (l : List Char) : Nat :=
  l.foldl (fun n c => n * base + (Uuid.hexValue? c).getD 0) 0

/-- A whole number with a base. Zeros in front are fine here. -/
def based? (base : Nat) (l : List Char) : Option Toml := do
  let digits ← digits? (fun c => (Uuid.hexValue? c).any (· < base)) l
  return .int (natOfBase base digits)

/-- A decimal whole number. Its bound is looked at afterwards. -/
def integer? (negative : Bool) (l : List Char) : Option Toml := do
  let n : Int := DecimalText.natOf (← wholeDigits? l)
  return .int (if negative then -n else n)

/-- The digits after a point, which must be some. Without a point there are none, and that is fine.
-/
def fraction? : List Char → Option (List Char)
  | [] => some []
  | '.' :: rest => digits? isDigit rest
  | _ => none

/-- The exponent after its mark. It may have zeros in front. -/
def exponent? : List Char → Option Int
  | [] => some 0
  | _ :: rest => do
    let (negative, l) := DecimalText.splitSign rest
    let e : Int := DecimalText.natOf (← digits? isDigit l)
    return if negative then -e else e

/-- Whether a character marks an exponent. Capitals are fine. -/
def isExponentMark (c : Char) : Bool := c == 'e' || c == 'E'

/-- A number with a point or an exponent. One beyond the finite numbers is infinite. The datum is
the nearest one. -/
def float? (negative : Bool) (l : List Char) : Option Toml := do
  let mantissa := l.takeWhile (!isExponentMark ·)
  let whole ← wholeDigits? (mantissa.takeWhile (· != '.'))
  let fraction ← fraction? (mantissa.dropWhile (· != '.'))
  let e ← exponent? (l.dropWhile (!isExponentMark ·))
  return .float (Binary64.ofDecimal negative (DecimalText.natOf (whole ++ fraction))
    (e - fraction.length))

/-- A decimal number without its sign. The two words are in small letters. -/
def unsigned? (negative : Bool) (l : List Char) : Option Toml :=
  match String.ofList l with
  | "inf" => some (.float (.infinite negative))
  | "nan" => some (.float .nan)
  | _ =>
    if l.any (fun c => c == '.' || isExponentMark c) then float? negative l
    else integer? negative l

/-- The value of a word. Whether it is a date is asked before whether it is a number. -/
def word? (l : List Char) : Option Toml :=
  match l with
  | '0' :: 'x' :: rest => based? 16 rest
  | '0' :: 'o' :: rest => based? 8 rest
  | '0' :: 'b' :: rest => based? 2 rest
  | '-' :: rest => unsigned? true rest
  | '+' :: rest => unsigned? false rest
  | l =>
    match String.ofList l with
    | "true" => some (.bool true)
    | "false" => some (.bool false)
    | _ =>
      match Datetime.ofChars? l with
      | some d => some (.datetime d)
      | none => unsigned? false l

/-- Whole numbers lie in this range. They are the whole numbers of 64 bits with a sign. -/
def inRange (n : Int) : Bool := Int64.minValue.toInt ≤ n && n ≤ Int64.maxValue.toInt

/-- Whether the value of a word, if it has one, fits into its type. The words for infinity have no
digits. What has no value is refused elsewhere. -/
def wordFits (l : List Char) : Bool :=
  match word? l with
  | some (.int n) => inRange n
  | some (.float x) => x.isFinite || !l.any isDigit
  | _ => true

end Testbed.Toml
