import Testbed.Duration
import Testbed.Text.Blank
import Testbed.Text.Lowercase
import Testbed.Toml.Basic

/-!
# Sections

A section of a configuration holds values by key. The getters take what people write: a number may
stand in quotes, and truth has four spellings. Whatever a getter cannot use it treats as absent.

The same key may be looked for as a text and as a number, since what is in a file does not say how
it is meant. A getter never complains. It gives a value or none, and whoever asked for it takes what
is usual in its place; that there was something which could not be used is not passed on.
-/

namespace Testbed

/-- A section of a configuration. What is nested deeper is in other sections, under dotted names. -/
abbrev Section := Dict String Toml

namespace Section

/-- A scalar as a text. A number or a truth value is taken as it would be written, while dates,
lists and tables are no text. -/
def text? (s : Section) (key : String) : Option String := (s.get? key).bind Toml.scalarText?

/-- Unsigned integers stay below this bound. It bounds what is read from a text. An integer in a
file has 64 bits with a sign and is below it anyway. -/
def unsignedBound : Nat := UInt64.size

/-- Reads an unsigned integer of 64 bits. One plus sign may stand in front, and nothing else but
digits may. -/
def readUnsigned? (l : List Char) : Option Nat :=
  let digits := match l with
    | '+' :: rest => rest
    | l => l
  if !digits.isEmpty && digits.all DecimalText.isDigit then
    let n := DecimalText.natOf digits
    if n < unsignedBound then some n else none
  else none

/-- An unsigned integer of 64 bits, possibly in quotes. A negative number is none, so to whoever
asks it is as if the key were absent. -/
def unsigned? (s : Section) (key : String) : Option Nat :=
  match s.get? key with
  | some (.int n) => if 0 ≤ n then some n.toNat else none
  | some (.str text) => readUnsigned? (Text.trim text).toList
  | _ => none

/-- The words for truth. They are compared in small letters, after blanks at both ends are cut off.
-/
def trueWords : List String := ["1", "yes", "true", "on"]

/-- The words for its opposite. A word that is in neither list is no truth value. -/
def falseWords : List String := ["0", "no", "false", "off"]

/-- A truth value, possibly as a number or a word. Every whole number but zero is true; a number
with a point is neither. -/
def flag? (s : Section) (key : String) : Option Bool :=
  match s.get? key with
  | some (.bool b) => some b
  | some (.int n) => some (n != 0)
  | some (.str text) =>
    let word := Text.lower (Text.trim text)
    if trueWords.contains word then some true
    else if falseWords.contains word then some false
    else none
  | _ => none

/-- A span of whole seconds. Zero is a span like others; who cannot use it has to say so. -/
def seconds? (s : Section) (key : String) : Option Duration :=
  (s.unsigned? key).map (fun n => ⟨n, 0⟩)

end Section

end Testbed
