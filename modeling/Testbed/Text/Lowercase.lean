import Testbed.Text.CaseTable

/-!
# Lower case

Lower-casing a whole text, by the standard's rules. Each character has its lower-case letter or
letters; the one rule that looks further is the Greek sigma, which takes its final form at the end
of a word – after a cased letter and not before one, marks in between not counted.

A text may become longer by it, since one capital has two characters for its small letter. Apart
from the sigma every character is lower-cased by itself.
-/

namespace Testbed.Text

/-- Whether the range holds the code point. A step of two picks every other one, as where capitals
and small letters alternate. -/
def CaseRange.holds (r : CaseRange) (n : Nat) : Bool :=
  r.first ≤ n && n ≤ r.last && (n - r.first) % r.step == 0

/-- The lower-case form of a character by itself. Only the capital I with a dot has two. -/
def lowerChar (c : Char) : List Char :=
  if c = '\u0130' then ['i', '\u0307']
  else
    match lowerRanges.find? (·.holds c.toNat) with
    | some r => [Char.ofNat ((c.toNat : Int) + r.shift).toNat]
    | none => [c]

/-- Whether the nearest character that counts is a cased letter. Marks and the like in between are
passed over. -/
def nextIsCased : List Char → Bool
  | [] => false
  | c :: rest => if caseIgnorableSet.mem c then nextIsCased rest else casedSet.mem c

/-- Lower-cases what follows the characters `before`, which are in reverse order. They are kept
because the sigma looks back as well as ahead. -/
def lowerFrom (before : List Char) : List Char → List Char
  | [] => []
  | c :: rest =>
    let here :=
      if c = 'Σ' then
        if nextIsCased before && !nextIsCased rest then ['ς'] else ['σ']
      else lowerChar c
    here ++ lowerFrom (c :: before) rest

/-- The text in lower case. It is applied to words that are compared without regard to case. -/
def lower (s : String) : String := String.ofList (lowerFrom [] s.toList)

end Testbed.Text
