/-!
# Identifiers

Projects and nodes are named by universally unique identifiers: 128-bit numbers, written as 32
hexadecimal digits in five groups. The order of identifiers is that of the numbers, which is also
the order of their texts, since all have the same length.

An identifier is read in four spellings – with hyphens, without them, in braces, and with a prefix
of its own – and in capitals as well as in small letters. It is written in one, with hyphens and in
small letters.
-/

namespace Testbed

/-- A universally unique identifier. That the number fits is a field, so every identifier has a text
of the same length. -/
structure Uuid where
  /-- The identifier as a number. -/
  value : Nat
  /-- It has 128 bits. -/
  value_lt : value < Nat.pow 2 128 := by decide
  deriving DecidableEq

namespace Uuid

instance : Inhabited Uuid := ⟨⟨0, by decide⟩⟩

theorem ext_value {a b : Uuid} (h : a.value = b.value) : a = b := by
  cases a; cases b; simp_all

instance : Ord Uuid := ⟨fun a b => compare a.value b.value⟩

instance : Std.TransOrd Uuid where
  eq_swap := fun {a b} => Std.OrientedOrd.eq_swap (a := a.value) (b := b.value)
  isLE_trans := fun {a b c} h h' =>
    Std.TransOrd.isLE_trans (a := a.value) (b := b.value) (c := c.value) h h'

instance : Std.LawfulEqOrd Uuid where
  compare_self := fun {a} => Std.ReflOrd.compare_self (a := a.value)
  eq_of_compare := fun {a b} h =>
    ext_value (Std.LawfulEqOrd.eq_of_compare (a := a.value) (b := b.value) h)

/-- The hexadecimal digit of a number below sixteen. It is in small letters. -/
def hexDigit (n : Nat) : Char :=
  if n < 10 then Char.ofNat ('0'.toNat + n) else Char.ofNat ('a'.toNat + (n - 10))

/-- The number of a hexadecimal digit. Capitals and small letters have the same numbers, and other
characters have none. -/
def hexValue? (c : Char) : Option Nat :=
  if '0' ≤ c ∧ c ≤ '9' then some (c.toNat - '0'.toNat)
  else if 'a' ≤ c ∧ c ≤ 'f' then some (c.toNat - 'a'.toNat + 10)
  else if 'A' ≤ c ∧ c ≤ 'F' then some (c.toNat - 'A'.toNat + 10)
  else none

/-- The `count` lowest hexadecimal digits of a number, most significant first. Higher digits than
these are dropped. -/
def hexDigits : Nat → Nat → List Char
  | 0, _ => []
  | count + 1, n => hexDigit (n / Nat.pow 16 count % 16) :: hexDigits count n

/-- The text as characters: digits in groups of eight, four, four, four and twelve. There are 36 of
them, hyphens included. -/
def chars (u : Uuid) : List Char :=
  hexDigits 8 (u.value / Nat.pow 16 24) ++ '-' :: hexDigits 4 (u.value / Nat.pow 16 20)
    ++ '-' :: hexDigits 4 (u.value / Nat.pow 16 16) ++ '-' :: hexDigits 4 (u.value / Nat.pow 16 12)
    ++ '-' :: hexDigits 12 u.value

/-- The text of an identifier. It contains no separator of paths and no dot, so it is one component
wherever it stands in a path. -/
def text (u : Uuid) : String := String.ofList u.chars

instance : ToString Uuid := ⟨text⟩

/-- The number that hexadecimal digits write. There is none if one of the characters is no digit; no
digits at all write zero, which is why their number is tested before. -/
def readHex? (l : List Char) : Option Nat :=
  l.foldl (fun acc c => do return (← acc) * 16 + (← hexValue? c)) (some 0)

/-- The digits of a written identifier: five groups or all digits at a stretch. In a text of 36
characters the hyphens have to stand where they belong. -/
def groups? (l : List Char) : Option (List Char) :=
  if l.length = 32 then some l
  else if l.length = 36 ∧ l[8]? = some '-' ∧ l[13]? = some '-' ∧ l[18]? = some '-'
      ∧ l[23]? = some '-' then
    some (l.take 8 ++ (l.drop 9).take 4 ++ (l.drop 14).take 4 ++ (l.drop 19).take 4 ++ l.drop 24)
  else none

/-- The written identifier without the braces or the `urn:uuid:` around it. Braces and the prefix
are not combined, and one brace alone stays and spoils the identifier. -/
def unwrapped (l : List Char) : List Char :=
  if l.head? = some '\x7b' ∧ l.getLast? = some '\x7d' then (l.drop 1).dropLast
  else if "urn:uuid:".toList.isPrefixOf l then l.drop 9
  else l

/-- Reads an identifier in any of its spellings. Spellings of one number give the same identifier.
-/
def ofText? (s : String) : Option Uuid := do
  let n ← readHex? (← groups? (unwrapped s.toList))
  if h : n < Nat.pow 2 128 then some ⟨n, h⟩ else none

end Uuid

end Testbed
