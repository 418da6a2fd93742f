import Testbed.Uuid

/-!
# JSON texts

A JSON text read as a tree of what is written: numbers by their digits, strings by the characters
between the quotes, members in the order and as often as they stand. What these mean – which
number, which text, which of two members with one key stays – is decided afterwards, by whoever
reads the tree; a reader that skips a member never looks inside it.
-/

namespace Testbed.Json

/-- A number as written. Its digits are kept as characters, so nothing is lost by reading it. -/
structure NumberLiteral where
  /-- Whether it starts with a minus sign. -/
  negative : Bool
  /-- The digits before the point. -/
  whole : List Char
  /-- The digits after the point, if there is one. -/
  fraction : Option (List Char)
  /-- Whether the exponent is negative, and its digits. -/
  exponent : Option (Bool × List Char)
  deriving Repr

/-- A JSON text as written. Members are in the order of the text and may repeat a key. -/
inductive Literal where
  | null
  | bool (b : Bool)
  | number (n : NumberLiteral)
  | str (body : List Char)
  | arr (items : List Literal)
  | obj (members : List (List Char × Literal))
  deriving Inhabited

/-- The rest of a text after the blanks that may stand between its parts. They are four, and no
others count as blanks here. -/
def skipSpace (l : List Char) : List Char :=
  l.dropWhile (fun c => c == ' ' || c == '\n' || c == '\t' || c == '\r')

/-- Whether a character is a decimal digit. Digits of other scripts are none. -/
def isDigit (c : Char) : Bool := '0' ≤ c && c ≤ '9'

/-- Whether a character is a hexadecimal digit. Capitals and small letters are both fine. -/
def isHex (c : Char) : Bool := (Uuid.hexValue? c).isSome

/-- Whether a character may follow a backslash by itself. The `u` is not among them, since digits
have to follow it. -/
def isSimpleEscape (c : Char) : Bool := "\"\\/bfnrt".toList.contains c

/-- The characters of a string up to its closing quote, escapes left as they are. A control
character has to be escaped. -/
def readString : List Char → Option (List Char × List Char)
  | [] => none
  | '"' :: rest => some ([], rest)
  | '\\' :: 'u' :: a :: b :: c :: d :: rest =>
    if isHex a && isHex b && isHex c && isHex d then
      (readString rest).map (fun (body, r) => ('\\' :: 'u' :: a :: b :: c :: d :: body, r))
    else none
  | '\\' :: c :: rest =>
    if isSimpleEscape c then (readString rest).map (fun (body, r) => ('\\' :: c :: body, r))
    else none
  | c :: rest =>
    if c < ' ' || c == '\\' then none
    else (readString rest).map (fun (body, r) => (c :: body, r))

/-- One or more digits. No sign belongs to them. -/
def readDigits (l : List Char) : Option (List Char × List Char) :=
  match l.takeWhile isDigit with
  | [] => none
  | digits => some (digits, l.dropWhile isDigit)

/-- The digits before the point: a zero, or digits that do not start with one. So a number has no
zeros in front. -/
def readWhole : List Char → Option (List Char × List Char)
  | '0' :: rest =>
    match rest with
    | c :: _ => if isDigit c then none else some (['0'], rest)
    | [] => some (['0'], [])
  | l => readDigits l

/-- The point and the digits after it, if there is a point. A point without digits is an error and
not the end of the number. -/
def readFraction : List Char → Option (Option (List Char) × List Char)
  | '.' :: rest => (readDigits rest).map (fun (d, r) => (some d, r))
  | l => some (none, l)

/-- The digits of an exponent after its sign. They may start with a zero. -/
def readExponentDigits (negative : Bool) (l : List Char) :
    Option (Option (Bool × List Char) × List Char) :=
  (readDigits l).map (fun (d, r) => (some (negative, d), r))

/-- The exponent, if there is one. A letter other than the mark ends the number. -/
def readExponent : List Char → Option (Option (Bool × List Char) × List Char)
  | c :: rest =>
    if c == 'e' || c == 'E' then
      match rest with
      | '-' :: r => readExponentDigits true r
      | '+' :: r => readExponentDigits false r
      | r => readExponentDigits false r
    else some (none, c :: rest)
  | [] => some (none, [])

/-- A number without its sign. Its three parts follow each other without blanks. -/
def readUnsigned (negative : Bool) (l : List Char) : Option (NumberLiteral × List Char) := do
  let (whole, l) ← readWhole l
  let (fraction, l) ← readFraction l
  let (exponent, l) ← readExponent l
  return (⟨negative, whole, fraction, exponent⟩, l)

/-- A number. A plus sign in front is not allowed. -/
def readNumber : List Char → Option (NumberLiteral × List Char)
  | '-' :: rest => readUnsigned true rest
  | l => readUnsigned false l

mutual

/-- A value, after blanks. Its first character decides what it is. The fuel bounds how deep the
calls are nested. -/
def readValue : Nat → List Char → Option (Literal × List Char)
  | 0, _ => none
  | fuel + 1, l =>
    match skipSpace l with
    | 'n' :: 'u' :: 'l' :: 'l' :: rest => some (.null, rest)
    | 't' :: 'r' :: 'u' :: 'e' :: rest => some (.bool true, rest)
    | 'f' :: 'a' :: 'l' :: 's' :: 'e' :: rest => some (.bool false, rest)
    | '"' :: rest => (readString rest).map (fun (body, r) => (.str body, r))
    | '[' :: rest =>
      match skipSpace rest with
      | ']' :: r => some (.arr [], r)
      | r => (readItems fuel r).map (fun (items, r) => (.arr items, r))
    | '\x7b' :: rest =>
      match skipSpace rest with
      | '\x7d' :: r => some (.obj [], r)
      | r => (readMembers fuel r).map (fun (members, r) => (.obj members, r))
    | l => (readNumber l).map (fun (n, r) => (.number n, r))

/-- The items of an array from the first on, with the closing bracket. A comma at the end is an
error. -/
def readItems : Nat → List Char → Option (List Literal × List Char)
  | 0, _ => none
  | fuel + 1, l => do
    let (item, l) ← readValue fuel l
    match skipSpace l with
    | ',' :: rest =>
      let (items, l) ← readItems fuel rest
      return (item :: items, l)
    | ']' :: rest => return ([item], rest)
    | _ => none

/-- The members of an object from the first on, with the closing brace. A key is a string, and
nothing else is one. -/
def readMembers : Nat → List Char → Option (List (List Char × Literal) × List Char)
  | 0, _ => none
  | fuel + 1, l =>
    match skipSpace l with
    | '"' :: rest => do
      let (key, l) ← readString rest
      match skipSpace l with
      | ':' :: rest => do
        let (value, l) ← readValue fuel rest
        match skipSpace l with
        | ',' :: rest =>
          let (members, l) ← readMembers fuel rest
          return ((key, value) :: members, l)
        | '\x7d' :: rest => return ([(key, value)], rest)
        | _ => none
      | _ => none
    | _ => none

end

/-- Reads a whole text. Every call of the reader that takes nothing is followed by one that takes a
character, so twice the length bounds their depth. What follows the value may only be blank. -/
def Literal.read? (text : List Char) : Option Literal :=
  match readValue (2 * text.length + 2) text with
  | some (value, rest) => if (skipSpace rest).isEmpty then some value else none
  | none => none

/-- The character of a simple escape. Quotes, the backslash and the slash stand for themselves. -/
def simpleEscape (c : Char) : Char :=
  match c with
  | 'b' => '\x08'
  | 'f' => '\x0c'
  | 'n' => '\n'
  | 'r' => '\r'
  | 't' => '\t'
  | c => c

/-- The number of four hexadecimal digits. It is below `2 ^ 16`. -/
def hexUnit (a b c d : Char) : Nat :=
  [a, b, c, d].foldl (fun n x => n * 16 + (Uuid.hexValue? x).getD 0) 0

/-- Whether a 16-bit unit opens a pair. By itself it is no character. -/
def isHighUnit (n : Nat) : Bool := 0xd800 ≤ n && n < 0xdc00

/-- Whether a 16-bit unit closes a pair. It counts only after one that opens a pair. -/
def isLowUnit (n : Nat) : Bool := 0xdc00 ≤ n && n < 0xe000

/-- The text of the characters between quotes; nothing if an escape stands for half of a pair. Two
escapes that form a pair give one character. -/
def unescape? : List Char → Option (List Char)
  | [] => some []
  | '\\' :: 'u' :: a :: b :: c :: d :: rest =>
    let unit := hexUnit a b c d
    if isHighUnit unit then
      match rest with
      | '\\' :: 'u' :: a' :: b' :: c' :: d' :: rest =>
        let low := hexUnit a' b' c' d'
        if isLowUnit low then
          (unescape? rest).map
            (Char.ofNat (0x10000 + (unit - 0xd800) * 0x400 + (low - 0xdc00)) :: ·)
        else none
      | _ => none
    else if isLowUnit unit then none
    else (unescape? rest).map (Char.ofNat unit :: ·)
  | '\\' :: c :: rest => (unescape? rest).map (simpleEscape c :: ·)
  | c :: rest => (unescape? rest).map (c :: ·)

end Testbed.Json
