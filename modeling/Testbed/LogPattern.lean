import Testbed.Number.DecimalText
import Testbed.Text.AlphanumericTable
import Testbed.Uuid

/-!
# Patterns of log rules

The value that a log rule asks a field for is a pattern, and a rule whose pattern cannot be read is
malformed. Nothing is matched here – events have no such fields –, so that all there is to a pattern
is whether it is one: groups and classes are closed, what repeats has something to repeat, escapes
and ranges mean something. Counts in braces are never closed, since a brace ends the field.
-/

namespace Testbed.LogPattern

/-! ## Escapes -/

/-- What a backslash and the characters behind it stand for. The difference matters where ranges are
formed. -/
inductive Escape where
  /-- A character. -/
  | letter (c : Char)
  /-- One of several characters. -/
  | several
  /-- A place between characters. -/
  | place
  deriving DecidableEq

/-- The character that a letter behind a backslash stands for. There are six. -/
def controls : List (Char × Char) :=
  [('a', '\x07'), ('f', '\x0c'), ('t', '\t'), ('n', '\n'), ('r', '\r'), ('v', '\x0b')]

/-- The character that so many hexadecimal digits number, and the rest of the text. A number without
a character spoils it. -/
def takeNumbered (count : Nat) (l : List Char) : Option (Escape × List Char) := do
  let digits := l.take count
  if digits.length < count then none
  else
    let n ← Uuid.readHex? digits
    if n.isValidChar then return (.letter (Char.ofNat n), l.drop count) else none

/-- Whether a character of no meaning of its own may follow a backslash. Letters and digits have a
meaning or none at all. -/
def isEscapable (c : Char) : Bool :=
  c.toNat < 128 && !c.isAlphanum && c != '<' && c != '>'

/-- Takes what follows a backslash. Boundaries of words are not supported. A property has to be
named by one of a few letters. -/
def takeEscape : List Char → Option (Escape × List Char)
  | [] => none
  | 'x' :: rest => takeNumbered 2 rest
  | 'u' :: rest => takeNumbered 4 rest
  | 'U' :: rest => takeNumbered 8 rest
  | 'p' :: c :: rest | 'P' :: c :: rest =>
    if "clmnpsz".toList.contains c.toLower then some (.several, rest) else none
  | c :: rest =>
    if "dswDSW".toList.contains c then some (.several, rest)
    else if c = 'A' ∨ c = 'z' then some (.place, rest)
    else
      match controls.find? (·.1 == c) with
      | some (_, control) => some (.letter control, rest)
      | none => if isEscapable c then some (.letter c, rest) else none

/-! ## Classes -/

/-- The names of classes in brackets and colons. There are fourteen of them. -/
def classNames : List String :=
  ["alnum", "alpha", "ascii", "blank", "cntrl", "digit", "graph", "lower", "print", "punct",
    "space", "upper", "word", "xdigit"]

/-- The rest of a class behind `[:name:]`, if that is what it goes on with. A circumflex in front
turns it into its opposite. -/
def skipName? (l : List Char) : Option (List Char) :=
  match l with
  | ':' :: rest =>
    let rest := if rest.head? = some '^' then rest.drop 1 else rest
    let name := rest.takeWhile (· != ':')
    match rest.dropWhile (· != ':') with
    | ':' :: ']' :: rest => if classNames.contains (String.ofList name) then some rest else none
    | _ => none
  | _ => none

/-- The rest of a class behind its opening bracket and what counts as a character only there. A
circumflex comes before either. -/
def openClass (l : List Char) : List Char :=
  let l := if l.head? = some '^' then l.drop 1 else l
  match l with
  | '-' :: _ => l.dropWhile (· == '-')
  | ']' :: rest => rest
  | l => l

/-- Takes a member of a class. A place is none. -/
def takeMember : List Char → Option (Escape × List Char)
  | [] => none
  | '\\' :: rest => do
    let (e, rest) ← takeEscape rest
    if e = .place then none else return (e, rest)
  | c :: rest => some (.letter c, rest)

/-- Takes a member of a class, or a range of them. It has to ascend. -/
def skipRange (l : List Char) : Option (List Char) := do
  let (first, rest) ← takeMember l
  match rest with
  | '-' :: ']' :: _ | '-' :: '-' :: _ => some rest
  | '-' :: rest =>
    let (last, rest) ← takeMember rest
    match first, last with
    | .letter a, .letter b => if a ≤ b then some rest else none
    | _, _ => none
  | rest => some rest

/-- The rest behind classes of which so many are open. Two signs in a row that combine classes are
passed over. -/
def skipClass : Nat → Nat → List Char → Option (List Char)
  | 0, _, _ | _, _, [] => none
  | _, 0, l => some l
  | fuel + 1, depth + 1, c :: rest =>
    match c, rest with
    | '[', rest =>
      match skipName? rest with
      | some rest => skipClass fuel (depth + 1) rest
      | none => skipClass fuel (depth + 2) (openClass rest)
    | ']', rest => if depth = 0 then some rest else skipClass fuel depth rest
    | '&', '&' :: rest | '-', '-' :: rest | '~', '~' :: rest => skipClass fuel (depth + 1) rest
    | c, rest => do skipClass fuel (depth + 1) (← skipRange (c :: rest))

/-! ## Groups -/

/-- Whether the name of a group may go on with a character. Letters of all scripts may stand there.
-/
def isNameChar (c : Char) : Bool :=
  c == '_' || c == '.' || c == '[' || c == ']' || Text.alphanumericSet.mem c

/-- The rest behind the name of a group. It starts with a letter or an underscore. -/
def skipGroupName (l : List Char) : Option (List Char) :=
  let name := l.takeWhile isNameChar
  match name.head?, l.dropWhile isNameChar with
  | some c, '>' :: rest => if c = '_' ∨ c.isAlpha then some rest else none
  | _, _ => none

/-- Whether some characters are switches: each once, with at most one minus sign, which does not
stand last. No switch at all is fine. -/
def areSwitches (l : List Char) : Bool :=
  l.all ("imsUuxR-".toList.contains ·) && l.all (fun c => l.count c == 1)
    && l.getLast? != some '-'

/-- The rest behind what opens a group, and whether it opens one: switches may stand alone. A name
or switches may follow. -/
def openGroup (l : List Char) : Option (Bool × List Char) :=
  match l with
  | '?' :: 'P' :: '<' :: rest | '?' :: '<' :: rest => (skipGroupName rest).map (fun l => (true, l))
  | '?' :: rest =>
    let switches := rest.takeWhile (fun c => c != ':' && c != ')')
    if !areSwitches switches then none
    else
      match rest.drop switches.length with
      | ':' :: rest => some (true, rest)
      | ')' :: rest => if switches.isEmpty then none else some (false, rest)
      | _ => none
  | l => some (true, l)

/-! ## Patterns -/

/-- Whether a text goes on as a pattern in which so many groups are open. `repeatable` tells whether
there is something to repeat. At the end all groups have to be closed. -/
def goesOn : Nat → Nat → Bool → List Char → Bool
  | _, depth, _, [] => depth == 0
  | 0, _, _, _ => false
  | fuel + 1, depth, repeatable, c :: rest =>
    match c with
    | '(' =>
      match openGroup rest with
      | some (true, rest) => goesOn fuel (depth + 1) false rest
      | some (false, rest) => goesOn fuel depth false rest
      | none => false
    | ')' => 0 < depth && goesOn fuel (depth - 1) true rest
    | '|' => goesOn fuel depth false rest
    | '[' =>
      match skipClass (2 * rest.length + 2) 1 (openClass rest) with
      | some rest => goesOn fuel depth true rest
      | none => false
    | '*' | '+' | '?' =>
      repeatable && goesOn fuel depth true (if rest.head? = some '?' then rest.drop 1 else rest)
    | '\x7b' => false
    | '\\' =>
      match takeEscape rest with
      | some (_, rest) => goesOn fuel depth true rest
      | none => false
    | _ => goesOn fuel depth true rest

/-- **Whether a text is a pattern.** The empty text is one. -/
def isPattern (l : List Char) : Bool := goesOn l.length 0 false l

/-- Whether a text is the value of a field: a pattern, or a number with a sign in front. A number is
tried only if it is no pattern. -/
def isValue (s : String) : Bool := isPattern s.toList || (Binary64.ofText? s).isSome

end Testbed.LogPattern
