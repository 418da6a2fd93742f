import Testbed.Text.Utf8
import Testbed.Uuid

/-!
# Request targets

The path and query of an address in the form in which they are sent. Tabs and line breaks are
dropped and blanks at the ends cut off, a backslash counts as a slash, segments of one dot vanish
and those of two take the segment before them away; what may not stand in a path or query is
percent-encoded byte by byte, and a fragment is not sent.

Everything is done to the characters of the address before it is encoded, so a percent sign that
stands in it already is left as it is.
-/

namespace Testbed.Target

/-- Whether a character is cut off at the ends of an address. Control characters and the blank are.
-/
def isEdge (c : Char) : Bool := c ≤ ' '

/-- Whether a character is dropped wherever it stands. They may have come in by a line that was
broken. -/
def isDropped (c : Char) : Bool := c == '\t' || c == '\n' || c == '\r'

/-- Whether a character is encoded wherever it stands. What is beyond ASCII is among them, and is
encoded byte by byte. -/
def isForeign (c : Char) : Bool := c < ' ' || c ≥ '\x7f'

/-- Whether a character is encoded in a path. A percent sign is not, so what is encoded already
stays as it is. -/
def encodedInPath (c : Char) : Bool :=
  isForeign c || " \"#<>?`\x7b\x7d".toList.contains c

/-- Whether a character is encoded in a query. The apostrophe is here and not in a path, and for the
backquote and braces it is the other way round. -/
def encodedInQuery (c : Char) : Bool := isForeign c || " \"#<>'".toList.contains c

/-- Whether a character is encoded in a fragment. Only error messages show one. -/
def encodedInFragment (c : Char) : Bool := isForeign c || " \"<>`".toList.contains c

/-- The upper-case hexadecimal digit of a number below sixteen. It is the form in which clients
write them. -/
def upperHex (n : Nat) : Char := (Uuid.hexDigit n).toUpper

/-- A byte after a percent sign. There are always two digits. -/
def percent (b : UInt8) : List Char := ['%', upperHex (b.toNat / 16), upperHex (b.toNat % 16)]

/-- Encodes the characters that a test picks. The others are written as they are. -/
def encode (picks : Char → Bool) (l : List Char) : List Char :=
  l.flatMap (fun c => if picks c then (Text.Utf8.encodeChar c).flatMap percent else [c])

/-- Splits a path at its slashes. There is one more of them than there are slashes of either kind.
-/
def segments : List Char → List (List Char)
  | [] => [[]]
  | c :: rest =>
    if c = '/' ∨ c = '\\' then [] :: segments rest
    else
      match segments rest with
      | [] => [[c]]
      | s :: more => (c :: s) :: more

/-- A segment with the spelled-out dots read. A dot may be spelled as `%2e`, in either case. -/
def dots (l : List Char) : List Char :=
  match l with
  | '%' :: '2' :: 'e' :: rest => '.' :: dots rest
  | '%' :: '2' :: 'E' :: rest => '.' :: dots rest
  | c :: rest => c :: dots rest
  | [] => []

/-- Whether a segment stands for its own place. It leads nowhere else, and nothing is left of it. -/
def isHere (s : List Char) : Bool := dots s == ['.']

/-- Whether a segment stands for the place above. At the top it has nothing to take away. -/
def isUp (s : List Char) : Bool := dots s == ['.', '.']

/-- Resolves dots; `before` holds the segments so far, last first. A dot at the end leaves an empty
segment. So a path that ends in dots ends in a slash when it is written. -/
def resolve (before : List (List Char)) : List (List Char) → List (List Char)
  | [] => before.reverse
  | [s] =>
    if isHere s then (before.reverse ++ [[]])
    else if isUp s then before.tail.reverse ++ [[]]
    else (s :: before).reverse
  | s :: rest =>
    if isHere s then resolve before rest
    else if isUp s then resolve before.tail rest
    else resolve (s :: before) rest

/-- The path and query in the form in which they are sent. The text is what follows the host and
port of an address and starts with a slash. The fragment is cut off before the query is looked for,
and only the path has its dots resolved. -/
def ofText (text : String) : String :=
  let l := ((text.toList.reverse.dropWhile isEdge).reverse).filter (fun c => !isDropped c)
  let l := l.takeWhile (· != '#')
  let path := l.takeWhile (· != '?')
  let query := l.dropWhile (· != '?')
  let kept := resolve [] (segments (path.drop 1))
  let written := kept.flatMap (fun s => '/' :: encode encodedInPath s)
  let asked := match query with
    | [] => []
    | mark :: rest => mark :: encode encodedInQuery rest
  String.ofList (written ++ asked)

end Testbed.Target
