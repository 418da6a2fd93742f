import Testbed.Toml.Basic
import Testbed.Uuid

/-!
# Strings of TOML

Four kinds: in double quotes with escapes, in single quotes as they stand, and both over several
lines in three quotes each. Three quotes end a string of several lines, and one or two more before
them belong to it. A backslash at the end of a line takes the line break and all blanks after it
away.
-/

namespace Testbed.Toml

/-- Whether a character may stand in a string or a comment: all but control characters, of which
only the tab may. Line breaks are not among them. -/
def isPlain (c : Char) : Bool := c == '\t' || (' ' ≤ c && c != '\x7f')

/-- The character that a backslash and a letter stand for. The slash has no escape here. -/
def simpleEscape? (c : Char) : Option Char :=
  match c with
  | 'b' => some '\x08'
  | 't' => some '\t'
  | 'n' => some '\n'
  | 'f' => some '\x0c'
  | 'r' => some '\r'
  | 'e' => some '\x1b'
  | '"' => some '"'
  | '\\' => some '\\'
  | _ => none

/-- The character that hexadecimal digits number, if there is one. Half of a pair is no character.
-/
def numbered? (digits : List Char) : Option Char := do
  let n ← Uuid.readHex? digits
  if h : n.isValidChar then some (Char.ofNatAux n h) else none

/-- Puts a character before what is read of the rest. Either may be missing, and then there is
nothing. -/
def andRest (c : Option Char) (rest : Option (List Char × List Char)) :
    Option (List Char × List Char) := do
  let c ← c
  let (text, l) ← rest
  return (c :: text, l)

/-- The rest of a string in double quotes. It ends with the first quote that no backslash precedes.
-/
def readBasic : List Char → Option (List Char × List Char)
  | [] => none
  | '"' :: rest => some ([], rest)
  | '\\' :: 'x' :: a :: b :: rest => andRest (numbered? [a, b]) (readBasic rest)
  | '\\' :: 'u' :: a :: b :: c :: d :: rest => andRest (numbered? [a, b, c, d]) (readBasic rest)
  | '\\' :: 'U' :: a :: b :: c :: d :: e :: f :: g :: h :: rest =>
    andRest (numbered? [a, b, c, d, e, f, g, h]) (readBasic rest)
  | '\\' :: c :: rest => andRest (simpleEscape? c) (readBasic rest)
  | c :: rest => if isPlain c && c != '\\' then andRest (some c) (readBasic rest) else none

/-- The rest of a string in single quotes. There is no way to write an apostrophe in it. -/
def readLiteral : List Char → Option (List Char × List Char)
  | [] => none
  | '\'' :: rest => some ([], rest)
  | c :: rest => if isPlain c then andRest (some c) (readLiteral rest) else none

/-- Whether a text goes on with a line break after blanks. Both kinds of line breaks count. -/
def breaksLine (l : List Char) : Bool :=
  match l.dropWhile (fun c => c == ' ' || c == '\t') with
  | '\n' :: _ => true
  | '\r' :: '\n' :: _ => true
  | _ => false

/-- The rest of a string in three double quotes; `skips` tells whether blanks and line breaks are
being left out. Line breaks are kept as they are written. -/
def readLongBasic : Bool → List Char → Option (List Char × List Char)
  | _, [] => none
  | _, '"' :: '"' :: '"' :: '"' :: '"' :: rest => some (['"', '"'], rest)
  | _, '"' :: '"' :: '"' :: '"' :: rest => some (['"'], rest)
  | _, '"' :: '"' :: '"' :: rest => some ([], rest)
  | skips, '\r' :: '\n' :: rest =>
    if skips then readLongBasic true rest
    else andRest (some '\r') (andRest (some '\n') (readLongBasic false rest))
  | _, '\\' :: 'x' :: a :: b :: rest => andRest (numbered? [a, b]) (readLongBasic false rest)
  | _, '\\' :: 'u' :: a :: b :: c :: d :: rest =>
    andRest (numbered? [a, b, c, d]) (readLongBasic false rest)
  | _, '\\' :: 'U' :: a :: b :: c :: d :: e :: f :: g :: h :: rest =>
    andRest (numbered? [a, b, c, d, e, f, g, h]) (readLongBasic false rest)
  | _, '\\' :: '\r' :: '\n' :: rest => readLongBasic true rest
  | _, '\\' :: c :: rest =>
    if breaksLine (c :: rest) then readLongBasic true rest
    else andRest (simpleEscape? c) (readLongBasic false rest)
  | skips, c :: rest =>
    if skips && (c == ' ' || c == '\t' || c == '\n') then readLongBasic true rest
    else if c == '\n' || (isPlain c && c != '\\') then
      andRest (some c) (readLongBasic false rest)
    else none

/-- The rest of a string in three single quotes. A backslash means nothing in it. -/
def readLongLiteral : List Char → Option (List Char × List Char)
  | [] => none
  | '\'' :: '\'' :: '\'' :: '\'' :: '\'' :: rest => some (['\'', '\''], rest)
  | '\'' :: '\'' :: '\'' :: '\'' :: rest => some (['\''], rest)
  | '\'' :: '\'' :: '\'' :: rest => some ([], rest)
  | '\r' :: '\n' :: rest =>
    andRest (some '\r') (andRest (some '\n') (readLongLiteral rest))
  | c :: rest =>
    if c == '\n' || isPlain c then andRest (some c) (readLongLiteral rest) else none

/-- A text without the line break at its start. Only the first is dropped. -/
def dropLineBreak : List Char → List Char
  | '\n' :: rest => rest
  | '\r' :: '\n' :: rest => rest
  | l => l

/-- Reads a string of one line, as keys may be too. What comes back is the text and what stands
behind the string. -/
def readShort : List Char → Option (List Char × List Char)
  | '"' :: rest => readBasic rest
  | '\'' :: rest => readLiteral rest
  | _ => none

/-- Reads a string. Three quotes are looked for first. -/
def readQuoted : List Char → Option (List Char × List Char)
  | '"' :: '"' :: '"' :: rest => readLongBasic false (dropLineBreak rest)
  | '\'' :: '\'' :: '\'' :: rest => readLongLiteral (dropLineBreak rest)
  | l => readShort l

/-- What a whole text says: nothing may follow what is read. A string that ends early is refused
like one that does not end. -/
def readWhole? (read : List Char → Option (List Char × List Char)) (l : List Char) :
    Option (List Char) :=
  match read l with
  | some (text, []) => some text
  | _ => none

end Testbed.Toml
