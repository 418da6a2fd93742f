import Testbed.Toml.Quoted

/-!
# Tokens of TOML

A text is cut into marks, line breaks, blanks, strings and words. Where a string ends is settled
here and what it says is not: a string that is never closed ends with its line, or with the text,
and a word holds whatever stands between two marks or blanks. So only two things are refused at
this stage, a carriage return alone and a control character in a comment. Comments are no tokens;
one always stands before a line break or the end, and says nothing that either does not.
-/

namespace Testbed.Toml

/-- A piece of a text. Strings keep their quotes, as these say how they are to be read. -/
inductive Token where
  | dot
  | equals
  | comma
  | openBracket
  | closeBracket
  | openBrace
  | closeBrace
  | lineBreak
  /-- Spaces and tabs. -/
  | blanks (raw : List Char)
  /-- A string with its quotes. -/
  | quoted (raw : List Char)
  /-- Other characters up to a mark or a blank. -/
  | word (raw : List Char)
  deriving DecidableEq

namespace Token

/-- The token that a mark is. Each mark is one character. -/
def mark? (c : Char) : Option Token :=
  match c with
  | '.' => some dot
  | '=' => some equals
  | ',' => some comma
  | '[' => some openBracket
  | ']' => some closeBracket
  | '\x7b' => some openBrace
  | '\x7d' => some closeBrace
  | '\n' => some lineBreak
  | _ => none

/-- Whether a character is a space or a tab. Other characters that look like blanks belong to words.
-/
def isBlank (c : Char) : Bool := c == ' ' || c == '\t'

/-- Whether a character belongs to a word that has begun. Quotes do. A word therefore ends at a
mark, at a blank, at a line's end and at a comment. -/
def isInner (c : Char) : Bool := (mark? c).isNone && !isBlank c && c != '\r' && c != '#'

/-- Whether a backslash takes the next character with it, in a string with these quotes. Strings in
apostrophes have no escapes. -/
def escapes (quote c next : Char) : Bool :=
  quote == '"' && c == '\\' && (next == '"' || next == '\\')

/-- The characters of a string of one line behind its opening quote, and the rest of the text. The
closing quote is among them, if there is one. -/
def takeShort (quote : Char) : List Char → List Char × List Char
  | [] => ([], [])
  | [c] => if c = '\n' then ([], [c]) else ([c], [])
  | c :: next :: rest =>
    if c = '\n' then ([], c :: next :: rest)
    else if c = quote then ([c], next :: rest)
    else if escapes quote c next then
      let (text, rest) := takeShort quote rest
      (c :: next :: text, rest)
    else
      let (text, rest) := takeShort quote (next :: rest)
      (c :: text, rest)

/-- How many quotes a text starts with. More than five do not belong together: two may stand before
the three that end a string. The string then ends with the last of them. -/
def closingQuotes (quote : Char) (l : List Char) : Nat := min 5 (l.takeWhile (· == quote)).length

/-- The characters of a string of several lines behind its opening quotes, and the rest of the text.
The closing quotes are among them. -/
def takeLong (quote : Char) : List Char → List Char × List Char
  | [] => ([], [])
  | [c] => ([c], [])
  | c :: next :: rest =>
    let n := closingQuotes quote (c :: next :: rest)
    if 3 ≤ n then (c :: next :: rest).splitAt n
    else if escapes quote c next then
      let (text, rest) := takeLong quote rest
      (c :: next :: text, rest)
    else
      let (text, rest) := takeLong quote (next :: rest)
      (c :: text, rest)

/-- The string that follows an opening quote, and the rest of the text. Three quotes open a long
one; two by themselves are an empty string. -/
def takeString (quote : Char) (l : List Char) : List Char × List Char :=
  if l.take 2 = [quote, quote] then
    let (text, rest) := takeLong quote (l.drop 2)
    (quote :: quote :: quote :: text, rest)
  else
    let (text, rest) := takeShort quote l
    (quote :: text, rest)

/-- The first piece of a text, if it is a token, and the rest. A comment is taken and gives no
token. -/
def next? (c : Char) (rest : List Char) : Option (Option Token × List Char) :=
  match mark? c with
  | some mark => some (some mark, rest)
  | none =>
    if c = '\r' then
      match rest with
      | '\n' :: rest => some (some lineBreak, rest)
      | _ => none
    else if c = '#' then
      let (comment, rest) := rest.span (fun c => c != '\n' && c != '\r')
      if comment.all isPlain then some (none, rest) else none
    else if c = '"' || c = '\'' then
      let (raw, rest) := takeString c rest
      some (some (quoted raw), rest)
    else if isBlank c then
      let (raw, rest) := rest.span isBlank
      some (some (blanks (c :: raw)), rest)
    else
      let (raw, rest) := rest.span isInner
      some (some (word (c :: raw)), rest)

/-- The tokens of a text, as far as the fuel reaches. Only `next?` can refuse. -/
def scanWith : Nat → List Char → Option (List Token)
  | 0, _ | _, [] => some []
  | fuel + 1, c :: rest => do
    let (token, rest) ← next? c rest
    return token.toList ++ (← scanWith fuel rest)

/-- **The tokens of a text.** Every token takes a character, so the fuel lasts to the end. A text
without tokens has an empty list. -/
def scan (l : List Char) : Option (List Token) := scanWith l.length l

/-- The rest after blanks. Line breaks are not among them. -/
def skipBlanks : List Token → List Token
  | blanks _ :: rest => skipBlanks rest
  | l => l

/-- The rest after blanks and line breaks. Within brackets the two mean the same. -/
def skipSpace : List Token → List Token
  | blanks _ :: rest => skipSpace rest
  | lineBreak :: rest => skipSpace rest
  | l => l

/-- The rest of a text after the end of a line, which blanks may precede. The end of the text ends a
line as well. -/
def endLine (l : List Token) : Option (List Token) :=
  match skipBlanks l with
  | [] => some []
  | lineBreak :: rest => some rest
  | _ => none

/-- The rest of a text after a line, whatever the line holds. Its line break is taken too. -/
def skipLine : List Token → List Token
  | [] => []
  | lineBreak :: rest => rest
  | _ :: rest => skipLine rest

end Token

end Testbed.Toml
