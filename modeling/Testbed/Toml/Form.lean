import Testbed.Toml.Token

/-!
# The form of a TOML text

What a text looks like before anything in it is understood: a sequence of lines – headers, and
keys with values – whose brackets are matched and whose keys and scalars are still raw text. Here
everything is refused that stands where nothing of its kind may stand. Something that is missing
is not refused but written down as an empty raw text, where a key or a scalar was due: it has no
meaning, and the reading of the form says so in its turn. Each `take` takes a piece of the form off
the front of the tokens and gives the rest.
-/

namespace Testbed.Toml

/-- A key as it is written: its parts from the outermost on. It has one part at least, which may be
empty. -/
abbrev RawKey := List (List Char)

/-- A value as it is written. Nothing in it has been given a meaning yet. -/
inductive Form where
  /-- A string, a word or nothing. -/
  | scalar (raw : List Char)
  /-- Values in brackets. -/
  | arr (items : List Form)
  /-- Keys and values in braces. -/
  | table (pairs : List (RawKey × Form))

/-- What a line holds. The two kinds of header differ in their brackets. -/
inductive Line where
  /-- The header of a table. -/
  | table (key : RawKey)
  /-- The header of one more table in a row. -/
  | next (key : RawKey)
  /-- A key and its value. -/
  | pair (key : RawKey) (value : Form)

namespace Form

/-- Values may be nested this deep by brackets and braces. A text that goes deeper is refused as
malformed. -/
def nestingLimit : Nat := 80

/-! ## Keys -/

/-- The text of a token that may be a part of a key. A string and a word will do, whatever they
hold. -/
def part? : Token → Option (List Char)
  | .quoted raw | .word raw => some raw
  | _ => none

/-- Takes a key, with blanks around its dots. A part that is missing is empty. It always takes
something for a key, so whether the key means anything is asked later. -/
def takeKey : List Token → RawKey × List Token
  | .blanks _ :: rest => takeKey rest
  | .dot :: rest =>
    let (key, rest) := takeKey rest
    ([] :: key, rest)
  | token :: rest =>
    match part? token with
    | none => ([[]], token :: rest)
    | some part =>
      match rest with
      | .dot :: rest | .blanks _ :: .dot :: rest =>
        let (key, rest) := takeKey rest
        (part :: key, rest)
      | rest => ([part], rest)
  | [] => ([[]], [])

/-! ## Values -/

/-- The rest of a word. Dots belong to it, and so do words behind blanks: a time may stand there. It
ends at a mark other than a dot. -/
def takeWord : List Token → List Char × List Token
  | .dot :: rest =>
    let (raw, rest) := takeWord rest
    ('.' :: raw, rest)
  | .word more :: rest | .quoted more :: rest =>
    let (raw, rest) := takeWord rest
    (more ++ raw, rest)
  | .blanks blanks :: .word more :: rest =>
    let (raw, rest) := takeWord rest
    (blanks ++ more ++ raw, rest)
  | l => ([], l)

mutual

/-- Takes a value. Where the value is due but the line or the item ends, it is empty. The first
token decides what it is. -/
def takeValue : Nat → Nat → List Token → Option (Form × List Token)
  | 0, _, _ => none
  | fuel + 1, depth, l =>
    match l with
    | [] | .lineBreak :: _ | .comma :: _ => some (.scalar [], l)
    | .quoted raw :: rest => some (.scalar raw, rest)
    | .word _ :: _ | .dot :: _ =>
      let (raw, rest) := takeWord l
      some (.scalar raw, rest)
    | .openBracket :: rest =>
      if depth = 0 then none
      else (takeItems fuel (depth - 1) rest).map (fun (items, rest) => (.arr items, rest))
    | .openBrace :: rest =>
      if depth = 0 then none
      else (takePairs fuel (depth - 1) rest).map (fun (pairs, rest) => (.table pairs, rest))
    | _ => none

/-- Takes the items of an array and the bracket behind them. A comma may stand behind the last, and
line breaks between any two. -/
def takeItems : Nat → Nat → List Token → Option (List Form × List Token)
  | 0, _, _ => none
  | fuel + 1, depth, l =>
    match Token.skipSpace l with
    | .closeBracket :: rest => some ([], rest)
    | [] | .comma :: _ => none
    | l => do
      let (item, rest) ← takeValue fuel depth l
      match Token.skipSpace rest with
      | .comma :: rest =>
        let (items, rest) ← takeItems fuel depth rest
        return (item :: items, rest)
      | .closeBracket :: rest => return ([item], rest)
      | _ => none

/-- Takes the keys and values of a table in braces and the brace behind them. Here too a comma may
stand behind the last. -/
def takePairs : Nat → Nat → List Token → Option (List (RawKey × Form) × List Token)
  | 0, _, _ => none
  | fuel + 1, depth, l =>
    match Token.skipSpace l with
    | .closeBrace :: rest => some ([], rest)
    | l => do
      let (key, rest) := takeKey l
      match Token.skipSpace rest with
      | .equals :: rest =>
        match Token.skipSpace rest with
        | [] | .comma :: _ => none
        | rest =>
          let (v, rest) ← takeValue fuel depth rest
          match Token.skipSpace rest with
          | .comma :: rest =>
            let (pairs, rest) ← takePairs fuel depth rest
            return ((key, v) :: pairs, rest)
          | .closeBrace :: rest => return ([(key, v)], rest)
          | _ => none
      | _ => none

end

end Form

/-! ## Lines -/

namespace Line

/-- Takes what follows a header's key. A header whose key misses its last part has no meaning, so
that it does not matter what follows. Both brackets of the second kind have to close it. -/
def endHeader (key : RawKey) (closing : List Token) (l : List Token) : Option (List Token) :=
  let l := Token.skipBlanks l
  match l with
  | .closeBracket :: _ =>
    if l.take closing.length = closing then Token.endLine (l.drop closing.length) else none
  | _ => if key.getLast? = some [] then some (Token.skipLine l) else none

/-- Takes a line that holds something. One that begins with no bracket has to be a key with a value.
-/
def take (l : List Token) : Option (Line × List Token) :=
  match l with
  | .openBracket :: .openBracket :: rest => do
    let (key, rest) := Form.takeKey rest
    return (.next key, ← endHeader key [.closeBracket, .closeBracket] rest)
  | .openBracket :: rest => do
    let (key, rest) := Form.takeKey rest
    return (.table key, ← endHeader key [.closeBracket] rest)
  | l => do
    let (key, rest) := Form.takeKey l
    match Token.skipBlanks rest with
    | .equals :: rest =>
      let (v, rest) ← Form.takeValue (2 * l.length + 2) Form.nestingLimit (Token.skipBlanks rest)
      return (.pair key v, ← Token.endLine rest)
    | _ => none

/-- Takes lines, as far as the fuel reaches. Empty lines are passed over. -/
def takeWith : Nat → List Token → Option (List Line)
  | 0, _ => none
  | fuel + 1, l =>
    match Token.skipSpace l with
    | [] => some []
    | l => do
      let (line, rest) ← take l
      return line :: (← takeWith fuel rest)

/-- The text after the mark that may stand at its start. -/
def dropMark : List Char → List Char
  | '\ufeff' :: rest => rest
  | l => l

/-- **The lines of a text**, if it has a form. Every line takes a token, so the fuel lasts. -/
def ofText? (text : String) : Option (List Line) := do
  let tokens ← Token.scan (dropMark text.toList)
  takeWith (tokens.length + 1) tokens

end Line

end Testbed.Toml
