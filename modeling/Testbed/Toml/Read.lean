import Testbed.Toml.Form
import Testbed.Toml.Outline
import Testbed.Toml.Scalar

/-!
# Reading TOML

A text is read in three passes, and a text with one fault has no reading at all. First its form is
found (`Line.ofText?`). Then the lines are taken in one after another: keys and scalars get their
meaning and the tables grow (`Draft.take`). Last of all, the numbers are looked at again, which
must fit into their types (`Form.fits`). Which pass a fault belongs to decides which of two faults
is the one that a reader hears of; only a key of too many parts is told apart from all others.

The tables of a header in two brackets join their row when the next header, or the end, is reached.
-/

namespace Testbed.Toml

/-! ## Keys -/

/-- Whether a character may stand in a key without quotes. Letters and digits are those of ASCII. -/
def isBare (c : Char) : Bool := c.isAlphanum || c == '_' || c == '-'

/-- What a part of a key says. A part in quotes may be empty; one without them may not. -/
def partText? (raw : List Char) : Option String :=
  match raw with
  | [] => none
  | '"' :: _ | '\'' :: _ => (readWhole? readShort raw).map String.ofList
  | _ => if raw.all isBare then some (String.ofList raw) else none

/-- A key has at most this many parts. It is counted after the parts have been understood. -/
def keyLimit : Nat := 80

/-- What a key says: the path to its table and its own name. The path is empty for a key of one
part. -/
def readKey (raw : RawKey) : Except Fault (List String × String) :=
  match raw.mapM partText? with
  | none => .error .malformed
  | some parts =>
    if keyLimit < parts.length then .error .keyTooLong
    else
      match parts.getLast? with
      | none => .error .malformed
      | some key => .ok (parts.dropLast, key)

/-! ## Values -/

/-- The value of a scalar. What begins with a quote is a string, and everything else has to be a
word. -/
def scalar? (raw : List Char) : Option Toml :=
  match raw with
  | '"' :: _ | '\'' :: _ => (readWhole? readQuoted raw).map (fun text => .str (String.ofList text))
  | _ => word? raw

/-- The result of a change, which may be refused. Which rule was broken is not kept. -/
def orMalformed {α : Type} : Option α → Except Fault α
  | some x => .ok x
  | none => .error .malformed

mutual

/-- The value of a form. The items of an array need not be of one kind. -/
def Form.read : Form → Except Fault Toml
  | .scalar raw => orMalformed (scalar? raw)
  | .arr items => do return .arr (← Form.readAll items)
  | .table pairs => do return .table (← Form.readTable [] pairs).toDict.entries

/-- The values of forms. The first that has no value spoils all. -/
def Form.readAll : List Form → Except Fault (List Toml)
  | [] => .ok []
  | item :: rest => do
    let v ← item.read
    return v :: (← Form.readAll rest)

/-- The entries of a table that is written as one value, behind some that it has. A key with dots
makes tables within it. -/
def Form.readTable (entries : Outline) : List (RawKey × Form) → Except Fault Outline
  | [] => .ok entries
  | (raw, form) :: rest => do
    let (path, key) ← readKey raw
    let v ← form.read
    let entries ← orMalformed (Outline.addPair path key v .header entries)
    Form.readTable entries rest

end

mutual

/-- Whether the numbers in a form fit into their types. A string always does. -/
def Form.fits : Form → Bool
  | .scalar raw => wordFits raw
  | .arr items => Form.allFit items
  | .table pairs => Form.pairsFit pairs

/-- Whether the numbers in forms fit into their types. No items always fit. -/
def Form.allFit : List Form → Bool
  | [] => true
  | item :: rest => item.fits && Form.allFit rest

/-- Whether the numbers in a table fit into their types. Keys are not looked at. -/
def Form.pairsFit : List (RawKey × Form) → Bool
  | [] => true
  | (_, form) :: rest => form.fits && Form.pairsFit rest

end

/-! ## Texts -/

/-- The text's tables so far. A row is kept apart until it is complete, so that its keys do not get
into the row before. -/
structure Draft where
  /-- The tables. -/
  entries : Outline := []
  /-- The path of the table that keys go to. -/
  path : List String := []
  /-- The table that keys go to, its name in `path` apart, if it is still to join its row. -/
  row : Option (String × Outline) := none

namespace Draft

/-- Lets the last table join its row. Nothing is changed if the last header was of a table. -/
def finish (d : Draft) : Except Fault Draft :=
  match d.row with
  | none => .ok d
  | some (key, row) => do
    let entries ← orMalformed <|
      Outline.atPath .passed (Outline.addRow key row) .header d.path d.entries
    return { entries, path := d.path }

/-- Takes in a line. A header ends what the one before has begun. -/
def take (d : Draft) : Line → Except Fault Draft
  | .table raw => do
    let d ← d.finish
    let (path, key) ← readKey raw
    let entries ← orMalformed <|
      Outline.atPath .passed (Outline.openTable key) .header path d.entries
    return { entries, path := path ++ [key] }
  | .next raw => do
    let d ← d.finish
    let (path, key) ← readKey raw
    return { d with path, row := some (key, []) }
  | .pair raw form => do
    let (path, key) ← readKey raw
    let v ← form.read
    match d.row with
    | some (name, row) =>
      let row ← orMalformed (Outline.addPair path key v .header row)
      return { d with row := some (name, row) }
    | none =>
      let entries ← orMalformed <|
        Outline.atPath .passed (Outline.addPair path key v) .header d.path d.entries
      return { d with entries }

end Draft

/-- Whether the numbers of a line fit into their types. Headers hold no numbers. -/
def Line.fits : Line → Bool
  | .pair _ form => form.fits
  | .table _ | .next _ => true

/-- **Reads a text**: the entries of its table, or what is wrong with it. The keys of the result
ascend. A number that does not fit is found last, so any other fault comes before it. -/
def read (text : String) : Except Fault (Dict String Toml) := do
  let lines ← orMalformed (Line.ofText? text)
  let d ← (← lines.foldlM Draft.take {}).finish
  if lines.all Line.fits then return d.entries.toDict else throw .malformed

end Testbed.Toml
