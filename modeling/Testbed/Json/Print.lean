import Testbed.Json.Basic
import Testbed.Number.Layout
import Testbed.Uuid

/-!
# Writing JSON

The compact form has no blanks. Inside strings only the quote, the backslash and the control
characters are escaped, those with a letter by it. The indented form puts every item and member on
a line of its own, two blanks deeper than the brackets around it; empty brackets stay together.
-/

namespace Testbed.Json

/-- The four hexadecimal digits of a control character. They begin with two zeros, as there are
fewer than thirty-two such characters below the blank. -/
def controlDigits (n : Nat) : List Char := ['0', '0', Uuid.hexDigit (n / 16), Uuid.hexDigit (n % 16)]

/-- One character inside a string. The slash and characters beyond ASCII are written as they are. -/
def printChar (c : Char) : List Char :=
  if c = '"' then ['\\', '"']
  else if c = '\\' then ['\\', '\\']
  else if c = '\x08' then ['\\', 'b']
  else if c = '\x0c' then ['\\', 'f']
  else if c = '\n' then ['\\', 'n']
  else if c = '\r' then ['\\', 'r']
  else if c = '\t' then ['\\', 't']
  else if c < ' ' then '\\' :: 'u' :: controlDigits c.toNat
  else [c]

/-- A string in quotes. Keys are written like texts. -/
def printString (s : String) : String :=
  String.ofList ('"' :: s.toList.flatMap printChar ++ ['"'])

mutual

/-- The compact form. It is what requests carry and what messages show. -/
def compact : Json → String
  | .null => "null"
  | .bool true => "true"
  | .bool false => "false"
  | .int n => toString n
  | .float x => x.render .json
  | .str s => printString s
  | .arr items => "[" ++ compactItems items ++ "]"
  | .obj members => "\x7b" ++ compactMembers members ++ "\x7d"

/-- The items with commas between them. No comma follows the last. -/
def compactItems : List Json → String
  | [] => ""
  | [x] => compact x
  | x :: rest => compact x ++ "," ++ compactItems rest

/-- The members with commas between them. They are written in the order in which they stand, which
for objects that are built here is that of their keys. -/
def compactMembers : List (String × Json) → String
  | [] => ""
  | [(k, x)] => printString k ++ ":" ++ compact x
  | (k, x) :: rest => printString k ++ ":" ++ compact x ++ "," ++ compactMembers rest

end

/-- A line's blanks at some depth. The line break comes first, so it separates from what stands
before. -/
def indent (depth : Nat) : String := "\n" ++ String.ofList (List.replicate (2 * depth) ' ')

mutual

/-- The indented form at some depth. Scalars are written as in the compact form. -/
def indented (depth : Nat) : Json → String
  | .arr [] => "[]"
  | .arr items => "[" ++ indentedItems (depth + 1) items ++ indent depth ++ "]"
  | .obj [] => "\x7b\x7d"
  | .obj members => "\x7b" ++ indentedMembers (depth + 1) members ++ indent depth ++ "\x7d"
  | .null => "null"
  | .bool b => if b then "true" else "false"
  | .int n => toString n
  | .float x => x.render .json
  | .str s => printString s

/-- The items, each on its line. Each is preceded by a line break of its own. -/
def indentedItems (depth : Nat) : List Json → String
  | [] => ""
  | [x] => indent depth ++ indented depth x
  | x :: rest => indent depth ++ indented depth x ++ "," ++ indentedItems depth rest

/-- The members, each on its line. A colon has a blank behind it here. -/
def indentedMembers (depth : Nat) : List (String × Json) → String
  | [] => ""
  | [(k, x)] => indent depth ++ printString k ++ ": " ++ indented depth x
  | (k, x) :: rest =>
    indent depth ++ printString k ++ ": " ++ indented depth x ++ "," ++ indentedMembers depth rest

end

/-- The indented form. It is what a user is shown. -/
def pretty (v : Json) : String := indented 0 v

end Testbed.Json
