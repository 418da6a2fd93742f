import Testbed.Text.EscapedTable

/-!
# Quoted texts

How a message shows a text it was given: in double quotes, with the quote, the backslash and every
character that cannot be shown as it is written as an escape.

A character without an escape of its own is written by its number in hexadecimal digits, between
braces and without zeros in front.
-/

namespace Testbed.Text

/-- One character inside quotes. The apostrophe is not escaped. -/
def quoteChar (c : Char) : List Char :=
  if c = '\x00' then ['\\', '0']
  else if c = '\t' then ['\\', 't']
  else if c = '\r' then ['\\', 'r']
  else if c = '\n' then ['\\', 'n']
  else if c = '\\' then ['\\', '\\']
  else if c = '"' then ['\\', '"']
  else if escapedSet.mem c then
    "\\u\x7b".toList ++ Nat.toDigits 16 c.toNat ++ ['}']
  else [c]

/-- The text in quotes. Nothing reads it back. -/
def quote (s : String) : String :=
  String.ofList ('"' :: s.toList.flatMap quoteChar ++ ['"'])

end Testbed.Text
