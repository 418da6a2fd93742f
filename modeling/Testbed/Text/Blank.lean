/-!
# Blank characters

The characters with the standard's white-space property, and what is left of a text without the
blanks around it. Engines and configuration files are written by people everywhere, so the full
property is meant and not its ASCII part.

They are few and are listed here, without a table. Trimming takes them away at both ends and leaves
those in between.
-/

namespace Testbed.Text

/-- Whether a character is white space. Line breaks and tabs are among them, while a space of no
width is not. -/
def isBlank (c : Char) : Bool :=
  let n := c.toNat
  (0x09 ≤ n && n ≤ 0x0d) || n == 0x20 || n == 0x85 || n == 0xa0 || n == 0x1680
    || (0x2000 ≤ n && n ≤ 0x200a) || n == 0x2028 || n == 0x2029 || n == 0x202f || n == 0x205f
    || n == 0x3000

/-- The text without the blanks at its start. A blank after another character stays. -/
def dropBlank (l : List Char) : List Char := l.dropWhile isBlank

/-- The text without the blanks at its ends. A text of blanks becomes empty. -/
def trimList (l : List Char) : List Char := (dropBlank (dropBlank l).reverse).reverse

/-- The text without the blanks at its ends. It is what is done with numbers, truth values and
levels before they are read. -/
def trim (s : String) : String := String.ofList (trimList s.toList)

/-- Whether a text has no character other than blanks. The empty text has none, so it counts as
blank. -/
def allBlank (s : String) : Bool := s.toList.all isBlank

end Testbed.Text
