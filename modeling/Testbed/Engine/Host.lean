import Testbed.Text.Letterform
import Testbed.Text.Utf8
import Testbed.Uuid

/-!
# Hosts

The host of an address: a number in one of its two notations or a name. A host is read leniently –
percent signs are resolved, letters lose their case and their form – and numbers may be written
with fewer than four parts, in octal or in hexadecimal. Whatever ends in a number must be one.
-/

namespace Testbed

/-- A host. Numbers are kept as numbers, so two ways of writing one host are the same host. -/
inductive Host where
  /-- A number of 32 bits. -/
  | ipv4 (bits : Nat)
  /-- A number of 128 bits, in groups of 16. -/
  | ipv6 (groups : List Nat)
  /-- A name. -/
  | name (text : String)
  deriving DecidableEq, Repr

namespace Host

/-- The parts of a text between separators. There is one more of them than there are separators. -/
def splitAt (separator : Char) : List Char → List (List Char)
  | [] => [[]]
  | c :: rest =>
    if c = separator then [] :: splitAt separator rest
    else
      match splitAt separator rest with
      | [] => [[c]]
      | part :: more => (c :: part) :: more

/-- The number that digits of a base write, if they all are such digits. No digits write zero. -/
def number? (base : Nat) (l : List Char) : Option Nat :=
  l.foldlM (fun n c => do
    let d ← Uuid.hexValue? c
    if d < base then some (n * base + d) else none) 0

/-! ## Four parts -/

/-- A part of a number: in hexadecimal after `0x`, in octal after a zero, and in decimal otherwise.
No digits after such a mark are zero. So a part with a zero in front may be another number than it
seems. -/
def part? (l : List Char) : Option Nat :=
  match l with
  | [] => none
  | '0' :: 'x' :: rest | '0' :: 'X' :: rest => number? 16 rest
  | '0' :: d :: rest => number? 8 (d :: rest)
  | l => number? 10 l

/-- The parts of a dotted text. A dot may end it. A dot in the middle without digits on both sides
leaves an empty part. -/
def dotted (l : List Char) : List (List Char) :=
  let parts := splitAt '.' l
  if parts.getLast? = some [] then parts.dropLast else parts

/-- Whether the last part of a text is a number, or at least all digits. Then the host has to be a
number, or it is none. -/
def endsInNumber (l : List Char) : Bool :=
  match (dotted l).getLast? with
  | some part => !part.isEmpty && (part.all Char.isDigit || (part? part).isSome)
  | none => false

/-- The number that a dotted text writes. All parts but the last are bytes, and the last one fills
up the rest. A text of one part is the whole number. -/
def ipv4? (l : List Char) : Option Nat := do
  let parts ← (dotted l).mapM part?
  let last ← parts.getLast?
  let bytes := parts.dropLast
  if 3 < bytes.length ∨ bytes.any (255 < ·) ∨ Nat.pow 256 (4 - bytes.length) ≤ last then none
  else
    return bytes.foldl (fun n b => n * 256 + b) 0 * Nat.pow 256 (4 - bytes.length) + last

/-! ## Eight groups -/

/-- A byte in decimal, without leading zeros. It is stricter than a part outside brackets. -/
def byte? (l : List Char) : Option Nat := do
  if l.isEmpty ∨ (1 < l.length ∧ l.head? = some '0') then none
  else
    let n ← number? 10 l
    if n < 256 then some n else none

/-- Two groups that are written as four bytes. There have to be four bytes. -/
def twoGroups? (l : List Char) : Option (List Nat) := do
  match ← (splitAt '.' l).mapM byte? with
  | [a, b, c, d] => some [a * 256 + b, c * 256 + d]
  | _ => none

/-- A group of up to four digits. Capitals and small letters are both fine. -/
def group? (l : List Char) : Option Nat :=
  if l.isEmpty ∨ 4 < l.length then none else number? 16 l

/-- Groups with colons between them; the last two may be written as bytes where `atEnd` allows it.
The empty text has no groups at all. -/
def groups? (atEnd : Bool) (l : List Char) : Option (List Nat) := do
  if l.isEmpty then some []
  else
    let parts := splitAt ':' l
    let last ← parts.getLast?
    let earlier ← parts.dropLast.mapM group?
    if atEnd ∧ last.contains '.' then return earlier ++ (← twoGroups? last)
    else return earlier ++ [← group? last]

/-- The text before the first two colons in a row and the text behind them. A second pair of colons
is left in the text behind and spoils it there. -/
def gap? : List Char → Option (List Char × List Char)
  | ':' :: ':' :: rest => some ([], rest)
  | c :: rest => (gap? rest).map (fun (before, after) => (c :: before, after))
  | [] => none

/-- The number that groups write. Two colons in a row stand for one or more groups of zeros. Without
such a gap there have to be eight. -/
def ipv6? (l : List Char) : Option (List Nat) := do
  match gap? l with
  | none =>
    let groups ← groups? true l
    if groups.length = 8 then some groups else none
  | some (before, after) =>
    let before ← groups? false before
    let after ← groups? true after
    let known := before.length + after.length
    if 8 ≤ known then none else return before ++ List.replicate (8 - known) 0 ++ after

/-! ## Hosts -/

/-- The byte that a percent sign and two hexadecimal digits stand for. Anything else is no escape.
-/
def escaped? (sign high low : UInt8) : Option UInt8 := do
  if sign.toNat = '%'.toNat then
    let h ← Uuid.hexValue? (Char.ofNat high.toNat)
    let l ← Uuid.hexValue? (Char.ofNat low.toNat)
    return UInt8.ofNat (h * 16 + l)
  else none

/-- The bytes of a text with its percent signs resolved; one without digits stays. It is done once,
so what comes out is not looked at again. -/
def unescape : List UInt8 → List UInt8
  | sign :: high :: low :: rest =>
    match escaped? sign high low with
    | some b => b :: unescape rest
    | none => sign :: unescape (high :: low :: rest)
  | l => l

/-- A text with its percent signs resolved, if that is a text. Bytes that are no UTF-8 make it none.
-/
def unescaped? (l : List Char) : Option (List Char) :=
  (Text.Utf8.decode? (unescape (l.flatMap Text.Utf8.encodeChar))).map String.toList

/-- The full stops of other scripts and widths. They count as dots, so they separate parts too. -/
def isStop (c : Char) : Bool := c == '\u3002' || c == '\uff0e' || c == '\uff61'

/-- Whether a character is not seen in a host: soft hyphens, joints and selectors of forms. They are
dropped wherever they stand. -/
def isUnseen (c : Char) : Bool :=
  let n := c.toNat
  n == 0xad || n == 0x34f || (0x180b ≤ n && n ≤ 0x180f && n != 0x180e) || n == 0x200b || n == 0x2060
    || n == 0x2064 || (0xfe00 ≤ n && n ≤ 0xfe0f) || n == 0xfeff || (0x1bca0 ≤ n && n ≤ 0x1bca3)
    || (0xe0100 ≤ n && n ≤ 0xe01ef)

/-- A character without its case and its form. Only ASCII letters lose their case here, and forms of
letters have lost it already. -/
def fold (c : Char) : List Char :=
  if isUnseen c then []
  else if isStop c then ['.']
  else (Text.plainForm? c).getD [c.toLower]

/-- Whether a character stands in no host. They would end the host, or be mistaken for something
else. -/
def isForbidden (c : Char) : Bool :=
  c ≤ ' ' || c == '\x7f' || "#%/:<>?@[\\]^|".toList.contains c

/-- Reads a host outside brackets. An empty host is none. -/
def ofPlain? (l : List Char) : Option Host := do
  let l := (← unescaped? l).flatMap fold
  if l.isEmpty ∨ l.any isForbidden then none
  else if endsInNumber l then return .ipv4 (← ipv4? l)
  else return .name (String.ofList l)

/-- **Reads a host.** A bracket that is not closed spoils it. -/
def ofChars? (l : List Char) : Option Host :=
  match l with
  | '[' :: rest =>
    if rest.getLast? = some ']' then (ipv6? rest.dropLast).map .ipv6 else none
  | l => ofPlain? l

/-! ## Written form -/

/-- A number of 32 bits as four parts. All four are written. -/
def dottedText (bits : Nat) : String :=
  ".".intercalate ([24, 16, 8, 0].map (fun shift => toString (bits >>> shift % 256)))

/-- How many zeros a list of groups starts with. There may be none. -/
def leadingZeros (groups : List Nat) : Nat := (groups.takeWhile (· == 0)).length

/-- Where the first of the longest runs of zeros starts, and its length. A later run has to be
longer to count. -/
def longestZeros (groups : List Nat) : Nat × Nat :=
  (List.range groups.length).foldl (fun best start =>
    let length := leadingZeros (groups.drop start)
    if best.2 < length then (start, length) else best) (0, 0)

/-- Groups with colons between them. Zeros in front are left out. -/
def groupsText (groups : List Nat) : String :=
  ":".intercalate (groups.map (fun n => String.ofList (Nat.toDigits 16 n)))

/-- A number of 128 bits as groups. Two colons stand for the longest run of zeros, unless that is a
single one. So each number has one such form. -/
def colonText (groups : List Nat) : String :=
  let (start, length) := longestZeros groups
  if length < 2 then groupsText groups
  else groupsText (groups.take start) ++ "::" ++ groupsText (groups.drop (start + length))

/-- The written form of a host. A number of 128 bits stands in brackets. -/
def text : Host → String
  | ipv4 bits => dottedText bits
  | ipv6 groups => "[" ++ colonText groups ++ "]"
  | name text => text

end Host

end Testbed
