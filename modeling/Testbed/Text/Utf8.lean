/-!
# Reading UTF-8

Bytes are read one at a time. Between characters a byte starts a character and fixes how many
continuation bytes are owed and the range of the next one; a byte outside that range ends the
character early. Strict reading refuses there. Lenient reading puts one replacement character in
place of the bytes read so far and looks at the byte again as the start of a character, so every
longest beginning of a character that cannot be completed is replaced once.
-/

namespace Testbed.Text.Utf8

/-- Where the reader stands. The range matters only for the byte after the first; every later one
may be any continuation byte. -/
inductive State where
  /-- Between characters. -/
  | start
  /-- Inside a character: the bits so far, how many bytes are owed, and the range of the next. -/
  | owed (bits count low high : Nat)
  deriving DecidableEq, Repr

/-- What a byte does. A byte that is refused has not been used up: it may still start a character.
-/
inductive Outcome where
  /-- It completes a character. -/
  | complete (c : Char)
  /-- More bytes are owed. -/
  | more (s : State)
  /-- No character has it there. -/
  | refused
  deriving DecidableEq, Repr

/-- A byte between characters. The two lowest and the two highest of the starting bytes restrict the
byte after them, so that no character is written too long, none is half of a pair, and none lies
beyond the last code point. -/
def first (b : Nat) : Outcome :=
  if b ≤ 0x7f then .complete (Char.ofNat b)
  else if 0xc2 ≤ b ∧ b ≤ 0xdf then .more (.owed (b - 0xc0) 1 0x80 0xbf)
  else if b = 0xe0 then .more (.owed 0 2 0xa0 0xbf)
  else if b = 0xed then .more (.owed 0xd 2 0x80 0x9f)
  else if 0xe1 ≤ b ∧ b ≤ 0xef then .more (.owed (b - 0xe0) 2 0x80 0xbf)
  else if b = 0xf0 then .more (.owed 0 3 0x90 0xbf)
  else if 0xf1 ≤ b ∧ b ≤ 0xf3 then .more (.owed (b - 0xf0) 3 0x80 0xbf)
  else if b = 0xf4 then .more (.owed 4 3 0x80 0x8f)
  else .refused

/-- A byte in any state. The last of the bytes that are owed completes the character. -/
def step : State → Nat → Outcome
  | .start, b => first b
  | .owed bits count low high, b =>
    if low ≤ b ∧ b ≤ high then
      let bits := bits * 64 + (b - 0x80)
      if count ≤ 1 then .complete (Char.ofNat bits) else .more (.owed bits (count - 1) 0x80 0xbf)
    else .refused

/-- The character that stands for bytes that are no character. It is a character like others and may
stand in a text by itself. -/
def replacement : Char := '\ufffd'

/-- Strict reading from a state: nothing for bytes that are no text. A text that ends inside a
character is none. -/
def strict? : State → List UInt8 → Option (List Char)
  | .start, [] => some []
  | .owed .., [] => none
  | s, b :: rest =>
    match step s b.toNat with
    | .complete c => (strict? .start rest).map (c :: ·)
    | .more s => strict? s rest
    | .refused => none

/-- Lenient reading from a state. What is owed at the end is replaced once. A byte that ends a
character early is looked at again as a first one, and if it is none it is replaced too. -/
def lenient : State → List UInt8 → List Char
  | .start, [] => []
  | .owed .., [] => [replacement]
  | s, b :: rest =>
    match step s b.toNat with
    | .complete c => c :: lenient .start rest
    | .more s => lenient s rest
    | .refused =>
      match s with
      | .start => replacement :: lenient .start rest
      | .owed .. =>
        match first b.toNat with
        | .complete c => replacement :: c :: lenient .start rest
        | .more s => replacement :: lenient s rest
        | .refused => replacement :: replacement :: lenient .start rest

/-- The text that bytes encode, if they encode one. Whoever writes the text again gets the same
bytes. -/
def decode? (bytes : List UInt8) : Option String := (strict? .start bytes).map String.ofList

/-- The text that bytes encode, with replacement characters where they encode none. Every list of
bytes has one, and different lists may have the same. -/
def decodeLenient (bytes : List UInt8) : String := String.ofList (lenient .start bytes)

/-- The bytes of a character. There are one to four of them, of which all but the first are
continuation bytes with six bits each. -/
def encodeChar (c : Char) : List UInt8 :=
  let n := c.toNat
  let tail (shift : Nat) : UInt8 := UInt8.ofNat (0x80 + n / Nat.pow 64 shift % 64)
  if n < 0x80 then [UInt8.ofNat n]
  else if n < 0x800 then [UInt8.ofNat (0xc0 + n / 64), tail 0]
  else if n < 0x10000 then [UInt8.ofNat (0xe0 + n / Nat.pow 64 2), tail 1, tail 0]
  else [UInt8.ofNat (0xf0 + n / Nat.pow 64 3), tail 2, tail 1, tail 0]

/-- The bytes of a text. Different texts have different bytes. -/
def encode (s : String) : List UInt8 := s.toList.flatMap encodeChar

end Testbed.Text.Utf8
