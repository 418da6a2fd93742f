/-!
# Base64

Bytes written with 64 letters, six bits a letter, in groups of four with `=` filling up the last
group.

Only writing is needed, for the credentials of a request. Three bytes are a number of 24 bits and
give four letters. One or two bytes that are left over are filled up with zero bits, and the letters
that would be made of nothing else are `=`.
-/

namespace Testbed.Text.Base64

/-- The letter of a six-bit number. Capitals come first, then small letters, digits, plus and slash.
-/
def letter (n : Nat) : Char :=
  if n < 26 then Char.ofNat ('A'.toNat + n)
  else if n < 52 then Char.ofNat ('a'.toNat + (n - 26))
  else if n < 62 then Char.ofNat ('0'.toNat + (n - 52))
  else if n = 62 then '+'
  else '/'

/-- The letters of some bytes. There are four letters for every three bytes that are begun. -/
def encodeList : List UInt8 → List Char
  | a :: b :: c :: rest =>
    let n := a.toNat * 65536 + b.toNat * 256 + c.toNat
    letter (n / 262144) :: letter (n / 4096 % 64) :: letter (n / 64 % 64) :: letter (n % 64)
      :: encodeList rest
  | [a, b] =>
    let n := a.toNat * 65536 + b.toNat * 256
    [letter (n / 262144), letter (n / 4096 % 64), letter (n / 64 % 64), '=']
  | [a] =>
    let n := a.toNat * 65536
    [letter (n / 262144), letter (n / 4096 % 64), '=', '=']
  | [] => []

/-- The bytes in letters. Nothing breaks the lines. -/
def encode (bytes : List UInt8) : String := String.ofList (encodeList bytes)

end Testbed.Text.Base64
