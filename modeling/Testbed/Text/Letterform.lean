/-!
# Letterforms

The standard has many characters that are a letter or a digit in another form: wide, raised,
circled, mathematical. Where only the letter counts – a host may be typed in any of these forms –
such a character is read as the small letter, the digit or the number that it stands for.

The data are runs: a code point and the plain characters that it and its followers stand for, with
a blank for those that stand for themselves.
-/

namespace Testbed.Text

/-- The forms that stand for a letter or a digit, but for the mathematical ones. A blank in a run
keeps the place of a character that stands for itself. -/
def letterformRuns : List (Nat × String) := [
  (0xaa, "a       23     1o"), (0x17f, "s"), (0x2b0, "h jr   wy"), (0x2e1, "lsx"),
  (0x1d2c, "a b de ghijklmn o prtuwa   bde   g km o   p"), (0x1d57, "tu  v      iruv"),
  (0x1d9c, "c   f"), (0x1dbb, "z"), (0x2070, "0i  456789     n0123456789      aeox hkl"),
  (0x2098, "mnpst"), (0x2102, "c       ghhhh iill n   pqrrr      z   z k"),
  (0x212c, "bc eef mo    i"), (0x2145, "ddeij"), (0x2160, "i   v    x  lcdmi   v    x  lcdm"),
  (0x2460, "123456789"), (0x24b6, "abcdefghijklmnopqrstuvwxyz"),
  (0x24d0, "abcdefghijklmnopqrstuvwxyz0"), (0x2c7c, "jv"), (0xa7f2, "cfq"),
  (0xff10, "0123456789"), (0xff21, "abcdefghijklmnopqrstuvwxyz"),
  (0xff41, "abcdefghijklmnopqrstuvwxyz"), (0x107a5, "q"),
  (0x1f12b, "cr   abcdefghijklmnopqrstuvwxyz"), (0x1fbf0, "0123456789")]

/-- The circled numbers above nine: where a run starts, its first number and its length. The first
nine are in the other table, as each of them is one character. -/
def circledRuns : List (Nat × Nat × Nat) := [(0x2469, 10, 11), (0x3251, 21, 15), (0x32b1, 36, 15)]

/-- The places in the mathematical alphabets that hold no letter. Their letters had been encoded
elsewhere before the alphabets were. -/
def alphabetGaps : List Nat := [
  0x1d455, 0x1d49d, 0x1d4a0, 0x1d4a1, 0x1d4a3, 0x1d4a4, 0x1d4a7, 0x1d4a8, 0x1d4ad, 0x1d4ba,
  0x1d4bc, 0x1d4c4, 0x1d506, 0x1d50b, 0x1d50c, 0x1d515, 0x1d51d, 0x1d53a, 0x1d53f, 0x1d545,
  0x1d547, 0x1d548, 0x1d549, 0x1d551]

/-- The letter or digit in a run that a code point stands for. A code point beyond the run's end is
in none. -/
def inRun? (n : Nat) (run : Nat × String) : Option Char := do
  if n < run.1 then none
  else
    let c ← run.2.toList[n - run.1]?
    if c = ' ' then none else some c

/-- The number that a code point stands for. It has two digits. -/
def circled? (n : Nat) : Option Nat := do
  let (start, first, _) ← circledRuns.find? (fun (start, _, length) =>
    start ≤ n ∧ n < start + length)
  return first + (n - start)

/-- The mathematical letter or digit that a code point stands for. The alphabets follow each other,
capitals before small letters, and so do the digits. There are thirteen alphabets of fifty-two
letters. -/
def mathematical? (n : Nat) : Option Char :=
  if 0x1d400 ≤ n ∧ n ≤ 0x1d6a3 ∧ !alphabetGaps.contains n then
    some (Char.ofNat ('a'.toNat + (n - 0x1d400) % 26))
  else if 0x1d7ce ≤ n ∧ n ≤ 0x1d7ff then some (Char.ofNat ('0'.toNat + (n - 0x1d7ce) % 10))
  else none

/-- **What a letter or digit in another form stands for**, if the character is one. A plain letter
is none of them, and its case is not this function's affair. -/
def plainForm? (c : Char) : Option (List Char) :=
  match (letterformRuns.findSome? (inRun? c.toNat)).or (mathematical? c.toNat) with
  | some plain => some [plain]
  | none => (circled? c.toNat).map (fun n => (toString n).toList)

end Testbed.Text
