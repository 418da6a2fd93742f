/-!
# Spans of time

A span in whole seconds and nanoseconds, and how a message shows it: in the largest of the units s,
ms, µs and ns that it fills, with as many decimals as it has.

The nanoseconds are meant to be less than a second (`Duration.of` makes them so), and then a span is
written in one way only. The decimals that are shown are exact; zeros at their end are left out.
-/

namespace Testbed

/-- A span of time. Equality is that of the two numbers, so spans that are built by hand with a
second or more in nanoseconds may be equal as times and not as values. -/
structure Duration where
  /-- Whole seconds. -/
  secs : Nat
  /-- Nanoseconds beyond them. -/
  nanos : Nat := 0
  deriving DecidableEq, Repr, Inhabited

namespace Duration

/-- Nanoseconds in a second. It is where nanoseconds are carried over. -/
def nanosPerSec : Nat := 1000000000

/-- The span of seconds and any number of nanoseconds. There is no limit to either number. -/
def of (secs nanos : Nat) : Duration := ⟨secs + nanos / nanosPerSec, nanos % nanosPerSec⟩

/-- The span of some milliseconds. There are always less than a second of nanoseconds. -/
def ofMillis (ms : Nat) : Duration := ⟨ms / 1000, ms % 1000 * 1000000⟩

/-- The whole milliseconds of a span. What is less than a millisecond is dropped. -/
def millis (d : Duration) : Nat := d.secs * 1000 + d.nanos / 1000000

/-- Milliseconds are kept exactly. -/
@[simp] theorem millis_ofMillis (ms : Nat) : (ofMillis ms).millis = ms := by
  simp only [millis, ofMillis]
  omega

/-- A number with `places` decimals, without the zeros at its end. A whole number has no point. -/
def decimalText (whole fraction places : Nat) : String :=
  let digits := Nat.toDigits 10 fraction
  let padded := List.replicate (places - digits.length) '0' ++ digits
  let kept := (padded.reverse.dropWhile (· == '0')).reverse
  if fraction = 0 then toString whole else toString whole ++ "." ++ String.ofList kept

/-- The span as a message shows it. A span of nothing is shown in nanoseconds. -/
def text (d : Duration) : String :=
  if d.secs > 0 then decimalText d.secs d.nanos 9 ++ "s"
  else if d.nanos ≥ 1000000 then decimalText (d.nanos / 1000000) (d.nanos % 1000000) 6 ++ "ms"
  else if d.nanos ≥ 1000 then decimalText (d.nanos / 1000) (d.nanos % 1000) 3 ++ "µs"
  else toString d.nanos ++ "ns"

end Duration

end Testbed
