import Turnstile.Number.Decimal
import Turnstile.Number.Word

/-!
# Spans of time and instants

A `Timespan` counts nanoseconds. Its whole seconds fit in 64 bits (`Timespan.maxSeconds`).

* `Timespan.ofSeconds` rounds a number of seconds to the nearest nanosecond, a tie to the even one.
* `Timespan.text` writes a span in the largest of the units s, ms, µs and ns that gives it a whole
  part.
* An `Instant` is a reading of the clock, which counts seconds in a signed 64-bit word; `plus?` is
  the instant after a span, if the clock can show it.
-/

namespace Turnstile

/-- A length of time in nanoseconds. -/
structure Timespan where
  nanos : Nat
  deriving DecidableEq, Repr, Inhabited

namespace Timespan

def nanosPerSecond : Nat := 1000000000

/-- The greatest number of whole seconds. -/
def maxSeconds : Nat := Word.count - 1

def ofWholeSeconds (n : Nat) : Timespan := ⟨n * nanosPerSecond⟩

def ofMillis (n : Nat) : Timespan := ⟨n * 1000000⟩

/-- The whole seconds of a span. -/
def seconds (t : Timespan) : Nat := t.nanos / nanosPerSecond

/-- The nanoseconds of a span beyond its whole seconds. -/
def subsecond (t : Timespan) : Nat := t.nanos % nanosPerSecond

def millis (t : Timespan) : Nat := t.nanos / 1000000

/-- Why a number of seconds is no span. -/
inductive RangeError where
  | negative
  | tooBigOrNaN
  deriving DecidableEq, Repr

def RangeError.message : RangeError → String
  | .negative => "cannot convert float seconds to Duration: value is negative"
  | .tooBigOrNaN => "cannot convert float seconds to Duration: value is either too big or NaN"

/-- The span of a number of seconds, rounded to the nearest nanosecond. Seconds must fit in 64
bits. -/
def ofSeconds (x : Binary64) : Except RangeError Timespan :=
  if x.isNegative then .error .negative
  else match x with
    | .finite _ m e =>
      let (n, d) := Binary64.magnitude m e
      if n < d * Word.count then .ok ⟨roundHalfEven (n * nanosPerSecond) d⟩ else .error .tooBigOrNaN
    | _ => .error .tooBigOrNaN

/-- A whole part and a fraction of `places` digits, without the zeros at its end. -/
def decimalText (whole fraction places : Nat) : String :=
  let digits := Decimal.digitsOf fraction
  let padded := List.replicate (places - digits.length) '0' ++ digits
  let kept := (padded.reverse.dropWhile (· = '0')).reverse
  let wholeText := String.ofList (Decimal.digitsOf whole)
  if kept.isEmpty then wholeText else wholeText ++ "." ++ String.ofList kept

/-- The text of a span, such as `1.5s`, `500ms`, `1.000001ms` and `0ns`. -/
def text (t : Timespan) : String :=
  if 0 < t.seconds then decimalText t.seconds t.subsecond 9 ++ "s"
  else if 1000000 ≤ t.nanos then decimalText (t.nanos / 1000000) (t.nanos % 1000000) 6 ++ "ms"
  else if 1000 ≤ t.nanos then decimalText (t.nanos / 1000) (t.nanos % 1000) 3 ++ "µs"
  else decimalText t.nanos 0 0 ++ "ns"

end Timespan

/-- A reading of the clock, in nanoseconds. -/
structure Instant where
  nanos : Nat
  deriving DecidableEq, Repr, Inhabited

namespace Instant

/-- The greatest number of whole seconds that the clock shows. -/
def maxSeconds : Nat := Word.half - 1

/-- The instant a span later; `none` if the clock cannot show it. -/
def plus? (i : Instant) (t : Timespan) : Option Instant :=
  let n := i.nanos + t.nanos
  if n / Timespan.nanosPerSecond ≤ maxSeconds then some ⟨n⟩ else none

/-- The span from an earlier instant to this one. -/
def since (later earlier : Instant) : Timespan := ⟨later.nanos - earlier.nanos⟩

end Instant

end Turnstile
