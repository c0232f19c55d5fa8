import MapScout.Number.Power
/-!
# Spans of time

A span is a number of nanoseconds; its seconds fit in 64 bits.  Its text uses the largest unit of
which there is at least one whole, with a fraction where needed.
-/

namespace MapScout

/-- A span of time, in nanoseconds. -/
structure Span where
  nanos : Nat
  deriving DecidableEq, Repr, Inhabited

namespace Span

def nanosPerSecond : Nat := tenTo 9

def ofSeconds (n : Nat) : Span := ⟨n * nanosPerSecond⟩

def ofMillis (n : Nat) : Span := ⟨n * tenTo 6⟩

/-- Seconds and the nanoseconds left over. -/
def make (seconds nanos : Nat) : Span := ⟨seconds * nanosPerSecond + nanos⟩

def seconds (s : Span) : Nat := s.nanos / nanosPerSecond

def subsecNanos (s : Span) : Nat := s.nanos % nanosPerSecond

/-- Whole milliseconds. -/
def millis (s : Span) : Nat := s.nanos / tenTo 6

/-- Spans of 2^64 seconds and more do not exist. -/
def limit : Nat := twoTo 64 * nanosPerSecond

/-- Twice the span, unless that is too long. -/
def double? (s : Span) : Option Span := if 2 * s.nanos < limit then some ⟨2 * s.nanos⟩ else none

/-- The digits of a fraction with `places` digits, zeros at the end dropped. -/
def fractionDigits (places fraction : Nat) : List Char :=
  let ds := Nat.toDigits 10 fraction
  let padded := List.replicate (places - ds.length) '0' ++ ds
  (padded.reverse.dropWhile (· = '0')).reverse

/-- A count of units of `10 ^ places` nanoseconds. -/
def render (nanos places : Nat) (unit : String) : String :=
  let fraction := fractionDigits places (nanos % tenTo places)
  toString (nanos / tenTo places) ++
    (if fraction.isEmpty then "" else "." ++ String.ofList fraction) ++ unit

/-- The text of a span, such as `1.5s`, `50ms` or `0ns`. -/
def toText (s : Span) : String :=
  if tenTo 9 ≤ s.nanos then render s.nanos 9 "s"
  else if tenTo 6 ≤ s.nanos then render s.nanos 6 "ms"
  else if tenTo 3 ≤ s.nanos then render s.nanos 3 "µs"
  else render s.nanos 0 "ns"

end Span

end MapScout
