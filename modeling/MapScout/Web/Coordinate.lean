import MapScout.Number.Binary64
import MapScout.Number.Decimal
import MapScout.Text.Blank
/-!
# Coordinates as callers write them

A decimal number with an optional sign, point and exponent, of which only one digit has to be there,
on either side of the point; or one of the words for infinity and not-a-number in any case.  Blanks
around it do not count.  A coordinate has to be finite.
-/

namespace MapScout.Coordinate

/-- An ASCII letter in lower case; any other byte as it is. -/
def lower (b : UInt8) : UInt8 := if 0x41 ≤ b && b ≤ 0x5a then b + 0x20 else b

/-- A sign and what follows it. -/
def readSign : Bytes → Bool × Bytes
  | 0x2d :: rest => (true, rest)
  | 0x2b :: rest => (false, rest)
  | bs => (false, bs)

/-- The exponent at the end of a literal. -/
def exponent? : Bytes → Option Int
  | [] => some 0
  | b :: rest =>
    if lower b = 0x65 then
      let (negative, ds) := readSign rest
      (Decimal.digits? ds).map fun n => if negative then -(n : Int) else n
    else none

/-- The value of a decimal literal without its sign. -/
def decimal? (negative : Bool) (bs : Bytes) : Option Binary64 := do
  let (whole, rest) := bs.span Decimal.isDigit
  let (fraction, rest) := match rest with
    | 0x2e :: rest => rest.span Decimal.isDigit
    | rest => ([], rest)
  if whole.isEmpty && fraction.isEmpty then none
  else
    let e ← exponent? rest
    pure (Binary64.ofDecimal negative (Decimal.value (whole ++ fraction)) (e - fraction.length))

/-- The number that a text spells, not necessarily a finite one. -/
def number? (s : String) : Option Binary64 :=
  let (negative, bs) := readSign (bytesOf s)
  let word := bs.map lower
  if word = bytesOf "inf" ∨ word = bytesOf "infinity" then some (.infinity negative)
  else if word = bytesOf "nan" then some .notANumber
  else decimal? negative bs

/-- The coordinate that a text spells. -/
def ofText? (s : String) : Option Binary64 := (number? (Blank.trim s)).filter Binary64.isFinite

end MapScout.Coordinate
