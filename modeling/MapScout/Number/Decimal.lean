import MapScout.Number.Power
import MapScout.Text.Utf8
/-!
# Whole numbers in decimal

Writing a natural number, and reading one as settings and headers give it: digits only, an optional
plus sign in front, leading zeros allowed, and an upper bound.
-/

namespace MapScout.Decimal

/-- The decimal digits of a number as ASCII bytes, no leading zero. -/
def encode (n : Nat) : Bytes := (Nat.toDigits 10 n).map fun c => UInt8.ofNat c.toNat

def isDigit (b : UInt8) : Bool := 0x30 ≤ b && b ≤ 0x39

/-- The value of a digit, given as an ASCII byte. -/
def digitValue (b : UInt8) : Nat := b.toNat - 0x30

/-- The number that a run of digits spells after `acc`. -/
def valueFrom (acc : Nat) (ds : Bytes) : Nat := ds.foldl (fun n d => n * 10 + digitValue d) acc

/-- The number that a run of digits spells. -/
def value (ds : Bytes) : Nat := valueFrom 0 ds

/-- One or more digits and nothing else. -/
def digits? (ds : Bytes) : Option Nat :=
  if ds.isEmpty || !ds.all isDigit then none else some (value ds)

/-- A number below `bound`: digits after an optional plus sign. -/
def below? (bound : Nat) (s : String) : Option Nat := do
  let n ← match bytesOf s with
    | 0x2b :: ds => digits? ds
    | ds => digits? ds
  if n < bound then some n else none

/-- A 64-bit number as settings and headers give it. -/
def word64? (s : String) : Option UInt64 := (below? (twoTo 64) s).map UInt64.ofNat

end MapScout.Decimal
