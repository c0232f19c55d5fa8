import MapScout.Number.Power
import MapScout.Text.Hex
/-!
# Binary floating point with 64 bits

Coordinates are IEEE-754 numbers that this library reads, keeps and writes but never computes with,
so a coordinate is its bit pattern.  `ofRatio` rounds an exact quotient to the nearest number, a tie
going to the even one; `shortest?` gives the shortest decimal that reads back as the number, the
nearest of these.
-/

namespace MapScout

/-- A floating-point number, given by its bit pattern: sign, eleven bits of exponent, 52 of
fraction. -/
structure Binary64 where
  bits : UInt64
  deriving DecidableEq, Repr, Inhabited

namespace Binary64

def zero : Binary64 := ⟨0⟩

def isNegative (x : Binary64) : Bool := x.bits.toNat / twoTo 63 = 1

/-- The eleven bits of the exponent. -/
def exponentField (x : Binary64) : Nat := x.bits.toNat / twoTo 52 % twoTo 11

/-- The 52 bits of the fraction. -/
def fractionField (x : Binary64) : Nat := x.bits.toNat % twoTo 52

/-- Neither infinite nor not-a-number. -/
def isFinite (x : Binary64) : Bool := x.exponentField != 2047

/-- The magnitude of a finite number is `mantissa * 2 ^ power`. -/
def mantissa (x : Binary64) : Nat :=
  if x.exponentField = 0 then x.fractionField else x.fractionField + twoTo 52

/-- The magnitude of a finite number is `mantissa * 2 ^ power`. -/
def power (x : Binary64) : Int := (max x.exponentField 1 : Nat) - 1075

/-- Puts a sign in front of the bits of a magnitude. -/
def signed (negative : Bool) (magnitude : Nat) : Binary64 :=
  ⟨UInt64.ofNat (if negative then twoTo 63 + magnitude else magnitude)⟩

def infinity (negative : Bool) : Binary64 := signed negative (2047 * twoTo 52)

def notANumber : Binary64 := signed false (2047 * twoTo 52 + twoTo 51)

/-- The quotient rounded to the nearest whole number, a half to the even one. -/
def roundDiv (num den : Nat) : Nat :=
  let q := num / den
  let r := num % den
  if 2 * r < den then q else if 2 * r > den then q + 1 else q + q % 2

/-- The exponent `e` for which `2 ^ e ≤ num / den < 2 ^ (e + 1)`. -/
def binaryExponent (num den : Nat) : Int :=
  let e : Int := (Nat.log2 num : Int) - Nat.log2 den
  if num * twoTo (-e).toNat < den * twoTo e.toNat then e - 1 else e

/-- The number nearest to `num / den`, a tie going to the even one; infinite when the quotient is
past the largest number by half a unit or more. -/
def ofRatio (negative : Bool) (num den : Nat) : Binary64 :=
  if num = 0 ∨ den = 0 then signed negative 0
  else
    -- the weight of the last bit that is kept
    let unit : Int := max (binaryExponent num den - 52) (-1074)
    let m := roundDiv (num * twoTo (-unit).toNat) (den * twoTo unit.toNat)
    -- a carry out of the fraction steps the exponent, which is what the sum does
    let magnitude := if m < twoTo 52 then m else (unit + 1074).toNat * twoTo 52 + m
    if magnitude < 2047 * twoTo 52 then signed negative magnitude else infinity negative

/-- How many decimal digits a number has; one for zero. -/
def decimalLength (n : Nat) : Nat := (Nat.toDigits 10 n).length

/-- The number nearest to `significand * 10 ^ exponent`.  Decimals far outside the range are
settled by their size alone. -/
def ofDecimal (negative : Bool) (significand : Nat) (exponent : Int) : Binary64 :=
  if significand = 0 then signed negative 0
  else
    let scale : Int := decimalLength significand + exponent
    if scale > 310 then infinity negative
    else if scale < -330 then signed negative 0
    else ofRatio negative (significand * tenTo exponent.toNat) (tenTo (-exponent).toNat)

/-- A decimal `digits * 10 ^ exponent`. -/
structure Scientific where
  digits : Nat
  exponent : Int
  deriving DecidableEq, Repr, Inhabited

/-- The exponent `e` for which `10 ^ e ≤ num / den < 10 ^ (e + 1)`. -/
def decimalExponent (num den : Nat) : Int :=
  if den ≤ num then (decimalLength (num / den) : Int) - 1
  else
    let j := decimalLength (den / num)
    if den ≤ num * tenTo (j - 1) then -((j - 1 : Nat) : Int) else -(j : Int)

/-- The magnitude of a finite number as an exact quotient. -/
def ratio (x : Binary64) : Nat × Nat :=
  (x.mantissa * twoTo x.power.toNat, twoTo (-x.power).toNat)

/-- Whether a decimal, with the number's own sign, reads back as the number. -/
def readsBack (x : Binary64) (d : Scientific) : Bool :=
  ofDecimal x.isNegative d.digits d.exponent = x

/-- The two neighbours of the number on the grid of decimals with `count` digits, the nearer first;
of two equally near ones the even one comes first. -/
def neighbours (x : Binary64) (count : Nat) : List Scientific :=
  let (num, den) := x.ratio
  let step : Int := decimalExponent num den - (count : Int) + 1
  let scaledNum := num * tenTo (-step).toNat
  let scaledDen := den * tenTo step.toNat
  let below := scaledNum / scaledDen
  let nearest := roundDiv scaledNum scaledDen
  let other := if nearest = below then below + 1 else below
  [⟨nearest, step⟩, ⟨other, step⟩]

/-- Drops trailing zeros from the digits. -/
def Scientific.trim (d : Scientific) : Scientific :=
  if h : d.digits ≠ 0 ∧ d.digits % 10 = 0 then trim ⟨d.digits / 10, d.exponent + 1⟩ else d
termination_by d.digits
decreasing_by omega

/-- The first decimal that reads back when one to seventeen digits are tried in turn, the nearest
first. -/
def shortest? (x : Binary64) : Option Scientific :=
  if x.mantissa = 0 then some ⟨0, 0⟩
  else ((List.range 17).flatMap fun n => x.neighbours (n + 1)).find? x.readsBack |>.map
    Scientific.trim

/-- The shortest decimal of a finite number; the exact one, should none be found. -/
def shortest (x : Binary64) : Scientific :=
  x.shortest?.getD <|
    if 0 ≤ x.power then ⟨x.mantissa * twoTo x.power.toNat, 0⟩
    else ⟨x.mantissa * Nat.pow 5 (-x.power).toNat, x.power⟩

/-- The sixteen hexadecimal digits of the bit pattern. -/
def hex (x : Binary64) : String := String.ofList (Hex.digits 16 x.bits.toNat)

end Binary64

end MapScout
