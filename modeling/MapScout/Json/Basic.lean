import MapScout.Number.Binary64
import MapScout.Number.Decimal
import MapScout.Number.Power
/-!
# JSON values

A value as its text spells it.  Numbers keep their literal, because whether a literal has a point or
an exponent decides where it may stand.  A string whose text is no Unicode text (a lone surrogate
escape, bytes that are not UTF-8) is kept as such: it is harmless in a value that nobody looks at.
-/

namespace MapScout

/-- A number as written: `±significand`, of which the last `places` digits follow the point, times
ten to the `exponent`. -/
structure Numeral where
  negative : Bool
  significand : Nat
  places : Option Nat
  exponent : Option Int
  deriving DecidableEq, Repr

/-- A JSON value. -/
inductive Json where
  | null
  | bool (b : Bool)
  | number (n : Numeral)
  | string (text : Option String)
  | array (items : List Json)
  | object (members : List (Option String × Json))
  deriving Repr, Inhabited

namespace Numeral

def ofNat (n : Nat) : Numeral := ⟨false, n, none, none⟩

def ofInt (n : Int) : Numeral := ⟨n < 0, n.natAbs, none, none⟩

/-- The value of a literal without point and exponent.  A minus sign in front of zero makes the
literal a floating-point one. -/
def integer? (n : Numeral) : Option Int :=
  match n.places, n.exponent with
  | none, none =>
    if n.negative then (if n.significand = 0 then none else some (-n.significand))
    else some n.significand
  | _, _ => none

/-- The floating-point number nearest to a literal; none when it is out of range. -/
def binary64? (n : Numeral) : Option Binary64 :=
  let x := Binary64.ofDecimal n.negative n.significand (n.exponent.getD 0 - n.places.getD 0)
  if x.isFinite then some x else none

/-- Where floating-point numbers change from positional to scientific notation. -/
structure FloatLayout where
  /-- The least decimal exponent that is written positionally. -/
  least : Int
  /-- The greatest decimal exponent that is written positionally. -/
  greatest : Int

/-- Numbers from 0.00001 up to 10^16 are written positionally. -/
def floatLayout : FloatLayout := ⟨-5, 15⟩

/-- The literal of a finite number: its shortest digits, at least one of them after the point when
written positionally. -/
def ofBinary64 (x : Binary64) : Numeral :=
  let d := x.shortest
  let length := Binary64.decimalLength d.digits
  let e := d.exponent + (length - 1 : Nat)
  if floatLayout.least ≤ e ∧ e ≤ floatLayout.greatest then
    if 0 ≤ d.exponent then ⟨x.isNegative, d.digits * tenTo (d.exponent.toNat + 1), some 1, none⟩
    else ⟨x.isNegative, d.digits, some (-d.exponent).toNat, none⟩
  else ⟨x.isNegative, d.digits, if length = 1 then none else some (length - 1), some e⟩

end Numeral

namespace Json

/-- A string that is Unicode text. -/
def text (s : String) : Json := .string (some s)

def nat (n : Nat) : Json := .number (.ofNat n)

def int (n : Int) : Json := .number (.ofInt n)

def float (x : Binary64) : Json := .number (.ofBinary64 x)

/-- An object with the given members in order. -/
def fields (members : List (String × Json)) : Json :=
  .object (members.map fun (k, v) => (some k, v))

def bool? : Json → Option Bool
  | .bool b => some b
  | _ => none

def text? : Json → Option String
  | .string s => s
  | _ => none

def integer? : Json → Option Int
  | .number n => n.integer?
  | _ => none

/-- A whole number below `bound`. -/
def natBelow? (bound : Nat) (j : Json) : Option Nat := do
  let n ← j.integer?
  if 0 ≤ n ∧ n < bound then some n.toNat else none

def uint8? (j : Json) : Option UInt8 := (j.natBelow? (twoTo 8)).map UInt8.ofNat

def uint16? (j : Json) : Option UInt16 := (j.natBelow? (twoTo 16)).map UInt16.ofNat

def uint32? (j : Json) : Option UInt32 := (j.natBelow? (twoTo 32)).map UInt32.ofNat

def uint64? (j : Json) : Option UInt64 := (j.natBelow? (twoTo 64)).map UInt64.ofNat

/-- A whole number from -2^63 up to 2^63 - 1. -/
def int64? (j : Json) : Option Int64 := do
  let n ← j.integer?
  if -twoTo 63 ≤ n ∧ n < twoTo 63 then some (Int64.ofInt n) else none

def float? : Json → Option Binary64
  | .number n => n.binary64?
  | _ => none

/-- An array whose items can all be read. -/
def list? {α : Type} (item? : Json → Option α) : Json → Option (List α)
  | .array items => items.mapM item?
  | _ => none

/-- `null`, or a value that can be read. -/
def option? {α : Type} (value? : Json → Option α) : Json → Option (Option α)
  | .null => some none
  | j => (value? j).map some

end Json

end MapScout
