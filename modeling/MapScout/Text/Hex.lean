import MapScout.Text.Utf8
/-!
# Hexadecimal digits

Bytes and words in hexadecimal, two lower-case digits a byte.  Reading accepts both cases.
-/

namespace MapScout.Hex

/-- The lower-case digit of a value below sixteen. -/
def digit (n : Nat) : Char := (Nat.digitChar (n % 16))

/-- The value of a hexadecimal digit given as an ASCII byte. -/
def value? (b : UInt8) : Option Nat :=
  if 0x30 ≤ b && b ≤ 0x39 then some (b.toNat - 0x30)
  else if 0x61 ≤ b && b ≤ 0x66 then some (b.toNat - 0x61 + 10)
  else if 0x41 ≤ b && b ≤ 0x46 then some (b.toNat - 0x41 + 10)
  else none

/-- The lowest `width` hexadecimal digits of a number, most significant first. -/
def digits : Nat → Nat → List Char
  | 0, _ => []
  | width + 1, n => digits width (n / 16) ++ [digit n]

/-- All bytes, two digits each. -/
def ofBytes (bs : Bytes) : String := String.ofList (bs.flatMap fun b => digits 2 b.toNat)

/-- The bytes written in hexadecimal, if the text is made of pairs of digits. -/
def decode? : Bytes → Option Bytes
  | [] => some []
  | [_] => none
  | a :: b :: rest => do
    let hi ← value? a
    let lo ← value? b
    let tail ← decode? rest
    pure (UInt8.ofNat (hi * 16 + lo) :: tail)

end MapScout.Hex
