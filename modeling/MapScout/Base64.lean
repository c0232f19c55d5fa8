import MapScout.Text.Utf8
/-!
# Base64

Bodies travel as base64 text with the standard alphabet and padding.  Reading is strict: the padding
has to be there, the bits that the last symbol does not use have to be zero, and nothing else may
stand in the text.  An error says which byte is at fault.
-/

namespace MapScout.Base64

def pad : UInt8 := 0x3d

/-- The symbol of a six-bit value. -/
def symbol (n : Nat) : UInt8 :=
  if n < 26 then UInt8.ofNat (0x41 + n)
  else if n < 52 then UInt8.ofNat (0x61 + (n - 26))
  else if n < 62 then UInt8.ofNat (0x30 + (n - 52))
  else if n = 62 then 0x2b
  else 0x2f

/-- The value of a symbol. -/
def value? (b : UInt8) : Option Nat :=
  if 0x41 ≤ b && b ≤ 0x5a then some (b.toNat - 0x41)
  else if 0x61 ≤ b && b ≤ 0x7a then some (b.toNat - 0x61 + 26)
  else if 0x30 ≤ b && b ≤ 0x39 then some (b.toNat - 0x30 + 52)
  else if b = 0x2b then some 62
  else if b = 0x2f then some 63
  else none

/-- Three bytes make four symbols; padding fills up the last four. -/
def encode : Bytes → Bytes
  | [] => []
  | [a] =>
    [symbol (a.toNat / 4), symbol (a.toNat % 4 * 16), pad, pad]
  | [a, b] =>
    [symbol (a.toNat / 4), symbol (a.toNat % 4 * 16 + b.toNat / 16), symbol (b.toNat % 16 * 4), pad]
  | a :: b :: c :: rest =>
    symbol (a.toNat / 4) :: symbol (a.toNat % 4 * 16 + b.toNat / 16) ::
      symbol (b.toNat % 16 * 4 + c.toNat / 64) :: symbol (c.toNat % 64) :: encode rest

/-- The symbols of some bytes as a string. -/
def encodeText (bs : Bytes) : String := (Utf8.decode? (encode bs)).getD ""

/-- Why a text is not base64. -/
inductive DecodeError where
  /-- A byte that may not stand where it stands. -/
  | invalidByte (offset : Nat) (byte : UInt8)
  /-- A length that leaves a lone symbol. -/
  | invalidLength
  /-- Unused bits of the last symbol are set. -/
  | invalidLastSymbol (offset : Nat) (byte : UInt8)
  | invalidPadding
  deriving DecidableEq, Repr

def DecodeError.message : DecodeError → String
  | .invalidByte offset byte => s!"Invalid byte {byte.toNat}, offset {offset}."
  | .invalidLength => "Encoded text cannot have a 6-bit remainder."
  | .invalidLastSymbol offset byte => s!"Invalid last symbol {byte.toNat}, offset {offset}."
  | .invalidPadding => "Invalid padding"

/-- Where the part of a text starts in which padding may stand: at the last multiple of eight
below its length. -/
def tailStart (length : Nat) : Nat := if length = 0 then 0 else (length - 1) / 8 * 8

/-- The first byte that is no symbol, with its offset. -/
def firstInvalid? (offset : Nat) : Bytes → Option (Nat × UInt8)
  | [] => none
  | b :: rest => if (value? b).isNone then some (offset, b) else firstInvalid? (offset + 1) rest

/-- Checks the tail of a text.  `seen` counts its bytes so far, `firstPad` is the offset in the
tail of the first padding byte. -/
def checkTail (start seen : Nat) (firstPad : Option Nat) : Bytes → Except DecodeError Unit
  | [] => if seen % 4 = 0 then .ok () else .error .invalidPadding
  | b :: rest =>
    if b = pad then
      if seen % 4 < 2 then .error (.invalidByte (start + firstPad.getD seen) b)
      else checkTail start (seen + 1) (some (firstPad.getD seen)) rest
    else match firstPad with
      | some i => .error (.invalidByte (start + i) pad)
      | none =>
        if (value? b).isNone then .error (.invalidByte (start + seen) b)
        else checkTail start (seen + 1) none rest

/-- The bytes that groups of four six-bit values stand for; a last group of two or three stands for
one or two bytes. -/
def unpack : List Nat → Bytes
  | a :: b :: c :: d :: rest =>
    UInt8.ofNat (a * 4 + b / 16) :: UInt8.ofNat (b % 16 * 16 + c / 4) ::
      UInt8.ofNat (c % 4 * 64 + d) :: unpack rest
  | [a, b, c] => [UInt8.ofNat (a * 4 + b / 16), UInt8.ofNat (b % 16 * 16 + c / 4)]
  | [a, b] => [UInt8.ofNat (a * 4 + b / 16)]
  | _ => []

/-- The bits of the last value that stand for nothing. -/
def unusedBits (values : List Nat) : Nat :=
  let last := values.getLast?.getD 0
  if values.length % 4 = 2 then last % 16
  else if values.length % 4 = 3 then last % 4
  else 0

/-- Reads base64 text.  The errors are looked for in this order: the length, the part before the
tail, the tail, its padding, and the unused bits. -/
def decode (bs : Bytes) : Except DecodeError Bytes := do
  let n := bs.length
  let last := bs.getLast?.getD 0
  if n % 4 = 1 then
    if last != pad && (value? last).isNone then throw (.invalidByte (n - 1) last)
    else throw .invalidLength
  let start := tailStart n
  if let some (offset, byte) := firstInvalid? 0 (bs.take start) then
    throw (.invalidByte offset byte)
  checkTail start 0 none (bs.drop start)
  let symbols := bs.filter (· != pad)
  let values := symbols.filterMap value?
  if unusedBits values ≠ 0 then
    throw (.invalidLastSymbol (symbols.length - 1) (symbols.getLast?.getD 0))
  pure (unpack values)

end MapScout.Base64
