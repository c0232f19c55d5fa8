import MapScout.Number.Power
/-!
# Bytes and UTF-8 text

Frames, bodies and files are lists of bytes.  `String.bytes` writes a string as UTF-8, `Utf8.decode?`
reads it back and refuses everything else, and `Utf8.decodeLossy` reads any bytes at all: every
maximal ill-formed piece becomes one replacement character.
-/

namespace MapScout

abbrev Bytes := List UInt8

/-- The UTF-8 bytes of a string. -/
def bytesOf (s : String) : Bytes := s.toUTF8.toList

namespace Utf8

/-- The string that the bytes spell, if they are well-formed UTF-8. -/
def decode? (bs : Bytes) : Option String := String.fromUTF8? ⟨bs.toArray⟩

/-- What stands in for a piece that is not UTF-8. -/
def replacement : Char := '\ufffd'

/-- Bytes of the form `10xxxxxx` within the given bounds. -/
def isContinuation (lo hi : UInt8) (b : UInt8) : Bool := lo ≤ b && b ≤ hi

/-- How many more bytes a lead byte asks for, and the bounds on the first of them.  The bounds
shut out overlong forms, surrogates and values above the last code point. -/
def lead? (b : UInt8) : Option (Nat × UInt8 × UInt8) :=
  if 0xc2 ≤ b && b ≤ 0xdf then some (1, 0x80, 0xbf)
  else if b = 0xe0 then some (2, 0xa0, 0xbf)
  else if b = 0xed then some (2, 0x80, 0x9f)
  else if 0xe1 ≤ b && b ≤ 0xef then some (2, 0x80, 0xbf)
  else if b = 0xf0 then some (3, 0x90, 0xbf)
  else if 0xf1 ≤ b && b ≤ 0xf3 then some (3, 0x80, 0xbf)
  else if b = 0xf4 then some (3, 0x80, 0x8f)
  else none

/-- The payload of a lead byte that asks for `more` bytes. -/
def leadBits (more : Nat) (b : UInt8) : Nat := b.toNat % twoTo (6 - more)

/-- Takes up to `more` continuation bytes, adding their payload to `value`.  The flag says whether
all of them were there. -/
def takeContinuations (value : Nat) : Nat → UInt8 → UInt8 → Bytes → Nat × Bool × Bytes
  | 0, _, _, rest => (value, true, rest)
  | _ + 1, _, _, [] => (value, false, [])
  | more + 1, lo, hi, b :: rest =>
    if isContinuation lo hi b then
      takeContinuations (value * 64 + b.toNat % 64) more 0x80 0xbf rest
    else (value, false, b :: rest)

/-- The first character of the bytes and what follows it. -/
def next (b : UInt8) (rest : Bytes) : Char × Bytes :=
  if b < 0x80 then (Char.ofNat b.toNat, rest)
  else match lead? b with
    | none => (replacement, rest)
    | some (more, lo, hi) =>
      match takeContinuations (leadBits more b) more lo hi rest with
      | (value, true, rest') => (Char.ofNat value, rest')
      | (_, false, rest') => (replacement, rest')

theorem takeContinuations_length_le (value more : Nat) (lo hi : UInt8) (bs : Bytes) :
    (takeContinuations value more lo hi bs).2.2.length ≤ bs.length := by
  induction more generalizing value lo hi bs with
  | zero => simp [takeContinuations]
  | succ more ih =>
    cases bs with
    | nil => simp [takeContinuations]
    | cons b rest =>
      simp only [takeContinuations]
      split
      · exact Nat.le_succ_of_le (ih ..)
      · simp

theorem next_length_le (b : UInt8) (rest : Bytes) : (next b rest).2.length ≤ rest.length := by
  unfold next
  split
  · exact Nat.le_refl _
  · split
    · exact Nat.le_refl _
    · rename_i more lo hi _
      have h := takeContinuations_length_le (leadBits more b) more lo hi rest
      split <;> simp_all

/-- The characters of any bytes, ill-formed pieces replaced; `acc` holds those read so far,
last first. -/
def decodeLossyFrom (acc : List Char) : Bytes → List Char
  | [] => acc.reverse
  | b :: rest => decodeLossyFrom ((next b rest).1 :: acc) (next b rest).2
termination_by bs => bs.length
decreasing_by exact Nat.lt_succ_of_le (next_length_le b rest)

/-- Reads any bytes as text: every maximal ill-formed piece becomes one replacement character. -/
def decodeLossy (bs : Bytes) : String := String.ofList (decodeLossyFrom [] bs)

end Utf8

end MapScout
