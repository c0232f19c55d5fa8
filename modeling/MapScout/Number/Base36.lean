/-!
# Base 36

Encounters are numbered by 64-bit words and named by those words in base 36, digits `0` to `9` and
then `a` to `z`, most significant first and without leading zeros.
-/

namespace MapScout.Base36

/-- The digit of a value below 36. -/
def digit (n : Nat) : Char :=
  if n < 10 then Char.ofNat (0x30 + n) else Char.ofNat (0x61 + (n - 10))

/-- The value of a digit. -/
def digitValue? (c : Char) : Option Nat :=
  if '0' ≤ c ∧ c ≤ '9' then some (c.toNat - 0x30)
  else if 'a' ≤ c ∧ c ≤ 'z' then some (c.toNat - 0x61 + 10)
  else none

/-- The digits of a positive number, put in front of `acc`; none for zero. -/
def digitsOnto (acc : List Char) (n : Nat) : List Char :=
  if h : n = 0 then acc else digitsOnto (digit (n % 36) :: acc) (n / 36)
termination_by n
decreasing_by omega

/-- The name of an encounter. -/
def encode (n : UInt64) : String :=
  String.ofList (if n = 0 then ['0'] else digitsOnto [] n.toNat)

/-- Reads a number back, if every character is a digit. -/
def value? (s : String) : Option Nat :=
  s.toList.foldlM (fun n c => (digitValue? c).map (n * 36 + ·)) 0

end MapScout.Base36
