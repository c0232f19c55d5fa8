import Mathlib.Data.Nat.Basic
import MapScout.Number.Decimal

/-!
# Decimal digits

The digits that are written for a number are digits, there is at least one of them, a zero in front
is the only one, and their value is the number.
-/

namespace MapScout.Decimal

def digitByte (d : Nat) : UInt8 := UInt8.ofNat (0x30 + d)

theorem ofNat_digitChar {d : Nat} (h : d < 10) :
    UInt8.ofNat (Nat.digitChar d).toNat = digitByte d := by
  have hall : ∀ d < 10, UInt8.ofNat (Nat.digitChar d).toNat = digitByte d := by decide
  exact hall d h

theorem isDigit_digitByte {d : Nat} (h : d < 10) : isDigit (digitByte d) = true := by
  have hall : ∀ d < 10, isDigit (digitByte d) = true := by decide
  exact hall d h

theorem digitValue_digitByte {d : Nat} (h : d < 10) : digitValue (digitByte d) = d := by
  have hall : ∀ d < 10, digitValue (digitByte d) = d := by decide
  exact hall d h

/-! ## Writing -/

theorem encode_of_lt {n : Nat} (h : n < 10) : encode n = [digitByte n] := by
  rw [encode, Nat.toDigits_of_lt_base h, List.map_singleton, ofNat_digitChar h]

theorem encode_of_le {n : Nat} (h : 10 ≤ n) :
    encode n = encode (n / 10) ++ [digitByte (n % 10)] := by
  rw [encode, Nat.toDigits_of_base_le (by decide) h, List.map_append, List.map_singleton,
    ofNat_digitChar (Nat.mod_lt n (by decide)), encode]

theorem encode_ne_nil (n : Nat) : encode n ≠ [] := by
  rw [encode, ne_eq, List.map_eq_nil_iff]
  exact Nat.toDigits_ne_nil

/-- All that is written for a number are digits. -/
theorem isDigit_of_mem_encode {n : Nat} : ∀ b ∈ encode n, isDigit b = true := by
  induction n using Nat.strong_induction_on with
  | _ n ih =>
      rcases Nat.lt_or_ge n 10 with h | h
      · rw [encode_of_lt h]
        simpa using isDigit_digitByte h
      · rw [encode_of_le h]
        intro b hb
        rcases List.mem_append.mp hb with hb | hb
        · exact ih (n / 10) (by omega) b hb
        · rw [List.mem_singleton.mp hb]
          exact isDigit_digitByte (Nat.mod_lt n (by decide))

/-- Only zero is written with a zero in front. -/
theorem head?_encode {n : Nat} (h : 0 < n) : (encode n).head? ≠ some 0x30 := by
  induction n using Nat.strong_induction_on with
  | _ n ih =>
      rcases Nat.lt_or_ge n 10 with hlt | hge
      · have hall : ∀ d < 10, 0 < d → digitByte d ≠ 0x30 := by decide
        rw [encode_of_lt hlt, List.head?_cons, ne_eq, Option.some.injEq]
        exact hall n hlt h
      · have hhead := ih (n / 10) (by omega) (by omega)
        rw [encode_of_le hge, List.head?_append]
        cases hdigits : encode (n / 10) with
        | nil => exact absurd hdigits (encode_ne_nil _)
        | cons d ds => rwa [hdigits] at hhead

/-! ## Values -/

theorem value_append_singleton (ds : Bytes) (d : UInt8) :
    value (ds ++ [d]) = value ds * 10 + digitValue d := by
  rw [value, value, valueFrom, valueFrom, List.foldl_append]
  rfl

/-- A number is read back from its digits. -/
theorem value_encode (n : Nat) : value (encode n) = n := by
  induction n using Nat.strong_induction_on with
  | _ n ih =>
      rcases Nat.lt_or_ge n 10 with h | h
      · rw [encode_of_lt h]
        change 0 * 10 + digitValue (digitByte n) = n
        rw [digitValue_digitByte h, Nat.zero_mul, Nat.zero_add]
      · rw [encode_of_le h, value_append_singleton, ih (n / 10) (by omega),
          digitValue_digitByte (Nat.mod_lt n (by decide)), Nat.div_add_mod']

/-- Zeros in front do not change the value. -/
theorem value_zeros_append (k : Nat) (ds : Bytes) :
    value (List.replicate k 0x30 ++ ds) = value ds := by
  induction k with
  | zero => rfl
  | succ k ih => exact ih

end MapScout.Decimal
