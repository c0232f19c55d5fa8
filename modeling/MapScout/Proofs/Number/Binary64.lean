import Mathlib.Algebra.Order.Field.Power
import Mathlib.Data.Int.Log
import Mathlib.Data.Rat.Floor
import Mathlib.Tactic.FieldSimp
import Mathlib.Tactic.NormNum
import MapScout.Json.Basic

/-!
# Floating-point literals

The literal that is written for a finite number is read as that number.  A quotient is rounded by
its value alone, so zeros may be moved between the digits of a decimal and its exponent.  The
shortest decimal was found by reading it back; the exact one, which stands in for it otherwise, is
never rounded at all.
-/

namespace MapScout

theorem twoTo_eq (k : Nat) : twoTo k = 2 ^ k := rfl

theorem tenTo_eq (k : Nat) : tenTo k = 10 ^ k := rfl

namespace Binary64

/-! ## Fields of a number -/

theorem fractionField_lt (x : Binary64) : x.fractionField < twoTo 52 :=
  Nat.mod_lt _ (by decide)

theorem exponentField_lt {x : Binary64} (h : x.isFinite) : x.exponentField < 2047 := by
  have hlt : x.exponentField < twoTo 11 := Nat.mod_lt _ (by decide)
  have hne : x.exponentField ≠ 2047 := by simpa [isFinite] using h
  simp only [twoTo_eq] at hlt
  omega

/-- The bits are sign, exponent and fraction. -/
theorem toNat_bits (x : Binary64) :
    x.bits.toNat = (if x.isNegative then twoTo 63 else 0) +
      (x.exponentField * twoTo 52 + x.fractionField) := by
  have hlt : x.bits.toNat < 2 ^ 64 := x.bits.toNat_lt
  simp only [isNegative, exponentField, fractionField, decide_eq_true_eq, twoTo_eq]
  split <;> omega

/-- A number is its sign in front of its fields. -/
theorem signed_fields (x : Binary64) :
    signed x.isNegative (x.exponentField * twoTo 52 + x.fractionField) = x := by
  have hbits := toNat_bits x
  have hnumber : (if x.isNegative then twoTo 63 + (x.exponentField * twoTo 52 + x.fractionField)
      else x.exponentField * twoTo 52 + x.fractionField) = x.bits.toNat := by
    split at hbits <;> simp_all
  rw [signed, hnumber, UInt64.ofNat_toNat]

theorem mantissa_lt (x : Binary64) : x.mantissa < twoTo 53 := by
  have hlt := x.fractionField_lt
  rw [mantissa]
  simp only [twoTo_eq] at hlt ⊢
  split <;> omega

/-! ## Sizes -/

theorem decimalLength_le_iff {n k : Nat} (hk : 0 < k) : decimalLength n ≤ k ↔ n < tenTo k :=
  Nat.length_toDigits_le_iff (by decide) hk

theorem decimalLength_pos (n : Nat) : 0 < decimalLength n := Nat.length_toDigits_pos

theorem lt_tenTo_decimalLength (n : Nat) : n < tenTo (decimalLength n) :=
  (decimalLength_le_iff (decimalLength_pos n)).mp le_rfl

/-- A factor of ten is one more digit. -/
theorem decimalLength_mul_tenTo {n : Nat} (hn : 0 < n) (k : Nat) :
    decimalLength (n * tenTo k) = decimalLength n + k := by
  have hk : 0 < tenTo k := Nat.pow_pos (by decide)
  have hpos := decimalLength_pos n
  apply Nat.le_antisymm
  · rw [decimalLength_le_iff (by omega)]
    rw [tenTo_eq, tenTo_eq, Nat.pow_add]
    exact Nat.mul_lt_mul_of_pos_right (lt_tenTo_decimalLength n) hk
  · have hlt := lt_tenTo_decimalLength (n * tenTo k)
    generalize decimalLength (n * tenTo k) = length at hlt ⊢
    have hlength : k < length := by
      by_contra hle
      have hpow : tenTo length ≤ tenTo k := Nat.pow_le_pow_right (by decide) (by omega)
      have hmul : tenTo k ≤ n * tenTo k := Nat.le_mul_of_pos_left _ hn
      omega
    obtain ⟨m, rfl⟩ := Nat.exists_eq_add_of_le' hlength.le
    have hn' : n < tenTo m := by
      rw [tenTo_eq, tenTo_eq, Nat.pow_add] at hlt
      exact Nat.lt_of_mul_lt_mul_right hlt
    have hle := (decimalLength_le_iff (by omega)).mpr hn'
    omega

/-! ## Rounding a quotient -/

theorem cast_twoTo_toNat (e : Int) :
    ((twoTo e.toNat : Nat) : ℚ) = 2 ^ e * ((twoTo (-e).toNat : Nat) : ℚ) := by
  rw [twoTo_eq, twoTo_eq]
  push_cast
  rw [← zpow_natCast, ← zpow_natCast, ← zpow_add₀ (by norm_num)]
  congr 1
  omega

/-- The logarithm of what lies between two consecutive powers. -/
theorem log_two_eq {q : ℚ} {e : Int} (hq : 0 < q) (hlow : 2 ^ e ≤ q) (hhigh : q < 2 ^ (e + 1)) :
    Int.log 2 q = e := by
  have hlog : ∀ e : Int, (2 : ℚ) ^ e ≤ q ↔ e ≤ Int.log 2 q :=
    fun e => by simpa using Int.zpow_le_iff_le_log (b := 2) (by decide) hq
  have hge := (hlog e).mp hlow
  have hlt := mt (hlog (e + 1)).mpr (not_le.mpr hhigh)
  omega

/-- The binary exponent is that of the quotient's value. -/
theorem binaryExponent_eq_log {num den : Nat} (hnum : 0 < num) (hden : 0 < den) :
    binaryExponent num den = Int.log 2 ((num : ℚ) / den) := by
  have hden' : (0 : ℚ) < den := by exact_mod_cast hden
  have hq : (0 : ℚ) < (num : ℚ) / den := div_pos (by exact_mod_cast hnum) hden'
  -- the quotient lies within a factor of two of the power that the lengths suggest
  have hnum_le : (2 : ℚ) ^ (Nat.log2 num : Int) ≤ num := by
    exact_mod_cast Nat.log2_self_le hnum.ne'
  have hnum_lt : (num : ℚ) < 2 ^ ((Nat.log2 num : Int) + 1) := by
    exact_mod_cast @Nat.lt_log2_self num
  have hden_le : (2 : ℚ) ^ (Nat.log2 den : Int) ≤ den := by
    exact_mod_cast Nat.log2_self_le hden.ne'
  have hden_lt : (den : ℚ) < 2 ^ ((Nat.log2 den : Int) + 1) := by
    exact_mod_cast @Nat.lt_log2_self den
  rw [binaryExponent]
  generalize (Nat.log2 num : Int) = a at *
  generalize (Nat.log2 den : Int) = b at *
  have hlow : (2 : ℚ) ^ (a - b - 1) ≤ (num : ℚ) / den := by
    rw [le_div_iff₀ hden']
    calc (2 : ℚ) ^ (a - b - 1) * den ≤ 2 ^ (a - b - 1) * 2 ^ (b + 1) := by gcongr
      _ = 2 ^ a := by rw [← zpow_add₀ (by norm_num)]; congr 1; ring
      _ ≤ num := hnum_le
  have hhigh : (num : ℚ) / den < 2 ^ (a - b + 1) := by
    rw [div_lt_iff₀ hden']
    calc (num : ℚ) < 2 ^ (a + 1) := hnum_lt
      _ = 2 ^ (a - b + 1) * 2 ^ b := by rw [← zpow_add₀ (by norm_num)]; congr 1; ring
      _ ≤ 2 ^ (a - b + 1) * den := by gcongr
  have hcut : num * twoTo (-(a - b)).toNat < den * twoTo (a - b).toNat ↔
      (num : ℚ) / den < 2 ^ (a - b) := by
    have hpos : (0 : ℚ) < (twoTo (-(a - b)).toNat : Nat) := by
      exact_mod_cast Nat.pow_pos (by decide)
    rw [div_lt_iff₀ hden', ← Nat.cast_lt (α := ℚ), Nat.cast_mul, Nat.cast_mul,
      cast_twoTo_toNat (a - b), ← mul_assoc, mul_lt_mul_iff_left₀ hpos, mul_comm (den : ℚ)]
  rcases lt_or_ge ((num : ℚ) / den) (2 ^ (a - b)) with hlt | hge
  · rw [if_pos (hcut.mpr hlt), log_two_eq hq hlow (by rwa [sub_add_cancel])]
  · rw [if_neg (mt hcut.mp (not_lt.mpr hge)), log_two_eq hq hge hhigh]

/-- A common factor does not change a rounded quotient. -/
theorem roundDiv_mul_right {k : Nat} (hk : 0 < k) (num den : Nat) :
    roundDiv (num * k) (den * k) = roundDiv num den := by
  simp only [roundDiv, Nat.mul_div_mul_right _ _ hk, Nat.mul_mod_mul_right, gt_iff_lt,
    ← Nat.mul_assoc, Nat.mul_lt_mul_right hk]

theorem roundDiv_mul_self {k : Nat} (hk : 0 < k) (n : Nat) : roundDiv (n * k) k = n := by
  simp [roundDiv, Nat.mul_div_cancel _ hk, hk]

/-- A common factor does not matter to the rounding of a quotient. -/
theorem ofRatio_mul_right (negative : Bool) {k : Nat} (hk : 0 < k) (num den : Nat) :
    ofRatio negative (num * k) (den * k) = ofRatio negative num den := by
  simp only [ofRatio, Nat.mul_eq_zero, hk.ne', or_false]
  split
  next => rfl
  next hpos =>
    obtain ⟨hnum, hden⟩ := not_or.mp hpos
    have hk' : (k : ℚ) ≠ 0 := by exact_mod_cast hk.ne'
    have hexponent : binaryExponent (num * k) (den * k) = binaryExponent num den := by
      rw [binaryExponent_eq_log (by positivity) (by positivity),
        binaryExponent_eq_log (by positivity) (by positivity), Nat.cast_mul, Nat.cast_mul,
        mul_div_mul_right _ _ hk']
    simp only [hexponent, Nat.mul_right_comm _ k, roundDiv_mul_right hk]

/-! ## Decimals -/

/-- Zeros at the end of the digits may as well stand in the exponent. -/
theorem ofDecimal_mul_tenTo (negative : Bool) (significand k : Nat) (exponent : Int) :
    ofDecimal negative (significand * tenTo k) exponent =
      ofDecimal negative significand (exponent + k) := by
  have hk : tenTo k ≠ 0 := (Nat.pow_pos (by decide)).ne'
  simp only [ofDecimal, Nat.mul_eq_zero, hk, or_false]
  split
  next => rfl
  next hsignificand =>
    have hscale : (decimalLength (significand * tenTo k) : Int) + exponent =
        decimalLength significand + (exponent + k) := by
      rw [decimalLength_mul_tenTo (Nat.pos_of_ne_zero hsignificand)]
      push_cast
      ring
    -- the power of ten by which both sides of the quotient were reduced
    obtain ⟨m, hm⟩ : ∃ m, (-exponent).toNat = (-(exponent + k)).toNat + m :=
      Nat.exists_eq_add_of_le (by omega)
    have hpow : k + exponent.toNat = (exponent + k).toNat + m := by omega
    have hnum : significand * tenTo k * tenTo exponent.toNat =
        significand * tenTo (exponent + k).toNat * tenTo m := by
      simp only [tenTo_eq, Nat.mul_assoc, ← Nat.pow_add, hpow]
    have hden : tenTo (-exponent).toNat = tenTo (-(exponent + k)).toNat * tenTo m := by
      rw [hm, tenTo_eq, tenTo_eq, tenTo_eq, Nat.pow_add]
    have hm' : 0 < tenTo m := Nat.pow_pos (by decide)
    rw [hscale, hnum, hden, ofRatio_mul_right negative hm']

/-- Zeros at the end change nothing. -/
theorem ofDecimal_trim (negative : Bool) (d : Scientific) :
    ofDecimal negative d.trim.digits d.trim.exponent = ofDecimal negative d.digits d.exponent := by
  induction d using Scientific.trim.induct with
  | case1 d h ih =>
      have hdigits : d.digits / 10 * tenTo 1 = d.digits :=
        Nat.div_mul_cancel (Nat.dvd_of_mod_eq_zero h.2)
      have hshift := ofDecimal_mul_tenTo negative (d.digits / 10) 1 d.exponent
      rw [hdigits] at hshift
      rw [Scientific.trim, dif_pos h, ih, hshift, Nat.cast_one]
  | case2 d h => rw [Scientific.trim, dif_neg h]

/-! ## The number itself -/

/-- A finite number with a magnitude of zero is a signed zero. -/
theorem signed_zero_of_mantissa {x : Binary64} (h : x.mantissa = 0) :
    signed x.isNegative 0 = x := by
  have hfields := x.signed_fields
  have hexponent : x.exponentField = 0 := by
    by_contra hne
    rw [mantissa, if_neg hne] at h
    exact absurd (Nat.eq_zero_of_add_eq_zero_left h) (Nat.pow_pos (by decide)).ne'
  rw [mantissa, if_pos hexponent] at h
  rwa [hexponent, h] at hfields

theorem ratio_pos {x : Binary64} (h : x.mantissa ≠ 0) : 0 < x.ratio.1 ∧ 0 < x.ratio.2 :=
  ⟨Nat.mul_pos (Nat.pos_of_ne_zero h) (Nat.pow_pos (by decide)), Nat.pow_pos (by decide)⟩

/-- The binary exponent of a number's own quotient. -/
theorem binaryExponent_ratio {x : Binary64} (h : x.mantissa ≠ 0) :
    binaryExponent x.ratio.1 x.ratio.2 = Nat.log2 x.mantissa + x.power := by
  have hpos : (0 : ℚ) < x.mantissa := by exact_mod_cast Nat.pos_of_ne_zero h
  have hvalue : (x.ratio.1 : ℚ) / x.ratio.2 = x.mantissa * 2 ^ x.power := by
    have hden : (0 : ℚ) < x.ratio.2 := by exact_mod_cast (ratio_pos h).2
    rw [div_eq_iff hden.ne', ratio, Nat.cast_mul, cast_twoTo_toNat, mul_assoc]
  have hlow : (2 : ℚ) ^ (Nat.log2 x.mantissa : Int) ≤ x.mantissa := by
    exact_mod_cast Nat.log2_self_le h
  have hhigh : (x.mantissa : ℚ) < 2 ^ ((Nat.log2 x.mantissa : Int) + 1) := by
    exact_mod_cast @Nat.lt_log2_self x.mantissa
  rw [binaryExponent_eq_log (ratio_pos h).1 (ratio_pos h).2, hvalue]
  apply log_two_eq (by positivity)
  · rw [zpow_add₀ (by norm_num)]
    gcongr
  · rw [add_right_comm, zpow_add₀ (by norm_num)]
    gcongr

/-- The last bit that is kept of a number is its own last bit. -/
theorem unit_ratio {x : Binary64} (h : x.mantissa ≠ 0) :
    max (binaryExponent x.ratio.1 x.ratio.2 - 52) (-1074) = x.power := by
  have hfraction := x.fractionField_lt
  rw [binaryExponent_ratio h, power]
  by_cases hexponent : x.exponentField = 0
  · have hlog : Nat.log2 x.mantissa < 52 := by
      rw [Nat.log2_lt h, mantissa, if_pos hexponent]
      exact hfraction
    omega
  · have hlog : Nat.log2 x.mantissa = 52 := by
      rw [Nat.log2_eq_iff h, mantissa, if_neg hexponent]
      simp only [twoTo_eq] at hfraction ⊢
      omega
    omega

/-- A finite number is what its own magnitude is rounded to. -/
theorem ofRatio_ratio {x : Binary64} (hfinite : x.isFinite) (h : x.mantissa ≠ 0) :
    ofRatio x.isNegative x.ratio.1 x.ratio.2 = x := by
  have hfraction := x.fractionField_lt
  have hround : roundDiv (x.ratio.1 * twoTo (-x.power).toNat)
      (x.ratio.2 * twoTo x.power.toNat) = x.mantissa := by
    have hscale : 0 < twoTo (-x.power).toNat * twoTo x.power.toNat :=
      Nat.mul_pos (Nat.pow_pos (by decide)) (Nat.pow_pos (by decide))
    rw [ratio, Nat.mul_assoc, Nat.mul_comm (twoTo x.power.toNat), roundDiv_mul_self hscale]
  have hmagnitude : (if x.mantissa < twoTo 52 then x.mantissa
      else (x.power + 1074).toNat * twoTo 52 + x.mantissa) =
        x.exponentField * twoTo 52 + x.fractionField := by
    simp only [mantissa, power, twoTo_eq] at hfraction ⊢
    by_cases hexponent : x.exponentField = 0
    · rw [if_pos hexponent, if_pos hfraction]
      omega
    · rw [if_neg hexponent, if_neg (by omega)]
      omega
  have hrange : x.exponentField * twoTo 52 + x.fractionField < 2047 * twoTo 52 := by
    have hexponent := x.exponentField_lt hfinite
    simp only [twoTo_eq] at hfraction ⊢
    omega
  simp only [ofRatio, unit_ratio h, hround, hmagnitude, if_pos hrange, signed_fields]
  rw [if_neg]
  exact not_or.mpr ⟨(ratio_pos h).1.ne', (ratio_pos h).2.ne'⟩

/-! ## Its shortest decimal -/

theorem power_le {x : Binary64} (h : x.isFinite) : x.power ≤ 971 := by
  have hexponent := exponentField_lt h
  simp only [power]
  omega

theorem neg_power_le (x : Binary64) : -x.power ≤ 1074 := by
  simp only [power]
  omega

/-- In this range a decimal number is rounded as a quotient. -/
theorem ofDecimal_of_scale (negative : Bool) {significand : Nat} {exponent : Int}
    (h : significand ≠ 0) (hhigh : decimalLength significand + exponent ≤ 310)
    (hlow : -330 ≤ decimalLength significand + exponent) :
    ofDecimal negative significand exponent =
      ofRatio negative (significand * tenTo exponent.toNat) (tenTo (-exponent).toNat) := by
  simp only [ofDecimal]
  rw [if_neg h, if_neg (not_lt.mpr hhigh), if_neg (not_lt.mpr hlow)]

theorem decimalLength_mul_twoTo_le {m k top length : Nat} (hm : m < twoTo 53) (hk : k ≤ top)
    (hlength : 0 < length) (hbound : twoTo 53 * twoTo top < tenTo length) :
    decimalLength (m * twoTo k) ≤ length := by
  have hpow : twoTo k ≤ twoTo top := Nat.pow_le_pow_right (by decide) hk
  rw [decimalLength_le_iff hlength]
  exact (Nat.mul_lt_mul_of_lt_of_le hm hpow (Nat.pow_pos (by decide))).trans hbound

theorem decimalLength_mul_fiveTo_le {m : Nat} (hm : m < tenTo 16) (k : Nat) :
    decimalLength (m * Nat.pow 5 k) ≤ 16 + k := by
  rw [decimalLength_le_iff (by omega)]
  calc m * Nat.pow 5 k < tenTo 16 * Nat.pow 5 k :=
        Nat.mul_lt_mul_of_pos_right hm (Nat.pow_pos (by decide))
    _ ≤ tenTo 16 * tenTo k := Nat.mul_le_mul_left _ (Nat.pow_le_pow_left (by decide) k)
    _ = tenTo (16 + k) := (Nat.pow_add 10 16 k).symm

theorem lt_add_decimalLength_mul_fiveTo {m k top length : Nat} (hm : m ≠ 0) (hk : k ≤ top)
    (hbound : twoTo top ≤ tenTo length) : k < length + decimalLength (m * Nat.pow 5 k) := by
  have hpow : twoTo k ≤ tenTo length := (Nat.pow_le_pow_right (by decide) hk).trans hbound
  rw [← Nat.pow_lt_pow_iff_right (show 1 < 10 by decide)]
  calc tenTo k = twoTo k * Nat.pow 5 k := Nat.mul_pow 2 5 k
    _ ≤ tenTo length * (m * Nat.pow 5 k) :=
        Nat.mul_le_mul hpow (Nat.le_mul_of_pos_left _ (Nat.pos_of_ne_zero hm))
    _ < tenTo length * tenTo (decimalLength (m * Nat.pow 5 k)) :=
        Nat.mul_lt_mul_of_pos_left (lt_tenTo_decimalLength _) (Nat.pow_pos (by decide))
    _ = 10 ^ (length + decimalLength (m * Nat.pow 5 k)) := (Nat.pow_add 10 length _).symm

/-- The exact decimal of a whole number reads back as the number. -/
theorem ofDecimal_whole {x : Binary64} (hfinite : x.isFinite) (h : x.mantissa ≠ 0)
    (hpower : 0 ≤ x.power) :
    ofDecimal x.isNegative (x.mantissa * twoTo x.power.toNat) 0 = x := by
  have htop : x.power.toNat ≤ 971 := by have := power_le hfinite; omega
  have hlength : decimalLength (x.mantissa * twoTo x.power.toNat) ≤ 309 :=
    decimalLength_mul_twoTo_le x.mantissa_lt htop (by decide) (by decide +kernel)
  have hden : (-x.power).toNat = 0 := by omega
  have hsignificand : x.mantissa * twoTo x.power.toNat ≠ 0 := (ratio_pos h).1.ne'
  rw [ofDecimal_of_scale _ hsignificand (by omega) (by omega)]
  conv_rhs => rw [← ofRatio_ratio hfinite h, ratio, hden]
  rw [Int.toNat_zero, tenTo_eq, Nat.pow_zero, Nat.mul_one]
  rfl

/-- The exact decimal of a number with a fraction reads back as the number. -/
theorem ofDecimal_fraction {x : Binary64} (hfinite : x.isFinite) (h : x.mantissa ≠ 0)
    (hpower : x.power < 0) :
    ofDecimal x.isNegative (x.mantissa * Nat.pow 5 (-x.power).toNat) x.power = x := by
  obtain ⟨k, hk⟩ : ∃ k : Nat, x.power = -k := ⟨(-x.power).toNat, by omega⟩
  have hk' : (-x.power).toNat = k := by omega
  have htop : k ≤ 1074 := by have := x.neg_power_le; omega
  have hfive : 0 < Nat.pow 5 k := Nat.pow_pos (by decide)
  have hsignificand : 0 < x.mantissa * Nat.pow 5 k := Nat.mul_pos (Nat.pos_of_ne_zero h) hfive
  have hhigh : decimalLength (x.mantissa * Nat.pow 5 k) ≤ 16 + k :=
    decimalLength_mul_fiveTo_le (x.mantissa_lt.trans (by decide)) k
  have hlow : k < 330 + decimalLength (x.mantissa * Nat.pow 5 k) :=
    lt_add_decimalLength_mul_fiveTo h htop (by decide +kernel)
  have hnum : x.power.toNat = 0 := by omega
  have hsplit : tenTo k = twoTo k * Nat.pow 5 k := Nat.mul_pow 2 5 k
  rw [hk', ofDecimal_of_scale _ hsignificand.ne' (by omega) (by omega), hnum, hk', hsplit]
  conv_rhs =>
    rw [← ofRatio_ratio hfinite h, ← ofRatio_mul_right x.isNegative hfive, ratio, hnum, hk']
  rw [tenTo_eq, twoTo_eq 0, Nat.pow_zero, Nat.pow_zero, Nat.mul_one, Nat.mul_one]

/-- The decimal that is written for a finite number reads back as the number. -/
theorem readsBack_shortest {x : Binary64} (hfinite : x.isFinite) :
    ofDecimal x.isNegative x.shortest.digits x.shortest.exponent = x := by
  rw [shortest, shortest?]
  by_cases h : x.mantissa = 0
  · rw [if_pos h]
    exact signed_zero_of_mantissa h
  · rw [if_neg h]
    cases hfind : ((List.range 17).flatMap fun n => x.neighbours (n + 1)).find? x.readsBack with
    | some d =>
        have hback : x.readsBack d := List.find?_some hfind
        rw [Option.map_some, Option.getD_some, ofDecimal_trim]
        exact of_decide_eq_true hback
    | none =>
        rw [Option.map_none, Option.getD_none]
        split
        next hpower => exact ofDecimal_whole hfinite h hpower
        next hpower => exact ofDecimal_fraction hfinite h (not_le.mp hpower)

end Binary64

/-! ## Its literal -/

namespace Numeral

open Binary64

theorem places_ofBinary64_ne (x : Binary64) : (ofBinary64 x).places ≠ some 0 := by
  have hlength := decimalLength_pos x.shortest.digits
  simp only [ofBinary64]
  split_ifs <;> simp <;> omega

/-- A finite number is read from its literal. -/
theorem binary64?_ofBinary64 {x : Binary64} (h : x.isFinite) :
    (ofBinary64 x).binary64? = some x := by
  have hvalue : ofDecimal (ofBinary64 x).negative (ofBinary64 x).significand
      ((ofBinary64 x).exponent.getD 0 - (ofBinary64 x).places.getD 0) = x := by
    conv_rhs => rw [← readsBack_shortest h]
    simp only [ofBinary64]
    split_ifs with _ hexponent hlength
    · -- the digits with the zeros of the exponent and one more after the point
      rw [ofDecimal_mul_tenTo]
      congr 1
      simp only [Option.getD_none, Option.getD_some]
      omega
    all_goals
      congr 1
      simp only [Option.getD_none, Option.getD_some]
      omega
  simp only [binary64?, hvalue, h, if_true]

theorem isFinite_of_binary64? {n : Numeral} {x : Binary64} (h : n.binary64? = some x) :
    x.isFinite := by
  simp only [binary64?] at h
  split at h <;> simp_all

end Numeral

end MapScout
