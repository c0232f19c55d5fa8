import Mathlib.Data.Nat.Digits.Lemmas
import MapScout.Number.Base36

/-!
# Names in base 36

Every number has exactly one name: the text over the 36 digits that has it as its value, with no zero
in front.  That is what is written for it, so that numbers which differ have names which differ.
-/

namespace MapScout.Base36

def alphabet : List Char := "0123456789abcdefghijklmnopqrstuvwxyz".toList

/-- The text is a name of the number. -/
structure Names (s : String) (n : UInt64) : Prop where
  ne_empty : s ≠ ""
  length_le : s.length ≤ 13
  mem_alphabet : ∀ c ∈ s.toList, c ∈ alphabet
  /-- A zero in front is the name of zero. -/
  leading_zero : s.toList.head? = some '0' → n = 0 ∧ s = "0"
  value : value? s = some n.toNat

/-! ## Digits -/

theorem digitValue?_digit {d : Nat} (h : d < 36) : digitValue? (digit d) = some d := by
  have hall : ∀ d < 36, digitValue? (digit d) = some d := by decide
  exact hall d h

theorem digit_mem_alphabet {d : Nat} (h : d < 36) : digit d ∈ alphabet := by
  have hall : ∀ d < 36, digit d ∈ alphabet := by decide
  exact hall d h

theorem digit_eq_zero_iff {d : Nat} (h : d < 36) : digit d = '0' ↔ d = 0 := by
  have hall : ∀ d < 36, digit d = '0' ↔ d = 0 := by decide
  exact hall d h

/-- Every digit is the one that is written for its value. -/
theorem digit_of_digitValue? {c : Char} {d : Nat} (h : digitValue? c = some d) :
    d < 36 ∧ digit d = c := by
  rw [digitValue?] at h
  split at h
  · rename_i hrange
    obtain rfl := Option.some.inj h
    have hlow : 0x30 ≤ c.toNat := hrange.1
    have hhigh : c.toNat ≤ 0x39 := hrange.2
    have hsum : 0x30 + (c.toNat - 0x30) = c.toNat := by omega
    refine ⟨by omega, ?_⟩
    rw [digit, if_pos (by omega), hsum, Char.ofNat_toNat]
  · split at h
    · rename_i hrange
      obtain rfl := Option.some.inj h
      have hlow : 0x61 ≤ c.toNat := hrange.1
      have hhigh : c.toNat ≤ 0x7a := hrange.2
      have hsum : 0x61 + (c.toNat - 0x61 + 10 - 10) = c.toNat := by omega
      refine ⟨by omega, ?_⟩
      rw [digit, if_neg (by omega), hsum, Char.ofNat_toNat]
    · cases h

/-! ## Writing -/

/-- The loop writes the digits of the library, the highest one first. -/
theorem digitsOnto_eq (acc : List Char) (n : Nat) :
    digitsOnto acc n = (Nat.digits 36 n).reverse.map digit ++ acc := by
  induction n using Nat.strong_induction_on generalizing acc with
  | _ n ih =>
      rw [digitsOnto]
      split
      · rename_i hzero
        rw [hzero, Nat.digits_zero]
        rfl
      · rename_i hpos
        have hsmaller : n / 36 < n := Nat.div_lt_self (Nat.pos_of_ne_zero hpos) (by decide)
        rw [ih (n / 36) hsmaller, Nat.digits_def' (by decide) (Nat.pos_of_ne_zero hpos),
          List.reverse_cons, List.map_append, List.append_assoc]
        rfl

/-- The values of the digits of a number, the most significant first. -/
def figures (n : Nat) : List Nat := if n = 0 then [0] else (Nat.digits 36 n).reverse

theorem toList_encode (n : UInt64) : (encode n).toList = (figures n.toNat).map digit := by
  have hzero : n = 0 ↔ n.toNat = 0 := by rw [← UInt64.toNat_inj]; rfl
  rw [encode, String.toList_ofList, figures]
  by_cases h : n = 0
  · rw [if_pos h, if_pos (hzero.mp h)]
    rfl
  · rw [if_neg h, if_neg (mt hzero.mpr h), digitsOnto_eq, List.append_nil]

theorem figures_ne_nil (n : Nat) : figures n ≠ [] := by
  rw [figures]
  split
  · exact List.cons_ne_nil _ _
  · rename_i hpos
    rw [ne_eq, List.reverse_eq_nil_iff]
    exact Nat.digits_ne_nil_iff_ne_zero.mpr hpos

theorem lt_of_mem_figures {n d : Nat} (h : d ∈ figures n) : d < 36 := by
  rw [figures] at h
  split at h
  · rw [List.mem_singleton.mp h]
    decide
  · exact Nat.digits_lt_base (by decide) (List.mem_reverse.mp h)

/-- Thirteen digits are enough for 64 bits. -/
theorem length_figures_le {n : Nat} (h : n < 2 ^ 64) : (figures n).length ≤ 13 := by
  rw [figures]
  split
  · decide
  · rw [List.length_reverse, Nat.digits_length_le_iff (by decide)]
    exact Nat.lt_trans h (by decide)

/-- No name but that of zero begins with a zero. -/
theorem head?_figures {n : Nat} (h : (figures n).head? = some 0) : n = 0 := by
  by_contra hpos
  rw [figures, if_neg hpos, List.head?_reverse] at h
  have hne := Nat.digits_ne_nil_iff_ne_zero (b := 36).mpr hpos
  rw [List.getLast?_eq_some_getLast hne] at h
  exact Nat.getLast_digit_ne_zero 36 hpos (Option.some.inj h)

/-! ## Reading -/

/-- The number that digits stand for, the most significant first, after a number read so far. -/
def valueFrom (n : Nat) (ds : List Nat) : Nat := ds.foldl (fun n d => n * 36 + d) n

theorem valueFrom_eq_ofDigits (ds : List Nat) : valueFrom 0 ds = Nat.ofDigits 36 ds.reverse := by
  rw [valueFrom, Nat.ofDigits_eq_foldr, List.foldr_reverse]
  simp only [Nat.cast_id, Nat.add_comm, Nat.mul_comm]

theorem valueFrom_figures (n : Nat) : valueFrom 0 (figures n) = n := by
  rw [figures]
  split
  · rename_i hzero
    rw [hzero]
    rfl
  · rw [valueFrom_eq_ofDigits, List.reverse_reverse, Nat.ofDigits_digits]

/-- A text is read if and only if it is made of digits, and their value is what is read. -/
theorem foldlM_digitValue?_eq_some_iff {cs : List Char} {n v : Nat} :
    cs.foldlM (fun n c => (digitValue? c).map (n * 36 + ·)) n = some v ↔
      ∃ ds : List Nat, (∀ d ∈ ds, d < 36) ∧ cs = ds.map digit ∧ v = valueFrom n ds := by
  induction cs generalizing n with
  | nil =>
      constructor
      · intro h
        exact ⟨[], by simp, rfl, (Option.some.inj h).symm⟩
      · rintro ⟨ds, -, hds, rfl⟩
        rw [List.map_eq_nil_iff.mp hds.symm]
        rfl
  | cons c cs ih =>
      rw [List.foldlM_cons, Option.bind_eq_bind, Option.bind_eq_some_iff]
      constructor
      · rintro ⟨m, hfirst, hrest⟩
        obtain ⟨d, hd, rfl⟩ := Option.map_eq_some_iff.mp hfirst
        obtain ⟨hlt, rfl⟩ := digit_of_digitValue? hd
        obtain ⟨ds, hds, rfl, rfl⟩ := ih.mp hrest
        refine ⟨d :: ds, ?_, rfl, rfl⟩
        intro e he
        rcases List.mem_cons.mp he with rfl | he
        · exact hlt
        · exact hds e he
      · rintro ⟨ds, hds, heq, rfl⟩
        cases ds with
        | nil => cases heq
        | cons d ds =>
            obtain ⟨rfl, rfl⟩ := List.cons.inj heq
            have hlt := hds d List.mem_cons_self
            refine ⟨n * 36 + d, by rw [digitValue?_digit hlt]; rfl, ih.mpr ⟨ds, ?_, rfl, rfl⟩⟩
            exact fun e he => hds e (List.mem_cons_of_mem d he)

theorem value?_eq_some_iff {s : String} {v : Nat} :
    value? s = some v ↔
      ∃ ds : List Nat, (∀ d ∈ ds, d < 36) ∧ s.toList = ds.map digit ∧ v = valueFrom 0 ds :=
  foldlM_digitValue?_eq_some_iff

/-! ## Names -/

theorem value?_encode (n : UInt64) : value? (encode n) = some n.toNat :=
  value?_eq_some_iff.mpr ⟨figures n.toNat, fun _ => lt_of_mem_figures, toList_encode n,
    (valueFrom_figures n.toNat).symm⟩

theorem encode_injective : Function.Injective encode := by
  intro m n heq
  have hvalue := value?_encode m
  rw [heq, value?_encode] at hvalue
  exact UInt64.toNat_inj.mp (Option.some.inj hvalue).symm

theorem names_encode (n : UInt64) : Names (encode n) n where
  ne_empty := by
    rw [ne_eq, ← String.toList_eq_nil_iff, toList_encode, List.map_eq_nil_iff]
    exact figures_ne_nil _
  length_le := by
    rw [← String.length_toList, toList_encode, List.length_map]
    exact length_figures_le n.toNat_lt
  mem_alphabet c hc := by
    rw [toList_encode] at hc
    obtain ⟨d, hd, rfl⟩ := List.mem_map.mp hc
    exact digit_mem_alphabet (lt_of_mem_figures hd)
  leading_zero hhead := by
    rw [toList_encode, List.head?_map, Option.map_eq_some_iff] at hhead
    obtain ⟨d, hd, hzero⟩ := hhead
    have hlt := lt_of_mem_figures (List.mem_of_head? hd)
    rw [(digit_eq_zero_iff hlt).mp hzero] at hd
    obtain rfl : n = 0 := UInt64.toNat_inj.mp (head?_figures hd)
    exact ⟨rfl, rfl⟩
  value := value?_encode n

/-- Of all texts with a certain value only one has no zeros in front. -/
theorem Names.eq_encode {s : String} {n : UInt64} (h : Names s n) : s = encode n := by
  obtain ⟨ds, hds, hs, hvalue⟩ := value?_eq_some_iff.mp h.value
  by_cases hzero : s.toList.head? = some '0'
  · obtain ⟨rfl, rfl⟩ := h.leading_zero hzero
    rfl
  · have hne : ds ≠ [] := by
      rintro rfl
      exact h.ne_empty (String.toList_eq_nil_iff.mp hs)
    have hlast (hrev : ds.reverse ≠ []) : ds.reverse.getLast hrev ≠ 0 := by
      intro hfirst
      apply hzero
      rw [hs, List.head?_map, List.head?_eq_some_head hne]
      rw [List.getLast_reverse] at hfirst
      rw [hfirst]
      rfl
    have hdigits : Nat.digits 36 n.toNat = ds.reverse := by
      rw [hvalue, valueFrom_eq_ofDigits]
      exact Nat.digits_ofDigits 36 (by decide) _ (fun d hd => hds d (List.mem_reverse.mp hd)) hlast
    have hpos : n.toNat ≠ 0 := by
      rw [← Nat.digits_ne_nil_iff_ne_zero (b := 36), hdigits, ne_eq, List.reverse_eq_nil_iff]
      exact hne
    apply String.toList_inj.mp
    rw [hs, toList_encode, figures, if_neg hpos, hdigits, List.reverse_reverse]

/-- A number has one name, which is written for it. -/
theorem names_iff {s : String} {n : UInt64} : Names s n ↔ s = encode n := by
  constructor
  · exact Names.eq_encode
  · rintro rfl
    exact names_encode n

end MapScout.Base36
