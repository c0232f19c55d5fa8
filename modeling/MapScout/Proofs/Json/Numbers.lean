import Mathlib.Data.List.TakeDrop
import MapScout.Json.Reader
import MapScout.Json.Writer
import MapScout.Proofs.Number.Decimal

/-!
# Number literals

A literal is read back as it was written: its sign, its digits, how many of them follow the point,
and its exponent.  The one literal that cannot be written is one with a point and nothing after it.
A literal has no closing mark, so what follows it must not go on with it.
-/

namespace MapScout.Json

def isNumberByte (b : UInt8) : Bool := Decimal.isDigit b || b = 0x2e || b = 0x65 || b = 0x45

/-- What follows does not go on with a number. -/
def EndsNumber (rest : Bytes) : Prop := ∀ b ∈ rest.head?, isNumberByte b = false

theorem endsNumber_nil : EndsNumber [] := by
  intro b hb
  cases hb

theorem endsNumber_cons {b : UInt8} {rest : Bytes} :
    EndsNumber (b :: rest) ↔ isNumberByte b = false := by
  simp [EndsNumber]

/-! ## Runs of digits -/

/-- What follows does not go on with a run of digits. -/
def EndsDigits (rest : Bytes) : Prop := ∀ b ∈ rest.head?, Decimal.isDigit b = false

theorem endsDigits_cons {b : UInt8} {rest : Bytes} (h : Decimal.isDigit b = false) :
    EndsDigits (b :: rest) := by
  intro d hd
  obtain rfl := Option.mem_some.mp hd
  exact h

theorem EndsNumber.endsDigits {rest : Bytes} (h : EndsNumber rest) : EndsDigits rest := by
  intro b hb
  have hbyte := h b hb
  simp only [isNumberByte, Bool.or_eq_false_iff] at hbyte
  exact hbyte.1.1.1

/-- Digits are read up to the first byte that is none. -/
theorem spanDigits_append {ds rest : Bytes} (h : ∀ b ∈ ds, Decimal.isDigit b = true)
    (hrest : EndsDigits rest) : spanDigits (ds ++ rest) = (ds, rest) := by
  rw [spanDigits, List.span_eq_takeWhile_dropWhile, List.takeWhile_append_of_pos h,
    List.dropWhile_append_of_pos h]
  cases rest with
  | nil => rw [List.takeWhile_nil, List.dropWhile_nil, List.append_nil]
  | cons b rest =>
      have hb : ¬ Decimal.isDigit b = true := by simp [hrest b rfl]
      rw [List.takeWhile_cons_of_neg hb, List.dropWhile_cons_of_neg hb, List.append_nil]

/-- The digits of a whole part: a zero in front is the only one. -/
structure IsWholePart (ds : Bytes) : Prop where
  ne_nil : ds ≠ []
  digits : ∀ b ∈ ds, Decimal.isDigit b = true
  lead : ds.head? = some 0x30 → ds.length = 1

theorem readWhole_append {ds rest : Bytes} (h : IsWholePart ds) (hrest : EndsDigits rest) :
    readWhole (ds ++ rest) = some (ds, rest) := by
  rw [readWhole, spanDigits_append h.digits hrest]
  match ds, h with
  | [], h => exact absurd rfl h.ne_nil
  | [d], _ => simp
  | d :: d' :: ds, h =>
      have hd : d ≠ 0x30 := fun he => absurd (h.lead (congrArg some he)) (by simp)
      simp [hd]

/-! ## The parts of a literal -/

theorem isWholePart_encode (n : Nat) : IsWholePart (Decimal.encode n) := by
  refine ⟨Decimal.encode_ne_nil n, Decimal.isDigit_of_mem_encode, fun hhead => ?_⟩
  rcases Nat.eq_zero_or_pos n with rfl | hpos
  · rfl
  · exact absurd hhead (Decimal.head?_encode hpos)

/-- The digits of a significand, cut where the point stands. -/
theorem exists_parts (significand places : Nat) :
    ∃ whole fraction, IsWholePart whole ∧ (∀ b ∈ fraction, Decimal.isDigit b = true) ∧
      fraction.length = places ∧ Decimal.value (whole ++ fraction) = significand ∧
      renderSignificand significand (some places) = whole ++ 0x2e :: fraction := by
  have hwhole := isWholePart_encode significand
  have hvalue := Decimal.value_encode significand
  rw [renderSignificand]
  generalize Decimal.encode significand = ds at hwhole hvalue ⊢
  have hdigits : ∀ b ∈ List.replicate (places + 1 - ds.length) 0x30 ++ ds,
      Decimal.isDigit b = true := by
    intro b hb
    rcases List.mem_append.mp hb with hb | hb
    · rw [List.eq_of_mem_replicate hb]
      rfl
    · exact hwhole.digits b hb
  have hlength : (List.replicate (places + 1 - ds.length) 0x30 ++ ds).length =
      max (places + 1) ds.length := by
    rw [List.length_append, List.length_replicate]
    omega
  rw [← Decimal.value_zeros_append (places + 1 - ds.length)] at hvalue
  refine ⟨_, _, ⟨?_, fun b hb => hdigits b (List.mem_of_mem_take hb), fun hhead => ?_⟩,
    fun b hb => hdigits b (List.mem_of_mem_drop hb), ?_, ?_, rfl⟩
  · rw [ne_eq, List.take_eq_nil_iff, ← List.length_eq_zero_iff, hlength]
    omega
  · rw [List.length_take, hlength]
    rcases Nat.lt_or_ge (places + 1) ds.length with hlt | hge
    · -- no zero was put in front, so the first digit is that of the significand
      have hpad : places + 1 - ds.length = 0 := by omega
      rw [hlength, hpad, List.replicate_zero, List.nil_append, List.head?_take,
        if_neg (by omega)] at hhead
      have hone := hwhole.lead hhead
      omega
    · omega
  · rw [List.length_drop, hlength]
    omega
  · rw [List.take_append_drop, hvalue]

theorem readFraction_none {rest : Bytes} (h : rest.head? ≠ some 0x2e) :
    readFraction rest = some (none, rest) := by
  rw [readFraction]
  exact fun rest' he => h (he ▸ rfl)

theorem readFraction_some {ds rest : Bytes} (h : ∀ b ∈ ds, Decimal.isDigit b = true)
    (hne : ds ≠ []) (hrest : EndsDigits rest) :
    readFraction (0x2e :: (ds ++ rest)) = some (some ds, rest) := by
  rw [readFraction, spanDigits_append h hrest]
  cases ds with
  | nil => exact absurd rfl hne
  | cons d ds => rfl

theorem readExponentDigits_append (negative : Bool) (n : Nat) {rest : Bytes}
    (hrest : EndsDigits rest) :
    readExponentDigits negative (Decimal.encode n ++ rest) =
      some (some (if negative then -(n : Int) else n), rest) := by
  rw [readExponentDigits, spanDigits_append Decimal.isDigit_of_mem_encode hrest]
  cases hds : Decimal.encode n with
  | nil => exact absurd hds (Decimal.encode_ne_nil n)
  | cons d ds =>
      have hvalue := Decimal.value_encode n
      rw [hds] at hvalue
      simp only [hvalue]

/-- The exponent, if there is one, is read to its end. -/
theorem readExponent_append (exponent : Option Int) {rest : Bytes} (hrest : EndsNumber rest) :
    readExponent (renderExponent exponent ++ rest) = some (exponent, rest) := by
  cases exponent with
  | none =>
      rw [renderExponent, List.nil_append]
      cases rest with
      | nil => rfl
      | cons b rest =>
          have hb := endsNumber_cons.mp hrest
          simp only [isNumberByte, Bool.or_eq_false_iff, decide_eq_false_iff_not] at hb
          rw [readExponent.eq_def]
          exact if_neg (not_or.mpr ⟨hb.1.2, hb.2⟩)
  | some e =>
      rw [renderExponent]
      by_cases hneg : e < 0
      · have habs : -(e.natAbs : Int) = e := by omega
        rw [if_pos hneg]
        change readExponentDigits true (Decimal.encode e.natAbs ++ rest) = _
        rw [readExponentDigits_append true _ hrest.endsDigits, if_pos rfl, habs]
      · have habs : (e.natAbs : Int) = e := by omega
        rw [if_neg hneg]
        change readExponentDigits false (Decimal.encode e.natAbs ++ rest) = _
        rw [readExponentDigits_append false _ hrest.endsDigits, if_neg Bool.false_ne_true, habs]

theorem endsDigits_renderExponent (exponent : Option Int) {rest : Bytes} (hrest : EndsNumber rest) :
    EndsDigits (renderExponent exponent ++ rest) := by
  cases exponent with
  | none => exact hrest.endsDigits
  | some e => exact endsDigits_cons rfl

theorem head?_renderExponent_ne (exponent : Option Int) {rest : Bytes} (hrest : EndsNumber rest) :
    (renderExponent exponent ++ rest).head? ≠ some 0x2e := by
  cases exponent with
  | none =>
      intro hhead
      cases hrest 0x2e hhead
  | some e => simp [renderExponent]

/-! ## Whole literals -/

/-- The literals that can be written: after a point there are digits. -/
def IsLiteral (n : Numeral) : Prop := n.places ≠ some 0

/-- A number without its sign: significand, fraction and exponent are read one by one. -/
theorem readUnsigned_append {n : Numeral} (h : IsLiteral n) {rest : Bytes}
    (hrest : EndsNumber rest) :
    readUnsigned n.negative
        (renderSignificand n.significand n.places ++ (renderExponent n.exponent ++ rest)) =
      some (n, rest) := by
  obtain ⟨negative, significand, places, exponent⟩ := n
  have hdigits := endsDigits_renderExponent exponent hrest
  have hexponent := readExponent_append exponent hrest
  cases places with
  | none =>
      have hfraction := readFraction_none (head?_renderExponent_ne exponent hrest)
      simp [readUnsigned, renderSignificand, readWhole_append (isWholePart_encode _) hdigits,
        hfraction, hexponent, Decimal.value_encode]
  | some places =>
      obtain ⟨whole, fraction, hwhole, hds, hlength, hvalue, hrender⟩ :=
        exists_parts significand places
      have hne : fraction ≠ [] := by
        rintro rfl
        exact h (congrArg some hlength.symm)
      have hfraction := readFraction_some hds hne hdigits
      have hend : EndsDigits (0x2e :: (fraction ++ (renderExponent exponent ++ rest))) :=
        endsDigits_cons rfl
      have hpoint := readWhole_append hwhole hend
      simp [readUnsigned, hrender, hpoint, hfraction, hexponent, hvalue, hlength]

/-- A literal starts with a digit after its sign. -/
theorem exists_head_renderSignificand (significand : Nat) (places : Option Nat) :
    ∃ d ds, Decimal.isDigit d = true ∧ renderSignificand significand places = d :: ds := by
  have hcons : ∀ {whole : Bytes} (tail : Bytes), IsWholePart whole →
      ∃ d ds, Decimal.isDigit d = true ∧ whole ++ tail = d :: ds := by
    intro whole tail hwhole
    obtain ⟨d, ds, rfl⟩ := List.exists_cons_of_ne_nil hwhole.ne_nil
    exact ⟨d, ds ++ tail, hwhole.digits d List.mem_cons_self, rfl⟩
  cases places with
  | none =>
      rw [renderSignificand, ← List.append_nil (Decimal.encode significand)]
      exact hcons [] (isWholePart_encode significand)
  | some places =>
      obtain ⟨whole, fraction, hwhole, -, -, -, hrender⟩ := exists_parts significand places
      rw [hrender]
      exact hcons _ hwhole

/-- A literal is read back, whatever comes behind that cannot belong to a number. -/
theorem readNumeral_append {n : Numeral} (h : IsLiteral n) {rest : Bytes}
    (hrest : EndsNumber rest) : readNumeral (renderNumeral n ++ rest) = some (n, rest) := by
  have hread := readUnsigned_append h hrest
  rw [renderNumeral, List.append_assoc, List.append_assoc]
  cases hnegative : n.negative with
  | true =>
      rw [hnegative] at hread
      rw [if_pos rfl, List.singleton_append, readNumeral, hread]
  | false =>
      rw [hnegative] at hread
      obtain ⟨d, ds, hd, hrender⟩ := exists_head_renderSignificand n.significand n.places
      rw [if_neg Bool.false_ne_true, List.nil_append, ← hread, hrender, List.cons_append,
        readNumeral]
      intro rest' he
      obtain ⟨rfl, -⟩ := List.cons.inj he
      cases hd

end MapScout.Json
