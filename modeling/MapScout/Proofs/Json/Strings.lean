import Mathlib.Data.List.Forall2
import MapScout.Json.Reader
import MapScout.Json.Writer
import MapScout.Proofs.Text.Utf8

/-!
# String literals

What is written as a string literal is read back as the string, whatever its characters are.  Every
byte of a string has a literal of its own, and each literal is read as one piece: a control
character without a letter of its own as a UTF-16 unit, every other byte as a byte.
-/

namespace MapScout.Json

/-! ## One byte -/

theorem readPieces_quote (acc : List Piece) (rest : Bytes) :
    readPieces acc (0x22 :: rest) = some (acc.reverse, rest) := by
  rw [readPieces]

theorem readPieces_letter {e b : UInt8} (acc : List Piece) (rest : Bytes) (hunit : e ≠ 0x75)
    (h : escaped? e = some b) :
    readPieces acc (0x5c :: e :: rest) = readPieces (.byte b :: acc) rest := by
  rw [readPieces, h]
  exact fun a b c d rest he _ => hunit he

theorem readPieces_unit {a b c d : UInt8} {u : Nat} (acc : List Piece) (rest : Bytes)
    (h : unit? a b c d = some u) :
    readPieces acc (0x5c :: 0x75 :: a :: b :: c :: d :: rest) =
      readPieces (.unit u :: acc) rest := by
  rw [readPieces, h]

theorem readPieces_byte {b : UInt8} (acc : List Piece) (rest : Bytes) (hquote : b ≠ 0x22)
    (hescape : b ≠ 0x5c) (hcontrol : ¬ b < 0x20) :
    readPieces acc (b :: rest) = readPieces (.byte b :: acc) rest := by
  rw [readPieces, if_neg hcontrol]
  · exact hquote
  · exact fun a b c d rest he _ => hescape he
  · exact fun e rest he _ => hescape he

/-- The four digits that are written for a control character. -/
theorem unit?_digits {b : UInt8} (h : b < 0x20) :
    unit? 0x30 0x30 (UInt8.ofNat (Hex.digit (b.toNat / 16)).toNat)
      (UInt8.ofNat (Hex.digit b.toNat).toNat) = some b.toNat := by
  have hall : ∀ n < 32, unit? 0x30 0x30 (UInt8.ofNat (Hex.digit (n / 16)).toNat)
      (UInt8.ofNat (Hex.digit n).toNat) = some n := by
    decide +kernel
  exact hall b.toNat h

/-- A piece that stands for one byte of a string. -/
def Piece.IsFor (b : UInt8) (p : Piece) : Prop := p = .byte b ∨ b < 0x20 ∧ p = .unit b.toNat

/-- The literal of a byte is read as a piece that stands for it. -/
theorem readPieces_escapeByte (b : UInt8) (acc : List Piece) (rest : Bytes) :
    ∃ p, Piece.IsFor b p ∧
      readPieces acc (escapeByte b ++ rest) = readPieces (p :: acc) rest := by
  have hletter : ∀ {e}, e ≠ 0x75 → escaped? e = some b → ∃ p, Piece.IsFor b p ∧
      readPieces acc ([0x5c, e] ++ rest) = readPieces (p :: acc) rest :=
    fun hunit he => ⟨.byte b, .inl rfl, readPieces_letter acc rest hunit he⟩
  rw [escapeByte]
  split_ifs with h₁ h₂ h₃ h₄ h₅ h₆ h₇ hcontrol
  · exact hletter (by decide) (by rw [h₁]; rfl)
  · exact hletter (by decide) (by rw [h₂]; rfl)
  · exact hletter (by decide) (by rw [h₃]; rfl)
  · exact hletter (by decide) (by rw [h₄]; rfl)
  · exact hletter (by decide) (by rw [h₅]; rfl)
  · exact hletter (by decide) (by rw [h₆]; rfl)
  · exact hletter (by decide) (by rw [h₇]; rfl)
  · exact ⟨.unit b.toNat, .inr ⟨hcontrol, rfl⟩, readPieces_unit acc rest (unit?_digits hcontrol)⟩
  · exact ⟨.byte b, .inl rfl, readPieces_byte acc rest h₁ h₂ hcontrol⟩

/-- A control character is no surrogate, so what follows it does not matter. -/
theorem spell_cons {b : UInt8} {p : Piece} (h : p.IsFor b) (acc : Bytes) (rest : List Piece) :
    spell acc (p :: rest) = spell (b :: acc) rest := by
  rcases h with rfl | ⟨hcontrol, rfl⟩
  · rw [spell]
  · have hlt : b.toNat < 32 := hcontrol
    have hhigh : isHighSurrogate b.toNat = false := by
      rw [isHighSurrogate, decide_eq_false (by omega), Bool.false_and]
    have hlow : isLowSurrogate b.toNat = false := by
      rw [isLowSurrogate, decide_eq_false (by omega), Bool.false_and]
    have hchar := Utf8.utf8EncodeChar_ascii (b := b) (UInt8.lt_trans hcontrol (by decide))
    rcases rest with - | ⟨p, rest⟩
    · simp [spell, hhigh, hlow, hchar]
    · cases p <;> simp [spell, hhigh, hlow, hchar]

/-! ## Whole strings -/

/-- Each byte of a literal is read as one piece, escaped or not. -/
theorem readPieces_literal (bs : Bytes) (acc : List Piece) (rest : Bytes) :
    ∃ pieces, List.Forall₂ Piece.IsFor bs pieces ∧
      readPieces acc (bs.flatMap escapeByte ++ 0x22 :: rest) =
        some (acc.reverse ++ pieces, rest) := by
  induction bs generalizing acc with
  | nil => exact ⟨[], .nil, by rw [List.append_nil]; exact readPieces_quote acc rest⟩
  | cons b bs ih =>
      obtain ⟨p, hp, hread⟩ := readPieces_escapeByte b acc (bs.flatMap escapeByte ++ 0x22 :: rest)
      obtain ⟨pieces, hpieces, hrest⟩ := ih (p :: acc)
      refine ⟨p :: pieces, .cons hp hpieces, ?_⟩
      rw [List.flatMap_cons, List.append_assoc, hread, hrest, List.reverse_cons,
        List.append_assoc, List.singleton_append]

/-- The pieces of a literal spell its bytes. -/
theorem spell_literal {bs : Bytes} {pieces : List Piece} (h : List.Forall₂ Piece.IsFor bs pieces)
    (acc : Bytes) : spell acc pieces = some (acc.reverse ++ bs) := by
  induction h generalizing acc with
  | nil => rw [spell, List.append_nil]
  | cons hp _ ih => rw [spell_cons hp, ih, List.reverse_cons, List.append_assoc,
      List.singleton_append]

/-- The rest of a string literal after its opening quote. -/
theorem readString_literal (s : String) (rest : Bytes) :
    readString ((bytesOf s).flatMap escapeByte ++ 0x22 :: rest) = some (some s, rest) := by
  obtain ⟨pieces, hpieces, hread⟩ := readPieces_literal (bytesOf s) [] rest
  rw [readString, hread]
  change some ((spell [] pieces).bind Utf8.decode?, rest) = some (some s, rest)
  rw [spell_literal hpieces]
  exact congrArg (fun text => some (text, rest)) (Utf8.decode?_bytesOf s)

theorem renderString_append (s : String) (rest : Bytes) :
    renderString s ++ rest = 0x22 :: ((bytesOf s).flatMap escapeByte ++ 0x22 :: rest) := by
  rw [renderString, List.append_assoc]
  rfl

end MapScout.Json
