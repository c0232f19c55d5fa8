import MapScout.Base64
import MapScout.Proofs.Text.Utf8

/-!
# Base64 texts and bytes

Every list of bytes has one text, and nothing but these texts can be read.  Both ways go through
the six-bit values that a text spells: a whole number of bytes leaves no unused bit set in the last
value, and the padding fills the text up to a multiple of four.
-/

namespace MapScout.Base64

/-! ## Symbols -/

theorem value?_symbol {n : Nat} (h : n < 64) : value? (symbol n) = some n := by
  have hall : ∀ n < 64, value? (symbol n) = some n := by decide +kernel
  exact hall n h

theorem symbol_ne_pad {n : Nat} (h : n < 64) : symbol n ≠ pad := by
  intro he
  have hvalue := value?_symbol h
  rw [he] at hvalue
  cases hvalue

theorem symbol_ascii {n : Nat} (h : n < 64) : symbol n < 0x80 := by
  have hall : ∀ n < 64, symbol n < 0x80 := by decide +kernel
  exact hall n h

/-- A symbol is read as the value that it was written for. -/
theorem of_value? {b : UInt8} {n : Nat} (h : value? b = some n) : n < 64 ∧ symbol n = b := by
  have hall : ∀ b : Fin 256, ∀ n ∈ value? (UInt8.ofFin b), n < 64 ∧ symbol n = UInt8.ofFin b := by
    decide +kernel
  exact hall b.toFin n h

theorem filterMap_value? {values : List Nat} (h : ∀ v ∈ values, v < 64) :
    (values.map symbol).filterMap value? = values := by
  induction values with
  | nil => rfl
  | cons v values ih =>
      obtain ⟨hv, hvalues⟩ := List.forall_mem_cons.mp h
      rw [List.map_cons, List.filterMap_cons_some (value?_symbol hv), ih hvalues]

/-- A list of symbols spells some values. -/
theorem exists_values {symbols : Bytes} (h : ∀ b ∈ symbols, (value? b).isSome) :
    ∃ values : List Nat, (∀ v ∈ values, v < 64) ∧ values.map symbol = symbols := by
  induction symbols with
  | nil => exact ⟨[], by simp, rfl⟩
  | cons b symbols ih =>
      obtain ⟨hb, hsymbols⟩ := List.forall_mem_cons.mp h
      obtain ⟨v, hv⟩ := Option.isSome_iff_exists.mp hb
      obtain ⟨values, hvalues, hmap⟩ := ih hsymbols
      obtain ⟨hlt, hsymbol⟩ := of_value? hv
      refine ⟨v :: values, List.forall_mem_cons.mpr ⟨hlt, hvalues⟩, ?_⟩
      rw [List.map_cons, hsymbol, hmap]

/-! ## Texts -/

/-- The values stand for whole bytes. -/
structure IsWhole (values : List Nat) : Prop where
  lt : ∀ v ∈ values, v < 64
  length : values.length % 4 ≠ 1
  unused : unusedBits values = 0

/-- The text of some values, filled up to a multiple of four. -/
def written (values : List Nat) : Bytes :=
  values.map symbol ++ List.replicate ((4 - values.length % 4) % 4) pad

/-! ## Bytes and values -/

theorem length_group (a b c d : Nat) (values : List Nat) :
    (a :: b :: c :: d :: values).length % 4 = values.length % 4 :=
  Nat.add_mod_right values.length 4

theorem unusedBits_group (a b c d : Nat) (values : List Nat) :
    unusedBits (a :: b :: c :: d :: values) = unusedBits values := by
  cases values with
  | nil => simp [unusedBits]
  | cons v values =>
      rw [unusedBits, unusedBits, length_group]
      simp only [List.getLast?_cons_cons]

theorem written_group (a b c d : Nat) (values : List Nat) :
    written (a :: b :: c :: d :: values) =
      symbol a :: symbol b :: symbol c :: symbol d :: written values := by
  rw [written, written, length_group]
  rfl

/-- Bytes are made of values that fit into them. -/
theorem toNat_ofNat {n : Nat} (h : n < 256) : (UInt8.ofNat n).toNat = n := by
  rw [UInt8.toNat_ofNat']
  exact Nat.mod_eq_of_lt h

/-- Encoding undoes the unpacking of whole values. -/
theorem encode_unpack {values : List Nat} (h : IsWhole values) :
    encode (unpack values) = written values := by
  obtain ⟨hlt, hlength, hunused⟩ := h
  fun_induction unpack values with
  | case1 a b c d rest ih =>
      simp only [List.forall_mem_cons] at hlt
      obtain ⟨ha, hb, hc, hd, hrest⟩ := hlt
      rw [unusedBits_group] at hunused
      rw [written_group, encode, ih hrest (by rwa [length_group] at hlength) hunused,
        toNat_ofNat (by omega), toNat_ofNat (by omega), toNat_ofNat (by omega)]
      have h₁ : (a * 4 + b / 16) / 4 = a := by omega
      have h₂ : (a * 4 + b / 16) % 4 * 16 + (b % 16 * 16 + c / 4) / 16 = b := by omega
      have h₃ : (b % 16 * 16 + c / 4) % 16 * 4 + (c % 4 * 64 + d) / 64 = c := by omega
      have h₄ : (c % 4 * 64 + d) % 64 = d := by omega
      rw [h₁, h₂, h₃, h₄]
  | case2 a b c =>
      simp only [List.forall_mem_cons] at hlt
      have hc : c % 4 = 0 := hunused
      rw [encode, toNat_ofNat (by omega), toNat_ofNat (by omega)]
      have h₁ : (a * 4 + b / 16) / 4 = a := by omega
      have h₂ : (a * 4 + b / 16) % 4 * 16 + (b % 16 * 16 + c / 4) / 16 = b := by omega
      have h₃ : (b % 16 * 16 + c / 4) % 16 * 4 = c := by omega
      rw [h₁, h₂, h₃]
      rfl
  | case3 a b =>
      simp only [List.forall_mem_cons] at hlt
      have hb : b % 16 = 0 := hunused
      rw [encode, toNat_ofNat (by omega)]
      have h₁ : (a * 4 + b / 16) / 4 = a := by omega
      have h₂ : (a * 4 + b / 16) % 4 * 16 = b := by omega
      rw [h₁, h₂]
      rfl
  | case4 values h₁ h₂ h₃ =>
      match values with
      | [] => rfl
      | [a] => exact absurd rfl hlength
      | [a, b] => exact absurd rfl (h₃ a b)
      | [a, b, c] => exact absurd rfl (h₂ a b c)
      | a :: b :: c :: d :: rest => exact absurd rfl (h₁ a b c d rest)

/-- All bytes are unpacked from whole values. -/
theorem exists_unpack (bs : Bytes) : ∃ values, IsWhole values ∧ unpack values = bs := by
  fun_induction encode bs with
  | case1 => exact ⟨[], ⟨by simp, by simp, rfl⟩, rfl⟩
  | case2 a =>
      have ha := a.toNat_lt
      refine ⟨[a.toNat / 4, a.toNat % 4 * 16], ⟨?_, by simp, Nat.mul_mod_left ..⟩, ?_⟩
      · simp only [List.forall_mem_cons]
        exact ⟨by omega, by omega, by simp⟩
      · have h₁ : a.toNat / 4 * 4 + a.toNat % 4 * 16 / 16 = a.toNat := by omega
        rw [unpack, h₁, UInt8.ofNat_toNat]
  | case3 a b =>
      have ha := a.toNat_lt
      have hb := b.toNat_lt
      refine ⟨[a.toNat / 4, a.toNat % 4 * 16 + b.toNat / 16, b.toNat % 16 * 4],
        ⟨?_, by simp, Nat.mul_mod_left ..⟩, ?_⟩
      · simp only [List.forall_mem_cons]
        exact ⟨by omega, by omega, by omega, by simp⟩
      · have h₁ : a.toNat / 4 * 4 + (a.toNat % 4 * 16 + b.toNat / 16) / 16 = a.toNat := by omega
        have h₂ : (a.toNat % 4 * 16 + b.toNat / 16) % 16 * 16 + b.toNat % 16 * 4 / 4 =
            b.toNat := by omega
        rw [unpack, h₁, h₂, UInt8.ofNat_toNat, UInt8.ofNat_toNat]
  | case4 a b c rest ih =>
      obtain ⟨values, ⟨hlt, hlength, hunused⟩, hvalues⟩ := ih
      have ha := a.toNat_lt
      have hb := b.toNat_lt
      have hc := c.toNat_lt
      refine ⟨a.toNat / 4 :: (a.toNat % 4 * 16 + b.toNat / 16) ::
        (b.toNat % 16 * 4 + c.toNat / 64) :: c.toNat % 64 :: values, ⟨?_, ?_, ?_⟩, ?_⟩
      · simp only [List.forall_mem_cons]
        exact ⟨by omega, by omega, by omega, by omega, hlt⟩
      · rwa [length_group]
      · rwa [unusedBits_group]
      · have h₁ : a.toNat / 4 * 4 + (a.toNat % 4 * 16 + b.toNat / 16) / 16 = a.toNat := by omega
        have h₂ : (a.toNat % 4 * 16 + b.toNat / 16) % 16 * 16 +
            (b.toNat % 16 * 4 + c.toNat / 64) / 4 = b.toNat := by omega
        have h₃ : (b.toNat % 16 * 4 + c.toNat / 64) % 4 * 64 + c.toNat % 64 = c.toNat := by omega
        rw [unpack, hvalues, h₁, h₂, h₃, UInt8.ofNat_toNat, UInt8.ofNat_toNat, UInt8.ofNat_toNat]

/-! ## Reading -/

theorem firstInvalid?_eq_none {offset : Nat} {bs : Bytes} :
    firstInvalid? offset bs = none ↔ ∀ b ∈ bs, (value? b).isSome := by
  induction bs generalizing offset with
  | nil => simp [firstInvalid?]
  | cons b bs ih =>
      rw [firstInvalid?, List.forall_mem_cons]
      cases hb : value? b with
      | none => simp
      | some v => simp [ih]

theorem checkTail_nil {start seen : Nat} {firstPad : Option Nat} :
    checkTail start seen firstPad [] = .ok () ↔ seen % 4 = 0 := by
  rw [checkTail]
  split <;> simp [*]

/-- Padding begins with the third or the fourth symbol of a group, and nothing but padding follows.
-/
theorem checkTail_pad {start seen : Nat} {firstPad : Option Nat} {bs : Bytes} :
    checkTail start seen firstPad (pad :: bs) = .ok () ↔
      2 ≤ seen % 4 ∧ checkTail start (seen + 1) (some (firstPad.getD seen)) bs = .ok () := by
  rw [checkTail.eq_def]
  dsimp only
  rw [if_pos rfl]
  split
  · rename_i hseen
    simp [Nat.not_le_of_lt hseen]
  · rename_i hseen
    simp [Nat.le_of_not_lt hseen]

theorem checkTail_none_symbol {start seen : Nat} {b : UInt8} {bs : Bytes} (hb : b ≠ pad) :
    checkTail start seen none (b :: bs) = .ok () ↔
      (value? b).isSome ∧ checkTail start (seen + 1) none bs = .ok () := by
  rw [checkTail, if_neg hb]
  cases value? b <;> simp

/-- No symbol comes after padding. -/
theorem checkTail_some_symbol {start seen first : Nat} {b : UInt8} {bs : Bytes} (hb : b ≠ pad) :
    checkTail start seen (some first) (b :: bs) ≠ .ok () := by
  rw [checkTail, if_neg hb]
  simp

/-- After some padding there can only be more of it. -/
theorem checkTail_some_eq_ok {start seen first : Nat} {bs : Bytes} :
    checkTail start seen (some first) bs = .ok () ↔
      ∃ k ≤ 2, bs = List.replicate k pad ∧ (seen + k) % 4 = 0 := by
  induction bs generalizing seen with
  | nil =>
      rw [checkTail_nil]
      constructor
      · exact fun hseen => ⟨0, by omega, rfl, hseen⟩
      · rintro ⟨k, -, hk, hseen⟩
        cases k with
        | zero => exact hseen
        | succ k => cases hk
  | cons b bs ih =>
      by_cases hb : b = pad
      · subst hb
        rw [checkTail_pad, Option.getD_some, ih]
        constructor
        · rintro ⟨hseen, k, hk, rfl, hfull⟩
          exact ⟨k + 1, by omega, rfl, by omega⟩
        · rintro ⟨k, hk, heq, hfull⟩
          cases k with
          | zero => cases heq
          | succ k =>
              obtain rfl := (List.cons.inj heq).2
              exact ⟨by omega, k, by omega, rfl, by omega⟩
      · refine iff_of_false (checkTail_some_symbol hb) ?_
        rintro ⟨k, -, heq, -⟩
        have hmem : b ∈ List.replicate k pad := heq ▸ List.mem_cons_self
        exact hb (List.eq_of_mem_replicate hmem)

/-- A tail is made of symbols and then of padding that fills it up. -/
theorem checkTail_none_eq_ok {start seen : Nat} {bs : Bytes} :
    checkTail start seen none bs = .ok () ↔
      ∃ symbols k, k ≤ 2 ∧ bs = symbols ++ List.replicate k pad ∧
        (∀ b ∈ symbols, (value? b).isSome) ∧ (seen + symbols.length + k) % 4 = 0 := by
  induction bs generalizing seen with
  | nil =>
      rw [checkTail_nil]
      constructor
      · exact fun hseen => ⟨[], 0, by omega, rfl, by simp, hseen⟩
      · rintro ⟨symbols, k, -, heq, -, hfull⟩
        obtain ⟨rfl, hk⟩ := List.append_eq_nil_iff.mp heq.symm
        cases k with
        | zero => exact hfull
        | succ k => cases hk
  | cons b bs ih =>
      by_cases hb : b = pad
      · subst hb
        rw [checkTail_pad, checkTail_some_eq_ok]
        constructor
        · rintro ⟨hseen, k, hk, rfl, hfull⟩
          exact ⟨[], k + 1, by omega, rfl, by simp, by simp; omega⟩
        · rintro ⟨symbols, k, hk, heq, hsymbols, hfull⟩
          cases symbols with
          | cons b' symbols =>
              obtain ⟨rfl, -⟩ := List.cons.inj heq
              cases hsymbols pad List.mem_cons_self
          | nil =>
              cases k with
              | zero => cases heq
              | succ k =>
                  obtain rfl := (List.cons.inj heq).2
                  exact ⟨by simp at hfull; omega, k, by omega, rfl, by simp at hfull; omega⟩
      · rw [checkTail_none_symbol hb, ih]
        constructor
        · rintro ⟨hsome, symbols, k, hk, rfl, hsymbols, hfull⟩
          refine ⟨b :: symbols, k, hk, rfl, List.forall_mem_cons.mpr ⟨hsome, hsymbols⟩, ?_⟩
          rw [List.length_cons]
          omega
        · rintro ⟨symbols, k, hk, heq, hsymbols, hfull⟩
          cases symbols with
          | nil =>
              have hmem : b ∈ [] ++ List.replicate k pad := heq ▸ List.mem_cons_self
              exact absurd (List.eq_of_mem_replicate hmem) hb
          | cons b' symbols =>
              obtain ⟨rfl, rfl⟩ := List.cons.inj heq
              obtain ⟨hsome, hsymbols⟩ := List.forall_mem_cons.mp hsymbols
              rw [List.length_cons] at hfull
              exact ⟨hsome, symbols, k, hk, rfl, hsymbols, by omega⟩

/-- What a text has to satisfy to be decoded, in the order in which it is checked. -/
theorem decode_eq_ok {s bs : Bytes} :
    decode s = .ok bs ↔
      s.length % 4 ≠ 1 ∧ firstInvalid? 0 (s.take (tailStart s.length)) = none ∧
        checkTail (tailStart s.length) 0 none (s.drop (tailStart s.length)) = .ok () ∧
        unusedBits ((s.filter (· != pad)).filterMap value?) = 0 ∧
        unpack ((s.filter (· != pad)).filterMap value?) = bs := by
  simp only [decode, bind, Except.bind]
  by_cases hlength : s.length % 4 = 1
  · simp only [hlength]
    constructor
    · intro h
      simp only [if_true] at h
      split at h <;> cases h
    · exact fun h => absurd rfl h.1
  · simp only [if_neg hlength]
    cases hinvalid : firstInvalid? 0 (s.take (tailStart s.length)) with
    | some found => simp [throw, throwThe, MonadExceptOf.throw]
    | none =>
      cases htail : checkTail (tailStart s.length) 0 none (s.drop (tailStart s.length)) with
      | error e => simp
      | ok u =>
        by_cases hunused : unusedBits ((s.filter (· != pad)).filterMap value?) = 0
        · simp [hlength, hunused, pure, Except.pure]
        · simp [hunused, throw, throwThe, MonadExceptOf.throw]

theorem tailStart_mod (length : Nat) : tailStart length % 4 = 0 := by
  rw [tailStart]
  split <;> omega

theorem tailStart_le_length (length : Nat) : tailStart length ≤ length := by
  rw [tailStart]
  split <;> omega

/-- All padding stands in the tail. -/
theorem tailStart_le {length : Nat} (h : length % 4 = 0) : tailStart length ≤ length - 4 := by
  rw [tailStart]
  split <;> omega

theorem length_written (values : List Nat) :
    (written values).length = values.length + (4 - values.length % 4) % 4 := by
  rw [written, List.length_append, List.length_map, List.length_replicate]

/-- The symbols of a text are what is not padding. -/
theorem filter_written {values : List Nat} (h : ∀ v ∈ values, v < 64) (k : Nat) :
    (values.map symbol ++ List.replicate k pad).filter (· != pad) = values.map symbol := by
  have hsymbols : (values.map symbol).filter (· != pad) = values.map symbol := by
    apply List.filter_eq_self.mpr
    intro b hb
    obtain ⟨v, hv, rfl⟩ := List.mem_map.mp hb
    simpa using symbol_ne_pad (h v hv)
  rw [List.filter_append, hsymbols, List.filter_replicate_of_neg (by simp), List.append_nil]

theorem isSome_value?_of_mem_map {values : List Nat} (h : ∀ v ∈ values, v < 64) :
    ∀ b ∈ values.map symbol, (value? b).isSome := by
  intro b hb
  obtain ⟨v, hv, rfl⟩ := List.mem_map.mp hb
  rw [value?_symbol (h v hv)]
  rfl

/-- Nothing but the text of a whole number of bytes can be read. -/
theorem exists_written_of_decode {s bs : Bytes} (h : decode s = .ok bs) :
    ∃ values, IsWhole values ∧ unpack values = bs ∧ s = written values := by
  obtain ⟨-, hhead, htail, hunused, hbs⟩ := decode_eq_ok.mp h
  rw [firstInvalid?_eq_none] at hhead
  obtain ⟨symbols, k, hk, heq, hsymbols, hfull⟩ := checkTail_none_eq_ok.mp htail
  have hall : ∀ b ∈ s.take (tailStart s.length) ++ symbols, (value? b).isSome :=
    fun b hb => (List.mem_append.mp hb).elim (hhead b) (hsymbols b)
  obtain ⟨values, hlt, hvalues⟩ := exists_values hall
  have hs : s = values.map symbol ++ List.replicate k pad := by
    rw [hvalues, List.append_assoc, ← heq, List.take_append_drop]
  have hlength : (values.length + k) % 4 = 0 := by
    have hcount := congrArg List.length hvalues
    rw [List.length_map, List.length_append, List.length_take_of_le (tailStart_le_length _)]
      at hcount
    have hstart := tailStart_mod s.length
    omega
  rw [hs, filter_written hlt, filterMap_value? hlt] at hunused hbs
  refine ⟨values, ⟨hlt, by omega, hunused⟩, hbs, ?_⟩
  rw [hs, written]
  congr
  omega

/-- The text of whole values is decoded to what is unpacked from them. -/
theorem decode_written {values : List Nat} (h : IsWhole values) :
    decode (written values) = .ok (unpack values) := by
  obtain ⟨hlt, hlength, hunused⟩ := h
  apply decode_eq_ok.mpr
  have hmod : (written values).length % 4 = 0 := by
    rw [length_written]
    omega
  have hstart : tailStart (written values).length ≤ values.length := by
    have hle := tailStart_le hmod
    rw [length_written] at hle ⊢
    omega
  have hgroup := tailStart_mod (written values).length
  generalize tailStart (written values).length = start at hstart hgroup ⊢
  have hvalid := isSome_value?_of_mem_map hlt
  have hle : start ≤ (values.map symbol).length := by rwa [List.length_map]
  refine ⟨by omega, ?_, ?_, ?_, ?_⟩
  · rw [firstInvalid?_eq_none, written, List.take_append_of_le_length hle]
    exact fun b hb => hvalid b (List.mem_of_mem_take hb)
  · rw [checkTail_none_eq_ok, written, List.drop_append_of_le_length hle]
    refine ⟨_, _, by omega, rfl, fun b hb => hvalid b (List.mem_of_mem_drop hb), ?_⟩
    rw [List.length_drop, List.length_map]
    omega
  · rwa [written, filter_written hlt, filterMap_value? hlt]
  · rw [written, filter_written hlt, filterMap_value? hlt]

/-- What is written can be read, and nothing else can. -/
theorem decode_eq_ok_iff {s bs : Bytes} : decode s = .ok bs ↔ s = encode bs := by
  constructor
  · intro h
    obtain ⟨values, hwhole, rfl, rfl⟩ := exists_written_of_decode h
    exact (encode_unpack hwhole).symm
  · rintro rfl
    obtain ⟨values, hwhole, rfl⟩ := exists_unpack bs
    rw [encode_unpack hwhole, decode_written hwhole]

/-! ## Texts of bytes -/

theorem encode_ascii (bs : Bytes) : ∀ b ∈ encode bs, b < 0x80 := by
  obtain ⟨values, hwhole, rfl⟩ := exists_unpack bs
  rw [encode_unpack hwhole, written]
  intro b hb
  rcases List.mem_append.mp hb with hb | hb
  · obtain ⟨v, hv, rfl⟩ := List.mem_map.mp hb
    exact symbol_ascii (hwhole.lt v hv)
  · rw [List.eq_of_mem_replicate hb]
    decide

theorem bytesOf_encodeText (bs : Bytes) : bytesOf (encodeText bs) = encode bs := by
  have htext := Utf8.bytesOf_ascii (encode_ascii bs)
  rw [encodeText, Utf8.decode?_eq_some.mpr htext, Option.getD_some, htext]

/-- A string can be read as base64 exactly when it is the text of what is read. -/
theorem decode_bytesOf_eq_ok_iff {s : String} {bs : Bytes} :
    decode (bytesOf s) = .ok bs ↔ s = encodeText bs := by
  rw [decode_eq_ok_iff, ← bytesOf_encodeText, bytesOf_injective.eq_iff]

end MapScout.Base64
