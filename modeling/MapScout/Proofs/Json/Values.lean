import MapScout.Proofs.Json.Numbers
import MapScout.Proofs.Json.Strings

/-!
# Values and their texts

Reading the text of a value gives the value back.  The values that have a text are those whose
strings are Unicode text and whose numbers can be written; by induction over such a value, each part
of its text is read as the part that it was written for, whatever follows it.
-/

namespace MapScout.Json

/-- The values that have a text of their own. -/
inductive IsWritable : Json → Prop where
  | null : IsWritable .null
  | bool (b : Bool) : IsWritable (.bool b)
  | number {n : Numeral} (h : IsLiteral n) : IsWritable (.number n)
  | text (s : String) : IsWritable (.text s)
  | array {items : List Json} (h : ∀ v ∈ items, IsWritable v) : IsWritable (.array items)
  | fields {members : List (String × Json)} (h : ∀ m ∈ members, IsWritable m.2) :
      IsWritable (.fields members)

/-! ## What a text starts with -/

theorem skipBlanks_cons {b : UInt8} {bs : Bytes} (h : isBlank b = false) :
    skipBlanks (b :: bs) = b :: bs := by
  rw [skipBlanks, List.dropWhile_cons_of_neg (by simp [h])]

structure StartsValue (b : UInt8) : Prop where
  notBlank : isBlank b = false
  notClosing : b ≠ 0x5d

theorem startsValue_of_isDigit {b : UInt8} (h : Decimal.isDigit b = true) : StartsValue b := by
  refine ⟨?_, ?_⟩
  · rw [← Bool.not_eq_true]
    intro hblank
    simp only [isBlank, Bool.or_eq_true, decide_eq_true_eq] at hblank
    rcases hblank with ((rfl | rfl) | rfl) | rfl <;> cases h
  · rintro rfl
    cases h

theorem exists_head_renderNumeral (n : Numeral) :
    ∃ b bs, renderNumeral n = b :: bs ∧ (b = 0x2d ∨ Decimal.isDigit b = true) := by
  obtain ⟨d, ds, hd, hrender⟩ := exists_head_renderSignificand n.significand n.places
  rw [renderNumeral, hrender]
  cases n.negative with
  | true => exact ⟨_, _, rfl, .inl rfl⟩
  | false => exact ⟨_, _, rfl, .inr hd⟩

/-- The text of a value begins with a byte by which the reader knows a value. -/
theorem exists_head_render (v : Json) : ∃ b bs, render v = b :: bs ∧ StartsValue b := by
  cases v with
  | null => exact ⟨_, _, rfl, rfl, by decide⟩
  | bool b => cases b <;> exact ⟨_, _, rfl, rfl, by decide⟩
  | number n =>
      obtain ⟨b, bs, hrender, hb⟩ := exists_head_renderNumeral n
      refine ⟨b, bs, by rw [render, hrender], ?_⟩
      rcases hb with rfl | hb
      · exact ⟨rfl, by decide⟩
      · exact startsValue_of_isDigit hb
  | string s => exact ⟨_, _, rfl, rfl, by decide⟩
  | array items => exact ⟨_, _, by rw [render], rfl, by decide⟩
  | object members => exact ⟨_, _, by rw [render], rfl, by decide⟩

/-! ## One step of the reader -/

section Steps

variable {steps : Nat} {bs rest : Bytes} {v : Json} {key : Option String}

theorem readItems_last (acc : List Json) (h : readValue steps bs = some (v, 0x5d :: rest)) :
    readItems (steps + 1) acc bs = some ((v :: acc).reverse, rest) := by
  simp only [readItems, h, skipBlanks_cons (b := 0x5d) rfl]

theorem readItems_more (acc : List Json) (h : readValue steps bs = some (v, 0x2c :: rest)) :
    readItems (steps + 1) acc bs = readItems steps (v :: acc) rest := by
  simp only [readItems, h, skipBlanks_cons (b := 0x2c) rfl]

theorem readMembers_last {bs' : Bytes} (acc : List (Option String × Json))
    (hkey : readString bs = some (key, 0x3a :: bs'))
    (h : readValue steps bs' = some (v, 0x7d :: rest)) :
    readMembers (steps + 1) acc (0x22 :: bs) = some (((key, v) :: acc).reverse, rest) := by
  simp only [readMembers, hkey, h, skipBlanks_cons (b := 0x22) rfl, skipBlanks_cons (b := 0x3a) rfl,
    skipBlanks_cons (b := 0x7d) rfl]

theorem readMembers_more {bs' : Bytes} (acc : List (Option String × Json))
    (hkey : readString bs = some (key, 0x3a :: bs'))
    (h : readValue steps bs' = some (v, 0x2c :: rest)) :
    readMembers (steps + 1) acc (0x22 :: bs) = readMembers steps ((key, v) :: acc) rest := by
  simp only [readMembers, hkey, h, skipBlanks_cons (b := 0x22) rfl, skipBlanks_cons (b := 0x3a) rfl,
    skipBlanks_cons (b := 0x2c) rfl]

theorem readValue_string {s : String} (h : readString bs = some (some s, rest)) :
    readValue (steps + 1) (0x22 :: bs) = some (.text s, rest) := by
  simp [readValue, skipBlanks_cons (b := 0x22) rfl, h, text]

theorem readValue_items {b : UInt8} {items : List Json} (hb : StartsValue b)
    (h : readItems steps [] (b :: bs) = some (items, rest)) :
    readValue (steps + 1) (0x5b :: b :: bs) = some (.array items, rest) := by
  simp [readValue, skipBlanks_cons (b := 0x5b) rfl, skipBlanks_cons hb.notBlank, hb.notClosing, h]

theorem readValue_members {members : List (Option String × Json)}
    (h : readMembers steps [] (0x22 :: bs) = some (members, rest)) :
    readValue (steps + 1) (0x7b :: 0x22 :: bs) = some (.object members, rest) := by
  simp [readValue, skipBlanks_cons (b := 0x7b) rfl, skipBlanks_cons (b := 0x22) rfl, h]

end Steps

/-- A minus sign or a digit starts a number and nothing else. -/
theorem readValue_number {b : UInt8} {bs rest : Bytes} {n : Numeral} (steps : Nat)
    (hb : b = 0x2d ∨ Decimal.isDigit b = true)
    (h : readNumeral (b :: bs) = some (n, rest)) :
    readValue (steps + 1) (b :: bs) = some (.number n, rest) := by
  have hother : isBlank b = false ∧ b ≠ 0x6e ∧ b ≠ 0x74 ∧ b ≠ 0x66 ∧ b ≠ 0x22 ∧ b ≠ 0x5b ∧
      b ≠ 0x7b := by
    rcases hb with rfl | hb
    · decide
    · refine ⟨(startsValue_of_isDigit hb).notBlank, ?_, ?_, ?_, ?_, ?_, ?_⟩ <;>
        (rintro rfl; cases hb)
  obtain ⟨hblank, h₁, h₂, h₃, h₄, h₅, h₆⟩ := hother
  rw [readValue.eq_def, skipBlanks_cons hblank]
  simp [h₁, h₂, h₃, h₄, h₅, h₆, h]

/-! ## Reading the parts -/

/-- The text of a value is read as the value, with as many steps as it has bytes. -/
def Reads (v : Json) : Prop :=
  ∀ {steps : Nat} {rest : Bytes}, (render v).length ≤ steps → EndsNumber rest →
    readValue steps (render v ++ rest) = some (v, rest)

/-- The items of an array are read one by one, if each of them is read back. -/
theorem readItems_append {items : List Json} (hne : items ≠ []) (h : ∀ v ∈ items, Reads v)
    {steps : Nat} (hsteps : (renderItems items).length ≤ steps) (acc : List Json) (rest : Bytes) :
    readItems steps acc (renderItems items ++ rest) = some (acc.reverse ++ items, rest) := by
  induction items generalizing steps acc with
  | nil => exact absurd rfl hne
  | cons v items ih =>
      obtain ⟨hv, hitems⟩ := List.forall_mem_cons.mp h
      cases items with
      | nil =>
          rw [renderItems, List.length_append, List.length_singleton] at hsteps
          obtain ⟨steps, rfl⟩ := Nat.exists_eq_add_of_le' (show 1 ≤ steps by omega)
          rw [renderItems, List.append_assoc, List.singleton_append,
            readItems_last acc (hv (by omega) (endsNumber_cons.mpr rfl)), List.reverse_cons]
      | cons w items =>
          rw [renderItems, List.length_append, List.length_cons] at hsteps
          obtain ⟨steps, rfl⟩ := Nat.exists_eq_add_of_le' (show 1 ≤ steps by omega)
          rw [renderItems, List.append_assoc, List.cons_append,
            readItems_more acc (hv (by omega) (endsNumber_cons.mpr rfl)),
            ih (List.cons_ne_nil _ _) hitems (by omega), List.reverse_cons, List.append_assoc,
            List.singleton_append]

/-- The members of an object are read one by one, if each of their values is read back. -/
theorem readMembers_append {members : List (String × Json)} (hne : members ≠ [])
    (h : ∀ m ∈ members, Reads m.2) {steps : Nat}
    (hsteps : (renderMembers (members.map fun (k, v) => (some k, v))).length ≤ steps)
    (acc : List (Option String × Json)) (rest : Bytes) :
    readMembers steps acc (renderMembers (members.map fun (k, v) => (some k, v)) ++ rest) =
      some (acc.reverse ++ members.map fun (k, v) => (some k, v), rest) := by
  induction members generalizing steps acc with
  | nil => exact absurd rfl hne
  | cons m members ih =>
      obtain ⟨k, v⟩ := m
      obtain ⟨hv, hmembers⟩ : Reads v ∧ ∀ m ∈ members, Reads m.2 := List.forall_mem_cons.mp h
      cases members with
      | nil =>
          simp only [List.map_cons, List.map_nil, renderMembers, Option.getD_some,
            List.append_assoc, List.cons_append, List.length_append, List.length_cons,
            List.nil_append, renderString_append] at hsteps ⊢
          obtain ⟨steps, rfl⟩ := Nat.exists_eq_add_of_le' (show 1 ≤ steps by omega)
          rw [readMembers_last acc (readString_literal k _)
            (hv (by omega) (endsNumber_cons.mpr rfl)), List.reverse_cons]
      | cons w members =>
          simp only [List.map_cons, renderMembers, Option.getD_some, List.append_assoc,
            List.cons_append, List.length_append, List.length_cons, renderString_append]
            at hsteps ih ⊢
          obtain ⟨steps, rfl⟩ := Nat.exists_eq_add_of_le' (show 1 ≤ steps by omega)
          rw [readMembers_more acc (readString_literal k _)
            (hv (by omega) (endsNumber_cons.mpr rfl)),
            ih (List.cons_ne_nil _ _) hmembers (by omega), List.reverse_cons, List.append_assoc,
            List.singleton_append]

theorem length_render_pos (v : Json) : 0 < (render v).length := by
  obtain ⟨b, bs, hrender, -⟩ := exists_head_render v
  rw [hrender, List.length_cons]
  exact Nat.succ_pos _

/-- Reading takes at least one step, since no text is empty. -/
theorem reads_of_succ {v : Json}
    (h : ∀ {steps : Nat} {rest : Bytes}, (render v).length ≤ steps + 1 → EndsNumber rest →
      readValue (steps + 1) (render v ++ rest) = some (v, rest)) : Reads v := by
  intro steps rest hsteps hrest
  obtain ⟨steps, rfl⟩ := Nat.exists_eq_add_of_le' (Nat.le_trans (length_render_pos v) hsteps)
  exact h hsteps hrest

/-- A literal is read back as a value. -/
theorem reads_number {n : Numeral} (h : IsLiteral n) : Reads (.number n) := by
  refine reads_of_succ fun {steps rest} _ hrest => ?_
  obtain ⟨b, bs, hrender, hb⟩ := exists_head_renderNumeral n
  have hread := readNumeral_append h hrest
  rw [hrender, List.cons_append] at hread
  rw [render, hrender, List.cons_append]
  exact readValue_number steps hb hread

/-- An array is read back if all its items are. -/
theorem reads_array {items : List Json} (h : ∀ v ∈ items, Reads v) : Reads (.array items) := by
  refine reads_of_succ fun {steps rest} hsteps _ => ?_
  cases items with
  | nil => rfl
  | cons v items =>
      have hread := readItems_append (List.cons_ne_nil v items) h
        (Nat.le_of_succ_le_succ hsteps) [] rest
      have hhead : ∃ b bs, renderItems (v :: items) = b :: bs ∧ StartsValue b := by
        obtain ⟨b, bs, hrender, hb⟩ := exists_head_render v
        cases items with
        | nil => exact ⟨b, _, by rw [renderItems, hrender, List.cons_append], hb⟩
        | cons w items => exact ⟨b, _, by rw [renderItems, hrender, List.cons_append], hb⟩
      obtain ⟨b, bs, hrender, hb⟩ := hhead
      rw [hrender, List.cons_append] at hread
      rw [render, hrender, List.cons_append, List.cons_append]
      exact readValue_items hb hread

/-- An object is read back if all the values in it are. -/
theorem reads_fields {members : List (String × Json)} (h : ∀ m ∈ members, Reads m.2) :
    Reads (.fields members) := by
  refine reads_of_succ fun {steps rest} hsteps _ => ?_
  rw [fields] at hsteps ⊢
  cases members with
  | nil => rfl
  | cons m members =>
      have hread := readMembers_append (List.cons_ne_nil m members) h
        (Nat.le_of_succ_le_succ hsteps) [] rest
      have hhead : ∃ bs, renderMembers ((m :: members).map fun (k, v) => (some k, v)) =
          0x22 :: bs := by
        cases members <;> exact ⟨_, rfl⟩
      obtain ⟨bs, hrender⟩ := hhead
      rw [hrender, List.cons_append] at hread
      rw [render, hrender, List.cons_append, List.cons_append]
      exact readValue_members hread

/-- Every value that has a text is read from it. -/
theorem reads_of_isWritable {v : Json} (h : IsWritable v) : Reads v := by
  induction h with
  | null => exact reads_of_succ fun _ _ => rfl
  | bool b => cases b <;> exact reads_of_succ fun _ _ => rfl
  | number h => exact reads_number h
  | text s =>
      refine reads_of_succ fun {steps rest} _ _ => ?_
      rw [text, render, Option.getD_some, renderString_append]
      exact readValue_string (readString_literal s rest)
  | array _ ih => exact reads_array ih
  | fields _ ih => exact reads_fields ih

/-- Nothing is lost in the text of a value. -/
theorem ofBytes?_render {v : Json} (h : IsWritable v) : ofBytes? (render v) = some v := by
  have hsteps : (render v).length ≤ 2 * (render v).length + 2 := by omega
  have hread := reads_of_isWritable h hsteps endsNumber_nil
  rw [List.append_nil] at hread
  rw [ofBytes?, hread]
  rfl

end MapScout.Json
