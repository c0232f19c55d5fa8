import MapScout.Json.Record
import MapScout.Proofs.Json.Values
import MapScout.Proofs.Number.Binary64

/-!
# Records and their fields

The fields that are written for a record are those that are read from it, and a number is read from
the literal that is written for it.
-/

namespace MapScout.Json

/-! ## Fields -/

/-- Fields with different names, all of them known, are all read. -/
theorem knownMembers_fields {names : List String} {members : List (String × Json)}
    (hnames : ∀ m ∈ members, m.1 ∈ names) (hnodup : (members.map (·.1)).Nodup) :
    knownMembers names (members.map fun (k, v) => (some k, v)) = some members := by
  induction members with
  | nil => rfl
  | cons m members ih =>
      obtain ⟨hm, hmembers⟩ := List.forall_mem_cons.mp hnames
      obtain ⟨hfresh, hnodup⟩ := List.nodup_cons.mp hnodup
      have hother : members.any (·.1 == m.1) = false := by
        rw [List.any_eq_false]
        intro m' hm' he
        exact hfresh (List.mem_map.mpr ⟨m', hm', eq_of_beq he⟩)
      rw [List.map_cons, knownMembers, ih hmembers hnodup]
      simp [hm, hother]

/-- A record is read from an object that gives each of its fields at most once. -/
theorem record?_fields {names : List String} {members : List (String × Json)}
    (hnames : ∀ m ∈ members, m.1 ∈ names) (hnodup : (members.map (·.1)).Nodup) :
    record? names (.fields members) = some members :=
  knownMembers_fields hnames hnodup

namespace Record

section Fields

variable {α : Type} {r : Record} {name : String} {value? : Json → Option α} {j : Json} {a default : α}

theorem required_of_get? (hget : r.get? name = some j) (h : value? j = some a) :
    r.required name value? = some a := by
  rw [required, hget, Option.bind_some, h]

theorem optional_of_get? (hget : r.get? name = some j) (h : value? j = some a) :
    r.optional name value? default = some a := by
  rw [optional, hget]
  exact h

/-- A field that is left out when it has its default. -/
theorem optional_of_get?_ite {p : Prop} [Decidable p]
    (hget : r.get? name = if p then none else some j) (hdefault : p → a = default)
    (h : ¬ p → value? j = some a) : r.optional name value? default = some a := by
  by_cases hp : p
  · rw [optional, hget, if_pos hp, hdefault hp]
  · rw [if_neg hp] at hget
    exact optional_of_get? hget (h hp)

theorem exists_of_required (h : r.required name value? = some a) : ∃ j, value? j = some a := by
  obtain ⟨j, -, hj⟩ := Option.bind_eq_some_iff.mp h
  exact ⟨j, hj⟩

/-- A field that may be missing gives its default or what has been read. -/
theorem exists_of_optional (h : r.optional name value? default = some a) :
    a = default ∨ ∃ j, value? j = some a := by
  rw [optional] at h
  split at h
  next => exact .inl (Option.some.inj h).symm
  next j _ => exact .inr ⟨j, h⟩

theorem get?_append (r r' : Record) (name : String) :
    get? (r ++ r') name = (r.get? name).or (r'.get? name) := by
  simp only [get?, List.find?_append, Option.map_or]

end Fields

end Record

theorem text?_text (s : String) : (text s).text? = some s := rfl

/-- Only `null` stands for nothing. -/
theorem option?_of_ne_null {α : Type} {value? : Json → Option α} {j : Json} {a : α}
    (h : value? j = some a) (hj : j ≠ .null) : option? value? j = some (some a) := by
  cases j with
  | null => exact absurd rfl hj
  | _ => exact congrArg (Option.map some) h

/-! ## Words -/

theorem isWritable_nat (n : Nat) : IsWritable (nat n) :=
  .number (by simp [IsLiteral, Numeral.ofNat])

theorem natBelow?_nat {bound n : Nat} (h : n < bound) : (nat n).natBelow? bound = some n := by
  have hbound : (n : Int) < bound := by exact_mod_cast h
  have hinteger : (nat n).integer? = some (n : Int) := rfl
  simp [natBelow?, hinteger, hbound]

theorem uint8?_nat (n : UInt8) : (nat n.toNat).uint8? = some n := by
  have hlt : n.toNat < twoTo 8 := n.toNat_lt
  rw [uint8?, natBelow?_nat hlt, Option.map_some, UInt8.ofNat_toNat]

theorem uint16?_nat (n : UInt16) : (nat n.toNat).uint16? = some n := by
  have hlt : n.toNat < twoTo 16 := n.toNat_lt
  rw [uint16?, natBelow?_nat hlt, Option.map_some, UInt16.ofNat_toNat]

theorem uint32?_nat (n : UInt32) : (nat n.toNat).uint32? = some n := by
  have hlt : n.toNat < twoTo 32 := n.toNat_lt
  rw [uint32?, natBelow?_nat hlt, Option.map_some, UInt32.ofNat_toNat]

theorem uint64?_nat (n : UInt64) : (nat n.toNat).uint64? = some n := by
  have hlt : n.toNat < twoTo 64 := n.toNat_lt
  rw [uint64?, natBelow?_nat hlt, Option.map_some, UInt64.ofNat_toNat]

theorem isWritable_int (n : Int) : IsWritable (int n) :=
  .number (by simp [IsLiteral, Numeral.ofInt])

/-- A zero is written without a sign, so it is read as a whole number like all others. -/
theorem integer?_int (n : Int) : (int n).integer? = some n := by
  simp only [int, integer?, Numeral.integer?, Numeral.ofInt, decide_eq_true_eq]
  split_ifs
  · omega
  · congr 1
    omega
  · congr 1
    omega

theorem int64?_int (n : Int64) : (int n.toInt).int64? = some n := by
  have hlow : -((twoTo 63 : Nat) : Int) ≤ n.toInt := n.le_toInt
  have hhigh : n.toInt < (twoTo 63 : Nat) := n.toInt_lt
  rw [int64?, integer?_int, Option.bind_eq_bind, Option.bind_some, if_pos ⟨hlow, hhigh⟩,
    Int64.ofInt_toInt]

/-! ## Floating-point numbers -/

theorem isWritable_float (x : Binary64) : IsWritable (float x) :=
  .number (Numeral.places_ofBinary64_ne x)

theorem float?_float {x : Binary64} (h : x.isFinite) : (float x).float? = some x :=
  Numeral.binary64?_ofBinary64 h

theorem isFinite_of_float? {j : Json} {x : Binary64} (h : j.float? = some x) : x.isFinite := by
  cases j with
  | number n => exact Numeral.isFinite_of_binary64? h
  | _ => cases h

theorem Record.isFinite_of_required {r : Record} {name : String} {x : Binary64}
    (h : r.required name float? = some x) : x.isFinite := by
  obtain ⟨j, hj⟩ := exists_of_required h
  exact isFinite_of_float? hj

end MapScout.Json
