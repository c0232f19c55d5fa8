import MapScout.Stock.Inventory

/-!
# Ledgers

A ledger keeps records that can be claimed, and whoever claims one holds a copy of it.  The ledger
is balanced if a record is claimed exactly when somebody holds a copy.  A record that has become
void is written off: nobody will claim it again, and it does not matter how it is marked.
-/

namespace MapScout

/-- How to read the records of a ledger. -/
structure Ledger (α κ : Type) where
  /-- What a record and its copies are known by. -/
  key : α → κ
  isClaimed : α → Bool
  isVoid : α → Bool

namespace Ledger

variable {α κ : Type} (L : Ledger α κ)

/-- The claims on the records are those of the copies that are held. -/
structure Balanced (records copies : List α) : Prop where
  records_nodup : (records.map L.key).Nodup
  copies_nodup : (copies.map L.key).Nodup
  claimed_iff : ∀ r ∈ records, L.isVoid r = false →
    (L.isClaimed r = true ↔ L.key r ∈ copies.map L.key)
  void_of_copy : ∀ r ∈ records, ∀ c ∈ copies, L.key r = L.key c → L.isVoid c = true →
    L.isVoid r = true

variable {records copies : List α} {c c' r : α} {k : κ} {f : α → α}

/-! ## The balance without changes of a record -/

namespace Balanced

variable {L}

theorem perm {copies' : List α} (h : L.Balanced records copies) (hperm : copies'.Perm copies) :
    L.Balanced records copies' where
  records_nodup := h.records_nodup
  copies_nodup := (hperm.map L.key).nodup_iff.mpr h.copies_nodup
  claimed_iff r hr hvoid := (h.claimed_iff r hr hvoid).trans (hperm.map L.key).mem_iff.symm
  void_of_copy r hr c hc := h.void_of_copy r hr c (hperm.mem_iff.mp hc)

/-- A void copy is thrown away. -/
theorem drop (h : L.Balanced records (c :: copies)) (hvoid : L.isVoid c = true) :
    L.Balanced records copies where
  records_nodup := h.records_nodup
  copies_nodup := (List.nodup_cons.mp h.copies_nodup).2
  claimed_iff r hr hvalid := by
    rw [h.claimed_iff r hr hvalid, List.map_cons, List.mem_cons]
    apply or_iff_right
    intro hsame
    rw [h.void_of_copy r hr c List.mem_cons_self hsame hvoid] at hvalid
    cases hvalid
  void_of_copy r hr c' hc' := h.void_of_copy r hr c' (List.mem_cons_of_mem _ hc')

/-- A holder learns that its record is void. -/
theorem learn (h : L.Balanced records (c :: copies)) (hkey : L.key c' = L.key c)
    (hvoid : ∀ r ∈ records, L.key r = L.key c → L.isVoid r = true) :
    L.Balanced records (c' :: copies) where
  records_nodup := h.records_nodup
  copies_nodup := by
    rw [List.map_cons, hkey]
    exact h.copies_nodup
  claimed_iff r hr hvalid := by
    rw [List.map_cons, hkey]
    exact h.claimed_iff r hr hvalid
  void_of_copy r hr c'' hc'' hsame hspent := by
    rcases List.mem_cons.mp hc'' with rfl | hc''
    · exact hvoid r hr (hsame.trans hkey)
    · exact h.void_of_copy r hr c'' (List.mem_cons_of_mem _ hc'') hsame hspent

theorem filter (h : L.Balanced records copies) (p : α → Bool) :
    L.Balanced (records.filter p) copies where
  records_nodup := h.records_nodup.sublist (List.filter_sublist.map _)
  copies_nodup := h.copies_nodup
  claimed_iff r hr := h.claimed_iff r (List.mem_filter.mp hr).1
  void_of_copy r hr := h.void_of_copy r (List.mem_filter.mp hr).1

/-- A record is added that nobody has a copy of. -/
theorem insert {records' : List α} (h : L.Balanced records copies)
    (hrecords : records'.Perm (r :: records)) (hnew : L.key r ∉ records.map L.key)
    (hnobody : L.key r ∉ copies.map L.key) (hfree : L.isClaimed r = false) :
    L.Balanced records' copies := by
  constructor
  · rw [(hrecords.map L.key).nodup_iff]
    exact List.nodup_cons.mpr ⟨hnew, h.records_nodup⟩
  · exact h.copies_nodup
  · intro r' hr' hvalid
    rcases List.mem_cons.mp (hrecords.mem_iff.mp hr') with rfl | hr'
    · refine iff_of_false ?_ hnobody
      rw [hfree]
      exact Bool.false_ne_true
    · exact h.claimed_iff r' hr' hvalid
  · intro r' hr' c hc hsame hspent
    rcases List.mem_cons.mp (hrecords.mem_iff.mp hr') with rfl | hr'
    · rw [hsame] at hnobody
      exact absurd (List.mem_map_of_mem hc) hnobody
    · exact h.void_of_copy r' hr' c hc hsame hspent

end Balanced

/-! ## Changing one record -/

variable [DecidableEq κ]

def modify (k : κ) (f : α → α) (records : List α) : List α :=
  records.map fun r => if L.key r = k then f r else r

theorem modify_eq_self (hk : k ∉ records.map L.key) : L.modify k f records = records := by
  refine (List.map_congr_left fun r hr => if_neg ?_).trans (List.map_id _)
  rintro rfl
  exact hk (List.mem_map_of_mem hr)

theorem mem_modify : r ∈ L.modify k f records ↔
    (r ∈ records ∧ L.key r ≠ k) ∨ ∃ a ∈ records, L.key a = k ∧ f a = r := by
  rw [modify, List.mem_map]
  constructor
  · rintro ⟨a, ha, rfl⟩
    by_cases hk : L.key a = k
    · rw [if_pos hk]
      exact Or.inr ⟨a, ha, hk, rfl⟩
    · rw [if_neg hk]
      exact Or.inl ⟨ha, hk⟩
  · rintro (⟨hr, hk⟩ | ⟨a, ha, hk, rfl⟩)
    · exact ⟨r, hr, if_neg hk⟩
    · exact ⟨a, ha, if_pos hk⟩

theorem map_key_modify (hkey : ∀ a, L.key (f a) = L.key a) :
    (L.modify k f records).map L.key = records.map L.key := by
  rw [modify, List.map_map]
  apply List.map_congr_left
  intro r _
  dsimp only [Function.comp_apply]
  split
  · exact hkey r
  · rfl

/-- With no key twice, a change to the first match is a change at its key. -/
theorem modifyFirst_eq_modify {p : α → Bool} (hnodup : (records.map L.key).Nodup)
    (hfind : records.find? p = some r) :
    Inventory.modifyFirst p f records = L.modify (L.key r) f records := by
  induction records with
  | nil => cases hfind
  | cons a rest ih =>
      obtain ⟨ha, hnodup⟩ := List.nodup_cons.mp hnodup
      rw [Inventory.modifyFirst]
      by_cases hp : p a = true
      · rw [List.find?_cons_of_pos hp] at hfind
        obtain rfl := Option.some.inj hfind
        have hrest : L.modify (L.key a) f rest = rest := L.modify_eq_self ha
        rw [if_pos hp, modify, List.map_cons, if_pos rfl, ← modify, hrest]
      · rw [List.find?_cons_of_neg hp] at hfind
        have hne : L.key a ≠ L.key r := by
          intro he
          rw [he] at ha
          exact ha (List.mem_map_of_mem (List.mem_of_find?_eq_some hfind))
        rw [if_neg hp, ih hnodup hfind, modify, modify, List.map_cons, if_neg hne]

/-- With no key twice, a change to the first record of a key is a change at that key. -/
theorem modifyFirst_key (hnodup : (records.map L.key).Nodup) :
    Inventory.modifyFirst (fun a => L.key a == k) f records = L.modify k f records := by
  cases hfind : records.find? fun a => L.key a == k with
  | some r =>
      have hk : L.key r = k := by simpa using List.find?_some hfind
      rw [L.modifyFirst_eq_modify hnodup hfind, hk]
  | none =>
      have hnone : ∀ a ∈ records, ¬ L.key a = k := by simpa using hfind
      have hk : k ∉ records.map L.key := by simpa using hnone
      rw [L.modify_eq_self hk]
      clear hnodup hfind hk
      induction records with
      | nil => rfl
      | cons a rest ih =>
          obtain ⟨ha, hrest⟩ := List.forall_mem_cons.mp hnone
          rw [Inventory.modifyFirst, if_neg (by simpa using ha), ih hrest]

theorem find?_key (hnodup : (records.map L.key).Nodup) (hr : r ∈ records) :
    records.find? (fun a => L.key a == L.key r) = some r := by
  induction records with
  | nil => cases hr
  | cons a rest ih =>
      obtain ⟨ha, hnodup⟩ := List.nodup_cons.mp hnodup
      rcases List.mem_cons.mp hr with rfl | hr
      · exact List.find?_cons_of_pos (beq_self_eq_true _)
      · have hne : L.key a ≠ L.key r := by
          intro he
          rw [he] at ha
          exact ha (List.mem_map_of_mem hr)
        rw [List.find?_cons_of_neg (by simpa using hne)]
        exact ih hnodup hr

/-! ## The balance after a change -/

namespace Balanced

variable {L}

/-- A free record is claimed, and its copy handed out. -/
theorem claim (h : L.Balanced records copies) (hr : r ∈ records) (hfree : L.isClaimed r = false)
    (hvalid : L.isVoid r = false) (hkey : ∀ a, L.key (f a) = L.key a)
    (hclaimed : ∀ a, L.isClaimed (f a) = true) (hvoid : ∀ a, L.isVoid (f a) = L.isVoid a) :
    L.Balanced (L.modify (L.key r) f records) (f r :: copies) := by
  have hnew : L.key r ∉ copies.map L.key := by
    rw [← h.claimed_iff r hr hvalid, hfree]
    exact Bool.false_ne_true
  constructor
  · rw [L.map_key_modify hkey]
    exact h.records_nodup
  · rw [List.map_cons, hkey]
    exact List.nodup_cons.mpr ⟨hnew, h.copies_nodup⟩
  · intro r' hr' hvalid'
    rw [List.map_cons, hkey, List.mem_cons]
    rcases L.mem_modify.mp hr' with ⟨hold, hne⟩ | ⟨a, ha, hk, rfl⟩
    · rw [h.claimed_iff r' hold hvalid']
      exact (or_iff_right hne).symm
    · exact iff_of_true (hclaimed a) (Or.inl ((hkey a).trans hk))
  · intro r' hr' c hc hsame hspent
    rcases List.mem_cons.mp hc with rfl | hc
    · rw [hvoid, hvalid] at hspent
      cases hspent
    · rcases L.mem_modify.mp hr' with ⟨hold, -⟩ | ⟨a, ha, hk, rfl⟩
      · exact h.void_of_copy r' hold c hc hsame hspent
      · rw [hkey, hk] at hsame
        rw [hsame] at hnew
        exact absurd (List.mem_map_of_mem hc) hnew

/-- A copy is given back and the claim taken off its record. -/
theorem release (h : L.Balanced records (c :: copies)) (hkey : ∀ a, L.key (f a) = L.key a)
    (hfree : ∀ a, L.isClaimed (f a) = false) (hvoid : ∀ a, L.isVoid (f a) = L.isVoid a) :
    L.Balanced (L.modify (L.key c) f records) copies := by
  obtain ⟨hgone, hnodup⟩ := List.nodup_cons.mp h.copies_nodup
  constructor
  · rw [L.map_key_modify hkey]
    exact h.records_nodup
  · exact hnodup
  · intro r hr hvalid
    rcases L.mem_modify.mp hr with ⟨hold, hne⟩ | ⟨a, ha, hk, rfl⟩
    · rw [h.claimed_iff r hold hvalid, List.map_cons, List.mem_cons]
      exact or_iff_right hne
    · apply iff_of_false
      · rw [hfree]
        exact Bool.false_ne_true
      · rw [hkey, hk]
        exact hgone
  · intro r hr c' hc' hsame hspent
    rcases L.mem_modify.mp hr with ⟨hold, -⟩ | ⟨a, ha, hk, rfl⟩
    · exact h.void_of_copy r hold c' (List.mem_cons_of_mem _ hc') hsame hspent
    · rw [hkey] at hsame
      rw [hvoid]
      exact h.void_of_copy a ha c' (List.mem_cons_of_mem _ hc') hsame hspent

/-- A record becomes void, and so may its copy. -/
theorem writeOff {copies' : List α} (h : L.Balanced records copies)
    (hkey : ∀ a, L.key (f a) = L.key a) (hvoid : ∀ a, L.isVoid (f a) = true)
    (hkeys : copies'.map L.key = copies.map L.key)
    (hothers : ∀ c ∈ copies', L.key c ≠ k → c ∈ copies) :
    L.Balanced (L.modify k f records) copies' := by
  constructor
  · rw [L.map_key_modify hkey]
    exact h.records_nodup
  · rw [hkeys]
    exact h.copies_nodup
  · intro r hr hvalid
    rw [hkeys]
    rcases L.mem_modify.mp hr with ⟨hold, -⟩ | ⟨a, -, -, rfl⟩
    · exact h.claimed_iff r hold hvalid
    · rw [hvoid] at hvalid
      cases hvalid
  · intro r hr c hc hsame hspent
    rcases L.mem_modify.mp hr with ⟨hold, hne⟩ | ⟨a, -, -, rfl⟩
    · rw [hsame] at hne
      exact h.void_of_copy r hold c (hothers c hc hne) hsame hspent
    · exact hvoid a

end Balanced

end Ledger

end MapScout
