import Mathlib.Data.List.Perm.Basic
import MapScout.Stock.Inventory

/-!
# Lending accounts

Accounts are claimed by position, the first free record each time, but they are given back and saved
by name, in the first record of the name each time.  The two agree on a name as long as none of its
records but the first can be claimed.  Adding accounts keeps to that, since it leaves out the names
that are known; the list that an inventory is opened with is taken as it is.
-/

namespace MapScout

namespace Inventory

variable {i i' : Inventory} {accounts : List Account} {a b : Account} {u v : String} {n : Nat}
variable {f : Account → Account}

/-! ## Where records stand -/

theorem modifyFirst_eq_modify_findIdx {α : Type} (p : α → Bool) (f : α → α) (l : List α) :
    modifyFirst p f l = l.modify (l.findIdx p) f := by
  induction l with
  | nil => rfl
  | cons a rest ih =>
      rw [modifyFirst, List.findIdx_cons, ih]
      cases p a <;> rfl

theorem getElem?_findIdx {α : Type} {p : α → Bool} {l : List α} {a : α} (h : l.find? p = some a) :
    l[l.findIdx p]? = some a := by
  induction l with
  | nil => cases h
  | cons b rest ih =>
      rw [List.findIdx_cons]
      rw [List.find?_cons] at h
      cases hb : p b with
      | true =>
          rw [hb] at h
          exact h
      | false =>
          rw [hb] at h
          exact ih h

def place (u : String) (accounts : List Account) : Nat := accounts.findIdx (·.username == u)

theorem not_named_of_lt_place (hn : n < place u accounts) (ha : accounts[n]? = some a) :
    a.username ≠ u := by
  obtain ⟨hlt, rfl⟩ := List.getElem?_eq_some_iff.mp ha
  simpa using List.not_of_lt_findIdx hn

theorem place_le (ha : accounts[n]? = some a) (hname : a.username = u) : place u accounts ≤ n := by
  by_contra hlt
  exact not_named_of_lt_place (Nat.lt_of_not_le hlt) ha hname

theorem named_of_place (ha : accounts[place u accounts]? = some a) : a.username = u := by
  obtain ⟨hlt, rfl⟩ := List.getElem?_eq_some_iff.mp ha
  exact beq_iff_eq.mp (List.findIdx_getElem (p := fun a : Account => a.username == u) (w := hlt))

theorem getElem?_place (ha : accounts[n]? = some a) (hname : a.username = u) :
    ∃ b, accounts[place u accounts]? = some b ∧ b.username = u := by
  have hlt : place u accounts < accounts.length :=
    Nat.lt_of_le_of_lt (place_le ha hname) (List.getElem?_eq_some_iff.mp ha).1
  exact ⟨_, List.getElem?_eq_getElem hlt, named_of_place (List.getElem?_eq_getElem hlt)⟩

theorem place_eq_findIdx_names (u : String) (accounts : List Account) :
    place u accounts = (accounts.map (·.username)).findIdx (· == u) := by
  rw [List.findIdx_map]
  rfl

theorem names_modify (hname : ∀ a, (f a).username = a.username) :
    (accounts.modify n f).map (·.username) = accounts.map (·.username) := by
  ext1 k
  rw [List.getElem?_map, List.getElem?_map, List.getElem?_modify]
  cases accounts[k]? with
  | none => rfl
  | some a =>
      change some (if n = k then f a else a).username = some a.username
      split
      · rw [hname]
      · rfl

theorem place_modify (hname : ∀ a, (f a).username = a.username) :
    place u (accounts.modify n f) = place u accounts := by
  rw [place_eq_findIdx_names, names_modify hname, ← place_eq_findIdx_names]

/-- The first free record is claimed where it stands, and a copy of it handed out. -/
theorem claimAccount?_place (h : i.claimAccount? = some (a, i')) :
    ∃ r, i.accounts[i.accounts.findIdx Account.isFree]? = some r ∧ r.isFree = true ∧
      a = { r with used := true } ∧
      i' = { i with
        accounts := i.accounts.modify (i.accounts.findIdx Account.isFree)
          fun a => { a with used := true } } := by
  rw [claimAccount?, Option.map_eq_some_iff] at h
  obtain ⟨r, hfind, heq⟩ := h
  obtain ⟨rfl, rfl⟩ := Prod.mk.inj heq
  refine ⟨r, getElem?_findIdx hfind, List.find?_some hfind, rfl, ?_⟩
  rw [modifyFirst_eq_modify_findIdx]

/-- A change under a name is made where the first record of the name stands. -/
theorem modifyAccount?_place (ha : i.accounts[n]? = some a) (hname : a.username = v) :
    i.modifyAccount? v f =
      some { i with accounts := i.accounts.modify (place v i.accounts) f } := by
  have hknown : (i.account? v).isSome := by
    rw [account?, List.find?_isSome]
    exact ⟨a, List.mem_of_getElem? ha, by simpa using hname⟩
  obtain ⟨b, hb⟩ := Option.isSome_iff_exists.mp hknown
  rw [modifyAccount?, hb, Option.map_some, modifyFirst_eq_modify_findIdx, place]

theorem getD_modifyAccount? (v : String) (f : Account → Account) :
    (i.modifyAccount? v f).getD i =
      { i with accounts := i.accounts.modify (place v i.accounts) f } := by
  by_cases hknown : ∃ a ∈ i.accounts, a.username = v
  · obtain ⟨a, ha, hname⟩ := hknown
    obtain ⟨n, hn⟩ := List.mem_iff_getElem?.mp ha
    rw [modifyAccount?_place hn hname]
    rfl
  · have hnone : ∀ a ∈ i.accounts, (a.username == v) = false := by simpa using hknown
    have hend : place v i.accounts = i.accounts.length := List.findIdx_eq_length.mpr hnone
    rw [hend, List.modify_eq_self (Nat.le_refl _), modifyAccount?, account?,
      List.find?_eq_none.mpr (by simpa using hnone)]
    rfl

/-! ## Names that can be claimed in one place only -/

/-- Of the records of a name none but the first can be claimed. -/
def OnlyFirstFree (u : String) (accounts : List Account) : Prop :=
  accounts.Pairwise fun a b => a.username = u → b.username = u → b.isFree = false

instance (u : String) (accounts : List Account) : Decidable (OnlyFirstFree u accounts) :=
  inferInstanceAs (Decidable (List.Pairwise _ _))

/-- That is, a free record of the name is the first of that name. -/
theorem onlyFirstFree_iff :
    OnlyFirstFree u accounts ↔
      ∀ n a, accounts[n]? = some a → a.username = u → a.isFree = true →
        n = place u accounts := by
  rw [OnlyFirstFree, List.pairwise_iff_getElem]
  constructor
  · intro h n a ha hname hfree
    refine Nat.le_antisymm (Nat.le_of_not_lt fun hlater => ?_) (place_le ha hname)
    obtain ⟨b, hb, hbname⟩ := getElem?_place ha hname
    obtain ⟨hplace, rfl⟩ := List.getElem?_eq_some_iff.mp hb
    obtain ⟨hlt, rfl⟩ := List.getElem?_eq_some_iff.mp ha
    rw [h _ n hplace hlt hlater hbname hname] at hfree
    cases hfree
  · intro h j n hj hn hlt hfirst hname
    by_contra hfree
    have hplace := h n _ (List.getElem?_eq_getElem hn) hname (by simpa using hfree)
    exact absurd hfirst
      (not_named_of_lt_place (hplace ▸ hlt) (List.getElem?_eq_getElem hj))

/-- A change to the first record of a name frees no other one. -/
theorem OnlyFirstFree.modify (h : OnlyFirstFree u accounts)
    (hname : ∀ a, (f a).username = a.username)
    (hplace : ∀ a, accounts[n]? = some a → a.username = u → n = place u accounts) :
    OnlyFirstFree u (accounts.modify n f) := by
  rw [onlyFirstFree_iff] at h ⊢
  intro k b hb hbname hfree
  rw [List.getElem?_modify] at hb
  obtain ⟨a, ha, rfl⟩ := Option.map_eq_some_iff.mp hb
  rw [place_modify hname]
  by_cases hk : n = k
  · subst hk
    rw [if_pos rfl, hname] at hbname
    exact hplace a ha hbname
  · rw [if_neg hk] at hbname hfree
    exact h k a ha hbname hfree

/-- A name that is new has one record, and that is its first. -/
theorem onlyFirstFree_append (h : OnlyFirstFree u accounts)
    (hnew : accounts.any (·.username == a.username) = false) :
    OnlyFirstFree u (accounts ++ [a]) := by
  rw [OnlyFirstFree, List.pairwise_append]
  refine ⟨h, List.pairwise_singleton .., ?_⟩
  rintro b hb c hc hbname hcname
  obtain rfl := List.mem_singleton.mp hc
  have hother : ∀ b ∈ accounts, b.username ≠ c.username := by simpa using hnew
  exact absurd (hbname.trans hcname.symm) (hother b hb)

theorem place_append (ha : accounts[n]? = some a) (hname : a.username = u) (rest : List Account) :
    place u (accounts ++ rest) = place u accounts := by
  rw [place, List.findIdx_append, if_pos]
  · rfl
  · exact Nat.lt_of_le_of_lt (place_le ha hname) (List.getElem?_eq_some_iff.mp ha).1

theorem onlyFirstFree_of_nodup (h : (accounts.map (·.username)).Nodup) (u : String) :
    OnlyFirstFree u accounts :=
  (List.pairwise_map.mp h).imp fun hne ha hb => absurd (ha.trans hb.symm) hne

end Inventory

/-- An account in the hands of whoever claimed it. -/
structure Loan where
  /-- Where the claimed record stands. -/
  index : Nat
  account : Account

structure Lending where
  inventory : Inventory
  loans : List Loan := []

namespace Lending

open Inventory

/-- What is asked of the inventory.  A loan is given back or saved by its holder, who is known here
by the number of the loan in the list. -/
inductive Deal where
  | addAccounts (accounts : List Account)
  | claim
  | giveBack (k : Nat)
  /-- A holder saves its copy with the given marks; to save it as unused is to give it back. -/
  | save (k : Nat) (used banned flagged : Bool)
  | sweep

def opened (accounts : List Account) : Lending := { inventory := { accounts } }

def deal (l : Lending) : Deal → Lending
  | .addAccounts accounts => { l with inventory := (l.inventory.addAccounts accounts).2 }
  | .claim =>
    match l.inventory.claimAccount? with
    | none => l
    | some (account, i) =>
      { inventory := i, loans := ⟨l.inventory.accounts.findIdx Account.isFree, account⟩ :: l.loans }
  | .giveBack k =>
    match l.loans[k]? with
    | none => l
    | some loan =>
      { inventory := (l.inventory.releaseAccount? loan.account.username).getD l.inventory
        loans := l.loans.eraseIdx k }
  | .save k used banned flagged =>
    match l.loans[k]? with
    | none => l
    | some loan =>
      { inventory := (l.inventory.saveAccount? { loan.account with used, banned, flagged }).getD
          l.inventory
        loans := if used then l.loans else l.loans.eraseIdx k }
  | .sweep => { l with inventory := l.inventory.sweep.2 }

def run (l : Lending) (deals : List Deal) : Lending := deals.foldl deal l

/-- A name that is lent cannot be claimed, and to give it back frees the very record that was
claimed and changes nothing else. -/
structure Lawful (u : String) (l : Lending) : Prop where
  not_lent_twice : ∀ account i, l.inventory.claimAccount? = some (account, i) →
    account.username = u → ∀ loan ∈ l.loans, loan.account.username ≠ u
  frees_claimed : ∀ loan ∈ l.loans, loan.account.username = u →
    ∃ claimed, l.inventory.accounts[loan.index]? = some claimed ∧ claimed.username = u ∧
      claimed.used = true ∧
      l.inventory.releaseAccount? u =
        some { l.inventory with
          accounts := l.inventory.accounts.set loan.index { claimed with used := false } }

/-- A name is lent at most once, from the first of its records, which is the only one of them that
can ever be claimed. -/
structure Orderly (u : String) (l : Lending) : Prop where
  only_first_free : OnlyFirstFree u l.inventory.accounts
  lent_once : l.loans.countP (·.account.username == u) ≤ 1
  from_first : ∀ loan ∈ l.loans, loan.account.username = u →
    loan.index = place u l.inventory.accounts ∧
      ∃ r, l.inventory.accounts[loan.index]? = some r ∧ r.username = u ∧ r.used = true

variable {l : Lending} {u : String} {accounts : List Account}

theorem Orderly.lawful (h : l.Orderly u) : l.Lawful u where
  not_lent_twice account i hclaim hname loan hloan hlent := by
    obtain ⟨r, hr, hfree, rfl, -⟩ := claimAccount?_place hclaim
    obtain ⟨hindex, r', hr', -, hused⟩ := h.from_first loan hloan hlent
    rw [hindex, ← onlyFirstFree_iff.mp h.only_first_free _ r hr hname hfree, hr] at hr'
    obtain rfl := Option.some.inj hr'
    simp [Account.isFree, hused] at hfree
  frees_claimed loan hloan hlent := by
    obtain ⟨hindex, r, hr, hname, hused⟩ := h.from_first loan hloan hlent
    refine ⟨r, hr, hname, hused, ?_⟩
    rw [releaseAccount?, modifyAccount?_place hr hname, ← hindex, List.modify_eq_set_getElem?, hr]
    rfl

/-! ## Deals keep the order -/

/-- A record is changed that is the first one of its name, if it has this name at all, and those
that hold loans of the name find their record claimed. -/
theorem Orderly.modify {n : Nat} {f : Account → Account} {loans : List Loan} (h : l.Orderly u)
    (hname : ∀ a, (f a).username = a.username)
    (hplace : ∀ a, l.inventory.accounts[n]? = some a → a.username = u →
      n = place u l.inventory.accounts)
    (honce : loans.countP (·.account.username == u) ≤ 1)
    (hloans : ∀ loan ∈ loans, loan.account.username = u →
      loan.index = place u l.inventory.accounts ∧
        ∃ r, l.inventory.accounts[loan.index]? = some r ∧ r.username = u ∧
          (if n = loan.index then f r else r).used = true) :
    Orderly u
      { inventory := { l.inventory with accounts := l.inventory.accounts.modify n f }, loans } where
  only_first_free := h.only_first_free.modify hname hplace
  lent_once := honce
  from_first loan hloan hlent := by
    obtain ⟨hindex, r, hr, hrname, hused⟩ := hloans loan hloan hlent
    refine ⟨hindex.trans (place_modify hname).symm, _, ?_, ?_, hused⟩
    · rw [List.getElem?_modify, hr]
      rfl
    · split
      · exact (hname r).trans hrname
      · exact hrname

/-- Accounts are added under new names only. -/
theorem Orderly.addAccounts (h : l.Orderly u) (accounts : List Account) :
    (l.deal (.addAccounts accounts)).Orderly u := by
  rw [deal]
  induction accounts generalizing l with
  | nil => exact h
  | cons a rest ih =>
      rw [Inventory.addAccounts]
      split
      · exact ih h
      · rename_i hnew
        refine ih (l := { l with inventory :=
          { l.inventory with accounts := l.inventory.accounts ++ [a] } }) ?_
        refine ⟨onlyFirstFree_append h.only_first_free (by simpa using hnew), h.lent_once, ?_⟩
        intro loan hloan hlent
        obtain ⟨hindex, r, hr, hname, hused⟩ := h.from_first loan hloan hlent
        refine ⟨hindex.trans (place_append hr hname [a]).symm, r, ?_, hname, hused⟩
        exact (List.getElem?_append_left (List.getElem?_eq_some_iff.mp hr).1).trans hr

/-- The record that is claimed is the first of its name. -/
theorem Orderly.claim (h : l.Orderly u) : (l.deal .claim).Orderly u := by
  rw [deal]
  cases hclaim : l.inventory.claimAccount? with
  | none => exact h
  | some claimed =>
      obtain ⟨account, i⟩ := claimed
      have hnobody := h.lawful.not_lent_twice _ _ hclaim
      obtain ⟨r, hr, hfree, rfl, rfl⟩ := claimAccount?_place hclaim
      have hplace := onlyFirstFree_iff.mp h.only_first_free _ r hr
      refine h.modify (fun _ => rfl) ?_ ?_ ?_
      · intro a ha hname
        obtain rfl := Option.some.inj (hr.symm.trans ha)
        exact hplace hname hfree
      · rw [List.countP_cons]
        by_cases hname : r.username = u
        · have hnone : l.loans.countP (·.account.username == u) = 0 := by
            simpa using hnobody hname
          rw [hnone, Nat.zero_add]
          split <;> decide
        · rw [if_neg (by simpa using hname)]
          exact h.lent_once
      · intro loan hloan hlent
        rcases List.mem_cons.mp hloan with rfl | hloan
        · refine ⟨hplace hlent hfree, r, hr, hlent, ?_⟩
          rw [if_pos rfl]
        · obtain ⟨hindex, r', hr', hname, hused⟩ := h.from_first loan hloan hlent
          refine ⟨hindex, r', hr', hname, ?_⟩
          split
          · rfl
          · exact hused

/-- What stands under a name is changed, and some loans come to their end.  If the name is still
lent after that, its record stays claimed. -/
theorem Orderly.modifyAccount {v : String} {f : Account → Account} {loans : List Loan}
    (h : l.Orderly u) (hname : ∀ a, (f a).username = a.username) (hsub : loans.Sublist l.loans)
    (hused : v = u → ∀ loan ∈ loans, loan.account.username = u → ∀ a, (f a).used = true) :
    Orderly u { inventory := (l.inventory.modifyAccount? v f).getD l.inventory, loans } := by
  rw [getD_modifyAccount?]
  have honce : loans.countP (·.account.username == u) ≤ 1 :=
    Nat.le_trans hsub.countP_le h.lent_once
  refine h.modify hname ?_ honce ?_
  · intro a ha hsame
    rw [← hsame, named_of_place ha]
  · intro loan hloan hlent
    obtain ⟨hindex, r, hr, hrname, hold⟩ := h.from_first loan (hsub.subset hloan) hlent
    refine ⟨hindex, r, hr, hrname, ?_⟩
    by_cases hn : place v l.inventory.accounts = loan.index
    · rw [if_pos hn]
      have hv : v = u := (named_of_place (hn ▸ hr)).symm.trans hrname
      exact hused hv loan hloan hlent r
    · rw [if_neg hn]
      exact hold

/-- After a loan has come to its end, its name is not lent. -/
theorem Orderly.not_lent_of_erased {k : Nat} {loan other : Loan} (h : l.Orderly u)
    (hk : l.loans[k]? = some loan) (hlent : loan.account.username = u)
    (hother : other ∈ l.loans.eraseIdx k) : other.account.username ≠ u := by
  obtain ⟨hlt, rfl⟩ := List.getElem?_eq_some_iff.mp hk
  have hcount := (List.getElem_cons_eraseIdx_perm hlt).countP_eq (·.account.username == u)
  rw [List.countP_cons, if_pos (beq_iff_eq.mpr hlent)] at hcount
  have hnone : (l.loans.eraseIdx k).countP (·.account.username == u) = 0 := by
    have honce := h.lent_once
    omega
  simpa using List.countP_eq_zero.mp hnone other hother

/-- What is given back frees the first record of its name. -/
theorem Orderly.giveBack (h : l.Orderly u) (k : Nat) : (l.deal (.giveBack k)).Orderly u := by
  rw [deal]
  cases hk : l.loans[k]? with
  | none => exact h
  | some loan =>
      refine h.modifyAccount (fun _ => rfl) (List.eraseIdx_sublist ..) ?_
      intro hlent other hother hsame
      exact absurd hsame (h.not_lent_of_erased hk hlent hother)

theorem Orderly.save (h : l.Orderly u) (k : Nat) (used banned flagged : Bool) :
    (l.deal (.save k used banned flagged)).Orderly u := by
  rw [deal]
  cases hk : l.loans[k]? with
  | none => exact h
  | some loan =>
      cases used with
      | true => exact h.modifyAccount (fun _ => rfl) (List.Sublist.refl _) fun _ _ _ _ _ => rfl
      | false =>
          refine h.modifyAccount (fun _ => rfl) (List.eraseIdx_sublist ..) ?_
          intro hlent other hother hsame
          exact absurd hsame (h.not_lent_of_erased hk hlent hother)

theorem Orderly.deal (h : l.Orderly u) (d : Deal) : (l.deal d).Orderly u := by
  cases d with
  | addAccounts accounts => exact h.addAccounts accounts
  | claim => exact h.claim
  | giveBack k => exact h.giveBack k
  | save k used banned flagged => exact h.save k used banned flagged
  | sweep => exact ⟨h.only_first_free, h.lent_once, h.from_first⟩

theorem Orderly.run (h : l.Orderly u) (deals : List Deal) : (l.run deals).Orderly u := by
  induction deals generalizing l with
  | nil => exact h
  | cons d rest ih => exact ih (h.deal d)

theorem orderly_opened (h : OnlyFirstFree u accounts) : (opened accounts).Orderly u where
  only_first_free := h
  lent_once := Nat.zero_le 1
  from_first _ hloan := absurd hloan List.not_mem_nil

/-- An inventory that is opened with distinct names, or with none, obeys the law for all of them. -/
theorem lawful_of_nodup (h : (accounts.map (·.username)).Nodup) (deals : List Deal) (u : String) :
    ((opened accounts).run deals).Lawful u :=
  ((orderly_opened (onlyFirstFree_of_nodup h u)).run deals).lawful

/-! ## Names with a second record that is free -/

theorem deal_claim {r : Account} (hfind : l.inventory.accounts.find? Account.isFree = some r) :
    l.deal .claim =
      { inventory := { l.inventory with
          accounts := l.inventory.accounts.modify (l.inventory.accounts.findIdx Account.isFree)
            fun a => { a with used := true } }
        loans := ⟨l.inventory.accounts.findIdx Account.isFree, { r with used := true }⟩ ::
          l.loans } := by
  rw [Lending.deal, Inventory.claimAccount?, hfind, Option.map_some,
    modifyFirst_eq_modify_findIdx]

/-- After a claim the first free record stands further back. -/
theorem findIdx_isFree_claim {accounts : List Account} {r : Account}
    (hfind : accounts.find? Account.isFree = some r) :
    accounts.findIdx Account.isFree <
      (accounts.modify (accounts.findIdx Account.isFree)
        fun a => { a with used := true }).findIdx Account.isFree := by
  have hlt := (List.getElem?_eq_some_iff.mp (getElem?_findIdx hfind)).1
  refine List.lt_findIdx_of_not (by rwa [List.length_modify]) fun j hj => ?_
  rw [List.getElem_modify]
  split
  · simp [Account.isFree]
  · rename_i hne
    have hbefore : j < accounts.findIdx Account.isFree := by omega
    rw [List.not_of_lt_findIdx hbefore]
    exact Bool.false_ne_true

/-- Whatever record is free, by claims it is reached. -/
theorem exists_lent {n : Nat} {a : Account} (hn : l.inventory.accounts[n]? = some a)
    (hfree : a.isFree = true) :
    ∃ deals, ∃ loan ∈ (l.run deals).loans, loan.index = n ∧ loan.account.username = a.username ∧
      (l.run deals).inventory.accounts.map (·.username) =
        l.inventory.accounts.map (·.username) := by
  -- The records before this one are used up one by one.
  induction hd : n - l.inventory.accounts.findIdx Account.isFree using Nat.strongRecOn
    generalizing l with
  | ind d ih =>
      subst hd
      have hsome : (l.inventory.accounts.find? Account.isFree).isSome :=
        List.find?_isSome.mpr ⟨a, List.mem_of_getElem? hn, hfree⟩
      obtain ⟨r, hr⟩ := Option.isSome_iff_exists.mp hsome
      have hclaim := deal_claim hr
      by_cases hreached : l.inventory.accounts.findIdx Account.isFree = n
      · have hsame : r = a := by
          have hfirst := getElem?_findIdx hr
          rw [hreached, hn] at hfirst
          exact (Option.some.inj hfirst).symm
        refine ⟨[.claim], ⟨n, { r with used := true }⟩, ?_, rfl,
          (congrArg Account.username hsame : _), ?_⟩
        · rw [Lending.run, List.foldl_cons, List.foldl_nil, hclaim, hreached]
          exact List.mem_cons_self
        · rw [Lending.run, List.foldl_cons, List.foldl_nil, hclaim]
          exact names_modify fun _ => rfl
      · have hbefore : l.inventory.accounts.findIdx Account.isFree < n := by
          refine Nat.lt_of_le_of_ne (Nat.le_of_not_lt fun hlt => ?_) hreached
          obtain ⟨_, rfl⟩ := List.getElem?_eq_some_iff.mp hn
          rw [List.not_of_lt_findIdx hlt] at hfree
          cases hfree
        have hlater := findIdx_isFree_claim hr
        have hn' : (l.deal .claim).inventory.accounts[n]? = some a := by
          rw [hclaim, List.getElem?_modify, hn]
          exact congrArg some (if_neg hreached)
        have hnames : (l.deal .claim).inventory.accounts.map (·.username) =
            l.inventory.accounts.map (·.username) := by
          rw [hclaim]
          exact names_modify fun _ => rfl
        have hcloser : n - (l.deal .claim).inventory.accounts.findIdx Account.isFree <
            n - l.inventory.accounts.findIdx Account.isFree := by
          rw [hclaim]
          exact Nat.sub_lt_sub_left hbefore hlater
        obtain ⟨deals, loan, hloan, hindex, hname, hsame⟩ := ih _ hcloser hn' rfl
        exact ⟨.claim :: deals, loan, hloan, hindex, hname, hsame.trans hnames⟩

/-- A name obeys the law whatever happens exactly if none of its records but the first was free when
the inventory was opened. -/
theorem lawful_iff (accounts : List Account) (u : String) :
    (∀ deals, ((opened accounts).run deals).Lawful u) ↔ OnlyFirstFree u accounts := by
  constructor
  · intro hlawful
    rw [onlyFirstFree_iff]
    intro n a ha hname hfree
    obtain ⟨deals, loan, hloan, rfl, hlent, hnames⟩ := exists_lent (l := opened accounts) ha hfree
    obtain ⟨claimed, hclaimed, hcname, hused, hrelease⟩ :=
      (hlawful deals).frees_claimed loan hloan (hlent.trans hname)
    have hplace : place u ((opened accounts).run deals).inventory.accounts = place u accounts := by
      rw [place_eq_findIdx_names, hnames, ← place_eq_findIdx_names]
      rfl
    by_contra hother
    rw [releaseAccount?, modifyAccount?_place hclaimed hcname, hplace] at hrelease
    -- The record that is freed stands before the one that was claimed, which stays used.
    have hrecord := congrArg (fun i => i.accounts[loan.index]?) (Option.some.inj hrelease)
    have hlt := (List.getElem?_eq_some_iff.mp hclaimed).1
    simp only [List.getElem?_modify, hclaimed, List.getElem?_set_self hlt, Option.map_eq_map,
      Option.map_some, if_neg (Ne.symm hother), Option.some.injEq] at hrecord
    rw [hrecord] at hused
    cases hused
  · intro hfree deals
    exact ((orderly_opened hfree).run deals).lawful

/-- An account that is listed twice is lent twice, and what the second holder gives back is the
record of the first. -/
theorem lent_twice_listedTwice :
    let ann : Account := { username := "ann", password := "", provider := "" }
    let l := (opened [ann, ann]).run [.claim]
    ¬ l.Lawful "ann" ∧
      (l.deal .claim).loans.map (fun loan => (loan.index, loan.account.username)) =
        [(1, "ann"), (0, "ann")] ∧
      ((l.deal .claim).deal (.giveBack 0)).inventory.accounts.map (·.used) = [false, true] := by
  intro ann l
  refine ⟨fun hlawful => ?_, by decide, by decide⟩
  exact hlawful.not_lent_twice { ann with used := true } _ rfl rfl ⟨0, { ann with used := true }⟩
    List.mem_cons_self rfl

end Lending

end MapScout
