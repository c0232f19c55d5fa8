import Mathlib.Data.List.Perm.Subperm
import Mathlib.Logic.Relation
import MapScout.Proofs.Stock.Balance

/-!
# Exclusive claims

What is held is held by one holder only, and it is not free to be claimed by another.  This is less
than a balance: a claimed record may be held by nobody.  Once a record is void and nobody holds a
copy of it, it stays so.
-/

namespace MapScout

namespace Ledger

variable {α κ : Type} (L : Ledger α κ)

/-- Nothing is held twice, and of what is held no record is free. -/
structure Exclusive (records copies : List α) : Prop where
  records_nodup : (records.map L.key).Nodup
  copies_nodup : (copies.map L.key).Nodup
  not_free : ∀ r ∈ records, L.key r ∈ copies.map L.key → L.isClaimed r = true ∨ L.isVoid r = true

/-- Only known keys are about. -/
structure Within (known : List κ) (records copies : List α) : Prop where
  stored : ∀ r ∈ records, L.key r ∈ known
  held : ∀ c ∈ copies, L.key c ∈ known

/-- What is known under a key is void, and nobody holds a copy of it. -/
structure Retired (k : κ) (records copies : List α) : Prop where
  void : ∀ r ∈ records, L.key r = k → L.isVoid r = true
  not_held : k ∉ copies.map L.key

variable {L} {records copies copies' : List α} {c r : α} {k : κ} {f : α → α}

theorem Balanced.exclusive (h : L.Balanced records copies) : L.Exclusive records copies where
  records_nodup := h.records_nodup
  copies_nodup := h.copies_nodup
  not_free r hr hheld := by
    cases hvoid : L.isVoid r with
    | true => exact Or.inr rfl
    | false => exact Or.inl ((h.claimed_iff r hr hvoid).mpr hheld)

/-- Some of the copies are thrown away, and others may change without changing hands. -/
theorem Exclusive.pass (h : L.Exclusive records copies)
    (hkeys : (copies'.map L.key).Subperm (copies.map L.key)) : L.Exclusive records copies' where
  records_nodup := h.records_nodup
  copies_nodup := by
    obtain ⟨l, hperm, hsub⟩ := hkeys
    exact hperm.nodup_iff.mp (h.copies_nodup.sublist hsub)
  not_free r hr hheld := h.not_free r hr (hkeys.subset hheld)

theorem Exclusive.filter (h : L.Exclusive records copies) (p : α → Bool) :
    L.Exclusive (records.filter p) copies where
  records_nodup := h.records_nodup.sublist (List.filter_sublist.map _)
  copies_nodup := h.copies_nodup
  not_free r hr := h.not_free r (List.mem_filter.mp hr).1

/-- Records are added that nobody has a copy of. -/
theorem Exclusive.insert {records' : List α} (h : L.Exclusive records copies)
    (hnodup : (records'.map L.key).Nodup)
    (hnew : ∀ r ∈ records', r ∈ records ∨ L.key r ∉ copies.map L.key) :
    L.Exclusive records' copies where
  records_nodup := hnodup
  copies_nodup := h.copies_nodup
  not_free r hr hheld := by
    rcases hnew r hr with hold | hnobody
    · exact h.not_free r hold hheld
    · exact absurd hheld hnobody

variable (L) in
/-- What is done to the records of a ledger and to the copies that are held. -/
inductive Step [DecidableEq κ] : List α × List α → List α × List α → Prop where
  /-- Copies are thrown away, or change without changing hands. -/
  | pass {records copies copies' : List α}
      (h : (copies'.map L.key).Subperm (copies.map L.key)) :
      Step (records, copies) (records, copies')
  /-- A free record is claimed, and its copy handed out. -/
  | claim {records copies : List α} {r : α} {f : α → α} (hr : r ∈ records)
      (hfree : L.isClaimed r = false) (hvalid : L.isVoid r = false)
      (hkey : ∀ a, L.key (f a) = L.key a) (hclaimed : ∀ a, L.isClaimed (f a) = true)
      (hvoid : ∀ a, L.isVoid (f a) = L.isVoid a) :
      Step (records, copies) (L.modify (L.key r) f records, f r :: copies)
  /-- A copy is given back. -/
  | release {records copies : List α} {c : α} {f : α → α} (hkey : ∀ a, L.key (f a) = L.key a)
      (hvoid : ∀ a, L.isVoid (f a) = L.isVoid a) :
      Step (records, c :: copies) (L.modify (L.key c) f records, copies)
  /-- A record becomes void. -/
  | writeOff {records copies : List α} {k : κ} {f : α → α} (hkey : ∀ a, L.key (f a) = L.key a)
      (hvoid : ∀ a, L.isVoid (f a) = true) : Step (records, copies) (L.modify k f records, copies)

variable (L) in
abbrev Steps [DecidableEq κ] : List α × List α → List α × List α → Prop :=
  Relation.ReflTransGen L.Step

/-- A claim succeeds only for what nobody holds. -/
theorem Exclusive.not_held_of_free (h : L.Exclusive records copies) (hr : r ∈ records)
    (hfree : L.isClaimed r = false) (hvalid : L.isVoid r = false) :
    L.key r ∉ copies.map L.key := by
  intro hheld
  have hnot := h.not_free r hr hheld
  rw [hfree, hvalid] at hnot
  simp at hnot

variable [DecidableEq κ]

/-- Records come and go from outside only. -/
theorem Step.map_key {b b' : List α × List α} (hstep : L.Step b b') :
    b'.1.map L.key = b.1.map L.key := by
  cases hstep with
  | pass => rfl
  | claim _ _ _ hkey | release hkey | writeOff hkey => exact L.map_key_modify hkey

theorem Steps.map_key {b b' : List α × List α} (hsteps : L.Steps b b') :
    b'.1.map L.key = b.1.map L.key := by
  induction hsteps with
  | refl => rfl
  | tail _ hlast ih => exact hlast.map_key.trans ih

/-- Whatever is done to the ledger, claims stay exclusive. -/
theorem Exclusive.step {b b' : List α × List α} (h : L.Exclusive b.1 b.2) (hstep : L.Step b b') :
    L.Exclusive b'.1 b'.2 := by
  cases hstep with
  | pass hkeys => exact h.pass hkeys
  | @claim records copies r f hr hfree hvalid hkey hclaimed hvoid =>
      have hnew := h.not_held_of_free hr hfree hvalid
      constructor
      · rw [L.map_key_modify hkey]
        exact h.records_nodup
      · rw [List.map_cons, hkey]
        exact List.nodup_cons.mpr ⟨hnew, h.copies_nodup⟩
      · intro r' hr' hheld
        rcases L.mem_modify.mp hr' with ⟨hold, hne⟩ | ⟨a, ha, hk, rfl⟩
        · rw [List.map_cons, hkey, List.mem_cons] at hheld
          exact h.not_free r' hold (hheld.resolve_left hne)
        · exact Or.inl (hclaimed a)
  | @release records copies c f hkey hvoid =>
      obtain ⟨hgone, hnodup⟩ := List.nodup_cons.mp h.copies_nodup
      constructor
      · rw [L.map_key_modify hkey]
        exact h.records_nodup
      · exact hnodup
      · intro r' hr' hheld
        rcases L.mem_modify.mp hr' with ⟨hold, hne⟩ | ⟨a, ha, hk, rfl⟩
        · exact h.not_free r' hold (List.mem_cons_of_mem _ hheld)
        · rw [hkey, hk] at hheld
          exact absurd hheld hgone
  | @writeOff records copies k f hkey hvoid =>
      constructor
      · rw [L.map_key_modify hkey]
        exact h.records_nodup
      · exact h.copies_nodup
      · intro r' hr' hheld
        rcases L.mem_modify.mp hr' with ⟨hold, -⟩ | ⟨a, -, -, rfl⟩
        · exact h.not_free r' hold hheld
        · exact Or.inr (hvoid a)

/-- Whatever is done to the ledger, what is void stays void. -/
theorem Step.void {b b' : List α × List α} (hstep : L.Step b b')
    (h : ∀ r ∈ b.1, L.key r = k → L.isVoid r = true) :
    ∀ r ∈ b'.1, L.key r = k → L.isVoid r = true := by
  have hmodify {f : α → α} (k' : κ) (hkey : ∀ a, L.key (f a) = L.key a)
      (hvoid : ∀ a, L.isVoid a = true → L.isVoid (f a) = true) :
      ∀ r ∈ L.modify k' f b.1, L.key r = k → L.isVoid r = true := by
    intro r hr hk
    rcases L.mem_modify.mp hr with ⟨hold, -⟩ | ⟨a, ha, -, rfl⟩
    · exact h r hold hk
    · rw [hkey] at hk
      exact hvoid a (h a ha hk)
  cases hstep with
  | pass => exact h
  | claim _ _ _ hkey _ hvoid => exact hmodify _ hkey fun a ha => (hvoid a).trans ha
  | release hkey hvoid => exact hmodify _ hkey fun a ha => (hvoid a).trans ha
  | writeOff hkey hvoid => exact hmodify _ hkey fun a _ => hvoid a

/-- Whatever is done to the ledger, what is retired stays retired. -/
theorem Retired.step {b b' : List α × List α} (h : L.Retired k b.1 b.2) (hstep : L.Step b b') :
    L.Retired k b'.1 b'.2 := by
  refine ⟨hstep.void h.void, ?_⟩
  cases hstep with
  | pass hkeys => exact fun hheld => h.not_held (hkeys.subset hheld)
  | @claim records copies r f hr hfree hvalid hkey hclaimed hvoid =>
      rw [List.map_cons, hkey, List.mem_cons]
      rintro (rfl | hheld)
      · have hspent := h.void r hr rfl
        rw [hvalid] at hspent
        cases hspent
      · exact h.not_held hheld
  | release => exact fun hheld => h.not_held (List.mem_cons_of_mem _ hheld)
  | writeOff => exact h.not_held

/-- Whatever is done to the ledger, no new key comes up. -/
theorem Within.step {known : List κ} {b b' : List α × List α} (h : L.Within known b.1 b.2)
    (hstep : L.Step b b') : L.Within known b'.1 b'.2 := by
  have hstored {f : α → α} (k : κ) (hkey : ∀ a, L.key (f a) = L.key a) :
      ∀ r ∈ L.modify k f b.1, L.key r ∈ known := by
    intro r hr
    rcases L.mem_modify.mp hr with ⟨hold, -⟩ | ⟨a, ha, -, rfl⟩
    · exact h.stored r hold
    · rw [hkey]
      exact h.stored a ha
  cases hstep with
  | pass hkeys =>
      refine ⟨h.stored, fun c hc => ?_⟩
      obtain ⟨c', hc', hk⟩ := List.mem_map.mp (hkeys.subset (List.mem_map_of_mem hc))
      exact hk ▸ h.held c' hc'
  | @claim records copies r f hr _ _ hkey =>
      refine ⟨hstored _ hkey, List.forall_mem_cons.mpr ⟨?_, h.held⟩⟩
      rw [hkey]
      exact h.stored r hr
  | release hkey => exact ⟨hstored _ hkey, (List.forall_mem_cons.mp h.held).2⟩
  | writeOff hkey => exact ⟨hstored _ hkey, h.held⟩

theorem Within.steps {known : List κ} {b b' : List α × List α} (h : L.Within known b.1 b.2)
    (hsteps : L.Steps b b') : L.Within known b'.1 b'.2 := by
  induction hsteps with
  | refl => exact h
  | tail _ hlast ih => exact ih.step hlast

/-- A void record stays void, so nobody claims it again. -/
theorem Steps.void {b b' : List α × List α} (hsteps : L.Steps b b')
    (h : ∀ r ∈ b.1, L.key r = k → L.isVoid r = true) :
    ∀ r ∈ b'.1, L.key r = k → L.isVoid r = true := by
  induction hsteps with
  | refl => exact h
  | tail _ hlast ih => exact hlast.void ih

theorem Exclusive.steps {b b' : List α × List α} (h : L.Exclusive b.1 b.2)
    (hsteps : L.Steps b b') : L.Exclusive b'.1 b'.2 := by
  induction hsteps with
  | refl => exact h
  | tail _ hlast ih => exact ih.step hlast

/-- What is retired stays retired. -/
theorem Retired.steps {b b' : List α × List α} (h : L.Retired k b.1 b.2)
    (hsteps : L.Steps b b') : L.Retired k b'.1 b'.2 := by
  induction hsteps with
  | refl => exact h
  | tail _ hlast ih => exact ih.step hlast

end Ledger

namespace Inventory

variable {i i' : Inventory} {a : Account} {p : Proxy} {accounts : List Account}
variable {proxies : List Proxy}

theorem claimProxy?_eq (hnodup : (i.proxies.map (·.id)).Nodup)
    (h : i.claimProxy? = some (p, i')) :
    ∃ r ∈ i.proxies, r.inUse = false ∧ r.dead = false ∧ p = { r with inUse := true } ∧
      i' = { i with
        proxies := proxyLedger.modify r.id (fun p => { p with inUse := true }) i.proxies } := by
  rw [claimProxy?, Option.map_eq_some_iff] at h
  obtain ⟨r, hfind, heq⟩ := h
  obtain ⟨rfl, rfl⟩ := Prod.mk.inj heq
  have hfree : r.inUse = false ∧ r.dead = false := by
    simpa [Proxy.isFree] using List.find?_some hfind
  refine ⟨r, List.mem_of_find?_eq_some hfind, hfree.1, hfree.2, rfl, ?_⟩
  rw [proxyLedger.modifyFirst_eq_modify hnodup hfind]
  rfl

theorem claimAccount?_eq (hnodup : (i.accounts.map (·.username)).Nodup)
    (h : i.claimAccount? = some (a, i')) :
    ∃ r ∈ i.accounts, r.used = false ∧ r.isUnusable = false ∧ a = { r with used := true } ∧
      i' = { i with accounts :=
        accountLedger.modify r.username (fun a => { a with used := true }) i.accounts } := by
  rw [claimAccount?, Option.map_eq_some_iff] at h
  obtain ⟨r, hfind, heq⟩ := h
  obtain ⟨rfl, rfl⟩ := Prod.mk.inj heq
  have hfree : r.used = false ∧ r.isUnusable = false := by
    simpa [Account.isFree] using List.find?_some hfind
  refine ⟨r, List.mem_of_find?_eq_some hfind, hfree.1, hfree.2, rfl, ?_⟩
  rw [accountLedger.modifyFirst_eq_modify hnodup hfind]
  rfl

/-! ## Steps of the two ledgers -/

theorem steps_claimProxy (proxies : List Proxy) (hnodup : (i.proxies.map (·.id)).Nodup)
    (h : i.claimProxy? = some (p, i')) :
    proxyLedger.Step (i.proxies, proxies) (i'.proxies, p :: proxies) := by
  obtain ⟨r, hr, hfree, halive, rfl, rfl⟩ := claimProxy?_eq hnodup h
  exact Ledger.Step.claim (L := proxyLedger) (f := fun p => { p with inUse := true }) hr hfree
    halive (fun _ => rfl) (fun _ => rfl) fun _ => rfl

theorem steps_releaseProxy (hnodup : (i.proxies.map (·.id)).Nodup) (p : Proxy) :
    proxyLedger.Step (i.proxies, p :: proxies)
      (((i.releaseProxy? p.id).getD i).proxies, proxies) := by
  rw [releaseProxy?, Balanced.modifyProxy?_eq hnodup]
  exact Ledger.Step.release (L := proxyLedger) (c := p) (f := fun p => { p with inUse := false })
    (fun _ => rfl) fun _ => rfl

theorem steps_saveProxy (proxies : List Proxy) (hnodup : (i.proxies.map (·.id)).Nodup)
    (hdead : p.dead = true) :
    proxyLedger.Step (i.proxies, proxies) (((i.saveProxy? p).getD i).proxies, proxies) := by
  rw [saveProxy?, Balanced.modifyProxy?_eq hnodup]
  exact Ledger.Step.writeOff (L := proxyLedger)
    (f := fun r => { r with inUse := p.inUse, dead := r.dead || p.dead }) (fun _ => rfl)
    fun _ => by simp [proxyLedger, hdead]

theorem steps_claimAccount (accounts : List Account)
    (hnodup : (i.accounts.map (·.username)).Nodup)
    (h : i.claimAccount? = some (a, i')) :
    accountLedger.Step (i.accounts, accounts) (i'.accounts, a :: accounts) := by
  obtain ⟨r, hr, hfree, huseful, rfl, rfl⟩ := claimAccount?_eq hnodup h
  exact Ledger.Step.claim (L := accountLedger) (f := fun a => { a with used := true }) hr hfree
    huseful (fun _ => rfl) (fun _ => rfl) fun _ => rfl

theorem steps_releaseAccount (hnodup : (i.accounts.map (·.username)).Nodup) (a : Account) :
    accountLedger.Step (i.accounts, a :: accounts)
      (((i.releaseAccount? a.username).getD i).accounts, accounts) := by
  rw [releaseAccount?, Balanced.modifyAccount?_eq hnodup]
  exact Ledger.Step.release (L := accountLedger) (c := a) (f := fun a => { a with used := false })
    (fun _ => rfl) fun _ => rfl

theorem steps_saveAccount (hnodup : (i.accounts.map (·.username)).Nodup)
    (hunusable : a.isUnusable = true) :
    accountLedger.Step (i.accounts, accounts) (((i.saveAccount? a).getD i).accounts, accounts) := by
  rw [saveAccount?, Balanced.modifyAccount?_eq hnodup]
  apply Ledger.Step.writeOff (L := accountLedger) (f := fun r => { r with
    used := a.used, banned := r.banned || a.banned, flagged := r.flagged || a.flagged })
    fun _ => rfl
  intro r
  simp only [Account.isUnusable, Bool.or_eq_true] at hunusable
  simp only [accountLedger, Account.isUnusable, Bool.or_eq_true]
  exact hunusable.imp Or.inr Or.inr

/-- Whoever holds an account finds it unusable. -/
theorem steps_condemnAccount {c : Account} (hnodup : (i.accounts.map (·.username)).Nodup)
    (hname : a.username = c.username) (hunusable : a.isUnusable = true) :
    accountLedger.Steps (i.accounts, c :: accounts)
      (((i.saveAccount? a).getD i).accounts, a :: accounts) := by
  apply Relation.ReflTransGen.head (.pass _) (.single (steps_saveAccount hnodup hunusable))
  change List.Subperm (a.username :: _) (c.username :: _)
  rw [hname]

/-- An account is claimed in vain. -/
theorem steps_claimAccount_releaseAccount (accounts : List Account)
    (hnodup : (i.accounts.map (·.username)).Nodup) (h : i.claimAccount? = some (a, i')) :
    accountLedger.Steps (i.accounts, accounts)
      (((i'.releaseAccount? a.username).getD i').accounts, accounts) := by
  have hclaim := steps_claimAccount accounts hnodup h
  have hnodup' : (i'.accounts.map (·.username)).Nodup :=
    (congrArg List.Nodup hclaim.map_key).mpr hnodup
  exact (Relation.ReflTransGen.single hclaim).tail (steps_releaseAccount hnodup' a)

/-! ## One ledger leaves the other alone -/

theorem accounts_modifyProxy? (id : ProxyId) (f : Proxy → Proxy) :
    ((i.modifyProxy? id f).getD i).accounts = i.accounts := by
  rw [modifyProxy?]
  cases i.proxy? id <;> rfl

theorem proxies_modifyAccount? (username : String) (f : Account → Account) :
    ((i.modifyAccount? username f).getD i).proxies = i.proxies := by
  rw [modifyAccount?]
  cases i.account? username <;> rfl

theorem accounts_claimProxy? (h : i.claimProxy? = some (p, i')) : i'.accounts = i.accounts := by
  rw [claimProxy?, Option.map_eq_some_iff] at h
  obtain ⟨r, -, heq⟩ := h
  obtain ⟨-, rfl⟩ := Prod.mk.inj heq
  rfl

theorem proxies_claimAccount? (h : i.claimAccount? = some (a, i')) : i'.proxies = i.proxies := by
  rw [claimAccount?, Option.map_eq_some_iff] at h
  obtain ⟨r, -, heq⟩ := h
  obtain ⟨-, rfl⟩ := Prod.mk.inj heq
  rfl

end Inventory

end MapScout
