import MapScout.Proofs.Stock.Ledger

/-!
# The balance of an inventory

An inventory keeps two ledgers, one of accounts and one of proxies.  Numbers of proxies are never
used twice, so that a copy of a proxy whose record has been swept away can never be taken for
another one.
-/

namespace MapScout.Inventory

variable {i i' : Inventory} {known : List ProxyId} {accounts : List Account} {proxies : List Proxy}
variable {a a' : Account} {p : Proxy} {id : ProxyId}

def accountLedger : Ledger Account String where
  key := (·.username)
  isClaimed := (·.used)
  isVoid := Account.isUnusable

def proxyLedger : Ledger Proxy ProxyId where
  key := (·.id)
  isClaimed := (·.inUse)
  isVoid := (·.dead)

theorem mem_modifyFirst {α : Type} {p : α → Bool} {f : α → α} {l : List α} {x : α}
    (h : x ∈ modifyFirst p f l) : x ∈ l ∨ ∃ a ∈ l, p a = true ∧ x = f a := by
  induction l with
  | nil => cases h
  | cons a rest ih =>
      rw [modifyFirst] at h
      split at h
      · rename_i ha
        rcases List.mem_cons.mp h with rfl | h
        · exact Or.inr ⟨a, List.mem_cons_self, ha, rfl⟩
        · exact Or.inl (List.mem_cons_of_mem _ h)
      · rcases List.mem_cons.mp h with rfl | h
        · exact Or.inl List.mem_cons_self
        · rcases ih h with h | ⟨b, hb, hp, rfl⟩
          · exact Or.inl (List.mem_cons_of_mem _ h)
          · exact Or.inr ⟨b, List.mem_cons_of_mem _ hb, hp, rfl⟩

/-- Both ledgers balance with the copies that are held, and only known numbers of proxies are
about. -/
structure Balanced (i : Inventory) (known : List ProxyId) (accounts : List Account)
    (proxies : List Proxy) : Prop where
  accounts_balanced : accountLedger.Balanced i.accounts accounts
  proxies_balanced : proxyLedger.Balanced i.proxies proxies
  stored_known : ∀ p ∈ i.proxies, p.id ∈ known
  held_known : ∀ p ∈ proxies, p.id ∈ known

namespace Balanced

theorem perm {accounts' : List Account} {proxies' : List Proxy}
    (h : i.Balanced known accounts proxies) (haccounts : accounts'.Perm accounts)
    (hproxies : proxies'.Perm proxies) : i.Balanced known accounts' proxies' :=
  ⟨h.accounts_balanced.perm haccounts, h.proxies_balanced.perm hproxies, h.stored_known,
    fun p hp => h.held_known p (hproxies.mem_iff.mp hp)⟩

/-! ## Accounts -/

/-- An account that is claimed goes from the unused ones to those with a copy. -/
theorem claimAccount (h : i.Balanced known accounts proxies)
    (hclaim : i.claimAccount? = some (a, i')) :
    i'.Balanced known (a :: accounts) proxies := by
  rw [claimAccount?, Option.map_eq_some_iff] at hclaim
  obtain ⟨r, hfind, heq⟩ := hclaim
  obtain ⟨rfl, rfl⟩ := Prod.mk.inj heq
  have hfree : r.used = false ∧ r.isUnusable = false := by
    simpa [Account.isFree] using List.find?_some hfind
  refine { h with accounts_balanced := ?_ }
  change accountLedger.Balanced (modifyFirst _ _ _) _
  rw [accountLedger.modifyFirst_eq_modify h.accounts_balanced.records_nodup hfind]
  have hmem := List.mem_of_find?_eq_some hfind
  exact h.accounts_balanced.claim (f := fun a => { a with used := true }) hmem hfree.1 hfree.2
    (fun _ => rfl) (fun _ => rfl) fun _ => rfl

theorem modifyAccount?_eq (hnodup : (i.accounts.map (·.username)).Nodup) (username : String)
    (f : Account → Account) : (i.modifyAccount? username f).getD i =
      { i with accounts := accountLedger.modify username f i.accounts } := by
  have hmodify : modifyFirst (·.username == username) f i.accounts =
      accountLedger.modify username f i.accounts := accountLedger.modifyFirst_key hnodup
  rw [modifyAccount?, account?]
  cases hfind : i.accounts.find? (·.username == username) with
  | some r =>
      rw [← hmodify]
      rfl
  | none =>
      have hnone : username ∉ i.accounts.map accountLedger.key := by
        simpa [accountLedger] using hfind
      rw [accountLedger.modify_eq_self hnone]
      rfl

/-- An account that is released has no copy any more and is unused. -/
theorem releaseAccount (h : i.Balanced known (a :: accounts) proxies) :
    ((i.releaseAccount? a.username).getD i).Balanced known accounts proxies := by
  rw [releaseAccount?, modifyAccount?_eq h.accounts_balanced.records_nodup]
  have hreleased := h.accounts_balanced.release (f := fun a => { a with used := false })
    (fun _ => rfl) (fun _ => rfl) fun _ => rfl
  exact { h with accounts_balanced := hreleased }

/-- An account turns out to be unusable. -/
theorem saveAccount (h : i.Balanced known (a :: accounts) proxies)
    (hname : a'.username = a.username) (hunusable : a'.isUnusable = true) :
    ((i.saveAccount? a').getD i).Balanced known (a' :: accounts) proxies := by
  rw [saveAccount?, modifyAccount?_eq h.accounts_balanced.records_nodup]
  refine { h with accounts_balanced := h.accounts_balanced.writeOff (fun _ => rfl) ?_ ?_ ?_ }
  · intro r
    simp only [Account.isUnusable, Bool.or_eq_true] at hunusable
    simp only [accountLedger, Account.isUnusable, Bool.or_eq_true]
    exact hunusable.imp Or.inr Or.inr
  · exact congrArg (· :: _) hname
  · intro c hc hne
    rcases List.mem_cons.mp hc with rfl | hc
    · exact absurd rfl hne
    · exact List.mem_cons_of_mem _ hc

/-- A copy may be forgotten if its account is unusable. -/
theorem dropAccount (h : i.Balanced known (a :: accounts) proxies)
    (hunusable : a.isUnusable = true) :
    i.Balanced known accounts proxies :=
  { h with accounts_balanced := h.accounts_balanced.drop hunusable }

/-! ## Proxies -/

theorem claimProxy (h : i.Balanced known accounts proxies) (hclaim : i.claimProxy? = some (p, i')) :
    i'.Balanced known accounts (p :: proxies) := by
  rw [claimProxy?, Option.map_eq_some_iff] at hclaim
  obtain ⟨r, hfind, heq⟩ := hclaim
  obtain ⟨rfl, rfl⟩ := Prod.mk.inj heq
  have hr := List.mem_of_find?_eq_some hfind
  have hfree : r.inUse = false ∧ r.dead = false := by
    simpa [Proxy.isFree] using List.find?_some hfind
  have hmodify := proxyLedger.modifyFirst_eq_modify (f := fun p => { p with inUse := true })
    h.proxies_balanced.records_nodup hfind
  refine ⟨h.accounts_balanced, ?_, ?_, ?_⟩
  · change proxyLedger.Balanced (modifyFirst _ _ _) _
    rw [hmodify]
    exact h.proxies_balanced.claim (f := fun p => { p with inUse := true }) hr hfree.1 hfree.2
      (fun _ => rfl) (fun _ => rfl) fun _ => rfl
  · intro q hq
    change q ∈ modifyFirst _ _ _ at hq
    rw [hmodify] at hq
    rcases proxyLedger.mem_modify.mp hq with ⟨hq, -⟩ | ⟨q', hq', -, rfl⟩
    · exact h.stored_known q hq
    · exact h.stored_known q' hq'
  · intro q hq
    rcases List.mem_cons.mp hq with rfl | hq
    · exact h.stored_known r hr
    · exact h.held_known q hq

theorem modifyProxy?_eq (hnodup : (i.proxies.map (·.id)).Nodup) (id : ProxyId) (f : Proxy → Proxy) :
    (i.modifyProxy? id f).getD i = { i with proxies := proxyLedger.modify id f i.proxies } := by
  have hmodify : modifyFirst (·.id == id) f i.proxies = proxyLedger.modify id f i.proxies :=
    proxyLedger.modifyFirst_key hnodup
  rw [modifyProxy?, proxy?]
  cases hfind : i.proxies.find? (·.id == id) with
  | some r =>
      rw [← hmodify]
      rfl
  | none =>
      have hnone : id ∉ i.proxies.map proxyLedger.key := by
        simpa [proxyLedger] using hfind
      rw [proxyLedger.modify_eq_self hnone]
      rfl

/-- A change to a record leaves its id known. -/
theorem modify_known {f : Proxy → Proxy} (hid : ∀ p, (f p).id = p.id)
    (hknown : ∀ p ∈ i.proxies, p.id ∈ known) :
    ∀ p ∈ proxyLedger.modify id f i.proxies, p.id ∈ known := by
  intro q hq
  rcases proxyLedger.mem_modify.mp hq with ⟨hq, -⟩ | ⟨q', hq', -, rfl⟩
  · exact hknown q hq
  · rw [hid]
    exact hknown q' hq'

theorem releaseProxy (h : i.Balanced known accounts (p :: proxies)) :
    ((i.releaseProxy? p.id).getD i).Balanced known accounts proxies := by
  rw [releaseProxy?, modifyProxy?_eq h.proxies_balanced.records_nodup]
  refine ⟨h.accounts_balanced, ?_, modify_known (fun _ => rfl) h.stored_known,
    fun q hq => h.held_known q (List.mem_cons_of_mem _ hq)⟩
  exact h.proxies_balanced.release (f := fun p => { p with inUse := false }) (fun _ => rfl)
    (fun _ => rfl) fun _ => rfl

/-- A proxy turns out to be dead. -/
theorem buryProxy (h : i.Balanced known accounts (p :: proxies)) :
    ((i.saveProxy? p.die).getD i).Balanced known accounts (p.die :: proxies) := by
  rw [saveProxy?, modifyProxy?_eq h.proxies_balanced.records_nodup]
  refine ⟨h.accounts_balanced, ?_, modify_known (fun _ => rfl) h.stored_known, ?_⟩
  · refine h.proxies_balanced.writeOff (fun _ => rfl) (fun _ => Bool.or_true _) rfl ?_
    intro c hc hne
    rcases List.mem_cons.mp hc with rfl | hc
    · exact absurd rfl hne
    · exact List.mem_cons_of_mem _ hc
  · intro q hq
    rcases List.mem_cons.mp hq with rfl | hq
    · exact h.held_known p List.mem_cons_self
    · exact h.held_known q (List.mem_cons_of_mem _ hq)

/-- A proxy dies while nobody looks. -/
theorem loseProxy (h : i.Balanced known accounts proxies) (id : ProxyId) :
    ((i.saveProxy? { id, dead := true }).getD i).Balanced known accounts proxies := by
  rw [saveProxy?, modifyProxy?_eq h.proxies_balanced.records_nodup]
  refine { h with
    proxies_balanced := ?_, stored_known := modify_known (fun _ => rfl) h.stored_known }
  exact h.proxies_balanced.writeOff (fun _ => rfl) (fun _ => Bool.or_true _) rfl fun _ hc _ => hc

theorem dropProxy (h : i.Balanced known accounts (p :: proxies)) (hdead : p.dead = true) :
    i.Balanced known accounts proxies :=
  { h with
    proxies_balanced := h.proxies_balanced.drop hdead
    held_known := fun q hq => h.held_known q (List.mem_cons_of_mem _ hq) }

/-- A holder learns that its proxy is dead. -/
theorem learnProxy (h : i.Balanced known accounts (p :: proxies))
    (hdead : i.isProxyDead p.id = true) :
    i.Balanced known accounts (p.die :: proxies) := by
  refine { h with
    proxies_balanced := h.proxies_balanced.learn rfl fun r hr hid => ?_, held_known := ?_ }
  · have hfind := proxyLedger.find?_key h.proxies_balanced.records_nodup hr
    have hproxy : i.proxy? p.id = some r := by
      rw [← show r.id = p.id from hid]
      exact hfind
    rw [isProxyDead, hproxy] at hdead
    exact hdead
  · intro q hq
    rcases List.mem_cons.mp hq with rfl | hq
    · exact h.held_known p List.mem_cons_self
    · exact h.held_known q (List.mem_cons_of_mem _ hq)

theorem insertProxy_perm {proxies : List Proxy} (hnew : p.id ∉ proxies.map (·.id)) :
    (insertProxy p proxies).Perm (p :: proxies) := by
  induction proxies with
  | nil => exact List.Perm.refl _
  | cons q rest ih =>
      have hne : p.id ≠ q.id := fun he => hnew (List.mem_cons.mpr (Or.inl he))
      have hrest : p.id ∉ rest.map (·.id) := fun hmem => hnew (List.mem_cons_of_mem _ hmem)
      rw [insertProxy]
      by_cases hless : p.id < q.id
      · rw [if_pos hless]
      · rw [if_neg hless, if_neg hne]
        exact ((ih hrest).cons q).trans (List.Perm.swap ..)

/-- A proxy is added under a number that was never used before. -/
theorem addProxy (h : i.Balanced known accounts proxies) (hid : id ∉ known) :
    (i.addProxy { id }).Balanced (known ++ [id]) accounts proxies := by
  have hstored : id ∉ i.proxies.map (·.id) := by
    intro hmem
    obtain ⟨p, hp, rfl⟩ := List.mem_map.mp hmem
    exact hid (h.stored_known p hp)
  have hheld : id ∉ proxies.map (·.id) := by
    intro hmem
    obtain ⟨p, hp, rfl⟩ := List.mem_map.mp hmem
    exact hid (h.held_known p hp)
  have hperm : (insertProxy { id } i.proxies).Perm ({ id } :: i.proxies) := insertProxy_perm hstored
  refine ⟨h.accounts_balanced, h.proxies_balanced.insert hperm hstored hheld rfl, ?_, ?_⟩
  · intro q hq
    rcases List.mem_cons.mp (hperm.mem_iff.mp hq) with rfl | hq
    · exact List.mem_append_right _ (List.mem_singleton.mpr rfl)
    · exact List.mem_append_left _ (h.stored_known q hq)
  · exact fun q hq => List.mem_append_left _ (h.held_known q hq)

theorem sweep (h : i.Balanced known accounts proxies) : i.sweep.2.Balanced known accounts proxies :=
  { h with
    proxies_balanced := h.proxies_balanced.filter _
    stored_known := fun p hp => h.stored_known p (List.mem_filter.mp hp).1 }

end Balanced

end MapScout.Inventory
