import MapScout.Proofs.Stock.Balance
import MapScout.Stock.Store

/-!
# The remains of dead proxies

A dead proxy is never claimed again, and of one whose record is gone the same is said as of one
whose record is dead.  So two inventories that differ only in the dead proxies that they still keep
answer all calls alike, and they go on to differ in nothing else.
-/

namespace MapScout

/-- Two steps give the same answer and leave related states behind. -/
def Agree {α σ : Type} (R : σ → σ → Prop) (p q : α × σ) : Prop :=
  ∃ a x y, p = (a, x) ∧ q = (a, y) ∧ R x y

theorem Agree.snd {α σ : Type} {R : σ → σ → Prop} {p q : α × σ} (h : Agree R p q) : R p.2 q.2 := by
  obtain ⟨a, x, y, rfl, rfl, hxy⟩ := h
  exact hxy

namespace Inventory

variable {proxies rest : List Proxy} {p : Proxy} {id : ProxyId} {f : Proxy → Proxy}

def living (proxies : List Proxy) : List Proxy := proxies.filter (!·.dead)

theorem living_cons_of_dead (h : p.dead = true) : living (p :: rest) = living rest :=
  List.filter_cons_of_neg (by simp [h])

theorem living_cons_of_alive (h : p.dead = false) : living (p :: rest) = p :: living rest :=
  List.filter_cons_of_pos (by simp [h])

theorem mem_of_mem_living (h : p ∈ living proxies) : p ∈ proxies := (List.mem_filter.mp h).1

/-- The proxies are stored by ascending number, and no dead one is claimed. -/
structure Orderly (proxies : List Proxy) : Prop where
  ascending : proxies.Pairwise (·.id < ·.id)
  unclaimed : ∀ p ∈ proxies, p.dead = true → p.inUse = false

theorem Orderly.nil : Orderly [] := ⟨List.Pairwise.nil, fun p hp => by cases hp⟩

theorem nodup_of_ascending (h : proxies.Pairwise (·.id < ·.id)) : (proxies.map (·.id)).Nodup := by
  apply List.pairwise_map.mpr
  apply h.imp
  intro p q hlt he
  rw [he] at hlt
  exact UInt64.lt_irrefl _ hlt

theorem Orderly.nodup (h : Orderly proxies) : (proxies.map (·.id)).Nodup :=
  nodup_of_ascending h.ascending

theorem Orderly.sublist {proxies' : List Proxy} (h : Orderly proxies)
    (hsub : proxies'.Sublist proxies) : Orderly proxies' :=
  ⟨h.ascending.sublist hsub, fun p hp => h.unclaimed p (hsub.subset hp)⟩

/-! ## Claiming -/

theorem find?_living : (living proxies).find? Proxy.isFree = proxies.find? Proxy.isFree := by
  rw [living, List.find?_filter]
  congr 1
  funext p
  cases hdead : p.dead <;> simp [Proxy.isFree, hdead]

theorem living_modifyFirst {free : Proxy → Bool} (hfree : ∀ p, free p = true → p.dead = false)
    (hdead : ∀ p, (f p).dead = p.dead) :
    living (modifyFirst free f proxies) = modifyFirst free f (living proxies) := by
  induction proxies with
  | nil => rfl
  | cons p rest ih =>
      rw [modifyFirst]
      by_cases hp : free p = true
      · have halive := hfree p hp
        rw [if_pos hp, living_cons_of_alive ((hdead p).trans halive), living_cons_of_alive halive,
          modifyFirst, if_pos hp]
      · rw [if_neg hp]
        cases hpd : p.dead with
        | true => rw [living_cons_of_dead hpd, living_cons_of_dead hpd, ih]
        | false =>
            rw [living_cons_of_alive hpd, living_cons_of_alive hpd, modifyFirst, if_neg hp, ih]

theorem map_id_modifyFirst {free : Proxy → Bool} (hid : ∀ p, (f p).id = p.id) :
    (modifyFirst free f proxies).map (·.id) = proxies.map (·.id) := by
  induction proxies with
  | nil => rfl
  | cons p rest ih =>
      rw [modifyFirst]
      split
      · rw [List.map_cons, List.map_cons, hid]
      · rw [List.map_cons, List.map_cons, ih]

theorem ascending_modifyFirst {free : Proxy → Bool} (h : proxies.Pairwise (·.id < ·.id))
    (hid : ∀ p, (f p).id = p.id) : (modifyFirst free f proxies).Pairwise (·.id < ·.id) := by
  have hids := List.pairwise_map.mpr h
  rw [← map_id_modifyFirst hid] at hids
  exact List.pairwise_map.mp hids

theorem Orderly.modifyFirst {free : Proxy → Bool} (h : Orderly proxies)
    (hid : ∀ p, (f p).id = p.id)
    (hunclaimed : ∀ p, free p = true → (p.dead = true → p.inUse = false) →
      (f p).dead = true → (f p).inUse = false) :
    Orderly (modifyFirst free f proxies) where
  ascending := ascending_modifyFirst h.ascending hid
  unclaimed p hp hdead := by
    rcases mem_modifyFirst hp with hp | ⟨q, hq, hfree, rfl⟩
    · exact h.unclaimed p hp hdead
    · exact hunclaimed q hfree (h.unclaimed q hq) hdead

/-! ## Changing the record of a number -/

/-- What becomes of the dead makes no difference. -/
theorem living_modify (hdead : ∀ p, p.dead = true → (f p).dead = true) :
    living (proxyLedger.modify id f proxies) =
      living (proxyLedger.modify id f (living proxies)) := by
  have hcons (p : Proxy) (rest : List Proxy) : proxyLedger.modify id f (p :: rest) =
      (if p.id = id then f p else p) :: proxyLedger.modify id f rest := rfl
  induction proxies with
  | nil => rfl
  | cons p rest ih =>
      cases hp : p.dead with
      | true =>
          have hnew : (if p.id = id then f p else p).dead = true := by
            split
            · exact hdead p hp
            · exact hp
          rw [hcons, living_cons_of_dead hnew, living_cons_of_dead hp, ih]
      | false =>
          rw [living_cons_of_alive hp, hcons, hcons]
          cases hnew : (if p.id = id then f p else p).dead with
          | true => rw [living_cons_of_dead hnew, living_cons_of_dead hnew, ih]
          | false => rw [living_cons_of_alive hnew, living_cons_of_alive hnew, ih]

/-- A number is dead unless a living proxy has it. -/
theorem isProxyDead_eq {i : Inventory} (h : Orderly i.proxies) :
    i.isProxyDead id = !(living i.proxies).any (·.id == id) := by
  have hnodup := h.nodup
  rw [isProxyDead, proxy?]
  generalize i.proxies = proxies at hnodup
  induction proxies with
  | nil => rfl
  | cons p rest ih =>
      obtain ⟨hnew, hnodup⟩ := List.nodup_cons.mp hnodup
      by_cases hp : p.id = id
      · have hrest : (living rest).any (·.id == id) = false := by
          rw [List.any_eq_false]
          intro q hq
          have hne : q.id ≠ id := fun hid => hnew
            (List.mem_map.mpr ⟨q, mem_of_mem_living hq, hid.trans hp.symm⟩)
          simpa using hne
        rw [List.find?_cons_of_pos (by simpa using hp)]
        cases hdead : p.dead with
        | true => simp [living_cons_of_dead hdead, hrest, hdead]
        | false => simp [living_cons_of_alive hdead, hp, hdead]
      · rw [List.find?_cons_of_neg (by simpa using hp), ih hnodup]
        cases hdead : p.dead with
        | true => rw [living_cons_of_dead hdead]
        | false => simp [living_cons_of_alive hdead, hp]

/-! ## Adding a proxy -/

theorem insertProxy_of_lt (h : ∀ q ∈ proxies, p.id < q.id) :
    insertProxy p proxies = p :: proxies := by
  cases proxies with
  | nil => rfl
  | cons q rest => rw [insertProxy, if_pos (h q List.mem_cons_self)]

theorem mem_insertProxy {q : Proxy} (h : q ∈ insertProxy p proxies) : q = p ∨ q ∈ proxies := by
  induction proxies with
  | nil => exact Or.inl (List.mem_singleton.mp h)
  | cons r rest ih =>
      rw [insertProxy] at h
      split at h
      · exact List.mem_cons.mp h
      · split at h
        · exact (List.mem_cons.mp h).imp_right (List.mem_cons_of_mem _)
        · rcases List.mem_cons.mp h with rfl | h
          · exact Or.inr List.mem_cons_self
          · exact (ih h).imp_right (List.mem_cons_of_mem _)

theorem living_insertProxy (h : proxies.Pairwise (·.id < ·.id)) (halive : p.dead = false) :
    living (insertProxy p proxies) = insertProxy p (living proxies) := by
  induction proxies with
  | nil => exact living_cons_of_alive halive
  | cons q rest ih =>
      obtain ⟨hbelow, hrest⟩ := List.pairwise_cons.mp h
      have hlater (r : Proxy) (hr : r ∈ living rest) : q.id < r.id :=
        hbelow r (mem_of_mem_living hr)
      rw [insertProxy]
      by_cases hless : p.id < q.id
      · have hall : ∀ r ∈ living (q :: rest), p.id < r.id := by
          intro r hr
          rcases List.mem_cons.mp (mem_of_mem_living hr) with rfl | hr
          · exact hless
          · exact UInt64.lt_trans hless (hbelow r hr)
        rw [if_pos hless, living_cons_of_alive halive, insertProxy_of_lt hall]
      · rw [if_neg hless]
        by_cases hsame : p.id = q.id
        · rw [if_pos hsame, living_cons_of_alive halive]
          cases hq : q.dead with
          | true =>
              have hall : ∀ r ∈ living rest, p.id < r.id := fun r hr => hsame ▸ hlater r hr
              rw [living_cons_of_dead hq, insertProxy_of_lt hall]
          | false => rw [living_cons_of_alive hq, insertProxy, if_neg hless, if_pos hsame]
        · rw [if_neg hsame]
          cases hq : q.dead with
          | true => rw [living_cons_of_dead hq, living_cons_of_dead hq, ih hrest]
          | false =>
              rw [living_cons_of_alive hq, living_cons_of_alive hq, insertProxy, if_neg hless,
                if_neg hsame, ih hrest]

theorem ascending_insertProxy (h : proxies.Pairwise (·.id < ·.id)) :
    (insertProxy p proxies).Pairwise (·.id < ·.id) := by
  induction proxies with
  | nil => exact List.pairwise_singleton _ _
  | cons q rest ih =>
      obtain ⟨hbelow, hrest⟩ := List.pairwise_cons.mp h
      rw [insertProxy]
      split
      · rename_i hless
        refine List.pairwise_cons.mpr ⟨fun r hr => ?_, h⟩
        rcases List.mem_cons.mp hr with rfl | hr
        · exact hless
        · exact UInt64.lt_trans hless (hbelow r hr)
      · rename_i hnot
        split
        · rename_i hsame
          exact List.pairwise_cons.mpr ⟨fun r hr => hsame ▸ hbelow r hr, hrest⟩
        · rename_i hne
          refine List.pairwise_cons.mpr ⟨fun r hr => ?_, ih hrest⟩
          rcases mem_insertProxy hr with rfl | hr
          · exact UInt64.lt_of_le_of_ne (UInt64.not_lt.mp hnot) (Ne.symm hne)
          · exact hbelow r hr

theorem Orderly.insertProxy (h : Orderly proxies) (halive : p.dead = false) :
    Orderly (insertProxy p proxies) where
  ascending := ascending_insertProxy h.ascending
  unclaimed q hq hdead := by
    rcases mem_insertProxy hq with rfl | hq
    · rw [halive] at hdead
      cases hdead
    · exact h.unclaimed q hq hdead

/-! ## Two inventories -/

/-- Two inventories that differ in their dead proxies only. -/
structure Matches (i j : Inventory) : Prop where
  accounts : j.accounts = i.accounts
  living : living j.proxies = living i.proxies
  maxProxyId : j.maxProxyId = i.maxProxyId
  orderly : Orderly i.proxies
  orderly' : Orderly j.proxies

namespace Matches

variable {i j : Inventory}

theorem refl (h : Orderly i.proxies) : i.Matches i := ⟨rfl, rfl, rfl, h, h⟩

/-- What is claimed in the one is claimed in the other. -/
theorem claimed (h : i.Matches j) : j.proxies.filter (·.inUse) = i.proxies.filter (·.inUse) := by
  have hclaimed {proxies : List Proxy} (ho : Orderly proxies) :
      proxies.filter (·.inUse) = (Inventory.living proxies).filter (·.inUse) := by
    rw [Inventory.living, List.filter_filter]
    apply List.filter_congr
    intro p hp
    cases hdead : p.dead with
    | true => simp [ho.unclaimed p hp hdead]
    | false => simp
  rw [hclaimed h.orderly, hclaimed h.orderly', h.living]

theorem isProxyDead (h : i.Matches j) (id : ProxyId) : j.isProxyDead id = i.isProxyDead id := by
  rw [isProxyDead_eq h.orderly, isProxyDead_eq h.orderly', h.living]

theorem withAccounts (h : i.Matches j) (accounts : List Account) :
    Matches { i with accounts } { j with accounts } :=
  ⟨rfl, h.living, h.maxProxyId, h.orderly, h.orderly'⟩

theorem claimAccount? (h : i.Matches j) :
    Option.Rel (Agree Matches) i.claimAccount? j.claimAccount? := by
  rw [Inventory.claimAccount?, Inventory.claimAccount?, h.accounts]
  cases i.accounts.find? Account.isFree with
  | none => exact .none
  | some a => exact .some ⟨_, _, _, rfl, rfl, h.withAccounts _⟩

theorem modifyAccount? (h : i.Matches j) (username : String) (f : Account → Account) :
    ((i.modifyAccount? username f).getD i).Matches ((j.modifyAccount? username f).getD j) := by
  rw [Inventory.modifyAccount?, Inventory.modifyAccount?, account?, account?, h.accounts]
  cases i.accounts.find? (·.username == username) with
  | none => exact h
  | some a => exact h.withAccounts _

theorem claimProxy? (h : i.Matches j) :
    Option.Rel (Agree Matches) i.claimProxy? j.claimProxy? := by
  have hfind : j.proxies.find? Proxy.isFree = i.proxies.find? Proxy.isFree := by
    rw [← find?_living, h.living, find?_living]
  have hfree (p : Proxy) (hp : p.isFree = true) : p.dead = false := by
    simp only [Proxy.isFree, Bool.and_eq_true, Bool.not_eq_true'] at hp
    exact hp.2
  have horderly {proxies : List Proxy} (ho : Orderly proxies) :
      Orderly (modifyFirst Proxy.isFree (fun p => { p with inUse := true }) proxies) := by
    refine ho.modifyFirst (fun _ => rfl) ?_
    intro p hp _ hdead
    have halive : p.dead = false := hfree p hp
    rw [show p.dead = true from hdead] at halive
    cases halive
  rw [Inventory.claimProxy?, Inventory.claimProxy?, hfind]
  cases i.proxies.find? Proxy.isFree with
  | none => exact .none
  | some p =>
      refine .some ⟨_, _, _, rfl, rfl, h.accounts, ?_, h.maxProxyId, horderly h.orderly,
        horderly h.orderly'⟩
      have hliving (proxies : List Proxy) :
          Inventory.living (modifyFirst Proxy.isFree (fun p => { p with inUse := true }) proxies) =
            modifyFirst Proxy.isFree (fun p => { p with inUse := true })
              (Inventory.living proxies) := living_modifyFirst hfree fun _ => rfl
      rw [hliving, hliving, h.living]

theorem modifyProxy? (h : i.Matches j) (id : ProxyId) {f : Proxy → Proxy}
    (hid : ∀ p, (f p).id = p.id) (hdead : ∀ p, p.dead = true → (f p).dead = true)
    (hunclaimed : ∀ p, (p.dead = true → p.inUse = false) → (f p).dead = true →
      (f p).inUse = false) :
    ((i.modifyProxy? id f).getD i).Matches ((j.modifyProxy? id f).getD j) := by
  have horderly {proxies : List Proxy} (ho : Orderly proxies) :
      Orderly (proxyLedger.modify id f proxies) := by
    rw [← proxyLedger.modifyFirst_key ho.nodup]
    exact ho.modifyFirst hid fun p _ => hunclaimed p
  rw [Balanced.modifyProxy?_eq h.orderly.nodup, Balanced.modifyProxy?_eq h.orderly'.nodup]
  refine ⟨h.accounts, ?_, h.maxProxyId, horderly h.orderly, horderly h.orderly'⟩
  dsimp only
  -- the record may be there in one of the two only, but then it is a dead one
  rw [living_modify hdead, h.living, ← living_modify hdead]

theorem releaseProxy? (h : i.Matches j) (id : ProxyId) :
    ((i.releaseProxy? id).getD i).Matches ((j.releaseProxy? id).getD j) :=
  h.modifyProxy? id (fun _ => rfl) (fun _ hdead => hdead) fun _ _ _ => rfl

theorem saveProxy? (h : i.Matches j) {copy : Proxy} (hcopy : copy.inUse = false) :
    ((i.saveProxy? copy).getD i).Matches ((j.saveProxy? copy).getD j) :=
  h.modifyProxy? copy.id (fun _ => rfl) (fun _ hdead => by simp [hdead]) fun _ _ _ => hcopy

theorem addProxy (h : i.Matches j) {p : Proxy} (halive : p.dead = false) :
    (i.addProxy p).Matches (j.addProxy p) where
  accounts := h.accounts
  living := by
    change Inventory.living (insertProxy p j.proxies) = Inventory.living (insertProxy p i.proxies)
    rw [living_insertProxy h.orderly.ascending halive,
      living_insertProxy h.orderly'.ascending halive, h.living]
  maxProxyId := congrArg (max · p.id) h.maxProxyId
  orderly := h.orderly.insertProxy halive
  orderly' := h.orderly'.insertProxy halive

/-- The second inventory is swept and the first is not. -/
theorem sweep_right (h : i.Matches j) : i.Matches j.sweep.2 where
  accounts := h.accounts
  living := by
    rw [← h.living]
    change (j.proxies.filter _).filter _ = _
    rw [List.filter_filter]
    simp [Inventory.living]
  maxProxyId := h.maxProxyId
  orderly := h.orderly
  orderly' := h.orderly'.sublist List.filter_sublist

end Matches

end Inventory

namespace Store

/-- Two stores that differ in their dead proxies only. -/
structure Matches (s t : Store) : Prop where
  inventory : s.inventory.Matches t.inventory
  objects : t.objects = s.objects
  faults : t.faults = s.faults

namespace Matches

variable {s t : Store}

theorem guarded {α : Type} (h : s.Matches t) (c : StoreCall)
    {act act' : Store → Except InventoryError α × Store} (hact : Agree Matches (act s) (act' t)) :
    Agree Matches (s.guarded c act) (t.guarded c act') := by
  rw [Store.guarded, Store.guarded, h.faults]
  split
  · exact hact
  · exact ⟨_, _, _, rfl, rfl, h.inventory, h.objects, rfl⟩

theorem claim {α : Type} (h : s.Matches t) (c : StoreCall) (missing : InventoryError)
    {f : Inventory → Option (α × Inventory)}
    (hf : Option.Rel (Agree Inventory.Matches) (f s.inventory) (f t.inventory)) :
    Agree Matches (s.claim c missing f) (t.claim c missing f) := by
  apply h.guarded
  generalize f s.inventory = x at hf
  generalize f t.inventory = y at hf
  cases hf with
  | none => exact ⟨_, _, _, rfl, rfl, h⟩
  | some hxy =>
      obtain ⟨a, i, j, rfl, rfl, hij⟩ := hxy
      exact ⟨_, _, _, rfl, rfl, hij, h.objects, h.faults⟩

theorem claimAccount (h : s.Matches t) : Agree Matches s.claimAccount t.claimAccount :=
  h.claim .claimAccount .noAccountAvailable h.inventory.claimAccount?

theorem claimProxy (h : s.Matches t) : Agree Matches s.claimProxy t.claimProxy :=
  h.claim .claimProxy .noProxyAvailable h.inventory.claimProxy?

theorem isProxyDead (h : s.Matches t) (id : ProxyId) :
    Agree Matches (s.isProxyDead id) (t.isProxyDead id) :=
  h.guarded .readProxy ⟨_, _, _, rfl, by rw [h.inventory.isProxyDead], h⟩

/-! ## Calls that change a record

A record may be missing in one of the stores, so that its answer is another one. -/

theorem snd_change (c : StoreCall) (missing : InventoryError)
    (f : Inventory → Option Inventory) :
    (s.change c missing f).2 =
      if s.faults c = 0 then { s with inventory := (f s.inventory).getD s.inventory }
      else { s with faults := fun d => if d = c then s.faults d - 1 else s.faults d } := by
  rw [Store.change, Store.guarded]
  split
  · cases f s.inventory <;> rfl
  · rfl

theorem change (h : s.Matches t) (c : StoreCall) (missing : InventoryError)
    {f : Inventory → Option Inventory}
    (hf : ((f s.inventory).getD s.inventory).Matches ((f t.inventory).getD t.inventory)) :
    (s.change c missing f).2.Matches (t.change c missing f).2 := by
  rw [snd_change, snd_change, h.faults]
  split
  · exact ⟨hf, h.objects, rfl⟩
  · exact ⟨h.inventory, h.objects, rfl⟩

theorem releaseAccount (h : s.Matches t) (username : String) :
    (s.releaseAccount username).2.Matches (t.releaseAccount username).2 :=
  h.change .releaseAccount (.unknownAccount username) (h.inventory.modifyAccount? username _)

theorem saveAccount (h : s.Matches t) (a : Account) :
    (s.saveAccount a).2.Matches (t.saveAccount a).2 :=
  h.change .saveAccount (.unknownAccount a.username) (h.inventory.modifyAccount? a.username _)

theorem releaseProxy (h : s.Matches t) (id : ProxyId) :
    (s.releaseProxy id).2.Matches (t.releaseProxy id).2 :=
  h.change .releaseProxy (.unknownProxy id) (h.inventory.releaseProxy? id)

theorem saveProxy (h : s.Matches t) {p : Proxy} (hp : p.inUse = false) :
    (s.saveProxy p).2.Matches (t.saveProxy p).2 :=
  h.change .saveProxy (.unknownProxy p.id) (h.inventory.saveProxy? hp)

theorem addProxy (h : s.Matches t) {p : Proxy} (halive : p.dead = false) :
    (s.addProxy p).2.Matches (t.addProxy p).2 := by
  apply Agree.snd
  apply h.guarded
  exact ⟨_, _, _, rfl, rfl, h.inventory.addProxy halive, h.objects, h.faults⟩

theorem addObjects (h : s.Matches t) (objects : List MapObject) :
    (s.addObjects objects).2.Matches (t.addObjects objects).2 := by
  apply Agree.snd
  apply h.guarded
  exact ⟨_, _, _, rfl, rfl, h.inventory, congrArg (ObjectCache.insertAll objects) h.objects,
    h.faults⟩

/-- The second store is swept and the first is not. -/
theorem sweep_right (h : s.Matches t) : s.Matches t.sweep.2 :=
  ⟨h.inventory.sweep_right, h.objects, h.faults⟩

end Matches

end Store

end MapScout
