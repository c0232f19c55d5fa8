import MapScout.Proofs.Stock.Faultless
import MapScout.Proofs.Stock.Remains

/-!
# What is done to an inventory

The calls that change an inventory, each taken as one act.  Of the proxies little has to be known to
tell what becomes of them: which number is the greatest that was ever stored, and whether a number
is dead.  A dead number comes back only if a proxy is added under it anew.
-/

namespace MapScout

namespace Inventory

inductive Act where
  | claimAccount
  | releaseAccount (username : String)
  | saveAccount (a : Account)
  | addAccounts (accounts : List Account)
  | claimProxy
  | releaseProxy (id : ProxyId)
  | saveProxy (p : Proxy)
  | addProxy (p : Proxy)
  | dropProxies
  | sweep

namespace Act

def isAboutAccounts : Act → Bool
  | claimAccount | releaseAccount _ | saveAccount _ | addAccounts _ => true
  | _ => false

def isDaily : Act → Bool
  | addProxy _ | dropProxies => false
  | _ => true

def kills (id : ProxyId) : Act → Bool
  | saveProxy p => p.id == id && p.dead
  | _ => false

end Act

def after (a : Act) (i : Inventory) : Inventory :=
  match a with
  | .claimAccount => i.claimAccount?.elim i (·.2)
  | .releaseAccount username => (i.releaseAccount? username).getD i
  | .saveAccount a => (i.saveAccount? a).getD i
  | .addAccounts accounts => (i.addAccounts accounts).2
  | .claimProxy => i.claimProxy?.elim i (·.2)
  | .releaseProxy id => (i.releaseProxy? id).getD i
  | .saveProxy p => (i.saveProxy? p).getD i
  | .addProxy p => i.addProxy p
  | .dropProxies => i.dropProxies
  | .sweep => i.sweep.2

variable {i i' : Inventory} {proxies : List Proxy} {a : Act} {p : Proxy} {id : ProxyId}
variable {f : Proxy → Proxy}

/-! ## Acts on accounts -/

structure SameProxies (i i' : Inventory) : Prop where
  proxies : i'.proxies = i.proxies
  maxProxyId : i'.maxProxyId = i.maxProxyId

theorem sameProxies_addAccounts (accounts : List Account) (i : Inventory) :
    i.SameProxies (i.addAccounts accounts).2 := by
  induction accounts generalizing i with
  | nil => exact ⟨rfl, rfl⟩
  | cons a accounts ih =>
      rw [addAccounts]
      split
      · exact ih i
      · have hrest := ih { i with accounts := i.accounts ++ [a] }
        exact ⟨hrest.proxies, hrest.maxProxyId⟩

theorem sameProxies_after (i : Inventory) (ha : a.isAboutAccounts = true) :
    i.SameProxies (i.after a) := by
  have hmodify (username : String) (f : Account → Account) :
      i.SameProxies ((i.modifyAccount? username f).getD i) := by
    rw [modifyAccount?]
    cases i.account? username <;> exact ⟨rfl, rfl⟩
  cases a with
  | claimAccount =>
      rw [after, claimAccount?]
      cases i.accounts.find? Account.isFree <;> exact ⟨rfl, rfl⟩
  | releaseAccount username => exact hmodify username _
  | saveAccount a => exact hmodify a.username _
  | addAccounts accounts => exact sameProxies_addAccounts accounts i
  | _ => cases ha

/-! ## The greatest number -/

theorem le_max (x y : ProxyId) : x ≤ max x y ∧ y ≤ max x y := by
  change x ≤ (if x ≤ y then y else x) ∧ y ≤ (if x ≤ y then y else x)
  split
  · rename_i h
    exact ⟨h, UInt64.le_refl y⟩
  · rename_i h
    exact ⟨UInt64.le_refl x, UInt64.le_of_lt (UInt64.not_le.mp h)⟩

/-- What an act makes of the greatest number that was ever stored. -/
theorem maxProxyId_after (i : Inventory) (a : Act) :
    (i.after a).maxProxyId =
      match a with
      | .addProxy p => max i.maxProxyId p.id
      | _ => i.maxProxyId := by
  have hmodify (id : ProxyId) (f : Proxy → Proxy) :
      ((i.modifyProxy? id f).getD i).maxProxyId = i.maxProxyId := by
    rw [modifyProxy?]
    cases i.proxy? id <;> rfl
  cases a with
  | claimProxy =>
      rw [after, claimProxy?]
      cases i.proxies.find? Proxy.isFree <;> rfl
  | releaseProxy id => exact hmodify id _
  | saveProxy p => exact hmodify p.id _
  | addProxy p => rfl
  | dropProxies => rfl
  | sweep => rfl
  | _ => exact (sameProxies_after i rfl).maxProxyId

/-! ## The order of the proxies -/

/-- The proxies stay stored by ascending number. -/
theorem ascending_after (h : i.proxies.Pairwise (·.id < ·.id)) (a : Act) :
    (i.after a).proxies.Pairwise (·.id < ·.id) := by
  have hmodify (id : ProxyId) (f : Proxy → Proxy) (hid : ∀ p, (f p).id = p.id) :
      ((i.modifyProxy? id f).getD i).proxies.Pairwise (·.id < ·.id) := by
    rw [modifyProxy?]
    cases i.proxy? id with
    | none => exact h
    | some p => exact ascending_modifyFirst h hid
  cases a with
  | claimProxy =>
      rw [after, claimProxy?]
      cases i.proxies.find? Proxy.isFree with
      | none => exact h
      | some p => exact ascending_modifyFirst h fun _ => rfl
  | releaseProxy id => exact hmodify id _ fun _ => rfl
  | saveProxy p => exact hmodify p.id _ fun _ => rfl
  | addProxy p => exact ascending_insertProxy h
  | dropProxies => exact List.Pairwise.nil
  | sweep => exact h.sublist List.filter_sublist
  | _ =>
      rw [(sameProxies_after i rfl).proxies]
      exact h

/-! ## The record of a number -/

/-- A change of one proxy that leaves number and death alone. -/
theorem all_dead_modifyFirst {free : Proxy → Bool} (hid : ∀ p, (f p).id = p.id)
    (hdead : ∀ p, (f p).dead = p.dead) (id : ProxyId) (proxies : List Proxy) :
    ((modifyFirst free f proxies).find? (·.id == id)).all (·.dead) =
      (proxies.find? (·.id == id)).all (·.dead) := by
  induction proxies with
  | nil => rfl
  | cons p rest ih =>
      have hsame : ((f p).id == id) = (p.id == id) := by rw [hid]
      rw [modifyFirst]
      cases hp : p.id == id <;> split <;>
        simp only [List.find?_cons, hsame, hp, hdead, Option.all_some, ih]

/-- Who is found after a change: the same proxy, changed if it is the one. -/
theorem find?_modifyFirst_id (hid : ∀ p, (f p).id = p.id) (id other : ProxyId)
    (proxies : List Proxy) :
    (modifyFirst (·.id == id) f proxies).find? (·.id == other) =
      (proxies.find? (·.id == other)).map fun p => if p.id = id then f p else p := by
  induction proxies with
  | nil => rfl
  | cons p rest ih =>
      have hsame : ((f p).id == other) = (p.id == other) := by rw [hid]
      rw [modifyFirst]
      by_cases hp : p.id = id
      · rw [if_pos (by simpa using hp), List.find?_cons, List.find?_cons, hsame]
        cases hother : p.id == other with
        | true => simp [hp]
        | false =>
            have hne : other ≠ id := by
              rintro rfl
              rw [hp, beq_self_eq_true] at hother
              cases hother
            dsimp only
            cases hfind : rest.find? (·.id == other) with
            | none => rfl
            | some q =>
                have hq : q.id = other := by simpa using List.find?_some hfind
                rw [Option.map_some, if_neg (hq ▸ hne)]
      · rw [if_neg (by simpa using hp), List.find?_cons, List.find?_cons, ih]
        cases p.id == other <;> simp [hp]

/-- Who is found after an addition: the new proxy under its id, the old ones elsewhere. -/
theorem find?_insertProxy (p : Proxy) (id : ProxyId) (proxies : List Proxy) :
    (insertProxy p proxies).find? (·.id == id) =
      if id = p.id then some p else proxies.find? (·.id == id) := by
  induction proxies with
  | nil => by_cases hid : id = p.id <;> simp [insertProxy, hid, Ne.symm]
  | cons q rest ih =>
      rw [insertProxy]
      by_cases hid : id = p.id
      · subst hid
        rw [if_pos rfl] at ih ⊢
        split
        · simp
        · split
          · simp
          · rename_i hne
            rw [List.find?_cons_of_neg (by simpa using Ne.symm hne), ih]
      · have hp : (p.id == id) = false := by simpa using Ne.symm hid
        rw [if_neg hid] at ih ⊢
        split
        · rw [List.find?_cons_of_neg (by simp [hp])]
        · split
          · rename_i hsame
            have hq : (q.id == id) = false := by rwa [← hsame]
            simp [hp, hq]
          · rw [List.find?_cons, List.find?_cons, ih]

/-- A sweep changes nothing about who is dead, since a proxy without a record counts as dead. -/
theorem all_dead_filter (h : (proxies.map (·.id)).Nodup) (id : ProxyId) :
    ((proxies.filter (!·.dead)).find? (·.id == id)).all (·.dead) =
      (proxies.find? (·.id == id)).all (·.dead) := by
  induction proxies with
  | nil => rfl
  | cons p rest ih =>
      obtain ⟨hnew, hnodup⟩ := List.nodup_cons.mp h
      have hrest := ih hnodup
      by_cases hp : p.id = id
      · subst hp
        have hnone : rest.find? (·.id == p.id) = none := by
          rw [List.find?_eq_none]
          intro q hq he
          exact hnew (List.mem_map.mpr ⟨q, hq, beq_iff_eq.mp he⟩)
        cases hdead : p.dead with
        | true =>
            rw [List.filter_cons_of_neg (by simp [hdead]), hrest, hnone]
            simp [hdead]
        | false => simp [hdead]
      · have hne : (p.id == id) = false := by simpa using hp
        rw [List.find?_cons_of_neg (by simp [hne]), ← hrest]
        cases hdead : p.dead with
        | true => rw [List.filter_cons_of_neg (by simp [hdead])]
        | false =>
            rw [List.filter_cons_of_pos (by simp [hdead]), List.find?_cons_of_neg (by simp [hne])]

/-! ## The dead -/

theorem isProxyDead_addProxy (i : Inventory) (p : Proxy) (id : ProxyId) :
    (i.addProxy p).isProxyDead id = if id = p.id then p.dead else i.isProxyDead id := by
  have hfind : (i.addProxy p).proxy? id = if id = p.id then some p else i.proxy? id :=
    find?_insertProxy p id i.proxies
  rw [isProxyDead, hfind]
  split <;> rfl

/-- Who is dead after a change to one record. -/
theorem isProxyDead_modifyProxy? (i : Inventory) (id other : ProxyId)
    (hid : ∀ p, (f p).id = p.id) :
    ((i.modifyProxy? id f).getD i).isProxyDead other =
      (i.proxy? other).all fun p => if p.id = id then (f p).dead else p.dead := by
  rw [modifyProxy?]
  cases hfind : i.proxy? id with
  | none =>
      rw [Option.map_none, Option.getD_none, isProxyDead]
      cases hother : i.proxy? other with
      | none => rfl
      | some p =>
          have hne : p.id ≠ id := by
            rintro rfl
            have hp : i.proxies.find? (·.id == p.id) = none := hfind
            exact List.find?_eq_none.mp hp p (List.mem_of_find?_eq_some hother)
              (beq_self_eq_true _)
          simp [hne]
  | some q =>
      rw [Option.map_some, Option.getD_some, isProxyDead, proxy?, find?_modifyFirst_id hid,
        proxy?]
      cases i.proxies.find? (·.id == other) with
      | none => rfl
      | some p =>
          rw [Option.map_some, Option.all_some, Option.all_some]
          split <;> rfl

/-- In daily business a number is dead if it was dead before, or has been marked so. -/
theorem isProxyDead_after (h : i.proxies.Pairwise (·.id < ·.id)) (ha : a.isDaily = true)
    (id : ProxyId) : (i.after a).isProxyDead id = (i.isProxyDead id || a.kills id) := by
  cases a with
  | claimProxy =>
      refine Eq.trans ?_ (Bool.or_false _).symm
      rw [after, claimProxy?]
      cases i.proxies.find? Proxy.isFree with
      | none => rfl
      | some p =>
          exact all_dead_modifyFirst (f := fun p => { p with inUse := true }) (fun _ => rfl)
            (fun _ => rfl) id i.proxies
  | releaseProxy other =>
      rw [after, releaseProxy?, isProxyDead_modifyProxy? i other id (by intro p; rfl)]
      simp [isProxyDead, Act.kills]
  | saveProxy p =>
      rw [after, saveProxy?, isProxyDead_modifyProxy? i p.id id (by intro q; rfl), Act.kills,
        isProxyDead]
      cases hfind : i.proxy? id with
      | none => rfl
      | some q =>
          have hq : q.id = id := by simpa using List.find?_some hfind
          rw [Option.all_some, Option.all_some, hq]
          by_cases hid : p.id = id
          · simp [hid]
          · simp [hid, Ne.symm hid]
  | addProxy p => cases ha
  | dropProxies => cases ha
  | sweep => exact (all_dead_filter (nodup_of_ascending h) id).trans (Bool.or_false _).symm
  | _ =>
      refine Eq.trans ?_ (Bool.or_false _).symm
      rw [isProxyDead, isProxyDead, proxy?, proxy?, (sameProxies_after i rfl).proxies]

/-- A dead proxy is not handed out. -/
theorem isProxyDead_of_claimProxy? (h : i.proxies.Pairwise (·.id < ·.id))
    (hclaim : i.claimProxy? = some (p, i')) : i.isProxyDead p.id = false := by
  rw [claimProxy?, Option.map_eq_some_iff] at hclaim
  obtain ⟨r, hfind, heq⟩ := hclaim
  obtain ⟨rfl, rfl⟩ := Prod.mk.inj heq
  have hfree : r.inUse = false ∧ r.dead = false := by
    simpa [Proxy.isFree] using List.find?_some hfind
  have hr : i.proxies.find? (·.id == r.id) = some r :=
    proxyLedger.find?_key (nodup_of_ascending h) (List.mem_of_find?_eq_some hfind)
  simp [isProxyDead, proxy?, hr, hfree.2]

/-- A number that is not dead has a record, and one that says so. -/
theorem isProxyDead_eq_false : i.isProxyDead id = false ↔ ∃ p, i.proxy? id = some p ∧
    p.dead = false := by
  rw [isProxyDead]
  cases i.proxy? id <;> simp

end Inventory

namespace Store

def perform (a : Inventory.Act) (s : Store) : Store :=
  match a with
  | .claimAccount => s.claimAccount.2
  | .releaseAccount username => (s.releaseAccount username).2
  | .saveAccount a => (s.saveAccount a).2
  | .addAccounts accounts => (s.addAccounts accounts).2
  | .claimProxy => s.claimProxy.2
  | .releaseProxy id => (s.releaseProxy id).2
  | .saveProxy p => (s.saveProxy p).2
  | .addProxy p => (s.addProxy p).2
  | .dropProxies => s.dropProxies.2
  | .sweep => s.sweep.2

def performAll (s : Store) (acts : List Inventory.Act) : Store :=
  acts.foldl (fun s a => s.perform a) s

variable {s : Store}

theorem dropProxies_eq (h : s.Faultless) :
    s.dropProxies = (.ok (), { s with inventory := s.inventory.dropProxies }) := by
  rw [dropProxies, guarded_eq h]

theorem maxProxyId_eq (h : s.Faultless) : s.maxProxyId = (.ok s.inventory.maxProxyId, s) := by
  rw [maxProxyId, guarded_eq h]

theorem Faultless.perform (h : s.Faultless) (a : Inventory.Act) : (s.perform a).Faultless := by
  cases a with
  | claimAccount => exact h.claimAccount
  | releaseAccount username => exact h.releaseAccount username
  | saveAccount a => exact h.saveAccount a
  | addAccounts accounts => exact h
  | claimProxy => exact h.claimProxy
  | releaseProxy id => exact h.releaseProxy id
  | saveProxy p => exact h.saveProxy p
  | addProxy p => exact h.addProxy p
  | dropProxies =>
      rw [Store.perform, dropProxies_eq h]
      exact h
  | sweep => exact h.sweep

theorem Faultless.performAll (h : s.Faultless) (acts : List Inventory.Act) :
    (s.performAll acts).Faultless := by
  induction acts generalizing s with
  | nil => exact h
  | cons a acts ih => exact ih (h.perform a)

/-- Where nothing is refused, an act is done to the inventory. -/
theorem inventory_perform (h : s.Faultless) (a : Inventory.Act) :
    (s.perform a).inventory = s.inventory.after a := by
  cases a with
  | claimAccount =>
      rw [perform, claimAccount, claim_eq h, Inventory.after]
      cases s.inventory.claimAccount? <;> rfl
  | releaseAccount username => exact inventory_releaseAccount h username
  | saveAccount a => exact inventory_saveAccount h a
  | addAccounts accounts => rfl
  | claimProxy =>
      rw [perform, claimProxy, claim_eq h, Inventory.after]
      cases s.inventory.claimProxy? <;> rfl
  | releaseProxy id => exact inventory_releaseProxy h id
  | saveProxy p => exact inventory_saveProxy h p
  | addProxy p => exact inventory_addProxy h p
  | dropProxies => rw [perform, dropProxies_eq h, Inventory.after]
  | sweep => rfl

/-- No number that was ever stored is above the greatest one, also when the records are gone. -/
theorem le_maxProxyId_performAll (h : s.Faultless) {acts : List Inventory.Act} {p : Proxy}
    (hp : .addProxy p ∈ acts) : p.id ≤ (s.performAll acts).inventory.maxProxyId := by
  have hgrows {s : Store} (h : s.Faultless) (acts : List Inventory.Act) :
      s.inventory.maxProxyId ≤ (s.performAll acts).inventory.maxProxyId := by
    induction acts generalizing s with
    | nil => exact UInt64.le_refl _
    | cons a acts ih =>
        refine UInt64.le_trans ?_ (ih (h.perform a))
        rw [inventory_perform h, Inventory.maxProxyId_after]
        split
        · exact (Inventory.le_max _ _).1
        · exact UInt64.le_refl _
  induction acts generalizing s with
  | nil => cases hp
  | cons a acts ih =>
      obtain rfl | hp := List.mem_cons.mp hp
      · refine UInt64.le_trans ?_ (hgrows (h.perform _) acts)
        rw [inventory_perform h, Inventory.maxProxyId_after]
        exact (Inventory.le_max _ _).2
      · exact ih (h.perform a) hp

end Store

end MapScout
