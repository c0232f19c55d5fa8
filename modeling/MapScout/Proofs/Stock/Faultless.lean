import MapScout.Stock.Store

/-!
# Stores that refuse nothing

A store without faults ahead passes every call on to its inventory and stays without faults.
-/

namespace MapScout.Store

variable {s : Store}

/-- No call will be refused. -/
def Faultless (s : Store) : Prop := ∀ c, s.faults c = 0

theorem guarded_eq {α : Type} (h : s.Faultless) (c : StoreCall)
    (act : Store → Except InventoryError α × Store) : s.guarded c act = act s := by
  rw [guarded, if_pos (h c)]

theorem change_eq (h : s.Faultless) (c : StoreCall) (missing : InventoryError)
    (f : Inventory → Option Inventory) :
    (s.change c missing f).2 = { s with inventory := (f s.inventory).getD s.inventory } := by
  rw [change, guarded_eq h]
  cases f s.inventory <;> rfl

theorem claim_eq {α : Type} (h : s.Faultless) (c : StoreCall) (missing : InventoryError)
    (f : Inventory → Option (α × Inventory)) :
    s.claim c missing f =
      match f s.inventory with
      | none => (.error missing, s)
      | some (a, i) => (.ok a, { s with inventory := i }) := by
  apply (guarded_eq h c _).trans
  cases f s.inventory <;> rfl

theorem isProxyDead_eq (h : s.Faultless) (id : ProxyId) :
    s.isProxyDead id = (.ok (s.inventory.isProxyDead id), s) := by
  rw [isProxyDead, guarded_eq h]

theorem inventory_releaseAccount (h : s.Faultless) (username : String) :
    (s.releaseAccount username).2.inventory =
      (s.inventory.releaseAccount? username).getD s.inventory := by
  rw [releaseAccount, change_eq h]

theorem inventory_saveAccount (h : s.Faultless) (a : Account) :
    (s.saveAccount a).2.inventory = (s.inventory.saveAccount? a).getD s.inventory := by
  rw [saveAccount, change_eq h]

theorem inventory_releaseProxy (h : s.Faultless) (id : ProxyId) :
    (s.releaseProxy id).2.inventory = (s.inventory.releaseProxy? id).getD s.inventory := by
  rw [releaseProxy, change_eq h]

theorem inventory_saveProxy (h : s.Faultless) (p : Proxy) :
    (s.saveProxy p).2.inventory = (s.inventory.saveProxy? p).getD s.inventory := by
  rw [saveProxy, change_eq h]

theorem inventory_addProxy (h : s.Faultless) (p : Proxy) :
    (s.addProxy p).2.inventory = s.inventory.addProxy p := by
  rw [addProxy, guarded_eq h]

/-! ## Staying without faults -/

theorem Faultless.change (h : s.Faultless) (c : StoreCall) (missing : InventoryError)
    (f : Inventory → Option Inventory) : (s.change c missing f).2.Faultless := by
  rw [change_eq h]
  exact h

theorem Faultless.claim {α : Type} (h : s.Faultless) (c : StoreCall) (missing : InventoryError)
    (f : Inventory → Option (α × Inventory)) : (s.claim c missing f).2.Faultless := by
  rw [claim_eq h]
  cases f s.inventory <;> exact h

theorem Faultless.claimAccount (h : s.Faultless) : s.claimAccount.2.Faultless :=
  h.claim .claimAccount .noAccountAvailable Inventory.claimAccount?

theorem Faultless.releaseAccount (h : s.Faultless) (username : String) :
    (s.releaseAccount username).2.Faultless :=
  h.change .releaseAccount (.unknownAccount username) (·.releaseAccount? username)

theorem Faultless.saveAccount (h : s.Faultless) (a : Account) : (s.saveAccount a).2.Faultless :=
  h.change .saveAccount (.unknownAccount a.username) (·.saveAccount? a)

theorem Faultless.claimProxy (h : s.Faultless) : s.claimProxy.2.Faultless :=
  h.claim .claimProxy .noProxyAvailable Inventory.claimProxy?

theorem Faultless.releaseProxy (h : s.Faultless) (id : ProxyId) :
    (s.releaseProxy id).2.Faultless :=
  h.change .releaseProxy (.unknownProxy id) (·.releaseProxy? id)

theorem Faultless.saveProxy (h : s.Faultless) (p : Proxy) : (s.saveProxy p).2.Faultless :=
  h.change .saveProxy (.unknownProxy p.id) (·.saveProxy? p)

theorem Faultless.isProxyDead (h : s.Faultless) (id : ProxyId) :
    (s.isProxyDead id).2.Faultless := by
  rw [isProxyDead_eq h]
  exact h

theorem Faultless.addProxy (h : s.Faultless) (p : Proxy) : (s.addProxy p).2.Faultless := by
  rw [Store.addProxy, guarded_eq h]
  exact h

theorem Faultless.addObjects (h : s.Faultless) (objects : List MapObject) :
    (s.addObjects objects).2.Faultless := by
  rw [Store.addObjects, guarded_eq h]
  exact h

theorem Faultless.sweep (h : s.Faultless) : s.sweep.2.Faultless := h

end MapScout.Store
