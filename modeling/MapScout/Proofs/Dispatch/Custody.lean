import Mathlib.Logic.Relation
import MapScout.Dispatch.World
import MapScout.Proofs.Stock.Exclusive

/-!
# Who has what

A session is made from an account and a proxy that are claimed in the inventory, and is shown on the
board.  What scans and preloads do to inventory, board and sessions comes down to a few steps, none
of which loses a session: one is dropped only together with its claims.  Each step is about the
session at the head of the list, if about any.
-/

namespace MapScout

/-- The inventory when a session has been dropped: what is still of use has been released. -/
def Inventory.giveBack (i : Inventory) (s : Session) : Inventory :=
  let i := if s.account.isUnusable then i else (i.releaseAccount? s.username).getD i
  if s.proxy.dead then i else (i.releaseProxy? s.proxy.id).getD i

theorem Inventory.accounts_giveBack (i : Inventory) (s : Session) :
    (i.giveBack s).accounts = if s.account.isUnusable then i.accounts
      else ((i.releaseAccount? s.username).getD i).accounts := by
  have hproxy (i : Inventory) :
      (if s.proxy.dead then i else (i.releaseProxy? s.proxy.id).getD i).accounts = i.accounts := by
    split
    · rfl
    · exact accounts_modifyProxy? ..
  rw [giveBack, hproxy]
  split <;> rfl

/-- To give a session back is to release its account, or nothing if the account is out of use. -/
theorem Inventory.steps_giveBack {i : Inventory} {accounts : List Account}
    (hnodup : (i.accounts.map (·.username)).Nodup) (s : Session) :
    accountLedger.Steps (i.accounts, s.account :: accounts) ((i.giveBack s).accounts, accounts) := by
  rw [accounts_giveBack]
  split
  · exact .single (.pass (List.sublist_cons_self ..).subperm)
  · exact .single (steps_releaseAccount hnodup s.account)

/-- The inventory, the board, and the sessions that are about. -/
structure Custody where
  inventory : Inventory
  board : Board
  sessions : List Session

namespace Custody

/-- What is done in one go. -/
inductive Step : Custody → Custody → Prop where
  /-- Sessions change their places. -/
  | shuffle {i : Inventory} {b : Board} {l l' : List Session} (h : l'.Perm l) :
      Step ⟨i, b, l⟩ ⟨i, b, l'⟩
  /-- The client of a session goes on. -/
  | touch {i : Inventory} {b : Board} {s s' : Session} {l : List Session}
      (haccount : s'.account = s.account) (hproxy : s'.proxy = s.proxy) :
      Step ⟨i, b, s :: l⟩ ⟨i, b, s' :: l⟩
  /-- The proxy is known to be dead from now on. -/
  | bury {i : Inventory} {b : Board} {s : Session} {l : List Session} :
      Step ⟨i, b, s :: l⟩ ⟨(i.saveProxy? s.proxy.die).getD i, b, s.bind s.proxy.die :: l⟩
  /-- The proxy has been found dead by somebody else. -/
  | learn {i : Inventory} {b : Board} {s : Session} {l : List Session}
      (hdead : i.isProxyDead s.proxy.id = true) :
      Step ⟨i, b, s :: l⟩ ⟨i, b, s.bind s.proxy.die :: l⟩
  /-- The session gets another proxy in place of a dead one, and is shown with it. -/
  | rebind {i i' : Inventory} {b : Board} {s : Session} {p : Proxy} {l : List Session}
      (hdead : s.proxy.dead = true) (hclaim : i.claimProxy? = some (p, i')) :
      Step ⟨i, b, s :: l⟩ ⟨i', b.set s.username p.id, s.bind p :: l⟩
  /-- The account is known to be unusable from now on. -/
  | condemn {i : Inventory} {b : Board} {s : Session} {a : Account} {l : List Session}
      (hname : a.username = s.username) (hunusable : a.isUnusable = true) :
      Step ⟨i, b, s :: l⟩
        ⟨(i.saveAccount? a).getD i, b.remove s.username, { s with account := a } :: l⟩
  | evict {i : Inventory} {b : Board} {s : Session} {l : List Session} :
      Step ⟨i, b, s :: l⟩ ⟨i.giveBack s, b.remove s.username, l⟩
  /-- A session is built and shown. -/
  | provision {i i' i'' : Inventory} {b : Board} {s : Session} {l : List Session}
      (haccount : i.claimAccount? = some (s.account, i'))
      (hproxy : i'.claimProxy? = some (s.proxy, i'')) :
      Step ⟨i, b, l⟩ ⟨i'', b.set s.username s.proxy.id, s :: l⟩
  /-- An account has been claimed in vain, for want of a proxy. -/
  | noProxy {i i' : Inventory} {b : Board} {a : Account} {l : List Session}
      (haccount : i.claimAccount? = some (a, i')) (hproxy : i'.claimProxy? = none) :
      Step ⟨i, b, l⟩ ⟨(i'.releaseAccount? a.username).getD i', b, l⟩

abbrev Path : Custody → Custody → Prop := Relation.ReflTransGen Step

def append (c : Custody) (others : List Session) : Custody :=
  { c with sessions := c.sessions ++ others }

variable {c c' : Custody}

/-- Whatever is done in one go may be done while more sessions are about. -/
theorem Step.append (h : Step c c') (others : List Session) :
    Step (c.append others) (c'.append others) := by
  cases h with
  | shuffle h => exact .shuffle (h.append_right _)
  | touch haccount hproxy => exact .touch haccount hproxy
  | bury => exact .bury
  | learn hdead => exact .learn hdead
  | rebind hdead hclaim => exact .rebind hdead hclaim
  | condemn hname hunusable => exact .condemn hname hunusable
  | evict => exact .evict
  | provision haccount hproxy => exact .provision haccount hproxy
  | noProxy haccount hproxy => exact .noProxy haccount hproxy

theorem Path.append (h : Path c c') (others : List Session) :
    Path (c.append others) (c'.append others) := by
  induction h with
  | refl => exact .refl
  | tail _ hlast ih => exact ih.tail (hlast.append others)

/-- Whatever every step preserves, a path preserves. -/
theorem Path.induction {P : Custody → Prop} (hstep : ∀ c c', Step c c' → P c → P c')
    (h : Path c c') (hc : P c) : P c' := by
  induction h with
  | refl => exact hc
  | tail _ hlast ih => exact hstep _ _ hlast ih

end Custody

namespace Inventory

/-- The claims in an inventory are those of some sessions. -/
def Covers (i : Inventory) (known : List ProxyId) (sessions : List Session) : Prop :=
  i.Balanced known (sessions.map (·.account)) (sessions.map (·.proxy))

variable {i : Inventory} {known : List ProxyId} {sessions sessions' : List Session} {s : Session}

theorem Covers.perm (h : i.Covers known sessions) (hperm : sessions'.Perm sessions) :
    i.Covers known sessions' :=
  Balanced.perm h (hperm.map _) (hperm.map _)

/-- A session that is given back takes its claims with it. -/
theorem Covers.giveBack (h : i.Covers known (s :: sessions)) :
    (i.giveBack s).Covers known sessions := by
  rw [Inventory.giveBack]
  -- First the account goes, then the proxy.
  have haccount : (if s.account.isUnusable then i
      else (i.releaseAccount? s.username).getD i).Balanced known (sessions.map (·.account))
        ((s :: sessions).map (·.proxy)) := by
    split
    next hunusable => exact h.dropAccount hunusable
    next => exact h.releaseAccount
  split
  next hdead => exact haccount.dropProxy hdead
  next => exact haccount.releaseProxy

/-- Whatever is done, the claims remain those of the sessions. -/
theorem Covers.step {c c' : Custody} (hstep : c.Step c')
    (h : c.inventory.Covers known c.sessions) : c'.inventory.Covers known c'.sessions := by
  cases hstep with
  | shuffle hperm => exact h.perm hperm
  | touch haccount hproxy =>
      simp only [Covers, List.map_cons] at h ⊢
      rwa [haccount, hproxy]
  | bury => exact h.buryProxy
  | learn hdead => exact h.learnProxy hdead
  | rebind hdead hclaim => exact (h.dropProxy hdead).claimProxy hclaim
  | condemn hname hunusable => exact h.saveAccount hname hunusable
  | evict => exact h.giveBack
  | provision haccount hproxy => exact (h.claimAccount haccount).claimProxy hproxy
  | noProxy haccount hproxy => exact (h.claimAccount haccount).releaseAccount

/-- The claims are those of the sessions after whatever is done. -/
theorem Covers.path {c c' : Custody} (hpath : c.Path c')
    (h : c.inventory.Covers known c.sessions) : c'.inventory.Covers known c'.sessions :=
  hpath.induction (P := fun c => c.inventory.Covers known c.sessions) (fun _ _ => Covers.step) h

end Inventory

end MapScout
