import Mathlib.Data.List.Perm.Subperm
import MapScout.Proofs.Dispatch.Transcript

/-!
# The books of a dispatcher

What scans and preloads do to the inventory, the board and the sessions comes down to a few moves.
Each is about the one session that a task has in its hand in its turn.  When the client of that
session has failed, the failure is news until a conclusion has been drawn from it: a proxy that was
found dead is buried, and an account that turned out to be unusable is condemned.  A session leaves
the hand only when there is no news of it; it is put away if it is still of use, and dropped
otherwise.
-/

namespace MapScout

/-- The account after a failure of its client. -/
def Account.judged (a : Account) (e : ClientError) : Account :=
  match e.accountHealth with
  | .healthy => a
  | .banned => { a with banned := true }
  | .challengeRequired => { a with flagged := true }

structure Books where
  inventory : Inventory
  board : Board
  evictions : Nat
  /-- The session that a task has in its hand. -/
  hand : Option Session
  /-- What the client of that session has failed with, until a conclusion has been drawn from it. -/
  news : Option ClientError
  /-- The sessions that are elsewhere. -/
  others : List Session

namespace Books

def sessions (b : Books) : List Session := b.hand.toList ++ b.others

/-- What is done to the books in one go. -/
inductive Move (b : Books) : Books → Prop where
  /-- The client of the session goes on. -/
  | touch {s s' : Session} (hhand : b.hand = some s) (haccount : s'.account = s.account)
      (hproxy : s'.proxy = s.proxy) : Move b { b with hand := some s' }
  | show_ {s : Session} (hhand : b.hand = some s) :
      Move b { b with board := b.board.set s.username s.proxy.id }
  /-- The proxy is known to be dead from now on. -/
  | bury {s : Session} (hhand : b.hand = some s) (hnews : ∀ e ∈ b.news, e = .proxyDead) :
      Move b { b with
        inventory := (b.inventory.saveProxy? s.proxy.die).getD b.inventory
        hand := some (s.bind s.proxy.die)
        news := none }
  /-- The proxy has been found dead by somebody else. -/
  | learn {s : Session} (hhand : b.hand = some s) (hnews : b.news = none)
      (hdead : b.inventory.isProxyDead s.proxy.id = true) :
      Move b { b with hand := some (s.bind s.proxy.die) }
  /-- The session gets another proxy in place of a dead one. -/
  | rebind {s : Session} {p : Proxy} {i : Inventory} (hhand : b.hand = some s)
      (hnews : b.news = none) (hdead : s.proxy.dead = true)
      (hclaim : b.inventory.claimProxy? = some (p, i)) :
      Move b { b with inventory := i, hand := some (s.bind p) }
  /-- The account is known to be unusable from now on. -/
  | condemn {s : Session} {e : ClientError} (hhand : b.hand = some s) (hnews : b.news = some e)
      (hhealth : e.accountHealth ≠ .healthy) :
      Move b { b with
        inventory := (b.inventory.saveAccount? (s.account.judged e)).getD b.inventory
        board := b.board.remove s.username
        hand := some { s with account := s.account.judged e }
        news := none }
  /-- The failure says nothing about the account, nor about the proxy. -/
  | shrug {e : ClientError} (hnews : b.news = some e) (hhealth : e.accountHealth = .healthy)
      (halive : e ≠ .proxyDead) : Move b { b with news := none }
  | evict {s : Session} (hhand : b.hand = some s) (hnews : b.news = none) :
      Move b { b with
        inventory := b.inventory.giveBack s
        board := b.board.remove s.username
        evictions := b.evictions + 1
        hand := none }
  | put {s : Session} (hhand : b.hand = some s) (hnews : b.news = none)
      (huseful : s.isSpent = false) : Move b { b with hand := none, others := s :: b.others }
  | take {s : Session} {l : List Session} (hhand : b.hand = none) (hnews : b.news = none)
      (hothers : b.others = s :: l) : Move b { b with hand := some s, others := l }
  /-- Sessions that nobody has in hand change their places, or are lost. -/
  | shift {l : List Session} (h : l.Subperm b.others) : Move b { b with others := l }
  | provision {s : Session} {i i' : Inventory} (hhand : b.hand = none) (hnews : b.news = none)
      (haccount : b.inventory.claimAccount? = some (s.account, i))
      (hproxy : i.claimProxy? = some (s.proxy, i')) :
      Move b { b with inventory := i', hand := some s }
  /-- An account has been claimed in vain, for want of a proxy. -/
  | noProxy {a : Account} {i : Inventory} (hhand : b.hand = none)
      (haccount : b.inventory.claimAccount? = some (a, i)) (hproxy : i.claimProxy? = none) :
      Move b { b with inventory := (i.releaseAccount? a.username).getD i }

abbrev Path : Books → Books → Prop := Relation.ReflTransGen Move

variable {b b' : Books}

/-- Whatever every move preserves, a path preserves. -/
theorem Path.induction {P : Books → Prop} (hmove : ∀ b b', Move b b' → P b → P b')
    (h : Path b b') (hb : P b) : P b' := by
  induction h with
  | refl => exact hb
  | tail _ hlast ih => exact hmove _ _ hlast ih

/-- Only sessions that are of use are put away. -/
theorem Path.others_not_spent (h : Path b b') (hb : ∀ s ∈ b.others, s.isSpent = false) :
    ∀ s ∈ b'.others, s.isSpent = false := by
  refine h.induction (P := fun b => ∀ s ∈ b.others, s.isSpent = false) (fun b b' hmove hb => ?_) hb
  cases hmove with
  | put _ _ huseful => exact List.forall_mem_cons.mpr ⟨huseful, hb⟩
  | take _ _ hothers =>
      rw [hothers] at hb
      exact (List.forall_mem_cons.mp hb).2
  | shift h => exact fun s hs => hb s (h.subset hs)
  | _ => exact hb

end Books

def World.books (w : World) (hand : Option Session) (news : Option ClientError)
    (others : List Session) : Books :=
  { inventory := w.store.inventory, board := w.board, evictions := w.counters.evictions, hand, news,
    others }

end MapScout
