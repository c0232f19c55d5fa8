import Mathlib.Logic.Relation
import MapScout.Dispatch.Turn
import MapScout.Proofs.Stock.Faultless

/-!
# The moves of which turns consist

Up to its end a turn of a task is made of small moves of two kinds.  Some concern the clocks, the
gates and the log: a task lines up, takes a token, asks its client and is woken.  The others concern
the store and the board: a session is built, judged, given another proxy or dropped.  Here it is
said once which operations consist of which moves; what a turn leaves alone is then whatever every
move leaves alone.
-/

namespace MapScout

/-! ## Calls of the store -/

namespace Store

variable {s s' s'' : Store}

/-- The store has been called, but not about objects, and is as reliable as before. -/
structure Keeps (s s' : Store) : Prop where
  objects : s'.objects = s.objects
  faultless : s.Faultless → s'.Faultless

namespace Keeps

theorem trans (h : s.Keeps s') (h' : s'.Keeps s'') : s.Keeps s'' :=
  ⟨h'.objects.trans h.objects, h'.faultless ∘ h.faultless⟩

/-- A call that the store refuses leaves the objects alone. -/
theorem guarded {α : Type} {c : StoreCall} {act : Store → Except InventoryError α × Store}
    (h : s.Keeps (act s).2) : s.Keeps (s.guarded c act).2 := by
  rw [Store.guarded]
  split
  · exact h
  · rename_i hfault
    exact ⟨rfl, fun hfaultless => absurd (hfaultless c) hfault⟩

theorem change (s : Store) (c : StoreCall) (missing : InventoryError)
    (f : Inventory → Option Inventory) : s.Keeps (s.change c missing f).2 := by
  refine guarded ?_
  split <;> exact ⟨rfl, id⟩

theorem claim {α : Type} (s : Store) (c : StoreCall) (missing : InventoryError)
    (f : Inventory → Option (α × Inventory)) : s.Keeps (s.claim c missing f).2 := by
  refine guarded ?_
  split <;> exact ⟨rfl, id⟩

theorem isProxyDead (s : Store) (id : ProxyId) : s.Keeps (s.isProxyDead id).2 :=
  guarded ⟨rfl, fun h => h⟩

end Keeps

end Store

namespace World

variable {w w₁ w₂ w₃ : World}

/-- What is true of every move of a kind is true of all moves that follow one another. -/
theorem of_moves {Move R : World → World → Prop} (hrefl : ∀ w, R w w)
    (htrans : ∀ {w₁ w₂ w₃}, R w₁ w₂ → R w₂ w₃ → R w₁ w₃) (hmove : ∀ {w w'}, Move w w' → R w w')
    {w w' : World} (h : Relation.ReflTransGen Move w w') : R w w' := by
  have : Std.Refl R := ⟨hrefl⟩
  have : IsTrans World R := ⟨fun _ _ _ => htrans⟩
  exact Relation.reflTransGen_le_of_le (r := R) (fun _ _ => hmove) w w' h

/-! ## Clocks, gates and clients -/

/-- A move at the clocks, at the gates or in the log. -/
inductive Stir (w : World) : World → Prop where
  | wake (o : Owner) : Stir w (w.wake o)
  | setAlarm (due : Nat) (o : Owner) : Stir w (w.onTime (·.setAlarm due o))
  | syncWall : Stir w w.syncWall
  | setGate (g : GateName) (gate : Gate) : Stir w (w.setGate g gate)
  | log (log : List Operation) : Stir w { w with log }

def Stirs : World → World → Prop := Relation.ReflTransGen Stir

namespace Stirs

theorem refl (w : World) : w.Stirs w := Relation.ReflTransGen.refl

theorem single {w' : World} (h : w.Stir w') : w.Stirs w' := Relation.ReflTransGen.single h

theorem trans (h₁ : w₁.Stirs w₂) (h₂ : w₂.Stirs w₃) : w₁.Stirs w₃ :=
  Relation.ReflTransGen.trans h₁ h₂

theorem alarm (due id : Nat) : w.Stirs (w.alarm due id) := single (.setAlarm due (.task id))

theorem record (c : Client) (op : Operation) : w.Stirs (w.record c op) := by
  rw [World.record]
  split
  · exact single (.log _)
  · exact refl w

theorem wakeHead (g : GateName) : w.Stirs (w.wakeHead g) := by
  rw [World.wakeHead]
  split
  · exact single (.wake _)
  · exact refl w

theorem enterGate (g : GateName) (id : Nat) : w.Stirs (w.enterGate g id) :=
  single (.setGate ..)

theorem takeToken (g : GateName) : w.Stirs (w.takeToken g) :=
  (single (.setGate ..)).trans (wakeHead g)

theorem leaveGate (g : GateName) (id : Nat) : w.Stirs (w.leaveGate g id) := by
  rw [World.leaveGate]
  split
  · exact (single (.setGate ..)).trans (wakeHead g)
  · exact single (.setGate ..)

/-- Whoever waits for a token is woken when it is due, and at its own deadline. -/
theorem awaitToken (g : GateName) (deadline id : Nat) : w.Stirs (w.awaitToken g deadline id) := by
  refine trans ?_ (alarm deadline id)
  rw [armGate]
  split
  · exact (single (.setGate ..)).trans (single (.setAlarm ..))
  · exact refl w

theorem startLogin (s : Session) : w.Stirs (w.startLogin s).2.2 := record ..

theorem startMap (s : Session) : w.Stirs (w.startMap s).2.2 := record ..

theorem finishMap (a : Answer) (s : Session) : w.Stirs (w.finishMap a s).2 := by
  rw [World.finishMap]
  dsimp only
  split
  · exact single .syncWall
  · exact refl w

/-- A turn of a login asks for a token or for an answer, and touches neither the store nor the
board. -/
theorem loginTurn (id deadline : Nat) (s : Session) (wait : LoginWait) :
    w.Stirs (w.loginTurn id deadline s wait).2 := by
  unfold World.loginTurn
  cases wait with
  | token t =>
      dsimp only
      split
      · exact (takeToken .login).trans (startLogin s)
      · split
        · exact leaveGate .login id
        · exact awaitToken .login deadline id
  | answer t a due =>
      dsimp only
      split
      · split
        · exact refl w
        · exact enterGate .login id
        · exact refl w
      · split
        · exact refl w
        · exact (alarm due id).trans (alarm deadline id)

end Stirs

/-! ## Store and board -/

/-- A move in the store, on the board or in the log, or a new client. -/
inductive Deal (w : World) : World → Prop where
  | store {store : Store} (h : w.store.Keeps store) : Deal w { w with store }
  | board (board : Board) : Deal w { w with board }
  | supply (supply : ClientSupply) : Deal w { w with supply }
  | log (log : List Operation) : Deal w { w with log }

def Deals : World → World → Prop := Relation.ReflTransGen Deal

namespace Deals

theorem refl (w : World) : w.Deals w := Relation.ReflTransGen.refl

theorem single {w' : World} (h : w.Deal w') : w.Deals w' := Relation.ReflTransGen.single h

theorem trans (h₁ : w₁.Deals w₂) (h₂ : w₂.Deals w₃) : w₁.Deals w₃ :=
  Relation.ReflTransGen.trans h₁ h₂

theorem store {store : Store} (h : w.store.Keeps store) : w.Deals { w with store } :=
  single (.store h)

theorem board (board : Board) : w.Deals { w with board } := single (.board board)

theorem show_ (s : Session) : w.Deals (w.show_ s) := board _

theorem record (c : Client) (op : Operation) : w.Deals (w.record c op) := by
  rw [World.record]
  split
  · exact single (.log _)
  · exact refl w

theorem markProxyDead (s : Session) : w.Deals (w.markProxyDead s).2 := store (.change ..)

/-- The old proxy is marked dead before another one is asked for. -/
theorem swapProxy (s : Session) : w.Deals (w.swapProxy s).2.2 := by
  refine (markProxyDead s).trans ?_
  rw [World.swapProxy]
  generalize w.markProxyDead s = marked
  have hclaimed : marked.2.store.Keeps marked.2.store.claimProxy.2 := .claim ..
  dsimp only
  split
  all_goals
    rename_i hclaim
    rw [hclaim] at hclaimed
  · exact store hclaimed
  · exact (store hclaimed).trans (board _)

theorem refreshProxy (s : Session) : w.Deals (w.refreshProxy s).2 := by
  have hread := Store.Keeps.isProxyDead w.store s.proxy.id
  rw [World.refreshProxy]
  split
  · exact refl w
  · split
    all_goals
      rename_i hdead
      rw [hdead] at hread
      exact store hread

theorem classify (s : Session) (e : ClientError) : w.Deals (w.classify s e).2 := by
  rw [World.classify]
  split
  · exact refl w
  · exact (store (.change ..)).trans (board _)
  · exact (store (.change ..)).trans (board _)

/-- An account that finds no proxy is released again. -/
theorem provision : w.Deals w.provision.2 := by
  have hclaimed : w.store.Keeps w.store.claimAccount.2 := .claim ..
  rw [World.provision]
  split
  all_goals
    rename_i haccount
    rw [haccount] at hclaimed
  · exact store hclaimed
  · rename_i account store'
    have hclaimed' : store'.Keeps store'.claimProxy.2 := .claim ..
    split
    all_goals
      rename_i hproxy
      rw [hproxy] at hclaimed'
    · exact store ((hclaimed.trans hclaimed').trans (.change ..))
    · exact ((store (hclaimed.trans hclaimed')).trans (single (.supply _))).trans (record ..)

/-- What is done to drop a session, apart from counting it. -/
theorem evict (s : Session) :
    World.Deals { w with counters := w.counters.countEviction } (w.evict s) := by
  have htaken : World.Deals { w with counters := w.counters.countEviction }
      { w with counters := w.counters.countEviction, board := w.board.remove s.username } :=
    board (w.board.remove s.username)
  rw [World.evict]
  refine htaken.trans ?_
  split <;> split
  · exact refl _
  · exact store (.change ..)
  · exact store (.change ..)
  · exact (store (.change ..)).trans (store (.change ..))

end Deals

end World

end MapScout
