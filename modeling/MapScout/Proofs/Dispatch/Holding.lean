import MapScout.Proofs.Dispatch.Attention
import MapScout.Proofs.Dispatch.Custody

/-!
# Sessions in hand

In its turn a task may have a session in its hand that is nowhere else: just built, just taken out
of the pool, about to be put back or dropped.  Here is what every operation on such a session does
to inventory, board and sessions.
-/

namespace MapScout

def Task.session? : Task → Option Session
  | .scan { stage := .working s _ _, .. } => some s
  | .preload { stage := .login s _ _ _, .. } => some s
  | _ => none

def Task.isCheckout : Task → Bool
  | .checkout _ => true
  | _ => false

/-- Nothing in the inventory is claimed twice, and what is still of use is claimed exactly if one
of the sessions has it. -/
structure Inventory.ClaimedBy (i : Inventory) (sessions : List Session) : Prop where
  accounts_nodup : (sessions.map (·.username)).Nodup
  proxies_nodup : (sessions.map (·.proxy.id)).Nodup
  used_iff : ∀ a ∈ i.accounts, a.banned = false → a.flagged = false →
    (a.used = true ↔ ∃ s ∈ sessions, s.username = a.username)
  inUse_iff : ∀ p ∈ i.proxies, p.dead = false →
    (p.inUse = true ↔ ∃ s ∈ sessions, s.proxy.id = p.id)

/-- Where claims cover sessions, each record of use is claimed exactly if a session has it. -/
theorem Inventory.Covers.claimedBy {i : Inventory} {known : List ProxyId} {sessions : List Session}
    (h : i.Covers known sessions) : i.ClaimedBy sessions := by
  obtain ⟨haccounts, hproxies, -, -⟩ := h
  constructor
  · have hnodup := haccounts.copies_nodup
    rwa [List.map_map] at hnodup
  · have hnodup := hproxies.copies_nodup
    rwa [List.map_map] at hnodup
  · intro a ha hbanned hflagged
    have husable : accountLedger.isVoid a = false := by
      simp [accountLedger, Account.isUnusable, hbanned, hflagged]
    have hclaimed := haccounts.claimed_iff a ha husable
    rw [List.map_map, List.mem_map] at hclaimed
    exact hclaimed
  · intro p hp hdead
    have hclaimed := hproxies.claimed_iff p hp hdead
    rw [List.map_map, List.mem_map] at hclaimed
    exact hclaimed

namespace World

/-- The sessions on their way into the queue of the pool or out of it. -/
def inTransit (w : World) : List Session := w.pool.arrivals ++ w.pool.handed.map (·.2)

/-- The sessions that no task owns. -/
def pooled (w : World) : List Session :=
  w.pool.buffer ++ (w.cooling.map (·.2.session) ++ w.inTransit)

def ownedBy (tasks : List (Nat × Task)) : List Session := tasks.filterMap (·.2.session?)

/-- The sessions that are buffered in the pool, at rest, or owned by a task. -/
def live (w : World) : List Session :=
  w.pool.buffer ++ (w.cooling.map (·.2.session) ++ ownedBy w.tasks)

variable {w w' w₀ : World} {id : Nat} {hand : List Session} {s s' : Session}

theorem Frame.pooled_eq (h : w.Frame w') : w'.pooled = w.pooled := by
  rw [pooled, pooled, inTransit, inTransit, h.pool, h.cooling]

/-- Wherever among the pooled sessions some lie, they can be taken out. -/
theorem perm_pooled {buffer cooling arrivals handed handed' : List Session}
    (hhanded : handed.Perm (hand ++ handed')) :
    (buffer ++ (cooling ++ (arrivals ++ handed))).Perm
      (hand ++ (buffer ++ (cooling ++ (arrivals ++ handed')))) := by
  calc List.Perm (buffer ++ (cooling ++ (arrivals ++ handed)))
        (buffer ++ (cooling ++ (arrivals ++ (hand ++ handed')))) :=
        ((hhanded.append_left _).append_left _).append_left _
    List.Perm _ (buffer ++ (cooling ++ (hand ++ (arrivals ++ handed')))) :=
      (List.perm_append_comm_assoc ..).append_left _ |>.append_left _
    List.Perm _ (buffer ++ (hand ++ (cooling ++ (arrivals ++ handed')))) :=
      (List.perm_append_comm_assoc ..).append_left _
    List.Perm _ (hand ++ (buffer ++ (cooling ++ (arrivals ++ handed')))) :=
      List.perm_append_comm_assoc ..

def LoginStep.session (s : Session) : LoginStep → Session
  | .blocked => s
  | .moved s' _ | .succeeded s' | .failed s' _ => s'

theorem LoginStep.Follows.keeps {now : Nat} {wait : LoginWait} {step : LoginStep}
    (h : LoginStep.Follows now s wait step) :
    (step.session s).account = s.account ∧ (step.session s).proxy = s.proxy := by
  cases h <;> exact ⟨rfl, rfl⟩

def custodyOf (w : World) (sessions : List Session) : Custody :=
  ⟨w.store.inventory, w.board, sessions⟩

def custody (w : World) : Custody := w.custodyOf (w.pooled ++ ownedBy w.tasks)

theorem Quiet.custodyOf (h : w.Quiet w') (sessions : List Session) :
    w'.custodyOf sessions = w.custodyOf sessions := by
  rw [World.custodyOf, World.custodyOf, h.inventory, h.board]

/-- What shows on no board changes nothing in custody. -/
theorem Quiet.custody (h : w.Quiet w') : w'.custody = w.custody := by
  rw [World.custody, World.custody, h.custodyOf, h.pooled_eq, h.tasks]

/-- To drop a session is to give it back, to a store that does not fail. -/
theorem inventory_evict (hfaultless : w.store.Faultless) (s : Session) :
    (w.evict s).store.inventory = w.store.inventory.giveBack s := by
  have haccount := Store.inventory_releaseAccount hfaultless s.username
  have hproxy := Store.inventory_releaseProxy hfaultless s.proxy.id
  have hboth := Store.inventory_releaseProxy (hfaultless.releaseAccount s.username) s.proxy.id
  rw [World.evict, Inventory.giveBack]
  split <;> split
  · rfl
  · exact haccount
  · exact hproxy
  · rw [← haccount]
    exact hboth

theorem board_evict (s : Session) : (w.evict s).board = w.board.remove s.username := by
  rw [World.evict]
  split <;> split <;> rfl

/-- A session is put back without a word to the store. -/
theorem checkIn_keeps (s : Session) (cooldown : Nat) :
    (w.checkIn s cooldown).2.store = w.store ∧ (w.checkIn s cooldown).2.board = w.board ∧
      (w.checkIn s cooldown).2.counters = w.counters := by
  rw [checkIn, sendToPool]
  split
  · exact ⟨rfl, rfl, rfl⟩
  · split
    · dsimp only
      split <;> exact ⟨rfl, rfl, rfl⟩
    · exact ⟨rfl, rfl, rfl⟩

/-- A task of the world `w₀` has its turn and has come as far as `w`, with some sessions in its
hand. -/
structure Holds (w₀ : World) (id : Nat) (hand : List Session) (w : World) : Prop where
  attends : w.Attends fun i => w₀.IsAsking i ∧ i ≠ id
  tasks : w.tasks = w₀.tasks
  faultless : w.store.Faultless
  path : w₀.custody.Path
    (w.custodyOf (hand ++ (w.pooled ++ ownedBy (Keyed.others id w₀.tasks))))

namespace Holds

/-- The task has its turn. -/
theorem beginTurn (h : Holds w₀ id hand w) : Holds w₀ id hand (w.beginTurn (.task id)) :=
  { h with attends := h.attends.beginTask (h.attends.not_handed fun hne => hne.2 rfl) }

/-- Only the inventory, the board and the session in hand have changed. -/
theorem frame {hand' : List Session} (h : Holds w₀ id hand w) (hframe : w.Frame w')
    (hpath : ∀ others, (w.custodyOf (hand ++ others)).Path (w'.custodyOf (hand' ++ others))) :
    Holds w₀ id hand' w' where
  attends := h.attends.frame hframe
  tasks := hframe.tasks.trans h.tasks
  faultless := hframe.faultless h.faultless
  path := by
    rw [hframe.pooled_eq]
    exact h.path.trans (hpath _)

/-- What is done to the sessions in hand in one go is done in the custody of all. -/
theorem step {hand' : List Session} (h : Holds w₀ id hand w) (hframe : w.Frame w')
    (hstep : ∀ others, (w.custodyOf (hand ++ others)).Step (w'.custodyOf (hand' ++ others))) :
    Holds w₀ id hand' w' :=
  h.frame hframe fun others => .single (hstep others)

theorem quiet (h : Holds w₀ id hand w) (hquiet : w.Quiet w') : Holds w₀ id hand w' := by
  apply h.frame hquiet.toFrame
  intro others
  rw [hquiet.custodyOf]

/-- The client of the session in hand, and whether it has to log in, is of no account. -/
theorem swap (h : Holds w₀ id [s] w) (haccount : s'.account = s.account)
    (hproxy : s'.proxy = s.proxy) : Holds w₀ id [s'] w :=
  h.step (Still.refl w).toFrame fun _ => .touch haccount hproxy

theorem markProxyDead (h : Holds w₀ id [s] w) :
    Holds w₀ id [(w.markProxyDead s).1] (w.markProxyDead s).2 := by
  apply h.step (Frame.deals (.markProxyDead s))
  intro others
  have hsaved : (w.markProxyDead s).2.store.inventory =
      (w.store.inventory.saveProxy? s.proxy.die).getD w.store.inventory :=
    Store.inventory_saveProxy h.faultless s.proxy.die
  rw [custodyOf, custodyOf, hsaved]
  exact .bury

theorem refreshProxy (h : Holds w₀ id [s] w) :
    Holds w₀ id [(w.refreshProxy s).1] (w.refreshProxy s).2 := by
  rw [World.refreshProxy]
  by_cases hdead : s.proxy.dead = true
  · rw [if_pos hdead]
    exact h
  rw [if_neg hdead, Store.isProxyDead_eq h.faultless]
  cases hgone : w.store.inventory.isProxyDead s.proxy.id with
  | false => exact h
  | true => exact h.step (Still.refl w).toFrame fun _ => .learn hgone

/-- The session in hand is bound to another proxy if there is one. -/
theorem swapProxy (h : Holds w₀ id [s] w) :
    Holds w₀ id [(w.swapProxy s).2.1] (w.swapProxy s).2.2 := by
  have hmarked := h.markProxyDead
  rw [World.swapProxy]
  generalize hmark : w.markProxyDead s = marked at hmarked
  obtain ⟨s₁, w₁⟩ := marked
  have hdead : s₁.proxy.dead = true := by
    obtain ⟨rfl, -⟩ := Prod.mk.inj hmark
    rfl
  dsimp only at hmarked ⊢
  rw [Store.claimProxy, Store.claim_eq hmarked.faultless]
  cases hclaim : w₁.store.inventory.claimProxy? with
  | none => exact hmarked
  | some result =>
      obtain ⟨proxy, i⟩ := result
      have hframe : w₁.Frame { w₁ with store := { w₁.store with inventory := i } } :=
        Frame.withStore fun hf => hf
      exact hmarked.step (hframe.trans (Still.show_ (s₁.bind proxy)).toFrame) fun _ =>
        .rebind hdead hclaim

/-- A verdict about the account is entered, and the account leaves the board. -/
theorem classify (h : Holds w₀ id [s] w) (e : ClientError) :
    Holds w₀ id [(w.classify s e).1] (w.classify s e).2 := by
  have hcondemned {a : Account} (hname : a.username = s.username) (hunusable : a.isUnusable = true)
      (hframe : w.Frame { w.tellStore (·.saveAccount a) with board := w.board.remove a.username }) :
      Holds w₀ id [{ s with account := a }]
        { w.tellStore (·.saveAccount a) with board := w.board.remove a.username } := by
    apply h.step hframe
    intro others
    have hsaved := Store.inventory_saveAccount h.faultless a
    rw [custodyOf, custodyOf, hname]
    change Custody.Step _ ⟨(w.store.saveAccount a).2.inventory, _, _⟩
    rw [hsaved]
    exact .condemn hname hunusable
  have hframe := Frame.deals (.classify (w := w) s e)
  rw [World.classify] at hframe ⊢
  split
  · exact h
  · rename_i hhealth
    rw [hhealth] at hframe
    exact hcondemned rfl rfl hframe
  · rename_i hhealth
    rw [hhealth] at hframe
    exact hcondemned rfl (Bool.or_true _) hframe

/-- The session in hand is dropped. -/
theorem evict (h : Holds w₀ id [s] w) : Holds w₀ id [] (w.evict s) := by
  apply h.step (Frame.evict s)
  intro others
  rw [custodyOf, custodyOf, inventory_evict h.faultless, board_evict]
  exact .evict

theorem loginTurn (h : Holds w₀ id [s] w) (deadline : Nat) (wait : LoginWait) :
    Holds w₀ id [(w.loginTurn id deadline s wait).1.session s]
      (w.loginTurn id deadline s wait).2 := by
  obtain ⟨haccount, hproxy⟩ := (loginTurn_follows (w := w) id deadline s wait).keeps
  exact (h.quiet (.stirs (.loginTurn ..))).swap haccount hproxy

theorem startMap (h : Holds w₀ id [s] w) :
    Holds w₀ id [(w.startMap s).2.1] (w.startMap s).2.2 :=
  (h.quiet (.stirs (.record ..))).swap rfl rfl

theorem finishMap (h : Holds w₀ id [s] w) (a : Answer) :
    Holds w₀ id [(w.finishMap a s).1] (w.finishMap a s).2 :=
  (h.quiet (.stirs (.finishMap a s))).swap rfl rfl

/-! ## Sessions that leave the hand -/

theorem pooled_sendToPool (hopen : w.pool.isOpen = true) (s : Session) :
    (w.sendToPool s).pooled.Perm (s :: w.pooled) := by
  have hpooled : (w.sendToPool s).pooled = w.pool.buffer ++ (w.cooling.map (·.2.session) ++
      ((w.pool.arrivals ++ [s]) ++ w.pool.handed.map (·.2))) := by
    rw [World.sendToPool, if_pos hopen, Pool.send, if_pos hopen]
    rfl
  have hsplit : ([s] ++ w.pool.handed.map (·.2)).Perm ([s] ++ w.pool.handed.map (·.2)) :=
    List.Perm.refl _
  rw [hpooled, List.append_assoc]
  exact perm_pooled hsplit

/-- A session of use that is put back is in the pool, in its queue or at rest. -/
theorem pooled_checkIn (hopen : w.pool.isOpen = true) (hspent : s.isSpent = false)
    (cooldown : Nat) : (w.checkIn s cooldown).2.pooled.Perm (s :: w.pooled) := by
  rw [World.checkIn, if_neg (by simp [hspent])]
  by_cases hcooldown : cooldown = 0
  · rw [if_pos hcooldown]
    exact pooled_sendToPool hopen s
  · rw [if_neg hcooldown]
    have hcooling :
        List.Perm ((w.cooling ++ [(w.nextId, Cooling.mk s cooldown none)]).map (·.2.session))
          (s :: w.cooling.map (·.2.session)) := by
      rw [List.map_append]
      exact List.perm_append_comm
    exact ((hcooling.append_right w.inTransit).append_left w.pool.buffer).trans List.perm_middle

theorem store_sendToPool (s : Session) : (w.sendToPool s).store = w.store := by
  rw [World.sendToPool]
  split <;> rfl

theorem board_sendToPool (s : Session) : (w.sendToPool s).board = w.board := by
  rw [World.sendToPool]
  split <;> rfl

/-- The session in hand is put among the others. -/
theorem put (h : Holds w₀ id [s] w) (hattends : w'.Attends fun i => w₀.IsAsking i ∧ i ≠ id)
    (htasks : w'.tasks = w.tasks) (hstore : w'.store = w.store) (hboard : w'.board = w.board)
    (hpooled : w'.pooled.Perm (s :: w.pooled)) : Holds w₀ id [] w' := by
  refine ⟨hattends, htasks.trans h.tasks, ?_, h.path.tail ?_⟩
  · rw [hstore]
    exact h.faultless
  · rw [custodyOf, custodyOf, hstore, hboard]
    exact .shuffle (hpooled.append_right _)

theorem sendToPool (h : Holds w₀ id [s] w) : Holds w₀ id [] (w.sendToPool s) :=
  h.put (h.attends.sendToPool s) (tasks_sendToPool s) (store_sendToPool s)
    (board_sendToPool s) (pooled_sendToPool h.attends.isOpen s)

theorem checkIn (h : Holds w₀ id [s] w) (hspent : s.isSpent = false) (cooldown : Nat) :
    Holds w₀ id [] (w.checkIn s cooldown).2 := by
  obtain ⟨hstore, hboard, -⟩ := checkIn_keeps (w := w) s cooldown
  exact h.put (h.attends.checkIn s cooldown) (tasks_checkIn s cooldown) hstore hboard
    (pooled_checkIn h.attends.isOpen hspent cooldown)

/-- A session that is disposed of is in the pool or dropped. -/
theorem disposeOf (h : Holds w₀ id [s] w) : Holds w₀ id [] (w.disposeOf s) := by
  have hrefreshed := h.refreshProxy
  rw [World.disposeOf]
  generalize w.refreshProxy s = refreshed at hrefreshed ⊢
  obtain ⟨s₁, w₁⟩ := refreshed
  dsimp only at hrefreshed ⊢
  by_cases hspent : s₁.isSpent = true
  · rw [if_pos hspent]
    exact hrefreshed.evict
  · rw [if_neg hspent]
    exact hrefreshed.checkIn (by simpa using hspent) _

/-! ## Sessions that are built -/

/-- A session is built of an account and a proxy, or nothing has been taken. -/
theorem provision (h : Holds w₀ id [] w) :
    match w.provision with
    | (.ok s, w') => Holds w₀ id [s] (w'.show_ s)
    | (.error _, w') => Holds w₀ id [] w' := by
  have hframe := Frame.deals (.provision (w := w))
  rw [World.provision, Store.claimAccount, Store.claim_eq h.faultless] at hframe ⊢
  cases haccount : w.store.inventory.claimAccount? with
  | none => exact h
  | some result =>
      obtain ⟨account, i⟩ := result
      have hfaultless : Store.Faultless { w.store with inventory := i } := h.faultless
      rw [haccount] at hframe
      dsimp only at hframe ⊢
      rw [Store.claimProxy, Store.claim_eq hfaultless] at hframe ⊢
      cases hproxy : i.claimProxy? with
      | none =>
          rw [hproxy] at hframe
          apply h.step hframe
          intro others
          have hreleased := Store.inventory_releaseAccount hfaultless account.username
          rw [custodyOf, custodyOf, hreleased]
          exact .noProxy haccount hproxy
      | some result =>
          obtain ⟨proxy, i'⟩ := result
          rw [hproxy] at hframe
          apply h.step (hframe.trans (Still.show_ _).toFrame)
          intro others
          change Custody.Step _ ⟨(World.record _ _ _).store.inventory,
            Board.set _ _ (World.record _ _ _).board, _⟩
          rw [(Quiet.stirs (.record ..)).inventory, (Quiet.stirs (.record ..)).board]
          exact .provision haccount hproxy

end Holds

end World

end MapScout
