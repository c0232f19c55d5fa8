import MapScout.Proofs.Dispatch.Books
import MapScout.Proofs.Dispatch.Conservation

/-!
# What a turn does to the books

A task in its turn is followed from one operation to the next.  Every operation is a move of the
books or none, and leaves the client of the session in hand alone.  At the end the session is
somewhere: at work in the task, at rest in the pool, or gone.
-/

namespace MapScout

namespace Session

/-- The two differ in the proxy and in what is known about the account, if at all. -/
structure Kin (s s' : Session) : Prop where
  username : s'.username = s.username
  mustLogin : s'.mustLogin = s.mustLogin
  client : s'.client = s.client

variable {s s' s'' : Session}

theorem Kin.refl (s : Session) : s.Kin s := ⟨rfl, rfl, rfl⟩

theorem Kin.trans (h : s.Kin s') (h' : s'.Kin s'') : s.Kin s'' :=
  ⟨h'.username.trans h.username, h'.mustLogin.trans h.mustLogin, h'.client.trans h.client⟩

theorem Kin.bind (h : s.Kin s') (p : Proxy) : s.Kin (s'.bind p) := ⟨h.1, h.2, h.3⟩

theorem Kin.isLoggedIn (h : s.Kin s') : s'.isLoggedIn = s.isLoggedIn := by
  rw [Session.isLoggedIn, Session.isLoggedIn, h.mustLogin, h.client]

end Session

namespace World

theorem Quiet.books_eq {w w' : World} (h : w.Quiet w') (hand : Option Session)
    (news : Option ClientError) (others : List Session) :
    w'.books hand news others = w.books hand news others := by
  rw [books, books, h.inventory, h.board, h.evictions]

/-! ## In the middle of a turn -/

/-- Since it was `start`, with the books `begun`, the world has come as far as `w`, and the task
that has its turn has `hand` in its hand, with `news` of it. -/
structure Midway (start : World) (begun : Books) (hand : Option Session)
    (news : Option ClientError) (w : World) : Prop where
  frame : start.Frame w
  path : start.store.Faultless → begun.Path (w.books hand news begun.others)

variable {start w w' : World} {begun : Books} {s s' : Session} {f : Option ClientError}
variable {hand : Option Session} {e : ClientError}

/-- A session is of use if the one was that the task had in its hand in the beginning. -/
def Fit (start : World) (begun : Books) (s : Session) : Prop :=
  start.store.Faultless → (∀ s₀ ∈ begun.hand, s₀.isSpent = false) → s.isSpent = false

/-- Whether a session is of use depends on its account and its proxy. -/
theorem Fit.of_eq (h : Fit start begun s) (haccount : s'.account = s.account)
    (hproxy : s'.proxy = s.proxy) : Fit start begun s' := by
  intro hfaultless huseful
  rw [Session.isSpent, haccount, hproxy]
  exact h hfaultless huseful

/-- Another proxy that is of use does not make a session spent. -/
theorem Fit.bind (h : Fit start begun s) (haccount : s'.account = s.account)
    (halive : s'.proxy.dead = false) : Fit start begun s' := by
  intro hfaultless huseful
  have hspent := h hfaultless huseful
  rw [Session.isSpent, Bool.or_eq_false_iff] at hspent ⊢
  rw [haccount]
  exact ⟨hspent.1, halive⟩

/-- What is claimed is of use. -/
theorem useful_of_claimAccount {store store' : Store} {a : Account}
    (h : store.claimAccount = (.ok a, store')) : a.isUnusable = false := by
  rw [Store.claimAccount, Store.claim, Store.guarded] at h
  split at h
  · split at h
    · cases h
    · rename_i a' i hclaim
      obtain ⟨rfl, -⟩ := Prod.mk.inj h |>.imp_left Except.ok.inj
      rw [Inventory.claimAccount?, Option.map_eq_some_iff] at hclaim
      obtain ⟨r, hfind, heq⟩ := hclaim
      obtain ⟨rfl, -⟩ := Prod.mk.inj heq
      have hfree : r.used = false ∧ r.isUnusable = false := by
        simpa [Account.isFree] using List.find?_some hfind
      exact hfree.2
  · cases h

/-- A proxy that is claimed is alive. -/
theorem useful_of_claimProxy {store store' : Store} {p : Proxy}
    (h : store.claimProxy = (.ok p, store')) : p.dead = false := by
  rw [Store.claimProxy, Store.claim, Store.guarded] at h
  split at h
  · split at h
    · cases h
    · rename_i p' i hclaim
      obtain ⟨rfl, -⟩ := Prod.mk.inj h |>.imp_left Except.ok.inj
      rw [Inventory.claimProxy?, Option.map_eq_some_iff] at hclaim
      obtain ⟨r, hfind, heq⟩ := hclaim
      obtain ⟨rfl, -⟩ := Prod.mk.inj heq
      have hfree : r.inUse = false ∧ r.dead = false := by
        simpa [Proxy.isFree] using List.find?_some hfind
      exact hfree.2
  · cases h

theorem account_swapProxy (s : Session) : (w.swapProxy s).2.1.account = s.account := by
  rw [swapProxy]
  dsimp only
  split <;> rfl

/-- A session on another proxy is still the same session. -/
theorem kin_swapProxy (s : Session) : s.Kin (w.swapProxy s).2.1 := by
  rw [swapProxy]
  dsimp only
  split <;> exact ⟨rfl, rfl, rfl⟩

theorem kin_refreshProxy (s : Session) : s.Kin (w.refreshProxy s).1 := by
  rw [refreshProxy]
  split
  · exact .refl s
  · split <;> exact ⟨rfl, rfl, rfl⟩

theorem account_refreshProxy (s : Session) : (w.refreshProxy s).1.account = s.account := by
  rw [refreshProxy]
  split
  · rfl
  · split <;> rfl

theorem kin_classify (s : Session) (e : ClientError) : s.Kin (w.classify s e).1 := by
  rw [classify]
  split
  · exact .refl s
  · exact ⟨rfl, rfl, rfl⟩
  · exact ⟨rfl, rfl, rfl⟩

/-- A proxy that a session has been given in place of a dead one is of use. -/
theorem alive_of_swapProxy (h : w.swapProxy s = (true, s', w')) : s'.proxy.dead = false := by
  rw [swapProxy] at h
  dsimp only at h
  split at h
  · cases h
  · rename_i p store hclaim
    obtain ⟨-, h⟩ := Prod.mk.inj h
    obtain ⟨rfl, -⟩ := Prod.mk.inj h
    exact useful_of_claimProxy hclaim

end World

/-- What is still to be concluded from a failure when everything about the proxy has been. -/
def ClientError.unburied (e : ClientError) : Option ClientError :=
  if e = .proxyDead then none else some e

namespace World

variable {start w w' : World} {begun : Books} {s s' : Session} {f : Option ClientError}
variable {hand : Option Session} {e : ClientError}

namespace Midway

/-- At the beginning of a turn nothing has been done to the books. -/
theorem begin (news : Option ClientError) (hand : Option Session) (others : List Session) :
    Midway w (w.books hand news others) hand news w :=
  ⟨(Still.refl w).toFrame, fun _ => .refl⟩

theorem faultless (h : Midway start begun hand f w) (hfaultless : start.store.Faultless) :
    w.store.Faultless :=
  h.frame.faultless hfaultless

/-- The books make some moves. -/
theorem moves {hand' : Option Session} {f' : Option ClientError} (h : Midway start begun hand f w)
    (hframe : w.Frame w') (hpath : w.store.Faultless →
      (w.books hand f begun.others).Path (w'.books hand' f' begun.others)) :
    Midway start begun hand' f' w' :=
  ⟨h.frame.trans hframe, fun hfaultless =>
    (h.path hfaultless).trans (hpath (h.faultless hfaultless))⟩

/-- The books make one move. -/
theorem move {hand' : Option Session} {f' : Option ClientError} (h : Midway start begun hand f w)
    (hframe : w.Frame w') (hmove : w.store.Faultless →
      (w.books hand f begun.others).Move (w'.books hand' f' begun.others)) :
    Midway start begun hand' f' w' :=
  h.moves hframe fun hfaultless => .single (hmove hfaultless)

/-- What shows on no board and in no inventory is not entered into the books. -/
theorem quiet (h : Midway start begun hand f w) (hquiet : w.Quiet w') :
    Midway start begun hand f w' := by
  apply h.moves hquiet.toFrame
  intro _
  rw [hquiet.books_eq]

theorem touch (h : Midway start begun (some s) f w) (haccount : s'.account = s.account)
    (hproxy : s'.proxy = s.proxy) : Midway start begun (some s') f w :=
  h.move (Still.refl w).toFrame fun _ => .touch rfl haccount hproxy

theorem show_ (h : Midway start begun (some s) f w) : Midway start begun (some s) f (w.show_ s) :=
  h.move (Still.show_ s).toFrame fun _ => .show_ rfl

/-- A failure that says nothing of account and proxy needs no conclusion. -/
theorem shrug (h : Midway start begun hand (some e) w) (hhealth : e.accountHealth = .healthy)
    (halive : e ≠ .proxyDead) : Midway start begun hand none w :=
  h.move (Still.refl w).toFrame fun _ => .shrug rfl hhealth halive

/-- The proxy of the session in hand is marked dead, which is all that such news calls for. -/
theorem markProxyDead (h : Midway start begun (some s) f w) (hf : ∀ e ∈ f, e = .proxyDead) :
    Midway start begun (some (w.markProxyDead s).1) none (w.markProxyDead s).2 := by
  apply h.move (Frame.deals (.markProxyDead s))
  intro hfaultless
  have hsaved : (w.markProxyDead s).2.store.inventory =
      (w.store.inventory.saveProxy? s.proxy.die).getD w.store.inventory :=
    Store.inventory_saveProxy hfaultless s.proxy.die
  rw [books, books, hsaved]
  exact .bury rfl hf

theorem refreshProxy (h : Midway start begun (some s) none w) :
    Midway start begun (some (w.refreshProxy s).1) none (w.refreshProxy s).2 := by
  have hframe := Frame.deals (.refreshProxy (w := w) s)
  apply h.moves hframe
  intro hfaultless
  rw [World.refreshProxy]
  by_cases hdead : s.proxy.dead = true
  · rw [if_pos hdead]
  · rw [if_neg hdead, Store.isProxyDead_eq hfaultless]
    cases hgone : w.store.inventory.isProxyDead s.proxy.id with
    | false => exact .refl
    | true => exact .single (.learn rfl rfl hgone)

/-- The session in hand gets another proxy if there is one, and its own is marked dead in any case.
-/
theorem swapProxy (h : Midway start begun (some s) f w) (hf : ∀ e ∈ f, e = .proxyDead) :
    Midway start begun (some (w.swapProxy s).2.1) none (w.swapProxy s).2.2 := by
  have hmarked := h.markProxyDead hf
  rw [World.swapProxy]
  generalize hmark : w.markProxyDead s = marked at hmarked
  obtain ⟨s₁, w₁⟩ := marked
  have hdead : s₁.proxy.dead = true := by
    obtain ⟨rfl, -⟩ := Prod.mk.inj hmark
    rfl
  dsimp only at hmarked ⊢
  have hframe : w₁.Frame { w₁ with store := w₁.store.claimProxy.2 } :=
    Frame.withStore fun hfaultless => hfaultless.claimProxy
  cases hclaim : w₁.store.claimProxy with
  | mk claimed store =>
      rw [hclaim] at hframe
      cases claimed with
      | error e =>
          apply hmarked.moves hframe
          intro hfaultless
          rw [Store.claimProxy, Store.claim_eq hfaultless] at hclaim
          split at hclaim
          · obtain ⟨-, rfl⟩ := Prod.mk.inj hclaim
            exact .refl
          · cases hclaim
      | ok p =>
          refine Midway.show_ (hmarked.move hframe fun hfaultless => ?_)
          rw [Store.claimProxy, Store.claim_eq hfaultless] at hclaim
          split at hclaim
          · cases hclaim
          · rename_i p' i hclaimed
            obtain ⟨hp, rfl⟩ := Prod.mk.inj hclaim
            obtain rfl := Except.ok.inj hp
            exact .rebind rfl rfl hdead hclaimed

/-- With that the conclusions for the account have been drawn, too. -/
theorem classify (h : Midway start begun (some s) e.unburied w) :
    Midway start begun (some (w.classify s e).1) none (w.classify s e).2 := by
  by_cases hproxy : e = .proxyDead
  · subst hproxy
    exact h
  rw [ClientError.unburied, if_neg hproxy] at h
  have hframe := Frame.deals (.classify (w := w) s e)
  have hcondemned (a : Account) (ha : s.account.judged e = a) (hhealth : e.accountHealth ≠ .healthy)
      (hframe : w.Frame { w.tellStore (·.saveAccount a) with board := w.board.remove a.username })
      (hname : a.username = s.username) :
      Midway start begun (some { s with account := a }) none
        { w.tellStore (·.saveAccount a) with board := w.board.remove a.username } := by
    apply h.move hframe
    intro hfaultless
    have hsaved : (w.store.saveAccount a).2.inventory =
        (w.store.inventory.saveAccount? a).getD w.store.inventory :=
      Store.inventory_saveAccount hfaultless a
    subst ha
    have hmove := Books.Move.condemn (b := w.books (some s) (some e) begun.others) rfl rfl hhealth
    rw [books, hname]
    change Books.Move _ ⟨(w.store.saveAccount _).2.inventory, _, _, _, _, _⟩
    rw [hsaved]
    exact hmove
  rw [World.classify] at hframe ⊢
  split
  · rename_i hhealth
    exact h.shrug hhealth hproxy
  · rename_i hhealth
    rw [hhealth] at hframe
    refine hcondemned _ ?_ (by rw [hhealth]; exact AccountHealth.noConfusion) hframe rfl
    rw [Account.judged, hhealth]
  · rename_i hhealth
    rw [hhealth] at hframe
    refine hcondemned _ ?_ (by rw [hhealth]; exact AccountHealth.noConfusion) hframe rfl
    rw [Account.judged, hhealth]

/-- What is in hand is dropped. -/
theorem evict (h : Midway start begun (some s) none w) :
    Midway start begun none none (w.evict s) := by
  apply h.move (Frame.evict s)
  intro hfaultless
  have hcounters := counters_evict (w := w) s
  have hbooks : (w.evict s).books none none begun.others =
      ⟨w.store.inventory.giveBack s, w.board.remove s.username, w.counters.evictions + 1, none,
        none, begun.others⟩ := by
    rw [books, inventory_evict hfaultless, board_evict, hcounters]
    rfl
  rw [hbooks]
  exact .evict (b := w.books (some s) none begun.others) rfl rfl

/-- A session that has just been built is in hand. -/
theorem provision (h : Midway start begun none none w) :
    Midway start begun w.provision.1.toOption none w.provision.2 := by
  apply h.moves (Frame.deals .provision)
  intro hfaultless
  rw [World.provision, Store.claimAccount, Store.claim_eq hfaultless]
  cases haccount : w.store.inventory.claimAccount? with
  | none => exact .refl
  | some result =>
      obtain ⟨account, i⟩ := result
      have hfaultless' : Store.Faultless { w.store with inventory := i } := hfaultless
      dsimp only
      rw [Store.claimProxy, Store.claim_eq hfaultless']
      cases hproxy : i.claimProxy? with
      | none =>
          have hreleased := Store.inventory_releaseAccount hfaultless' account.username
          apply Relation.ReflTransGen.single
          dsimp only
          rw [books, books, hreleased]
          exact .noProxy rfl haccount hproxy
      | some result =>
          obtain ⟨proxy, i'⟩ := result
          apply Relation.ReflTransGen.single
          dsimp only
          rw [(Quiet.stirs (.record ..)).books_eq]
          exact .provision rfl rfl haccount hproxy

end Midway

/-- What a dispatcher builds a session from is of use. -/
theorem useful_of_provision (h : w.provision = (.ok s, w')) : s.isSpent = false := by
  rw [provision] at h
  split at h
  · cases h
  · rename_i account store haccount
    split at h
    · cases h
    · rename_i proxy store' hproxy
      obtain ⟨hs, -⟩ := Prod.mk.inj h
      obtain rfl := Except.ok.inj hs
      simp [Session.isSpent, useful_of_claimAccount haccount, useful_of_claimProxy hproxy]

/-! ## Sessions that leave the hand -/

/-- The task has nothing in its hand any more.  What is `left` of what it had is in the pool. -/
structure Parted (start : World) (begun : Books) (left : Option Session) (w : World) : Prop where
  tasks : w.tasks = start.tasks
  nextId : start.nextId ≤ w.nextId
  pooled : w.pooled.Perm (left.toList ++ start.pooled)
  faultless : start.store.Faultless → w.store.Faultless
  path : start.store.Faultless → (∀ s ∈ begun.hand, s.isSpent = false) →
    begun.Path (w.books none none (left.toList ++ begun.others))

/-- There was nothing in the hand, or it has been dropped. -/
theorem Midway.part (h : Midway start begun none none w) : Parted start begun none w where
  tasks := h.frame.tasks
  nextId := Nat.le_of_eq h.frame.nextId.symm
  pooled := List.Perm.of_eq h.frame.pooled_eq
  faultless := h.frame.faultless
  path hfaultless _ := h.path hfaultless

theorem Parted.quiet {left : Option Session} (h : Parted start begun left w)
    (hquiet : w.Quiet w') : Parted start begun left w' where
  tasks := hquiet.tasks.trans h.tasks
  nextId := Nat.le_trans h.nextId (Nat.le_of_eq hquiet.nextId.symm)
  pooled := (List.Perm.of_eq hquiet.pooled_eq).trans h.pooled
  faultless hfaultless := hquiet.faultless (h.faultless hfaultless)
  path hfaultless huseful := by
    rw [hquiet.books_eq]
    exact h.path hfaultless huseful

/-- The task asks the pool for a session. -/
theorem Parted.request {left : Option Session} (h : Parted start begun left w) (id : Nat) :
    Parted start begun left (w.requestSession id) where
  tasks := h.tasks
  nextId := h.nextId
  pooled := h.pooled
  faultless := h.faultless
  path := h.path

namespace Midway

/-- The session is put into the pool. -/
theorem put (h : Midway start begun (some s) none w) (hfit : Fit start begun s)
    (htasks : w'.tasks = w.tasks) (hnextId : w.nextId ≤ w'.nextId)
    (hpooled : w'.pooled.Perm (s :: w.pooled)) (hstore : w'.store = w.store)
    (hboard : w'.board = w.board) (hcounters : w'.counters = w.counters) :
    Parted start begun (some s) w' where
  tasks := htasks.trans h.frame.tasks
  nextId := Nat.le_trans (Nat.le_of_eq h.frame.nextId.symm) hnextId
  pooled := by
    rw [h.frame.pooled_eq] at hpooled
    exact hpooled
  faultless hfaultless := by
    rw [hstore]
    exact h.faultless hfaultless
  path hfaultless huseful := by
    apply (h.path hfaultless).tail
    rw [books, books, hstore, hboard, hcounters]
    exact .put rfl rfl (hfit hfaultless huseful)

/-- The session is lost, because the pool is closed. -/
theorem lose (h : Midway start begun (some s) none w) (hfit : Fit start begun s) :
    Parted start begun none w where
  tasks := h.frame.tasks
  nextId := Nat.le_of_eq h.frame.nextId.symm
  pooled := List.Perm.of_eq h.frame.pooled_eq
  faultless := h.frame.faultless
  path hfaultless huseful := by
    have hput := (h.path hfaultless).tail (.put rfl rfl (hfit hfaultless huseful))
    exact hput.tail (.shift (List.sublist_cons_self ..).subperm)

/-- A session in hand goes into the queue, unless the pool is closed. -/
theorem sendToPool (h : Midway start begun (some s) none w) (hfit : Fit start begun s) :
    ∃ left, (∀ s' ∈ left, s' = s) ∧ Parted start begun left (w.sendToPool s) := by
  by_cases hopen : w.pool.isOpen = true
  · have hpooled := Holds.pooled_sendToPool hopen s
    rw [World.sendToPool, if_pos hopen] at hpooled ⊢
    exact ⟨some s, by simp, h.put hfit rfl (Nat.le_refl _) hpooled rfl rfl rfl⟩
  · rw [World.sendToPool, if_neg hopen]
    exact ⟨none, by simp, h.lose hfit⟩

/-- A session in hand is put back, unless it is spent or the pool is closed. -/
theorem checkIn (h : Midway start begun (some s) none w) (hfit : Fit start begun s)
    (cooldown : Nat) :
    ∃ left, (∀ s' ∈ left, s' = s) ∧ Parted start begun left (w.checkIn s cooldown).2 := by
  rw [World.checkIn]
  split
  · exact ⟨none, by simp, h.lose hfit⟩
  · split
    · exact h.sendToPool hfit
    · have hcooling :
          List.Perm ((w.cooling ++ [(w.nextId, Cooling.mk s cooldown none)]).map (·.2.session))
            (s :: w.cooling.map (·.2.session)) := by
        rw [List.map_append]
        exact List.perm_append_comm
      have hpooled := ((hcooling.append_right w.inTransit).append_left w.pool.buffer).trans
        List.perm_middle
      exact ⟨some s, by simp, h.put hfit rfl (Nat.le_succ _) hpooled rfl rfl rfl⟩

/-- A session in hand is looked at once more, and put back or dropped. -/
theorem disposeOf (h : Midway start begun (some s) none w) :
    ∃ left, (∀ s' ∈ left, s.Kin s') ∧ Parted start begun left (w.disposeOf s) := by
  have hrefreshed := h.refreshProxy
  have hkin := kin_refreshProxy (w := w) s
  rw [World.disposeOf]
  generalize w.refreshProxy s = refreshed at hrefreshed hkin ⊢
  obtain ⟨s₁, w₁⟩ := refreshed
  dsimp only at hrefreshed hkin ⊢
  by_cases hspent : s₁.isSpent = true
  · rw [if_pos hspent]
    exact ⟨none, by simp, hrefreshed.evict.part⟩
  · rw [if_neg hspent]
    have hfit : Fit start begun s₁ := fun _ _ => by simpa using hspent
    obtain ⟨left, hleft, hparted⟩ := hrefreshed.checkIn hfit w₁.config.cooldown
    exact ⟨left, fun s' hs' => hleft s' hs' ▸ hkin, hparted⟩

end Midway

end World

namespace Berth

def atRest : Berth → List Session
  | resting s => [s]
  | seated _ => []

end Berth

namespace World

variable {start w w' : World} {begun : Books} {s s' : Session} {f : Option ClientError}
variable {id : Nat} {t : Task} {G : Berth → Prop}

/-! ## The end of a turn -/

/-- A task has ended its turn.  What is `left` of the session that it had in its hand is at work in
the task or in the pool. -/
structure Ends (start : World) (begun : Books) (id : Nat) (left : Option Berth) (w : World) :
    Prop where
  keys : w.tasks.map (·.1) = start.tasks.map (·.1)
  others : Keyed.others id w.tasks = Keyed.others id start.tasks
  nextId : start.nextId ≤ w.nextId
  seat : w.seat? id = left.bind Berth.seat?
  pooled : w.pooled.Perm (left.toList.flatMap Berth.atRest ++ start.pooled)
  faultless : start.store.Faultless → w.store.Faultless
  path : start.store.Faultless → (∀ s ∈ begun.hand, s.isSpent = false) →
    begun.Path (w.books none none (left.toList.map Berth.session ++ begun.others))

/-- A task has ended its turn and left its session, if at all, at a place that satisfies `G`. -/
def Turned (start : World) (begun : Books) (id : Nat) (G : Berth → Prop) (w : World) : Prop :=
  ∃ left : Option Berth, (∀ π ∈ left, G π) ∧ Ends start begun id left w

theorem seat?_setTask (htasks : w.tasks = start.tasks) (hid : (start.task? id).isSome) (t : Task)
    (step : Timeline Owner → Timeline Owner) :
    ((w.setTask id t).onTime step).seat? id = t.seat? := by
  have ht : (w.setTask id t).task? id = some t := by
    apply task?_setTask
    rwa [task?_congr htasks]
  exact congrArg (·.bind Task.seat?) ht

/-- The task goes on with the session. -/
theorem Midway.sit {σ : Seat} (h : Midway start begun (some σ.session) none w)
    (hid : (start.task? id).isSome) (ht : t.seat? = some σ) (hfit : Fit start begun σ.session)
    (hG : G (.seated σ)) (step : Timeline Owner → Timeline Owner) :
    Turned start begun id G ((w.setTask id t).onTime step) := by
  refine ⟨some (.seated σ), by simpa using hG, ?_, ?_, Nat.le_of_eq h.frame.nextId.symm, ?_, ?_,
    h.frame.faultless, ?_⟩
  · rw [← h.frame.tasks]
    exact Keyed.keys_map id (fun _ => t) w.tasks
  · rw [← h.frame.tasks]
    exact Keyed.others_map (fun _ => t) w.tasks
  · rw [seat?_setTask h.frame.tasks hid, ht]
    rfl
  · exact List.Perm.of_eq h.frame.pooled_eq
  · intro hfaultless huseful
    exact (h.path hfaultless).tail (.put rfl rfl (hfit hfaultless huseful))

/-- The task is left without a session. -/
theorem Parted.settle {left : Option Session} (h : Parted start begun left w)
    (hid : (start.task? id).isSome) (ht : t.seat? = none) (hG : ∀ s ∈ left, G (.resting s))
    (step : Timeline Owner → Timeline Owner) :
    Turned start begun id G ((w.setTask id t).onTime step) := by
  refine ⟨left.map .resting, by simpa using hG, ?_, ?_, h.nextId, ?_, ?_, h.faultless, ?_⟩
  · rw [← h.tasks]
    exact Keyed.keys_map id (fun _ => t) w.tasks
  · rw [← h.tasks]
    exact Keyed.others_map (fun _ => t) w.tasks
  · rw [seat?_setTask h.tasks hid, ht]
    cases left <;> rfl
  · cases left <;> exact h.pooled
  · cases left <;> exact h.path

/-- The turn has come to nothing. -/
theorem Midway.stay {σ : Seat} (h : Midway start begun (some σ.session) none w)
    (hseat : start.seat? id = some σ) (hfit : Fit start begun σ.session) (hG : G (.seated σ)) :
    Turned start begun id G w := by
  refine ⟨some (.seated σ), by simpa using hG, ?_, ?_, Nat.le_of_eq h.frame.nextId.symm, ?_, ?_,
    h.frame.faultless, ?_⟩
  · rw [h.frame.tasks]
  · rw [h.frame.tasks]
  · rw [seat?_congr (task?_congr h.frame.tasks id), hseat]
    rfl
  · exact List.Perm.of_eq h.frame.pooled_eq
  · intro hfaultless huseful
    exact (h.path hfaultless).tail (.put rfl rfl (hfit hfaultless huseful))

/-- A task without a session that stays as it is has ended its turn. -/
theorem Parted.stay (h : Parted start begun none w) (hseat : start.seat? id = none) :
    Turned start begun id G w := by
  refine ⟨none, by simp, ?_, ?_, h.nextId, ?_, h.pooled, h.faultless, h.path⟩
  · rw [h.tasks]
  · rw [h.tasks]
  · rw [seat?_congr (task?_congr h.tasks id), hseat]
    rfl

end World

end MapScout
