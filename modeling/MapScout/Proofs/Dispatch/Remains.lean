import MapScout.Proofs.Dispatch.Frame
import MapScout.Proofs.Dispatch.Run
import MapScout.Proofs.Stock.Remains

/-!
# Dispatchers that differ in dead proxies

Two dispatchers whose stores differ only in the dead proxies that are still kept do the same in
every event.  Most of a turn never looks at the store.  What does look at it looks for a free proxy,
which is never a dead one, asks whether a proxy is dead, or gives something up.
-/

namespace MapScout.World

variable {w w' : World} {id : Nat}

def withStore (store : Store) (w : World) : World := { w with store }

@[simp]
theorem store_withStore (store : Store) (w : World) : (w.withStore store).store = store := rfl

@[simp]
theorem now_withStore (store : Store) (w : World) : (w.withStore store).now = w.now := rfl

@[simp]
theorem pool_withStore (store : Store) (w : World) : (w.withStore store).pool = w.pool := rfl

@[simp]
theorem cooling_withStore (store : Store) (w : World) :
    (w.withStore store).cooling = w.cooling := rfl

@[simp]
theorem gate_withStore (store : Store) (w : World) (g : GateName) :
    (w.withStore store).gate g = w.gate g := by
  cases g <;> rfl

/-- Something is done to a dispatcher without a look at its store. -/
def Blind (f : World → World) : Prop := ∀ w store, f (w.withStore store) = (f w).withStore store

/-- Two dispatchers whose stores differ in their dead proxies only. -/
def Matches (w w' : World) : Prop := ∃ store, w' = w.withStore store ∧ w.store.Matches store

namespace Blind

/-- What looks at no store, one after the other. -/
theorem comp {f g : World → World} (hg : Blind g) (hf : Blind f) : Blind fun w => g (f w) := by
  intro w store
  dsimp only
  rw [hf w store, hg]

theorem onTime (f : Timeline Owner → Timeline Owner) : Blind (World.onTime f) := fun _ _ => rfl

theorem record (c : Client) (op : Operation) : Blind (World.record c op) := by
  intro w store
  rw [World.record, World.record]
  split <;> rfl

/-! ## Gates -/

theorem setGate (g : GateName) (gate : Gate) : Blind (World.setGate g gate) := by
  intro w store
  cases g <;> rfl

theorem wakeHead (g : GateName) : Blind (World.wakeHead g) := by
  intro w store
  rw [World.wakeHead, World.wakeHead, gate_withStore]
  split <;> rfl

theorem enterGate (g : GateName) (id : Nat) : Blind (World.enterGate g id) := by
  intro w store
  rw [World.enterGate, World.enterGate, gate_withStore, setGate]

theorem takeToken (g : GateName) : Blind (World.takeToken g) := by
  intro w store
  rw [World.takeToken, World.takeToken, gate_withStore, now_withStore, setGate, wakeHead]

theorem leaveGate (g : GateName) (id : Nat) : Blind (World.leaveGate g id) := by
  intro w store
  unfold World.leaveGate
  dsimp only
  rw [gate_withStore, setGate]
  split
  · exact wakeHead g _ store
  · rfl

theorem awaitToken (g : GateName) (deadline id : Nat) : Blind (World.awaitToken g deadline id) := by
  intro w store
  unfold World.awaitToken World.armGate
  dsimp only
  rw [gate_withStore]
  split
  · rw [setGate]
    rfl
  · rfl

/-! ## Pool -/

theorem sendToPool (s : Session) : Blind (World.sendToPool s) := by
  intro w store
  rw [World.sendToPool, World.sendToPool, pool_withStore]
  split <;> rfl

/-- The pool knows nothing of the store. -/
theorem poolTurn : Blind World.poolTurn := by
  intro w store
  rw [World.poolTurn, World.poolTurn, pool_withStore]
  split
  · dsimp only
    rw [foldl_wake, foldl_wake]
    split <;> rfl
  · rfl

theorem coolingTurn (id : Nat) : Blind (World.coolingTurn id) := by
  intro w store
  rw [World.coolingTurn, World.coolingTurn, cooling_withStore, now_withStore]
  split
  · rfl
  · split
    · rfl
    · split
      · exact sendToPool _ { w with cooling := w.cooling.filter (·.1 != id) } store
      · rfl

theorem checkIn (s : Session) (cooldown : Nat) : Blind fun w => (World.checkIn s cooldown w).2 := by
  intro w store
  dsimp only
  rw [World.checkIn, World.checkIn]
  split
  · rfl
  · split
    · exact sendToPool s w store
    · rfl

/-! ## Tasks -/

theorem proceed (id : Nat) (t : Task) : Blind (World.proceed id t) := fun _ _ => rfl

theorem finish (id : Nat) (t : Task) : Blind (World.finish id t) := fun _ _ => rfl

theorem finishScan (id : Nat) (scan : Scan) (result : Except ScanError (List MapObject)) :
    Blind (World.finishScan id scan result) := fun _ _ => rfl

theorem work (id : Nat) (scan : Scan) (s : Session) (attempt : Attempt) (wait : ScanWait) :
    Blind (World.work id scan s attempt wait) := fun _ _ => rfl

theorem lineUpForCall (id : Nat) (scan : Scan) (s : Session) (attempt : Attempt) :
    Blind (World.lineUpForCall id scan s attempt) :=
  (work id scan s attempt .callToken).comp (enterGate .call id)

theorem beginAttempt (id : Nat) (scan : Scan) (s : Session) (attempt : Attempt) :
    Blind (World.beginAttempt id scan s attempt) := by
  intro w store
  rw [World.beginAttempt, World.beginAttempt]
  split
  · exact lineUpForCall id scan s attempt w store
  · exact (work id scan s attempt (.login (.token .first))).comp (enterGate .login id) w store

theorem beginWork (id : Nat) (scan : Scan) (s : Session) : Blind (World.beginWork id scan s) :=
  fun w store => (beginAttempt id scan s .first).comp
    (record s.client (.moved s.username scan.place w.now)) w store

theorem beginPreloadLogin (id : Nat) (p : Preload) (s : Session) (swapped : Bool) :
    Blind (World.beginPreloadLogin id p s swapped) := by
  intro w store
  rw [World.beginPreloadLogin, World.beginPreloadLogin, enterGate]
  rfl

theorem checkoutTurn (id : Nat) (c : Checkout) : Blind (World.checkoutTurn id c) := by
  intro w store
  rw [World.checkoutTurn, World.checkoutTurn]
  dsimp only
  rw [pool_withStore, now_withStore]
  split
  · split <;> rfl
  · split
    · rfl
    · split
      · rfl
      · split <;> rfl
  · split <;> rfl
  · rfl

end Blind

namespace Matches

variable (h : w.Matches w')

include h

/-- What looks at no store keeps two dispatchers alike. -/
theorem blind {f : World → World} (hf : Blind f) : (f w).Matches (f w') := by
  obtain ⟨store, rfl, hstore⟩ := h
  have hself : f w = (f w).withStore w.store := hf w w.store
  have hkept : (f w).store = w.store := by
    rw [hself]
    rfl
  refine ⟨store, hf w store, ?_⟩
  rw [hkept]
  exact hstore

theorem gate (g : GateName) : w'.gate g = w.gate g := by
  obtain ⟨store, rfl, -⟩ := h
  exact gate_withStore store w g

theorem now : w'.now = w.now := by
  obtain ⟨store, rfl, -⟩ := h
  rfl

theorem task? (id : Nat) : w'.task? id = w.task? id := by
  obtain ⟨store, rfl, -⟩ := h
  rfl

/-- The store is called, whatever it says. -/
theorem tellStore {α : Type} {f : Store → α × Store}
    (hf : ∀ {s t : Store}, s.Matches t → (f s).2.Matches (f t).2) :
    (w.tellStore f).Matches (w'.tellStore f) := by
  obtain ⟨store, rfl, hstore⟩ := h
  exact ⟨_, rfl, hf hstore⟩

/-! ## Sessions -/

/-- Both ask their clients the same. -/
theorem startLogin (s : Session) : Agree (Agree Matches) (w.startLogin s) (w'.startLogin s) := by
  have hnow := h.now
  refine ⟨_, _, _, rfl, rfl, _, _, _, rfl, rfl, ?_⟩
  rw [hnow]
  exact h.blind (.record _ _)

theorem startMap (s : Session) : Agree (Agree Matches) (w.startMap s) (w'.startMap s) := by
  have hnow := h.now
  refine ⟨_, _, _, rfl, rfl, _, _, _, rfl, rfl, ?_⟩
  rw [hnow]
  exact h.blind (.record _ _)

theorem finishMap (a : Answer) (s : Session) :
    Agree Matches (w.finishMap a s) (w'.finishMap a s) := by
  refine ⟨_, _, _, rfl, rfl, ?_⟩
  split
  · exact h.blind (f := World.syncWall) fun _ _ => rfl
  · exact h

/-- Both build the same session, or fail alike. -/
theorem provision : Agree Matches w.provision w'.provision := by
  obtain ⟨store, rfl, hstore⟩ := h
  obtain ⟨account, s, t, hs, ht, hst⟩ := hstore.claimAccount
  rw [World.provision, World.provision, hs, store_withStore, ht]
  cases account with
  | error e => exact ⟨_, _, _, rfl, rfl, _, rfl, hst⟩
  | ok account =>
      obtain ⟨proxy, s', t', hs', ht', hst'⟩ := hst.claimProxy
      dsimp only
      rw [hs', ht']
      cases proxy with
      | error e => exact ⟨_, _, _, rfl, rfl, _, rfl, hst'.releaseAccount _⟩
      | ok proxy =>
          refine ⟨_, _, _, rfl, rfl, blind ?_ (.record _ _)⟩
          exact ⟨t', rfl, hst'⟩

theorem markProxyDead (s : Session) :
    Agree Matches (w.markProxyDead s) (w'.markProxyDead s) :=
  ⟨_, _, _, rfl, rfl, h.tellStore fun hst => hst.saveProxy rfl⟩

/-- Both find the same proxy, for neither claims a dead one. -/
theorem swapProxy (s : Session) :
    Agree (Agree Matches) (w.swapProxy s) (w'.swapProxy s) := by
  obtain ⟨s', v, v', hv, hv', store, rfl, hstore⟩ := h.markProxyDead s
  obtain ⟨proxy, t, t', ht, ht', htt⟩ := hstore.claimProxy
  rw [World.swapProxy, World.swapProxy, hv, hv']
  dsimp only
  rw [ht, store_withStore, ht']
  cases proxy with
  | error e => exact ⟨_, _, _, rfl, rfl, _, _, _, rfl, rfl, _, rfl, htt⟩
  | ok proxy => exact ⟨_, _, _, rfl, rfl, _, _, _, rfl, rfl, t', rfl, htt⟩

/-- A record that is gone says the same as one that is dead. -/
theorem refreshProxy (s : Session) :
    Agree Matches (w.refreshProxy s) (w'.refreshProxy s) := by
  obtain ⟨store, rfl, hstore⟩ := h
  rw [World.refreshProxy, World.refreshProxy]
  split
  · exact ⟨_, _, _, rfl, rfl, store, rfl, hstore⟩
  · obtain ⟨dead, t, t', ht, ht', htt⟩ := hstore.isProxyDead s.proxy.id
    rw [ht, store_withStore, ht']
    cases dead with
    | error e => exact ⟨_, _, _, rfl, rfl, t', rfl, htt⟩
    | ok dead => cases dead <;> exact ⟨_, _, _, rfl, rfl, t', rfl, htt⟩

theorem classify (s : Session) (e : ClientError) :
    Agree Matches (w.classify s e) (w'.classify s e) := by
  have hcondemn (account : Account) :
      Agree Matches
        (({ s with account }, { w.tellStore (·.saveAccount account) with
          board := w.board.remove account.username }) : Session × World)
        ({ s with account }, { w'.tellStore (·.saveAccount account) with
          board := w'.board.remove account.username }) := by
    obtain ⟨store, rfl, hstore⟩ := h
    exact ⟨_, _, _, rfl, rfl, _, rfl, hstore.saveAccount account⟩
  rw [World.classify, World.classify]
  split
  · exact ⟨_, _, _, rfl, rfl, h⟩
  · exact hcondemn _
  · exact hcondemn _

theorem evict (s : Session) : (w.evict s).Matches (w'.evict s) := by
  have hcounted := h.blind (f := fun w =>
    { w with board := w.board.remove s.username, counters := w.counters.countEviction })
    fun _ _ => rfl
  unfold World.evict
  dsimp only
  split <;> split
  · exact hcounted
  · exact hcounted.tellStore fun hst => hst.releaseAccount _
  · exact hcounted.tellStore fun hst => hst.releaseProxy _
  · exact (hcounted.tellStore fun hst => hst.releaseAccount _).tellStore
      fun hst => hst.releaseProxy _

/-! ## Scans -/

/-- Both logins come to the same. -/
theorem loginTurn (id deadline : Nat) (s : Session) (wait : LoginWait) :
    Agree Matches (w.loginTurn id deadline s wait) (w'.loginTurn id deadline s wait) := by
  unfold World.loginTurn
  rw [h.now]
  split
  · rw [h.gate]
    split
    · obtain ⟨a, x, y, hx, hy, s', v, v', rfl, rfl, hv⟩ :=
        (h.blind (.takeToken .login)).startLogin s
      rw [hx, hy]
      dsimp only
      rw [hv.now]
      exact ⟨_, _, _, rfl, rfl, hv⟩
    · split
      · exact ⟨_, _, _, rfl, rfl, h.blind (.leaveGate .login id)⟩
      · exact ⟨_, _, _, rfl, rfl, h.blind (.awaitToken .login deadline id)⟩
  · split
    · split
      · exact ⟨_, _, _, rfl, rfl, h⟩
      · exact ⟨_, _, _, rfl, rfl, h.blind (.enterGate .login id)⟩
      · exact ⟨_, _, _, rfl, rfl, h⟩
    · split
      · exact ⟨_, _, _, rfl, rfl, h⟩
      · exact ⟨_, _, _, rfl, rfl, (h.blind (.onTime _)).blind (.onTime _)⟩

theorem disposeOf (s : Session) : (w.disposeOf s).Matches (w'.disposeOf s) := by
  obtain ⟨s', v, v', hv, hv', hvv⟩ := h.refreshProxy s
  unfold World.disposeOf
  rw [hv, hv']
  dsimp only
  split
  · exact hvv.evict s'
  · have hconfig : v'.config = v.config := by
      obtain ⟨store, rfl, -⟩ := hvv
      rfl
    rw [hconfig]
    exact hvv.blind (.checkIn s' v.config.cooldown)

theorem conclude (id : Nat) (scan : Scan) (s : Session) (result : Except ScanError MapPayload) :
    (w.conclude id scan s result).Matches (w'.conclude id scan s result) := by
  have hwall : w'.wall = w.wall := by
    obtain ⟨store, rfl, -⟩ := h
    rfl
  unfold World.conclude
  rw [hwall]
  dsimp only
  split
  · exact ((h.tellStore fun hst => hst.addObjects _).disposeOf s).blind (.finishScan _ _ _)
  · exact (h.disposeOf s).blind (.finishScan _ _ _)

theorem concludeAttempt (id : Nat) (scan : Scan) (s : Session)
    (outcome : Except Failure MapPayload) :
    (w.concludeAttempt id scan s outcome).Matches (w'.concludeAttempt id scan s outcome) := by
  unfold World.concludeAttempt
  rw [h.now]
  split
  · exact h.conclude ..
  · split
    · exact h.conclude ..
    · split
      · exact h.conclude ..
      · exact h.conclude ..

theorem afterAttempts (id : Nat) (scan : Scan) (s : Session)
    (outcome : Except Failure MapPayload) :
    (w.afterAttempts id scan s outcome).Matches (w'.afterAttempts id scan s outcome) := by
  unfold World.afterAttempts
  split
  · rename_i e
    obtain ⟨s', v, v', hv, hv', hvv⟩ := h.classify s e
    rw [hv, hv']
    dsimp only
    rw [hvv.now]
    split
    · exact hvv.blind (.lineUpForCall _ _ _ _)
    · exact hvv.concludeAttempt ..
  · exact h.concludeAttempt ..

/-- Both attempts have the same consequences. -/
theorem afterAttempt (id : Nat) (scan : Scan) (s : Session) (attempt : Attempt)
    (outcome : Except Failure MapPayload) :
    (w.afterAttempt id scan s attempt outcome).Matches
      (w'.afterAttempt id scan s attempt outcome) := by
  have hmarked := (h.markProxyDead s).snd
  unfold World.afterAttempt
  cases attempt with
  | first =>
      dsimp only
      split
      · rw [if_pos rfl, if_pos rfl, h.now]
        split
        · exact hmarked.conclude ..
        · obtain ⟨swapped, x, y, hx, hy, s', v, v', rfl, rfl, hvv⟩ := h.swapProxy s
          rw [hx, hy]
          cases swapped with
          | true => exact hvv.blind (.beginAttempt _ _ _ _)
          | false => exact hvv.conclude ..
      · rw [if_neg Bool.false_ne_true, if_neg Bool.false_ne_true]
        exact h.afterAttempts ..
  | swapped =>
      dsimp only
      split
      · exact hmarked.afterAttempts ..
      · exact h.afterAttempts ..
  | repeated =>
      have hlast {v v' : World} (hvv : v.Matches v') (s : Session) (e : ClientError) :
          ((v.classify s e).2.concludeAttempt id scan (v.classify s e).1 outcome).Matches
            ((v'.classify s e).2.concludeAttempt id scan (v'.classify s e).1 outcome) := by
        obtain ⟨s', u, u', hu, hu', huu⟩ := hvv.classify s e
        rw [hu, hu']
        exact huu.concludeAttempt ..
      dsimp only
      split
      · split
        · exact hlast hmarked _ _
        · exact hlast h _ _
      · exact h.concludeAttempt ..

theorem acquire (id : Nat) (scan : Scan) (s : Session) :
    (w.acquire id scan s).Matches (w'.acquire id scan s) := by
  obtain ⟨s', v, v', hv, hv', hvv⟩ := h.refreshProxy s
  unfold World.acquire
  rw [hv, hv']
  dsimp only
  split
  · obtain ⟨swapped, x, y, hx, hy, s', v, v', rfl, rfl, hvv⟩ := hvv.swapProxy s'
    rw [hx, hy]
    cases swapped with
    | true => exact hvv.blind (.beginWork _ _ _)
    | false => exact (hvv.evict s').blind (.finishScan _ _ _)
  · exact hvv.blind (.beginWork _ _ _)

theorem acquireNew (id : Nat) (scan : Scan) :
    (w.acquireNew id scan).Matches (w'.acquireNew id scan) := by
  obtain ⟨result, v, v', hv, hv', hvv⟩ := h.provision
  unfold World.acquireNew
  rw [hv, hv']
  cases result with
  | ok s => exact (hvv.blind (f := World.show_ s) fun _ _ => rfl).blind (.beginWork _ _ _)
  | error e => exact hvv.blind (.finishScan _ _ _)

/-- Both turns of a scan at work come to the same. -/
theorem workTurn (id : Nat) (scan : Scan) (s : Session) (attempt : Attempt) (wait : ScanWait) :
    (w.workTurn id scan s attempt wait).Matches (w'.workTurn id scan s attempt wait) := by
  unfold World.workTurn
  cases wait with
  | login wait =>
      obtain ⟨step, v, v', hv, hv', hvv⟩ := h.loginTurn id scan.deadline s wait
      dsimp only
      rw [hv, hv']
      cases step with
      | blocked => exact hvv
      | moved s wait => exact hvv.blind (.work _ _ _ _ _)
      | succeeded s => exact hvv.blind (.lineUpForCall _ _ _ _)
      | failed s f => exact hvv.afterAttempt ..
  | callToken =>
      dsimp only
      rw [h.gate, h.now]
      split
      · obtain ⟨a, x, y, hx, hy, s', v, v', rfl, rfl, hvv⟩ :=
          (h.blind (.takeToken .call)).startMap s
        rw [hx, hy]
        dsimp only
        rw [hvv.now]
        exact hvv.blind (.work _ _ _ _ _)
      · split
        · exact (h.blind (.leaveGate .call id)).afterAttempt ..
        · exact h.blind (.awaitToken _ _ _)
  | call a due =>
      dsimp only
      rw [h.now]
      split
      · obtain ⟨s', v, v', hv, hv', hvv⟩ := h.finishMap a s
        rw [hv, hv']
        exact hvv.afterAttempt ..
      · split
        · exact h.afterAttempt ..
        · exact (h.blind (.onTime _)).blind (.onTime _)

theorem scanTurn (id : Nat) (scan : Scan) : (w.scanTurn id scan).Matches (w'.scanTurn id scan) := by
  obtain ⟨store, hw', hstore⟩ := h
  have hpool (pool : Pool Session) : Matches { w with pool } { w' with pool } := by
    rw [hw']
    exact ⟨store, rfl, hstore⟩
  have hsame : w'.pool = w.pool ∧ w'.now = w.now := by
    rw [hw']
    exact ⟨rfl, rfl⟩
  have hblind {f : World → World} (hf : Blind f) : (f w).Matches (f w') :=
    blind ⟨store, hw', hstore⟩ hf
  unfold World.scanTurn
  rw [hsame.1, hsame.2]
  split
  · rw [hw']
    dsimp only
    split
    · split
      · exact ⟨store, rfl, hstore⟩
      · exact ⟨store, rfl, hstore⟩
    · exact ⟨store, rfl, hstore⟩
  · split
    · exact (hpool _).acquire ..
    · split
      · exact hblind (.finishScan _ _ _)
      · split
        · exact hblind (.proceed _ _)
        · exact hblind (.onTime _)
  · split
    · exact (hpool _).acquire ..
    · exact (hpool _).acquireNew ..
  · exact workTurn ⟨store, hw', hstore⟩ ..
  · exact ⟨store, hw', hstore⟩

/-! ## Preloads -/

theorem afterPreloadLogin (id : Nat) (p : Preload) (s : Session) (f : Option Failure) :
    (w.afterPreloadLogin id p s f).Matches (w'.afterPreloadLogin id p s f) := by
  have hdispose {v v' : World} (hvv : v.Matches v') (s : Session) :
      (if s.isSpent then (v.evict s).proceed id (.preload { p with stage := .next })
        else (v.sendToPool s).proceed id
          (.preload { p with queued := p.queued + 1, stage := .next })).Matches
      (if s.isSpent then (v'.evict s).proceed id (.preload { p with stage := .next })
        else (v'.sendToPool s).proceed id
          (.preload { p with queued := p.queued + 1, stage := .next })) := by
    split
    · exact (hvv.evict s).blind (.proceed _ _)
    · exact (hvv.blind (.sendToPool s)).blind (.proceed _ _)
  cases f with
  | none => exact hdispose h s
  | some f =>
      cases f with
      | deadline => exact hdispose h s
      | client e =>
          obtain ⟨s', v, v', hv, hv', hvv⟩ := h.classify s e
          unfold World.afterPreloadLogin
          dsimp only
          rw [hv, hv']
          exact hdispose hvv s'

theorem preloadTurn (id : Nat) (p : Preload) :
    (w.preloadTurn id p).Matches (w'.preloadTurn id p) := by
  have hfinish {v v' : World} (hvv : v.Matches v') :
      (v.finish id (.preload { p with stage := .finished v.now })).Matches
        (v'.finish id (.preload { p with stage := .finished v'.now })) := by
    rw [hvv.now]
    exact hvv.blind (.finish _ _)
  unfold World.preloadTurn
  split
  · split
    · exact hfinish h
    · obtain ⟨result, v, v', hv, hv', hvv⟩ := h.provision
      rw [hv, hv']
      cases result with
      | ok s =>
          have hshown := hvv.blind (f := World.show_ s) fun _ _ => rfl
          exact hshown.blind (.beginPreloadLogin _ _ _ _)
      | error e => exact hfinish hvv
  · rename_i s swapped deadline wait _
    obtain ⟨step, v, v', hv, hv', hvv⟩ := h.loginTurn id deadline s wait
    rw [hv, hv']
    cases step with
    | blocked => exact hvv
    | moved s wait => exact hvv.blind (.proceed _ _)
    | succeeded s => exact hvv.afterPreloadLogin ..
    | failed s f =>
        dsimp only
        split
        · obtain ⟨done, x, y, hx, hy, s', v, v', rfl, rfl, hvv⟩ := hvv.swapProxy s
          rw [hx, hy]
          cases done with
          | true => exact hvv.blind (.beginPreloadLogin _ _ _ _)
          | false => exact hvv.afterPreloadLogin ..
        · exact hvv.afterPreloadLogin ..
  · exact h

/-! ## Events -/

/-- Whoever has its turn does the same in both. -/
theorem turn (o : Owner) : (w.turn o).Matches (w'.turn o) := by
  cases o with
  | pool => exact h.blind .poolTurn
  | cooling id => exact h.blind (.coolingTurn id)
  | gate g => exact h.blind (.wakeHead g)
  | task id =>
      unfold World.turn
      dsimp only
      rw [h.task?]
      split
      · exact h
      · exact h.scanTurn ..
      · exact h.preloadTurn ..
      · exact h.blind (.checkoutTurn _ _)

theorem spawn (t : Task) : (w.spawn t).2.Matches (w'.spawn t).2 :=
  h.blind (f := fun w => (w.spawn t).2) fun _ _ => rfl

/-- Whatever happens to both alike, they go on to differ in dead proxies only. -/
theorem happen {e : Event} (he : e ≠ .sweep) : (w.happen e).Matches (w'.happen e) := by
  cases e with
  | turn o => exact (h.blind (.onTime _)).turn o
  | pass now => exact h.blind (.onTime _)
  | readWall => exact h.blind (f := World.syncWall) fun _ _ => rfl
  | scan place start => exact h.spawn _
  | preload count => exact h.spawn _
  | addProxy id => exact h.tellStore fun hst => hst.addProxy rfl
  | loseProxy id => exact h.tellStore fun hst => hst.saveProxy rfl
  | sweep => exact absurd rfl he

end Matches

end MapScout.World
