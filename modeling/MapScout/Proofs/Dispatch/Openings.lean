import MapScout.Proofs.Dispatch.DeadProxies
import MapScout.Proofs.Dispatch.Logins

/-!
# Coming to a session

A task that has no session asks nothing of anybody upstream, unless it comes to a session in its
turn.  Then the store has just said of the proxy of the session that it is alive, for one of three
reasons: the session comes from the pool and its proxy has been looked up, or the proxy has been
claimed in place of a dead one, or the session has just been built.
-/

namespace MapScout

namespace Inventory

variable {i i' : Inventory} {p : Proxy} {id : ProxyId}

section ModifyFirst

variable {α : Type} {free : α → Bool} {f : α → α} {l : List α} {x : α}

/-- The first that is free is there, changed. -/
theorem mem_modifyFirst_of_find? (h : l.find? free = some x) : f x ∈ modifyFirst free f l := by
  induction l with
  | nil => cases h
  | cons a rest ih =>
      rw [modifyFirst]
      rw [List.find?_cons] at h
      split
      · rename_i ha
        rw [ha] at h
        cases h
        exact List.mem_cons_self
      · rename_i ha
        rw [Bool.of_not_eq_true ha] at h
        exact List.mem_cons_of_mem _ (ih h)

/-- All others are there as they were. -/
theorem mem_modifyFirst_of_ne (h : x ∈ l) (hne : ∀ y, l.find? free = some y → x ≠ y) :
    x ∈ modifyFirst free f l := by
  induction l with
  | nil => cases h
  | cons a rest ih =>
      rw [modifyFirst]
      rw [List.find?_cons] at hne
      split
      · rename_i ha
        rw [ha] at hne
        exact List.mem_cons_of_mem _ ((List.mem_cons.mp h).resolve_left (hne a rfl))
      · rename_i ha
        rw [Bool.of_not_eq_true ha] at hne
        exact (List.mem_cons.mp h).elim (fun hx => hx ▸ List.mem_cons_self)
          fun hx => List.mem_cons_of_mem _ (ih hx hne)

end ModifyFirst

/-- A proxy that is not dead has a record that says so. -/
theorem exists_of_isProxyDead (h : i.isProxyDead id = false) :
    ∃ p ∈ i.proxies, p.id = id ∧ p.dead = false := by
  rw [isProxyDead, proxy?] at h
  cases hfind : i.proxies.find? (·.id == id) with
  | none =>
      rw [hfind] at h
      cases h
  | some p =>
      rw [hfind] at h
      have hid : p.id = id := by simpa using List.find?_some hfind
      exact ⟨p, List.mem_of_find?_eq_some hfind, hid, h⟩

/-- What has been claimed is alive. -/
theorem exists_of_claimProxy? (h : i.claimProxy? = some (p, i')) :
    ∃ q ∈ i'.proxies, q.id = p.id ∧ q.dead = false := by
  rw [claimProxy?, Option.map_eq_some_iff] at h
  obtain ⟨r, hfind, heq⟩ := h
  obtain ⟨rfl, rfl⟩ := Prod.mk.inj heq
  have hfree : r.inUse = false ∧ r.dead = false := by
    simpa [Proxy.isFree] using List.find?_some hfind
  exact ⟨_, mem_modifyFirst_of_find? hfind, rfl, hfree.2⟩

end Inventory

namespace World

variable {w w' start : World} {known : List ProxyId} {id : Nat} {k : ProxyId} {e : Event}
variable {s s' : Session} {scan : Scan} {σ : Seat} {t : Task}

def RecordsDead (w : World) (k : ProxyId) : Prop :=
  ∃ p ∈ w.store.inventory.proxies, p.id = k ∧ p.dead = true

def RecordsLive (w : World) (k : ProxyId) : Prop :=
  ∃ p ∈ w.store.inventory.proxies, p.id = k ∧ p.dead = false

/-- Nobody upstream has been asked for anything. -/
structure Unasked (w w' : World) : Prop where
  log : w'.log = w.log
  supply : w'.supply = w.supply

/-- How a task that had no session has ended its turn. -/
inductive Opens (start : World) (id : Nat) (w : World) : Prop where
  | unseated (hseat : w.seat? id = none) (hunasked : start.Unasked w)
  | seated {σ : Seat} (hseat : w.seat? id = some σ) (hlive : w.RecordsLive σ.session.proxy.id)

/-! ## Coming to a session -/

namespace Unasked

theorem refl (w : World) : w.Unasked w := ⟨rfl, rfl⟩

theorem trans {w₁ w₂ w₃ : World} (h₁ : w₁.Unasked w₂) (h₂ : w₂.Unasked w₃) : w₁.Unasked w₃ :=
  ⟨h₂.log.trans h₁.log, h₂.supply.trans h₁.supply⟩

theorem refreshProxy (s : Session) : w.Unasked (w.refreshProxy s).2 := by
  rw [World.refreshProxy]
  split
  · exact refl w
  · split <;> exact ⟨rfl, rfl⟩

theorem swapProxy (s : Session) : w.Unasked (w.swapProxy s).2.2 := by
  rw [World.swapProxy]
  dsimp only
  split <;> exact ⟨rfl, rfl⟩

theorem evict (s : Session) : w.Unasked (w.evict s) := by
  rw [World.evict]
  split <;> split <;> exact ⟨rfl, rfl⟩

/-- A session that cannot be built has asked nobody for anything. -/
theorem provision {f : ProvisionError} (h : w.provision = (.error f, w')) : w.Unasked w' := by
  rw [World.provision] at h
  split at h
  · obtain ⟨-, rfl⟩ := Prod.mk.inj h
    exact ⟨rfl, rfl⟩
  · split at h
    · obtain ⟨-, rfl⟩ := Prod.mk.inj h
      exact ⟨rfl, rfl⟩
    · cases (Prod.mk.inj h).1

end Unasked

theorem RecordsLive.congr (h : w.RecordsLive k)
    (hinventory : w'.store.inventory = w.store.inventory) : w'.RecordsLive k := by
  rw [RecordsLive, hinventory]
  exact h

/-- A session keeps its proxy if the store has a record of it that says that it is alive. -/
theorem live_refreshProxy (hfaultless : w.store.Faultless)
    (hlive : (w.refreshProxy s).1.proxy.dead = false) :
    (w.refreshProxy s).2.RecordsLive (w.refreshProxy s).1.proxy.id := by
  rw [refreshProxy] at hlive ⊢
  split at hlive
  · rename_i hdead
    rw [hdead] at hlive
    cases hlive
  · rename_i hdead
    rw [if_neg hdead]
    rw [Store.isProxyDead_eq hfaultless] at hlive ⊢
    cases hgone : w.store.inventory.isProxyDead s.proxy.id with
    | true =>
        rw [hgone] at hlive
        cases hlive
    | false => exact Inventory.exists_of_isProxyDead hgone

/-- A proxy that has just been claimed has a live record. -/
theorem live_claimProxy {store : Store} {p : Proxy} (hfaultless : w.store.Faultless)
    (h : w.store.claimProxy = (.ok p, store)) :
    ∃ q ∈ store.inventory.proxies, q.id = p.id ∧ q.dead = false := by
  rw [Store.claimProxy, Store.claim_eq hfaultless] at h
  split at h
  · cases (Prod.mk.inj h).1
  · rename_i p' i hclaim
    obtain ⟨hp, rfl⟩ := Prod.mk.inj h
    obtain rfl := Except.ok.inj hp
    exact Inventory.exists_of_claimProxy? hclaim

/-- So has the proxy that a session is swapped to. -/
theorem live_swapProxy (hfaultless : w.store.Faultless) (h : w.swapProxy s = (true, s', w')) :
    w'.RecordsLive s'.proxy.id := by
  have hmarked := (Frame.deals (.markProxyDead (w := w) s)).faultless hfaultless
  rw [swapProxy] at h
  dsimp only at h
  split at h
  · cases (Prod.mk.inj h).1
  · rename_i p store hclaim
    obtain ⟨-, h⟩ := Prod.mk.inj h
    obtain ⟨rfl, rfl⟩ := Prod.mk.inj h
    exact live_claimProxy hmarked hclaim

/-- And so has that of a session that has just been built. -/
theorem live_provision (hfaultless : w.store.Faultless) (h : w.provision = (.ok s, w')) :
    w'.RecordsLive s.proxy.id := by
  have hclaimed := hfaultless.claimAccount
  rw [provision] at h
  split at h
  · cases (Prod.mk.inj h).1
  · rename_i account store haccount
    rw [haccount] at hclaimed
    split at h
    · cases (Prod.mk.inj h).1
    · rename_i proxy store' hproxy
      obtain ⟨hs, rfl⟩ := Prod.mk.inj h
      obtain rfl := Except.ok.inj hs
      apply RecordsLive.congr _ (Still.stirs (.record ..)).inventory
      exact live_claimProxy (w := { w with store }) hclaimed hproxy

/-- Whatever is said of a session that a scan has begun an attempt with. -/
theorem seat?_beginAttempt (hid : (w.task? id).isSome) (scan : Scan) (s : Session)
    (attempt : Attempt) :
    (w.beginAttempt id scan s attempt).seat? id =
      some ⟨.scan attempt, s, s.firstWait, scan.deadline⟩ := by
  rw [beginAttempt, Session.firstWait]
  split
  · rw [lineUpForCall, work, proceed]
    exact seat?_setTask (Still.stirs (.enterGate ..)).tasks hid _ _
  · rw [work, proceed]
    exact seat?_setTask (Still.stirs (.enterGate ..)).tasks hid _ _

/-- An attempt begins without a look at the inventory. -/
theorem inventory_beginAttempt (scan : Scan) (s : Session) (attempt : Attempt) :
    (w.beginAttempt id scan s attempt).store.inventory = w.store.inventory := by
  rw [beginAttempt]
  split
  · exact (Still.stirs (.enterGate .call id)).inventory
  · exact (Still.stirs (.enterGate .login id)).inventory

namespace Opens

/-- A session on a live proxy goes to work. -/
theorem beginWork (hid : (w.task? id).isSome) (hlive : w.RecordsLive s.proxy.id) :
    Opens start id (w.beginWork id scan s) := by
  have hmoved := Still.stirs (.record (w := w) s.client (.moved s.username scan.place w.now))
  rw [← task?_congr hmoved.tasks] at hid
  apply Opens.seated (seat?_beginAttempt hid scan s .first)
  exact (hlive.congr hmoved.inventory).congr (inventory_beginAttempt ..)

/-- The task is left without a session. -/
theorem setTask (hid : (w.task? id).isSome) (ht : t.seat? = none) (hunasked : start.Unasked w)
    (step : Timeline Owner → Timeline Owner) : Opens start id ((w.setTask id t).onTime step) :=
  .unseated ((seat?_setTask rfl hid t step).trans ht) ⟨hunasked.log, hunasked.supply⟩

theorem proceed (hid : (w.task? id).isSome) (hunasked : start.Unasked w) (ht : t.seat? = none) :
    Opens start id (w.proceed id t) := by
  rw [World.proceed]
  exact setTask hid ht hunasked _

theorem finish (hid : (w.task? id).isSome) (hunasked : start.Unasked w) (ht : t.seat? = none) :
    Opens start id (w.finish id t) := by
  rw [World.finish]
  exact setTask hid ht hunasked _

theorem finishScan (hid : (w.task? id).isSome) (hunasked : start.Unasked w)
    (result : Except ScanError (List MapObject)) :
    Opens start id (w.finishScan id scan result) := by
  unfold World.finishScan
  apply finish _ _ rfl
  · exact hid
  · exact ⟨hunasked.log, hunasked.supply⟩

/-- A session from the pool goes to work on a live proxy, or is dropped without having asked for
anything. -/
theorem acquire (hid : (w.task? id).isSome) (hfaultless : w.store.Faultless)
    (hunasked : start.Unasked w) (scan : Scan) (s : Session) :
    Opens start id (w.acquire id scan s) := by
  have hlive := live_refreshProxy (s := s) hfaultless
  have hframe := Frame.deals (.refreshProxy (w := w) s)
  have hrefreshed := hunasked.trans (Unasked.refreshProxy s)
  unfold World.acquire
  dsimp only
  generalize w.refreshProxy s = refreshed at hlive hframe hrefreshed ⊢
  obtain ⟨s₁, w₁⟩ := refreshed
  dsimp only at hlive hframe hrefreshed ⊢
  rw [← task?_congr hframe.tasks] at hid
  by_cases hdead : s₁.proxy.dead = true
  · rw [if_pos hdead]
    have hswapFrame := Frame.deals (.swapProxy (w := w₁) s₁)
    have hswapped := hrefreshed.trans (Unasked.swapProxy s₁)
    split
    all_goals
      rename_i hswap
      rw [hswap] at hswapFrame hswapped
      rw [← task?_congr hswapFrame.tasks] at hid
    · exact beginWork hid (live_swapProxy (hframe.faultless hfaultless) hswap)
    · apply finishScan _ (hswapped.trans (Unasked.evict _))
      rw [task?_congr (Frame.evict _).tasks]
      exact hid
  · rw [if_neg hdead]
    exact beginWork hid (hlive (Bool.of_not_eq_true hdead))

/-- So does a session that is built, or none is. -/
theorem acquireNew (hid : (w.task? id).isSome) (hfaultless : w.store.Faultless)
    (hunasked : start.Unasked w) (scan : Scan) : Opens start id (w.acquireNew id scan) := by
  have hframe := Frame.deals (.provision (w := w))
  unfold World.acquireNew
  split
  all_goals
    rename_i hprovision
    rw [hprovision] at hframe
    rw [← task?_congr hframe.tasks] at hid
  · exact beginWork hid ((live_provision hfaultless hprovision).congr rfl)
  · exact finishScan hid (hunasked.trans (Unasked.provision hprovision)) _

end Opens

section Turns

variable (hfaultless : w.store.Faultless)

include hfaultless

/-- A scan without a session ends its turn with one on a live proxy, or has asked nobody for
anything. -/
theorem opens_scanTurn (ht : w.task? id = some (.scan scan)) (hseat : w.seat? id = none) :
    Opens w id (w.scanTurn id scan) := by
  have hid : (w.task? id).isSome := isSome_lookup ht
  have hpool (pool : Pool Session) : w.Unasked { w with pool } := ⟨rfl, rfl⟩
  obtain ⟨place, deadline, stage⟩ := scan
  rw [scanTurn]
  cases stage with
  | planned start =>
      have hcounted : w.Unasked { w with counters := w.counters.countScan } := ⟨rfl, rfl⟩
      dsimp only
      split
      · split
        · apply Opens.proceed _ _ rfl
          · exact hid
          · exact hcounted.trans ⟨rfl, rfl⟩
        · exact Opens.finishScan (w := { w with counters := w.counters.countScan }) hid hcounted _
      · exact .unseated hseat ⟨rfl, rfl⟩
  | checkout until_ =>
      dsimp only
      split
      · rename_i s pool _
        exact Opens.acquire (w := { w with pool }) hid hfaultless (hpool pool) _ s
      · split
        · exact Opens.finishScan hid (.refl w) _
        · split
          · exact Opens.proceed hid (.refl w) rfl
          · exact .unseated hseat ⟨rfl, rfl⟩
  | leaving =>
      dsimp only
      split
      · rename_i s pool _
        exact Opens.acquire (w := { w with pool }) hid hfaultless (hpool pool) _ s
      · rename_i pool _
        exact Opens.acquireNew (w := { w with pool }) hid hfaultless (hpool pool) _
  | working s attempt wait =>
      rw [seat?_of_scan ht] at hseat
      cases hseat
  | finished result at_ => exact .unseated hseat (.refl w)

/-- So does a preload. -/
theorem opens_preloadTurn {p : Preload} (ht : w.task? id = some (.preload p))
    (hseat : w.seat? id = none) : Opens w id (w.preloadTurn id p) := by
  have hid : (w.task? id).isSome := by
    rw [ht]
    rfl
  obtain ⟨remaining, queued, stage⟩ := p
  rw [preloadTurn]
  cases stage with
  | next =>
      dsimp only
      split
      · exact Opens.finish hid (.refl w) rfl
      · have hframe := Frame.deals (.provision (w := w))
        split
        all_goals
          rename_i hprovision
          rw [hprovision] at hframe
          rw [← task?_congr hframe.tasks] at hid
        · exact Opens.finish hid (Unasked.provision hprovision) rfl
        · rename_i s w'
          have hstill := (Still.show_ (w := w') s).trans (Still.stirs (.enterGate .login id))
          have hlive := (live_provision hfaultless hprovision).congr hstill.inventory
          rw [← task?_congr hstill.tasks] at hid
          rw [beginPreloadLogin, proceed]
          exact Opens.seated (seat?_setTask rfl hid _ _) hlive
  | login s swapped deadline wait =>
      rw [seat?, ht] at hseat
      cases hseat
  | finished at_ => exact .unseated hseat (.refl w)

omit hfaultless in
/-- A checkout never asks anybody for anything. -/
theorem opens_checkoutTurn {c : Checkout} (ht : w.task? id = some (.checkout c))
    (hseat : w.seat? id = none) : Opens w id (w.checkoutTurn id c) := by
  have hid : (w.task? id).isSome := by
    rw [ht]
    rfl
  have hpool (pool : Pool Session) : w.Unasked { w with pool } := ⟨rfl, rfl⟩
  obtain ⟨timeout, stage⟩ := c
  rw [checkoutTurn]
  cases stage with
  | planned =>
      dsimp only
      split
      · apply Opens.proceed _ _ rfl
        · exact hid
        · exact ⟨rfl, rfl⟩
      · exact Opens.finish hid (.refl w) rfl
  | waiting until_ =>
      dsimp only
      split
      · rename_i s pool _
        exact Opens.finish (w := { w with pool }) hid (hpool pool) rfl
      · split
        · exact Opens.finish hid (.refl w) rfl
        · split
          · exact Opens.proceed hid (.refl w) rfl
          · exact .unseated hseat ⟨rfl, rfl⟩
  | leaving =>
      dsimp only
      split
      all_goals
        rename_i pool _
        exact Opens.finish (w := { w with pool }) hid (hpool pool) rfl
  | finished result at_ => exact .unseated hseat (.refl w)

/-- A task that has no session makes no request in its turn, unless it comes to a session, and then
the proxy of the session is alive. -/
theorem opens_happen (hseat : w.seat? id = none) :
    Opens w id (w.happen (.turn (.task id))) := by
  have hbegun {w' : World} (h : Opens (w.beginTurn (.task id)) id w') : Opens w id w' := by
    cases h with
    | unseated hseat hunasked => exact .unseated hseat ⟨hunasked.log, hunasked.supply⟩
    | seated hseat hlive => exact .seated hseat hlive
  rw [happen_turn, turn]
  apply hbegun
  cases ht : w.task? id with
  | none =>
      rw [show (w.beginTurn (.task id)).task? id = none from ht]
      exact .unseated hseat ⟨rfl, rfl⟩
  | some t =>
      rw [show (w.beginTurn (.task id)).task? id = some t from ht]
      cases t with
      | scan scan => exact opens_scanTurn (w := w.beginTurn (.task id)) hfaultless ht hseat
      | preload p => exact opens_preloadTurn (w := w.beginTurn (.task id)) hfaultless ht hseat
      | checkout c => exact opens_checkoutTurn (w := w.beginTurn (.task id)) ht hseat

end Turns

end World

end MapScout
