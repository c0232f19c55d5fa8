import MapScout.Proofs.Dispatch.Openings

/-!
# Live proxies

A session may have lain in the pool for long when a scan gets it, and its proxy may have died
meanwhile.  The scan asks the store, and binds the session to another proxy if need be.  So it makes
no request through a proxy that was recorded as dead by then, even if the record has been swept away
since.  If no other proxy is free, it makes no request at all.
-/

namespace MapScout

open Inventory (proxyLedger)

namespace Inventory

variable {i : Inventory} {p : Proxy}

/-- The first that is free is found where it was, if it is still free after the change. -/
theorem find?_modifyFirst {α : Type} {free : α → Bool} {f : α → α} {l : List α}
    (hf : ∀ a, free a = true → free (f a) = true) :
    (modifyFirst free f l).find? free = (l.find? free).map f := by
  induction l with
  | nil => rfl
  | cons a rest ih =>
      rw [modifyFirst]
      by_cases ha : free a = true
      · rw [if_pos ha, List.find?_cons_of_pos (hf a ha), List.find?_cons_of_pos ha]
        rfl
      · rw [if_neg ha, List.find?_cons_of_neg ha, List.find?_cons_of_neg ha, ih]

theorem claimProxy?_eq_none (h : ∀ p ∈ i.proxies, p.isFree = false) : i.claimProxy? = none := by
  rw [claimProxy?, List.find?_eq_none.mpr (by simpa using h)]
  rfl

/-- That a proxy is dead does not make one free. -/
theorem isFree_saveProxy? (h : ∀ q ∈ i.proxies, q.isFree = false) (hdead : p.dead = true) :
    ∀ q ∈ ((i.saveProxy? p).getD i).proxies, q.isFree = false := by
  intro q hq
  rw [saveProxy?, modifyProxy?] at hq
  cases hfind : i.proxy? p.id with
  | none =>
      rw [hfind] at hq
      exact h q hq
  | some r =>
      rw [hfind] at hq
      rcases mem_modifyFirst hq with hq | ⟨r', -, -, rfl⟩
      · exact h q hq
      · simp [Proxy.isFree, hdead]

/-- A free proxy is not touched when one that is dead or gone is written down as dead. -/
theorem mem_saveProxy?_of_isFree {q : Proxy} (hdead : i.isProxyDead p.id = true)
    (hq : q ∈ i.proxies) (hfree : q.isFree = true) :
    q ∈ ((i.saveProxy? p).getD i).proxies := by
  rw [isProxyDead] at hdead
  rw [saveProxy?, modifyProxy?]
  cases hfind : i.proxy? p.id with
  | none => exact hq
  | some r =>
      rw [hfind] at hdead
      refine mem_modifyFirst_of_ne hq fun r' hr' => ?_
      cases hfind.symm.trans hr'
      rintro rfl
      simp [Proxy.isFree, show q.dead = true from hdead] at hfree

/-- To release an account lifts the claim of its record. -/
theorem account?_releaseAccount? (username : String) :
    ((i.releaseAccount? username).getD i).account? username =
      (i.account? username).map fun a => { a with used := false } := by
  have hmodified : (modifyFirst (·.username == username) (fun a => { a with used := false })
      i.accounts).find? (·.username == username) =
        (i.account? username).map fun a => { a with used := false } :=
    find?_modifyFirst fun _ h => h
  rw [releaseAccount?, modifyAccount?]
  cases hfind : i.account? username with
  | none => exact hfind
  | some a =>
      rw [hfind] at hmodified
      exact hmodified

theorem account?_saveProxy? (p : Proxy) (username : String) :
    ((i.saveProxy? p).getD i).account? username = i.account? username := by
  rw [account?, saveProxy?, accounts_modifyProxy?]
  rfl

end Inventory

/-- The task has come to a session, or it will not wait for one from the pool any more. -/
def Task.isEngaged : Task → Bool
  | .scan { stage := .working .., .. } => true
  | .scan { stage := .finished .., .. } => true
  | .preload _ => true
  | _ => false

namespace World

variable {w w' : World} {known : List ProxyId} {id : Nat} {k : ProxyId} {e : Event}
variable {s : Session} {scan : Scan} {σ : Seat} {t : Task} {r : ClientRequest}

/-- The task makes no request through the proxy, for it has no session that is bound to it, and will
not get one. -/
structure Shuns (w : World) (id : Nat) (k : ProxyId) : Prop where
  dead : ¬ w.RecordsLive k
  unbound : ∀ σ ∈ w.seat? id, σ.session.proxy.id ≠ k

/-- A proxy has no live record if all its records are dead. -/
theorem not_recordsLive_iff :
    ¬ w.RecordsLive k ↔ ∀ p ∈ w.store.inventory.proxies, p.id = k → p.dead = true := by
  simp [RecordsLive]

/-- No event but its own turn moves a session at work. -/
theorem seat?_happen_of_ne (he : e ≠ .turn (.task id)) : (w.happen e).seat? id = w.seat? id := by
  cases ht : w.task? id with
  | some t => exact seat?_congr ((task?_happen_of_ne he ht).trans ht.symm)
  | none =>
      have hspawned {t : Task} (hnone : t.seat? = none) : (w.spawn t).2.seat? id = w.seat? id := by
        rw [seat?, seat?, ht]
        change ((w.tasks ++ [(w.nextId, t)]).lookup id).bind Task.seat? = none
        rw [List.lookup_append, show w.tasks.lookup id = none from ht, Option.none_or,
          List.lookup_cons]
        split
        · exact hnone
        · rfl
      cases e with
      | turn o => exact seat?_congr (task?_turn fun ho => he (by rw [ho]))
      | scan | preload => exact hspawned rfl
      | _ => rfl

namespace ProxiesApart

/-- A proxy that is recorded as dead is known, and no other record says that it is alive. -/
theorem not_recordsLive (h : w.ProxiesApart known) (hdead : w.RecordsDead k) :
    k ∈ known ∧ ¬ w.RecordsLive k := by
  obtain ⟨p, hp, rfl, hdead⟩ := hdead
  refine ⟨h.within.stored p hp, not_recordsLive_iff.mpr fun q hq hid => ?_⟩
  have hfound := proxyLedger.find?_key h.exclusive.records_nodup hq
  rw [show proxyLedger.key q = proxyLedger.key p from hid,
    proxyLedger.find?_key h.exclusive.records_nodup hp] at hfound
  obtain rfl := Option.some.inj hfound
  exact hdead

/-- What is dead stays dead. -/
theorem not_recordsLive_happen (h : w.ProxiesApart known) (e : Event)
    (hids : (known ++ addedProxies [e]).Nodup) (hk : k ∈ known) (hdead : ¬ w.RecordsLive k) :
    ¬ (w.happen e).RecordsLive k :=
  not_recordsLive_iff.mpr (h.void_happen e hids hk (not_recordsLive_iff.mp hdead))

/-- A task that comes to a session does not come to one that is bound to a dead proxy. -/
theorem shuns_of_seat? (h : w.ProxiesApart known) (hseat : w.seat? id = none)
    (hdead : ¬ (w.happen e).RecordsLive k) : (w.happen e).Shuns id k := by
  refine ⟨hdead, fun σ hσ hk => ?_⟩
  by_cases he : e = .turn (.task id)
  · subst he
    cases opens_happen h.sound.faultless hseat with
    | unseated hnone =>
        rw [hnone] at hσ
        cases hσ
    | seated hsome hlive =>
        rw [hsome] at hσ
        cases hσ
        exact hdead (hk ▸ hlive)
  · rw [seat?_happen_of_ne he, hseat] at hσ
    cases hσ

/-- A task that has a session binds it to no dead proxy. -/
theorem proxy_ne_of_seat? (h : w.ProxiesApart known) (hseat : w.seat? id = some σ)
    (hdead : ¬ w.RecordsLive k) (hk : σ.session.proxy.id ≠ k) :
    ∀ σ' ∈ (w.happen (.turn (.task id))).seat? id, σ'.session.proxy.id ≠ k := by
  have hmem : σ.session ∈ w.sessions := mem_sessions.mpr ⟨_, mem_berths_of_seat? hseat, rfl⟩
  obtain ⟨left, -, hends⟩ := turned_seat hseat []
  have huseful : ∀ s ∈ some σ.session, s.isSpent = false := by
    simpa using h.sound.useful _ hmem
  -- the turn is a path of small steps, and on none of them does a retired proxy come to be held
  have hpath := hends.path h.sound.faultless huseful
  have hexclusive : proxyLedger.Exclusive w.store.inventory.proxies [σ.session.proxy] := by
    apply h.exclusive.pass
    apply map_subperm
    exact List.singleton_subperm_iff.mpr (List.mem_map_of_mem hmem)
  have hretired : proxyLedger.Retired k w.store.inventory.proxies [σ.session.proxy] := by
    refine ⟨not_recordsLive_iff.mp hdead, fun hheld => ?_⟩
    exact hk (List.mem_singleton.mp hheld).symm
  have hlater := hretired.steps (Books.Path.proxySteps hpath hexclusive)
  intro σ' hσ' hk'
  rw [hends.seat] at hσ'
  cases left with
  | none => cases hσ'
  | some π =>
      cases π with
      | resting s => cases hσ'
      | seated σ'' =>
          cases hσ'
          exact hlater.not_held (List.mem_singleton.mpr hk'.symm)

/-- A task that shuns a dead proxy goes on doing so, whatever happens. -/
theorem shuns_happen (h : w.ProxiesApart known) (e : Event)
    (hids : (known ++ addedProxies [e]).Nodup) (hk : k ∈ known) (hshuns : w.Shuns id k) :
    (w.happen e).Shuns id k := by
  have hdead := h.not_recordsLive_happen e hids hk hshuns.dead
  cases hseat : w.seat? id with
  | none => exact h.shuns_of_seat? hseat hdead
  | some σ =>
      have hunbound := hshuns.unbound σ hseat
      refine ⟨hdead, ?_⟩
      by_cases he : e = .turn (.task id)
      · subst he
        exact h.proxy_ne_of_seat? hseat hshuns.dead hunbound
      · rw [seat?_happen_of_ne he]
        exact hshuns.unbound

end ProxiesApart

/-- What is sent after that goes through another proxy. -/
theorem Shuns.proxy_ne (h : (w.happen e).Shuns r.task k) (hr : .sent r ∈ w.entriesIn e) :
    r.proxy ≠ k := by
  obtain ⟨id, σ, -, hseat, hrequest⟩ := seat_of_sent hr
  obtain ⟨kind, -, rfl⟩ := eq_of_request? hrequest
  exact h.unbound σ hseat

namespace ProxiesApart

/-- A proxy that has no live record gets none. -/
theorem not_recordsLive_run (h : w.ProxiesApart known) (events : List Event)
    (hids : (known ++ addedProxies events).Nodup) (hk : k ∈ known) (hdead : ¬ w.RecordsLive k) :
    ¬ (w.run events).RecordsLive k :=
  run_induction (P := fun w => ¬ w.RecordsLive k) (fun e h => h.not_recordsLive_happen e) h events
    hids hk hdead

/-- A task that shuns a proxy never makes a request through it. -/
theorem proxy_ne_run (h : w.ProxiesApart known) (events : List Event)
    (hids : (known ++ addedProxies events).Nodup) (hk : k ∈ known) (hshuns : w.Shuns r.task k)
    (hr : .sent r ∈ w.transcript events) : r.proxy ≠ k := by
  obtain ⟨xs, e, ys, rfl, hsent⟩ := mem_transcript hr
  have hlater : (w.run (xs ++ [e])).Shuns r.task k := by
    refine run_induction (P := fun w => w.Shuns r.task k) (fun e h => h.shuns_happen e) h _ ?_ hk
      hshuns
    exact nodup_addedProxies hids ⟨ys, (List.append_cons ..).symm⟩
  rw [run_append] at hlater
  exact hlater.proxy_ne hsent

end ProxiesApart

/-! ## Before a scan comes to its session -/

theorem isEngaged_of_seat? (hseat : w.seat? id = some σ) :
    ∃ t, w.task? id = some t ∧ t.isEngaged = true := by
  obtain ⟨t, ht, hσ⟩ := Option.bind_eq_some_iff.mp hseat
  refine ⟨t, ht, ?_⟩
  cases t with
  | scan scan =>
      obtain ⟨place, deadline, stage⟩ := scan
      cases stage with
      | working => rfl
      | _ => cases hσ
  | preload p => rfl
  | checkout c => cases hσ

/-- A preload remains one. -/
theorem task?_preloadTurn {p : Preload} (ht : w.task? id = some (.preload p)) :
    ∃ p', (w.preloadTurn id p).task? id = some (.preload p') := by
  have hset {w' : World} (htasks : w'.tasks = w.tasks) (p' : Preload) :
      (w'.setTask id (.preload p')).task? id = some (.preload p') := by
    apply task?_setTask
    rw [task?_congr htasks, ht]
    rfl
  have hafter {w' : World} (htasks : w'.tasks = w.tasks) (s : Session) (f : Option Failure) :
      ∃ p', (w'.afterPreloadLogin id p s f).task? id = some (.preload p') := by
    unfold afterPreloadLogin
    split
    rename_i s' w'' hjudged
    have htasks' : w''.tasks = w.tasks := by
      split at hjudged
      · rename_i e
        have hclassified := (Frame.deals (.classify (w := w') s e)).tasks.trans htasks
        rwa [hjudged] at hclassified
      · obtain ⟨rfl, rfl⟩ := Prod.mk.inj hjudged
        exact htasks
    split
    · exact ⟨_, hset ((Frame.evict _).tasks.trans htasks') _⟩
    · exact ⟨_, hset ((tasks_sendToPool _).trans htasks') _⟩
  rw [preloadTurn]
  split
  · split
    · exact ⟨_, hset rfl _⟩
    · have hprovisioned := (Frame.deals (.provision (w := w))).tasks
      split
      all_goals
        rename_i hprovision
        rw [hprovision] at hprovisioned
      · exact ⟨_, hset hprovisioned _⟩
      · rename_i s w'
        have hstill := (Still.show_ (w := w') s).trans (Still.stirs (.enterGate .login id))
        exact ⟨_, hset (hstill.tasks.trans hprovisioned) _⟩
  · rename_i s swapped deadline wait _
    have htasks := (Still.stirs (.loginTurn (w := w) id deadline s wait)).tasks
    split
    all_goals
      rename_i hlogin
      rw [hlogin] at htasks
    · exact ⟨p, (task?_congr htasks id).trans ht⟩
    · exact ⟨_, hset htasks _⟩
    · exact hafter htasks _ _
    · rename_i s' f w'
      split
      · have hswapped := (Frame.deals (.swapProxy (w := w') s')).tasks.trans htasks
        split
        all_goals
          rename_i hswap
          rw [hswap] at hswapped
        · exact ⟨_, hset ((Still.stirs (.enterGate ..)).tasks.trans hswapped) _⟩
        · exact hafter hswapped _ _
      · exact hafter htasks _ _
  · exact ⟨p, ht⟩

/-- A task that has come to a session does not go back to waiting for one. -/
theorem isEngaged_happen (ht : w.task? id = some t) (hengaged : t.isEngaged = true) (e : Event) :
    ∃ t', (w.happen e).task? id = some t' ∧ t'.isEngaged = true := by
  by_cases he : e = .turn (.task id)
  · subst he
    cases t with
    | scan scan =>
        obtain ⟨scan', hscan', hcase⟩ := happen_scan ht (.turn (.task id))
        refine ⟨.scan scan', hscan', ?_⟩
        obtain ⟨place, deadline, stage⟩ := scan
        obtain ⟨place', deadline', stage'⟩ := scan'
        dsimp only at hcase
        obtain ⟨-, rfl⟩ | ⟨hnext, -⟩ := hcase
        · cases stage' <;> exact hengaged
        · cases hnext with
          | stay => cases stage <;> exact hengaged
          | ask | leave => cases hengaged
          | _ => rfl
    | preload p =>
        obtain ⟨p', hp'⟩ := task?_preloadTurn (w := w.beginTurn (.task id)) ht
        refine ⟨.preload p', ?_, rfl⟩
        rw [happen_turn, turn, show (w.beginTurn (.task id)).task? id = _ from ht]
        exact hp'
    | checkout c => cases hengaged
  · exact ⟨t, task?_happen_of_ne he ht, hengaged⟩

/-- As long as a scan waits for the pool, it has had no session. -/
theorem seat?_eq_none_of_isAsking {events : List Event}
    (hscan : (w.run events).task? id = some (.scan scan)) (hasking : scan.stage.isAsking = true) :
    w.seat? id = none := by
  cases hseat : w.seat? id with
  | none => rfl
  | some σ =>
      have hengaged : ∃ t, (w.run events).task? id = some t ∧ t.isEngaged = true :=
        run_induction (P := fun w => ∃ t, w.task? id = some t ∧ t.isEngaged = true)
          (fun _ e h => isEngaged_happen h.choose_spec.1 h.choose_spec.2 e)
          (isEngaged_of_seat? hseat) events
      obtain ⟨t, ht, hengaged⟩ := hengaged
      cases ht.symm.trans hscan
      obtain ⟨place, deadline, stage⟩ := scan
      cases stage with
      | checkout | leaving => cases hengaged
      | planned | working | finished => cases hasking

/-- A task without a session makes no request. -/
theorem task_ne_of_seat? (hseat : w.seat? id = none) {x : Entry} (hx : x ∈ w.entriesIn e) :
    x.request.task ≠ id := by
  rintro rfl
  obtain rfl := task_of_mem_entriesIn hx
  rw [(silent_of_seat? hseat).entries] at hx
  cases hx

/-- A task that never has a session makes no request. -/
theorem task_ne_of_transcript {events : List Event}
    (hseat : ∀ xs, xs <+: events → (w.run xs).seat? id = none) :
    ∀ x ∈ w.transcript events, x.request.task ≠ id := by
  intro x hx
  obtain ⟨xs, e, ys, rfl, hentry⟩ := mem_transcript hx
  exact task_ne_of_seat? (hseat xs (List.prefix_append ..)) hentry

/-! ## Without another proxy -/

/-- A scan that waits for the pool gets what has been handed to it. -/
theorem exists_acquire (hscan : w.task? id = some (.scan scan))
    (hasking : scan.stage.isAsking = true) (hhanded : w.pool.handed.lookup id = some s) :
    ∃ pool, w.happen (.turn (.task id)) =
      World.acquire id scan s { w.beginTurn (.task id) with pool } := by
  have hcollect (pool : Pool Session) (hpool : pool.handed = w.pool.handed) :
      ∃ pool', pool.collect? id = some (s, pool') := by
    rw [← hpool, ← Keyed.find?_map_snd, Option.map_eq_some_iff] at hhanded
    obtain ⟨⟨ticket, s'⟩, hfind, rfl⟩ := hhanded
    rw [Pool.collect?, hfind]
    exact ⟨_, rfl⟩
  obtain ⟨place, deadline, stage⟩ := scan
  rw [happen_turn, turn_scan (w := w.beginTurn (.task id)) hscan, scanTurn]
  cases stage with
  | checkout until_ =>
      obtain ⟨pool, hpool⟩ := hcollect w.pool rfl
      rw [show (w.beginTurn (.task id)).pool.collect? id = _ from hpool]
      exact ⟨pool, rfl⟩
  | leaving =>
      obtain ⟨pool, hpool⟩ := hcollect (w.pool.release id) rfl
      have hleave : (w.beginTurn (.task id)).pool.leave id = (some s, pool) := by
        change w.pool.leave id = _
        rw [Pool.leave, hpool]
      dsimp only
      rw [hleave]
      exact ⟨pool, rfl⟩
  | planned | working | finished => cases hasking

/-- If its proxy is dead and no other is free, the session is dropped. -/
theorem acquire_of_dead (hfaultless : w.store.Faultless) (halive : s.proxy.dead = false)
    (hdead : w.store.inventory.isProxyDead s.proxy.id = true)
    (hnone : ∀ p ∈ w.store.inventory.proxies, p.isFree = false) :
    w.acquire id scan s = ((w.tellStore (·.saveProxy s.proxy.die)).evict
      (s.bind s.proxy.die)).finishScan id scan (.error .busy) := by
  have hsaved := Store.inventory_saveProxy hfaultless s.proxy.die
  have hrefreshed : w.refreshProxy s = (s.bind s.proxy.die, w) := by
    rw [refreshProxy, halive, if_neg Bool.false_ne_true, Store.isProxyDead_eq hfaultless, hdead]
  have hswapped : w.swapProxy (s.bind s.proxy.die) =
      (false, s.bind s.proxy.die, w.tellStore (·.saveProxy s.proxy.die)) := by
    have hclaim : (w.store.saveProxy s.proxy.die).2.inventory.claimProxy? = none := by
      rw [hsaved]
      exact Inventory.claimProxy?_eq_none (Inventory.isFree_saveProxy? hnone rfl)
    have hrefused : (w.store.saveProxy s.proxy.die).2.claimProxy =
        (.error .noProxyAvailable, (w.store.saveProxy s.proxy.die).2) := by
      rw [Store.claimProxy, Store.claim_eq (hfaultless.saveProxy _), hclaim]
    have hmarked : w.markProxyDead (s.bind s.proxy.die) =
        (s.bind s.proxy.die, w.tellStore (·.saveProxy s.proxy.die)) := rfl
    rw [swapProxy, hmarked]
    dsimp only
    rw [show (w.tellStore (·.saveProxy s.proxy.die)).store.claimProxy = _ from hrefused]
    rfl
  have hgone : (s.bind s.proxy.die).proxy.dead = true := rfl
  rw [acquire, hrefreshed]
  dsimp only
  rw [if_pos hgone, hswapped]

/-- The account of a session that is dropped with its proxy dead is released. -/
theorem account?_evict (hfaultless : w.store.Faultless) (huseful : s.account.isUnusable = false)
    (hdead : s.proxy.dead = true) :
    (w.evict s).store.inventory.account? s.username =
      (w.store.inventory.account? s.username).map fun a => { a with used := false } := by
  rw [evict, huseful, hdead, if_neg Bool.false_ne_true, if_pos rfl]
  change (w.store.releaseAccount s.username).2.inventory.account? s.username = _
  rw [Store.inventory_releaseAccount hfaultless, Inventory.account?_releaseAccount?]

/-- Then the scan has come to its end, and the account is released. -/
theorem turnedAway_acquire (scan : Scan) (hid : (w.task? id).isSome)
    (hfaultless : w.store.Faultless) (huseful : s.isSpent = false)
    (hdead : w.store.inventory.isProxyDead s.proxy.id = true)
    (hnone : ∀ p ∈ w.store.inventory.proxies, p.isFree = false) :
    (w.acquire id scan s).task? id =
        some (.scan { scan with stage := .finished (.error .busy) w.now }) ∧
      (w.acquire id scan s).store.inventory.account? s.username =
        (w.store.inventory.account? s.username).map fun a => { a with used := false } := by
  obtain ⟨huseful, halive⟩ := Bool.or_eq_false_iff.mp huseful
  rw [acquire_of_dead hfaultless halive hdead hnone]
  have hframe : w.Frame ((w.tellStore (·.saveProxy s.proxy.die)).evict (s.bind s.proxy.die)) :=
    (Frame.tellStore fun h => h.saveProxy s.proxy.die).trans (Frame.evict _)
  constructor
  · rw [← task?_congr hframe.tasks] at hid
    rw [← hframe.now]
    exact task?_finishScan hid _
  · have hreleased := account?_evict (w := w.tellStore (·.saveProxy s.proxy.die))
      (s := s.bind s.proxy.die) (hfaultless.saveProxy _) huseful rfl
    have hsaved := Store.inventory_saveProxy hfaultless s.proxy.die
    change _ = ((w.store.saveProxy s.proxy.die).2.inventory.account? s.username).map _ at hreleased
    rw [hsaved, Inventory.account?_saveProxy?] at hreleased
    exact hreleased

/-- A scan that has come to its end remains as it is. -/
theorem task?_happen_of_finished {result : Except ScanError (List MapObject)} {at_ : Nat}
    (hscan : w.task? id = some (.scan scan)) (hstage : scan.stage = .finished result at_)
    (e : Event) : (w.happen e).task? id = some (.scan scan) := by
  by_cases he : e = .turn (.task id)
  · subst he
    rw [happen_turn, turn_scan (w := w.beginTurn (.task id)) hscan, scanTurn, hstage]
    exact hscan
  · exact task?_happen_of_ne he hscan

/-- A scan that is over stays as it is. -/
theorem task?_run_of_finished {result : Except ScanError (List MapObject)} {at_ : Nat}
    (hscan : w.task? id = some (.scan scan)) (hstage : scan.stage = .finished result at_)
    (events : List Event) : (w.run events).task? id = some (.scan scan) :=
  run_induction (P := fun w => w.task? id = some (.scan scan))
    (fun _ e h => task?_happen_of_finished h hstage e) hscan events

/-- What becomes of a scan that gets the session `s` in the turn after `before`, if the proxy of the
session is dead and no other is free. -/
structure TurnedAway (w : World) (id : Nat) (s : Session) (before after : List Event) : Prop where
  busy : ∃ scan, (w.run (before ++ .turn (.task id) :: after)).task? id = some (.scan scan) ∧
    scan.stage = .finished (.error .busy) (w.run before).now
  /-- No login and no map call. -/
  silent : ∀ x ∈ w.transcript (before ++ .turn (.task id) :: after), x.request.task ≠ id
  /-- Nor any other operation, in any turn of the scan. -/
  unasked : ∀ xs ys, before ++ .turn (.task id) :: after = xs ++ .turn (.task id) :: ys →
    (w.run xs).Unasked ((w.run xs).happen (.turn (.task id)))
  useful : s.account.isUnusable = false
  released : ((w.run before).happen (.turn (.task id))).store.inventory.account? s.username =
    ((w.run before).store.inventory.account? s.username).map fun a => { a with used := false }

/-- Sessions that have been handed over are of use. -/
theorem Sound.useful_of_handed (h : w.Sound) (hhanded : w.pool.handed.lookup id = some s) :
    s.isSpent = false := by
  apply h.useful
  apply List.mem_append_left
  apply List.mem_append_right
  apply List.mem_append_right
  apply List.mem_append_right
  exact List.mem_map_of_mem (Keyed.mem_of_lookup hhanded)

/-! ## Runs -/

namespace ProxiesApart

/-- What has been recorded as dead is dead ever after. -/
theorem not_recordsLive_append (h : w.ProxiesApart known) {xs ys : List Event}
    (hids : (known ++ addedProxies (xs ++ ys)).Nodup) (hdead : (w.run xs).RecordsDead k) :
    k ∈ known ++ addedProxies (xs ++ ys) ∧ ¬ (w.run (xs ++ ys)).RecordsLive k := by
  rw [addedProxies_append, ← List.append_assoc] at hids ⊢
  have hlater := h.run xs (List.nodup_append.mp hids).1
  obtain ⟨hk, hgone⟩ := hlater.not_recordsLive hdead
  rw [run_append]
  exact ⟨List.mem_append_left _ hk, hlater.not_recordsLive_run ys hids hk hgone⟩

/-- A task that has had no session so far makes no request through a proxy that is dead when it
comes to one. -/
theorem proxy_ne_transcript (h : w.ProxiesApart known) {before after : List Event}
    (hids : (known ++ addedProxies (before ++ [e] ++ after)).Nodup)
    (hunseated : ∀ xs, xs <+: before → (w.run xs).seat? r.task = none)
    (hk : k ∈ known ++ addedProxies (before ++ [e]))
    (hdead : ¬ (w.run (before ++ [e])).RecordsLive k)
    (hr : .sent r ∈ w.transcript (before ++ [e] ++ after)) : r.proxy ≠ k := by
  have hseat := hunseated before (List.prefix_refl _)
  have hbegins : before <+: before ++ [e] ++ after :=
    (List.prefix_append ..).trans (List.prefix_append ..)
  have hbefore := h.run before (nodup_addedProxies hids hbegins)
  have hlater := h.run (before ++ [e]) (nodup_addedProxies hids (List.prefix_append ..))
  rw [run_append] at hdead
  have hshuns : (w.run (before ++ [e])).Shuns r.task k := by
    rw [run_append]
    exact hbefore.shuns_of_seat? hseat hdead
  rw [addedProxies_append, ← List.append_assoc] at hids
  rw [transcript_append, transcript_append] at hr
  rcases List.mem_append.mp hr with hr | hr
  · rcases List.mem_append.mp hr with hr | hr
    · exact absurd rfl (task_ne_of_transcript hunseated _ hr)
    · obtain hr | hr := List.mem_append.mp hr
      · exact absurd rfl (task_ne_of_seat? hseat hr)
      · cases hr
  · exact hlater.proxy_ne_run after hids hk hshuns hr

end ProxiesApart

/-- A scan that has come to its end without a session never has one. -/
theorem seat?_eq_none_of_finished {before after xs : List Event}
    {result : Except ScanError (List MapObject)} {at_ : Nat}
    (hunseated : ∀ xs, xs <+: before → (w.run xs).seat? id = none)
    (hscan : (w.run (before ++ [e])).task? id = some (.scan scan))
    (hstage : scan.stage = .finished result at_) (hxs : xs <+: before ++ [e] ++ after) :
    (w.run xs).seat? id = none := by
  have hlast (ys : List Event) : (w.run (before ++ [e] ++ ys)).seat? id = none := by
    have hkept := task?_run_of_finished hscan hstage ys
    obtain ⟨place, deadline, stage⟩ := scan
    obtain rfl := hstage
    rw [run_append]
    exact seat?_of_scan hkept
  rcases List.prefix_or_prefix_of_prefix hxs (List.prefix_append ..) with hxs | ⟨ys, rfl⟩
  · rcases List.prefix_concat_iff.mp hxs with rfl | hxs
    · simpa using hlast []
    · exact hunseated xs hxs
  · exact hlast ys

/-- In none of its turns does a task that never has a session ask for anything. -/
theorem ProxiesApart.unasked (h : w.ProxiesApart known) {events xs ys : List Event}
    (hids : (known ++ addedProxies events).Nodup)
    (hunseated : ∀ xs, xs <+: events → (w.run xs).seat? id = none)
    (hxs : events = xs ++ .turn (.task id) :: ys) :
    (w.run xs).Unasked ((w.run xs).happen (.turn (.task id))) := by
  have hbegins : xs <+: events := ⟨_, hxs.symm⟩
  have hfaultless := (h.run xs (nodup_addedProxies hids hbegins)).sound.faultless
  cases opens_happen hfaultless (hunseated xs hbegins) with
  | unseated _ hunasked => exact hunasked
  | seated hseat =>
      have hnone := hunseated (xs ++ [.turn (.task id)]) ⟨ys, by rw [hxs, ← List.append_cons]⟩
      rw [run_append] at hnone
      cases hseat.symm.trans hnone

/-- A scan is asking for a session, and `e` happens.  Through a proxy that has been recorded as dead
by then the scan never makes a request.  If what it gets from the pool in `e` is a session whose
proxy is dead, and no other proxy is free, it is turned away. -/
theorem starts_alive (hw : w.ProxiesApart known) {before after : List Event}
    (hids : (known ++ addedProxies (before ++ e :: after)).Nodup)
    (hscan : (w.run before).task? id = some (.scan scan)) (hasking : scan.stage.isAsking = true) :
    (∀ k earlier, earlier <+: before ++ [e] → (w.run earlier).RecordsDead k →
      ∀ r, .sent r ∈ w.transcript (before ++ e :: after) → r.task = id → r.proxy ≠ k) ∧
    (∀ s, e = .turn (.task id) → (w.run before).pool.handed.lookup id = some s →
      (w.run before).store.inventory.isProxyDead s.proxy.id = true →
      (∀ p ∈ (w.run before).store.inventory.proxies, p.isFree = false) →
      w.TurnedAway id s before after) := by
  have hsplit : before ++ e :: after = before ++ [e] ++ after := List.append_cons ..
  have hunseated (xs : List Event) (hxs : xs <+: before) : (w.run xs).seat? id = none := by
    obtain ⟨ys, rfl⟩ := hxs
    rw [run_append] at hscan
    exact seat?_eq_none_of_isAsking hscan hasking
  constructor
  · rintro k earlier ⟨rest, hrest⟩ hdead r hr rfl
    rw [hsplit] at hids hr
    have hhappened := nodup_addedProxies hids (List.prefix_append ..)
    rw [← hrest] at hhappened
    obtain ⟨hk, hgone⟩ := hw.not_recordsLive_append hhappened hdead
    rw [hrest] at hk hgone
    exact hw.proxy_ne_transcript hids hunseated hk hgone hr
  · rintro s rfl hhanded hdead hnone
    have hbefore := hw.run before (nodup_addedProxies hids (List.prefix_append ..))
    have huseful := hbefore.sound.useful_of_handed hhanded
    obtain ⟨pool, hturn⟩ := exists_acquire hscan hasking hhanded
    obtain ⟨htask, hreleased⟩ := turnedAway_acquire scan
      (w := { (w.run before).beginTurn (.task id) with pool }) (isSome_lookup hscan)
      hbefore.sound.faultless huseful hdead hnone
    rw [← hturn] at htask hreleased
    have htask' : (w.run (before ++ [.turn (.task id)])).task? id =
        some (.scan { scan with stage := .finished (.error .busy) (w.run before).now }) := by
      rw [run_append]
      exact htask
    have hnever (xs : List Event) (hxs : xs <+: before ++ .turn (.task id) :: after) :
        (w.run xs).seat? id = none :=
      seat?_eq_none_of_finished hunseated htask' rfl (hsplit ▸ hxs)
    have hbusy : (w.run (before ++ .turn (.task id) :: after)).task? id =
        some (.scan { scan with stage := .finished (.error .busy) (w.run before).now }) := by
      rw [hsplit, run_append]
      exact task?_run_of_finished htask' rfl after
    exact ⟨⟨_, hbusy, rfl⟩, task_ne_of_transcript hnever, fun _ _ => hw.unasked hids hnever,
      (Bool.or_eq_false_iff.mp huseful).1, hreleased⟩

def twoProxies : World where
  config := { cooldown := 0, loginInterval := 0, callInterval := 0 }
  store := { inventory := {
    accounts := [{ username := "ann", password := "pw", provider := "ptc" }]
    proxies := [{ id := 1 }, { id := 2 }] } }
  supply := .scripts [.scripted true [{}] [{}]]

/-- A preload puts a session on the first proxy into the pool, and a scan asks for it.  Before the
scan has its turn, one proxy or both are lost, and the inventory is swept. -/
def lostMeanwhile (lost : List ProxyId) : List Event :=
  .preload 1 :: List.replicate 4 (.turn (.task 0)) ++ [.scan default 0, .turn (.task 1)] ++
    List.replicate 6 (.turn .pool) ++ lost.map .loseProxy ++ [.sweep]

theorem idle_twoProxies : twoProxies.Idle := ⟨fun _ => rfl, rfl, rfl⟩

/-- If the first proxy is lost, the scan makes its request through the second one.  If both are
lost, it makes none. -/
theorem starts_alive_lostMeanwhile :
    (∃ r, .sent r ∈ twoProxies.transcript
      (lostMeanwhile [1] ++ List.replicate 2 (.turn (.task 1))) ∧ r.task = 1 ∧ r.proxy ≠ 1) ∧
    ∃ s, (twoProxies.run (lostMeanwhile [1, 2])).pool.handed.lookup 1 = some s ∧
      s.proxy.id = 1 ∧ twoProxies.TurnedAway 1 s (lostMeanwhile [1, 2]) [] := by
  have hapart : twoProxies.ProxiesApart [1, 2] := idle_twoProxies.proxiesApart (by decide)
  constructor
  · have hdead : (twoProxies.run (lostMeanwhile [1]).dropLast).RecordsDead 1 :=
      ⟨{ id := 1, dead := true }, by decide +kernel, rfl, rfl⟩
    have hr : .sent { loginThrough 1 (.scan .first) 2 15000 with kind := .map } ∈
        twoProxies.transcript (lostMeanwhile [1] ++ .turn (.task 1) :: [.turn (.task 1)]) := by
      decide +kernel
    have hearlier : (lostMeanwhile [1]).dropLast <+: lostMeanwhile [1] := List.dropLast_prefix _
    have halive := (starts_alive hapart (by decide) rfl rfl).1 1 (lostMeanwhile [1]).dropLast
      (hearlier.trans (List.prefix_append ..)) hdead _ hr rfl
    exact ⟨_, hr, rfl, halive⟩
  · have hids : ([1, 2] ++
        addedProxies (lostMeanwhile [1, 2] ++ Event.turn (.task 1) :: [])).Nodup := by
      decide
    have hdead : (twoProxies.run (lostMeanwhile [1, 2])).store.inventory.isProxyDead 1 = true := by
      decide +kernel
    have hnone : ∀ p ∈ (twoProxies.run (lostMeanwhile [1, 2])).store.inventory.proxies,
        p.isFree = false := by
      decide +kernel
    exact ⟨_, rfl, rfl, (starts_alive hapart hids rfl rfl).2 _ rfl rfl hdead hnone⟩

end World

end MapScout
