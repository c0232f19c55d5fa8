import MapScout.Proofs.Dispatch.Holding

/-!
# Nothing claimed is lost

Scans and preloads claim accounts and proxies, pass them on through the pool and release them.
Between two turns every account and every proxy that is still of use is claimed exactly if one
session holds it, whatever the clients answer, whichever task goes on, and whichever proxies die
meanwhile.
-/

namespace MapScout.World

variable {w w' w₀ : World} {known : List ProxyId} {lost : List Session} {id : Nat}
variable {hand : List Session} {s : Session} {t t₀ : Task} {scan : Scan} {c : Custody}

/-- The state of the world between two turns. -/
structure Steady (w : World) : Prop where
  attentive : w.Attentive
  faultless : w.store.Faultless
  not_checkout : ∀ i t, w.task? i = some t → t.isCheckout = false

/-- Since the custody was `c` nothing has been lost, and now the world is between two turns. -/
structure SettledSince (w : World) (c : Custody) : Prop where
  steady : w.Steady
  path : c.Path w.custody

/-- The state of the world between two turns, in which `known` are the numbers that proxies ever
had, and `lost` are the sessions that are nowhere any more. -/
structure Settled (w : World) (known : List ProxyId) (lost : List Session) : Prop extends
    Steady w where
  covers : w.store.inventory.Covers known (lost ++ (w.pooled ++ ownedBy w.tasks))

/-! ## The beginning of a turn -/

/-- The sessions owned by tasks are that of one task and those of the others. -/
theorem perm_ownedBy {tasks : List (Nat × Task)} (hnodup : (tasks.map (·.1)).Nodup)
    (ht : tasks.lookup id = some t) :
    (ownedBy tasks).Perm (t.session?.toList ++ ownedBy (Keyed.others id tasks)) := by
  apply ((Keyed.perm_others hnodup ht).filterMap _).trans
  cases hsession : t.session? <;> simp [ownedBy, hsession]

theorem perm_ownedBy_set {tasks : List (Nat × Task)} (hnodup : (tasks.map (·.1)).Nodup)
    (ht₀ : tasks.lookup id = some t₀) (t : Task) :
    (ownedBy (tasks.map fun (i, u) => if i = id then (i, t) else (i, u))).Perm
      (t.session?.toList ++ ownedBy (Keyed.others id tasks)) := by
  refine ((Keyed.map_perm_others hnodup ht₀ fun _ => t).filterMap _).trans ?_
  cases hsession : t.session? <;> simp [ownedBy, hsession]

namespace Steady

/-- Nothing has happened to the tasks. -/
theorem same (h : w.Steady) (hattends : w'.Attends w.IsAsking) (htasks : w'.tasks = w.tasks)
    (hfaultless : w'.store.Faultless) : w'.Steady := by
  have htask (i : Nat) : w'.task? i = w.task? i := task?_congr htasks i
  refine ⟨hattends.congr fun i => (isAsking_congr (htask i)).symm, hfaultless, ?_⟩
  intro i t ht
  exact h.not_checkout i t ((htask i).symm.trans ht)

/-- Nor has any session come or gone. -/
theorem shuffle (h : w.Steady) (hattends : w'.Attends w.IsAsking) (htasks : w'.tasks = w.tasks)
    (hstore : w'.store = w.store) (hboard : w'.board = w.board)
    (hpooled : w'.pooled.Perm w.pooled) : w'.SettledSince w.custody := by
  refine ⟨h.same hattends htasks (hstore ▸ h.faultless), .single ?_⟩
  rw [custody, custody, custodyOf, custodyOf, hstore, hboard, htasks]
  exact .shuffle (hpooled.append_right _)

/-- A task that waits for nobody's session takes its own in hand. -/
theorem take (h : w₀.Steady) (ht : w₀.task? id = some t) (hasking : t.isAsking = false) :
    Holds w₀ id t.session?.toList w₀ := by
  refine ⟨h.attentive.except (not_isAsking ht hasking), rfl, h.faultless, .single (.shuffle ?_)⟩
  have howned := (perm_ownedBy h.attentive.tasks_nodup ht).append_left w₀.pooled
  refine List.Perm.trans ?_ howned.symm
  rw [← List.append_assoc, ← List.append_assoc]
  exact List.perm_append_comm.append_right _

/-- A task that waits for a session takes what was handed over to it, if anything was. -/
theorem receive (h : w₀.Steady) (ht : w₀.task? id = some t) (hsession : t.session? = none)
    {pool : Pool Session} {held : List Nat} {handed : List (Nat × Session)}
    (hpool : pool = { w₀.pool with held, handed })
    (hattends : World.Attends { w₀ with pool } fun i => w₀.IsAsking i ∧ i ≠ id)
    (hhanded : w₀.pool.handed.Perm (hand.map (id, ·) ++ pool.handed)) :
    Holds w₀ id hand { w₀ with pool } := by
  have hsessions : (w₀.pool.handed.map (·.2)).Perm (hand ++ pool.handed.map (·.2)) := by
    refine (hhanded.map (·.2)).trans (List.Perm.of_eq ?_)
    rw [List.map_append, List.map_map]
    exact congrArg (· ++ _) (List.map_id hand)
  have hpooled : w₀.pooled.Perm (hand ++ World.pooled { w₀ with pool }) := by
    rw [hpool] at hsessions ⊢
    exact perm_pooled hsessions
  have howned : (ownedBy w₀.tasks).Perm (ownedBy (Keyed.others id w₀.tasks)) := by
    apply (perm_ownedBy h.attentive.tasks_nodup ht).trans
    rw [hsession]
    exact List.Perm.refl _
  refine ⟨hattends, rfl, h.faultless, .single (.shuffle ?_)⟩
  rw [← List.append_assoc]
  exact (hpooled.append howned).symm

end Steady

/-! ## The end of a turn -/

section Endings

variable (h₀ : w₀.Steady) (ht₀ : w₀.task? id = some t₀)

include h₀

/-- A task is left with the session that it has in hand. -/
theorem Steady.of_owned (hattentive : w'.Attentive) (hfaultless : w'.store.Faultless)
    (hspares : Spares w₀.tasks id w') (ht : w'.task? id = some t) (hcheckout : t.isCheckout = false)
    (howned : (ownedBy w'.tasks).Perm (t.session?.toList ++ ownedBy (Keyed.others id w₀.tasks)))
    (hpath : w₀.custody.Path (w'.custodyOf
      (t.session?.toList ++ (w'.pooled ++ ownedBy (Keyed.others id w₀.tasks))))) :
    w'.SettledSince w₀.custody := by
  refine ⟨⟨hattentive, hfaultless, ?_⟩, hpath.tail (.shuffle ?_)⟩
  · intro i t' ht'
    by_cases hi : i = id
    · subst hi
      cases ht.symm.trans ht'
      exact hcheckout
    · exact h₀.not_checkout i t' ((hspares i hi).symm.trans ht')
  · apply (howned.append_left _).trans
    exact List.perm_append_comm_assoc ..

include ht₀

/-- The turn has come to nothing. -/
theorem Holds.stay (h : Holds w₀ id t₀.session?.toList w) (hasking : t₀.isAsking = false) :
    w.SettledSince w₀.custody := by
  have ht : w.task? id = some t₀ := (task?_congr h.tasks id).trans ht₀
  have hspares : Spares w₀.tasks id w := spares_of_tasks h.tasks
  refine h₀.of_owned (h.attends.settle hspares ht hasking) h.faultless hspares ht ?_ ?_ h.path
  · exact h₀.not_checkout id t₀ ht₀
  · rw [h.tasks]
    exact perm_ownedBy h₀.attentive.tasks_nodup ht₀

/-- The task goes on in another stage. -/
theorem Holds.proceed (h : Holds w₀ id hand w) (hsession : t.session?.toList = hand)
    (hasking : t.isAsking = false) (hcheckout : t.isCheckout = false) :
    (w.proceed id t).SettledSince w₀.custody := by
  have ht : (w.proceed id t).task? id = some t :=
    task?_setTask t (by rw [task?_congr h.tasks, ht₀]; rfl)
  have hspares : Spares w₀.tasks id (w.proceed id t) := spares_proceed h.tasks t
  have howned : (ownedBy (w.setTask id t).tasks).Perm
      (t.session?.toList ++ ownedBy (Keyed.others id w₀.tasks)) := by
    rw [setTask, h.tasks]
    exact perm_ownedBy_set h₀.attentive.tasks_nodup ht₀ t
  have hattentive := (h.attends.proceed t).settle hspares ht hasking
  refine h₀.of_owned hattentive h.faultless hspares ht hcheckout howned ?_
  rw [hsession]
  exact h.path

/-- The task ends with nothing in its hand. -/
theorem Holds.finish (h : Holds w₀ id [] w) (hsession : t.session? = none)
    (hasking : t.isAsking = false) (hcheckout : t.isCheckout = false) :
    (w.finish id t).SettledSince w₀.custody := by
  have hid : ¬ (w₀.IsAsking id ∧ id ≠ id) := fun hne => hne.2 rfl
  have ht : (w.finish id t).task? id = some t :=
    task?_setTask t (by rw [task?_congr h.tasks, ht₀]; rfl)
  have hspares : Spares w₀.tasks id (w.finish id t) := spares_finish h.tasks t
  have howned : (ownedBy (w.setTask id t).tasks).Perm
      (t.session?.toList ++ ownedBy (Keyed.others id w₀.tasks)) := by
    rw [setTask, h.tasks]
    exact perm_ownedBy_set h₀.attentive.tasks_nodup ht₀ t
  refine h₀.of_owned ((h.attends.finish hid t).settle hspares ht hasking) h.faultless hspares ht
    hcheckout howned ?_
  rw [hsession]
  exact h.path

/-- The task has asked the pool for a session, or is about to give up. -/
theorem Steady.ask (hsession₀ : t₀.session? = none) (hsession : t.session? = none)
    (hasking : t.isAsking = true) (hcheckout : t.isCheckout = false)
    (hattends : w.Attends fun i => w₀.IsAsking i ∨ i = id) (htasks : w.tasks = w₀.tasks)
    (hstore : w.store = w₀.store) (hboard : w.board = w₀.board) (hpooled : w.pooled = w₀.pooled) :
    (w.proceed id t).SettledSince w₀.custody := by
  have ht : (w.proceed id t).task? id = some t :=
    task?_setTask t (by rw [task?_congr htasks, ht₀]; rfl)
  have hspares : Spares w₀.tasks id (w.proceed id t) := spares_proceed htasks t
  have howned₀ := perm_ownedBy h₀.attentive.tasks_nodup ht₀
  have howned : (ownedBy (w.setTask id t).tasks).Perm
      (t.session?.toList ++ ownedBy (Keyed.others id w₀.tasks)) := by
    rw [setTask, htasks]
    exact perm_ownedBy_set h₀.attentive.tasks_nodup ht₀ t
  have hattentive := (hattends.proceed t).settle_asking hspares ht hasking
  rw [hsession₀] at howned₀
  refine h₀.of_owned hattentive ?_ hspares ht hcheckout howned (.single ?_)
  · change w.store.Faultless
    rw [hstore]
    exact h₀.faultless
  · change Custody.Step _ (w.custodyOf (t.session?.toList ++ (w.pooled ++ _)))
    rw [hsession, custody, custodyOf, custodyOf, hstore, hboard, hpooled]
    exact .shuffle (howned₀.symm.append_left w₀.pooled)

/-! ## Scans -/

omit h₀ ht₀ in
/-- A failure of a scan may concern the client of its session, but not its account or its proxy. -/
theorem scanError_keeps (s : Session) (e : ClientError) :
    (scanError s e).2.account = s.account ∧ (scanError s e).2.proxy = s.proxy := by
  unfold scanError
  split <;> exact ⟨rfl, rfl⟩

theorem settled_finishScan (h : Holds w₀ id [] w)
    (result : Except ScanError (List MapObject)) : (w.finishScan id scan result).SettledSince w₀.custody :=
  Holds.finish h₀ ht₀ (h.quiet (Quiet.count (by split <;> rfl))) rfl rfl rfl

/-- A scan that ends parts with its session. -/
theorem settled_conclude (h : Holds w₀ id [s] w) (result : Except ScanError MapPayload) :
    (w.conclude id scan s result).SettledSince w₀.custody := by
  rw [conclude]
  refine settled_finishScan h₀ ht₀ (Holds.disposeOf ?_) _
  split
  · exact h.quiet (Quiet.addObjects _)
  · exact h

theorem settled_concludeAttempt (h : Holds w₀ id [s] w)
    (outcome : Except Failure MapPayload) :
    (w.concludeAttempt id scan s outcome).SettledSince w₀.custody := by
  unfold concludeAttempt
  split
  · exact settled_conclude h₀ ht₀ h _
  · split
    · exact settled_conclude h₀ ht₀ h _
    · rename_i e
      split
      · exact settled_conclude h₀ ht₀ h _
      · obtain ⟨haccount, hproxy⟩ := scanError_keeps s e
        exact settled_conclude h₀ ht₀ (h.swap haccount hproxy) _

theorem settled_work (h : Holds w₀ id [s] w) (attempt : Attempt) (wait : ScanWait) :
    (w.work id scan s attempt wait).SettledSince w₀.custody :=
  Holds.proceed h₀ ht₀ h rfl rfl rfl

theorem settled_lineUpForCall (h : Holds w₀ id [s] w) (attempt : Attempt) :
    (w.lineUpForCall id scan s attempt).SettledSince w₀.custody :=
  settled_work h₀ ht₀ (h.quiet (.stirs (.enterGate ..))) ..

theorem settled_beginAttempt (h : Holds w₀ id [s] w) (attempt : Attempt) :
    (w.beginAttempt id scan s attempt).SettledSince w₀.custody := by
  rw [beginAttempt]
  split
  · exact settled_lineUpForCall h₀ ht₀ h _
  · exact settled_work h₀ ht₀ (h.quiet (.stirs (.enterGate ..))) ..

theorem settled_afterAttempts (h : Holds w₀ id [s] w) (outcome : Except Failure MapPayload) :
    (w.afterAttempts id scan s outcome).SettledSince w₀.custody := by
  unfold afterAttempts
  split
  · rename_i e
    dsimp only
    split
    · exact settled_lineUpForCall h₀ ht₀ (h.classify e) _
    · exact settled_concludeAttempt h₀ ht₀ (h.classify e) _
  · exact settled_concludeAttempt h₀ ht₀ h _

/-- However an attempt ends, the session is at work in the next one or parted with. -/
theorem settled_afterAttempt (h : Holds w₀ id [s] w) (attempt : Attempt)
    (outcome : Except Failure MapPayload) :
    (w.afterAttempt id scan s attempt outcome).SettledSince w₀.custody := by
  have hswapped := h.swapProxy
  unfold afterAttempt
  cases attempt with
  | first =>
      dsimp only
      split
      · rw [if_pos rfl]
        split
        · exact settled_conclude h₀ ht₀ h.markProxyDead _
        · split
          · rename_i s' w' hswap
            rw [hswap] at hswapped
            exact settled_beginAttempt h₀ ht₀ hswapped _
          · rename_i s' w' hswap
            rw [hswap] at hswapped
            exact settled_conclude h₀ ht₀ hswapped _
      · rw [if_neg Bool.false_ne_true]
        exact settled_afterAttempts h₀ ht₀ h _
  | swapped =>
      dsimp only
      split
      · exact settled_afterAttempts h₀ ht₀ h.markProxyDead _
      · exact settled_afterAttempts h₀ ht₀ h _
  | repeated =>
      dsimp only
      split
      · split
        · exact settled_concludeAttempt h₀ ht₀ (h.markProxyDead.classify _) _
        · exact settled_concludeAttempt h₀ ht₀ (h.classify _) _
      · exact settled_concludeAttempt h₀ ht₀ h _

theorem settled_beginWork (h : Holds w₀ id [s] w) : (w.beginWork id scan s).SettledSince w₀.custody :=
  settled_beginAttempt h₀ ht₀ (h.quiet (.stirs (.record ..))) _

/-- A session from the pool is at work, or has been dropped because there is no proxy for it. -/
theorem settled_acquire (h : Holds w₀ id [s] w) : (w.acquire id scan s).SettledSince w₀.custody := by
  have hrefreshed := h.refreshProxy
  have hswapped := hrefreshed.swapProxy
  rw [acquire]
  dsimp only
  split
  · split
    · rename_i s' w' hswap
      rw [hswap] at hswapped
      exact settled_beginWork h₀ ht₀ hswapped
    · rename_i s' w' hswap
      rw [hswap] at hswapped
      exact settled_finishScan h₀ ht₀ hswapped.evict _
  · exact settled_beginWork h₀ ht₀ hrefreshed

/-- A scan that gets nothing from the pool builds its session, if it can. -/
theorem settled_acquireNew (h : Holds w₀ id [] w) : (w.acquireNew id scan).SettledSince w₀.custody := by
  have hprovisioned := h.provision
  rw [acquireNew]
  split
  · rename_i s w' hprovision
    rw [hprovision] at hprovisioned
    exact settled_beginWork h₀ ht₀ hprovisioned
  · rename_i e w' hprovision
    rw [hprovision] at hprovisioned
    exact settled_finishScan h₀ ht₀ hprovisioned _

/-- A turn of a scan that holds a session loses nothing. -/
theorem settled_workTurn {attempt : Attempt} {wait : ScanWait}
    (h : Holds w₀ id [s] w) (ht : t₀ = .scan scan)
    (hstage : scan.stage = .working s attempt wait) :
    (w.workTurn id scan s attempt wait).SettledSince w₀.custody := by
  have hstay {w' : World} (h' : Holds w₀ id [s] w') : w'.SettledSince w₀.custody := by
    subst ht
    obtain ⟨place, deadline, stage⟩ := scan
    obtain rfl : stage = _ := hstage
    exact Holds.stay h₀ ht₀ h' rfl
  unfold workTurn
  cases wait with
  | login wait =>
      have hlogged := h.loginTurn scan.deadline wait
      dsimp only
      split
      all_goals
        rename_i hlogin
        rw [hlogin] at hlogged
      · exact hstay hlogged
      · exact settled_work h₀ ht₀ hlogged ..
      · exact settled_lineUpForCall h₀ ht₀ hlogged _
      · exact settled_afterAttempt h₀ ht₀ hlogged ..
  | callToken =>
      dsimp only
      split
      · exact settled_work h₀ ht₀ (h.quiet (.stirs (.takeToken .call))).startMap ..
      · split
        · exact settled_afterAttempt h₀ ht₀ (h.quiet (.stirs (.leaveGate ..))) ..
        · exact hstay (h.quiet (.stirs (.awaitToken ..)))
  | call a due =>
      dsimp only
      split
      · exact settled_afterAttempt h₀ ht₀ (h.finishMap a) ..
      · split
        · exact settled_afterAttempt h₀ ht₀ h ..
        · exact hstay (h.quiet (.stirs ((Stirs.alarm ..).trans (.alarm ..))))

/-! ## Preloads -/

variable {p : Preload}

theorem settled_beginPreloadLogin (h : Holds w₀ id [s] w) (swapped : Bool) :
    (w.beginPreloadLogin id p s swapped).SettledSince w₀.custody :=
  Holds.proceed h₀ ht₀ (h.quiet (.stirs (.enterGate ..))) rfl rfl rfl

/-- A preloaded session goes into the pool or is dropped. -/
theorem settled_afterPreloadLogin (h : Holds w₀ id [s] w) (f : Option Failure) :
    (w.afterPreloadLogin id p s f).SettledSince w₀.custody := by
  have hends {s : Session} {w : World} (h : Holds w₀ id [s] w) : (if s.isSpent = true then
      (w.evict s).proceed id (.preload { p with stage := .next })
      else (w.sendToPool s).proceed id
        (.preload { p with queued := p.queued + 1, stage := .next })).SettledSince w₀.custody := by
    split
    · exact Holds.proceed h₀ ht₀ h.evict rfl rfl rfl
    · exact Holds.proceed h₀ ht₀ h.sendToPool rfl rfl rfl
  unfold afterPreloadLogin
  split
  rename_i s' w' hjudged
  split at hjudged
  · rename_i e
    have hclassified := h.classify e
    rw [hjudged] at hclassified
    exact hends hclassified
  · obtain ⟨rfl, rfl⟩ := Prod.mk.inj hjudged
    exact hends h

/-- A turn of a preload loses nothing. -/
theorem settled_preloadTurn (h : Holds w₀ id (Task.preload p).session?.toList w)
    (ht : t₀ = .preload p) : (w.preloadTurn id p).SettledSince w₀.custody := by
  subst ht
  obtain ⟨remaining, queued, stage⟩ := p
  rw [preloadTurn]
  cases stage with
  | next =>
      dsimp only
      split
      · exact Holds.finish h₀ ht₀ h rfl rfl rfl
      · have hprovisioned := Holds.provision h
        split
        · rename_i w' hprovision
          rw [hprovision] at hprovisioned
          exact Holds.finish h₀ ht₀ hprovisioned rfl rfl rfl
        · rename_i s w' hprovision
          rw [hprovision] at hprovisioned
          exact settled_beginPreloadLogin h₀ ht₀ hprovisioned _
  | login s swapped deadline wait =>
      have hlogged := Holds.loginTurn h deadline wait
      dsimp only
      split
      all_goals
        rename_i hlogin
        rw [hlogin] at hlogged
      · exact Holds.stay h₀ ht₀ hlogged rfl
      · exact Holds.proceed h₀ ht₀ hlogged rfl rfl rfl
      · exact settled_afterPreloadLogin h₀ ht₀ hlogged _
      · rename_i s' f w'
        have hfailed : Holds w₀ id [s'] w' := hlogged
        have hswapped := hfailed.swapProxy
        split
        · split
          · rename_i hswap
            rw [hswap] at hswapped
            exact settled_beginPreloadLogin h₀ ht₀ hswapped _
          · rename_i hswap
            rw [hswap] at hswapped
            exact settled_afterPreloadLogin h₀ ht₀ hswapped _
        · exact settled_afterPreloadLogin h₀ ht₀ hlogged _
  | finished at_ => exact Holds.stay h₀ ht₀ h rfl

end Endings

/-! ## All turns -/

/-- In a step of the pool sessions change their places there, and none is lost. -/
theorem pool_act_perm {pool : Pool Session} (cooling : List Session) (hacts : w.pool.Acts pool) :
    (pool.buffer ++ (cooling ++ (pool.arrivals ++ pool.handed.map (·.2)))).Perm
      (w.pool.buffer ++ (cooling ++ (w.pool.arrivals ++ w.pool.handed.map (·.2)))) := by
  cases hacts with
  | @readSession s rest _ h =>
      rw [h, List.append_assoc]
      exact (List.perm_append_comm_assoc [s] cooling _).append_left _
  | @hand ticket s rest _ h =>
      have hhanded : (w.pool.handed.map (·.2) ++ [s]).Perm ([s] ++ w.pool.handed.map (·.2)) :=
        List.perm_append_comm
      rw [h, List.map_append]
      exact perm_pooled hhanded
  | answer _ counting => cases counting <;> exact List.Perm.refl _
  | _ => exact List.Perm.refl _

namespace Steady

/-- The pool goes on with what it has. -/
theorem poolTurn (h : w.Steady) : (w.happen (.turn .pool)).SettledSince w.custody := by
  obtain ⟨f, hturn, -⟩ :=
    poolTurn_eq (w := w.beginTurn .pool) h.attentive.isOpen h.attentive.isReading
  have hattends := h.attentive.poolTurn
  rw [happen_turn, turn, hturn] at hattends ⊢
  exact h.shuffle hattends rfl rfl rfl (pool_act_perm _ Pool.act_acts)

/-- A scan that waits for the pool looks what has been handed over to it. -/
theorem collect (h : w.Steady) (ht : w.task? id = some t) (hsession : t.session? = none)
    {pool : Pool Session} (hcollect : w.pool.collect? id = some (s, pool)) :
    Holds w id [s] (World.beginTurn (.task id) { w with pool }) := by
  obtain ⟨-, hhanded, hpool⟩ := h.attentive.serves.collect hcollect
  have hholds : Holds w id [s] { w with pool } :=
    h.receive ht hsession hpool (h.attentive.collect hcollect) hhanded
  exact hholds.beginTurn

/-- Whatever stage a scan is in, its turn loses nothing. -/
theorem scanTurn (h : w.Steady) (ht : w.task? id = some (.scan scan)) :
    ((w.beginTurn (.task id)).scanTurn id scan).SettledSince w.custody := by
  obtain ⟨place, deadline, stage⟩ := scan
  have hopen : (w.beginTurn (.task id)).pool.isOpen = true := h.attentive.isOpen
  rw [World.scanTurn]
  cases stage with
  | planned start =>
      have hid : ¬ w.IsAsking id := not_isAsking ht rfl
      have hbegun := h.attentive.beginTask (h.attentive.not_handed hid)
      dsimp only
      by_cases hstart : start ≤ (w.beginTurn (.task id)).now
      · rw [if_pos hstart, if_pos hopen]
        have hasked := Attends.requestSession
          (hbegun.frame (Still.count w.counters.countScan).toFrame) hid
        exact h.ask ht rfl rfl rfl rfl hasked rfl rfl rfl rfl
      · rw [if_neg hstart]
        exact Holds.stay h ht ((h.take ht rfl).beginTurn.quiet (.stirs (.alarm ..))) rfl
  | checkout until_ =>
      dsimp only
      cases hcollect : w.pool.collect? id with
      | some result =>
          rw [show (w.beginTurn (.task id)).pool.collect? id = some result from hcollect]
          exact settled_acquire h ht (h.collect ht rfl hcollect)
      | none =>
          rw [show (w.beginTurn (.task id)).pool.collect? id = none from hcollect]
          have hasking : w.IsAsking id := ⟨_, ht, rfl⟩
          have hbegun := h.attentive.beginTask (Pool.lookup_of_collect?_eq_none hcollect)
          dsimp only
          rw [hopen, Bool.not_true, if_neg Bool.false_ne_true]
          split
          · exact h.ask ht rfl rfl rfl rfl (hbegun.keep hasking) rfl rfl rfl rfl
          · have halarmed := hbegun.frame (Still.stirs (.alarm until_ id)).toFrame
            exact h.shuffle halarmed rfl rfl rfl (List.Perm.refl _)
  | leaving =>
      have hasking : w.IsAsking id := ⟨_, ht, rfl⟩
      obtain ⟨-, hhanded, hpool⟩ := h.attentive.serves.leave hasking
      have hholds := (h.receive ht rfl hpool (h.attentive.leave hasking) hhanded).beginTurn
      dsimp only
      cases hleave : w.pool.leave id with
      | mk got pool =>
          rw [show (w.beginTurn (.task id)).pool.leave id = (got, pool) from hleave]
          rw [hleave] at hholds
          cases got with
          | some s => exact settled_acquire h ht hholds
          | none => exact settled_acquireNew h ht hholds
  | working s attempt wait =>
      exact settled_workTurn h ht (h.take ht rfl).beginTurn rfl rfl
  | finished result at_ => exact Holds.stay h ht (h.take ht rfl).beginTurn rfl

/-- The task that has its turn goes on. -/
theorem taskTurn (h : w.Steady) (id : Nat) :
    (w.happen (.turn (.task id))).SettledSince w.custody := by
  rw [happen_turn, turn]
  cases ht : w.task? id with
  | none =>
      have hid : ¬ w.IsAsking id := not_isAsking_of_none ht
      rw [show (w.beginTurn (.task id)).task? id = none from ht]
      have hbegun := h.attentive.beginTask (h.attentive.not_handed hid)
      exact ⟨⟨hbegun, h.faultless, h.not_checkout⟩, .refl⟩
  | some t =>
      rw [show (w.beginTurn (.task id)).task? id = some t from ht]
      cases t with
      | scan scan => exact h.scanTurn ht
      | preload p => exact settled_preloadTurn h ht (h.take ht rfl).beginTurn rfl
      | checkout c => cases h.not_checkout id _ ht

/-- A session at rest goes into the mail of the pool when its time has come. -/
theorem coolingTurn (h : w.Steady) (id : Nat) :
    (w.happen (.turn (.cooling id))).SettledSince w.custody := by
  have hattends := h.attentive.coolingTurn id
  have hrests := coolingTurn_rests (w.beginTurn (.cooling id)) id
  rw [happen_turn, turn] at hattends ⊢
  generalize World.coolingTurn id _ = w' at hrests hattends ⊢
  cases hrests with
  | stay => exact h.shuffle hattends rfl rfl rfl (List.Perm.refl _)
  | @lieDown c hc huntil =>
      have hcooling := Keyed.map_map_eq id (fun d => { d with until_ := some (w.now + c.span) })
        (fun _ c => c.session) (fun _ => rfl) w.cooling
      refine h.shuffle hattends rfl rfl rfl (List.Perm.of_eq ?_)
      exact congrArg (fun sessions => w.pool.buffer ++ (sessions ++ w.inTransit)) hcooling
  | @getUp c due hc huntil hdue =>
      have hsent := Holds.pooled_sendToPool (w := { w.beginTurn (.cooling id) with
        cooling := Keyed.others id w.cooling }) h.attentive.isOpen c.session
      have hcooling := (Keyed.perm_others h.attentive.cooling_nodup hc).map (·.2.session)
      refine h.shuffle hattends (tasks_sendToPool _) (Holds.store_sendToPool _)
        (Holds.board_sendToPool _) (hsent.trans ?_)
      apply List.Perm.trans List.perm_middle.symm
      exact (hcooling.symm.append_right w.inTransit).append_left w.pool.buffer

/-- A task begins with nothing in its hand. -/
theorem spawn (h : w.Steady) (hsession : t.session? = none) (hasking : t.isAsking = false)
    (hcheckout : t.isCheckout = false) : (w.spawn t).2.SettledSince w.custody := by
  refine ⟨⟨h.attentive.spawn hasking, h.faultless, ?_⟩, ?_⟩
  · intro i t' ht'
    by_cases hi : i = w.nextId
    · subst hi
      cases (task?_spawn h.attentive.nextId_fresh t).symm.trans ht'
      exact hcheckout
    · exact h.not_checkout i t' ((task?_spawn_of_ne hi t).symm.trans ht')
  · have howned : ownedBy (w.spawn t).2.tasks = ownedBy w.tasks := by
      change List.filterMap _ (w.tasks ++ [(w.nextId, t)]) = _
      have hnone : [(w.nextId, t)].filterMap (·.2.session?) = [] := by simp [hsession]
      rw [List.filterMap_append, hnone]
      exact List.append_nil _
    unfold custody
    rw [howned]
    exact .refl

end Steady

/-! ## All events -/

def Event.impose (e : Event) (i : Inventory) : Inventory :=
  match e with
  | .addProxy id => i.addProxy { id }
  | .loseProxy id => (i.saveProxy? { id, dead := true }).getD i
  | .sweep => i.sweep.2
  | _ => i

/-- The inventory as an event from outside leaves it, with the board and the sessions. -/
def imposed (w : World) (e : Event) : Custody :=
  { w.custody with inventory := e.impose w.store.inventory }

/-- The inventory is changed from outside. -/
theorem Steady.tellStore {α : Type} (h : w.Steady) {f : Store → α × Store}
    (hfaultless : w.store.Faultless → (f w.store).2.Faultless) :
    (w.tellStore f).SettledSince { w.custody with inventory := (f w.store).2.inventory } :=
  have hframe : w.Frame (w.tellStore f) := Frame.tellStore hfaultless
  ⟨h.same (h.attentive.frame hframe) rfl (hframe.faultless h.faultless), .refl⟩

/-- Whatever happens, no session is lost. -/
theorem Steady.happen (h : w.Steady) (e : Event) : (w.happen e).SettledSince (w.imposed e) := by
  cases e with
  | turn o =>
      cases o with
      | task id => exact h.taskTurn id
      | cooling id => exact h.coolingTurn id
      | pool => exact h.poolTurn
      | gate g =>
          have hquiet := Quiet.stirs (.wakeHead (w := w.beginTurn (.gate g)) g)
          refine ⟨h.same (h.attentive.gateTurn g) hquiet.tasks (hquiet.faultless h.faultless), ?_⟩
          rw [happen_turn, turn, hquiet.custody]
          exact .refl
  | pass now => exact h.shuffle (h.attentive.pass now) rfl rfl rfl (List.Perm.refl _)
  | readWall =>
      have hattends := h.attentive.frame (Still.stirs (.single .syncWall)).toFrame
      exact h.shuffle hattends rfl rfl rfl (List.Perm.refl _)
  | scan place start => exact h.spawn rfl rfl rfl
  | preload count => exact h.spawn rfl rfl rfl
  | addProxy id =>
      have hsettled := h.tellStore (f := (·.addProxy { id })) fun hf => hf.addProxy { id }
      rwa [Store.inventory_addProxy h.faultless] at hsettled
  | loseProxy id =>
      have hsettled := h.tellStore (f := (·.saveProxy { id, dead := true })) fun hf =>
        hf.saveProxy { id, dead := true }
      rwa [Store.inventory_saveProxy h.faultless] at hsettled
  | sweep => exact h.tellStore fun hf => hf.sweep

/-- Whatever comes from outside, no claim is touched, as long as no proxy gets a number that was
used before. -/
theorem covers_impose {i : Inventory} {sessions : List Session} (h : i.Covers known sessions)
    (e : Event) (hids : (known ++ addedProxies [e]).Nodup) :
    (e.impose i).Covers (known ++ addedProxies [e]) sessions := by
  have hknown (hnone : addedProxies [e] = []) (h : (e.impose i).Covers known sessions) :
      (e.impose i).Covers (known ++ addedProxies [e]) sessions := by
    rwa [hnone, List.append_nil]
  cases e with
  | addProxy id =>
      have hid : id ∉ known := by
        intro hmem
        exact (List.nodup_append.mp hids).2.2 id hmem id (List.mem_singleton.mpr rfl) rfl
      exact Inventory.Balanced.addProxy h hid
  | loseProxy id => exact hknown rfl (Inventory.Balanced.loseProxy h id)
  | sweep => exact hknown rfl (Inventory.Balanced.sweep h)
  | turn | pass | readWall | scan | preload => exact hknown rfl h

namespace Settled

/-- Whatever happens, the claims in the inventory remain those of the same sessions. -/
theorem happen (h : w.Settled known lost) (e : Event) (hids : (known ++ addedProxies [e]).Nodup) :
    (w.happen e).Settled (known ++ addedProxies [e]) lost := by
  obtain ⟨hsteady, hpath⟩ := h.toSteady.happen e
  have himposed := covers_impose h.covers e hids
  have hcovers := Inventory.Covers.path (hpath.append lost)
    (himposed.perm List.perm_append_comm)
  exact ⟨hsteady, hcovers.perm List.perm_append_comm⟩

theorem run (h : w.Settled known lost) (events : List Event)
    (hids : (known ++ addedProxies events).Nodup) :
    (w.run events).Settled (known ++ addedProxies events) lost :=
  run_induction_known (P := fun w known => w.Settled known lost) (fun _ _ e h => h.happen e) h
    events hids

end Settled

/-! ## What follows from it -/

/-- A dispatcher that has not begun: its store never fails, and there are no tasks and no
sessions. -/
structure Unbegun (w : World) : Prop where
  faultless : w.store.Faultless
  pool : w.pool = {}
  tasks : w.tasks = []
  cooling : w.cooling = []

/-- A dispatcher that has not begun.  Its inventory never fails, names no account twice, and has
nothing claimed; its pool is empty. -/
structure Fresh (w : World) : Prop where
  usernames_nodup : (w.store.inventory.accounts.map (·.username)).Nodup
  unused : ∀ a ∈ w.store.inventory.accounts, a.used = false
  not_inUse : ∀ p ∈ w.store.inventory.proxies, p.inUse = false
  faultless : w.store.Faultless
  pool : w.pool = {}
  tasks : w.tasks = []
  cooling : w.cooling = []

/-- The claims in the inventory are those of the sessions, of which some may just be on their way;
but none is on its way as long as everybody waits. -/
structure Conserved (w : World) : Prop where
  claimed : w.store.inventory.ClaimedBy (w.inTransit ++ w.live)
  claimed_waiting : w.IsWaiting → w.store.inventory.ClaimedBy w.live

/-- Nor are there any other claims, except those of some sessions that are lost. -/
structure ConservedBut (w : World) (lost : List Session) : Prop where
  claimed : w.store.inventory.ClaimedBy (lost ++ (w.inTransit ++ w.live))
  claimed_waiting : w.IsWaiting → w.store.inventory.ClaimedBy (lost ++ w.live)

namespace Unbegun

theorem task?_eq_none (h : w.Unbegun) (i : Nat) : w.task? i = none := by
  rw [task?, h.tasks]
  rfl

theorem attentive (h : w.Unbegun) : w.Attentive := by
  refine attentive_of_idle h.tasks h.cooling ?_ ?_ ?_ ?_ <;> simp [h.pool, Pool.isBusy, Pool.tickets]

theorem steady (h : w.Unbegun) : w.Steady := by
  refine ⟨h.attentive, h.faultless, ?_⟩
  intro i t ht
  cases (h.task?_eq_none i).symm.trans ht

theorem sessions_eq_nil (h : w.Unbegun) : w.pooled ++ ownedBy w.tasks = [] := by
  rw [pooled, inTransit, h.pool, h.cooling, h.tasks]
  rfl

end Unbegun

namespace Fresh

theorem unbegun (h : w.Fresh) : w.Unbegun := ⟨h.faultless, h.pool, h.tasks, h.cooling⟩

theorem covers (h : w.Fresh) (hids : (w.store.inventory.proxies.map (·.id)).Nodup) :
    w.store.inventory.Covers (w.store.inventory.proxies.map (·.id)) [] := by
  refine ⟨⟨h.usernames_nodup, List.nodup_nil, ?_, fun _ _ _ hmem => nomatch hmem⟩,
    ⟨hids, List.nodup_nil, ?_, fun _ _ _ hmem => nomatch hmem⟩,
    fun p hp => List.mem_map_of_mem hp, fun _ hmem => nomatch hmem⟩
  · intro a ha _
    refine iff_of_false ?_ fun hmem => nomatch hmem
    rw [show Inventory.accountLedger.isClaimed a = false from h.unused a ha]
    exact Bool.false_ne_true
  · intro p hp _
    refine iff_of_false ?_ fun hmem => nomatch hmem
    rw [show Inventory.proxyLedger.isClaimed p = false from h.not_inUse p hp]
    exact Bool.false_ne_true

theorem settled (h : w.Fresh) (hids : (w.store.inventory.proxies.map (·.id)).Nodup) :
    w.Settled (w.store.inventory.proxies.map (·.id)) [] := by
  refine ⟨h.unbegun.steady, ?_⟩
  rw [h.unbegun.sessions_eq_nil]
  exact h.covers hids

end Fresh

/-- As long as everybody waits, no session is on its way. -/
theorem Attentive.inTransit_eq_nil (h : w.Attentive) (hwaiting : w.IsWaiting) :
    w.inTransit = [] := by
  have harrivals : w.pool.arrivals = [] := by
    apply Decidable.byContradiction
    intro hne
    have hbusy : w.pool.isBusy = true := by simp [Pool.isBusy, hne]
    have hready := h.pool_ready hbusy
    rw [hwaiting] at hready
    cases hready
  have hhanded : w.pool.handed = [] := by
    apply List.eq_nil_iff_forall_not_mem.mpr
    intro entry hentry
    have hready := h.task_ready entry.1 (List.mem_map_of_mem hentry)
    rw [hwaiting] at hready
    cases hready
  rw [inTransit, harrivals, hhanded]
  rfl

/-- All sessions, those in transit among them, are in the pool or owned by a task. -/
theorem perm_live (w : World) : (w.inTransit ++ w.live).Perm (w.pooled ++ ownedBy w.tasks) := by
  rw [live, pooled]
  generalize w.cooling.map (·.2.session) = resting
  generalize ownedBy w.tasks = owned
  calc List.Perm (w.inTransit ++ (w.pool.buffer ++ (resting ++ owned)))
        (w.pool.buffer ++ (w.inTransit ++ (resting ++ owned))) :=
        List.perm_append_comm_assoc ..
    List.Perm _ (w.pool.buffer ++ (resting ++ (w.inTransit ++ owned))) :=
      (List.perm_append_comm_assoc ..).append_left _
    _ = w.pool.buffer ++ (resting ++ w.inTransit) ++ owned := by
      simp only [List.append_assoc]

theorem Settled.conservedBut (h : w.Settled known lost) : w.ConservedBut lost := by
  have hclaimed := (h.covers.perm (w.perm_live.append_left lost)).claimedBy
  refine ⟨hclaimed, fun hwaiting => ?_⟩
  rwa [h.attentive.inTransit_eq_nil hwaiting] at hclaimed

theorem Settled.conserved (h : w.Settled known []) : w.Conserved :=
  ⟨h.conservedBut.claimed, h.conservedBut.claimed_waiting⟩

/-- As long as no proxy gets a number that was used before, accounts and proxies are neither leaked
nor claimed twice, in whatever order scans and preloads go on, whatever their clients answer, and
whichever proxies die. -/
theorem conserved_run (hw : w.Fresh) (events : List Event)
    (hids : (w.store.inventory.proxies.map (·.id) ++ addedProxies events).Nodup) :
    (w.run events).Conserved := by
  have hsettled := hw.settled (List.nodup_append.mp hids).1
  exact (hsettled.run events hids).conserved

/-- A dispatcher with one account, whose client finds its first proxy dead. -/
def deadProxyAhead : World where
  config := { cooldown := 0, loginInterval := 0, callInterval := 0 }
  store := { inventory := {
    accounts := [{ username := "ann", password := "pw", provider := "ptc" }] } }
  supply := .scripts [.scripted false [{ failure := some .proxyDead }, {}] [{}]]

/-- Two proxies come, and a scan that gets nothing from the pool builds a session with one of
them, swaps it for the other and puts the session into the pool. -/
def turnsOfDeadProxyAhead : List Event :=
  [.addProxy 1, .addProxy 2, .scan default 0, .turn (.task 0), .turn .pool, .turn .pool, .pass 5000,
    .turn (.task 0), .turn (.task 0), .loseProxy 1] ++
  List.replicate 6 (.turn (.task 0)) ++ .sweep :: List.replicate 3 (.turn .pool)

theorem fresh_deadProxyAhead : deadProxyAhead.Fresh where
  usernames_nodup := by decide
  unused := by decide
  not_inUse := by decide
  faultless := fun _ => rfl
  pool := rfl
  tasks := rfl
  cooling := rfl

theorem conserved_run_deadProxyAhead :
    deadProxyAhead.Fresh ∧
      (deadProxyAhead.store.inventory.proxies.map (·.id) ++
        addedProxies turnsOfDeadProxyAhead).Nodup ∧
      (deadProxyAhead.run turnsOfDeadProxyAhead).Conserved ∧
      (deadProxyAhead.run turnsOfDeadProxyAhead).IsWaiting ∧
      (deadProxyAhead.run turnsOfDeadProxyAhead).live.map (fun s => (s.username, s.proxy.id)) =
        [("ann", 2)] :=
  ⟨fresh_deadProxyAhead, by decide,
    conserved_run fresh_deadProxyAhead turnsOfDeadProxyAhead (by decide), by decide +kernel,
    by decide +kernel⟩

end MapScout.World
