import MapScout.Proofs.Dispatch.Conservation
import MapScout.Proofs.Dispatch.Tallies

/-!
# The counters balance

Every scan that has begun is counted once, and once more by what it has come to.  Every session is
somewhere or has been dropped, and then it has been counted.  So what the counters say can be read
off the scans and the sessions, whatever the store does: it may refuse any call, and others may
change it at any moment.
-/

namespace MapScout

/-! ## What is counted -/

def ScanStage.isRunning : ScanStage → Bool
  | .planned _ | .finished .. => false
  | _ => true

def ScanError.among (p : ScanError → Bool) : Except ScanError (List MapObject) → Bool
  | .ok _ => false
  | .error e => p e

def ScanStage.hasReturned (p : Except ScanError (List MapObject) → Bool) : ScanStage → Bool
  | .finished result _ => p result
  | _ => false

def Task.isScanAt (p : ScanStage → Bool) : Task → Bool
  | .scan s => p s.stage
  | _ => false

def World.scansAt (p : ScanStage → Bool) (w : World) : Nat := w.tasks.countP (·.2.isScanAt p)

inductive Column where
  | scans
  | failures
  | busy
  | timeouts

namespace Column

def of : Column → Counters → Nat
  | scans, k => k.scans
  | failures, k => k.failures
  | busy, k => k.busy
  | timeouts, k => k.timeouts

def counts : Column → Except ScanError (List MapObject) → Bool
  | scans => fun _ => true
  | failures => ScanError.among (· ≠ .busy)
  | busy => ScanError.among (· = .busy)
  | timeouts => ScanError.among (· = .timeout)

/-- Whether a scan is counted as soon as it has begun. -/
def marksRunning : Column → Bool
  | scans => true
  | _ => false

def marks (c : Column) (stage : ScanStage) : Bool :=
  stage.hasReturned c.counts || c.marksRunning && stage.isRunning

variable {c : Column}

/-- A scan that goes on is counted as before. -/
theorem marks_running {stage stage' : ScanStage} (h : stage.isRunning = true)
    (h' : stage'.isRunning = true) : c.marks stage' = c.marks stage := by
  unfold marks
  rw [h, h']
  cases stage <;> cases stage' <;> first | rfl | contradiction

end Column

namespace World

variable {w w' w₀ start : World} {id sessions hand bound : Nat} {t t₀ : Task} {s : Session}
variable {scan : Scan} {c : Column}

/-- The result of a scan is counted where it belongs. -/
theorem of_finishScan (c : Column) (id : Nat) (scan : Scan)
    (result : Except ScanError (List MapObject)) (w : World) :
    c.of (w.finishScan id scan result).counters + c.marksRunning.toNat =
      c.of w.counters + (c.counts result).toNat := by
  unfold finishScan finish
  cases result with
  | ok objects => cases c <;> rfl
  | error e => cases e <;> cases c <;> rfl

theorem scansAt_congr (h : w'.tasks = w.tasks) (p : ScanStage → Bool) :
    w'.scansAt p = w.scansAt p := by
  rw [scansAt, scansAt, h]

/-- When a task goes on, the scans at a stage lose what it was and gain what it is. -/
theorem scansAt_setTask (hnodup : (w.tasks.map (·.1)).Nodup) (ht₀ : w.task? id = some t₀)
    (t : Task) (p : ScanStage → Bool) :
    (w.setTask id t).scansAt p + (t₀.isScanAt p).toNat = w.scansAt p + (t.isScanAt p).toNat := by
  have hset := (Keyed.map_perm_others hnodup ht₀ fun _ => t).countP_eq (·.2.isScanAt p)
  have hold := (Keyed.perm_others hnodup ht₀).countP_eq (·.2.isScanAt p)
  rw [List.countP_cons] at hset hold
  rw [scansAt, scansAt, hold]
  refine (congrArg (· + (t₀.isScanAt p).toNat) hset).trans ?_
  cases t.isScanAt p <;> cases t₀.isScanAt p <;> simp

/-! ## The state between two turns -/

/-- The scans that are counted are those that there are; `sessions` sessions are somewhere or have
been dropped; and neither the tasks nor the sessions dropped are more than `bound`. -/
structure Reconciled (w : World) (sessions bound : Nat) : Prop where
  attentive : w.Attentive
  not_checkout : ∀ i t, w.task? i = some t → t.isCheckout = false
  columns : ∀ c : Column, c.of w.counters = w.scansAt c.marks
  sessions_eq : (w.pooled ++ ownedBy w.tasks).length + w.counters.evictions = sessions
  tasks_le : w.tasks.length ≤ bound
  evictions_le : w.counters.evictions ≤ bound

/-- A task of the world `w₀` has its turn and has come as far as `w`, with `hand` sessions in its
hand. -/
structure Carries (w₀ : World) (id hand sessions bound : Nat) (w : World) : Prop where
  attends : w.Attends fun i => w₀.IsAsking i ∧ i ≠ id
  tasks : w.tasks = w₀.tasks
  columns : ∀ c : Column, c.of w.counters = c.of w₀.counters
  sessions_eq : hand + (w.pooled ++ ownedBy (Keyed.others id w₀.tasks)).length +
    w.counters.evictions = sessions
  evictions_le : hand + w.counters.evictions ≤ bound

namespace Carries

/-- What is not counted changes no account. -/
theorem uncounted (h : Carries w₀ id hand sessions bound w) (huncounted : w.Uncounted w') :
    Carries w₀ id hand sessions bound w' where
  attends := h.attends.frame huncounted.toFrame
  tasks := huncounted.tasks.trans h.tasks
  columns c := by rw [huncounted.counters, h.columns]
  sessions_eq := by rw [huncounted.pooled_eq, huncounted.counters, h.sessions_eq]
  evictions_le := by rw [huncounted.counters]; exact h.evictions_le

theorem beginTurn (h : Carries w₀ id hand sessions bound w) :
    Carries w₀ id hand sessions bound (w.beginTurn (.task id)) :=
  { h with attends := h.attends.beginTask (h.attends.not_handed fun hne => hne.2 rfl) }

/-- A session that leaves the hand is in the pool or at rest, or it has been dropped. -/
theorem leaves (h : Carries w₀ id 1 sessions bound w) (hleaves : w.Leaves w') :
    Carries w₀ id 0 sessions bound w' := by
  cases hleaves with
  | @put v s cooldown huncounted hfit =>
      obtain ⟨hattends, htasks, hcolumns, hsessions, hevictions⟩ := h.uncounted huncounted
      obtain ⟨-, -, hcounters⟩ := checkIn_keeps (w := v) s cooldown
      have hpooled := (Holds.pooled_checkIn hattends.isOpen hfit cooldown).length_eq
      refine ⟨hattends.checkIn s cooldown, (tasks_checkIn s cooldown).trans htasks, ?_, ?_, ?_⟩
      · intro c
        rw [hcounters, hcolumns]
      · rw [List.length_cons] at hpooled
        rw [List.length_append] at hsessions ⊢
        rw [hcounters]
        omega
      · rw [hcounters]
        omega
  | @drop v huncounted s =>
      obtain ⟨hattends, htasks, hcolumns, hsessions, hevictions⟩ := h.uncounted huncounted
      have hframe := Frame.evict (w := v) s
      have hcounters := counters_evict (w := v) s
      refine ⟨hattends.frame hframe, hframe.tasks.trans htasks, ?_, ?_, ?_⟩
      · intro c
        rw [hcounters, ← hcolumns]
        cases c <;> rfl
      · rw [hframe.pooled_eq, hcounters, Counters.countEviction]
        dsimp only
        omega
      · rw [hcounters, Counters.countEviction]
        dsimp only
        omega

end Carries

/-! ## The beginning of a turn -/

namespace Reconciled

theorem mono (h : w.Reconciled sessions bound) {bound' : Nat} (hle : bound ≤ bound') :
    w.Reconciled sessions bound' :=
  { h with tasks_le := Nat.le_trans h.tasks_le hle, evictions_le := Nat.le_trans h.evictions_le hle }

/-- Nothing has happened to the tasks and the counters, and the sessions are where they were, or
somewhere else. -/
theorem same (h : w.Reconciled sessions bound) (hattends : w'.Attends w.IsAsking)
    (htasks : w'.tasks = w.tasks) (hcounters : w'.counters = w.counters)
    (hpooled : w'.pooled.length = w.pooled.length) : w'.Reconciled sessions bound := by
  have htask (i : Nat) : w'.task? i = w.task? i := task?_congr htasks i
  refine ⟨hattends.congr fun i => (isAsking_congr (htask i)).symm, ?_, ?_, ?_, ?_, ?_⟩
  · intro i t ht
    exact h.not_checkout i t ((htask i).symm.trans ht)
  · intro c
    rw [hcounters, h.columns, scansAt_congr htasks]
  · have hsessions := h.sessions_eq
    rw [List.length_append] at hsessions ⊢
    rwa [hpooled, htasks, hcounters]
  · rw [htasks]
    exact h.tasks_le
  · rw [hcounters]
    exact h.evictions_le

/-- A task that does not wait for the pool takes its own session in hand, if it has one. -/
theorem take (h : w₀.Reconciled sessions bound) (ht : w₀.task? id = some t)
    (hasking : t.isAsking = false) :
    Carries w₀ id t.session?.toList.length sessions (bound + t.session?.toList.length)
      (w₀.beginTurn (.task id)) := by
  have howned := (perm_ownedBy h.attentive.tasks_nodup ht).length_eq
  have hsessions := h.sessions_eq
  have hevictions := h.evictions_le
  refine Carries.beginTurn ⟨h.attentive.except (not_isAsking ht hasking), rfl, fun _ => rfl, ?_, ?_⟩
  · rw [List.length_append] at howned hsessions ⊢
    omega
  · omega

/-- A task that waits for the pool takes what was handed over to it, if anything was. -/
theorem receive (h : w₀.Reconciled sessions bound) (ht : w₀.task? id = some t)
    (hsession : t.session? = none) {pool : Pool Session} {held : List Nat}
    {handed : List (Nat × Session)} {got : List Session}
    (hpool : pool = { w₀.pool with held, handed })
    (hattends : World.Attends { w₀ with pool } fun i => w₀.IsAsking i ∧ i ≠ id)
    (hhanded : w₀.pool.handed.Perm (got.map (id, ·) ++ pool.handed)) :
    Carries w₀ id got.length sessions (bound + got.length)
      (World.beginTurn (.task id) { w₀ with pool }) := by
  have hlength := hhanded.length_eq
  have howned := (perm_ownedBy h.attentive.tasks_nodup ht).length_eq
  have hsessions := h.sessions_eq
  have hevictions := h.evictions_le
  subst hpool
  refine Carries.beginTurn ⟨hattends, rfl, fun _ => rfl, ?_, ?_⟩
  · rw [hsession] at howned
    simp only [pooled, inTransit, List.length_append, List.length_map, Option.toList_none,
      List.length_nil] at hlength howned hsessions ⊢
    omega
  · dsimp only
    omega

end Reconciled

/-! ## The end of a turn -/

section Endings

variable (h₀ : w₀.Reconciled sessions bound) (ht₀ : w₀.task? id = some t₀)

include h₀ ht₀

/-- A task is left with the sessions that it has in hand, and what it has come to is counted. -/
theorem Reconciled.settle {sessions' bound' : Nat} (htasks : w'.tasks = (w₀.setTask id t).tasks)
    (hattentive : w'.Attentive) (hcheckout : t.isCheckout = false)
    (hcolumns : ∀ c : Column, c.of w'.counters + (t₀.isScanAt c.marks).toNat =
      c.of w₀.counters + (t.isScanAt c.marks).toNat)
    (hsessions : t.session?.toList.length +
      (w'.pooled ++ ownedBy (Keyed.others id w₀.tasks)).length + w'.counters.evictions = sessions')
    (hle : bound ≤ bound') (hevictions : w'.counters.evictions ≤ bound') :
    w'.Reconciled sessions' bound' := by
  have hnodup := h₀.attentive.tasks_nodup
  have howned : (ownedBy w'.tasks).length =
      (t.session?.toList ++ ownedBy (Keyed.others id w₀.tasks)).length := by
    rw [htasks]
    exact (perm_ownedBy_set hnodup ht₀ t).length_eq
  have hlength : w'.tasks.length = w₀.tasks.length := by
    rw [htasks]
    exact List.length_map ..
  refine ⟨hattentive, ?_, ?_, ?_, ?_, hevictions⟩
  · intro i t' ht'
    rw [task?_congr htasks] at ht'
    by_cases hi : i = id
    · subst hi
      cases (task?_setTask t (Option.isSome_of_eq_some ht₀)).symm.trans ht'
      exact hcheckout
    · exact h₀.not_checkout i t' ((task?_setTask_of_ne t hi).symm.trans ht')
  · intro c
    have hcount := scansAt_setTask hnodup ht₀ t c.marks
    have hcolumn := hcolumns c
    rw [h₀.columns] at hcolumn
    rw [scansAt_congr htasks]
    omega
  · rw [List.length_append] at howned hsessions ⊢
    omega
  · rw [hlength]
    exact Nat.le_trans h₀.tasks_le hle

variable {sessions' bound' : Nat}

/-- The turn has come to nothing. -/
theorem Carries.stay (h : Carries w₀ id t₀.session?.toList.length sessions' bound' w)
    (hle : bound ≤ bound') (hasking : t₀.isAsking = false) : w.Reconciled sessions' bound' := by
  have hnodup := h₀.attentive.tasks_nodup
  have htask : w.task? id = some t₀ := (task?_congr h.tasks id).trans ht₀
  have howned := (perm_ownedBy hnodup ht₀).length_eq
  refine ⟨h.attends.settle (spares_of_tasks h.tasks) htask hasking, ?_, ?_, ?_, ?_, ?_⟩
  · intro i t ht
    exact h₀.not_checkout i t ((task?_congr h.tasks i).symm.trans ht)
  · intro c
    rw [h.columns, h₀.columns, scansAt_congr h.tasks]
  · have hsessions := h.sessions_eq
    rw [List.length_append] at howned hsessions ⊢
    rw [h.tasks]
    omega
  · rw [h.tasks]
    exact Nat.le_trans h₀.tasks_le hle
  · have hevictions := h.evictions_le
    omega

/-- The task goes on in another stage, which is counted like the one before. -/
theorem Carries.proceed (h : Carries w₀ id t.session?.toList.length sessions' bound' w)
    (hle : bound ≤ bound') (hasking : t.isAsking = false) (hcheckout : t.isCheckout = false)
    (hmarks : ∀ c : Column, t.isScanAt c.marks = t₀.isScanAt c.marks) :
    (w.proceed id t).Reconciled sessions' bound' := by
  have htasks : (w.proceed id t).tasks = (w₀.setTask id t).tasks := by
    rw [World.proceed, setTask, setTask, h.tasks]
    rfl
  have htask : (w.proceed id t).task? id = some t :=
    (task?_congr htasks id).trans (task?_setTask t (Option.isSome_of_eq_some ht₀))
  have hevictions := h.evictions_le
  refine h₀.settle ht₀ htasks ?_ hcheckout ?_ h.sessions_eq hle ?_
  · exact (h.attends.proceed t).settle (spares_proceed h.tasks t) htask hasking
  · intro c
    rw [hmarks c, ← h.columns c]
    rfl
  · exact Nat.le_trans (Nat.le_add_left ..) hevictions

/-- The task has come to its end with nothing in its hand, and this is counted. -/
theorem Carries.finish (h : Carries w₀ id 0 sessions' bound' w) {counters : Counters}
    (hevictions : counters.evictions = w.counters.evictions) (hle : bound ≤ bound')
    (hsession : t.session? = none) (hasking : t.isAsking = false) (hcheckout : t.isCheckout = false)
    (hcolumns : ∀ c : Column, c.of counters + (t₀.isScanAt c.marks).toNat =
      c.of w.counters + (t.isScanAt c.marks).toNat) :
    (World.finish id t { w with counters }).Reconciled sessions' bound' := by
  have htasks : (World.finish id t { w with counters }).tasks = (w₀.setTask id t).tasks := by
    rw [World.finish, setTask, setTask]
    dsimp only
    rw [h.tasks]
    rfl
  have htask : (World.finish id t { w with counters }).task? id = some t :=
    (task?_congr htasks id).trans (task?_setTask t (Option.isSome_of_eq_some ht₀))
  have hcounted := h.attends.frame (Still.count counters).toFrame
  refine h₀.settle ht₀ htasks ?_ hcheckout ?_ ?_ hle ?_
  · exact (hcounted.finish (fun hne => hne.2 rfl) t).settle (spares_finish h.tasks t) htask hasking
  · intro c
    rw [← h.columns c]
    exact hcolumns c
  · have hsessions := h.sessions_eq
    rw [hsession, ← hsessions, ← hevictions]
    rfl
  · have hle' := h.evictions_le
    change counters.evictions ≤ bound'
    omega

end Endings

/-! ## Turns of tasks -/

def builds (w : World) : Event → Bool
  | .turn (.task id) =>
    match w.task? id with
    | some (.scan { stage := .leaving, .. }) => (w.pool.leave id).1.isNone && w.provision.1.isOk
    | some (.preload { stage := .next, remaining, .. }) => remaining ≠ 0 && w.provision.1.isOk
    | _ => false
  | _ => false

theorem provision_congr (hstore : w'.store = w.store) (hsupply : w'.supply = w.supply) :
    w'.provision.1 = w.provision.1 := by
  rw [provision, provision, hstore, hsupply]
  split
  · rfl
  · split <;> rfl

/-- A session that is built is one more in hand. -/
theorem Carries.provision (h : Carries w₀ id 0 sessions bound w) :
    Carries w₀ id 1 (sessions + 1) (bound + 1) w.provision.2 := by
  obtain ⟨hattends, htasks, hcolumns, hsessions, hevictions⟩ := h.uncounted (.deals .provision)
  exact ⟨hattends, htasks, hcolumns, by omega, by omega⟩

section Turns

variable (h₀ : w₀.Reconciled sessions bound)
variable {sessions' bound' : Nat} (hle : bound ≤ bound')

include h₀ hle

section Scans

variable (ht₀ : w₀.task? id = some (.scan scan)) (hrunning : scan.stage.isRunning = true)

include ht₀ hrunning

/-- A scan that ends with nothing in its hand is counted by its result. -/
theorem Carries.finishScan (h : Carries w₀ id 0 sessions' bound' w) (scan' : Scan)
    (result : Except ScanError (List MapObject)) :
    (w.finishScan id scan' result).Reconciled sessions' bound' := by
  have hmarked (c : Column) : Task.isScanAt c.marks (.scan scan) = c.marksRunning := by
    rw [Task.isScanAt, Column.marks, hrunning, Bool.and_true]
    cases hstage : scan.stage <;> rw [hstage] at hrunning <;> first | rfl | cases hrunning
  have hreturned (c : Column) :
      Task.isScanAt c.marks (.scan { scan' with stage := .finished result w.now }) = c.counts result := by
    simp [Task.isScanAt, Column.marks, ScanStage.hasReturned, ScanStage.isRunning]
  refine Carries.finish h₀ ht₀ h (evictions_finishScan id scan' result w) hle rfl rfl rfl fun c => ?_
  rw [hmarked, hreturned]
  exact of_finishScan c id scan' result w

/-- However a scan with a session ends its turn, the accounts are in order. -/
theorem ScanEnds.reconciled (h : Carries w₀ id 1 sessions' bound' start)
    (hends : ScanEnds start id w') : w'.Reconciled sessions' bound' := by
  cases hends with
  | work huncounted scan' s attempt wait =>
      refine Carries.proceed h₀ ht₀ (h.uncounted huncounted) hle rfl rfl fun c => ?_
      exact c.marks_running hrunning rfl
  | finish hleaves scan' result => exact (h.leaves hleaves).finishScan h₀ hle ht₀ hrunning ..

end Scans

variable {p : Preload} (ht₀ : w₀.task? id = some (.preload p))

include ht₀

/-- So they are when a preload ends its turn. -/
theorem PreloadEnds.reconciled (h : Carries w₀ id 1 sessions' bound' start)
    (hends : PreloadEnds start id w') : w'.Reconciled sessions' bound' := by
  cases hends with
  | login huncounted p' s swapped deadline wait =>
      exact Carries.proceed h₀ ht₀ (h.uncounted huncounted) hle rfl rfl fun _ => rfl
  | next hleaves p' =>
      exact Carries.proceed h₀ ht₀ (h.leaves hleaves) hle rfl rfl fun _ => rfl

end Turns

namespace Reconciled

/-- A scan has waited for a pooled session in vain. -/
theorem acquireNew (h₀ : w₀.Reconciled sessions bound) (ht₀ : w₀.task? id = some (.scan scan))
    (hrunning : scan.stage.isRunning = true) (h : Carries w₀ id 0 sessions bound w) :
    (w.acquireNew id scan).Reconciled (sessions + w.provision.1.isOk.toNat) (bound + 1) := by
  have huncounted := h.uncounted (.deals .provision)
  have hprovisioned := h.provision
  rw [World.acquireNew]
  split
  · rename_i s v hprovision
    rw [hprovision] at hprovisioned ⊢
    exact ScanEnds.reconciled h₀ (Nat.le_succ bound) ht₀ hrunning hprovisioned
      (.beginWork (.deals (.show_ s)) s)
  · rename_i e v hprovision
    rw [hprovision] at huncounted ⊢
    exact (huncounted.finishScan h₀ (Nat.le_refl bound) ht₀ hrunning ..).mono (Nat.le_succ bound)

/-- A task that has asked the pool for a session, or is about to give up. -/
theorem ask (h₀ : w₀.Reconciled sessions bound) (ht₀ : w₀.task? id = some t₀)
    (hsession₀ : t₀.session? = none) (hsession : t.session? = none) (hasking : t.isAsking = true)
    (hcheckout : t.isCheckout = false) (hattends : w.Attends fun i => w₀.IsAsking i ∨ i = id)
    (htasks : w.tasks = w₀.tasks) (hpooled : w.pooled = w₀.pooled)
    (hevictions : w.counters.evictions = w₀.counters.evictions)
    (hcolumns : ∀ c : Column, c.of w.counters + (t₀.isScanAt c.marks).toNat =
      c.of w₀.counters + (t.isScanAt c.marks).toNat) :
    (w.proceed id t).Reconciled sessions bound := by
  have hset : (w.proceed id t).tasks = (w₀.setTask id t).tasks := by
    rw [proceed, setTask, setTask, htasks]
    rfl
  have htask : (w.proceed id t).task? id = some t :=
    (task?_congr hset id).trans (task?_setTask t (Option.isSome_of_eq_some ht₀))
  have howned := (perm_ownedBy h₀.attentive.tasks_nodup ht₀).length_eq
  have hsessions := h₀.sessions_eq
  refine h₀.settle ht₀ hset ?_ hcheckout hcolumns ?_ (Nat.le_refl bound) ?_
  · exact (hattends.proceed t).settle_asking (spares_proceed htasks t) htask hasking
  · change _ + (w.pooled ++ _).length + w.counters.evictions = sessions
    rw [hsession₀] at howned
    rw [List.length_append] at howned hsessions ⊢
    rw [hsession, hpooled, hevictions]
    omega
  · exact Nat.le_trans (Nat.le_of_eq hevictions) h₀.evictions_le

/-- A scan begins, and is counted. -/
theorem scanTurn_planned (h : w.Reconciled sessions bound) {place : Place} {deadline start : Nat}
    (ht : w.task? id = some (.scan ⟨place, deadline, .planned start⟩)) :
    ((w.beginTurn (.task id)).scanTurn id ⟨place, deadline, .planned start⟩).Reconciled
      sessions bound := by
  have hid : ¬ w.IsAsking id := not_isAsking ht rfl
  have hbegun := h.attentive.beginTask (h.attentive.not_handed hid)
  have hopen : (w.beginTurn (.task id)).pool.isOpen = true := h.attentive.isOpen
  rw [World.scanTurn]
  dsimp only
  split
  · have hasked := Attends.requestSession
      (hbegun.frame (Still.count w.counters.countScan).toFrame) hid
    refine h.ask ht rfl rfl rfl rfl hasked rfl rfl rfl fun c => ?_
    cases c <;> rfl
  · exact ((h.take ht rfl).uncounted (.stirs (.alarm ..))).stay h ht (Nat.le_refl bound) rfl

/-- A scan in the queue waits on, or has a session, or leaves the queue. -/
theorem scanTurn_checkout (h : w.Reconciled sessions bound) {place : Place}
    {deadline until_ : Nat}
    (ht : w.task? id = some (.scan ⟨place, deadline, .checkout until_⟩)) :
    ((w.beginTurn (.task id)).scanTurn id ⟨place, deadline, .checkout until_⟩).Reconciled
      sessions (bound + 1) := by
  have hasking : w.IsAsking id := ⟨_, ht, rfl⟩
  have hopen : (w.beginTurn (.task id)).pool.isOpen = true := h.attentive.isOpen
  have hsame : (w.beginTurn (.task id)).pool.collect? id = w.pool.collect? id := rfl
  rw [World.scanTurn]
  dsimp only
  rw [hsame]
  cases hcollect : w.pool.collect? id with
  | some result =>
      obtain ⟨s, pool⟩ := result
      obtain ⟨-, hhanded, hpool⟩ := h.attentive.serves.collect hcollect
      have hone : w.pool.handed.Perm ([s].map (id, ·) ++ pool.handed) := hhanded
      have hcarries := h.receive ht rfl hpool (h.attentive.collect hcollect) hone
      exact ScanEnds.reconciled h (Nat.le_succ bound) ht rfl hcarries (.acquire (.refl _) s)
  | none =>
      have hbegun := h.attentive.beginTask (Pool.lookup_of_collect?_eq_none hcollect)
      have hgoes : (if until_ ≤ w.now then
          (w.beginTurn (.task id)).proceed id (.scan ⟨place, deadline, .leaving⟩)
          else (w.beginTurn (.task id)).alarm until_ id).Reconciled sessions bound := by
        split
        · exact h.ask ht rfl rfl rfl rfl (hbegun.keep hasking) rfl rfl rfl fun c => rfl
        · have halarmed := hbegun.frame (Still.stirs (.alarm until_ id)).toFrame
          exact h.same halarmed rfl rfl rfl
      dsimp only
      rw [hopen, Bool.not_true, if_neg Bool.false_ne_true]
      exact hgoes.mono (Nat.le_succ bound)

/-- A scan that leaves the queue has what was handed to it, or builds a session. -/
theorem scanTurn_leaving (h : w.Reconciled sessions bound) {place : Place} {deadline : Nat}
    (ht : w.task? id = some (.scan ⟨place, deadline, .leaving⟩)) :
    ((w.beginTurn (.task id)).scanTurn id ⟨place, deadline, .leaving⟩).Reconciled
      (sessions + (w.builds (.turn (.task id))).toNat) (bound + 1) := by
  have hasking : w.IsAsking id := ⟨_, ht, rfl⟩
  have hbuilds : w.builds (.turn (.task id)) =
      ((w.pool.leave id).1.isNone && w.provision.1.isOk) := by
    rw [builds, ht]
  obtain ⟨-, hhanded, hpool⟩ := h.attentive.serves.leave hasking
  have hcarries := h.receive ht rfl hpool (h.attentive.leave hasking) hhanded
  have hsame : (w.beginTurn (.task id)).pool.leave id = w.pool.leave id := rfl
  rw [World.scanTurn, hbuilds]
  dsimp only
  rw [hsame]
  cases hleave : w.pool.leave id with
  | mk got pool =>
      rw [hleave] at hcarries
      dsimp only at hcarries ⊢
      cases got with
      | some s =>
          exact ScanEnds.reconciled h (Nat.le_succ bound) ht rfl hcarries (.acquire (.refl _) s)
      | none =>
          have hsame : (World.beginTurn (.task id) { w with pool }).provision.1 = w.provision.1 :=
            provision_congr rfl rfl
          rw [← hsame]
          exact h.acquireNew ht rfl hcarries

theorem scanTurn (h : w.Reconciled sessions bound) (ht : w.task? id = some (.scan scan)) :
    ((w.beginTurn (.task id)).scanTurn id scan).Reconciled
      (sessions + (w.builds (.turn (.task id))).toNat) (bound + 1) := by
  obtain ⟨place, deadline, stage⟩ := scan
  cases stage with
  | planned start =>
      rw [show w.builds (.turn (.task id)) = false by rw [builds, ht]]
      exact (h.scanTurn_planned ht).mono (Nat.le_succ bound)
  | checkout until_ =>
      rw [show w.builds (.turn (.task id)) = false by rw [builds, ht]]
      exact h.scanTurn_checkout ht
  | leaving => exact h.scanTurn_leaving ht
  | working s attempt wait =>
      have hcarries := h.take ht rfl
      rw [show w.builds (.turn (.task id)) = false by rw [builds, ht]]
      rcases workTurn_tallies id ⟨place, deadline, .working s attempt wait⟩ s attempt wait
        (w.beginTurn (.task id)) with huncounted | hends
      · exact (hcarries.uncounted huncounted).stay h ht (Nat.le_succ bound) rfl
      · exact ScanEnds.reconciled h (Nat.le_succ bound) ht rfl hcarries hends
  | finished result at_ =>
      rw [show w.builds (.turn (.task id)) = false by rw [builds, ht]]
      exact (Carries.stay h ht (h.take ht rfl) (Nat.le_refl bound) rfl).mono (Nat.le_succ bound)

/-- A preload builds its next session, if there is one to be built. -/
theorem preloadTurn_next (h : w.Reconciled sessions bound) {remaining queued : Nat}
    (ht : w.task? id = some (.preload ⟨remaining, queued, .next⟩)) :
    ((w.beginTurn (.task id)).preloadTurn id ⟨remaining, queued, .next⟩).Reconciled
      (sessions + (w.builds (.turn (.task id))).toNat) (bound + 1) := by
  have hcarries : Carries w id 0 sessions bound (w.beginTurn (.task id)) := h.take ht rfl
  have hbuilds : w.builds (.turn (.task id)) = (decide (remaining ≠ 0) && w.provision.1.isOk) := by
    rw [builds, ht]
  have hends {v : World} (hv : Carries w id 0 sessions bound v) (at_ : Nat) :
      (v.finish id (.preload ⟨remaining, queued, .finished at_⟩)).Reconciled sessions (bound + 1) :=
    Carries.finish (t := .preload ⟨remaining, queued, .finished at_⟩) h ht
      { hv with evictions_le := Nat.le_succ_of_le hv.evictions_le } rfl (Nat.le_succ bound) rfl rfl
      rfl fun _ => rfl
  have hprovisioned := hcarries.provision
  have huncounted := hcarries.uncounted (.deals .provision)
  have hsame : (w.beginTurn (.task id)).provision.1 = w.provision.1 := provision_congr rfl rfl
  rw [preloadTurn, hbuilds, ← hsame]
  dsimp only
  split
  · rename_i hzero
    rw [decide_eq_false (not_not.mpr hzero), Bool.false_and]
    exact hends hcarries _
  · rename_i hmore
    rw [decide_eq_true hmore, Bool.true_and]
    split
    · rename_i hprovision
      rw [hprovision] at huncounted ⊢
      exact hends huncounted _
    · rename_i s v hprovision
      rw [hprovision] at hprovisioned ⊢
      exact PreloadEnds.reconciled h (Nat.le_succ bound) ht hprovisioned
        (.beginPreloadLogin (.deals (.show_ s)) s false)

theorem preloadTurn (h : w.Reconciled sessions bound) {p : Preload}
    (ht : w.task? id = some (.preload p)) :
    ((w.beginTurn (.task id)).preloadTurn id p).Reconciled
      (sessions + (w.builds (.turn (.task id))).toNat) (bound + 1) := by
  obtain ⟨remaining, queued, stage⟩ := p
  cases stage with
  | next => exact h.preloadTurn_next ht
  | login s swapped deadline wait =>
      have hcarries := h.take ht rfl
      rw [show w.builds (.turn (.task id)) = false by rw [builds, ht]]
      let p : Preload := ⟨remaining, queued, .login s swapped deadline wait⟩
      have hends : (w.beginTurn (.task id)).Uncounted ((w.beginTurn (.task id)).preloadTurn id p) ∨
          PreloadEnds (w.beginTurn (.task id)) id ((w.beginTurn (.task id)).preloadTurn id p) :=
        preloadTurn_tallies rfl
      rcases hends with huncounted | hends
      · exact (hcarries.uncounted huncounted).stay h ht (Nat.le_succ bound) rfl
      · exact PreloadEnds.reconciled h (Nat.le_succ bound) ht hcarries hends
  | finished at_ =>
      rw [show w.builds (.turn (.task id)) = false by rw [builds, ht]]
      exact (Carries.stay h ht (h.take ht rfl) (Nat.le_refl bound) rfl).mono (Nat.le_succ bound)

/-! ## All events -/

theorem taskTurn (h : w.Reconciled sessions bound) (id : Nat) :
    (w.happen (.turn (.task id))).Reconciled
      (sessions + (w.builds (.turn (.task id))).toNat) (bound + 1) := by
  rw [happen_turn, turn]
  cases ht : w.task? id with
  | none =>
      have hid : ¬ w.IsAsking id := not_isAsking_of_none ht
      have hbegun := h.attentive.beginTask (h.attentive.not_handed hid)
      rw [show (w.beginTurn (.task id)).task? id = none from ht,
        show w.builds (.turn (.task id)) = false by rw [builds, ht]]
      exact (h.same hbegun rfl rfl rfl).mono (Nat.le_succ bound)
  | some t =>
      rw [show (w.beginTurn (.task id)).task? id = some t from ht]
      cases t with
      | scan scan => exact h.scanTurn ht
      | preload p => exact h.preloadTurn ht
      | checkout c => cases h.not_checkout id _ ht

theorem poolTurn (h : w.Reconciled sessions bound) :
    (w.happen (.turn .pool)).Reconciled sessions bound := by
  obtain ⟨f, hturn, -⟩ :=
    poolTurn_eq (w := w.beginTurn .pool) h.attentive.isOpen h.attentive.isReading
  have hattends := h.attentive.poolTurn
  rw [happen_turn, turn, hturn] at hattends ⊢
  exact h.same hattends rfl rfl (pool_act_perm _ Pool.act_acts).length_eq

theorem coolingTurn (h : w.Reconciled sessions bound) (id : Nat) :
    (w.happen (.turn (.cooling id))).Reconciled sessions bound := by
  have hattends := h.attentive.coolingTurn id
  have hrests := coolingTurn_rests (w.beginTurn (.cooling id)) id
  rw [happen_turn, turn] at hattends ⊢
  generalize World.coolingTurn id _ = w' at hrests hattends ⊢
  cases hrests with
  | stay => exact h.same hattends rfl rfl rfl
  | @lieDown c hc huntil =>
      refine h.same hattends rfl rfl ?_
      simp [pooled, inTransit, onTime, beginTurn]
  | @getUp c due hc huntil hdue =>
      have hsent := (Holds.pooled_sendToPool (w := { w.beginTurn (.cooling id) with
        cooling := Keyed.others id w.cooling }) h.attentive.isOpen c.session).length_eq
      have hcooling := (Keyed.perm_others h.attentive.cooling_nodup hc).length_eq
      refine h.same hattends (tasks_sendToPool _) ?_ ?_
      · rw [sendToPool]
        split <;> rfl
      · refine hsent.trans ?_
        simp only [pooled, inTransit, beginTurn, onTime, List.length_append, List.length_map,
          List.length_cons] at hcooling ⊢
        omega

/-- A new task is not counted yet. -/
theorem spawn (h : w.Reconciled sessions bound) (hsession : t.session? = none)
    (hasking : t.isAsking = false) (hcheckout : t.isCheckout = false)
    (hmarks : ∀ c : Column, t.isScanAt c.marks = false) :
    (w.spawn t).2.Reconciled sessions (bound + 1) := by
  have htasks : (w.spawn t).2.tasks = w.tasks ++ [(w.nextId, t)] := rfl
  refine ⟨h.attentive.spawn hasking, ?_, ?_, ?_, ?_, Nat.le_succ_of_le h.evictions_le⟩
  · intro i t' ht'
    by_cases hi : i = w.nextId
    · subst hi
      cases (task?_spawn h.attentive.nextId_fresh t).symm.trans ht'
      exact hcheckout
    · exact h.not_checkout i t' ((task?_spawn_of_ne hi t).symm.trans ht')
  · intro c
    rw [scansAt, htasks, List.countP_append, List.countP_singleton]
    dsimp only
    rw [hmarks c]
    exact h.columns c
  · have howned : ownedBy (w.spawn t).2.tasks = ownedBy w.tasks := by
      simp [htasks, ownedBy, List.filterMap_append, hsession]
    rw [howned]
    exact h.sessions_eq
  · rw [htasks, List.length_append]
    exact Nat.succ_le_succ h.tasks_le

/-- The store is now another. -/
theorem withStore (h : w.Reconciled sessions bound) (store : Store) :
    World.Reconciled { w with store } sessions bound :=
  h.same { h.attentive with } rfl rfl rfl

/-- Each event counts what it makes happen. -/
theorem happen (h : w.Reconciled sessions bound) (e : Event) :
    (w.happen e).Reconciled (sessions + (w.builds e).toNat) (bound + 1) := by
  have hsame {v : World} (hv : v.Reconciled sessions bound) :
      v.Reconciled (sessions + 0) (bound + 1) := hv.mono (Nat.le_succ bound)
  cases e with
  | turn o =>
      cases o with
      | task id => exact h.taskTurn id
      | cooling id => exact hsame (h.coolingTurn id)
      | pool => exact hsame h.poolTurn
      | gate g =>
          have huncounted := Uncounted.stirs (.wakeHead (w := w.beginTurn (.gate g)) g)
          exact hsame (h.same (h.attentive.gateTurn g) huncounted.tasks huncounted.counters
            (congrArg List.length huncounted.pooled_eq))
  | pass now => exact hsame (h.same (h.attentive.pass now) rfl rfl rfl)
  | readWall =>
      have hsynced := (Still.stirs (.single (.syncWall (w := w)))).toFrame
      exact hsame (h.same (h.attentive.frame hsynced) rfl rfl rfl)
  | scan place start => exact h.spawn rfl rfl rfl fun c => by cases c <;> rfl
  | preload count => exact h.spawn rfl rfl rfl fun c => rfl
  | addProxy id => exact hsame (h.withStore _)
  | loseProxy id => exact hsame (h.withStore _)
  | sweep => exact hsame (h.withStore _)

end Reconciled

end World

end MapScout
