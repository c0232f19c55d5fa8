import MapScout.Proofs.Dispatch.Run
import MapScout.Proofs.Dispatch.ScanFlow
import MapScout.Proofs.Pool.Tickets

/-!
# Nobody is forgotten

The pool has a ticket of everybody who waits for a session, and whoever has something to do is
ready for it: the pool as long as it has mail, and the holder of a ticket as soon as a session
lies ready for it.  What a task does in its turn is followed here from one operation to the next;
the task itself has no ticket in between.
-/

namespace MapScout

def CheckoutStage.isAsking : CheckoutStage → Bool
  | .waiting _ | .leaving => true
  | _ => false

def Task.isAsking : Task → Bool
  | .scan s => s.stage.isAsking
  | .preload _ => false
  | .checkout c => c.stage.isAsking

namespace World

variable {w w' : World} {asking : Nat → Prop} {id : Nat} {s : Session}

def IsAsking (w : World) (id : Nat) : Prop := ∃ t, w.task? id = some t ∧ t.isAsking = true

theorem isAsking_congr (h : w'.task? id = w.task? id) : w'.IsAsking id ↔ w.IsAsking id := by
  rw [IsAsking, IsAsking, h]

theorem isAsking_iff {t : Task} (ht : w.task? id = some t) : w.IsAsking id ↔ t.isAsking = true := by
  constructor
  · rintro ⟨t', ht', hasking⟩
    cases ht.symm.trans ht'
    exact hasking
  · exact fun hasking => ⟨t, ht, hasking⟩

theorem not_isAsking {t : Task} (ht : w.task? id = some t) (hasking : t.isAsking = false) :
    ¬ w.IsAsking id := by
  rw [isAsking_iff ht, hasking]
  exact Bool.false_ne_true

/-- There is no such task. -/
theorem not_isAsking_of_none (hnone : w.task? id = none) : ¬ w.IsAsking id := by
  rintro ⟨t, ht, -⟩
  cases hnone.symm.trans ht

/-- The pool is open, it has a ticket of all who are `asking`, and nobody who has something to do
has been forgotten. -/
structure Attends (w : World) (asking : Nat → Prop) : Prop where
  isOpen : w.pool.isOpen = true
  isReading : w.pool.isReading = true
  tasks_nodup : (w.tasks.map (·.1)).Nodup
  cooling_nodup : (w.cooling.map (·.1)).Nodup
  tasks_lt : ∀ id ∈ w.tasks.map (·.1), id < w.nextId
  cooling_lt : ∀ id ∈ w.cooling.map (·.1), id < w.nextId
  serves : w.pool.Serves asking
  pool_ready : w.pool.isBusy = true → .pool ∈ w.time.ready
  task_ready : ∀ id ∈ w.pool.handed.map (·.1), .task id ∈ w.time.ready

/-- The tasks that wait for the pool are those that have a ticket. -/
def Attentive (w : World) : Prop := w.Attends w.IsAsking

namespace Attends

theorem congr {asking' : Nat → Prop} (h : w.Attends asking)
    (hasking : ∀ id, asking id ↔ asking' id) : w.Attends asking' :=
  { h with serves := h.serves.congr hasking }

/-- Somebody who asks may be named once more. -/
theorem keep (h : w.Attends asking) (hid : asking id) : w.Attends fun i => asking i ∨ i = id := by
  apply h.congr
  intro i
  refine (or_iff_left_of_imp ?_).symm
  rintro rfl
  exact hid

/-- Somebody who does not ask may be left out. -/
theorem except (h : w.Attends asking) (hid : ¬ asking id) :
    w.Attends fun i => asking i ∧ i ≠ id := by
  apply h.congr
  intro i
  refine (and_iff_left_of_imp ?_).symm
  rintro hi rfl
  exact hid hi

/-- Nobody is overlooked where tasks and pool are left alone and whoever is ready stays ready. -/
theorem frame (h : w.Attends asking) (hframe : w.Frame w') : w'.Attends asking := by
  obtain ⟨htasks, hpool, hcooling, hnextId, -, -, hready, -⟩ := hframe
  constructor
  · rw [hpool]
    exact h.isOpen
  · rw [hpool]
    exact h.isReading
  · rw [htasks]
    exact h.tasks_nodup
  · rw [hcooling]
    exact h.cooling_nodup
  · rw [htasks, hnextId]
    exact h.tasks_lt
  · rw [hcooling, hnextId]
    exact h.cooling_lt
  · rw [hpool]
    exact h.serves
  · rw [hpool]
    exact fun hbusy => hready _ (h.pool_ready hbusy)
  · rw [hpool]
    exact fun id hid => hready _ (h.task_ready id hid)

/-- Somebody for whom nothing lies ready need not be ready. -/
theorem rest (h : w.Attends asking) (hid : id ∉ w.pool.handed.map (·.1))
    {f : Timeline Owner → Timeline Owner}
    (hf : ∀ o ∈ w.time.ready, o ≠ .task id → o ∈ (f w.time).ready) :
    (w.onTime f).Attends asking := by
  refine { h with pool_ready := ?_, task_ready := ?_ }
  · exact fun hbusy => hf _ (h.pool_ready hbusy) (by simp)
  · intro i hi
    apply hf _ (h.task_ready i hi)
    rintro ⟨⟩
    exact hid hi

/-- A part of the world that has its turn need not be ready any more. -/
theorem beginTurn (h : w.Attends asking) {o : Owner} (hpool : o ≠ .pool)
    (htask : ∀ id, o = .task id → id ∉ w.pool.handed.map (·.1)) :
    (w.beginTurn o).Attends asking := by
  refine { h with pool_ready := ?_, task_ready := ?_ }
  · exact fun hbusy => (List.mem_erase_of_ne hpool.symm).mpr (h.pool_ready hbusy)
  · intro i hi
    refine (List.mem_erase_of_ne ?_).mpr (h.task_ready i hi)
    exact fun ho => htask i ho.symm hi

/-- A task for which nothing lies ready has its turn. -/
theorem beginTask (h : w.Attends asking) (hid : id ∉ w.pool.handed.map (·.1)) :
    (w.beginTurn (.task id)).Attends asking := by
  apply h.beginTurn (by simp)
  rintro i ⟨⟩
  exact hid

theorem not_handed (h : w.Attends asking) (hid : ¬ asking id) : id ∉ w.pool.handed.map (·.1) :=
  fun hmem => hid ((h.serves.mem_iff id).mp (List.mem_append_right _ hmem))

/-! ## Tasks -/

theorem setTask (h : w.Attends asking) (t : Task) : (w.setTask id t).Attends asking := by
  have hkeys : ((w.setTask id t).tasks.map (·.1)) = w.tasks.map (·.1) :=
    Keyed.keys_map id (fun _ => t) w.tasks
  refine { h with tasks_nodup := ?_, tasks_lt := ?_ }
  · rw [hkeys]
    exact h.tasks_nodup
  · rw [hkeys]
    exact h.tasks_lt

/-- A task that goes on in a new stage is ready at once. -/
theorem proceed (h : w.Attends asking) (t : Task) : (w.proceed id t).Attends asking := by
  have hset : (w.setTask id t).Attends asking := h.setTask t
  refine { hset with pool_ready := ?_, task_ready := ?_ }
  · exact fun hbusy => Timeline.mem_ready_continue.mpr (Or.inl (h.pool_ready hbusy))
  · exact fun i hi => Timeline.mem_ready_continue.mpr (Or.inl (h.task_ready i hi))

/-- A task that has come to its end is forgotten, which it may be if it does not wait for the pool.
-/
theorem finish (h : w.Attends asking) (hid : ¬ asking id) (t : Task) :
    (w.finish id t).Attends asking := by
  apply (h.setTask t).rest (h.not_handed hid)
  exact fun o ho hne => Timeline.mem_ready_forget.mpr ⟨ho, hne⟩

/-- A new task is ready, and has no ticket yet. -/
theorem spawn (h : w.Attends asking) (t : Task) : (w.spawn t).2.Attends asking := by
  have hkeys : (w.spawn t).2.tasks.map (·.1) = w.tasks.map (·.1) ++ [w.nextId] :=
    List.map_append ..
  refine { h with
    tasks_nodup := ?_, tasks_lt := ?_, cooling_lt := ?_, pool_ready := ?_, task_ready := ?_ }
  · rw [hkeys]
    refine List.nodup_append.mpr ⟨h.tasks_nodup, by simp, ?_⟩
    intro i hi j hj
    rw [List.mem_singleton.mp hj]
    exact Nat.ne_of_lt (h.tasks_lt i hi)
  · intro i hi
    rw [hkeys] at hi
    rcases List.mem_append.mp hi with hi | hi
    · exact Nat.lt_succ_of_lt (h.tasks_lt i hi)
    · rw [List.mem_singleton.mp hi]
      exact Nat.lt_succ_self _
  · exact fun i hi => Nat.lt_succ_of_lt (h.cooling_lt i hi)
  · exact fun hbusy => Timeline.mem_ready_wake.mpr (Or.inl (h.pool_ready hbusy))
  · exact fun i hi => Timeline.mem_ready_wake.mpr (Or.inl (h.task_ready i hi))

end Attends

theorem task?_spawn (hfresh : w.nextId ∉ w.tasks.map (·.1)) (t : Task) :
    (w.spawn t).2.task? w.nextId = some t :=
  Keyed.lookup_append hfresh t

theorem task?_spawn_of_ne (hid : id ≠ w.nextId) (t : Task) :
    (w.spawn t).2.task? id = w.task? id :=
  Keyed.lookup_append_of_ne hid w.tasks t

theorem Attends.nextId_fresh (h : w.Attends asking) : w.nextId ∉ w.tasks.map (·.1) :=
  fun hmem => Nat.lt_irrefl _ (h.tasks_lt _ hmem)

theorem Attentive.spawn (h : w.Attentive) {t : Task} (ht : t.isAsking = false) :
    (w.spawn t).2.Attentive := by
  apply (Attends.spawn h t).congr
  intro i
  by_cases hi : i = w.nextId
  · subst hi
    have hold : ¬ w.IsAsking w.nextId := not_isAsking_of_none (Keyed.lookup_eq_none h.nextId_fresh)
    exact iff_of_false hold (not_isAsking (task?_spawn h.nextId_fresh t) ht)
  · exact (isAsking_congr (task?_spawn_of_ne hi t)).symm

/-- There are no tasks, nothing rests, and the pool has nothing to do. -/
theorem attentive_of_idle (htasks : w.tasks = []) (hcooling : w.cooling = [])
    (hopen : w.pool.isOpen = true) (hreading : w.pool.isReading = true)
    (hidle : w.pool.isBusy = false) (htickets : w.pool.tickets = []) : w.Attentive := by
  have hnobody (i : Nat) : ¬ w.IsAsking i := by
    apply not_isAsking_of_none
    rw [task?, htasks]
    rfl
  have hhanded : w.pool.handed.map (·.1) = [] := (List.append_eq_nil_iff.mp htickets).2
  constructor
  · exact hopen
  · exact hreading
  · rw [htasks]
    exact List.nodup_nil
  · rw [hcooling]
    exact List.nodup_nil
  · rw [htasks]
    exact fun _ hmem => absurd hmem List.not_mem_nil
  · rw [hcooling]
    exact fun _ hmem => absurd hmem List.not_mem_nil
  · constructor
    · rw [htickets]
      exact List.nodup_nil
    · rw [htickets]
      exact fun i => iff_of_false List.not_mem_nil (hnobody i)
  · rw [hidle]
    exact fun hbusy => absurd hbusy Bool.false_ne_true
  · rw [hhanded]
    exact fun _ hmem => absurd hmem List.not_mem_nil

namespace Attends

/-! ## The pool -/

/-- The pool has got mail, and is woken. -/
theorem mail (h : w.Attends asking) {asking' : Nat → Prop} {pool : Pool Session}
    (hopen : pool.isOpen = w.pool.isOpen) (hreading : pool.isReading = w.pool.isReading)
    (hhanded : pool.handed = w.pool.handed) (hserves : pool.Serves asking') :
    (World.wake .pool { w with pool }).Attends asking' := by
  refine { h with
    isOpen := hopen.trans h.isOpen, isReading := hreading.trans h.isReading, serves := hserves,
    pool_ready := ?_, task_ready := ?_ }
  · exact fun _ => Timeline.mem_ready_wake.mpr (Or.inr rfl)
  · intro i hi
    rw [show (World.wake .pool { w with pool }).pool.handed = _ from hhanded] at hi
    exact Timeline.mem_ready_wake.mpr (Or.inl (h.task_ready i hi))

theorem sendToPool (h : w.Attends asking) (s : Session) : (w.sendToPool s).Attends asking := by
  rw [World.sendToPool, if_pos h.isOpen, Pool.send, if_pos h.isOpen]
  exact h.mail rfl rfl rfl (h.serves.of_tickets rfl)

/-- Whoever asks the pool has a ticket from then on. -/
theorem requestSession (h : w.Attends asking) (hid : ¬ asking id) :
    (w.requestSession id).Attends fun i => asking i ∨ i = id :=
  h.mail rfl rfl rfl (h.serves.request hid)

/-- A ticket has been taken out of the pool. -/
theorem drop (h : w.Attends asking) {pool : Pool Session} {held : List Nat}
    {handed : List (Nat × Session)} (hpool : pool = { w.pool with held, handed })
    (hhanded : ∀ i ∈ handed.map (·.1), i ∈ w.pool.handed.map (·.1))
    (hserves : pool.Serves fun i => asking i ∧ i ≠ id) :
    World.Attends { w with pool } fun i => asking i ∧ i ≠ id := by
  subst hpool
  exact { h with serves := hserves, task_ready := fun i hi => h.task_ready i (hhanded i hi) }

theorem collect (h : w.Attends asking) {pool : Pool Session}
    (hcollect : w.pool.collect? id = some (s, pool)) :
    World.Attends { w with pool } fun i => asking i ∧ i ≠ id := by
  obtain ⟨hserves, hperm, hpool⟩ := h.serves.collect hcollect
  refine h.drop hpool (fun i hi => ?_) hserves
  rw [(hperm.map (·.1)).mem_iff]
  exact List.mem_cons_of_mem _ hi

/-- Whoever gives its ticket up does not wait any more. -/
theorem leave (h : w.Attends asking) (hid : asking id) :
    World.Attends { w with pool := (w.pool.leave id).2 } fun i => asking i ∧ i ≠ id := by
  obtain ⟨hserves, hperm, hpool⟩ := h.serves.leave hid
  refine h.drop hpool (fun i hi => ?_) hserves
  rw [(hperm.map (·.1)).mem_iff, List.map_append]
  exact List.mem_append_right _ hi

/-- A session that is put back, into the queue or to rest, concerns nobody who waits. -/
theorem checkIn (h : w.Attends asking) (s : Session) (cooldown : Nat) :
    (w.checkIn s cooldown).2.Attends asking := by
  rw [World.checkIn]
  split
  · exact h
  · split
    · exact h.sendToPool s
    · refine { h with
        cooling_nodup := ?_, tasks_lt := ?_, cooling_lt := ?_, pool_ready := ?_, task_ready := ?_ }
      · change (List.map (·.1) (w.cooling ++ [_])).Nodup
        rw [List.map_append]
        refine List.nodup_append.mpr ⟨h.cooling_nodup, by simp, ?_⟩
        intro i hi j hj
        rw [List.mem_singleton.mp hj]
        exact Nat.ne_of_lt (h.cooling_lt i hi)
      · exact fun i hi => Nat.lt_succ_of_lt (h.tasks_lt i hi)
      · intro i hi
        change i ∈ List.map (·.1) (w.cooling ++ [_]) at hi
        rw [List.map_append] at hi
        rcases List.mem_append.mp hi with hi | hi
        · exact Nat.lt_succ_of_lt (h.cooling_lt i hi)
        · rw [List.mem_singleton.mp hi]
          exact Nat.lt_succ_self _
      · exact fun hbusy => Timeline.mem_ready_wake.mpr (Or.inl (h.pool_ready hbusy))
      · exact fun i hi => Timeline.mem_ready_wake.mpr (Or.inl (h.task_ready i hi))

/-- What rests may change in any way, as long as the same numbers are used. -/
theorem setCooling (h : w.Attends asking) {cooling : List (Nat × Cooling)}
    (hkeys : (cooling.map (·.1)).Sublist (w.cooling.map (·.1))) :
    World.Attends { w with cooling } asking :=
  { h with
    cooling_nodup := h.cooling_nodup.sublist hkeys
    cooling_lt := fun i hi => h.cooling_lt i (hkeys.subset hi) }

end Attends

/-! ## The end of a turn -/

namespace Attends

variable {w₀ : World}

/-- A task has ended its turn without a ticket and asks for none. -/
theorem settle (h : w.Attends fun i => w₀.IsAsking i ∧ i ≠ id) (hspares : Spares w₀.tasks id w)
    {t : Task} (ht : w.task? id = some t) (hasking : t.isAsking = false) : w.Attentive := by
  apply h.congr
  intro i
  by_cases hi : i = id
  · subst hi
    exact iff_of_false (fun hne => hne.2 rfl) (not_isAsking ht hasking)
  · rw [isAsking_congr (hspares i hi)]
    exact and_iff_left hi

/-- A task has ended its turn with a ticket and waits for its session. -/
theorem settle_asking (h : w.Attends fun i => w₀.IsAsking i ∨ i = id)
    (hspares : Spares w₀.tasks id w) {t : Task} (ht : w.task? id = some t)
    (hasking : t.isAsking = true) : w.Attentive := by
  apply h.congr
  intro i
  by_cases hi : i = id
  · subst hi
    exact iff_of_true (Or.inr rfl) ⟨t, ht, hasking⟩
  · rw [isAsking_congr (hspares i hi)]
    exact or_iff_left hi

end Attends

/-! ## The turns of the other parts -/

/-- A turn of a pool that reads its mail is one step, after which those it has handed something to
are ready, and so is the pool if it has more to do. -/
theorem poolTurn_eq (hopen : w.pool.isOpen = true) (hreading : w.pool.isReading = true) :
    ∃ f : Timeline Owner → Timeline Owner,
      w.poolTurn = World.onTime f { w with pool := w.pool.act } ∧ (f w.time).now = w.now ∧
        (∀ o ∈ w.time.ready, o ∈ (f w.time).ready) ∧
        (w.pool.act.isBusy = true → .pool ∈ (f w.time).ready) ∧
        ∀ id ∈ (w.pool.act.handed.drop w.pool.handed.length).map (·.1),
          .task id ∈ (f w.time).ready := by
  rw [poolTurn, hopen, hreading, Bool.and_true, if_pos rfl]
  dsimp only
  rw [foldl_wake]
  generalize (w.pool.act.handed.drop w.pool.handed.length).map (·.1) = served
  have hkept (o : Owner) (ho : o ∈ w.time.ready) :
      o ∈ (w.time.wakeAll (served.map Owner.task)).ready :=
    Timeline.mem_ready_wakeAll.mpr (Or.inl ho)
  have hserved (id : Nat) (hid : id ∈ served) :
      .task id ∈ (w.time.wakeAll (served.map Owner.task)).ready :=
    Timeline.mem_ready_wakeAll.mpr (Or.inr (List.mem_map_of_mem hid))
  have hnow := Timeline.now_wakeAll (served.map Owner.task) w.time
  by_cases hbusy : w.pool.act.isBusy = true
  · rw [if_pos hbusy]
    refine ⟨fun time => (time.wakeAll (served.map Owner.task)).continue_ .pool, rfl, hnow,
      ?_, ?_, ?_⟩
    · exact fun o ho => Timeline.mem_ready_continue.mpr (Or.inl (hkept o ho))
    · exact fun _ => Timeline.mem_ready_continue.mpr (Or.inr rfl)
    · exact fun id hid => Timeline.mem_ready_continue.mpr (Or.inl (hserved id hid))
  · rw [if_neg hbusy]
    exact ⟨(·.wakeAll (served.map Owner.task)), rfl, hnow, hkept, fun h => absurd h hbusy, hserved⟩

/-- What the turn of a resting session can do. -/
inductive Rests (w : World) (id : Nat) : World → Prop where
  | stay (h : ∀ c, w.cooling.lookup id = some c → ∃ due, c.until_ = some due ∧ w.now < due) :
      Rests w id w
  | lieDown {c : Cooling} (hc : w.cooling.lookup id = some c) (huntil : c.until_ = none) :
      Rests w id (World.onTime (·.setAlarm (w.now + c.span) (.cooling id))
        { w with cooling := w.cooling.map fun (i, d) =>
            if i = id then (i, { d with until_ := some (w.now + c.span) }) else (i, d) })
  | getUp {c : Cooling} {due : Nat} (hc : w.cooling.lookup id = some c)
      (huntil : c.until_ = some due) (hdue : due ≤ w.now) :
      Rests w id (World.sendToPool c.session { w with cooling := Keyed.others id w.cooling })

/-- A session at rest lies down, stays, or gets up when its time has come. -/
theorem coolingTurn_rests (w : World) (id : Nat) : w.Rests id (w.coolingTurn id) := by
  rw [coolingTurn]
  split
  · rename_i hnone
    refine .stay fun c hc => ?_
    rw [hnone] at hc
    cases hc
  · rename_i c hc
    split
    · rename_i huntil
      exact .lieDown hc huntil
    · rename_i due huntil
      split
      · rename_i hdue
        exact .getUp hc huntil hdue
      · rename_i hdue
        refine .stay fun c' hc' => ?_
        cases hc.symm.trans hc'
        exact ⟨due, huntil, Nat.lt_of_not_le hdue⟩

namespace Attends

/-- The pool wakes those to whom it hands a session, and itself if there is more to do. -/
theorem poolTurn (h : w.Attends asking) : (w.happen (.turn .pool)).Attends asking := by
  have hacts : w.pool.Acts w.pool.act := Pool.act_acts
  have hready (o : Owner) (ho : o ∈ w.time.ready) (hne : o ≠ .pool) :
      o ∈ w.time.ready.erase .pool := (List.mem_erase_of_ne hne).mpr ho
  obtain ⟨f, hturn, -, hkept, hpool, hserved⟩ := poolTurn_eq
    (w := w.beginTurn .pool) h.isOpen h.isReading
  change (World.poolTurn _).Attends asking
  rw [hturn]
  refine { h with
    isOpen := hacts.isOpen.trans h.isOpen, isReading := hacts.isReading.trans h.isReading,
    serves := h.serves.acts hacts, pool_ready := hpool, task_ready := ?_ }
  intro id hid
  obtain ⟨new, hnew⟩ := hacts.exists_handed
  change id ∈ w.pool.act.handed.map (·.1) at hid
  change ∀ id ∈ (w.pool.act.handed.drop w.pool.handed.length).map (·.1), _ at hserved
  rw [hnew, List.drop_left] at hserved
  rw [hnew, List.map_append] at hid
  rcases List.mem_append.mp hid with hid | hid
  · exact hkept _ (hready _ (h.task_ready id hid) (by simp))
  · exact hserved id hid

theorem rests (h : w.Attends asking) (hrests : w.Rests id w') : w'.Attends asking := by
  cases hrests with
  | stay => exact h
  | @lieDown c hc huntil =>
      generalize w.now + c.span = due
      refine Attends.frame (h.setCooling ?_) (Still.onTime ?_ ?_).toFrame
      · have hkeys := Keyed.keys_map id (fun d : Cooling => { d with until_ := some due }) w.cooling
        exact hkeys ▸ List.Sublist.refl _
      · exact Timeline.now_setAlarm ..
      · exact fun o ho => by rwa [Timeline.ready_setAlarm]
  | getUp => exact (h.setCooling ((Keyed.others_sublist ..).map _)).sendToPool _

theorem coolingTurn (h : w.Attends asking) (id : Nat) :
    (w.happen (.turn (.cooling id))).Attends asking :=
  (h.beginTurn (by simp) (by simp)).rests (coolingTurn_rests _ id)

theorem gateTurn (h : w.Attends asking) (g : GateName) :
    (w.happen (.turn (.gate g))).Attends asking :=
  (h.beginTurn (by simp) (by simp)).frame (Still.stirs (.wakeHead g)).toFrame

/-- Time that passes wakes those whose alarms it passes. -/
theorem pass (h : w.Attends asking) (now : Nat) : (w.happen (.pass now)).Attends asking := by
  refine { h with pool_ready := ?_, task_ready := ?_ }
  · exact fun hbusy => Timeline.mem_ready_advance now (h.pool_ready hbusy)
  · exact fun i hi => Timeline.mem_ready_advance now (h.task_ready i hi)

end Attends

end World

end MapScout
