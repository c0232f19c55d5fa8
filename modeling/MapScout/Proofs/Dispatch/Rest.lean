import Mathlib.Algebra.Order.BigOperators.Group.List
import Mathlib.Algebra.Order.Ring.Nat
import Mathlib.Data.Prod.Lex
import MapScout.Proofs.Dispatch.Attention
import MapScout.Proofs.Dispatch.Turns
import MapScout.Proofs.Pool.Progress

/-!
# Coming to rest

The dispatcher cannot keep itself awake for good while the clock stands still.  A task that goes on
has fewer steps before it, a pool that goes on has less mail, and who goes on waiting is ready no
more.  So the timeline takes every dispatcher to any later moment, with nobody ready.
-/

namespace MapScout

def Cooling.left (c : Cooling) : Nat :=
  match c.until_ with
  | none => 2
  | some _ => 1

theorem Cooling.left_pos (c : Cooling) : 0 < c.left := by
  rw [left]
  split <;> decide

/-- Who is ready has one turn before it.  A gate only wakes somebody else, who takes its place. -/
def Owner.weight : Owner → Nat
  | .gate _ => 2
  | _ => 1

namespace World

variable {w w' : World} {id limit : Nat}

/-! ## Tasks -/

/-- How many steps all tasks have at most before them. -/
def tasksLeft (w : World) : Nat :=
  ((w.tasks.map (·.1)).map fun i => ((w.task? i).map Task.left).getD 0).sum

theorem tasksLeft_congr (h : w'.tasks = w.tasks) : w'.tasksLeft = w.tasksLeft := by
  simp only [tasksLeft, task?, h]

/-- A task with fewer steps before it makes fewer of all. -/
theorem tasksLeft_setTask_lt {t u : Task} (hu : w.task? id = some u) (hleft : t.left < u.left) :
    (w.setTask id t).tasksLeft < w.tasksLeft := by
  have hkeys : (w.setTask id t).tasks.map (·.1) = w.tasks.map (·.1) :=
    Keyed.keys_map id (fun _ => t) w.tasks
  have hid : ((w.setTask id t).task? id).map Task.left = some t.left := by
    rw [task?_setTask t (Option.isSome_of_eq_some hu)]
    rfl
  rw [tasksLeft, hkeys, tasksLeft]
  refine List.sum_lt_sum _ _ (fun i _ => ?_) ⟨id, ?_, ?_⟩
  · by_cases hi : i = id
    · subst hi
      rw [hid, hu]
      exact Nat.le_of_lt hleft
    · rw [task?_setTask_of_ne t hi]
  · exact List.mem_map_of_mem (Keyed.mem_of_lookup hu)
  · rw [hid, hu]
    exact hleft

/-- A task that goes on has fewer steps before it. -/
theorem Lands.tasksLeft_lt (h : Lands w id w') : w'.tasksLeft < w.tasksLeft := by
  cases h with
  | proceed h hu hleft =>
      rw [← tasksLeft_congr h.tasks]
      exact tasksLeft_setTask_lt ((task?_congr h.tasks id).trans hu) hleft
  | finish h hu hleft =>
      rw [← tasksLeft_congr h.tasks]
      exact tasksLeft_setTask_lt ((task?_congr h.tasks id).trans hu) hleft

/-! ## Resting sessions -/

def coolingLeft (w : World) : Nat := (w.cooling.map (·.2.left)).sum

/-- A session that has lain down has one step less before it. -/
theorem coolingLeft_lieDown {c : Cooling} (hc : w.cooling.lookup id = some c)
    (huntil : c.until_ = none) (due : Nat) :
    ((w.cooling.map fun (i, d) =>
      if i = id then (i, { d with until_ := some due }) else (i, d)).map (·.2.left)).sum <
        w.coolingLeft := by
  rw [coolingLeft, List.map_map]
  refine List.sum_lt_sum _ _ (fun entry _ => ?_) ⟨(id, c), Keyed.mem_of_lookup hc, ?_⟩
  · dsimp only [Function.comp_apply]
    split
    · exact entry.2.left_pos
    · exact Nat.le_refl _
  · simp [Cooling.left, huntil]

theorem cooling_sendToPool (s : Session) : (w.sendToPool s).cooling = w.cooling := by
  rw [sendToPool]
  split <;> rfl

/-- A session that has got up has none. -/
theorem coolingLeft_getUp {c : Cooling} (hc : w.cooling.lookup id = some c) :
    ((Keyed.others id w.cooling).map (·.2.left)).sum < w.coolingLeft := by
  rw [coolingLeft]
  generalize w.cooling = cooling at hc
  induction cooling with
  | nil => cases hc
  | cons entry cooling ih =>
      obtain ⟨i, d⟩ := entry
      by_cases hi : i = id
      · subst hi
        have hrest : ((Keyed.others i cooling).map (·.2.left)).sum ≤
            (cooling.map (·.2.left)).sum :=
          ((Keyed.others_sublist i cooling).map _).sum_le_sum (by simp)
        have hhead := d.left_pos
        simp only [Keyed.others, List.filter_cons, bne_self_eq_false, Bool.false_eq_true, if_false,
          List.map_cons, List.sum_cons] at hrest ⊢
        omega
      · have hne : (id == i) = false := by simpa using fun he => hi he.symm
        have hlt := ih (by simpa [List.lookup_cons, hne] using hc)
        simpa [Keyed.others, hi] using hlt

/-! ## Those who are ready -/

def readyLeft (w : World) : Nat := (w.time.ready.map Owner.weight).sum

/-- Whoever takes its turn is ready no more. -/
theorem readyLeft_beginTurn {o : Owner} (ho : o ∈ w.time.ready) :
    o.weight + (w.beginTurn o).readyLeft = w.readyLeft :=
  List.sum_map_erase Owner.weight ho

theorem readyLeft_wake_le (o : Owner) : (w.wake o).readyLeft ≤ w.readyLeft + o.weight := by
  rw [readyLeft, wake, onTime, Timeline.wake]
  split
  · exact Nat.le_add_right ..
  · simp [readyLeft]

/-! ## All that is left -/

/-- How far the dispatcher is from resting at `limit`, what weighs more first. -/
def burden (limit : Nat) (w : World) : ℕ ×ₗ ℕ ×ₗ ℕ ×ₗ ℕ ×ₗ ℕ :=
  toLex (limit - w.now, toLex (w.tasksLeft, toLex (w.coolingLeft,
    toLex (w.time.late.length + w.pool.left, w.readyLeft))))

/-- Fewer steps of tasks weigh more than all that follows. -/
theorem burden_lt_of_tasks (hnow : w'.now = w.now) (h : w'.tasksLeft < w.tasksLeft) :
    w'.burden limit < w.burden limit := by
  simp [burden, Prod.Lex.toLex_lt_toLex, hnow, h]

/-- So do fewer steps of resting sessions, with the tasks as they are. -/
theorem burden_lt_of_cooling (hnow : w'.now = w.now) (htasks : w'.tasks = w.tasks)
    (h : w'.coolingLeft < w.coolingLeft) : w'.burden limit < w.burden limit := by
  simp [burden, Prod.Lex.toLex_lt_toLex, hnow, tasksLeft_congr htasks, h]

section Lighter

variable (hnow : w'.now = w.now) (htasks : w'.tasks = w.tasks) (hcooling : w'.cooling = w.cooling)

include hnow htasks hcooling

/-- So does less mail, and an alarm that has gone off. -/
theorem burden_lt_of_mail
    (h : w'.time.late.length + w'.pool.left < w.time.late.length + w.pool.left) :
    w'.burden limit < w.burden limit := by
  have hsame : w'.coolingLeft = w.coolingLeft := by rw [coolingLeft, hcooling, coolingLeft]
  simp [burden, Prod.Lex.toLex_lt_toLex, hnow, tasksLeft_congr htasks, hsame, h]

/-- With nothing else changed, it counts who is ready. -/
theorem burden_lt_of_ready (hlate : w'.time.late = w.time.late) (hpool : w'.pool = w.pool)
    (h : w'.readyLeft < w.readyLeft) : w'.burden limit < w.burden limit := by
  have hsame : w'.coolingLeft = w.coolingLeft := by rw [coolingLeft, hcooling, coolingLeft]
  simp [burden, Prod.Lex.toLex_lt_toLex, hnow, tasksLeft_congr htasks, hsame, hlate, hpool, h]

end Lighter

theorem burden_lt_of_lands {o : Owner} (h : Lands (w.beginTurn o) id w') :
    w'.burden limit < w.burden limit := by
  refine burden_lt_of_tasks ?_ h.tasksLeft_lt
  cases h with
  | proceed h hu hleft => exact h.now
  | finish h hu hleft => exact h.now

/-- A pool that has something to do has less to do afterwards; one that has nothing to do rests. -/
theorem burden_poolTurn_lt (ho : .pool ∈ w.time.ready) :
    (w.happen (.turn .pool)).burden limit < w.burden limit := by
  have hready := readyLeft_beginTurn ho
  have hrests {v : World} (h : (w.beginTurn .pool).Waits v) : v.burden limit < w.burden limit := by
    refine burden_lt_of_ready h.now h.tasks h.cooling h.late h.pool ?_
    rw [readyLeft, h.ready, ← hready]
    exact Nat.lt_add_of_pos_left Nat.one_pos
  rw [happen_turn]
  change (World.poolTurn _).burden limit < _
  rw [poolTurn]
  split
  · dsimp only
    rw [foldl_wake]
    generalize howners : (List.map Owner.task _) = owners
    cases hbusy : w.pool.isBusy with
    | true =>
        have hlt : w.time.late.length + w.pool.act.left < w.time.late.length + w.pool.left :=
          Nat.add_lt_add_left (Pool.left_act_lt hbusy) _
        have hlate := Timeline.late_wakeAll owners (w.beginTurn .pool).time
        have hnow := Timeline.now_wakeAll owners (w.beginTurn .pool).time
        split
        all_goals
          refine burden_lt_of_mail hnow rfl rfl ?_
          exact (congrArg (·.length + w.pool.act.left) hlate).trans_lt hlt
    | false =>
        have hact : (w.beginTurn .pool).pool.act = (w.beginTurn .pool).pool :=
          Pool.act_eq_self hbusy
        rw [hact, List.drop_length] at howners
        have hidle : ¬ (w.beginTurn .pool).pool.isBusy = true := ne_true_of_eq_false hbusy
        rw [hact, if_neg hidle, ← howners]
        exact hrests (.refl _)
  · exact hrests (.refl _)

/-- A gate that wakes a task weighs more than the task. -/
theorem burden_gateTurn_lt {g : GateName} (ho : .gate g ∈ w.time.ready) :
    (w.happen (.turn (.gate g))).burden limit < w.burden limit := by
  have hready := readyLeft_beginTurn ho
  change (World.wakeHead g _).burden limit < _
  rw [wakeHead]
  split
  · rename_i id hhead
    have hle := readyLeft_wake_le (w := w.beginTurn (.gate g)) (.task id)
    refine burden_lt_of_ready (Timeline.now_wake ..) rfl rfl (Timeline.late_wakeAll [_] _) rfl ?_
    simp only [Owner.weight] at hready hle
    omega
  · refine burden_lt_of_ready rfl rfl rfl rfl rfl ?_
    simp only [Owner.weight] at hready
    omega

/-- Whoever takes its turn brings the dispatcher nearer to rest. -/
theorem burden_turn_lt {o : Owner} (ho : o ∈ w.time.ready) :
    (w.happen (.turn o)).burden limit < w.burden limit := by
  have hready := readyLeft_beginTurn ho
  have hwaits {v : World} (h : (w.beginTurn o).Waits v) (hpos : 0 < o.weight) :
      v.burden limit < w.burden limit := by
    refine burden_lt_of_ready h.now h.tasks h.cooling h.late h.pool ?_
    rw [readyLeft, h.ready]
    change (w.beginTurn o).readyLeft < _
    omega
  cases o with
  | task id =>
      have hturn := turn_comes (w.beginTurn (.task id)) id
      rw [← happen_turn] at hturn
      cases hturn with
      | waits h => exact hwaits h Nat.one_pos
      | lands hwait h => exact burden_lt_of_lands h
      | quits h hseat => exact burden_lt_of_lands h
      | takes hseat hwait hcan h ht hkind hu hleft hturn =>
          rw [hturn]
          have hlt := tasksLeft_setTask_lt ((task?_congr h.tasks id).trans hu) hleft
          exact burden_lt_of_tasks h.now (hlt.trans_eq (tasksLeft_congr h.tasks))
  | cooling id =>
      have hrests := coolingTurn_rests (w.beginTurn (.cooling id)) id
      change Rests _ id (w.happen (.turn (.cooling id))) at hrests
      generalize w.happen (.turn (.cooling id)) = w' at hrests ⊢
      cases hrests with
      | stay h => exact hwaits (.refl _) Nat.one_pos
      | lieDown hc huntil =>
          exact burden_lt_of_cooling (Timeline.now_setAlarm ..) rfl
            (coolingLeft_lieDown (w := w) hc huntil _)
      | getUp hc huntil hdue =>
          refine burden_lt_of_cooling (Calm.sendToPool _).now (Calm.sendToPool _).tasks ?_
          rw [coolingLeft, cooling_sendToPool]
          exact coolingLeft_getUp (w := w) hc
  | pool => exact burden_poolTurn_lt ho
  | gate g => exact burden_gateTurn_lt ho

/-- The clock, too, brings the dispatcher nearer to rest when it goes on to the next alarm. -/
theorem burden_pass_lt {a : Alarm Owner} (ha : a ∈ w.time.alarms) (hdue : a.due ≤ limit) :
    (w.happen (.pass a.due)).burden limit < w.burden limit := by
  have hnow : (w.happen (.pass a.due)).now = max w.now a.due := Timeline.now_advance ..
  by_cases hlate : a.due ≤ w.now
  · refine burden_lt_of_mail (hnow.trans (Nat.max_eq_left hlate)) rfl rfl ?_
    exact Nat.add_lt_add_right (Timeline.length_late_advance ha rfl hlate) _
  · refine Prod.Lex.toLex_lt_toLex.mpr (.inl ?_)
    change limit - (w.happen (.pass a.due)).now < limit - w.now
    omega

/-- From the next state on, the run is one turn shorter. -/
theorem runUntil_succ_of_step (hstep : Timed.step? w = some w') (n : Nat) :
    Timed.runUntil (fun _ => false) limit (n + 1) w =
      Timed.runUntil (fun _ => false) limit n w' := by
  rw [Timed.runUntil, hstep]

theorem runUntil_succ_of_pass (hstep : Timed.step? w = none) {due : Nat}
    (hdue : w.time.nextDue? = some due) (hlimit : due ≤ limit) (n : Nat) :
    Timed.runUntil (fun _ => false) limit (n + 1) w =
      Timed.runUntil (fun _ => false) limit n (w.happen (.pass due)) := by
  have hdue : (Timed.time w).nextDue? = some due := hdue
  rw [Timed.runUntil, hstep]
  simp only [Bool.false_eq_true, if_false, hdue, if_pos hlimit]
  rfl

/-- With nobody ready and no alarm in time, the clock goes on to the limit. -/
theorem runUntil_succ_of_none (hstep : Timed.step? w = none)
    (hnone : ∀ due, w.time.nextDue? = some due → ¬ due ≤ limit) (n : Nat) :
    Timed.runUntil (fun _ => false) limit (n + 1) w = w.happen (.pass limit) := by
  rw [Timed.runUntil, hstep]
  simp only [Bool.false_eq_true, if_false]
  split
  · rename_i due hdue
    rw [if_neg (hnone due hdue)]
    rfl
  · rfl

/-- The timeline takes every dispatcher to any moment that is asked for, and leaves it at rest. -/
theorem exists_rest (limit : Nat) (w : World) :
    ∃ turns, ∀ n ≥ turns, (Timed.runUntil (fun _ => false) limit n w).IsWaiting ∧
      limit ≤ (Timed.runUntil (fun _ => false) limit n w).now := by
  induction hburden : w.burden limit using WellFoundedLT.induction generalizing w with
  | ind burden ih =>
    subst hburden
    have hgoes {w' : World} (hlt : w'.burden limit < w.burden limit)
        (hrun : ∀ n, Timed.runUntil (fun _ => false) limit (n + 1) w =
          Timed.runUntil (fun _ => false) limit n w') :
        ∃ turns, ∀ n ≥ turns, (Timed.runUntil (fun _ => false) limit n w).IsWaiting ∧
          limit ≤ (Timed.runUntil (fun _ => false) limit n w).now := by
      obtain ⟨turns, h⟩ := ih _ hlt w' rfl
      refine ⟨turns + 1, fun n hn => ?_⟩
      obtain ⟨n, rfl⟩ := Nat.exists_eq_add_of_le' (Nat.le_trans (Nat.le_add_left 1 turns) hn)
      rw [hrun]
      exact h n (Nat.le_of_succ_le_succ hn)
    cases hstep : Timed.step? w with
    | some w' =>
        obtain ⟨o, ho, rfl⟩ := step?_eq_some hstep
        exact hgoes (burden_turn_lt ho) (runUntil_succ_of_step hstep)
    | none =>
        by_cases hnext : ∃ due, w.time.nextDue? = some due ∧ due ≤ limit
        · obtain ⟨due, hdue, hlimit⟩ := hnext
          obtain ⟨a, ha, rfl⟩ := Timeline.exists_of_nextDue? hdue
          exact hgoes (burden_pass_lt ha hlimit) (runUntil_succ_of_pass hstep hdue hlimit)
        · have hlater (due : Nat) (hdue : w.time.nextDue? = some due) : ¬ due ≤ limit :=
            fun hlimit => hnext ⟨due, hdue, hlimit⟩
          refine ⟨1, fun n hn => ?_⟩
          obtain ⟨n, rfl⟩ := Nat.exists_eq_add_of_le' hn
          rw [runUntil_succ_of_none hstep hlater]
          constructor
          · have hready := Timed.ready_of_step?_eq_none hstep
            refine (Timeline.ready_advance fun a ha => ?_).trans hready
            cases hdue : w.time.nextDue? with
            | none =>
                rw [Timeline.alarms_of_nextDue? hdue] at ha
                cases ha
            | some due =>
                exact Nat.lt_of_lt_of_le (Nat.lt_of_not_le (hlater due hdue))
                  (Timeline.due_le_of_nextDue? hdue ha)
          · rw [show (w.happen (.pass limit)).now = max w.now limit from Timeline.now_advance ..]
            exact Nat.le_max_right ..

end World

end MapScout
