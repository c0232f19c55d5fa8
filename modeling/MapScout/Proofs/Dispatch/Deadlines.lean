import MapScout.Proofs.Dispatch.LiveProxies
import MapScout.Proofs.Dispatch.Rest

/-!
# The deadlines of scans

A scan is over by its deadline, or by the end of its wait for the pool if that comes later, however
many others compete with it and whatever the clients do.  As long as it goes on it is ready, or an
alarm will wake it in time.
-/

namespace MapScout

namespace World

variable {w w' : World} {id due : Nat} {scan : Scan} {e : Event}

/-! ## What happens elsewhere -/

/-- A task is ready, or an alarm will wake it, at the latest at a given moment. -/
def Heeded (id due : Nat) (w : World) : Prop := .task id ∈ w.time.ready ∨ w.WakesBy id due

/-- The clock has stood still, and whoever has `P` is as ready as before and keeps the alarms. -/
structure Undisturbed (P : Owner → Prop) (w w' : World) : Prop where
  config : w'.config = w.config
  lag : w'.lag = w.lag
  time : w.time.Spares P w'.time

/-- Something has happened that is no concern of a task. -/
structure Elsewhere (id : Nat) (w w' : World) : Prop
    extends Undisturbed (· = .task id) w w' where
  task : ∀ t, w.task? id = some t → w'.task? id = some t

theorem Elsewhere.now (h : w.Elsewhere id w') : w'.now = w.now := h.time.now

theorem WakesBy.mono {due' : Nat} (h : w.WakesBy id due) (hle : due ≤ due') :
    w.WakesBy id due' := by
  obtain ⟨a, ha, howner, hlater, hdue⟩ := h
  exact ⟨a, ha, howner, hlater, Nat.le_trans hdue hle⟩

/-- Others do not take away the alarm of a task. -/
theorem Heeded.elsewhere (h : w.Heeded id due) (helse : w.Elsewhere id w') : w'.Heeded id due := by
  rcases h with hready | ⟨a, ha, howner, hlater, hdue⟩
  · exact .inl (helse.time.ready _ rfl hready)
  · exact .inr ⟨a, helse.time.alarms a ha howner, howner, helse.now ▸ hlater, hdue⟩

/-- The clock does not pass the alarm that wakes a task. -/
theorem Heeded.pass {now : Nat} (h : w.Heeded id due) (htimely : w.IsTimely (.pass now))
    (hnow : w.now ≤ due) :
    (w.happen (.pass now)).Heeded id due ∧ (w.happen (.pass now)).now ≤ due := by
  obtain ⟨hready, halarms⟩ := htimely
  rcases h with hmem | ⟨a, ha, howner, hlater, hdue⟩
  · rw [hready] at hmem
    cases hmem
  · have hclock : (w.happen (.pass now)).now = max w.now now := Timeline.now_advance ..
    have hle : now ≤ a.due := halarms a ha
    refine ⟨?_, by omega⟩
    by_cases hgoes : a.due ≤ now
    · exact .inl (howner ▸ Timeline.mem_ready_advance_of_due ha hgoes)
    · refine .inr ⟨a, Timeline.mem_alarms_advance ha (Nat.lt_of_not_le hgoes), howner, ?_, hdue⟩
      omega

namespace Undisturbed

variable {P : Owner → Prop} {o : Owner}

theorem of_mild (ho : ¬ P o) (h : (w.beginTurn o).Mild w') : w.Undisturbed P w' where
  config := h.config
  lag := h.lag
  time := (Timeline.Spares.erase ho w.time).trans (h.time.mono fun _ _ => trivial)

theorem proceed {v : World} (h : w.Undisturbed P v) (hid : ¬ P (.task id)) (t : Task) :
    w.Undisturbed P (v.proceed id t) where
  config := h.config
  lag := h.lag
  time := h.time.trans ((Timeline.Spares.clearAlarms hid _).trans (.continue_ ..))

theorem finish {v : World} (h : w.Undisturbed P v) (hid : ¬ P (.task id)) (t : Task) :
    w.Undisturbed P (v.finish id t) where
  config := h.config
  lag := h.lag
  time := h.time.trans (.forget hid _)

/-- A turn disturbs nobody but whose turn it is. -/
theorem turn (ho : ¬ P o) : w.Undisturbed P (w.happen (.turn o)) := by
  cases o with
  | task i =>
      have hturn := turn_comes (w.beginTurn (.task i)) i
      rw [← happen_turn] at hturn
      have hlands (h : Lands (w.beginTurn (.task i)) i (w.happen (.turn (.task i)))) :
          w.Undisturbed P (w.happen (.turn (.task i))) := by
        generalize w.happen (.turn (.task i)) = w' at h ⊢
        cases h with
        | proceed h hu hleft => exact (of_mild ho h.toMild).proceed ho _
        | finish h hu hleft => exact (of_mild ho h.toMild).finish ho _
      cases hturn with
      | waits h => exact of_mild ho h.toMild
      | lands hwait h => exact hlands h
      | quits h hseat => exact hlands h
      | takes hseat hwait hcan h ht hkind hu hleft hturn =>
          rw [hturn]
          exact (of_mild ho h.toMild).proceed ho _
  | cooling i => exact of_mild ho (Calm.coolingTurn i).toMild
  | pool => exact of_mild ho Calm.poolTurn.toMild
  | gate g => exact of_mild ho (Calm.wakeHead g).toMild

theorem happen (ho : ∀ o, e = .turn o → ¬ P o) (hpass : ∀ now, e ≠ .pass now) :
    w.Undisturbed P (w.happen e) := by
  cases e with
  | turn o => exact turn (ho o rfl)
  | pass now => exact absurd rfl (hpass now)
  | scan place start => exact ⟨rfl, rfl, .wake ..⟩
  | preload count => exact ⟨rfl, rfl, .wake ..⟩
  | readWall => exact ⟨rfl, rfl, .refl ..⟩
  | addProxy id => exact ⟨rfl, rfl, .refl ..⟩
  | loseProxy id => exact ⟨rfl, rfl, .refl ..⟩
  | sweep => exact ⟨rfl, rfl, .refl ..⟩

end Undisturbed

theorem Elsewhere.happen (he : e ≠ .turn (.task id)) (hpass : ∀ now, e ≠ .pass now) :
    w.Elsewhere id (w.happen e) where
  toUndisturbed := .happen (fun _ he' ho => he (he'.trans (congrArg _ ho))) hpass
  task _ := task?_happen_of_ne he

/-- Only the passing of time moves the clock. -/
theorem pass_or_undisturbed (w : World) (e : Event) :
    (∃ now, e = .pass now) ∨ w.Undisturbed (fun _ => False) (w.happen e) :=
  or_iff_not_imp_left.mpr fun hpass =>
    .happen (fun _ _ => id) fun now he => hpass ⟨now, he⟩

/-- The configuration never changes. -/
theorem config_happen (w : World) (e : Event) : (w.happen e).config = w.config := by
  rcases pass_or_undisturbed w e with ⟨now, rfl⟩ | hundisturbed
  · rfl
  · exact hundisturbed.config

/-- The settings stay as they are. -/
theorem config_run (w : World) (events : List Event) : (w.run events).config = w.config :=
  run_induction (P := fun v => v.config = w.config) (fun v e h => (config_happen v e).trans h) rfl
    events

theorem now_turn (w : World) (o : Owner) : (w.happen (.turn o)).now = w.now :=
  (Undisturbed.turn (P := fun _ => False) id).time.now

/-- The clock does not go back. -/
theorem now_le_happen (w : World) (e : Event) : w.now ≤ (w.happen e).now := by
  rcases pass_or_undisturbed w e with ⟨now, rfl⟩ | hundisturbed
  · have hclock : (w.happen (.pass now)).now = max w.now now := Timeline.now_advance ..
    exact hclock ▸ Nat.le_max_left ..
  · exact hundisturbed.time.now.ge

theorem now_le_run (w : World) (events : List Event) : w.now ≤ (w.run events).now :=
  run_induction (P := fun v => w.now ≤ v.now) (fun v e h => h.trans (now_le_happen v e))
    (Nat.le_refl _) events

/-! ## Being over in time -/

theorem isFinished_iff :
    (Task.scan scan).isFinished = true ↔ ∃ result at_, scan.stage = .finished result at_ := by
  obtain ⟨place, deadline, stage⟩ := scan
  cases stage with
  | finished result at_ => exact iff_of_true rfl ⟨result, at_, rfl⟩
  | _ => exact iff_of_false Bool.false_ne_true nofun

/-- The turn of a scan, seen as an event. -/
theorem scanTurn_happen (hscan : w.task? id = some (.scan scan)) :
    ScanTurn (w.beginTurn (.task id)) id scan (w.happen (.turn (.task id))) := by
  rw [happen_turn, turn_scan (w := w.beginTurn (.task id)) hscan]
  exact scanTurn_ends ..

/-- How a scan stands that begins at `begun`, with its deadline and the moment by which it is
over. -/
inductive InTime (id begun deadline limit : Nat) (w : World) : Prop where
  | planned {scan : Scan} {start : Nat} (hscan : w.task? id = some (.scan scan))
      (hstage : scan.stage = .planned start) (hstart : start ≤ begun)
      (hbegun : begun ≤ max w.now start) (hdeadline : deadline = begun + w.config.requestTimeout)
      (hlimit : begun + (w.config.checkoutTimeout + w.lag) ≤ limit) (hnow : w.now ≤ begun)
      (hheeded : w.Heeded id begun)
  | going {scan : Scan} (hscan : w.task? id = some (.scan scan)) (hgoing : 0 < scan.stage.rank)
      (hunfinished : (Task.scan scan).isFinished = false) (hdeadline : scan.deadline = deadline)
      (hdue : scan.due ≤ limit) (hbegun : begun ≤ w.now) (hnow : w.now ≤ limit)
      (hheeded : w.Heeded id limit)
  | ended {scan : Scan} {result : Except ScanError (List MapObject)} {at_ : Nat}
      (hscan : w.task? id = some (.scan scan)) (hstage : scan.stage = .finished result at_)
      (hbegun : begun ≤ at_) (hlimit : at_ ≤ limit)

namespace InTime

variable {begun deadline limit : Nat}

/-- The turns of others leave a scan in time. -/
theorem elsewhere (h : w.InTime id begun deadline limit) (helse : w.Elsewhere id w') :
    w'.InTime id begun deadline limit := by
  have hnow := helse.now
  cases h with
  | planned hscan hstage hstart hbegun hdeadline hlimit hnow hheeded =>
      refine .planned (helse.task _ hscan) hstage hstart ?_ ?_ ?_ ?_ (hheeded.elsewhere helse)
      · rwa [helse.now]
      · rwa [helse.config]
      · rwa [helse.config, helse.lag]
      · rwa [helse.now]
  | going hscan hgoing hunfinished hdeadline hdue hbegun hnow hheeded =>
      refine .going (helse.task _ hscan) hgoing hunfinished hdeadline hdue ?_ ?_
        (hheeded.elsewhere helse)
      · rwa [helse.now]
      · rwa [helse.now]
  | ended hscan hstage hbegun hlimit => exact .ended (helse.task _ hscan) hstage hbegun hlimit

/-- A clock that stops at alarms leaves a scan in time. -/
theorem pass {now : Nat} (h : w.InTime id begun deadline limit) (htimely : w.IsTimely (.pass now)) :
    (w.happen (.pass now)).InTime id begun deadline limit := by
  have hclock : (w.happen (.pass now)).now = max w.now now := Timeline.now_advance ..
  cases h with
  | planned hscan hstage hstart hbegun hdeadline hlimit hnow hheeded =>
      obtain ⟨hheeded, hnow⟩ := hheeded.pass htimely hnow
      exact .planned hscan hstage hstart (by omega) hdeadline hlimit hnow hheeded
  | going hscan hgoing hunfinished hdeadline hdue hbegun hnow hheeded =>
      obtain ⟨hheeded, hnow⟩ := hheeded.pass htimely hnow
      exact .going hscan hgoing hunfinished hdeadline hdue (by omega) hnow hheeded
  | ended hscan hstage hbegun hlimit => exact .ended hscan hstage hbegun hlimit

section Turns

variable {v : World} (hscan : w.task? id = some (.scan scan)) (h : w.Mild v)

include hscan h

/-- A scan goes on in its next stage. -/
theorem proceed {scan' : Scan} (hgoing : 0 < scan'.stage.rank)
    (hunfinished : (Task.scan scan').isFinished = false) (hdeadline : scan'.deadline = deadline)
    (hdue : scan'.due ≤ limit) (hbegun : begun ≤ w.now) (hnow : w.now ≤ limit) :
    (v.proceed id (.scan scan')).InTime id begun deadline limit := by
  have hid : (v.task? id).isSome := by
    rw [task?_congr h.tasks]
    exact Option.isSome_of_eq_some hscan
  have hclock : (v.proceed id (.scan scan')).now = w.now := h.now
  refine .going (task?_setTask _ hid) hgoing hunfinished hdeadline hdue ?_ ?_ (.inl ?_)
  · rwa [hclock]
  · rwa [hclock]
  · exact Timeline.mem_ready_continue.mpr (.inr rfl)

/-- A scan ends. -/
theorem finishScan (scan' : Scan) (result : Except ScanError (List MapObject))
    (hbegun : begun ≤ w.now) (hnow : w.now ≤ limit) :
    (v.finishScan id scan' result).InTime id begun deadline limit := by
  have hid : (v.task? id).isSome := by
    rw [task?_congr h.tasks]
    exact Option.isSome_of_eq_some hscan
  refine .ended (task?_finishScan hid result) rfl ?_ ?_
  · rwa [h.now]
  · rwa [h.now]

end Turns

/-- A scan that goes to work is ready and has its deadline before it. -/
theorem work {v : World} {s : Session} {attempt : Attempt} {wait : ScanWait}
    (hscan : w.task? id = some (.scan scan)) (h : w.Mild v) (hdeadline : scan.deadline = deadline)
    (hle : deadline ≤ limit) (hbegun : begun ≤ w.now) (hnow : w.now ≤ limit) :
    (v.work id scan s attempt wait).InTime id begun deadline limit := by
  refine proceed hscan h ?_ rfl hdeadline (hdeadline.trans_le hle) hbegun hnow
  rw [ScanStage.rank]
  omega

theorem lands {may : ScanError → Prop} (hlands : ScanLands w.Calm id scan may w')
    (hscan : w.task? id = some (.scan scan)) (hdeadline : scan.deadline = deadline)
    (hle : deadline ≤ limit) (hbegun : begun ≤ w.now) (hnow : w.now ≤ limit) :
    w'.InTime id begun deadline limit := by
  cases hlands with
  | work h hrank => exact work hscan h.toMild hdeadline hle hbegun hnow
  | finish h hmay => exact finishScan hscan h.toMild _ _ hbegun hnow

/-- It begins as soon as the clock allows. -/
theorem turn_of_planned (hscan : w.task? id = some (.scan scan)) {start : Nat}
    (hstage : scan.stage = .planned start) (hstart : start ≤ begun)
    (hbegun : begun ≤ max w.now start) (hdeadline : deadline = begun + w.config.requestTimeout)
    (hlimit : begun + (w.config.checkoutTimeout + w.lag) ≤ limit) (hnow : w.now ≤ begun) :
    (w.happen (.turn (.task id))).InTime id begun deadline limit := by
  have hclock (hstart' : start ≤ w.now) : w.now = begun := by omega
  have hturn := scanTurn_happen hscan
  generalize w.happen (.turn (.task id)) = w' at hturn ⊢
  cases hturn with
  | waits h halarm =>
      have hunfinished : (Task.scan scan).isFinished = false := by
        obtain ⟨place, deadline, stage⟩ := scan
        obtain rfl := hstage
        rfl
      refine .planned ((task?_congr h.tasks id).trans hscan) hstage hstart ?_ ?_ ?_ ?_
        (.inr ((halarm hunfinished).mono ?_))
      · rwa [h.now]
      · rwa [h.config]
      · rwa [h.config, h.lag]
      · rwa [h.now]
      · rwa [Scan.due, hstage]
  | begins hstage' hstart' h =>
      cases hstage.symm.trans hstage'
      have hclock := hclock hstart'
      refine proceed (w := w.beginTurn (.task id)) hscan h.toMild Nat.one_pos rfl ?_ ?_
        hclock.ge (hclock.trans_le (Nat.le_trans (Nat.le_add_right ..) hlimit))
      · rw [hdeadline, ← hclock]
        rfl
      · rw [← hclock, ← Nat.add_assoc] at hlimit
        exact hlimit
  | refused hstage' hstart' h =>
      cases hstage.symm.trans hstage'
      have hclock := hclock hstart'
      exact finishScan (w := w.beginTurn (.task id)) hscan h.toMild _ _ hclock.ge
        (hclock.trans_le (Nat.le_trans (Nat.le_add_right ..) hlimit))
  | stops hstage' => cases hstage.symm.trans hstage'
  | gets hstage' h => simp [hstage, ScanStage.isAsking] at hstage'
  | works hstage' h => cases hstage.symm.trans hstage'

/-- It goes on, ends, or sees to it that an alarm will wake it. -/
theorem turn_of_going (hscan : w.task? id = some (.scan scan)) (hgoing : 0 < scan.stage.rank)
    (hunfinished : (Task.scan scan).isFinished = false) (hdeadline : scan.deadline = deadline)
    (hdue : scan.due ≤ limit) (hbegun : begun ≤ w.now) (hnow : w.now ≤ limit)
    (hle : deadline ≤ limit) : (w.happen (.turn (.task id))).InTime id begun deadline limit := by
  have hwaits {v : World} (h : (w.beginTurn (.task id)).Calm v)
      (halarm : v.WakesBy id limit) : v.InTime id begun deadline limit := by
    refine .going ((task?_congr h.tasks id).trans hscan) hgoing hunfinished hdeadline hdue
      ?_ ?_ (.inr halarm)
    · rwa [h.now]
    · rwa [h.now]
  have hturn := scanTurn_happen hscan
  generalize w.happen (.turn (.task id)) = w' at hturn ⊢
  cases hturn with
  | waits h halarm => exact hwaits h.toCalm ((halarm hunfinished).mono hdue)
  | begins hstage hstart h => simp [hstage, ScanStage.rank] at hgoing
  | refused hstage hstart h => simp [hstage, ScanStage.rank] at hgoing
  | stops hstage =>
      exact proceed (w := w.beginTurn (.task id)) hscan (Calm.refl _).toMild Nat.two_pos rfl
        hdeadline (hdeadline.trans_le hle) hbegun hnow
  | gets hstage h => exact lands h hscan hdeadline hle hbegun hnow
  | works hstage h =>
      cases h with
      | waits h halarm => exact hwaits h.toCalm (halarm.mono (hdeadline.trans_le hle))
      | lands hwait h => exact lands h hscan hdeadline hle hbegun hnow
      | quits h hmay =>
          exact finishScan (w := w.beginTurn (.task id)) hscan h.toMild _ _ hbegun hnow
      | takes hwait hcan h hkind hrank =>
          exact work (w := w.beginTurn (.task id)) hscan h.toMild hdeadline hle hbegun hnow

/-- The scan has a turn of its own. -/
theorem turn (h : w.InTime id begun deadline limit) (hle : deadline ≤ limit) :
    (w.happen (.turn (.task id))).InTime id begun deadline limit := by
  cases h with
  | planned hscan hstage hstart hbegun hdeadline hlimit hnow hheeded =>
      exact turn_of_planned hscan hstage hstart hbegun hdeadline hlimit hnow
  | going hscan hgoing hunfinished hdeadline hdue hbegun hnow hheeded =>
      exact turn_of_going hscan hgoing hunfinished hdeadline hdue hbegun hnow hle
  | ended hscan hstage hbegun hlimit =>
      exact .ended (task?_happen_of_finished hscan hstage _) hstage hbegun hlimit

theorem happen (h : w.InTime id begun deadline limit) (hle : deadline ≤ limit)
    (htimely : w.IsTimely e) : (w.happen e).InTime id begun deadline limit := by
  by_cases hturn : e = .turn (.task id)
  · subst hturn
    exact h.turn hle
  · cases e with
    | pass now => exact h.pass htimely
    | _ => exact h.elsewhere (.happen hturn nofun)

theorem run {events : List Event} (h : w.InTime id begun deadline limit) (hle : deadline ≤ limit)
    (htimely : w.Timely events) : (w.run events).InTime id begun deadline limit := by
  induction events generalizing w with
  | nil => exact h
  | cons e events ih => exact ih (h.happen hle htimely.1) htimely.2

/-- Nobody waits any more when the time is up. -/
theorem over_of_isWaiting (h : w.InTime id begun deadline limit) (hwaiting : w.IsWaiting)
    (hlate : limit ≤ w.now) :
    ∃ scan result at_, w.task? id = some (.scan scan) ∧ scan.stage = .finished result at_ ∧
      at_ ≤ limit := by
  have hearly {due : Nat} (hheeded : w.Heeded id due) : w.now < due := by
    rcases hheeded with hready | ⟨a, ha, howner, hlater, hdue⟩
    · rw [hwaiting] at hready
      cases hready
    · exact Nat.lt_of_lt_of_le hlater hdue
  cases h with
  | planned hscan hstage hstart hbegun hdeadline hlimit hnow hheeded =>
      have hnow := hearly hheeded
      omega
  | going hscan hgoing hunfinished hdeadline hdue hbegun hnow hheeded =>
      have hnow := hearly hheeded
      omega
  | ended hscan hstage hbegun hlimit => exact ⟨_, _, _, hscan, hstage, hlimit⟩

/-- The timeline brings the end of a scan about. -/
theorem exists_over (h : w.InTime id begun deadline limit)
    (hle : deadline ≤ limit) {until_ : Nat} (huntil : limit ≤ until_) :
    ∃ turns, ∀ n ≥ turns, ∃ scan result at_,
      (Timed.runUntil (fun _ => false) until_ n w).task? id = some (.scan scan) ∧
        scan.stage = .finished result at_ ∧ at_ ≤ limit := by
  obtain ⟨turns, hrest⟩ := exists_rest until_ w
  refine ⟨turns, fun n hn => ?_⟩
  obtain ⟨hwaiting, hlate⟩ := hrest n hn
  obtain ⟨more, hmore, hrun⟩ := exists_run_of_runUntil (fun _ => false) until_ n w
  rw [hrun] at hwaiting hlate ⊢
  exact (h.run hle hmore).over_of_isWaiting hwaiting (Nat.le_trans huntil hlate)

end InTime

/-- When a scan begins that has been asked for. -/
theorem inTime_scan (hfresh : w.task? w.nextId = none) (place : Place) (start : Nat) :
    (w.happen (.scan place start)).InTime w.nextId (max w.now start)
      (max w.now start + w.config.requestTimeout)
      (max w.now start + max w.config.requestTimeout (w.config.checkoutTimeout + w.lag)) := by
  have hclock : (w.happen (.scan place start)).now = w.now := Timeline.now_wake ..
  have hscan := Keyed.lookup_append_of_none hfresh (.scan { place, stage := .planned start })
  refine .planned hscan rfl (Nat.le_max_right ..) ?_ rfl ?_ ?_ (.inl ?_)
  · rw [hclock]
  · exact Nat.add_le_add_left (Nat.le_max_right ..) _
  · rw [hclock]
    exact Nat.le_max_left ..
  · exact Timeline.mem_ready_wake.mpr (.inr rfl)

end World

end MapScout
