import MapScout.Proofs.Gate.Attendance

/-!
# Turns at a gate

Whatever happens in a timely run, the line stays in order.  A turn of somebody in line ends in one
of three ways: the visitor takes the token, gives up, or waits on.
-/

namespace MapScout.GateLine

open Coming (forecast dueThrough)

variable {l : GateLine} {log before after : List Coming} {c k : Coming} {id : Nat}
variable {period start : Nat}

/-! ## Waking -/

/-- Once the first in line is woken, everybody is watched. -/
theorem Watched.wakeHead (h : l.Watched l.gate.queue.head? log) : l.wakeHead.Watched none log := by
  have hline := l.sameLine_wakeHead
  have hnow := l.now_wakeHead
  have halarms : l.wakeHead.time.alarms = l.time.alarms := by
    rw [GateLine.wakeHead]
    split
    · exact Timeline.alarms_wake ..
    · rfl
  have hready : ∀ o ∈ l.time.ready, o ∈ l.wakeHead.time.ready := by
    intro o ho
    rw [GateLine.wakeHead]
    split
    · exact Timeline.mem_ready_wake.mpr (Or.inl ho)
    · exact ho
  have hhead : ∀ id, l.gate.queue.head? = some id → .visitor id ∈ l.wakeHead.time.ready := by
    intro id hid
    rw [GateLine.wakeHead, hid]
    exact Timeline.mem_ready_wake.mpr (Or.inr rfl)
  have harmed : l.wakeHead.gate = l.gate := by
    rw [GateLine.wakeHead]
    split <;> rfl
  constructor
  · intro c hc _ deadline hdeadline
    rw [hline.pending] at hc
    by_cases hc' : l.gate.queue.head? = some c.id
    · exact Or.inl (hhead c.id hc')
    · rw [hnow, halarms]
      exact (h.deadline c hc (Ne.symm hc') deadline hdeadline).imp_left (hready _)
  · intro id hid _
    rw [harmed] at hid
    exact Or.inl (hhead id hid)
  · rw [harmed, halarms, hnow]
    exact h.armed
  · rw [halarms, hnow]
    exact h.later

/-- The line is in order once the first in line is woken. -/
theorem inOrder_wakeHead (hrecorded : l.Recorded log) (hforetold : l.Foretold period start log)
    (hpunctual : l.Punctual log) (hwatched : l.Watched l.gate.queue.head? log) :
    l.wakeHead.InOrder period start log where
  recorded := l.sameLine_wakeHead.recorded hrecorded
  foretold := l.sameLine_wakeHead.foretold hforetold
  punctual := l.sameLine_wakeHead.punctual l.now_wakeHead hpunctual
  watched := hwatched.wakeHead

/-! ## The end of a visit -/

theorem ready_left {o : LineOwner} {granted : Bool} {gate : Gate} (ho : o ≠ .visitor id)
    (hready : o ∈ l.time.ready) : o ∈ (l.left id granted gate).time.ready :=
  Timeline.mem_ready_forget.mpr ⟨hready, ho⟩

theorem alarms_left {a : Alarm LineOwner} {granted : Bool} {gate : Gate} :
    a ∈ (l.left id granted gate).time.alarms ↔ a ∈ l.time.alarms ∧ a.owner ≠ .visitor id := by
  change a ∈ l.time.alarms.filter (·.owner != .visitor id) ↔ _
  simp

/-- Whoever has its turn leaves, with or without a token, and the next in line is woken. -/
theorem Midway.finish {granted : Bool} {gate : Gate}
    (h : l.Midway period start (before ++ k :: after) k)
    (hperiod : gate.period = l.gate.period) (hqueue : gate.queue = l.gate.queue.erase k.id)
    (hdue : l.gate.due ≤ gate.due)
    (harmed : gate.armed = true → l.gate.armed = true ∧ gate.due = l.gate.due)
    (hfirst : granted = true → ∀ d ∈ before, (l.visit? d.id).isSome)
    (hforecast : forecast (l.left k.id granted gate).visit? period gate.due
          (before ++ k :: after) =
        forecast l.visit? period l.gate.due (before ++ k :: after) ∧
      dueThrough (l.left k.id granted gate).visit? period gate.due (before ++ k :: after) =
        dueThrough l.visit? period l.gate.due (before ++ k :: after)) :
    (l.finish k.id granted gate).InOrder period start (before ++ k :: after) := by
  obtain ⟨hk, hnone⟩ := mem_pending.mp h.mem
  rw [finish_eq]
  refine inOrder_wakeHead (h.recorded.left hk hqueue)
    (h.foretold.left h.recorded hnone hperiod hfirst hforecast) ⟨?_, ?_⟩ ⟨?_, ?_, ?_, ?_⟩
  · intro c hc
    obtain ⟨hc, hne⟩ := (h.recorded.mem_pending_left hk).mp hc
    exact Nat.le_trans (h.due_others c hc hne) hdue
  · intro c hc
    exact h.deadline c ((h.recorded.mem_pending_left hk).mp hc).1
  · intro c hc _ deadline hdeadline
    obtain ⟨hc, hne⟩ := (h.recorded.mem_pending_left hk).mp hc
    have howner : LineOwner.visitor c.id ≠ .visitor k.id := fun he => hne (LineOwner.visitor.inj he)
    rcases h.watched.deadline c hc (fun he => hne (Option.some.inj he)) deadline hdeadline with
      hready | ⟨hlater, halarm⟩
    · exact Or.inl (ready_left howner hready)
    · exact Or.inr ⟨hlater, alarms_left.mpr ⟨halarm, howner⟩⟩
  · intro id hid hne
    exact absurd hid.symm hne
  · intro hgate
    obtain ⟨hgate, hsame⟩ := harmed hgate
    change ⟨gate.due, .token⟩ ∈ (l.left k.id granted gate).time.alarms ∨ gate.due ≤ l.now
    rw [hsame]
    exact (h.watched.armed hgate).imp_left fun halarm => alarms_left.mpr ⟨halarm, nofun⟩
  · intro a ha
    exact h.watched.later a (alarms_left.mp ha).1

/-- Only the first in line takes a token, and only when one is due. -/
theorem head?_of_canTake (hperiod : l.gate.period ≠ 0)
    (hcan : l.gate.canTake id l.now = true) :
    l.gate.queue.head? = some id ∧ l.gate.due ≤ l.now := by
  simpa [Gate.canTake, hperiod] using hcan

/-- Whoever takes a token leaves the queue. -/
theorem queue_take (hperiod : l.gate.period ≠ 0)
    (hcan : l.gate.canTake id l.now = true) :
    (l.gate.take l.now).queue = l.gate.queue.erase id := by
  rw [Gate.take, if_neg hperiod, ← List.cons_head?_tail (head?_of_canTake hperiod hcan).1,
    List.tail_cons, List.erase_cons_head]

/-- The first in line takes the token that is due. -/
theorem Midway.take (h : l.Midway period start log k) (hperiod : 0 < period)
    (hcan : l.gate.canTake k.id l.now = true) :
    (l.finish k.id true (l.gate.take l.now)).InOrder period start log := by
  obtain ⟨hk, hnone⟩ := mem_pending.mp h.mem
  have hpositive : l.gate.period ≠ 0 := by
    rw [h.foretold.period_eq]
    omega
  obtain ⟨hhead, hdue⟩ := head?_of_canTake hpositive hcan
  obtain ⟨before, after, rfl⟩ := List.append_of_mem hk
  have htake : l.gate.take l.now =
      { l.gate with
        due := Gate.nextDue l.gate.period l.gate.due l.now, queue := l.gate.queue.tail,
        armed := false } := if_neg hpositive
  have hqueue := queue_take hpositive hcan
  have hended := h.recorded.ended_of_head hhead
  -- The token is due at the latest moment at which it is of use, or the visitor has just come.
  have houtcome : k.outcome l.gate.due = ⟨true, l.now⟩ := by
    have hmoment := h.recorded.moment_le k hk
    have hself := h.due_self
    rw [Coming.outcome_granted fun deadline hdeadline =>
      Nat.le_trans hdue (h.deadline k h.mem deadline hdeadline)]
    congr 1
    omega
  rw [htake] at hqueue ⊢
  refine h.finish rfl hqueue ?_ nofun (fun _ => hended) ?_
  · exact Nat.le_trans (Nat.le_add_right ..) (Coming.due_add_le_nextDue ..)
  · rw [h.foretold.period_eq]
    exact Coming.forecast_granted (h.recorded.endsAs hnone ..) hended houtcome

theorem blocked (hcannot : l.gate.canTake id l.now = false)
    (hhead : l.gate.queue.head? = some id) : l.now < l.gate.due := by
  simp [Gate.canTake, hhead] at hcannot
  omega

/-- Whoever cannot take a token now could not have one now whatever the others do. -/
theorem Midway.lt_due (h : l.Midway period start (before ++ k :: after) k) (hperiod : 0 < period)
    (hcannot : l.gate.canTake k.id l.now = false) :
    l.now < dueThrough l.visit? period l.gate.due before := by
  by_cases hdue : l.now < l.gate.due
  · exact Nat.lt_of_lt_of_le hdue (Coming.le_dueThrough ..)
  have hnothead : l.gate.queue.head? ≠ some k.id := fun hhead => hdue (blocked hcannot hhead)
  have hwaiting : ∃ d ∈ before, l.visit? d.id = none := by
    by_contra hall
    have hnobody : before.filter (fun c => (l.visit? c.id).isNone) = [] := by
      rw [List.filter_eq_nil_iff]
      intro d hd hnone
      exact hall ⟨d, hd, Option.isNone_iff_eq_none.mp hnone⟩
    have hnone := (mem_pending.mp h.mem).2
    rw [h.recorded.queue_eq, pending, List.filter_append, hnobody, List.nil_append,
      List.filter_cons_of_pos (by rw [hnone]; rfl)] at hnothead
    exact hnothead rfl
  have hbefore : ∀ d ∈ before, d ∈ before ++ k :: after := fun d => List.mem_append_left _
  obtain ⟨d, hd, hnone⟩ := hwaiting
  have hnow : l.gate.due = l.now := by
    have hne := id_ne_of_nodup h.recorded.ids_nodup (List.mem_append_left after hd)
    have hothers := h.due_others d (mem_pending.mpr ⟨hbefore d hd, hnone⟩) hne
    omega
  rw [hnow]
  exact Coming.lt_dueThrough hperiod (fun c hc => h.recorded.moment_le c (hbefore c hc))
    (fun c hc hnone => h.deadline c (mem_pending.mpr ⟨hbefore c hc, hnone⟩)) ⟨d, hd, hnone⟩

/-- Somebody in line gives up. -/
theorem Midway.leave {deadline : Nat} (h : l.Midway period start log k) (hperiod : 0 < period)
    (hcannot : l.gate.canTake k.id l.now = false) (hdeadline : k.deadline = some deadline)
    (hover : deadline ≤ l.now) :
    (l.finish k.id false (l.gate.leave k.id)).InOrder period start log := by
  obtain ⟨hk, hnone⟩ := mem_pending.mp h.mem
  obtain ⟨before, after, rfl⟩ := List.append_of_mem hk
  have houtcome : k.outcome (dueThrough l.visit? period l.gate.due before) = ⟨false, l.now⟩ := by
    have hmoment := h.recorded.moment_le k hk
    have hlast := h.deadline k h.mem deadline hdeadline
    have hnow : max k.moment deadline = l.now := by omega
    have hlater := h.lt_due hperiod hcannot
    rw [← hnow] at hlater
    rw [Coming.outcome_refused hdeadline hlater, hnow]
  refine h.finish rfl rfl (Nat.le_refl _) (fun harmed => ⟨harmed, rfl⟩) nofun ?_
  exact Coming.forecast_refused (h.recorded.endsAs hnone ..) houtcome rfl

/-! ## Waiting on -/

theorem now_setAlarm (due : Nat) (o : LineOwner) (l : GateLine) :
    (l.onTime (·.setAlarm due o)).now = l.now := Timeline.now_setAlarm ..

theorem Watched.setAlarm {but : Option Nat} {due : Nat} (h : l.Watched but log) (hdue : l.now < due)
    (o : LineOwner) : (l.onTime (·.setAlarm due o)).Watched but log := by
  have hnow := now_setAlarm due o l
  have halarms : ∀ a ∈ l.time.alarms, a ∈ (l.onTime (·.setAlarm due o)).time.alarms :=
    fun a ha => Timeline.mem_alarms_setAlarm.mpr (Or.inl ha)
  have hready : (l.onTime (·.setAlarm due o)).time.ready = l.time.ready :=
    Timeline.ready_setAlarm ..
  constructor
  · intro c hc hne deadline hdeadline
    rw [hready, hnow]
    exact (h.deadline c hc hne deadline hdeadline).imp_right (And.imp_right (halarms _))
  · rw [hready, hnow]
    exact h.head
  · rw [hnow]
    exact fun harmed => (h.armed harmed).imp_left (halarms _)
  · intro a ha
    rw [hnow]
    rcases Timeline.mem_alarms_setAlarm.mp ha with ha | rfl
    · exact h.later a ha
    · exact hdue

theorem Watched.armed_true {but : Option Nat} (h : l.Watched but log)
    (halarm : ⟨l.gate.due, .token⟩ ∈ l.time.alarms) :
    ({ l with gate := { l.gate with armed := true } } : GateLine).Watched but log where
  deadline := h.deadline
  head id hid hne := (h.head id hid hne).imp_right (Or.imp_right fun hold => ⟨rfl, hold.2⟩)
  armed _ := Or.inl halarm
  later := h.later

/-- Whoever is first in line has itself woken when the token is due. -/
theorem Watched.arm {but : Option Nat} (h : l.Watched but log)
    (hblocked : l.gate.queue.head? = some id → l.now < l.gate.due) :
    l.SameLine (l.arm id) ∧ (l.arm id).now = l.now ∧ (l.arm id).Watched but log ∧
      (l.gate.queue.head? = some id → (l.arm id).gate.armed = true) := by
  rw [GateLine.arm]
  split
  · rename_i hset
    obtain ⟨hhead, -⟩ : l.gate.queue.head? = some id ∧ l.gate.armed = false := by simpa using hset
    have hnow := Timeline.now_setAlarm l.gate.due .token l.time
    have halarm : ⟨l.gate.due, .token⟩ ∈ (l.time.setAlarm l.gate.due .token).alarms :=
      Timeline.mem_alarms_setAlarm.mpr (Or.inr rfl)
    have hwatched := (h.setAlarm (hblocked hhead) .token).armed_true halarm
    exact ⟨.of_eq ⟨rfl, rfl, rfl⟩ rfl rfl (Nat.le_of_eq hnow.symm), hnow, hwatched, fun _ => rfl⟩
  · rename_i hset
    refine ⟨.of_eq ⟨rfl, rfl, rfl⟩ rfl rfl (Nat.le_refl _), rfl, h, fun hhead => ?_⟩
    simpa [hhead] using hset

/-- Whoever waits on has seen to it that it is woken. -/
theorem Watched.complete (h : l.Watched (some k.id) log) (hrecorded : l.Recorded log) (hk : k ∈ log)
    (hdeadline : ∀ deadline, k.deadline = some deadline →
      l.now < deadline ∧ ⟨deadline, .visitor k.id⟩ ∈ l.time.alarms)
    (hhead : l.gate.queue.head? = some k.id → l.gate.armed = true ∧ l.now < l.gate.due) :
    l.Watched none log where
  deadline c hc _ := by
    by_cases hsame : c.id = k.id
    · obtain rfl := List.inj_on_of_nodup_map hrecorded.ids_nodup (mem_pending.mp hc).1 hk hsame
      exact fun deadline hc => Or.inr (hdeadline deadline hc)
    · exact h.deadline c hc fun he => hsame (Option.some.inj he)
  head id hid _ := by
    by_cases hsame : id = k.id
    · exact Or.inr (Or.inr (hhead (hsame ▸ hid)))
    · exact h.head id hid fun he => hsame (Option.some.inj he)
  armed := h.armed
  later := h.later

/-- While somebody has to wait, the next token is not overdue. -/
theorem Midway.le_due (h : l.Midway period start log k)
    (hcannot : l.gate.canTake k.id l.now = false) : l.now ≤ l.gate.due := by
  cases hpending : l.pending log with
  | nil =>
      have hmem := h.mem
      rw [hpending] at hmem
      cases hmem
  | cons d rest =>
      by_cases hsame : d.id = k.id
      · have hhead : l.gate.queue.head? = some k.id := by
          rw [h.recorded.queue_eq, hpending, ← hsame]
          rfl
        exact Nat.le_of_lt (blocked hcannot hhead)
      · exact h.due_others d (hpending ▸ List.mem_cons_self) hsame

/-- Somebody in line waits on. -/
theorem Midway.waitOn {l' : GateLine} (h : l.Midway period start log k)
    (hcannot : l.gate.canTake k.id l.now = false) (hline : l.SameLine l') (hnow : l'.now = l.now)
    (hwatched : l'.Watched none log) : l'.InOrder period start log where
  recorded := hline.recorded h.recorded
  foretold := hline.foretold h.foretold
  punctual := hline.punctual hnow ⟨fun _ _ => h.le_due hcannot, h.deadline⟩
  watched := hwatched

/-- Whatever somebody in line does at its turn, the line is in order after that. -/
theorem Midway.inLineTurn (h : l.Midway period start log k) (hperiod : 0 < period) :
    (l.inLineTurn k.id k.deadline).InOrder period start log := by
  rw [GateLine.inLineTurn.eq_def]
  split
  · rename_i hcan
    exact h.take hperiod hcan
  · rename_i hcannot
    have hcannot : l.gate.canTake k.id l.now = false := by simpa using hcannot
    have hblocked := blocked hcannot
    obtain ⟨hline, hnow, hwatched, harmed⟩ := h.watched.arm hblocked
    have hmem := (mem_pending.mp h.mem).1
    split
    · rename_i hdeadline
      refine h.waitOn hcannot hline hnow (hwatched.complete (hline.recorded h.recorded) hmem ?_ ?_)
      · rw [hdeadline]
        nofun
      · rw [hline.queue, hline.due, hnow]
        exact fun hhead => ⟨harmed hhead, hblocked hhead⟩
    · rename_i deadline hdeadline
      split
      · rename_i hover
        exact h.leave hperiod hcannot hdeadline hover
      · rename_i hover
        have hlater : (l.arm k.id).now < deadline := by omega
        have halarm := hwatched.setAlarm hlater (.visitor k.id)
        have hnow' := (now_setAlarm deadline (.visitor k.id) (l.arm k.id)).trans hnow
        have hline' := hline.trans ((l.arm k.id).sameLine_onTime
          (Nat.le_of_eq (now_setAlarm deadline (.visitor k.id) (l.arm k.id)).symm))
        refine h.waitOn hcannot hline' hnow'
          (halarm.complete (hline'.recorded h.recorded) hmem ?_ ?_)
        · intro other hother
          obtain rfl := Option.some.inj (hdeadline.symm.trans hother)
          refine ⟨?_, Timeline.mem_alarms_setAlarm.mpr (Or.inr rfl)⟩
          rw [now_setAlarm]
          exact hlater
        · rw [hline'.queue, hline'.due, hnow']
          exact fun hhead => ⟨harmed hhead, hblocked hhead⟩

end MapScout.GateLine
