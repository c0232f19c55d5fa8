import MapScout.Proofs.Gate.Turns

/-!
# Lines stay in order

Every event of a timely run keeps the line in order, and so does the run.
-/

namespace MapScout.GateLine

variable {l : GateLine} {log : List Coming} {c k : Coming} {id : Nat} {v : Visitor}
variable {period start : Nat}

/-! ## Turns -/

theorem sameLine_beginTurn (o : LineOwner) (l : GateLine) : l.SameLine (l.beginTurn o) :=
  l.sameLine_onTime (Nat.le_refl _)

theorem ready_beginTurn {o o' : LineOwner} (ho : o' ≠ o) (hready : o' ∈ l.time.ready) :
    o' ∈ (l.beginTurn o).time.ready :=
  (List.mem_erase_of_ne ho).mpr hready

/-- The visitor whose turn it is need not be woken any more. -/
theorem Watched.beginTurn (h : l.Watched none log) (id : Nat) :
    (l.beginTurn (.visitor id)).Watched (some id) log where
  deadline c hc hne deadline hdeadline := by
    have howner : LineOwner.visitor c.id ≠ .visitor id := fun he =>
      hne (congrArg some (LineOwner.visitor.inj he))
    exact (h.deadline c hc nofun deadline hdeadline).imp_left (ready_beginTurn howner)
  head i hi hne := by
    have howner : LineOwner.visitor i ≠ .visitor id := fun he =>
      hne (congrArg some (LineOwner.visitor.inj he))
    exact (h.head i hi nofun).imp (ready_beginTurn howner) (Or.imp_left (ready_beginTurn nofun))
  armed := h.armed
  later := h.later

theorem Watched.beginTurn_token (h : l.Watched none log) :
    (l.beginTurn .token).Watched l.gate.queue.head? log where
  deadline c hc _ deadline hdeadline :=
    (h.deadline c hc nofun deadline hdeadline).imp_left (ready_beginTurn nofun)
  head _ hi hne := absurd hi.symm hne
  armed := h.armed
  later := h.later

/-- The turn of somebody who is not in line changes nothing. -/
theorem Watched.of_not_pending (h : l.Watched (some id) log) (hrecorded : l.Recorded log)
    (hnot : ∀ c ∈ l.pending log, c.id ≠ id) : l.Watched none log where
  deadline c hc _ := h.deadline c hc fun he => hnot c hc (Option.some.inj he)
  head i hi _ := by
    refine h.head i hi fun he => ?_
    have hmem : i ∈ l.gate.queue := List.mem_of_head? hi
    rw [hrecorded.queue_eq] at hmem
    obtain ⟨c, hc, rfl⟩ := List.mem_map.mp hmem
    exact hnot c hc (Option.some.inj he)
  armed := h.armed
  later := h.later

/-- Somebody in line has its turn. -/
theorem InOrder.midway (h : l.InOrder period start log) (hk : k ∈ l.pending log) :
    (l.beginTurn (.visitor k.id)).Midway period start log k where
  recorded := (sameLine_beginTurn _ l).recorded h.recorded
  foretold := (sameLine_beginTurn _ l).foretold h.foretold
  mem := hk
  due_self := Nat.le_trans (h.punctual.due k hk) (Nat.le_max_right ..)
  due_others c hc _ := h.punctual.due c hc
  deadline := h.punctual.deadline
  watched := h.watched.beginTurn k.id

/-- Whoever gets in line stands behind the others, who are as well watched as before. -/
theorem Watched.lineUp {but : Option Nat} {deadline : Option Nat} (h : l.Watched but log)
    (hbut : but = some id) (hperiod : l.gate.period ≠ 0)
    (hnew : l.visitors.lookup id = some ⟨deadline, .arriving⟩) :
    (l.lineUp id).Watched but (log ++ [⟨id, l.now, deadline⟩]) := by
  have hpending := pending_lineUp log hnew
  have hgate : (l.lineUp id).gate = { l.gate with queue := l.gate.queue ++ [id] } :=
    if_neg hperiod
  have hnow : (l.lineUp id).now = l.now := rfl
  refine ⟨?_, ?_, ?_, h.later⟩
  · intro c hc hne
    rcases List.mem_append.mp (hpending ▸ hc) with hc | hc
    · exact h.deadline c hc hne
    · obtain rfl := List.mem_singleton.mp hc
      exact absurd hbut.symm hne
  · intro i hi hne
    rw [hgate] at hi ⊢
    refine h.head i ?_ hne
    dsimp only at hi
    rw [List.head?_append] at hi
    cases hhead : l.gate.queue.head? with
    | none =>
        rw [hhead] at hi
        exact absurd (hi.symm.trans hbut.symm) hne
    | some j =>
        rw [hhead] at hi
        exact hi
  · rw [hgate, hnow]
    exact h.armed

/-- Somebody has its first turn. -/
theorem InOrder.midway_lineUp {deadline : Option Nat} (h : l.InOrder period start log)
    (hperiod : 0 < period) (hnew : l.visitors.lookup id = some ⟨deadline, .arriving⟩) :
    ((l.beginTurn (.visitor id)).lineUp id).Midway period start (log ++ [⟨id, l.now, deadline⟩])
      ⟨id, l.now, deadline⟩ := by
  have hline := sameLine_beginTurn (.visitor id) l
  have hpositive : l.gate.period ≠ 0 := by
    rw [h.foretold.period_eq]
    omega
  have hpending := pending_lineUp (l := l.beginTurn (.visitor id)) log hnew
  have hdue : ((l.beginTurn (.visitor id)).lineUp id).gate.due = l.gate.due := by
    have hgate : ((l.beginTurn (.visitor id)).lineUp id).gate =
        { l.gate with queue := l.gate.queue ++ [id] } := if_neg hpositive
    rw [hgate]
  refine ⟨(hline.recorded h.recorded).lineUp hpositive hnew,
    (hline.foretold h.foretold).lineUp hnew, ?_, Nat.le_max_left .., ?_, ?_,
    (h.watched.beginTurn id).lineUp rfl hpositive hnew⟩
  · exact hpending ▸ List.mem_append_right _ List.mem_cons_self
  · intro c hc hne
    rcases List.mem_append.mp (hpending ▸ hc) with hc | hc
    · rw [hdue]
      exact h.punctual.due c hc
    · exact absurd (congrArg Coming.id (List.mem_singleton.mp hc)) hne
  · intro c hc deadline hdeadline
    rcases List.mem_append.mp (hpending ▸ hc) with hc | hc
    · exact h.punctual.deadline c hc deadline hdeadline
    · obtain rfl := List.mem_singleton.mp hc
      exact Nat.le_max_left ..

theorem turn_unknown (h : l.visitors.lookup id = none) : GateLine.turn (.visitor id) l = l := by
  rw [GateLine.turn, h]

theorem turn_arriving {deadline : Option Nat}
    (h : l.visitors.lookup id = some ⟨deadline, .arriving⟩) :
    GateLine.turn (.visitor id) l = (l.lineUp id).inLineTurn id deadline := by
  rw [GateLine.turn, h]
  rfl

theorem turn_inLine {deadline : Option Nat} (h : l.visitors.lookup id = some ⟨deadline, .inLine⟩) :
    GateLine.turn (.visitor id) l = l.inLineTurn id deadline := by
  rw [GateLine.turn, h]

theorem turn_gone {deadline : Option Nat} {visit : Visit}
    (h : l.visitors.lookup id = some ⟨deadline, .gone visit⟩) :
    GateLine.turn (.visitor id) l = l := by
  rw [GateLine.turn, h]

theorem comingsAt_arriving {deadline : Option Nat}
    (h : l.visitors.lookup id = some ⟨deadline, .arriving⟩) :
    l.comingsAt (.turn (.visitor id)) = [⟨id, l.now, deadline⟩] := by
  rw [comingsAt, h]

theorem comingsAt_of_ne (h : ∀ deadline, l.visitors.lookup id ≠ some ⟨deadline, .arriving⟩) :
    l.comingsAt (.turn (.visitor id)) = [] := by
  rw [comingsAt]
  split
  · rename_i deadline hv
    exact absurd hv (h deadline)
  · rfl

/-- What a visitor does at a turn: nothing, unless it is in line or has just come. -/
theorem InOrder.turn_cases (h : l.InOrder period start log) (id : Nat) :
    (l.happen (.turn (.visitor id)) = l.beginTurn (.visitor id) ∧
        l.comingsAt (.turn (.visitor id)) = [] ∧ ∀ c ∈ l.pending log, c.id ≠ id) ∨
      (∃ k ∈ l.pending log, k.id = id ∧
        l.happen (.turn (.visitor id)) =
          (l.beginTurn (.visitor k.id)).inLineTurn k.id k.deadline ∧
        l.comingsAt (.turn (.visitor id)) = []) ∨
      ∃ deadline, l.visitors.lookup id = some ⟨deadline, .arriving⟩ ∧
        l.happen (.turn (.visitor id)) =
          ((l.beginTurn (.visitor id)).lineUp id).inLineTurn id deadline ∧
        l.comingsAt (.turn (.visitor id)) = [⟨id, l.now, deadline⟩] := by
  cases hv : l.visitors.lookup id with
  | none =>
      refine Or.inl ⟨turn_unknown (l := l.beginTurn (.visitor id)) hv,
        comingsAt_of_ne (by simp [hv]), fun c hc he => ?_⟩
      obtain ⟨stage, hlookup, -⟩ := h.recorded.known c (mem_pending.mp hc).1
      rw [he, hv] at hlookup
      cases hlookup
  | some v =>
      obtain ⟨deadline, stage⟩ := v
      cases stage with
      | arriving =>
          exact Or.inr (Or.inr ⟨deadline, rfl,
            turn_arriving (l := l.beginTurn (.visitor id)) hv, comingsAt_arriving hv⟩)
      | inLine =>
          obtain ⟨k, hk, rfl⟩ := List.mem_map.mp (h.recorded.logged id _ hv nofun)
          obtain ⟨stage, hlookup, -⟩ := h.recorded.known k hk
          rw [hv] at hlookup
          obtain rfl : deadline = k.deadline :=
            congrArg Visitor.deadline (Option.some.inj hlookup)
          exact Or.inr (Or.inl ⟨k, mem_pending.mpr ⟨hk, visit?_of_lookup hv⟩, rfl,
            turn_inLine (l := l.beginTurn (.visitor k.id)) hv, comingsAt_of_ne (by simp [hv])⟩)
      | gone visit =>
          refine Or.inl ⟨turn_gone (l := l.beginTurn (.visitor id)) hv,
            comingsAt_of_ne (by simp [hv]), fun c hc he => ?_⟩
          have hnone := (mem_pending.mp hc).2
          rw [he, visit?_of_lookup hv] at hnone
          cases hnone

/-- A turn keeps the invariant of the line, and writes down a new arrival. -/
theorem InOrder.turn (h : l.InOrder period start log) (hperiod : 0 < period) (o : LineOwner) :
    (l.happen (.turn o)).InOrder period start (log ++ l.comingsAt (.turn o)) := by
  have hline := sameLine_beginTurn o l
  cases o with
  | token =>
      have hnobody : l.comingsAt (.turn .token) = [] := rfl
      rw [hnobody, List.append_nil]
      exact inOrder_wakeHead (hline.recorded h.recorded) (hline.foretold h.foretold)
        (hline.punctual rfl h.punctual) h.watched.beginTurn_token
  | visitor id =>
      obtain ⟨hturn, hnobody, hnot⟩ | ⟨k, hk, rfl, hturn, hnobody⟩ |
        ⟨deadline, hnew, hturn, hcoming⟩ := h.turn_cases id
      · rw [hturn, hnobody, List.append_nil]
        exact ⟨hline.recorded h.recorded, hline.foretold h.foretold,
          hline.punctual rfl h.punctual,
          (h.watched.beginTurn id).of_not_pending (hline.recorded h.recorded) hnot⟩
      · rw [hturn, hnobody, List.append_nil]
        exact (h.midway hk).inLineTurn hperiod
      · rw [hturn, hcoming]
        exact (h.midway_lineUp hperiod hnew).inLineTurn hperiod

/-! ### What a turn does not do -/

/-- Of the visits only that of the visitor may end, nobody comes, and no time passes. -/
structure Confined (id : Nat) (l l' : GateLine) : Prop where
  visit? : ∀ i, i ≠ id → l'.visit? i = l.visit? i
  keys : l'.visitors.map (·.1) = l.visitors.map (·.1)
  now : l'.now = l.now

theorem Confined.of_sameLine {l' : GateLine} (h : l.SameLine l') (hnow : l'.now = l.now) :
    Confined id l l' :=
  ⟨fun i _ => congrFun h.visit? i, congrArg _ h.visitors, hnow⟩

theorem Confined.trans {l' l'' : GateLine} (h : Confined id l l') (h' : Confined id l' l'') :
    Confined id l l'' :=
  ⟨fun i hi => (h'.visit? i hi).trans (h.visit? i hi), h'.keys.trans h.keys, h'.now.trans h.now⟩

theorem confined_finish (id : Nat) (granted : Bool) (gate : Gate) (l : GateLine) :
    Confined id l (l.finish id granted gate) := by
  have hleft : Confined id l (l.left id granted gate) :=
    ⟨fun _ hi => visit?_left_of_ne granted gate l hi, keys_setStage .., rfl⟩
  exact hleft.trans (.of_sameLine (sameLine_wakeHead _) (now_wakeHead _))

theorem confined_arm (id : Nat) (l : GateLine) : Confined id l (l.arm id) := by
  rw [arm]
  split
  · have hnow := now_setAlarm l.gate.due .token l
    exact .of_sameLine (.of_eq ⟨rfl, rfl, rfl⟩ rfl rfl (Nat.le_of_eq hnow.symm)) hnow
  · exact ⟨fun _ _ => rfl, rfl, rfl⟩

theorem confined_inLineTurn (id : Nat) (deadline : Option Nat) (l : GateLine) :
    Confined id l (l.inLineTurn id deadline) := by
  rw [inLineTurn.eq_def]
  split
  · exact confined_finish ..
  · split
    · exact confined_arm id l
    · rename_i due
      split
      · exact confined_finish ..
      · have hnow := now_setAlarm due (.visitor id) (l.arm id)
        exact (confined_arm id l).trans
          (.of_sameLine ((l.arm id).sameLine_onTime (Nat.le_of_eq hnow.symm)) hnow)

theorem InOrder.confined_turn (h : l.InOrder period start log) (id : Nat) :
    Confined id l (l.happen (.turn (.visitor id))) := by
  have hbegin : Confined id l (l.beginTurn (.visitor id)) :=
    .of_sameLine (sameLine_beginTurn ..) rfl
  obtain ⟨hturn, -, -⟩ | ⟨k, -, rfl, hturn, -⟩ | ⟨deadline, -, hturn, -⟩ := h.turn_cases id
  · rw [hturn]
    exact hbegin
  · rw [hturn]
    exact hbegin.trans (confined_inLineTurn ..)
  · have hlineUp : Confined id (l.beginTurn (.visitor id))
        ((l.beginTurn (.visitor id)).lineUp id) :=
      ⟨fun _ hi => visit?_setStage_of_ne _ _ hi, keys_setStage .., rfl⟩
    rw [hturn]
    exact hbegin.trans (hlineUp.trans (confined_inLineTurn ..))

/-! ## The clock -/

/-- An alarm that is set for later than now either is still set for later or goes off. -/
theorem alarm_advance {a : Alarm LineOwner} {t : Timeline LineOwner} (now : Nat)
    (ha : a ∈ t.alarms) (hlater : t.now < a.due) :
    a.owner ∈ (t.advance now).ready ∨
      (t.advance now).now < a.due ∧ a ∈ (t.advance now).alarms := by
  rw [Timeline.now_advance]
  by_cases hdue : a.due ≤ now
  · exact Or.inl (Timeline.mem_ready_advance_of_due ha hdue)
  · exact Or.inr ⟨by omega, Timeline.mem_alarms_advance ha (Nat.lt_of_not_le hdue)⟩

theorem now_pass (now : Nat) (l : GateLine) : (l.happen (.pass now)).now = max l.now now :=
  Timeline.now_advance ..

theorem sameLine_pass (now : Nat) (l : GateLine) : l.SameLine (l.happen (.pass now)) :=
  l.sameLine_onTime (Nat.le_trans (Nat.le_max_left ..) (Nat.le_of_eq (now_pass now l).symm))

/-- While nobody is ready, the token and the deadlines all lie ahead. -/
theorem InOrder.ahead (h : l.InOrder period start log) (hwaiting : l.IsWaiting)
    (hc : c ∈ l.pending log) :
    (l.now < l.gate.due ∧ ⟨l.gate.due, .token⟩ ∈ l.time.alarms) ∧
      ∀ deadline, c.deadline = some deadline →
        l.now < deadline ∧ ⟨deadline, .visitor c.id⟩ ∈ l.time.alarms := by
  have hnobody : ∀ o, o ∉ l.time.ready := by
    rw [hwaiting]
    exact fun _ => List.not_mem_nil
  constructor
  · have hqueue := h.recorded.queue_eq
    obtain ⟨i, hi⟩ : ∃ i, l.gate.queue.head? = some i := by
      rw [hqueue]
      cases hpending : l.pending log with
      | nil =>
          rw [hpending] at hc
          cases hc
      | cons d rest => exact ⟨d.id, rfl⟩
    obtain hready | hready | ⟨harmed, hlater⟩ := h.watched.head i hi nofun
    · exact absurd hready (hnobody _)
    · exact absurd hready (hnobody _)
    · exact ⟨hlater, (h.watched.armed harmed).resolve_right (Nat.not_le_of_lt hlater)⟩
  · intro deadline hdeadline
    exact (h.watched.deadline c hc nofun deadline hdeadline).resolve_left (hnobody _)

section Pass

variable {now : Nat} (h : l.InOrder period start log) (hwaiting : l.IsWaiting)

include h hwaiting

theorem InOrder.punctual_pass (hnow : ∀ a ∈ l.time.alarms, now ≤ a.due) :
    (l.happen (.pass now)).Punctual log := by
  have hline := sameLine_pass now l
  -- The clock stops at the first alarm, and everybody in line has set one.
  have hin : ∀ a ∈ l.time.alarms, (l.happen (.pass now)).now ≤ a.due := by
    intro a ha
    rw [now_pass]
    exact Nat.max_le.mpr ⟨Nat.le_of_lt (h.watched.later a ha), hnow a ha⟩
  constructor
  · intro c hc
    rw [hline.due]
    exact hin _ (h.ahead hwaiting (hline.pending log ▸ hc)).1.2
  · intro c hc deadline hdeadline
    have hset := ((h.ahead hwaiting (hline.pending log ▸ hc)).2 deadline hdeadline).2
    exact Nat.le_trans (hin _ hset) (Nat.le_max_right ..)

theorem InOrder.watched_pass : (l.happen (.pass now)).Watched none log := by
  have hline := sameLine_pass now l
  have hmoved := now_pass now l
  have halarm (a : Alarm LineOwner) (ha : a ∈ l.time.alarms) :=
    alarm_advance now ha (h.watched.later a ha)
  -- Everybody waits, so all that is to wake them is among the alarms.
  constructor
  · intro c hc _ deadline hdeadline
    exact halarm _ ((h.ahead hwaiting (hline.pending log ▸ hc)).2 deadline hdeadline).2
  · intro id hid _
    have hmem : id ∈ l.gate.queue := List.mem_of_head? hid
    rw [h.recorded.queue_eq] at hmem
    obtain ⟨c, hc, rfl⟩ := List.mem_map.mp hmem
    have hset := (h.ahead hwaiting hc).1.2
    have harmed : l.gate.armed = true := by
      obtain hready | hready | ⟨harmed, -⟩ := h.watched.head _ hid nofun
      · exact absurd (hwaiting ▸ hready) List.not_mem_nil
      · exact absurd (hwaiting ▸ hready) List.not_mem_nil
      · exact harmed
    exact Or.inr ((halarm _ hset).imp_right fun hlater => ⟨harmed, hlater.1⟩)
  · intro harmed
    by_cases hlater : l.gate.due ≤ (l.happen (.pass now)).now
    · exact Or.inr hlater
    · rw [hmoved] at hlater
      have hset := (h.watched.armed harmed).resolve_right (by omega)
      have hahead : now < l.gate.due := by omega
      exact Or.inl (Timeline.mem_alarms_advance hset hahead)
  · intro a ha
    change a ∈ (l.time.advance now).alarms at ha
    rw [Timeline.alarms_advance, List.mem_filter] at ha
    rw [hmoved]
    exact Nat.max_lt.mpr ⟨h.watched.later a ha.1, of_decide_eq_true ha.2⟩

theorem InOrder.pass (hnow : ∀ a ∈ l.time.alarms, now ≤ a.due) :
    (l.happen (.pass now)).InOrder period start log where
  recorded := (sameLine_pass now l).recorded h.recorded
  foretold := (sameLine_pass now l).foretold h.foretold
  punctual := h.punctual_pass hwaiting hnow
  watched := h.watched_pass hwaiting

end Pass

/-! ## New visitors -/

theorem Recorded.nextId_unknown (h : l.Recorded log) : l.nextId ∉ l.visitors.map (·.1) :=
  fun hmem => Nat.lt_irrefl _ (h.keys_lt _ hmem)

theorem InOrder.visit?_arrive (h : l.InOrder period start log) (deadline : Option Nat) :
    (l.happen (.arrive deadline)).visit? = l.visit? := by
  have hnew := h.recorded.nextId_unknown
  funext i
  by_cases hi : i = l.nextId
  · rw [hi, visit?_of_lookup (Keyed.lookup_append hnew _), visit?, Keyed.lookup_eq_none hnew]
    rfl
  · exact congrArg (Option.bind · _) (Keyed.lookup_append_of_ne hi ..)

section Arrive

variable (h : l.InOrder period start log) (deadline : Option Nat)

include h

theorem InOrder.sameVisits_arrive : l.SameVisits (l.happen (.arrive deadline)) :=
  ⟨h.visit?_arrive deadline, rfl, rfl, rfl, Nat.le_of_eq (Timeline.now_wake ..).symm⟩

/-- The newcomer is not in line before its first turn. -/
theorem InOrder.recorded_arrive : (l.happen (.arrive deadline)).Recorded log := by
  have hnew := h.recorded.nextId_unknown
  have hline := h.sameVisits_arrive deadline
  have hkeys : (l.happen (.arrive deadline)).visitors.map (·.1) =
      l.visitors.map (·.1) ++ [l.nextId] := List.map_append
  refine ⟨?_, ?_, h.recorded.ids_nodup, ?_, ?_, ?_, ?_⟩
  · rw [hkeys, List.nodup_append]
    refine ⟨h.recorded.keys_nodup, List.nodup_singleton _, ?_⟩
    rintro i hi j hj rfl
    obtain rfl := List.mem_singleton.mp hj
    exact hnew hi
  · intro key hkey
    rw [hkeys, List.mem_append] at hkey
    rcases hkey with hkey | hkey
    · exact Nat.lt_succ_of_lt (h.recorded.keys_lt key hkey)
    · obtain rfl := List.mem_singleton.mp hkey
      exact Nat.lt_succ_self _
  · intro i v hv hstage
    by_cases hi : i = l.nextId
    · subst hi
      obtain rfl := Option.some.inj ((Keyed.lookup_append hnew _).symm.trans hv)
      exact absurd rfl hstage
    · exact h.recorded.logged i v ((Keyed.lookup_append_of_ne hi ..).symm.trans hv) hstage
  · intro c hc
    obtain ⟨stage, hlookup, hstage⟩ := h.recorded.known c hc
    have hi : c.id ≠ l.nextId := fun he =>
      hnew (List.mem_map_of_mem (f := (·.1)) (Keyed.mem_of_lookup (he ▸ hlookup)))
    exact ⟨stage, (Keyed.lookup_append_of_ne hi ..).trans hlookup, hstage⟩
  · intro c hc
    exact Nat.le_trans (h.recorded.moment_le c hc) hline.now
  · rw [hline.pending]
    exact h.recorded.queue_eq

theorem InOrder.watched_arrive : (l.happen (.arrive deadline)).Watched none log := by
  have hline := h.sameVisits_arrive deadline
  have hnow : (l.happen (.arrive deadline)).now = l.now := Timeline.now_wake ..
  have halarms : (l.happen (.arrive deadline)).time.alarms = l.time.alarms :=
    Timeline.alarms_wake ..
  have hready : ∀ o ∈ l.time.ready, o ∈ (l.happen (.arrive deadline)).time.ready :=
    fun o ho => Timeline.mem_ready_wake.mpr (Or.inl ho)
  constructor
  · intro c hc hne deadline hdeadline
    rw [hline.pending] at hc
    rw [hnow, halarms]
    exact (h.watched.deadline c hc hne deadline hdeadline).imp_left (hready _)
  · intro id hid hne
    rw [hnow]
    exact (h.watched.head id hid hne).imp (hready _) (Or.imp_left (hready _))
  · rw [halarms, hnow]
    exact h.watched.armed
  · rw [halarms, hnow]
    exact h.watched.later

theorem InOrder.arrive : (l.happen (.arrive deadline)).InOrder period start log where
  recorded := h.recorded_arrive deadline
  foretold := (h.sameVisits_arrive deadline).foretold h.foretold
  punctual := (h.sameVisits_arrive deadline).punctual (Timeline.now_wake ..) h.punctual
  watched := h.watched_arrive deadline

end Arrive

/-! ## Runs -/

theorem InOrder.happen (h : l.InOrder period start log) (hperiod : 0 < period) {e : Event}
    (htimely : l.IsTimely e) : (l.happen e).InOrder period start (log ++ l.comingsAt e) := by
  cases e with
  | turn o => exact h.turn hperiod o
  | pass now =>
      have hnobody : l.comingsAt (.pass now) = [] := rfl
      rw [hnobody, List.append_nil]
      exact h.pass htimely.1 htimely.2
  | arrive deadline =>
      have hnobody : l.comingsAt (.arrive deadline) = [] := rfl
      rw [hnobody, List.append_nil]
      exact h.arrive deadline

theorem InOrder.run (h : l.InOrder period start log) (hperiod : 0 < period) {events : List Event}
    (htimely : l.Timely events) :
    (l.run events).InOrder period start (log ++ l.comings events) := by
  induction events generalizing l log with
  | nil =>
      rw [comings, List.append_nil]
      exact h
  | cons e events ih =>
      rw [comings, ← List.append_assoc]
      exact ih (h.happen hperiod htimely.1) htimely.2

/-- Nobody has come yet, and nobody is about to be woken. -/
structure Fresh (l : GateLine) : Prop where
  queue : l.gate.queue = []
  armed : l.gate.armed = false
  visitors : l.visitors = []
  ready : l.time.ready = []
  alarms : l.time.alarms = []

theorem Fresh.inOrder (h : l.Fresh) : l.InOrder l.gate.period l.gate.due [] := by
  have hnobody : ∀ id, l.visitors.lookup id = none := by
    rw [h.visitors]
    exact fun _ => rfl
  refine ⟨⟨?_, ?_, List.nodup_nil, ?_, nofun, nofun, h.queue⟩, ⟨rfl, rfl, rfl, nofun, .nil⟩,
    ⟨nofun, nofun⟩, ⟨nofun, ?_, ?_, ?_⟩⟩
  · rw [h.visitors]
    exact List.nodup_nil
  · rw [h.visitors]
    nofun
  · intro id v hv
    rw [hnobody] at hv
    cases hv
  · rw [h.queue]
    nofun
  · rw [h.armed]
    nofun
  · rw [h.alarms]
    nofun

end MapScout.GateLine
