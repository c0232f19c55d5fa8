import MapScout.Proofs.Tunnel.Waiting

/-!
# Calls and their deadlines

A call has an alarm at its deadline while it waits for its turn or for its answer, so that the clock
does not move past the deadline before the call is finished.  While it waits for room in the queue
it has none: the clock moves past the deadline of a call only when the call is stopped by a full
queue that nobody empties.
-/

namespace MapScout

namespace Scene

variable {x x' : Scene} {id i : Nat} {k : Call} {conn : Connection} {stage : CallStage}

/-! ## Calls that are late -/

/-- A call that is to be finished by `deadline` is not. -/
def Pending (x : Scene) (id deadline : Nat) : Prop :=
  ∃ k timeout, x.calls id = some k ∧ k.limit = some (deadline, timeout) ∧ k.isFinished = false

/-- The queue is full, and a call that wants to put its frame there waits for room. -/
structure IsStuck (x : Scene) (id : Nat) : Prop where
  sending : ∃ k, x.calls id = some k ∧ k.stage = .sending
  taken : x.conn.isTaken = true
  full : Connection.capacity ≤ x.conn.outbound.length

/-- Where nobody is ready, the first in the line for the queue is stopped by a full queue. -/
theorem Attended.isStuck (h : x.Attended) (hready : x.time.ready = []) (hcall : x.calls id = some k)
    (hstage : k.stage = .sending) : x.IsStuck id := by
  have hwaits {i : Nat} {k : Call} (hk : x.calls i = some k) : k.MayWait i x.conn x.time := by
    refine (h.attends i k hk).resolve_left fun hi => ?_
    rw [hready] at hi
    cases hi
  have hmem := h.housed.sending id k hcall hstage
  cases hsenders : x.conn.senders with
  | nil =>
      rw [hsenders] at hmem
      cases hmem
  | cons first rest =>
      obtain ⟨k', hk', hqueue⟩ := h.housed.senders first (by simp [hsenders])
      have hwait := hwaits hk'
      have hfirst : x.conn.isTaken = true ∧ x.conn.canSend first = false := by
        rcases Call.mayWait_iff.mp hwait with ⟨hstage', -⟩ | ⟨-, hroom⟩ | ⟨hstage', -⟩ | hfinished
        · rw [hstage'] at hqueue
          cases hqueue
        · exact hroom
        · rw [hstage'] at hqueue
          cases hqueue
        · rw [Call.isFinished_of_mayQueue hqueue] at hfinished
          cases hfinished
      refine ⟨⟨k, hcall, hstage⟩, hfirst.1, ?_⟩
      simpa [Connection.canSend, hsenders] using hfirst.2

/-- The clock does not move past the deadline of a pending call, unless that is stopped by a full
queue. -/
theorem Attended.isStuck_of_pass (h : x.Attended) (hready : x.time.ready = []) {now deadline : Nat}
    (halarms : ∀ a ∈ x.time.alarms, now ≤ a.due) (hpending : x.Pending id deadline)
    (hlate : deadline < now) : x.IsStuck id := by
  obtain ⟨k, timeout, hcall, hlimit, hunfinished⟩ := hpending
  have hnotSet (halarm : k.HasAlarm id x.time) : False := by
    obtain ⟨limit, hlimit', -, hset⟩ := halarm
    obtain rfl := Option.some.inj (hlimit.symm.trans hlimit')
    exact absurd (halarms _ hset) (Nat.not_le_of_lt hlate)
  have hwait : k.MayWait id x.conn x.time := by
    refine (h.attends id k hcall).resolve_left fun hid => ?_
    rw [hready] at hid
    cases hid
  rcases Call.mayWait_iff.mp hwait with ⟨-, -, hset⟩ | ⟨hstage, -⟩ | ⟨-, -, -, hset⟩ | hfinished
  · exact (hnotSet hset).elim
  · exact h.isStuck hready hcall hstage
  · exact (hnotSet hset).elim
  · rw [hfinished] at hunfinished
    cases hunfinished

/-- A call is not finished, and its deadline is past. -/
def Late (x : Scene) (id deadline : Nat) : Prop := x.Pending id deadline ∧ deadline < x.time.now

theorem isFinished_of_proceeds {conn' : Connection} (hproceeds : k.Proceeds id conn conn' stage)
    (h : k.isFinished = true) : ({ k with stage } : Call).isFinished = true := by
  have hnot {s : CallStage} (hstage : k.stage = s)
      (hopen : ({ k with stage := s } : Call).isFinished = false) : False := by
    rw [← hstage] at hopen
    exact absurd h (by simp [hopen])
  obtain ⟨-, hmoves⟩ | ⟨-, hsends⟩ := hproceeds
  · cases hmoves with
    | wait => exact h
    | arm hstage hturn => exact (hnot hstage rfl).elim
    | refuse hstage hclosed =>
        obtain hstage | hstage := hstage
        · exact (hnot hstage rfl).elim
        · exact (hnot hstage rfl).elim
    | register hstage hopen => exact (hnot hstage rfl).elim
    | queueUp hstage => exact (hnot hstage rfl).elim
    | strand hstage => exact (hnot hstage rfl).elim
    | send hstage htaken => exact (hnot hstage rfl).elim
    | timeOut timeout hstage => exact (hnot hstage rfl).elim
    | _ => rfl
  · cases hsends with
    | wait => exact h
    | _ => rfl

theorem Step.now (hstep : x.Step x') : x'.time.now = x.time.now := by
  cases hstep with
  | quiet hconn hcalls hnext htime => exact htime.now
  | touch htouched hcalls hnext htime hwoken => exact htime.now
  | begin hnew hbegins hcalls hnext htime hready => exact htime.now
  | refuse hnew hfinished hconn hcalls hnext htime => exact htime.now
  | go hcall hproceeds hcalls hnext htime hown hothers => exact htime.now

/-- A call that is late was late before, as long as the clock does not move. -/
theorem Late.of_step {deadline : Nat} (hstep : x.Step x') (h : x'.Late id deadline) :
    x.Late id deadline := by
  obtain ⟨⟨k, timeout, hk, hlimit, hunfinished⟩, hlate⟩ := h
  rw [hstep.now] at hlate
  have hkept (hcall : x.calls id = some k) : x.Late id deadline :=
    ⟨⟨k, timeout, hcall, hlimit, hunfinished⟩, hlate⟩
  let P (i : Nat) (k : Call) : Prop :=
    i = id → k.limit = some (deadline, timeout) → k.isFinished = false → x.Late id deadline
  have hold (i : Nat) (k : Call) (hcall : x.calls i = some k) : P i k := by
    rintro rfl hlimit hunfinished
    exact ⟨⟨k, timeout, hcall, hlimit, hunfinished⟩, hlate⟩
  have hall : ∀ i k, x'.calls i = some k → P i k := by
    cases hstep with
    | quiet hconn hcalls hnext htime => exact fun i k hk => hold i k (by rwa [hcalls] at hk)
    | touch htouched hcalls hnext htime hwoken =>
        exact fun i k hk => hold i k (by rwa [hcalls] at hk)
    | begin hnew hbegins hcalls hnext htime hready =>
        rw [hcalls]
        refine Traffic.forall_update (fun i k _ => hold i k) fun _ hlimit _ => ?_
        -- a call does not begin after its deadline
        generalize x'.conn = conn at hbegins
        cases hbegins with
        | forward after hlimit' hstage =>
            have hdeadline := (Prod.mk.inj (Option.some.inj (hlimit'.symm.trans hlimit))).1
            omega
        | send hlimit' hstage =>
            rw [hlimit'] at hlimit
            cases hlimit
    | refuse hnew hfinished hconn hcalls hnext htime =>
        rw [hcalls]
        refine Traffic.forall_update (fun i k _ => hold i k) fun _ _ hunfinished => ?_
        rw [hfinished] at hunfinished
        cases hunfinished
    | @go i k stage hcall hproceeds hcalls hnext htime hown hothers =>
        rw [hcalls]
        refine Traffic.forall_update (fun i k _ => hold i k) fun hi hlimit hunfinished => ?_
        refine hold i k hcall hi hlimit ?_
        by_contra hfinished
        have hfinished := isFinished_of_proceeds hproceeds (by simpa using hfinished)
        rw [hfinished] at hunfinished
        cases hunfinished
  exact hall id k hk rfl hlimit hunfinished

theorem Late.of_leaves {deadline : Nat} (hleaves : Leaves i x x') (h : x'.Late id deadline) :
    x.Late id deadline := by
  obtain ⟨⟨k, timeout, hk, hlimit, hunfinished⟩, hlate⟩ := h
  rw [hleaves.time.now] at hlate
  have hid : id ≠ i := by
    rintro rfl
    rw [hleaves.calls, Function.update_self] at hk
    cases hk
  rw [hleaves.calls, Function.update_of_ne hid] at hk
  exact ⟨⟨k, timeout, hk, hlimit, hunfinished⟩, hlate⟩

end Scene

namespace Broker

variable {b b' : Broker} {c id : Nat}

/-! ## The clock -/

theorem Effect.now (h : b.Effect b') : b'.now = b.now := by
  cases h with
  | aside hP h => exact h.time.now
  | connect proxy h => exact h.time.now
  | touch hconn htouched h hwoken =>
      have hnow := h.time.now
      rwa [time_onConnection] at hnow
  | begin hconn hbegins h hready =>
      have hnow := h.time.now
      rwa [time_onConnection] at hnow
  | refuse hlimit hfinished h =>
      rw [h]
      rfl
  | go hcall hconn hproceeds h => exact h.time.now

theorem Effects.now (h : b.Effects b') : b'.now = b.now := by
  induction h with
  | refl => rfl
  | tail _ heffect ih => exact heffect.now.trans ih

theorem now_le_happen (hb : b.Proper) (e : Event) : b.now ≤ (b.happen e).now := by
  obtain heffects | ⟨now, rfl⟩ | ⟨id, k, rfl, -, hdrops⟩ := happen_cases hb e
  · exact Nat.le_of_eq heffects.now.symm
  · refine Nat.le_trans (Nat.le_max_left b.now now) (Nat.le_of_eq ?_)
    exact (Timeline.now_advance now b.time).symm
  · exact Nat.le_of_eq hdrops.time.now.symm

/-- The clock does not go back. -/
theorem now_le_run (hb : b.Proper) (events : List Event) : b.now ≤ (b.run events).now := by
  induction events generalizing b with
  | nil => exact Nat.le_refl _
  | cons e events ih => exact Nat.le_trans (now_le_happen hb e) (ih (hb.happen e))

theorem le_now_of_pass (hb : b.Proper) (before : List Event) (now : Nat) (after : List Event) :
    now ≤ (b.run (before ++ .pass now :: after)).now := by
  have hpass : now ≤ ((b.run before).happen (.pass now)).now := by
    refine Nat.le_trans (Nat.le_max_right (b.run before).now now) (Nat.le_of_eq ?_)
    exact (Timeline.now_advance now (b.run before).time).symm
  rw [run_append]
  exact Nat.le_trans hpass (now_le_run ((hb.run before).happen _) after)

/-! ## Late calls in a run -/

/-- A call that is late was pending before, and it was late, or the clock has just been moved past
its deadline. -/
theorem late_of_happen (hb : b.Proper) {deadline : Nat} {e : Event} {conn' : Connection}
    (hconn' : (b.happen e).connection? c = some conn')
    (h : ((b.happen e).scene c conn').Late id deadline) :
    ∃ conn, b.connection? c = some conn ∧ (b.scene c conn).Pending id deadline ∧
      (deadline < b.now ∨ ∃ now, e = .pass now ∧ deadline < now) := by
  have hnew (x : Scene) (hx : x.IsNew) : ¬ x.Late id deadline := by
    rintro ⟨⟨k, timeout, hk, -, hunfinished⟩, -⟩
    rw [(hx.calls id k hk).2] at hunfinished
    cases hunfinished
  have hstep (x x' : Scene) (hx : x.Step x') (h : ¬ x.Late id deadline) : ¬ x'.Late id deadline :=
    mt (Scene.Late.of_step hx) h
  obtain heffects | ⟨now, rfl⟩ | ⟨i, k, rfl, hcall, hdrops⟩ := happen_cases hb e
  · by_contra hnot
    have hnone : b.At c fun x => ¬ x.Late id deadline :=
      fun conn hconn hold => hnot ⟨conn, hconn, hold.1, Or.inl hold.2⟩
    exact hnone.effects hnew hstep hb heffects conn' hconn' h
  · obtain ⟨hpending, hlate⟩ := h
    have hlate : deadline < max b.now now :=
      Nat.lt_of_lt_of_eq hlate (Timeline.now_advance now b.time)
    have hcause : deadline < b.now ∨ deadline < now := by omega
    exact ⟨conn', hconn', hpending, hcause.imp_right fun hnow => ⟨now, rfl, hnow⟩⟩
  · obtain ⟨conn, hconn, hx | hleaves⟩ := hdrops.leaves hcall hconn'
    · have hold := h.of_step hx
      exact ⟨conn, hconn, hold.1, Or.inl hold.2⟩
    · have hold := h.of_leaves hleaves
      exact ⟨conn, hconn, hold.1, Or.inl hold.2⟩

/-- The queue of the connection is full and is not going to be emptied at this moment, and a call
waits for room in it. -/
def IsStuck (b : Broker) (c id : Nat) : Prop :=
  b.time.ready = [] ∧ ∃ conn k, b.connection? c = some conn ∧ b.call? id = some k ∧
    k.connection = c ∧ k.stage = .sending ∧ conn.isTaken = true ∧
      Connection.capacity ≤ conn.outbound.length

theorem isStuck_of_pass {deadline now : Nat} {conn : Connection}
    (hattended : b.At c Scene.Attended) (htimely : b.IsTimely (.pass now))
    (hconn : b.connection? c = some conn) (hpending : (b.scene c conn).Pending id deadline)
    (hlate : deadline < now) : b.IsStuck c id := by
  obtain ⟨hready, halarms⟩ := htimely
  obtain ⟨⟨k, hk, hstage⟩, htaken, hfull⟩ :=
    (hattended conn hconn).isStuck_of_pass hready halarms hpending hlate
  obtain ⟨hcall, hkc⟩ := callsOf_eq_some.mp hk
  exact ⟨hready, conn, k, hconn, hcall, hkc, hstage, htaken, hfull⟩

/-- An event among others and a last one is among the others, or it is the last one. -/
theorem split_append {events before after : List Event} {e e' : Event}
    (h : events ++ [e] = before ++ e' :: after) :
    (e = e' ∧ before = events) ∨ ∃ after', events = before ++ e' :: after' := by
  obtain rfl | ⟨after', last, rfl⟩ := after.eq_nil_or_concat
  · obtain ⟨rfl, he⟩ := List.append_inj' h rfl
    exact Or.inl ⟨List.head_eq_of_cons_eq he, rfl⟩
  · rw [List.concat_eq_append, ← List.cons_append, ← List.append_assoc] at h
    obtain ⟨rfl, he⟩ := List.append_inj' h rfl
    obtain rfl := List.head_eq_of_cons_eq he
    exact Or.inr ⟨after', rfl⟩

/-- The clock has been moved past a deadline, and every time it was, a call was stuck. -/
def StuckSince (b : Broker) (c id deadline : Nat) (events : List Event) : Prop :=
  (∃ before now after, events = before ++ .pass now :: after ∧ deadline < now) ∧
    ∀ before now after, events = before ++ .pass now :: after → deadline < now →
      (b.run before).IsStuck c id

theorem StuckSince.append {deadline : Nat} {events : List Event} {e : Event}
    (h : b.StuckSince c id deadline events)
    (hend : ∀ now, e = .pass now → deadline < now → (b.run events).IsStuck c id) :
    b.StuckSince c id deadline (events ++ [e]) := by
  obtain ⟨⟨before, now, after, heq, hnow⟩, hall⟩ := h
  refine ⟨⟨before, now, after ++ [e], by simp [heq], hnow⟩, ?_⟩
  intro before now after heq hnow
  obtain ⟨he, rfl⟩ | ⟨after', hsplit⟩ := split_append heq
  · exact hend now he hnow
  · exact hall before now after' hsplit hnow

/-- The clock has been moved past the deadline for the first time. -/
theorem StuckSince.first (hb : b.Proper) {deadline now : Nat} {events : List Event}
    (hbefore : (b.run events).now ≤ deadline) (hnow : deadline < now)
    (hstuck : (b.run events).IsStuck c id) :
    b.StuckSince c id deadline (events ++ [.pass now]) := by
  refine ⟨⟨events, now, [], rfl, hnow⟩, ?_⟩
  intro before now' after heq hlate
  obtain ⟨-, rfl⟩ | ⟨after', rfl⟩ := split_append heq
  · exact hstuck
  · have hle := le_now_of_pass hb before now' after'
    omega

theorem stuckSince_of_late (hb : b.Proper) (hnone : b.connection? c = none) {deadline : Nat}
    (events : List Event) (htimely : b.Timely events) {conn : Connection}
    (hconn : (b.run events).connection? c = some conn)
    (hlate : ((b.run events).scene c conn).Late id deadline) :
    b.StuckSince c id deadline events := by
  -- from the end: the last event is a move of the clock that has made the call late, or it was late
  -- before
  induction events using List.reverseRecOn generalizing conn with
  | nil =>
      rw [show b.run [] = b from rfl, hnone] at hconn
      cases hconn
  | append_singleton events e ih =>
      obtain ⟨hevents, hlast, -⟩ := timely_append.mp htimely
      rw [run_append] at hconn hlate
      obtain ⟨conn', hconn', hpending, hcause⟩ := late_of_happen (hb.run events) hconn hlate
      have hattended : (b.run events).At c Scene.Attended :=
        At.run Scene.attended_invariant hb (.of_none hnone) events
      have hstuck (now : Nat) (he : e = .pass now) (hnow : deadline < now) :
          (b.run events).IsStuck c id :=
        isStuck_of_pass hattended (he ▸ hlast) hconn' hpending hnow
      by_cases hold : deadline < (b.run events).now
      · exact (ih hevents hconn' ⟨hpending, hold⟩).append hstuck
      · obtain ⟨now, rfl, hnow⟩ := hcause.resolve_left hold
        exact .first hb (Nat.le_of_not_lt hold) hnow (hstuck now rfl hnow)

/-! ## From the start of a call -/

/-- A key is given out, and the call that has got it is not there any more or goes through `c` with
`limit`. -/
structure Assigned (b : Broker) (id c : Nat) (limit : Option (Nat × Span)) : Prop where
  known : id < b.nextKey
  call : ∀ k, b.call? id = some k → k.connection = c ∧ k.limit = limit

namespace Assigned

variable {limit : Option (Nat × Span)}

theorem of_call? (h : b.Assigned id c limit) (hcall : b'.call? id = b.call? id)
    (hnext : b.nextKey ≤ b'.nextKey) : b'.Assigned id c limit :=
  ⟨Nat.lt_of_lt_of_le h.known hnext, fun k hk => h.call k (hcall.symm.trans hk)⟩

theorem addCall (h : b.Assigned id c limit) (k : Call) : (b.addCall k).2.Assigned id c limit :=
  h.of_call? (call?_addCall_of_ne k (Nat.ne_of_lt h.known)) (Nat.le_succ _)

theorem effect (h : b.Assigned id c limit) (heffect : b.Effect b') : b'.Assigned id c limit := by
  have hquiet {b₁ : Broker} (h₁ : b₁.Assigned id c limit) {P : Nat → Prop} (hb' : b₁.Aside P b') :
      b'.Assigned id c limit :=
    h₁.of_call? (congrFun hb'.calls id) (Nat.le_of_eq hb'.nextKey.symm)
  have htouch {b₁ : Broker} (h₁ : b₁.Assigned id c limit) (c' : Nat) (f : Connection → Connection) :
      (b₁.onConnection c' f).Assigned id c limit :=
    h₁.of_call? (call?_onConnection f id) (Nat.le_of_eq (nextKey_onConnection f).symm)
  cases heffect with
  | aside hP hb' => exact hquiet h hb'
  | connect proxy hb' =>
      have hconnected : (b.addConnection proxy).2.Assigned id c limit :=
        h.of_call? rfl (Nat.le_succ _)
      exact hquiet hconnected hb'
  | touch hconn htouched hb' hwoken => exact hquiet (htouch h _ _) hb'
  | begin hconn hbegins hb' hready => exact hquiet (htouch (h.addCall _) _ _) hb'
  | refuse hlimit hfinished hb' =>
      rw [hb']
      exact h.addCall _
  | @go i k conn conn' stage hcall hconn hproceeds hgoes =>
      by_cases hi : id = i
      · subst hi
        refine ⟨hgoes.nextKey ▸ h.known, fun k' hk' => ?_⟩
        obtain rfl := Option.some.inj (hgoes.call.symm.trans hk')
        exact h.call k hcall
      · exact h.of_call? (hgoes.calls id hi) (Nat.le_of_eq hgoes.nextKey.symm)

theorem happen (hb : b.Proper) (h : b.Assigned id c limit) (e : Event) :
    (b.happen e).Assigned id c limit := by
  obtain heffects | ⟨now, rfl⟩ | ⟨i, k, rfl, -, hdrops⟩ := happen_cases hb e
  · generalize b.happen e = b' at heffects
    induction heffects with
    | refl => exact h
    | tail _ heffect ih => exact ih.effect heffect
  · exact ⟨h.known, h.call⟩
  · by_cases hi : id = i
    · subst hi
      refine ⟨hdrops.nextKey.symm ▸ h.known, fun k' hk' => ?_⟩
      cases hdrops.call.symm.trans hk'
    · exact h.of_call? (hdrops.calls id hi) (Nat.le_of_eq hdrops.nextKey.symm)

theorem run (hb : b.Proper) (h : b.Assigned id c limit) (events : List Event) :
    (b.run events).Assigned id c limit := by
  induction events generalizing b with
  | nil => exact h
  | cons e events ih => exact ih (hb.happen e) (h.happen hb e)

end Assigned

theorem assigned_startForward (hb : b.Proper) (frame : Bytes) (timeout : Nat) :
    (b.startForward c frame timeout).2.Assigned b.nextKey c
      (some (b.now + timeout, Span.ofMillis timeout)) := by
  let k : Call :=
    { connection := c, frame, limit := some (b.now + timeout, Span.ofMillis timeout),
      stage := .inLine }
  have hadded : (b.addCall k).2.Assigned b.nextKey c k.limit := by
    refine ⟨Nat.lt_succ_self _, fun k' hk' => ?_⟩
    obtain rfl := Option.some.inj ((call?_addCall hb.call?_nextKey k).symm.trans hk')
    exact ⟨rfl, rfl⟩
  exact hadded.of_call? (call?_onConnection _ _) (Nat.le_of_eq (nextKey_onConnection _).symm)

/-- A forwarded frame's call is pending after its time only because it is stopped by a full queue:
the clock has been moved past its deadline, and every time it was, the call was stuck there. -/
theorem stuck_of_late {config : BrokerConfig} {store : Store} (hstart : start config store = .ok b)
    {before after : List Event} {e : Event} {frame : Bytes} {timeout : Nat}
    (hforward : (b.run before).happen e = ((b.run before).startForward c frame timeout).2)
    (htimely : b.Timely (before ++ e :: after)) {k : Call}
    (hcall : (b.run (before ++ e :: after)).call? (b.run before).nextKey = some k)
    (hpending : k.isFinished = false)
    (hlate : (b.run before).now + timeout < (b.run (before ++ e :: after)).now) :
    b.StuckSince c (b.run before).nextKey ((b.run before).now + timeout)
      (before ++ e :: after) := by
  have hb : b.Proper := .start hstart
  have hnone := connection?_of_start hstart c
  have hassigned : (b.run (before ++ e :: after)).Assigned (b.run before).nextKey c
      (some ((b.run before).now + timeout, Span.ofMillis timeout)) := by
    rw [run_append]
    refine Assigned.run ((hb.run before).happen e) ?_ after
    rw [hforward]
    exact assigned_startForward (hb.run before) frame timeout
  obtain ⟨hconnection, hlimit⟩ := hassigned.call k hcall
  have hconnected := ((hb.run _).calls _ k hcall).connected hpending
  rw [hconnection] at hconnected
  obtain ⟨conn, hconn⟩ := Option.isSome_iff_exists.mp hconnected
  refine stuckSince_of_late hb hnone _ htimely hconn ⟨⟨k, _, ?_, hlimit, hpending⟩, hlate⟩
  exact callsOf_eq_some.mpr ⟨hcall, hconnection⟩

def fullQueue : List Event :=
  [.connect 1] ++
    (List.range Connection.capacity).flatMap fun i => [.send 0 [1], .turn (.call (i + 1))]

/-- The next call goes on as far as it can, and two seconds pass. -/
def twoSeconds : List Event := List.replicate 4 (.turn (.call 65)) ++ [.pass 2000]

/-- A frame is forwarded through a connection whose queue is full. -/
def overdue : List Event := fullQueue ++ .forward 0 [2] 1000 :: twoSeconds

theorem timely_of_isPlain {events : List Event} (h : events.all (·.isPlain) = true) :
    b.Timely events := by
  induction events generalizing b with
  | nil => trivial
  | cons e events ih =>
      obtain ⟨he, hevents⟩ : e.isPlain = true ∧ events.all (·.isPlain) = true := by simpa using h
      refine ⟨?_, ih hevents⟩
      cases e with
      | pass now => cases he
      | _ => trivial

theorem timely_overdue : Timely {} overdue := by
  let events := fullQueue ++ .forward 0 [2] 1000 :: List.replicate 4 (.turn (.call 65))
  have hsplit : overdue = events ++ [.pass 2000] := by simp [overdue, twoSeconds, events]
  have hready : (run {} events).time.ready = [] := by decide +kernel
  have halarms : (run {} events).time.alarms.isEmpty = true := by decide +kernel
  rw [hsplit]
  have htimely : Timely {} events := timely_of_isPlain (by decide +kernel)
  refine timely_append.mpr ⟨htimely, ⟨hready, fun a ha => ?_⟩, trivial⟩
  rw [List.isEmpty_iff.mp halarms] at ha
  cases ha

theorem pending_overdue : ∃ k, (run {} overdue).call? 65 = some k ∧ k.isFinished = false := by
  have h : ((run {} overdue).call? 65).any (!·.isFinished) = true := by decide +kernel
  obtain ⟨k, hcall, hk⟩ := (Option.any_eq_true _ _).mp h
  exact ⟨k, hcall, by simpa using hk⟩

theorem stuck_of_late_overdue :
    ∃ k, start {} {} = .ok {} ∧
      (run {} fullQueue).happen (.forward 0 [2] 1000) =
        ((run {} fullQueue).startForward 0 [2] 1000).2 ∧
      Timely {} overdue ∧ (run {} overdue).call? 65 = some k ∧ k.isFinished = false ∧
      (run {} fullQueue).now + 1000 < (run {} overdue).now ∧
      StuckSince {} 0 65 1000 overdue := by
  have hstart : start {} {} = .ok {} := rfl
  have hconn : ((run {} fullQueue).connection? 0).isSome = true := by decide +kernel
  have hforward : (run {} fullQueue).happen (.forward 0 [2] 1000) =
      ((run {} fullQueue).startForward 0 [2] 1000).2 := by
    rw [happen, if_pos hconn]
  have hkey : (run {} fullQueue).nextKey = 65 := by decide +kernel
  have hnow : (run {} fullQueue).now = 0 := by decide +kernel
  obtain ⟨k, hcall, hpending⟩ := pending_overdue
  have hlate : (run {} fullQueue).now + 1000 < (run {} overdue).now := by decide +kernel
  have hcall' : (run {} overdue).call? (run {} fullQueue).nextKey = some k := hkey ▸ hcall
  have hstuck := stuck_of_late hstart hforward timely_overdue hcall' hpending hlate
  rw [hkey, hnow] at hstuck
  exact ⟨k, hstart, hforward, timely_overdue, hcall, hpending, hlate, hstuck⟩

/-- A frame is forwarded with a timeout of one second, and after two seconds the call is pending. -/
theorem late_overdue :
    start {} {} = .ok {} ∧ overdue = fullQueue ++ .forward 0 [2] 1000 :: twoSeconds ∧
      Timely {} overdue ∧ (run {} fullQueue).now = 0 ∧ (run {} fullQueue).nextKey = 65 ∧
      (run {} overdue).now = 2000 ∧
      ∃ k, (run {} overdue).call? 65 = some k ∧ k.isFinished = false :=
  ⟨rfl, rfl, timely_overdue, by decide +kernel, by decide +kernel, by decide +kernel,
    pending_overdue⟩

end Broker

end MapScout
