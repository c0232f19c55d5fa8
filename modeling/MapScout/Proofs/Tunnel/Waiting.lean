import MapScout.Proofs.Tunnel.Scenes

/-!
# What calls wait for

No call is overlooked: at any time it is about to go on, or what it waits for is still to come.
What it waits for is its turn, room in the queue or its answer; while it waits for its turn or its
answer, it has an alarm at its deadline.
-/

namespace MapScout

open BrokerOwner (IsCall)

def CallStage.mayQueue : CallStage → Bool
  | .sending | .withdrawing _ => true
  | _ => false

theorem Call.isFinished_of_mayQueue {k : Call} (h : k.stage.mayQueue = true) :
    k.isFinished = false := by
  rw [isFinished]
  cases hstage : k.stage with
  | finished result at_ =>
      rw [hstage] at h
      cases h
  | _ => rfl

namespace Connection

variable {conn conn' : Connection} {request sender : Nat}

/-- A request that waited for its answer still has to. -/
def KeepsUnanswered (conn conn' : Connection) (request : Nat) : Prop :=
  conn.mayAnswer request = true → conn.answer? request = none →
    conn'.mayAnswer request = true ∧ conn'.answer? request = none

theorem KeepsUnanswered.of_eq (hslot : conn'.slot = conn.slot)
    (hanswer : conn'.answer? request = conn.answer? request) :
    conn.KeepsUnanswered conn' request := by
  intro hmay hnone
  refine ⟨?_, hanswer.trans hnone⟩
  rwa [mayAnswer, hslot, ← mayAnswer]

theorem KeepsWaiting.lineUp (h : request ≠ sender) :
    conn.KeepsWaiting (conn.lineUp sender) request where
  turn hturn := by
    cases hline : conn.line with
    | nil => simp [hasTurn, Connection.lineUp, hline, h.symm]
    | cons first rest => simpa [hasTurn, Connection.lineUp, hline] using hturn
  taken _ h := h
  room h := h

theorem answer?_vacate (h : request ≠ sender) :
    (conn.vacate sender).answer? request = conn.answer? request :=
  Keyed.lookup_others_of_ne h conn.answers

theorem Touched.keepsWaiting {woken : List Nat} (h : conn.Touched conn' woken)
    (hrequest : request ∉ woken) : conn.KeepsWaiting conn' request := by
  cases h with
  | deliver payload =>
      cases hslot : conn.slot with
      | none =>
          rw [Traffic.deliver_of_none hslot]
          exact .refl conn request
      | some i =>
          rw [Traffic.deliver_of_some hslot]
          exact ⟨fun h => h, fun _ h => h, fun h => h⟩
  | take h => exact ⟨fun h => h, fun _ h => h, fun _ => canSend_eq_false hrequest⟩
  | stopTaking =>
      exact ⟨fun h => h, fun h => absurd h hrequest, fun _ => canSend_eq_false hrequest⟩
  | _ => exact ⟨fun h => h, fun _ h => h, fun h => h⟩

theorem Touched.keepsUnanswered {woken : List Nat} (h : conn.Touched conn' woken)
    (hrequest : request ∉ woken) : conn.KeepsUnanswered conn' request := by
  have hnotSlot (hslot : request ∉ conn.slot.toList) (hmay : conn.mayAnswer request = true) :
      False := by
    apply hslot
    simpa [mayAnswer] using hmay
  cases h with
  | deliver payload => exact fun hmay _ => (hnotSlot hrequest hmay).elim
  | disarm => exact fun hmay _ => (hnotSlot hrequest hmay).elim
  | _ => exact .of_eq rfl rfl

theorem Touched.lines {woken : List Nat} (h : conn.Touched conn' woken) :
    conn'.line = conn.line ∧ conn'.senders = conn.senders := by
  cases h with
  | deliver payload =>
      cases hslot : conn.slot with
      | none => simp [Traffic.deliver_of_none hslot]
      | some i =>
          rw [Traffic.deliver_of_some hslot]
          exact ⟨rfl, rfl⟩
  | _ => exact ⟨rfl, rfl⟩

theorem hasTurn_unique (h : conn.hasTurn request = true) (h' : conn.hasTurn sender = true) :
    request = sender := by
  have hhead : conn.line.head? = some request := by simpa [hasTurn] using h
  have hhead' : conn.line.head? = some sender := by simpa [hasTurn] using h'
  exact Option.some.inj (hhead.symm.trans hhead')

end Connection

namespace Call

variable {id i : Nat} {k : Call} {conn conn' : Connection} {stage : CallStage}

/-- Only a call that has the turn touches the slot. -/
theorem Moves.keepsUnanswered (h : k.Moves id conn conn' stage) (hlimit : k.limit.isSome = true)
    (hne : i ≠ id) (hturn : conn.hasTurn id = false) (hserved : ¬ k.IsServed) :
    conn.KeepsUnanswered conn' i := by
  cases h with
  | arm hstage hturn' =>
      rw [hturn] at hturn'
      cases hturn'
  | withdraw at_ hstage => exact absurd (Call.isServed_of_stage hlimit hstage rfl) hserved
  | expire timeout at_ hstage hturn' => exact .of_eq rfl (Connection.answer?_vacate hne)
  | succeed at_ hstage hanswer => exact .of_eq rfl (Connection.answer?_vacate hne)
  | lose at_ hstage hanswer hslot => exact .of_eq rfl (Connection.answer?_vacate hne)
  | _ => exact .of_eq rfl rfl

theorem Sends.keepsUnanswered (h : k.Sends id conn conn' stage) (hne : i ≠ id) :
    conn.KeepsUnanswered conn' i := by
  cases h with
  | wait => exact .of_eq rfl rfl
  | strand at_ hstage => exact .of_eq rfl (Connection.answer?_vacate hne)
  | send at_ hstage => exact .of_eq rfl (Connection.answer?_vacate hne)

/-- A call that waited still has to. -/
theorem MayWait.keep {time time' : Timeline BrokerOwner} {P : Nat → Prop}
    (h : k.MayWait id conn time) (hP : P id) (htime : time.Spares (IsCall P) time')
    (hwaiting : conn.KeepsWaiting conn' id) (hsenders : k.stage = .sending → id ∈ conn.senders)
    (hanswer : k.stage = .sent → k.limit.isSome = true → conn.KeepsUnanswered conn' id) :
    k.MayWait id conn' time' := by
  have halarm (h : k.HasAlarm id time) : k.HasAlarm id time' := by
    obtain ⟨limit, hlimit, hlater, hset⟩ := h
    exact ⟨limit, hlimit, by rwa [htime.now], htime.alarms _ hset hP⟩
  rcases mayWait_iff.mp h with ⟨hstage, hturn, hset⟩ | ⟨hstage, htaken, hroom⟩ |
    ⟨hstage, hmay, hnone, hset⟩ | hfinished
  · exact mayWait_iff.mpr (Or.inl ⟨hstage, hwaiting.turn hturn, halarm hset⟩)
  · have htaken := hwaiting.taken (hsenders hstage) htaken
    exact mayWait_iff.mpr (Or.inr (Or.inl ⟨hstage, htaken, hwaiting.room hroom⟩))
  · have hsome : k.limit.isSome = true := by
      obtain ⟨limit, hlimit, -⟩ := hset
      exact Option.isSome_iff_exists.mpr ⟨limit, hlimit⟩
    obtain ⟨hmay, hnone⟩ := hanswer hstage hsome hmay hnone
    exact mayWait_iff.mpr (Or.inr (Or.inr (Or.inl ⟨hstage, hmay, hnone, halarm hset⟩)))
  · exact mayWait_of_isFinished hfinished

end Call

namespace Scene

variable {x x' : Scene} {id i : Nat} {k : Call} {conn : Connection} {stage : CallStage}

/-! ## Places in the lines -/

/-- Whoever has taken its turn is first in line, and who waits for room in the queue is in the line
for it. -/
structure Housed (x : Scene) : Prop where
  known : ∀ id k, x.calls id = some k → id < x.next
  served : ∀ id k, x.calls id = some k → k.IsServed → x.conn.hasTurn id = true
  nodup : x.conn.senders.Nodup
  senders : ∀ id ∈ x.conn.senders, ∃ k, x.calls id = some k ∧ k.stage.mayQueue = true
  sending : ∀ id k, x.calls id = some k → k.stage = .sending → id ∈ x.conn.senders

theorem Housed.new (h : x.IsNew) : x.Housed where
  known id k hcall := (h.calls id k hcall).1
  served id k hcall hserved := by
    have hfinished := (h.calls id k hcall).2
    rw [Call.isFinished_of_isServed hserved.2] at hfinished
    cases hfinished
  nodup := by
    rw [h.senders]
    exact List.nodup_nil
  senders id hid := by
    rw [h.senders] at hid
    cases hid
  sending id k hcall hstage := by
    have hfinished := (h.calls id k hcall).2
    rw [Call.isFinished, hstage] at hfinished
    cases hfinished

/-- A call has come, has gone on or has gone. -/
theorem Housed.update (h : x.Housed) {k? : Option Call}
    (hcalls : x'.calls = Function.update x.calls id k?) (hnext : x.next ≤ x'.next)
    (hid : id < x'.next)
    (hturn : ∀ i, i ≠ id → x.conn.hasTurn i = true → x'.conn.hasTurn i = true)
    (hserved : ∀ k ∈ k?, k.IsServed → x'.conn.hasTurn id = true)
    (hnodup : x'.conn.senders.Nodup)
    (hothers : ∀ i, i ≠ id → (i ∈ x'.conn.senders ↔ i ∈ x.conn.senders))
    (hself : id ∈ x'.conn.senders → ∃ k ∈ k?, k.stage.mayQueue = true)
    (hsending : ∀ k ∈ k?, k.stage = .sending → id ∈ x'.conn.senders) : x'.Housed := by
  have hold {i : Nat} (hi : i ≠ id) : x'.calls i = x.calls i := by
    rw [hcalls, Function.update_of_ne hi]
  have hnew : x'.calls id = k? := by rw [hcalls, Function.update_self]
  refine ⟨?_, ?_, hnodup, ?_, ?_⟩
  · intro i k hk
    by_cases hi : i = id
    · exact hi ▸ hid
    · exact Nat.lt_of_lt_of_le (h.known i k ((hold hi).symm.trans hk)) hnext
  · intro i k hk hk'
    by_cases hi : i = id
    · subst hi
      exact hserved k (hnew.symm.trans hk) hk'
    · exact hturn i hi (h.served i k ((hold hi).symm.trans hk) hk')
  · intro i hmem
    by_cases hi : i = id
    · subst hi
      obtain ⟨k, hk, hstage⟩ := hself hmem
      exact ⟨k, hnew.trans hk, hstage⟩
    · obtain ⟨k, hk, hstage⟩ := h.senders i ((hothers i hi).mp hmem)
      exact ⟨k, (hold hi).trans hk, hstage⟩
  · intro i k hk hstage
    by_cases hi : i = id
    · subst hi
      exact hsending k (hnew.symm.trans hk) hstage
    · exact (hothers i hi).mpr (h.sending i k ((hold hi).symm.trans hk) hstage)

/-- The connection has changed, but neither its lines nor its calls. -/
theorem Housed.keep (h : x.Housed) (hcalls : x'.calls = x.calls) (hnext : x.next ≤ x'.next)
    (hline : x'.conn.line = x.conn.line) (hsenders : x'.conn.senders = x.conn.senders) :
    x'.Housed where
  known id k hk := Nat.lt_of_lt_of_le (h.known id k (by rwa [hcalls] at hk)) hnext
  served id k hk hserved := by
    rw [hcalls] at hk
    rw [Connection.hasTurn, hline]
    exact h.served id k hk hserved
  nodup := by
    rw [hsenders]
    exact h.nodup
  senders id hid := by
    rw [hsenders] at hid
    rw [hcalls]
    exact h.senders id hid
  sending id k hk hstage := by
    rw [hcalls] at hk
    rw [hsenders]
    exact h.sending id k hk hstage

/-- A call has gone on where it stands. -/
theorem Housed.stay (h : x.Housed) (hcall : x.calls id = some k)
    (hcalls : x'.calls = Function.update x.calls id (some { k with stage }))
    (hnext : x'.next = x.next)
    (hline : x'.conn.line = x.conn.line) (hsenders : x'.conn.senders = x.conn.senders)
    (hserved : ({ k with stage } : Call).IsServed → k.IsServed ∨ x.conn.hasTurn id = true)
    (hself : k.stage.mayQueue = true → stage.mayQueue = true)
    (hsending : stage = .sending → k.stage = .sending) : x'.Housed := by
  apply h.update hcalls (Nat.le_of_eq hnext.symm) (hnext ▸ h.known id k hcall)
  · intro i _ hi
    rwa [Connection.hasTurn, hline]
  · rintro _ ⟨⟩ hk
    rw [Connection.hasTurn, hline]
    exact (hserved hk).elim (h.served id k hcall) fun hturn => hturn
  · rw [hsenders]
    exact h.nodup
  · intro i _
    rw [hsenders]
  · intro hmem
    rw [hsenders] at hmem
    obtain ⟨k', hk', hstage⟩ := h.senders id hmem
    obtain rfl := Option.some.inj (hcall.symm.trans hk')
    exact ⟨_, rfl, hself hstage⟩
  · rintro _ ⟨⟩ hstage
    rw [hsenders]
    exact h.sending id k hcall (hsending hstage)

theorem hasTurn_lineUp (h : conn.hasTurn i = true) : (conn.lineUp id).hasTurn i = true := by
  have hhead : conn.line.head? = some i := by simpa [Connection.hasTurn] using h
  simp [Connection.hasTurn, Connection.lineUp, List.head?_append, hhead]

theorem hasTurn_leaveLine (hi : i ≠ id) (h : conn.hasTurn i = true) :
    (conn.leaveLine id).hasTurn i = true := by
  have hhead : conn.line.head? = some i := by simpa [Connection.hasTurn] using h
  obtain ⟨rest, hline⟩ : ∃ rest, conn.line = i :: rest := by
    cases hline : conn.line with
    | nil =>
        rw [hline] at hhead
        cases hhead
    | cons first rest =>
        rw [hline] at hhead
        obtain rfl := Option.some.inj hhead
        exact ⟨rest, rfl⟩
  have hne : (i == id) = false := by simpa using hi
  simp [Connection.hasTurn, Connection.leaveLine, hline, hne]

/-- A call has left the connection. -/
theorem Housed.vacate (h : x.Housed) (hcall : x.calls id = some k) {k? : Option Call}
    (hcalls : x'.calls = Function.update x.calls id k?) (hnext : x'.next = x.next)
    (hconn : x'.conn = conn.vacate id) (hline : conn.line = x.conn.line)
    (hsenders : conn.senders.Sublist x.conn.senders)
    (hothers : ∀ i, i ≠ id → i ∈ x.conn.senders → i ∈ conn.senders)
    (hfinished : ∀ k ∈ k?, k.isFinished = true) : x'.Housed := by
  have hnodup := h.nodup.sublist hsenders
  have hsenders' : x'.conn.senders = conn.senders.erase id := by
    rw [hconn]
    rfl
  have hgone : id ∉ x'.conn.senders := by
    rw [hsenders']
    exact hnodup.not_mem_erase
  apply h.update hcalls (Nat.le_of_eq hnext.symm) (hnext ▸ h.known id k hcall)
  · intro i hi hturn
    have hturn : conn.hasTurn i = true := by rwa [Connection.hasTurn, hline]
    rw [hconn]
    exact hasTurn_leaveLine hi hturn
  · intro k hk hserved
    have hdone := hfinished k hk
    rw [Call.isFinished_of_isServed hserved.2] at hdone
    cases hdone
  · rw [hsenders']
    exact hnodup.erase id
  · intro i hi
    rw [hsenders', List.mem_erase_of_ne hi]
    exact ⟨fun h => hsenders.subset h, hothers i hi⟩
  · exact fun hmem => absurd hmem hgone
  · intro k hk hstage
    have hdone := hfinished k hk
    rw [Call.isFinished, hstage] at hdone
    cases hdone

theorem Housed.not_mem_senders (h : x.Housed) (hcall : x.calls id = some k)
    (hstage : k.stage.mayQueue = false) : id ∉ x.conn.senders := by
  intro hmem
  obtain ⟨k', hk', hqueue⟩ := h.senders id hmem
  obtain rfl := Option.some.inj (hcall.symm.trans hk')
  rw [hstage] at hqueue
  cases hqueue

/-- A call has lined up for the queue. -/
theorem Housed.queueUp (h : x.Housed) (hcalls : x'.calls = Function.update x.calls id (some k))
    (hnext : x.next ≤ x'.next) (hid : id < x'.next) (hconn : x'.conn = x.conn.queueUp id)
    (hnew : id ∉ x.conn.senders)
    (hcall : (k.IsServed → x.conn.hasTurn id = true) ∧ k.stage = .sending) : x'.Housed := by
  have hsenders : x'.conn.senders = x.conn.senders ++ [id] := by
    rw [hconn]
    rfl
  apply h.update hcalls hnext hid
  · intro i _ hi
    rwa [hconn]
  · rintro _ ⟨⟩ hserved
    rw [hconn]
    exact hcall.1 hserved
  · rw [hsenders]
    refine List.nodup_append.mpr ⟨h.nodup, by simp, ?_⟩
    rintro i hi _ hid rfl
    exact hnew (List.mem_singleton.mp hid ▸ hi)
  · intro i hi
    simp [hsenders, hi]
  · exact fun _ => ⟨k, rfl, by rw [hcall.2]; rfl⟩
  · intro _ _ _
    simp [hsenders]

theorem Housed.moves (h : x.Housed) (hcall : x.calls id = some k) (hlimit : k.limit.isSome = true)
    (hmoves : k.Moves id x.conn conn stage) (hconn : x'.conn = conn)
    (hcalls : x'.calls = Function.update x.calls id (some { k with stage }))
    (hnext : x'.next = x.next) : x'.Housed := by
  have hfinished {result : Except TunnelError Bytes} {at_ : Nat}
      (hdone : stage = .finished result at_) :
      ∀ k' ∈ some { k with stage }, k'.isFinished = true := by
    rintro _ ⟨⟩
    rw [Call.isFinished, hdone]
  have hleave (conn₁ : Connection) (hvacate : x'.conn = conn₁.vacate id)
      (hline : conn₁.line = x.conn.line) (hsenders : conn₁.senders = x.conn.senders)
      {result : Except TunnelError Bytes} {at_ : Nat} (hdone : stage = .finished result at_) :
      x'.Housed :=
    h.vacate hcall hcalls hnext hvacate hline (by rw [hsenders])
      (fun i _ hi => by rwa [hsenders]) (hfinished hdone)
  have hknown : id < x'.next := hnext ▸ h.known id k hcall
  cases hmoves with
  | wait =>
      exact h.stay hcall hcalls hnext (by rw [hconn]) (by rw [hconn]) Or.inl (fun h => h)
        fun h => h
  | arm hstage hturn =>
      refine h.stay hcall hcalls hnext (by rw [hconn]; rfl) (by rw [hconn]; rfl)
        (fun _ => Or.inr hturn) (fun hqueue => ?_) fun h => by cases h
      rw [hstage] at hqueue
      cases hqueue
  | expire timeout at_ hstage hturn => exact hleave _ hconn rfl rfl rfl
  | refuse hstage hclosed =>
      refine h.stay hcall hcalls hnext (by rw [hconn]) (by rw [hconn]) (fun _ => Or.inl ?_)
        (fun _ => rfl) fun h => by cases h
      obtain hstage | hstage := hstage
      · exact Call.isServed_of_stage hlimit hstage rfl
      · exact Call.isServed_of_stage hlimit hstage rfl
  | register hstage hopen =>
      refine h.stay hcall hcalls hnext (by rw [hconn]) (by rw [hconn])
        (fun _ => Or.inl (Call.isServed_of_stage hlimit hstage rfl)) (fun hqueue => ?_)
        fun h => by cases h
      rw [hstage] at hqueue
      cases hqueue
  | queueUp hstage =>
      have hturn := h.served id k hcall (Call.isServed_of_stage hlimit hstage rfl)
      have hnew : id ∉ x.conn.senders := h.not_mem_senders hcall (by rw [hstage]; rfl)
      apply h.queueUp hcalls (Nat.le_of_eq hnext.symm) hknown hconn hnew
      exact ⟨fun _ => hturn, rfl⟩
  | strand hstage =>
      exact h.stay hcall hcalls hnext (by rw [hconn]) (by rw [hconn])
        (fun _ => Or.inl (Call.isServed_of_stage hlimit hstage rfl)) (fun _ => rfl)
        fun h => by cases h
  | send hstage htaken =>
      have hturn := h.served id k hcall (Call.isServed_of_stage hlimit hstage rfl)
      have hsenders : x'.conn.senders = x.conn.senders.erase id := by
        rw [hconn]
        rfl
      have hgone : id ∉ x'.conn.senders := by
        rw [hsenders]
        exact h.nodup.not_mem_erase
      apply h.update hcalls (Nat.le_of_eq hnext.symm) hknown
      · intro i _ hi
        rwa [hconn]
      · intro _ _ _
        rwa [hconn]
      · rw [hsenders]
        exact h.nodup.erase id
      · intro i hi
        rw [hsenders, List.mem_erase_of_ne hi]
      · exact fun hmem => absurd hmem hgone
      · rintro _ ⟨⟩ ⟨⟩
  | succeed at_ hstage hanswer => exact hleave _ hconn rfl rfl rfl
  | lose at_ hstage hanswer hslot => exact hleave _ hconn rfl rfl rfl
  | timeOut timeout hstage =>
      exact h.stay hcall hcalls hnext (by rw [hconn]; rfl) (by rw [hconn]; rfl)
        (fun _ => Or.inl (Call.isServed_of_stage hlimit hstage rfl)) (fun _ => rfl)
        fun h => by cases h
  | withdraw at_ hstage => exact hleave _ hconn rfl rfl rfl

theorem Housed.sends (h : x.Housed) (hcall : x.calls id = some k)
    (hsends : k.Sends id x.conn conn stage) (hconn : x'.conn = conn)
    (hcalls : x'.calls = Function.update x.calls id (some { k with stage }))
    (hnext : x'.next = x.next) : x'.Housed := by
  cases hsends with
  | wait =>
      exact h.stay hcall hcalls hnext (by rw [hconn]) (by rw [hconn]) Or.inl (fun h => h)
        fun h => h
  | strand at_ hstage =>
      refine h.vacate hcall hcalls hnext hconn rfl (List.Sublist.refl _) (fun _ _ hi => hi) ?_
      rintro _ ⟨⟩
      rfl
  | send at_ hstage =>
      refine h.vacate hcall hcalls hnext hconn rfl List.erase_sublist
        (fun _ hi hmem => (List.mem_erase_of_ne hi).mpr hmem) ?_
      rintro _ ⟨⟩
      rfl

theorem Housed.not_mem_senders_of_none (h : x.Housed) (hnone : x.calls id = none) :
    id ∉ x.conn.senders := by
  intro hmem
  obtain ⟨k, hk, -⟩ := h.senders id hmem
  rw [hnone] at hk
  cases hk

/-- A call has come that is not in the line for the queue. -/
theorem Housed.come (h : x.Housed) (hnew : x.calls x.next = none)
    (hcalls : x'.calls = Function.update x.calls x.next (some k)) (hnext : x.next < x'.next)
    (hturn : ∀ i, x.conn.hasTurn i = true → x'.conn.hasTurn i = true)
    (hsenders : x'.conn.senders = x.conn.senders) (hserved : ¬ k.IsServed)
    (hstage : k.stage ≠ .sending) : x'.Housed := by
  apply h.update hcalls (Nat.le_of_lt hnext) hnext fun i _ => hturn i
  · rintro _ ⟨⟩ hk
    exact absurd hk hserved
  · rw [hsenders]
    exact h.nodup
  · intro i _
    rw [hsenders]
  · rw [hsenders]
    exact fun hmem => absurd hmem (h.not_mem_senders_of_none hnew)
  · rintro _ ⟨⟩ hsending
    exact absurd hsending hstage

theorem Housed.begins (h : x.Housed) (hnew : x.calls x.next = none)
    (hbegins : k.Begins x.next x.time.now x.conn conn) (hconn : x'.conn = conn)
    (hcalls : x'.calls = Function.update x.calls x.next (some k)) (hnext : x.next < x'.next) :
    x'.Housed := by
  cases hbegins with
  | forward timeout hlimit hstage =>
      refine h.come hnew hcalls hnext (fun i hi => ?_) (by rw [hconn]; rfl)
        (Call.not_isServed_of_inLine hstage) fun hsending => ?_
      · rw [hconn]
        exact hasTurn_lineUp hi
      · rw [hstage] at hsending
        cases hsending
  | send hlimit hstage =>
      refine h.queueUp hcalls (Nat.le_of_lt hnext) hnext hconn (h.not_mem_senders_of_none hnew)
        ⟨?_, hstage⟩
      rintro ⟨hsome, -⟩
      rw [hlimit] at hsome
      cases hsome

theorem Housed.step (h : x.Housed) (hstep : x.Step x') : x'.Housed := by
  cases hstep with
  | quiet hconn hcalls hnext htime => exact h.keep hcalls hnext (by rw [hconn]) (by rw [hconn])
  | touch htouched hcalls hnext htime hwoken =>
      obtain ⟨hline, hsenders⟩ := htouched.lines
      exact h.keep hcalls (Nat.le_of_eq hnext.symm) hline hsenders
  | begin hnew hbegins hcalls hnext htime hready => exact h.begins hnew hbegins rfl hcalls hnext
  | refuse hnew hfinished hconn hcalls hnext htime =>
      refine h.come hnew hcalls hnext (fun i hi => by rwa [hconn]) (by rw [hconn]) ?_ ?_
      · rintro ⟨-, hserved⟩
        rw [Call.isFinished_of_isServed hserved] at hfinished
        cases hfinished
      · intro hstage
        rw [Call.isFinished, hstage] at hfinished
        cases hfinished
  | go hcall hproceeds hcalls hnext htime hown hothers =>
      obtain ⟨hlimit, hmoves⟩ | ⟨hlimit, hsends⟩ := hproceeds
      · exact h.moves hcall hlimit hmoves rfl hcalls hnext
      · exact h.sends hcall hsends rfl hcalls hnext

theorem Housed.leave (h : x.Housed) (hleaves : Leaves id x x') : x'.Housed := by
  obtain ⟨k, hcall⟩ := Option.isSome_iff_exists.mp hleaves.known
  refine h.vacate hcall hleaves.calls hleaves.next hleaves.conn rfl (List.Sublist.refl _)
    (fun _ _ hi => hi) ?_
  rintro _ ⟨⟩

/-! ## Calls that are waited for -/

/-- A call is about to go on, or what it waits for is still to come. -/
def Attends (x : Scene) (id : Nat) (k : Call) : Prop :=
  .call id ∈ x.time.ready ∨ k.MayWait id x.conn x.time

/-- No call is overlooked. -/
structure Attended (x : Scene) : Prop where
  housed : x.Housed
  attends : ∀ id k, x.calls id = some k → x.Attends id k

theorem Attended.new (h : x.IsNew) : x.Attended :=
  ⟨.new h, fun id k hcall => Or.inr (Call.mayWait_of_isFinished (h.calls id k hcall).2)⟩

/-- A call that is left as it is may go on to wait, or has been woken. -/
theorem Attended.keep (h : x.Attended) (hcall : x.calls id = some k) {P : Nat → Prop} (hP : P id)
    (htime : x.time.Spares (IsCall P) x'.time)
    (hwaiting : .call id ∈ x'.time.ready ∨ x.conn.KeepsWaiting x'.conn id ∧
      (k.stage = .sent → k.limit.isSome = true → x.conn.KeepsUnanswered x'.conn id)) :
    x'.Attends id k := by
  obtain hready | ⟨hwaiting, hanswer⟩ := hwaiting
  · exact Or.inl hready
  · refine (h.attends id k hcall).imp (htime.ready (.call id) hP) fun hwait => ?_
    exact hwait.keep hP htime hwaiting (h.housed.sending id k hcall) hanswer

theorem Attended.touch (h : x.Attended) {woken : List Nat} (htouched : x.conn.Touched x'.conn woken)
    (htime : x.Keeps x') (hwoken : ∀ id ∈ woken, .call id ∈ x'.time.ready)
    (hcall : x.calls id = some k) : x'.Attends id k := by
  refine h.keep hcall (by rw [hcall]; rfl) htime ?_
  by_cases hid : id ∈ woken
  · exact Or.inl (hwoken id hid)
  · exact Or.inr ⟨htouched.keepsWaiting hid, fun _ _ => htouched.keepsUnanswered hid⟩

theorem Attended.come (h : x.Attended) (hnew : x.calls x.next = none)
    (hbegins : k.Begins x.next x.time.now x.conn conn) (hconn : x'.conn = conn)
    (htime : x.Keeps x') {k' : Call} (hcall : x.calls id = some k') : x'.Attends id k' := by
  have hne : id ≠ x.next := by
    rintro rfl
    rw [hnew] at hcall
    cases hcall
  refine h.keep hcall (by rw [hcall]; rfl) htime (Or.inr ?_)
  rw [hconn]
  cases hbegins with
  | forward timeout hlimit hstage => exact ⟨.lineUp hne, fun _ _ => .of_eq rfl rfl⟩
  | send hlimit hstage => exact ⟨.queueUp hne, fun _ _ => .of_eq rfl rfl⟩

theorem Attended.go (h : x.Attended) (hcall : x.calls id = some k)
    (hproceeds : k.Proceeds id x.conn x'.conn stage)
    (htime : x.time.Spares (IsCall (· ≠ id)) x'.time)
    (hothers : ∀ i, i ≠ id → .call i ∈ x'.time.ready ∨ x.conn.KeepsWaiting x'.conn i)
    (hi : i ≠ id) {k' : Call} (hcall' : x.calls i = some k') : x'.Attends i k' := by
  refine h.keep hcall' hi htime ((hothers i hi).imp_right fun hwaiting => ⟨hwaiting, ?_⟩)
  intro hsent hlimit'
  -- a call whose frame is sent has the turn, so that nobody else fills or clears the slot
  have hturn' : x.conn.hasTurn i = true :=
    h.housed.served i k' hcall' (Call.isServed_of_stage hlimit' hsent rfl)
  have hturn : x.conn.hasTurn id ≠ true := fun hturn =>
    hi (Connection.hasTurn_unique hturn' hturn)
  obtain ⟨hlimit, hmoves⟩ | ⟨-, hsends⟩ := hproceeds
  · exact hmoves.keepsUnanswered hlimit hi (by simpa using hturn)
      (fun hserved => hturn (h.housed.served id k hcall hserved))
  · exact hsends.keepsUnanswered hi

theorem Attended.step (h : x.Attended) (hstep : x.Step x') : x'.Attended := by
  refine ⟨h.housed.step hstep, ?_⟩
  have hold (id : Nat) (k : Call) (hcalls : x'.calls = x.calls) (hk : x'.calls id = some k) :
      x.calls id = some k := by rwa [hcalls] at hk
  cases hstep with
  | quiet hconn hcalls hnext htime =>
      intro id k hk
      have hcall := hold id k hcalls hk
      refine h.keep hcall (by rw [hcall]; rfl) htime (Or.inr ?_)
      rw [hconn]
      exact ⟨.refl _ _, fun _ _ => .of_eq rfl rfl⟩
  | touch htouched hcalls hnext htime hwoken =>
      exact fun id k hk => h.touch htouched htime hwoken (hold id k hcalls hk)
  | begin hnew hbegins hcalls hnext htime hready =>
      rw [hcalls]
      exact Traffic.forall_update (fun _ _ _ hk => h.come hnew hbegins rfl htime hk) (Or.inl hready)
  | refuse hnew hfinished hconn hcalls hnext htime =>
      rw [hcalls]
      refine Traffic.forall_update (fun id k _ hk => ?_)
        (Or.inr (Call.mayWait_of_isFinished hfinished))
      refine h.keep hk (by rw [hk]; rfl) htime (Or.inr ?_)
      rw [hconn]
      exact ⟨.refl _ _, fun _ _ => .of_eq rfl rfl⟩
  | go hcall hproceeds hcalls hnext htime hown hothers =>
      rw [hcalls]
      exact Traffic.forall_update (fun _ _ hi hk => h.go hcall hproceeds htime hothers hi hk) hown

theorem Attended.leave (h : x.Attended) (hleaves : Leaves id x x') : x'.Attended := by
  refine ⟨h.housed.leave hleaves, fun i k hk => ?_⟩
  have hi : i ≠ id := by
    rintro rfl
    rw [hleaves.calls, Function.update_self] at hk
    cases hk
  rw [hleaves.calls, Function.update_of_ne hi] at hk
  refine h.keep hk hi hleaves.time ((hleaves.others i hi).imp_right fun hwaiting => ⟨hwaiting, ?_⟩)
  rw [hleaves.conn]
  exact fun _ _ => .of_eq rfl (Connection.answer?_vacate hi)

/-- The alarm of a call goes off, or its moment is still to come. -/
theorem hasAlarm_pass (now : Nat) (h : k.HasAlarm id x.time) :
    .call id ∈ (x.pass now).time.ready ∨ k.HasAlarm id (x.pass now).time := by
  obtain ⟨limit, hlimit, hlater, hset⟩ := h
  by_cases hdue : limit.1 ≤ now
  · exact Or.inl (Timeline.mem_ready_advance_of_due hset hdue)
  · have hdue : now < limit.1 := Nat.lt_of_not_le hdue
    refine Or.inr ⟨limit, hlimit, ?_, Timeline.mem_alarms_advance hset hdue⟩
    rw [pass, Timeline.now_advance]
    exact Nat.max_lt.mpr ⟨hlater, hdue⟩

theorem Attended.pass (h : x.Attended) (now : Nat) : (x.pass now).Attended := by
  refine ⟨h.housed.keep rfl (Nat.le_refl _) rfl rfl, fun id k hk => ?_⟩
  obtain hready | hwait := h.attends id k hk
  · exact Or.inl (Timeline.mem_ready_advance now hready)
  · rcases Call.mayWait_iff.mp hwait with ⟨hstage, hturn, hset⟩ | ⟨hstage, hroom⟩ |
      ⟨hstage, hmay, hnone, hset⟩ | hfinished
    · refine (hasAlarm_pass now hset).imp_right fun halarm => ?_
      exact Call.mayWait_iff.mpr (Or.inl ⟨hstage, hturn, halarm⟩)
    · exact Or.inr (Call.mayWait_iff.mpr (Or.inr (Or.inl ⟨hstage, hroom⟩)))
    · refine (hasAlarm_pass now hset).imp_right fun halarm => ?_
      exact Call.mayWait_iff.mpr (Or.inr (Or.inr (Or.inl ⟨hstage, hmay, hnone, halarm⟩)))
    · exact Or.inr (Call.mayWait_of_isFinished hfinished)

theorem attended_invariant : Invariant Attended where
  new _ := Attended.new
  step _ _ hstep h := h.step hstep
  leave _ _ _ hleaves h := h.leave hleaves
  pass now _ h := h.pass now

end Scene

end MapScout
