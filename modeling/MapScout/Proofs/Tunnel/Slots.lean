import MapScout.Proofs.Tunnel.Scenes

/-!
# Who is in the slot

A call is put into the slot of its connection when it takes its turn, and it is out of the slot
again when it gives up the turn, however it ends.  The one exception is a call whose caller goes
away: it gives up its turn and stays in the slot, and what the agent answers goes to nobody, or to
the next call that takes the place in the slot.
-/

namespace MapScout

theorem Connection.answers_vacate {conn : Connection} {id : Nat} {a : Nat × Bytes}
    (h : a ∈ (conn.vacate id).answers) : a ∈ conn.answers ∧ a.1 ≠ id := by
  simpa [Connection.vacate, Connection.forget, Connection.leaveQueue, Connection.leaveLine] using h

/-- Only a call that takes its turn comes into the slot. -/
theorem Connection.Touched.slot {conn conn' : Connection} {woken : List Nat} {id : Nat}
    (h : conn.Touched conn' woken) (hslot : conn'.slot = some id) : conn.slot = some id := by
  cases h with
  | deliver payload =>
      cases hold : conn.slot with
      | none => rwa [Traffic.deliver_of_none hold, hold] at hslot
      | some i =>
          rw [Traffic.deliver_of_some hold] at hslot
          cases hslot
  | disarm => cases hslot
  | _ => exact hslot

namespace Scene

variable {x x' : Scene} {id i : Nat} {k : Call} {conn : Connection} {stage : CallStage}

/-- A call has its turn, or is gone. -/
structure Accounted (x : Scene) (id : Nat) : Prop where
  known : id < x.next
  served : ∀ k, x.calls id = some k → k.IsServed

/-- Who is in the slot or has been handed an answer has its turn, or is gone; nobody is in the slot
who has been handed one. -/
structure Slotted (x : Scene) : Prop where
  known : ∀ id k, x.calls id = some k → id < x.next
  slot : ∀ id, x.conn.slot = some id → x.Accounted id
  answers : ∀ a ∈ x.conn.answers, x.Accounted a.1 ∧ x.conn.slot ≠ some a.1

theorem Slotted.new (h : x.IsNew) : x.Slotted where
  known id k hcall := (h.calls id k hcall).1
  slot id hslot := by
    rw [h.slot] at hslot
    cases hslot
  answers a ha := by
    rw [h.answers] at ha
    cases ha

/-- The connection has changed, and its calls have not. -/
theorem Slotted.keep (h : x.Slotted) (hcalls : x'.calls = x.calls) (hnext : x.next ≤ x'.next)
    (hslot : ∀ id, x'.conn.slot = some id → x.conn.slot = some id)
    (hanswers : ∀ a ∈ x'.conn.answers, x'.conn.slot ≠ some a.1 ∧
      (a ∈ x.conn.answers ∨ x.conn.slot = some a.1)) : x'.Slotted := by
  have haccounted (id : Nat) (hid : x.Accounted id) : x'.Accounted id :=
    ⟨Nat.lt_of_lt_of_le hid.known hnext, fun k hk => hid.served k (by rwa [hcalls] at hk)⟩
  refine ⟨fun id k hk => ?_, fun id hid => haccounted id (h.slot id (hslot id hid)), ?_⟩
  · rw [hcalls] at hk
    exact Nat.lt_of_lt_of_le (h.known id k hk) hnext
  · intro a ha
    obtain ⟨hne, hold | harmed⟩ := hanswers a ha
    · exact ⟨haccounted _ (h.answers a hold).1, hne⟩
    · exact ⟨haccounted _ (h.slot _ harmed), hne⟩

theorem Slotted.touch (h : x.Slotted) {woken : List Nat} (htouched : x.conn.Touched x'.conn woken)
    (hcalls : x'.calls = x.calls) (hnext : x'.next = x.next) : x'.Slotted := by
  refine h.keep hcalls (Nat.le_of_eq hnext.symm) (fun _ => htouched.slot) fun a ha => ?_
  generalize x'.conn = conn' at htouched ha
  cases htouched with
  | deliver payload =>
      cases hslot : x.conn.slot with
      | none =>
          rw [Traffic.deliver_of_none hslot] at ha ⊢
          exact ⟨(h.answers a ha).2, Or.inl ha⟩
      | some i =>
          rw [Traffic.deliver_of_some hslot] at ha ⊢
          obtain hold | hlast := List.mem_append.mp ha
          · exact ⟨(Option.some_ne_none _).symm, Or.inl hold⟩
          · obtain rfl := List.mem_singleton.mp hlast
            exact ⟨(Option.some_ne_none _).symm, Or.inr rfl⟩
  | disarm => exact ⟨(Option.some_ne_none _).symm, Or.inl ha⟩
  | _ => exact ⟨(h.answers a ha).2, Or.inl ha⟩

/-- A call has come, has gone on or has gone, and nobody else has come into the slot. -/
theorem Slotted.update (h : x.Slotted) {k? : Option Call}
    (hcalls : x'.calls = Function.update x.calls id k?) (hnext : x.next ≤ x'.next)
    (hid : id < x'.next)
    (hslot : ∀ i, x'.conn.slot = some i →
      (i = id → ∀ k ∈ k?, k.IsServed) ∧ (i ≠ id → x.conn.slot = some i))
    (hanswers : ∀ a ∈ x'.conn.answers, a ∈ x.conn.answers ∧ x'.conn.slot ≠ some a.1 ∧
      (a.1 = id → ∀ k ∈ k?, k.IsServed)) : x'.Slotted := by
  have hself (hserved : ∀ k ∈ k?, k.IsServed) : x'.Accounted id := by
    refine ⟨hid, fun k hk => hserved k ?_⟩
    rwa [hcalls, Function.update_self] at hk
  have hother {i : Nat} (hi : i ≠ id) (haccounted : x.Accounted i) : x'.Accounted i := by
    refine ⟨Nat.lt_of_lt_of_le haccounted.known hnext, fun k hk => haccounted.served k ?_⟩
    rwa [hcalls, Function.update_of_ne hi] at hk
  refine ⟨fun i k hk => ?_, fun i hi => ?_, fun a ha => ?_⟩
  · by_cases hi : i = id
    · exact hi ▸ hid
    · rw [hcalls, Function.update_of_ne hi] at hk
      exact Nat.lt_of_lt_of_le (h.known i k hk) hnext
  · obtain ⟨hserved, hold⟩ := hslot i hi
    by_cases hne : i = id
    · subst hne
      exact hself (hserved rfl)
    · exact hother hne (h.slot i (hold hne))
  · obtain ⟨hold, hne, hserved⟩ := hanswers a ha
    refine ⟨?_, hne⟩
    by_cases ha' : a.1 = id
    · rw [ha']
      exact hself (hserved ha')
    · exact hother ha' (h.answers a hold).1

/-- A call has come that is not in the slot. -/
theorem Slotted.come (h : x.Slotted) {k? : Option Call}
    (hcalls : x'.calls = Function.update x.calls x.next k?) (hnext : x.next < x'.next)
    (hslot : x'.conn.slot = x.conn.slot) (hanswers : x'.conn.answers = x.conn.answers) :
    x'.Slotted := by
  apply h.update hcalls (Nat.le_of_lt hnext) hnext
  · intro i hi
    rw [hslot] at hi
    exact ⟨fun he => absurd (h.slot i hi).known (he ▸ Nat.lt_irrefl _), fun _ => hi⟩
  · intro a ha
    rw [hanswers] at ha
    obtain ⟨haccounted, hne⟩ := h.answers a ha
    refine ⟨ha, by rwa [hslot], fun he => ?_⟩
    exact absurd haccounted.known (he ▸ Nat.lt_irrefl _)

/-- A call has gone on, and is as much in the slot as it was. -/
theorem Slotted.stay (h : x.Slotted) (hcall : x.calls id = some k)
    (hcalls : x'.calls = Function.update x.calls id (some { k with stage }))
    (hnext : x'.next = x.next)
    (hslot : x'.conn.slot = x.conn.slot) (hanswers : x'.conn.answers = x.conn.answers)
    (hserved : k.IsServed → ({ k with stage } : Call).IsServed) : x'.Slotted := by
  have hserves (haccounted : x.Accounted id) : ∀ k' ∈ some { k with stage }, k'.IsServed := by
    rintro k' ⟨⟩
    exact hserved (haccounted.served k hcall)
  apply h.update hcalls (Nat.le_of_eq hnext.symm) (hnext ▸ h.known id k hcall)
  · intro i hi
    rw [hslot] at hi
    refine ⟨fun he => hserves ?_, fun _ => hi⟩
    subst he
    exact h.slot i hi
  · intro a ha
    rw [hanswers] at ha
    obtain ⟨haccounted, hne⟩ := h.answers a ha
    refine ⟨ha, by rwa [hslot], fun he => hserves ?_⟩
    rwa [he] at haccounted

/-- A call has left the connection.  It is out of the slot, unless it is gone altogether. -/
theorem Slotted.vacate (h : x.Slotted) (hcall : x.calls id = some k) {k? : Option Call}
    (hcalls : x'.calls = Function.update x.calls id k?) (hnext : x'.next = x.next)
    (hconn : x'.conn = conn.vacate id) (hanswers : conn.answers = x.conn.answers)
    (hslot : ∀ i, conn.slot = some i → x.conn.slot = some i)
    (hself : conn.slot = some id → ∀ k ∈ k?, k.IsServed) : x'.Slotted := by
  have hslot' : x'.conn.slot = conn.slot := by
    rw [hconn]
    rfl
  apply h.update hcalls (Nat.le_of_eq hnext.symm) (hnext ▸ h.known id k hcall)
  · intro i hi
    rw [hslot'] at hi
    exact ⟨fun he => hself (he ▸ hi), fun _ => hslot i hi⟩
  · intro a ha
    rw [hconn] at ha
    obtain ⟨hold, hne⟩ := Connection.answers_vacate ha
    rw [hanswers] at hold
    refine ⟨hold, fun he => ?_, fun he => absurd he hne⟩
    rw [hslot'] at he
    exact (h.answers a hold).2 (hslot a.1 he)

theorem Slotted.moves (h : x.Slotted) (hcall : x.calls id = some k) (hlimit : k.limit.isSome = true)
    (hmoves : k.Moves id x.conn conn stage) (hconn : x'.conn = conn)
    (hcalls : x'.calls = Function.update x.calls id (some { k with stage }))
    (hnext : x'.next = x.next) : x'.Slotted := by
  subst hconn
  have hnotInLine (hstage : k.stage = .inLine) (hslot : x.conn.slot = some id) : False :=
    Call.not_isServed_of_inLine hstage ((h.slot id hslot).served k hcall)
  generalize hconn : x'.conn = conn at hmoves
  cases hmoves with
  | wait => exact h.stay hcall hcalls hnext (by rw [hconn]) (by rw [hconn]) fun hk => hk
  | arm hstage hturn =>
      apply h.update hcalls (Nat.le_of_eq hnext.symm) (hnext ▸ h.known id k hcall)
      · intro i hi
        rw [hconn] at hi
        obtain rfl := Option.some.inj hi
        refine ⟨?_, fun hne => absurd rfl hne⟩
        rintro - k' ⟨⟩
        exact ⟨hlimit, rfl⟩
      · intro a ha
        rw [hconn] at ha ⊢
        obtain ⟨haccounted, -⟩ := h.answers a ha
        have hne : a.1 ≠ id := fun he =>
          Call.not_isServed_of_inLine hstage (haccounted.served k (he ▸ hcall))
        exact ⟨ha, fun he => hne (Option.some.inj he).symm, fun he => absurd he hne⟩
  | expire timeout at_ hstage hturn =>
      refine h.vacate hcall hcalls hnext hconn rfl (fun _ hi => hi) fun hi => ?_
      exact (hnotInLine hstage hi).elim
  | queueUp hstage =>
      exact h.stay hcall hcalls hnext (by rw [hconn]; rfl) (by rw [hconn]; rfl)
        fun _ => ⟨hlimit, rfl⟩
  | send hstage htaken =>
      exact h.stay hcall hcalls hnext (by rw [hconn]; rfl) (by rw [hconn]; rfl)
        fun _ => ⟨hlimit, rfl⟩
  | timeOut timeout hstage =>
      exact h.stay hcall hcalls hnext (by rw [hconn]; rfl) (by rw [hconn]; rfl)
        fun _ => ⟨hlimit, rfl⟩
  | succeed at_ hstage hanswer =>
      have hmem : (id, _) ∈ x.conn.answers := Keyed.mem_of_lookup hanswer
      refine h.vacate hcall hcalls hnext hconn rfl (fun _ hi => hi) fun hi => ?_
      exact absurd hi (h.answers _ hmem).2
  | lose at_ hstage hanswer hslot =>
      refine h.vacate hcall hcalls hnext hconn rfl (fun _ hi => hi) fun hi => ?_
      simp [Connection.mayAnswer, hi] at hslot
  | withdraw at_ hstage =>
      have hempty (i : Nat) : x.conn.disarm.slot ≠ some i := (Option.some_ne_none i).symm
      exact h.vacate hcall hcalls hnext hconn rfl (fun i hi => absurd hi (hempty i))
        fun hi => absurd hi (hempty id)
  | _ => exact h.stay hcall hcalls hnext (by rw [hconn]) (by rw [hconn]) fun _ => ⟨hlimit, rfl⟩

theorem Slotted.sends (h : x.Slotted) (hcall : x.calls id = some k) (hlimit : k.limit = none)
    (hsends : k.Sends id x.conn conn stage) (hconn : x'.conn = conn)
    (hcalls : x'.calls = Function.update x.calls id (some { k with stage }))
    (hnext : x'.next = x.next) : x'.Slotted := by
  have hnotSlot (hslot : x.conn.slot = some id) : False := by
    have hsome := ((h.slot id hslot).served k hcall).1
    rw [hlimit] at hsome
    cases hsome
  cases hsends with
  | wait => exact h.stay hcall hcalls hnext (by rw [hconn]) (by rw [hconn]) fun hk => hk
  | strand at_ hstage =>
      exact h.vacate hcall hcalls hnext hconn rfl (fun _ hi => hi) fun hi => (hnotSlot hi).elim
  | send at_ hstage =>
      exact h.vacate hcall hcalls hnext hconn rfl (fun _ hi => hi) fun hi => (hnotSlot hi).elim

theorem Slotted.step (h : x.Slotted) (hstep : x.Step x') : x'.Slotted := by
  cases hstep with
  | quiet hconn hcalls hnext htime =>
      apply h.keep hcalls hnext
      · exact fun _ hi => by rwa [hconn] at hi
      · intro a ha
        rw [hconn] at ha ⊢
        exact ⟨(h.answers a ha).2, Or.inl ha⟩
  | touch htouched hcalls hnext htime hwoken => exact h.touch htouched hcalls hnext
  | begin hnew hbegins hcalls hnext htime hready =>
      generalize hconn : x'.conn = conn at hbegins
      cases hbegins with
      | forward timeout hlimit hstage =>
          exact h.come hcalls hnext (by rw [hconn]; rfl) (by rw [hconn]; rfl)
      | send hlimit hstage => exact h.come hcalls hnext (by rw [hconn]; rfl) (by rw [hconn]; rfl)
  | refuse hnew hfinished hconn hcalls hnext htime =>
      exact h.come hcalls hnext (by rw [hconn]) (by rw [hconn])
  | go hcall hproceeds hcalls hnext htime hown hothers =>
      obtain ⟨hlimit, hmoves⟩ | ⟨hlimit, hsends⟩ := hproceeds
      · exact h.moves hcall hlimit hmoves rfl hcalls hnext
      · exact h.sends hcall hlimit hsends rfl hcalls hnext

theorem Slotted.leave (h : x.Slotted) (hleaves : Leaves id x x') : x'.Slotted := by
  obtain ⟨k, hcall⟩ := Option.isSome_iff_exists.mp hleaves.known
  refine h.vacate hcall hleaves.calls hleaves.next hleaves.conn rfl (fun _ hi => hi) ?_
  rintro - _ ⟨⟩

/-! ## Calls that are gone and still in the slot -/

/-- A call is in the slot, and it is gone. -/
def Abandoned (x : Scene) (id : Nat) : Prop := x.conn.slot = some id ∧ x.calls id = none

theorem slot_of_proceeds (hproceeds : k.Proceeds id x.conn conn stage) (hi : i ≠ id)
    (hslot : conn.slot = some i) : x.conn.slot = some i := by
  obtain ⟨-, hmoves⟩ | ⟨-, hsends⟩ := hproceeds
  · cases hmoves with
    | arm hstage hturn => exact absurd (Option.some.inj hslot).symm hi
    | withdraw at_ hstage => cases hslot
    | _ => exact hslot
  · cases hsends <;> exact hslot

theorem eq_none_of_update {calls : Nat → Option Call}
    (h : Function.update calls i (some k) id = none) : id ≠ i ∧ calls id = none := by
  have hne : id ≠ i := by
    rintro rfl
    rw [Function.update_self] at h
    cases h
  rw [Function.update_of_ne hne] at h
  exact ⟨hne, h⟩

/-- Nothing that happens makes a call abandoned, but that its caller goes away. -/
theorem Abandoned.of_step (hstep : x.Step x') (h : x'.Abandoned id) : x.Abandoned id := by
  obtain ⟨hslot, hnone⟩ := h
  cases hstep with
  | quiet hconn hcalls hnext htime => exact ⟨hconn ▸ hslot, hcalls ▸ hnone⟩
  | touch htouched hcalls hnext htime hwoken => exact ⟨htouched.slot hslot, hcalls ▸ hnone⟩
  | begin hnew hbegins hcalls hnext htime hready =>
      obtain ⟨-, hnone⟩ := eq_none_of_update (hcalls ▸ hnone)
      refine ⟨?_, hnone⟩
      generalize x'.conn = conn at hbegins hslot
      cases hbegins <;> exact hslot
  | refuse hnew hfinished hconn hcalls hnext htime =>
      obtain ⟨-, hnone⟩ := eq_none_of_update (hcalls ▸ hnone)
      exact ⟨hconn ▸ hslot, hnone⟩
  | go hcall hproceeds hcalls hnext htime hown hothers =>
      obtain ⟨hne, hnone⟩ := eq_none_of_update (hcalls ▸ hnone)
      exact ⟨slot_of_proceeds hproceeds hne hslot, hnone⟩

/-- A call has its turn and is in the slot. -/
def InSlot (x : Scene) (id : Nat) : Prop :=
  x.conn.slot = some id ∧ ∃ k, x.calls id = some k ∧ k.IsServed

theorem Abandoned.of_leaves (hx : x.Slotted) (hleaves : Leaves i x x') (h : x'.Abandoned id) :
    x.Abandoned id ∨ (i = id ∧ x.InSlot id) := by
  obtain ⟨hslot, hnone⟩ := h
  rw [hleaves.conn] at hslot
  have hslot : x.conn.slot = some id := hslot
  by_cases hi : i = id
  · subst hi
    obtain ⟨k, hk⟩ := Option.isSome_iff_exists.mp hleaves.known
    exact Or.inr ⟨rfl, hslot, k, hk, (hx.slot i hslot).served k hk⟩
  · rw [hleaves.calls, Function.update_of_ne (Ne.symm hi)] at hnone
    exact Or.inl ⟨hslot, hnone⟩

theorem slotted_invariant : Invariant Slotted where
  new _ := Slotted.new
  step _ _ hstep h := h.step hstep
  leave _ _ _ hleaves h := h.leave hleaves
  pass _ _ h := h.keep rfl (Nat.le_refl _) (fun _ hi => hi) fun a ha =>
    ⟨(h.answers a ha).2, Or.inl ha⟩

end Scene

namespace Broker

variable {b : Broker} {c id : Nat}

/-- A call that wants an answer has the turn on a connection. -/
def HasTurn (b : Broker) (c id : Nat) : Prop :=
  ∃ k, b.call? id = some k ∧ k.connection = c ∧ k.IsServed

def slot? (c : Nat) (b : Broker) : Option Nat := (b.connection? c).bind (·.slot)

/-- A call is in the slot and gone only if it was before, or if its caller has just gone away. -/
theorem abandoned_of_happen (hb : b.Proper) (hslotted : b.At c Scene.Slotted) {e : Event}
    {conn' : Connection} (hconn' : (b.happen e).connection? c = some conn')
    (h : ((b.happen e).scene c conn').Abandoned id) :
    ∃ conn, b.connection? c = some conn ∧
      ((b.scene c conn).Abandoned id ∨ (e = .abandon id ∧ (b.scene c conn).InSlot id)) := by
  have hnew (x : Scene) (hx : x.IsNew) : ¬ x.Abandoned id := by
    rintro ⟨hslot, -⟩
    rw [hx.slot] at hslot
    cases hslot
  have hstep (x x' : Scene) (hx : x.Step x') (h : ¬ x.Abandoned id) : ¬ x'.Abandoned id :=
    mt (Scene.Abandoned.of_step hx) h
  obtain heffects | ⟨now, rfl⟩ | ⟨i, k, rfl, hcall, hdrops⟩ := happen_cases hb e
  · by_contra hnot
    have hnone : b.At c fun x => ¬ x.Abandoned id :=
      fun conn hconn hold => hnot ⟨conn, hconn, Or.inl hold⟩
    exact hnone.effects hnew hstep hb heffects conn' hconn' h
  · exact ⟨conn', hconn', Or.inl h⟩
  · obtain ⟨conn, hconn, hx | hleaves⟩ := hdrops.leaves hcall hconn'
    · exact ⟨conn, hconn, Or.inl (h.of_step hx)⟩
    · obtain hold | ⟨rfl, hslot⟩ := h.of_leaves (hslotted conn hconn) hleaves
      · exact ⟨conn, hconn, Or.inl hold⟩
      · exact ⟨conn, hconn, Or.inr ⟨rfl, hslot⟩⟩

/-- A call that is in a slot and gone had the turn when its caller went away. -/
theorem exists_abandon (hb : b.Proper) (hnone : b.connection? c = none) (events : List Event)
    {conn : Connection} (hconn : (b.run events).connection? c = some conn)
    (habandoned : ((b.run events).scene c conn).Abandoned id) :
    ∃ before after conn', events = before ++ .abandon id :: after ∧
      (b.run before).connection? c = some conn' ∧ ((b.run before).scene c conn').InSlot id := by
  -- from the end: the last event has made the call abandoned, or it was before
  induction events using List.reverseRecOn generalizing conn with
  | nil =>
      rw [show b.run [] = b from rfl, hnone] at hconn
      cases hconn
  | append_singleton events e ih =>
      rw [run_append] at hconn habandoned
      have hslotted : (b.run events).At c Scene.Slotted :=
        At.run Scene.slotted_invariant hb (.of_none hnone) events
      obtain ⟨conn', hconn', hold | ⟨rfl, hslot⟩⟩ :=
        abandoned_of_happen (hb.run events) hslotted hconn habandoned
      · obtain ⟨before, after, conn'', rfl, hbefore⟩ := ih hconn' hold
        exact ⟨before, after ++ [e], conn'', by simp, hbefore⟩
      · exact ⟨events, [], conn', rfl, hconn', hslot⟩

/-- Whenever nobody has the turn on a connection, nobody gets the next answer that comes through
it, unless a call was in the slot when its caller went away. -/
theorem slot_empty_or_abandoned {config : BrokerConfig} {store : Store}
    (hstart : start config store = .ok b) (events : List Event)
    (hturn : ∀ id, ¬ (b.run events).HasTurn c id) :
    (b.run events).slot? c = none ∨
      ∃ id before after, events = before ++ .abandon id :: after ∧
        (b.run events).slot? c = some id ∧ (b.run before).HasTurn c id ∧
        (b.run before).slot? c = some id := by
  have hb : b.Proper := .start hstart
  have hnone := connection?_of_start hstart c
  cases hslot : (b.run events).slot? c with
  | none => exact Or.inl rfl
  | some id =>
      obtain ⟨conn, hconn, hslot'⟩ := Option.bind_eq_some_iff.mp hslot
      have hslotted : ((b.run events).scene c conn).Slotted :=
        At.run Scene.slotted_invariant hb (.of_none hnone) events conn hconn
      have hgone : Dialogue.callsOf c (b.run events) id = none := by
        cases hcall : Dialogue.callsOf c (b.run events) id with
        | none => rfl
        | some k =>
            obtain ⟨hcall', hk⟩ := callsOf_eq_some.mp hcall
            exact absurd ⟨k, hcall', hk, (hslotted.slot id hslot').served k hcall⟩ (hturn id)
      obtain ⟨before, after, conn', rfl, hconn', hslot'', k, hk, hserved⟩ :=
        exists_abandon hb hnone events hconn ⟨hslot', hgone⟩
      obtain ⟨hcall, hkc⟩ := callsOf_eq_some.mp hk
      refine Or.inr ⟨id, before, after, rfl, rfl, ⟨k, hcall, hkc, hserved⟩, ?_⟩
      rw [slot?, hconn']
      exact hslot''

/-- A frame is forwarded and taken by the agent, and the caller goes away before the answer. -/
def callerGone : List Event :=
  [.connect 1, .forward 0 [1] 5000] ++ List.replicate 4 (.turn (.call 1)) ++ [.take 0, .abandon 1]

/-- Another frame is forwarded, and the agent answers the frame that it has taken. -/
def nextCaller : List Event :=
  [.forward 0 [2] 5000] ++ List.replicate 4 (.turn (.call 2)) ++ [.deliver 0 [3], .turn (.call 2)]

theorem not_hasTurn_callerGone (id : Nat) : ¬ (run {} callerGone).HasTurn 0 id := by
  have hcalls : (run {} callerGone).calls = [] := rfl
  rintro ⟨k, hcall, -⟩
  rw [call?, hcalls] at hcall
  cases hcall

theorem slot_empty_or_abandoned_callerGone :
    start {} {} = .ok {} ∧ (∀ id, ¬ (run {} callerGone).HasTurn 0 id) ∧
      ((run {} callerGone).slot? 0 = none ∨
        ∃ id before after, callerGone = before ++ .abandon id :: after ∧
          (run {} callerGone).slot? 0 = some id ∧ (run {} before).HasTurn 0 id ∧
          (run {} before).slot? 0 = some id) := by
  have hstart : start {} {} = .ok {} := rfl
  exact ⟨hstart, not_hasTurn_callerGone,
    slot_empty_or_abandoned hstart callerGone not_hasTurn_callerGone⟩

/-- Nobody has the turn, the connection is open and its slot is filled; the next call gets the
answer to the frame before its own, which the agent has not even taken. -/
theorem slot_armed_callerGone :
    start {} {} = .ok {} ∧ (∀ id, ¬ (run {} callerGone).HasTurn 0 id) ∧
      (∃ conn, (run {} callerGone).connection? 0 = some conn ∧ conn.isClosed = false ∧
        conn.slot = some 1) ∧
      (∃ k at_, ((run {} callerGone).run nextCaller).call? 2 = some k ∧ k.frame = [2] ∧
        k.stage = .finished (.ok [3]) at_) ∧
      ∃ conn, ((run {} callerGone).run nextCaller).connection? 0 = some conn ∧
        conn.outbound = [[2]] :=
  ⟨rfl, not_hasTurn_callerGone, ⟨_, rfl, rfl, rfl⟩, ⟨_, _, rfl, rfl, rfl⟩, _, rfl, rfl⟩

end Broker

end MapScout
