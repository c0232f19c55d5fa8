import MapScout.Proofs.Tunnel.Traffic

/-!
# The dialogue on one connection

A run of the broker as one of its connections sees it.  Calls line up for the connection and take
their turns in any order, the peer takes the frames out of the queue and answers them one by one,
each with one reply and as late as it likes, and the connection may be closed or lose its peer at
any moment.  Beside the broker stands what has gone over the connection so far.
-/

namespace MapScout

structure Dialogue where
  broker : Broker
  /-- The frames put into the queue, each with the call that did it. -/
  sent : List (Nat × Bytes) := []
  /-- The frames the peer has taken. -/
  taken : List Bytes := []
  /-- The replies of the peer, the first one to the first frame it took. -/
  replies : List Bytes := []

namespace Dialogue

/-- What can happen to the connection and to those who use it. -/
inductive Event where
  /-- A frame is to be forwarded through some connection. -/
  | forward (c : Nat) (frame : Bytes) (timeout : Nat)
  /-- A call takes its turn. -/
  | turn (id : Nat)
  /-- The clock moves on. -/
  | pass (now : Nat)
  /-- The peer takes a frame. -/
  | take
  /-- The peer answers the first frame that it has taken and not answered. -/
  | reply (payload : Bytes)
  /-- Somebody closes the connection, and marks it closed. -/
  | cancel
  /-- Somebody closes the connection, and clears the slot. -/
  | clear
  /-- The peer vanishes. -/
  | stopTaking

variable (c : Nat)

def news (b b' : Broker) : List Bytes :=
  match b.connection? c, b'.connection? c with
  | some conn, some conn' => conn'.outbound.drop conn.outbound.length
  | _, _ => []

def happen (e : Event) (d : Dialogue) : Dialogue :=
  match e with
  | .forward c' frame timeout => { d with broker := (d.broker.startForward c' frame timeout).2 }
  | .turn id =>
      let broker :=
        (d.broker.onTime fun t => { t with ready := t.ready.erase (.call id) }).turn (.call id)
      { d with broker, sent := d.sent ++ (news c d.broker broker).map (id, ·) }
  | .pass now => { d with broker := d.broker.onTime (·.advance now) }
  | .take =>
      match d.broker.take? c with
      | some (frame, broker) => { d with broker, taken := d.taken ++ [frame] }
      | none => d
  | .reply payload =>
      if d.replies.length < d.taken.length then
        { d with broker := d.broker.deliver c payload, replies := d.replies ++ [payload] }
      else d
  | .cancel => { d with broker := d.broker.cancel c }
  | .clear =>
      if (d.broker.connection? c).any (·.isClosed) then { d with broker := d.broker.clear c } else d
  | .stopTaking => { d with broker := d.broker.stopTaking c }

def run (d : Dialogue) (events : List Event) : Dialogue := events.foldl (fun d e => d.happen c e) d

/-- Whatever one event preserves, a run preserves. -/
theorem run_induction {P : Dialogue → Prop} (hstep : ∀ d e, P d → P (d.happen c e)) {d : Dialogue}
    (hd : P d) (events : List Event) : P (d.run c events) := by
  induction events generalizing d with
  | nil => exact hd
  | cons e events ih => exact ih (hstep d e hd)

/-! ## The connection in a run -/

variable {c} {d : Dialogue} {conn : Connection}

def callsOf (c : Nat) (b : Broker) (id : Nat) : Option Call :=
  (b.call? id).filter (·.connection == c)

theorem callsOf_congr {b b' : Broker} (h : b'.call? = b.call?) : callsOf c b' = callsOf c b := by
  funext i
  rw [callsOf, h, callsOf]

theorem callsOf_update {b b' : Broker} {id : Nat} {k : Call} (hcall : b'.call? id = some k)
    (hcalls : ∀ i, i ≠ id → b'.call? i = b.call? i) (hk : k.connection = c) :
    callsOf c b' = Function.update (callsOf c b) id (some k) := by
  funext i
  by_cases hi : i = id
  · subst hi
    rw [Function.update_self, callsOf, hcall]
    simp [hk]
  · rw [Function.update_of_ne hi, callsOf, hcalls i hi, callsOf]

theorem callsOf_eq {b b' : Broker} {id : Nat} {k : Call} (hcall : b'.call? id = some k)
    (hcalls : ∀ i, i ≠ id → b'.call? i = b.call? i) (hk : k.connection ≠ c)
    (hold : callsOf c b id = none) : callsOf c b' = callsOf c b := by
  funext i
  by_cases hi : i = id
  · subst hi
    rw [hold, callsOf, hcall]
    simp [hk]
  · rw [callsOf, hcalls i hi, callsOf]

/-- What the connection sees of a run. -/
def traffic (c : Nat) (d : Dialogue) (conn : Connection) : Traffic where
  conn
  calls := callsOf c d.broker
  sent := d.sent
  taken := d.taken
  replies := d.replies

theorem traffic_eq {calls : Nat → Option Call} (h : callsOf c d.broker = calls) :
    d.traffic c conn =
      { conn, calls, sent := d.sent, taken := d.taken, replies := d.replies } := by
  rw [traffic, h]

/-- The connection is there, and only requests use it. -/
structure Watched (c : Nat) (d : Dialogue) (conn : Connection) : Prop where
  here : d.broker.connection? c = some conn
  fresh : ∀ id, d.broker.nextKey ≤ id → d.broker.call? id = none
  limit : ∀ id k, d.broker.call? id = some k → k.connection = c → k.limit.isSome

/-- What an event makes of the connection is a step of what the connection sees. -/
def Follows (c : Nat) (d : Dialogue) (conn : Connection) (d' : Dialogue) : Prop :=
  ∃ conn', d'.Watched c conn' ∧ (d.traffic c conn).Step (d'.traffic c conn')

theorem Watched.onlyTime (h : d.Watched c conn) {b : Broker} (hb : d.broker.OnlyTime b) :
    Watched c { d with broker := b } conn ∧
      traffic c { d with broker := b } conn = d.traffic c conn := by
  obtain ⟨time, rfl⟩ := hb
  exact ⟨⟨h.here, h.fresh, h.limit⟩, rfl⟩

theorem Watched.onConnection (h : d.Watched c conn) (f : Connection → Connection) :
    Watched c { d with broker := d.broker.onConnection c f } (f conn) ∧
      traffic c { d with broker := d.broker.onConnection c f } (f conn) =
        { d.traffic c conn with conn := f conn } := by
  have hcalls : (d.broker.onConnection c f).call? = d.broker.call? :=
    funext (Broker.call?_onConnection f)
  refine ⟨⟨Broker.connection?_onConnection h.here f, ?_, ?_⟩, ?_⟩
  · intro id hid
    rw [hcalls]
    exact h.fresh id (by rwa [Broker.nextKey_onConnection] at hid)
  · rw [hcalls]
    exact h.limit
  · rw [traffic, callsOf_congr hcalls]
    rfl

theorem Watched.quiet (h : d.Watched c conn) {b : Broker} (hb : d.broker.OnlyTime b) :
    Follows c d conn { d with broker := b } := by
  obtain ⟨hwatched, htraffic⟩ := h.onlyTime hb
  exact ⟨conn, hwatched, htraffic ▸ .quiet⟩

/-- Something happens to the connection alone. -/
theorem Watched.handle (h : d.Watched c conn) (f : Connection → Connection) {b : Broker}
    (hb : (d.broker.onConnection c f).OnlyTime b) (taken replies : List Bytes)
    (hstep : (d.traffic c conn).Step
      { d.traffic c conn with conn := f conn, taken, replies }) :
    Follows c d conn { d with broker := b, taken, replies } := by
  obtain ⟨hwatched, htraffic⟩ := h.onConnection f
  obtain ⟨time, rfl⟩ := hb
  refine ⟨f conn, ⟨hwatched.here, hwatched.fresh, hwatched.limit⟩, ?_⟩
  have heq : traffic c { d with broker := { d.broker.onConnection c f with time }, taken, replies }
      (f conn) = { d.traffic c conn with conn := f conn, taken, replies } := by
    have hcalls := congrArg Traffic.calls htraffic
    exact congrArg (fun calls => Traffic.mk (f conn) calls d.sent taken replies) hcalls
  rw [heq]
  exact hstep

/-! ## The events one by one -/

theorem Watched.forward (h : d.Watched c conn) (c' : Nat) (frame : Bytes) (timeout : Nat) :
    Follows c d conn (d.happen c (.forward c' frame timeout)) := by
  let id := d.broker.nextKey
  let limit := some (d.broker.now + timeout, Span.ofMillis timeout)
  let k : Call := { connection := c', frame, limit, stage := .inLine }
  let b := (d.broker.addCall k).2
  let b' := (d.broker.startForward c' frame timeout).2
  have htime : (b.onConnection c' (·.lineUp id)).OnlyTime b' := .onTime _
  have hcallOf (i : Nat) : b'.call? i = b.call? i :=
    (htime.call? i).trans (Broker.call?_onConnection _ i)
  have hfresh : d.broker.call? id = none := h.fresh id (Nat.le_refl _)
  have hcall : b'.call? id = some k := (hcallOf id).trans (Broker.call?_addCall hfresh k)
  have hcalls (i : Nat) (hi : i ≠ id) : b'.call? i = d.broker.call? i :=
    (hcallOf i).trans (Broker.call?_addCall_of_ne k hi)
  have hnone : callsOf c d.broker id = none := by rw [callsOf, hfresh, Option.filter_none]
  have hnext (i : Nat) (hi : b'.nextKey ≤ i) : b'.call? i = none := by
    have hlt : id < i := by
      rw [htime.nextKey, Broker.nextKey_onConnection] at hi
      exact hi
    exact (hcalls i (Nat.ne_of_gt hlt)).trans (h.fresh i (Nat.le_of_lt hlt))
  have hlimit (i : Nat) (k' : Call) (hcall' : b'.call? i = some k') (hk' : k'.connection = c) :
      k'.limit.isSome := by
    by_cases hi : i = id
    · rw [hi, hcall] at hcall'
      obtain rfl := Option.some.inj hcall'
      rfl
    · exact h.limit i k' ((hcalls i hi).symm.trans hcall') hk'
  by_cases hc : c' = c
  · subst hc
    refine ⟨conn.lineUp id, ⟨?_, hnext, hlimit⟩, ?_⟩
    · have hhere : b.connection? c' = some conn := h.here
      exact (htime.connection? c').trans (Broker.connection?_onConnection hhere _)
    · rw [traffic_eq (d := d.happen c' (.forward c' frame timeout))
        (callsOf_update hcall hcalls rfl)]
      exact .lineUp hnone rfl
  · refine ⟨conn, ⟨?_, hnext, hlimit⟩, ?_⟩
    · exact (htime.connection? c).trans
        ((Broker.connection?_onConnection_of_ne _ (Ne.symm hc)).trans h.here)
    · rw [traffic_eq (d := d.happen c (.forward c' frame timeout))
        (callsOf_eq hcall hcalls hc hnone)]
      exact .quiet

def turned (id : Nat) (d : Dialogue) : Broker :=
  (d.broker.onTime fun t => { t with ready := t.ready.erase (.call id) }).callTurn id

theorem happen_turn (hhere : d.broker.connection? c = some conn) {id : Nat} {conn' : Connection}
    (hconn' : (d.turned id).connection? c = some conn') :
    d.happen c (.turn id) = { d with
      broker := d.turned id
      sent := d.sent ++ (conn'.outbound.drop conn.outbound.length).map (id, ·) } := by
  have hnews : news c d.broker (d.turned id) = conn'.outbound.drop conn.outbound.length := by
    rw [news]
    rw [hhere, hconn']
  rw [← hnews]
  rfl

/-- A turn after which the connection is as it was, and so are the calls that use it. -/
theorem Watched.quietTurn (h : d.Watched c conn) {id : Nat}
    (hwatched : Watched c { d with broker := d.turned id } conn)
    (hcalls : callsOf c (d.turned id) = callsOf c d.broker) :
    Follows c d conn (d.happen c (.turn id)) := by
  rw [happen_turn h.here hwatched.here, List.drop_length, List.map_nil, List.append_nil]
  refine ⟨conn, hwatched, ?_⟩
  rw [traffic_eq (d := { d with broker := d.turned id }) hcalls]
  exact .quiet

/-- A call that has gone on uses the connection as it did. -/
theorem Watched.becomes (h : d.Watched c conn) {b : Broker} {c' id : Nat} {k : Call}
    {conn' : Connection} {stage : CallStage} (hcall : d.broker.call? id = some k)
    (hb : d.broker.Becomes b c' id conn' { k with stage }) {conn'' : Connection}
    (hhere : b.connection? c = some conn'') (sent : List (Nat × Bytes)) :
    Watched c { d with broker := b, sent } conn'' := by
  have hlt : id < d.broker.nextKey := by
    apply Nat.lt_of_not_le
    intro hle
    rw [h.fresh id hle] at hcall
    cases hcall
  refine ⟨hhere, ?_, ?_⟩
  · intro i hi
    change b.nextKey ≤ i at hi
    rw [hb.nextKey] at hi
    exact (hb.calls i (Nat.ne_of_gt (Nat.lt_of_lt_of_le hlt hi))).trans (h.fresh i hi)
  · intro i k' hcall' hk'
    change b.call? i = some k' at hcall'
    by_cases hi : i = id
    · rw [hi, hb.call] at hcall'
      obtain rfl := Option.some.inj hcall'
      exact h.limit id k hcall hk'
    · exact h.limit i k' ((hb.calls i hi).symm.trans hcall') hk'

/-- A call that uses the connection takes its turn. -/
theorem Watched.turn_own (h : d.Watched c conn) {id : Nat} {k : Call}
    (hcall : d.broker.call? id = some k) (hk : k.connection = c) :
    Follows c d conn (d.happen c (.turn id)) := by
  subst hk
  let b := d.broker.onTime fun t => { t with ready := t.ready.erase (.call id) }
  have hcall' : b.call? id = some k := hcall
  obtain ⟨conn', stage, hmoves, hb⟩ :=
    Broker.callTurn_goes (b := b) h.here hcall' (h.limit id k hcall rfl)
  have hb' : d.broker.Becomes (d.turned id) k.connection id conn' { k with stage } :=
    hb.toBecomes.of_onTime
  refine ⟨conn', ?_, ?_⟩
  · rw [happen_turn h.here hb'.connection]
    exact h.becomes hcall hb' hb'.connection _
  · rw [happen_turn h.here hb'.connection,
      traffic_eq (d := { d with broker := d.turned id, sent := _ })
        (callsOf_update hb'.call hb'.calls rfl)]
    have hown : callsOf k.connection d.broker id = some k := by
      rw [callsOf, hcall]
      simp
    exact .move hown hmoves

/-- A call that uses another connection takes its turn. -/
theorem Watched.turn_other (h : d.Watched c conn) {id : Nat} {k : Call}
    (hcall : d.broker.call? id = some k) (hk : k.connection ≠ c) :
    Follows c d conn (d.happen c (.turn id)) := by
  let b := d.broker.onTime fun t => { t with ready := t.ready.erase (.call id) }
  have hcall' : b.call? id = some k := hcall
  have hnone : callsOf c d.broker id = none := by
    rw [callsOf, hcall]
    simp [hk]
  obtain hsame | ⟨conn', stage, hb⟩ := Broker.callTurn_becomes (b := b) hcall'
  · have hturned : d.turned id = b := hsame
    apply h.quietTurn
    · rw [hturned]
      exact ⟨h.here, h.fresh, h.limit⟩
    · rw [hturned]
      rfl
  · have hb' : d.broker.Becomes (d.turned id) k.connection id conn' { k with stage } :=
      hb.of_onTime
    have hhere := (hb'.connections c (Ne.symm hk)).trans h.here
    exact h.quietTurn (h.becomes hcall hb' hhere _) (callsOf_eq hb'.call hb'.calls hk hnone)

theorem Watched.turn (h : d.Watched c conn) (id : Nat) :
    Follows c d conn (d.happen c (.turn id)) := by
  cases hcall : d.broker.call? id with
  | none =>
      let b := d.broker.onTime fun t => { t with ready := t.ready.erase (.call id) }
      have hturned : d.turned id = b := by
        rw [show d.turned id = b.callTurn id from rfl, Broker.callTurn,
          show b.call? id = none from hcall]
      apply h.quietTurn
      · rw [hturned]
        exact ⟨h.here, h.fresh, h.limit⟩
      · rw [hturned]
        rfl
  | some k =>
      by_cases hk : k.connection = c
      · exact h.turn_own hcall hk
      · exact h.turn_other hcall hk

theorem Watched.take (h : d.Watched c conn) : Follows c d conn (d.happen c .take) := by
  cases houtbound : conn.outbound with
  | nil =>
      have htake : d.broker.take? c = none := by
        simp [Broker.take?, h.here, Connection.take?, houtbound]
      rw [happen]
      rw [htake]
      exact h.quiet (.refl _)
  | cons frame rest =>
      have htake : d.broker.take? c =
          some (frame,
            (d.broker.onConnection c fun _ => { conn with outbound := rest }).wakeSenders c) := by
        simp [Broker.take?, h.here, Connection.take?, houtbound]
      rw [happen]
      rw [htake]
      exact h.handle (fun _ => { conn with outbound := rest }) (.wakeSenders c) _ _
        (.take houtbound)

theorem Watched.reply (h : d.Watched c conn) (payload : Bytes) :
    Follows c d conn (d.happen c (.reply payload)) := by
  unfold happen
  dsimp only
  split
  · rename_i hdue
    refine h.handle (·.deliver payload) ?_ d.taken _ (.reply payload hdue)
    rw [Broker.deliver]
    cases (d.broker.connection? c).bind (·.slot) with
    | none => exact .refl _
    | some id => exact .onTime _
  · exact h.quiet (.refl _)

theorem Watched.cancel (h : d.Watched c conn) : Follows c d conn (d.happen c .cancel) := by
  refine h.handle Connection.cancel ?_ d.taken d.replies .cancel
  unfold Broker.cancel
  dsimp only
  split
  · exact (Broker.OnlyTime.onTime _).trans (.onTime _)
  · exact .refl _

theorem Watched.clear (h : d.Watched c conn) : Follows c d conn (d.happen c .clear) := by
  unfold happen
  dsimp only
  split
  · rename_i hclosed
    rw [h.here] at hclosed
    refine h.handle Connection.disarm ?_ d.taken d.replies (.clear hclosed)
    rw [Broker.clear]
    cases (d.broker.connection? c).bind (·.slot) with
    | none => exact .refl _
    | some id => exact .onTime _
  · exact h.quiet (.refl _)

theorem Watched.stopTaking (h : d.Watched c conn) : Follows c d conn (d.happen c .stopTaking) :=
  h.handle Connection.stopTaking (.wakeSenders c) d.taken d.replies .stopTaking

/-- Every event is a step of what the connection sees. -/
theorem Watched.happen (h : d.Watched c conn) (e : Event) : Follows c d conn (d.happen c e) := by
  cases e with
  | forward c' frame timeout => exact h.forward c' frame timeout
  | turn id => exact h.turn id
  | pass now => exact h.quiet (.onTime _)
  | take => exact h.take
  | reply payload => exact h.reply payload
  | cancel => exact h.cancel
  | clear => exact h.clear
  | stopTaking => exact h.stopTaking

/-! ## Whole runs -/

/-- The connection is in good order. -/
def InOrder (c : Nat) (d : Dialogue) : Prop := ∃ conn, d.Watched c conn ∧ (d.traffic c conn).Orderly

theorem InOrder.run (h : d.InOrder c) (events : List Event) : (d.run c events).InOrder c := by
  refine run_induction c (fun d e hd => ?_) h events
  obtain ⟨conn, hwatched, horderly⟩ := hd
  obtain ⟨conn', hwatched', hstep⟩ := hwatched.happen e
  exact ⟨conn', hwatched', horderly.step hstep⟩

theorem traffic_calls (conn : Connection) {id : Nat} {k : Call} (hcall : d.broker.call? id = some k)
    (hk : k.connection = c) : (d.traffic c conn).calls id = some k := by
  have h : callsOf c d.broker id = some k := by
    rw [callsOf, hcall]
    simp [hk]
  exact h

/-- A call through the connection has returned a payload. -/
def Succeeded (c : Nat) (d : Dialogue) (id : Nat) (payload : Bytes) : Prop :=
  ∃ k at_, d.broker.call? id = some k ∧ k.connection = c ∧ k.stage = .finished (.ok payload) at_

/-- A call through the connection has run out of time after it had sent its frame. -/
def TimedOut (c : Nat) (d : Dialogue) (id : Nat) : Prop :=
  ∃ k e at_, d.broker.call? id = some k ∧ k.connection = c ∧ k.stage = .finished (.error e) at_ ∧
    e.isTimeout = true ∧ id ∈ d.sent.map (·.1)

theorem succeeded_iff (id : Nat) (payload : Bytes) :
    (d.traffic c conn).Succeeded id payload ↔ d.Succeeded c id payload := by
  constructor
  · rintro ⟨k, at_, hcall, hstage⟩
    obtain ⟨hcall, hk⟩ := Option.filter_eq_some_iff.mp
      (show (d.broker.call? id).filter (·.connection == c) = some k from hcall)
    exact ⟨k, at_, hcall, by simpa using hk, hstage⟩
  · rintro ⟨k, at_, hcall, hk, hstage⟩
    exact ⟨k, at_, traffic_calls conn hcall hk, hstage⟩

/-- On a connection that is lost, no call succeeds later that has not succeeded by then. -/
theorem succeeded_of_doomed (hwatched : d.Watched c conn) (hdoomed : (d.traffic c conn).Doomed)
    (events : List Event) {id : Nat} {payload : Bytes}
    (h : (d.run c events).Succeeded c id payload) : d.Succeeded c id payload := by
  induction events generalizing d conn with
  | nil => exact h
  | cons e events ih =>
      obtain ⟨conn', hwatched', hstep⟩ := hwatched.happen e
      have hlater : (d.happen c e).Succeeded c id payload := ih hwatched' (hdoomed.step hstep) h
      exact (succeeded_iff id payload).mp
        (hdoomed.succeeded hstep ((succeeded_iff id payload).mpr hlater))

/-- Every reply has reached the call whose frame it answers. -/
structure Correlated (c : Nat) (d : Dialogue) : Prop where
  /-- A call that has returned a payload has sent its frame as one of the frames on the
  connection, the peer has taken that frame in the same place, and the payload is the peer's reply
  in that place. -/
  own : ∀ id k payload at_, d.broker.call? id = some k → k.connection = c →
    k.stage = .finished (.ok payload) at_ →
    ∃ n : Nat, d.sent[n]? = some (id, k.frame) ∧ d.taken[n]? = some k.frame ∧
      d.replies[n]? = some payload
  /-- No call sends its frame twice. -/
  once : (d.sent.map (·.1)).Nodup
  /-- On an open connection at most one frame is unanswered. -/
  alone : ∀ conn, d.broker.connection? c = some conn → conn.isClosed = false →
    d.sent.length ≤ d.replies.length + 1

theorem InOrder.correlated (h : d.InOrder c) : d.Correlated c := by
  obtain ⟨conn, hwatched, horderly⟩ := h
  refine ⟨?_, horderly.wired.once, ?_⟩
  · intro id k payload at_ hcall hk hstage
    have hcall' := traffic_calls conn hcall hk
    have hsettled := horderly.settled id k hcall'
      (horderly.not_mem_line hcall' (by simp [Call.isFinished, hstage]))
    rw [Traffic.Settled] at hsettled
    rw [hstage] at hsettled
    obtain ⟨n, hsent, hreply⟩ := hsettled
    exact ⟨n, hsent, horderly.wired.taken_of_reply hsent hreply, hreply⟩
  · intro conn' hconn' hopen
    obtain rfl := Option.some.inj (hwatched.here.symm.trans hconn')
    exact horderly.length_sent_le hopen

/-- Once a call has run out of time with its frame sent, no call returns a payload any more. -/
theorem InOrder.succeeded_of_timedOut (h : d.InOrder c) {id : Nat} (htimedOut : d.TimedOut c id)
    (events : List Event) {j : Nat} {payload : Bytes}
    (hsucceeded : (d.run c events).Succeeded c j payload) : d.Succeeded c j payload := by
  obtain ⟨conn, hwatched, horderly⟩ := h
  obtain ⟨k, e, at_, hcall, hk, hstage, htimeout, hsent⟩ := htimedOut
  have hcall' := traffic_calls conn hcall hk
  have hsettled := horderly.settled id k hcall'
    (horderly.not_mem_line hcall' (by simp [Call.isFinished, hstage]))
  rw [Traffic.Settled] at hsettled
  rw [hstage] at hsettled
  exact succeeded_of_doomed hwatched (hsettled htimeout hsent) events hsucceeded

end Dialogue

/-- The keys that a broker gives out next are not in use. -/
structure Broker.WellKeyed (b : Broker) : Prop where
  calls : ∀ id, b.nextKey ≤ id → b.call? id = none
  connections : ∀ c, b.nextKey ≤ c → b.connection? c = none
  targets : ∀ id k, b.call? id = some k → k.connection < b.nextKey

namespace Dialogue

def start (b : Broker) (proxy : ProxyId) : Dialogue := { broker := (b.addConnection proxy).2 }

variable {b : Broker}

theorem inOrder_start (hb : b.WellKeyed) (proxy : ProxyId) : (start b proxy).InOrder b.nextKey := by
  let conn : Connection := { id := proxy, since := b.now }
  have hhere : (start b proxy).broker.connection? b.nextKey = some conn :=
    Broker.connection?_addConnection (hb.connections _ (Nat.le_refl _)) proxy
  have hnone (id : Nat) (k : Call) (hcall : b.call? id = some k) : k.connection ≠ b.nextKey :=
    Nat.ne_of_lt (hb.targets id k hcall)
  have hcalls : callsOf b.nextKey (start b proxy).broker = fun _ => none := by
    funext id
    have hfilter : (b.call? id).filter (·.connection == b.nextKey) = none := by
      cases hcall : b.call? id with
      | none => rfl
      | some k => simp [hnone id k hcall]
    exact hfilter
  refine ⟨conn, ⟨hhere, ?_, ?_⟩, ?_⟩
  · intro id hid
    exact hb.calls id (Nat.le_of_succ_le hid)
  · intro id k hcall hk
    exact absurd hk (hnone id k hcall)
  · rw [traffic_eq hcalls]
    have hnil {P : Nat → Prop} : ∀ i ∈ ([] : List Nat), P i := by
      intro i hi
      cases hi
    refine ⟨⟨List.nodup_nil, hnil, hnil⟩, ⟨List.nodup_nil, hnil, ?_, List.nil_prefix, fun _ => rfl,
      Nat.le_refl _⟩, fun _ => ⟨rfl, rfl, fun _ => rfl⟩, ?_, ?_, ?_, ?_⟩
    · rintro id k ⟨⟩
    · rintro id k ⟨⟩
    · rintro id ⟨⟩
    · rintro a ⟨⟩
    · rintro id k ⟨⟩

/-- However calls, replies and closings come one after another on a connection, every reply
reaches the call whose frame it answers, and after a call has run out of time with its frame sent,
no call on the connection returns a payload. -/
theorem correlated_run (hb : b.WellKeyed) (proxy : ProxyId) (events : List Event) :
    ((start b proxy).run b.nextKey events).Correlated b.nextKey ∧
      ∀ id, ((start b proxy).run b.nextKey events).TimedOut b.nextKey id → ∀ later j payload,
        (((start b proxy).run b.nextKey events).run b.nextKey later).Succeeded b.nextKey j payload →
          ((start b proxy).run b.nextKey events).Succeeded b.nextKey j payload := by
  have h := (inOrder_start hb proxy).run events
  exact ⟨h.correlated, fun id htimedOut later j payload => h.succeeded_of_timedOut htimedOut later⟩

/-- One call gets its answer, the next one runs out of time, and its reply comes late. -/
def lateReply : List Event :=
  [.forward 0 [1] 5] ++ List.replicate 5 (.turn 1) ++ [.take, .reply [2], .turn 1] ++
    [.forward 0 [3] 5] ++ List.replicate 4 (.turn 2) ++
    [.take, .pass 5, .turn 2, .turn 2, .reply [4]]

theorem wellKeyed_empty : Broker.WellKeyed {} := by
  refine ⟨fun _ _ => rfl, fun _ _ => rfl, ?_⟩
  rintro id k ⟨⟩

theorem correlated_run_lateReply :
    Broker.WellKeyed {} ∧
      ((start {} 7).run 0 lateReply).Succeeded 0 1 [2] ∧
      ((start {} 7).run 0 lateReply).TimedOut 0 2 ∧
      ((start {} 7).run 0 lateReply).Correlated 0 ∧
      ∀ later j payload,
        (((start {} 7).run 0 lateReply).run 0 later).Succeeded 0 j payload →
          ((start {} 7).run 0 lateReply).Succeeded 0 j payload := by
  have htimedOut : ((start {} 7).run 0 lateReply).TimedOut 0 2 :=
    ⟨_, _, _, rfl, rfl, rfl, rfl, by decide⟩
  obtain ⟨hcorrelated, hlater⟩ := correlated_run wellKeyed_empty 7 lateReply
  exact ⟨wellKeyed_empty, ⟨_, _, rfl, rfl, rfl⟩, htimedOut, hcorrelated, hlater 2 htimedOut⟩

end Dialogue

end MapScout
