import Mathlib.Data.List.Infix
import Mathlib.Logic.Function.Basic
import MapScout.Proofs.Tunnel.CallMoves

/-!
# What goes over one connection

Replies do not say which frame they answer.  A reply still reaches the call whose frame it
answers, as only the call that has the turn can have a frame unanswered, and as a call that gives
up with its frame sent leaves a closed connection behind.
-/

namespace MapScout

/-- A stage in which a call on a closed connection cannot succeed any more. -/
def CallStage.isBarren : CallStage → Bool
  | .admitted | .sending | .sent => false
  | _ => true

def CallStage.isEarly : CallStage → Bool
  | .inLine | .armed | .admitted | .sending => true
  | _ => false

def CallStage.isServed : CallStage → Bool
  | .inLine | .finished .. => false
  | _ => true

theorem Call.isFinished_of_isServed {k : Call} (h : k.stage.isServed = true) :
    k.isFinished = false := by
  rw [Call.isFinished]
  split
  · rename_i hstage
    rw [hstage] at h
    cases h
  · rfl

/-- A connection with the calls that use it, and what has gone over it so far. -/
structure Traffic where
  conn : Connection
  calls : Nat → Option Call
  /-- The frames put into the queue, each with the call that did it. -/
  sent : List (Nat × Bytes)
  /-- The frames the peer has taken. -/
  taken : List Bytes
  /-- The replies of the peer, the first one to the first frame it took. -/
  replies : List Bytes

def TunnelError.isTimeout : TunnelError → Bool
  | .timeout .. => true
  | _ => false

namespace Traffic

/-- A call has gone on, and may have put a frame into the queue. -/
def move (x : Traffic) (id : Nat) (conn : Connection) (k : Call) : Traffic :=
  { x with
    conn
    calls := Function.update x.calls id (some k)
    sent := x.sent ++ (conn.outbound.drop x.conn.outbound.length).map (id, ·) }

/-- What can happen to a connection in one event. -/
inductive Step (x : Traffic) : Traffic → Prop where
  | quiet : Step x x
  | lineUp {id : Nat} {k : Call} (hnew : x.calls id = none) (hstage : k.stage = .inLine) :
      Step x { x with
        conn := x.conn.lineUp id
        calls := Function.update x.calls id (some k) }
  | move {id : Nat} {k : Call} {conn : Connection} {stage : CallStage} (hcall : x.calls id = some k)
      (hmoves : k.Moves id x.conn conn stage) : Step x (x.move id conn { k with stage })
  | take {frame : Bytes} {rest : List Bytes} (h : x.conn.outbound = frame :: rest) :
      Step x { x with conn := { x.conn with outbound := rest }, taken := x.taken ++ [frame] }
  | reply (payload : Bytes) (h : x.replies.length < x.taken.length) :
      Step x { x with conn := x.conn.deliver payload, replies := x.replies ++ [payload] }
  | cancel : Step x { x with conn := x.conn.cancel }
  | clear (hclosed : x.conn.isClosed = true) : Step x { x with conn := x.conn.disarm }
  | stopTaking : Step x { x with conn := x.conn.stopTaking }

variable {x x' : Traffic} {id : Nat} {k : Call}

/-- What holds of the calls that were there and of the one that has changed holds of all. -/
theorem forall_update {calls : Nat → Option Call} {P : Nat → Call → Prop}
    (hold : ∀ i k', i ≠ id → calls i = some k' → P i k') (hnew : P id k) :
    ∀ i k', Function.update calls id (some k) i = some k' → P i k' := by
  intro i k' hcall
  by_cases hi : i = id
  · subst hi
    rw [Function.update_self] at hcall
    rwa [← Option.some.inj hcall]
  · rw [Function.update_of_ne hi] at hcall
    exact hold i k' hi hcall

/-! ## Connections that are lost -/

/-- No call can succeed on the connection any more. -/
structure Doomed (x : Traffic) : Prop where
  closed : x.conn.isClosed = true
  barren : ∀ id k, x.calls id = some k → k.stage.isBarren = true

theorem isClosed_deliver (conn : Connection) (payload : Bytes) :
    (conn.deliver payload).isClosed = conn.isClosed := by
  rw [Connection.deliver]
  split <;> rfl

theorem deliver_of_none {conn : Connection} (h : conn.slot = none) (payload : Bytes) :
    conn.deliver payload = conn := by
  rw [Connection.deliver, h]

theorem deliver_of_some {conn : Connection} (h : conn.slot = some id) (payload : Bytes) :
    conn.deliver payload =
      { conn.disarm with answers := conn.answers ++ [(id, payload)] } := by
  rw [Connection.deliver, h]

theorem Doomed.moves {conn : Connection} {stage : CallStage} (h : x.Doomed)
    (hcall : x.calls id = some k) (hmoves : k.Moves id x.conn conn stage) :
    conn.isClosed = true ∧ stage.isBarren = true := by
  have hbarren := h.barren id k hcall
  have hclosed := h.closed
  cases hmoves with
  | wait => exact ⟨hclosed, hbarren⟩
  | arm hstage hturn => exact ⟨hclosed, rfl⟩
  | expire timeout at_ hstage hturn => exact ⟨hclosed, rfl⟩
  | refuse hstage hclosed => exact ⟨hclosed, rfl⟩
  | register hstage hopen =>
      rw [hopen] at hclosed
      cases hclosed
  | queueUp hstage =>
      rw [hstage] at hbarren
      cases hbarren
  | strand hstage => exact ⟨hclosed, rfl⟩
  | send hstage htaken =>
      rw [hstage] at hbarren
      cases hbarren
  | succeed at_ hstage hanswer => exact ⟨hclosed, rfl⟩
  | lose at_ hstage hanswer hslot => exact ⟨hclosed, rfl⟩
  | timeOut timeout hstage => exact ⟨rfl, rfl⟩
  | withdraw at_ hstage => exact ⟨hclosed, rfl⟩

theorem Doomed.step (h : x.Doomed) (hstep : x.Step x') : x'.Doomed := by
  cases hstep with
  | quiet => exact h
  | lineUp hnew hstage =>
      refine ⟨h.closed, forall_update (fun i k' _ => h.barren i k') ?_⟩
      rw [hstage]
      rfl
  | move hcall hmoves =>
      obtain ⟨hclosed, hbarren⟩ := h.moves hcall hmoves
      exact ⟨hclosed, forall_update (fun i k' _ => h.barren i k') hbarren⟩
  | take htake => exact ⟨h.closed, h.barren⟩
  | reply payload hreply => exact ⟨(isClosed_deliver ..).trans h.closed, h.barren⟩
  | cancel => exact ⟨rfl, h.barren⟩
  | clear hclosed => exact ⟨h.closed, h.barren⟩
  | stopTaking => exact ⟨h.closed, h.barren⟩

def Succeeded (x : Traffic) (id : Nat) (payload : Bytes) : Prop :=
  ∃ k at_, x.calls id = some k ∧ k.stage = .finished (.ok payload) at_

/-- On a connection that is lost no call succeeds that has not succeeded before. -/
theorem Doomed.succeeded (h : x.Doomed) (hstep : x.Step x') {payload : Bytes}
    (hsucceeded : x'.Succeeded id payload) : x.Succeeded id payload := by
  let P (i : Nat) (k : Call) : Prop :=
    ∀ payload at_, k.stage = .finished (.ok payload) at_ → x.Succeeded i payload
  have hold (i : Nat) (k : Call) (hcall : x.calls i = some k) : P i k :=
    fun payload at_ hstage => ⟨k, at_, hcall, hstage⟩
  have hall : ∀ i k, x'.calls i = some k → P i k := by
    cases hstep with
    | lineUp hnew hstage =>
        refine forall_update (fun i k _ => hold i k) ?_
        intro payload at_ hfinished
        rw [hstage] at hfinished
        cases hfinished
    | @move i k conn stage hcall hmoves =>
        refine forall_update (fun i k _ => hold i k) ?_
        intro payload at_ hfinished
        have hbarren := h.barren i k hcall
        cases hmoves with
        | wait => exact hold i k hcall payload at_ hfinished
        | succeed at_ hstage hanswer =>
            rw [hstage] at hbarren
            cases hbarren
        | _ => cases hfinished
    | _ => exact hold
  obtain ⟨k, at_, hcall, hstage⟩ := hsucceeded
  exact hall id k hcall payload at_ hstage

/-! ## Connections in good order -/

def IsAnswered (x : Traffic) : Prop := x.replies.length = x.sent.length

/-- Nobody uses the connection; while it is open, nothing is on its way. -/
structure Rests (x : Traffic) : Prop where
  slot : x.conn.slot = none
  answers : x.conn.answers = []
  answered : x.conn.isClosed = false → x.IsAnswered

/-- The frame of a call is the last one sent, and its reply is still to come. -/
structure Awaits (x : Traffic) (id : Nat) (earlier : List (Nat × Bytes)) : Prop where
  answers : x.conn.answers = []
  unanswered : x.conn.slot = some id → x.replies.length = earlier.length
  slot : x.conn.isClosed = false → x.conn.slot = some id

/-- The frame of a call is the last one sent, and its reply has come. -/
structure Holds (x : Traffic) (id : Nat) (earlier : List (Nat × Bytes)) (payload : Bytes) :
    Prop where
  slot : x.conn.slot = none
  answers : x.conn.answers = [(id, payload)]
  replies : ∃ before, x.replies = before ++ [payload] ∧ before.length = earlier.length

/-- How the connection serves the call that has the turn, at each stage of the call. -/
def Serves (x : Traffic) (id : Nat) (k : Call) : Prop :=
  match k.stage with
  | .inLine => x.Rests
  | .armed =>
      x.conn.isClosed = false → x.conn.slot = some id ∧ x.conn.answers = [] ∧ x.IsAnswered
  | .admitted | .sending =>
      x.conn.answers = [] ∧ x.IsAnswered ∧ (x.conn.isClosed = false → x.conn.slot = some id)
  | .sent =>
      ∃ earlier, x.sent = earlier ++ [(id, k.frame)] ∧
        (x.Awaits id earlier ∨ ∃ payload, x.Holds id earlier payload)
  | .withdrawing e =>
      (x.conn.isClosed = false → x.IsAnswered) ∧ (e.isTimeout = true → x.conn.isClosed = true)
  | .finished .. => False

/-- How a call has ended that has left the connection. -/
def Settled (x : Traffic) (id : Nat) (k : Call) : Prop :=
  match k.stage with
  | .finished (.ok payload) _ =>
      ∃ n : Nat, x.sent[n]? = some (id, k.frame) ∧ x.replies[n]? = some payload
  | .finished (.error e) _ => e.isTimeout = true → id ∈ x.sent.map (·.1) → x.Doomed
  | _ => False

/-- The line of the calls. -/
structure Lined (x : Traffic) : Prop where
  nodup : x.conn.line.Nodup
  known : ∀ id ∈ x.conn.line, (x.calls id).isSome
  waiting : ∀ id ∈ x.conn.line.tail, ∀ k, x.calls id = some k → k.stage = .inLine

/-- The frames and the replies on their way. -/
structure Wired (x : Traffic) : Prop where
  once : (x.sent.map (·.1)).Nodup
  known : ∀ id ∈ x.sent.map (·.1), (x.calls id).isSome
  unsent : ∀ id k, x.calls id = some k → k.stage.isEarly = true → id ∉ x.sent.map (·.1)
  taken : x.taken ++ x.conn.outbound <+: x.sent.map (·.2)
  queued : x.conn.isTaken = true → x.taken ++ x.conn.outbound = x.sent.map (·.2)
  replied : x.replies.length ≤ x.taken.length

/-- The connection serves one call at a time. -/
structure Orderly (x : Traffic) : Prop where
  lined : x.Lined
  wired : x.Wired
  rests : x.conn.line = [] → x.Rests
  serves : ∀ id k, x.conn.line.head? = some id → x.calls id = some k → x.Serves id k
  slotted : ∀ id, x.conn.slot = some id → x.conn.line.head? = some id
  answered : ∀ a ∈ x.conn.answers, x.conn.line.head? = some a.1
  settled : ∀ id k, x.calls id = some k → id ∉ x.conn.line → x.Settled id k

/-! ## Calls that go on -/

/-- A call has gone on without putting a frame into the queue. -/
def put (x : Traffic) (id : Nat) (conn : Connection) (k : Call) : Traffic :=
  { x with conn, calls := Function.update x.calls id (some k) }

variable {conn : Connection} {stage : CallStage}

theorem move_eq_put (h : conn.outbound = x.conn.outbound) : x.move id conn k = x.put id conn k := by
  rw [move, put]
  rw [h, List.drop_length, List.map_nil, List.append_nil]

theorem calls_put (conn : Connection) : (x.put id conn k).calls id = some k :=
  Function.update_self ..

theorem calls_put_of_ne {i : Nat} (hi : i ≠ id) : (x.put id conn k).calls i = x.calls i :=
  Function.update_of_ne hi ..

theorem isSome_update (i : Nat) (h : (x.calls i).isSome) :
    (Function.update x.calls id (some k) i).isSome := by
  by_cases hi : i = id
  · subst hi
    rw [Function.update_self]
    rfl
  · rwa [Function.update_of_ne hi]

theorem Settled.mono (h : x.Settled id k) (hsent : x.sent <+: x'.sent)
    (hreplies : x.replies <+: x'.replies) (hmem : id ∈ x'.sent.map (·.1) → id ∈ x.sent.map (·.1))
    (hdoomed : x.Doomed → x'.Doomed) : x'.Settled id k := by
  unfold Settled at *
  split at h
  · obtain ⟨n, hn, hn'⟩ := h
    refine ⟨n, ?_, ?_⟩
    · obtain ⟨later, heq⟩ := hsent
      rw [← heq, List.getElem?_append_left (List.getElem?_eq_some_iff.mp hn).1]
      exact hn
    · obtain ⟨later, heq⟩ := hreplies
      rw [← heq, List.getElem?_append_left (List.getElem?_eq_some_iff.mp hn').1]
      exact hn'
  · exact fun htimeout hsent' => hdoomed (h htimeout (hmem hsent'))
  · exact h.elim

/-- How the connection serves a call depends on little of the connection. -/
theorem Serves.congr (h : x.Serves id k) (hslot : x'.conn.slot = x.conn.slot)
    (hanswers : x'.conn.answers = x.conn.answers) (hclosed : x'.conn.isClosed = x.conn.isClosed)
    (hsent : x'.sent = x.sent) (hreplies : x'.replies = x.replies) : x'.Serves id k := by
  have hanswered : x'.IsAnswered ↔ x.IsAnswered := by
    rw [IsAnswered, IsAnswered, hsent, hreplies]
  unfold Serves at *
  split at h
  · refine ⟨?_, ?_, ?_⟩
    · rw [hslot]
      exact h.slot
    · rw [hanswers]
      exact h.answers
    · rw [hclosed, hanswered]
      exact h.answered
  · rwa [hclosed, hslot, hanswers, hanswered]
  · rwa [hclosed, hslot, hanswers, hanswered]
  · rwa [hclosed, hslot, hanswers, hanswered]
  · obtain ⟨earlier, hlast, hcase⟩ := h
    refine ⟨earlier, hsent.trans hlast, ?_⟩
    obtain hawaits | ⟨payload, hholds⟩ := hcase
    · refine Or.inl ⟨?_, ?_, ?_⟩
      · rw [hanswers]
        exact hawaits.answers
      · rw [hslot, hreplies]
        exact hawaits.unanswered
      · rw [hclosed, hslot]
        exact hawaits.slot
    · refine Or.inr ⟨payload, ?_, ?_, ?_⟩
      · rw [hslot]
        exact hholds.slot
      · rw [hanswers]
        exact hholds.answers
      · rw [hreplies]
        exact hholds.replies
  · rwa [hclosed, hanswered]
  · exact h

theorem Lined.not_mem_tail (h : x.Lined) (hhead : x.conn.line.head? = some id) :
    id ∉ x.conn.line.tail := by
  obtain ⟨rest, hrest⟩ := List.head?_eq_some_iff.mp hhead
  have hnodup := h.nodup
  rw [hrest] at hnodup ⊢
  exact (List.nodup_cons.mp hnodup).1

theorem Lined.stay (h : x.Lined) (hline : conn.line = x.conn.line)
    (hstage : id ∈ x.conn.line.tail → k.stage = .inLine) : (x.put id conn k).Lined where
  nodup := by
    rw [put, hline]
    exact h.nodup
  known i hi := isSome_update i (h.known i (by rwa [put, hline] at hi))
  waiting i hi := by
    rw [put, hline] at hi
    have hall : ∀ i k', (x.put id conn k).calls i = some k' →
        i ∈ x.conn.line.tail → k'.stage = .inLine :=
      forall_update (fun i k' _ hcall hi => h.waiting i hi k' hcall) hstage
    exact fun k' hcall => hall i k' hcall hi

theorem Lined.leave (h : x.Lined) (hline : conn.line = x.conn.line.erase id) :
    (x.put id conn k).Lined where
  nodup := by
    rw [put, hline]
    exact h.nodup.erase id
  known i hi := by
    rw [put, hline] at hi
    exact isSome_update i (h.known i (List.mem_of_mem_erase hi))
  waiting i hi k' hcall := by
    rw [put, hline] at hi
    have hne : i ≠ id := (h.nodup.mem_erase_iff.mp (List.mem_of_mem_tail hi)).1
    have htail : i ∈ x.conn.line.tail := by
      generalize x.conn.line = line at hi
      cases line with
      | nil => exact hi
      | cons first rest =>
          rw [List.erase_cons] at hi
          split at hi
          · exact List.mem_of_mem_tail hi
          · exact List.mem_of_mem_erase hi
    exact h.waiting i htail k' ((calls_put_of_ne hne).symm.trans hcall)

theorem Wired.put (h : x.Wired) (houtbound : conn.outbound = x.conn.outbound)
    (htaken : conn.isTaken = x.conn.isTaken)
    (hearly : k.stage.isEarly = true → id ∉ x.sent.map (·.1)) : (x.put id conn k).Wired where
  once := h.once
  known i hi := isSome_update i (h.known i hi)
  unsent := forall_update (fun i k' _ hcall => h.unsent i k' hcall) hearly
  taken := by
    rw [Traffic.put, houtbound]
    exact h.taken
  queued htrue := by
    rw [Traffic.put, htaken] at htrue
    rw [Traffic.put, houtbound]
    exact h.queued htrue
  replied := h.replied

/-- A frame is put into the queue by a call that has not done so before. -/
theorem Wired.send (h : x.Wired) (hunsent : id ∉ x.sent.map (·.1)) (htaken : x.conn.isTaken = true)
    {frame : Bytes} (hstage : k.stage = .sent) :
    Wired { x.put id (x.conn.send id frame) k with sent := x.sent ++ [(id, frame)] } := by
  have hframes : x.taken ++ (x.conn.outbound ++ [frame]) = (x.sent ++ [(id, frame)]).map (·.2) := by
    rw [← List.append_assoc, h.queued htaken, List.map_append]
    rfl
  constructor
  · rw [List.map_append]
    refine List.nodup_append.mpr ⟨h.once, by simp, ?_⟩
    intro i hi j hj
    rw [List.mem_singleton.mp hj]
    rintro rfl
    exact hunsent hi
  · intro i hi
    rw [List.map_append] at hi
    rcases List.mem_append.mp hi with hi | hi
    · exact isSome_update i (h.known i hi)
    · rw [List.mem_singleton.mp hi]
      exact Option.isSome_iff_exists.mpr ⟨_, calls_put x.conn⟩
  · refine forall_update (fun i k' hi hcall hearly hmem => ?_) fun hearly => ?_
    · rw [List.map_append] at hmem
      rcases List.mem_append.mp hmem with hmem | hmem
      · exact h.unsent i k' hcall hearly hmem
      · exact hi (List.mem_singleton.mp hmem)
    · rw [hstage] at hearly
      cases hearly
  · exact hframes ▸ List.prefix_refl _
  · exact fun _ => hframes
  · exact h.replied

namespace Orderly

variable (h : x.Orderly)

include h

/-- The call that has the turn leaves a connection that was marked closed or on which nothing is
on its way. -/
theorem rests_of_leave (conn : Connection) (hhead : x.conn.line.head? = some id)
    (hslot : conn.slot = none) (hanswers : conn.answers = x.conn.answers)
    (hanswered : conn.isClosed = false → x.IsAnswered)
    (k' : Call) : (x.put id (conn.vacate id) k').Rests := by
  refine ⟨hslot, ?_, hanswered⟩
  change conn.answers.filter _ = []
  rw [hanswers, List.filter_eq_nil_iff]
  intro a ha
  have hid : id = a.1 := Option.some.inj (hhead.symm.trans (h.answered a ha))
  simp [hid]

/-- Once a call that has run out of time leaves a closed connection, no other call can succeed on
it. -/
theorem doomed_of_leave (hhead : x.conn.line.head? = some id) (hclosed : conn.isClosed = true)
    (hbarren : k.stage.isBarren = true) : (x.put id conn k).Doomed := by
  refine ⟨hclosed, forall_update (fun i k' hi hcall' => ?_) hbarren⟩
  by_cases hmem : i ∈ x.conn.line
  · obtain ⟨rest, hrest⟩ := List.head?_eq_some_iff.mp hhead
    have htail : i ∈ x.conn.line.tail := by
      rw [hrest] at hmem ⊢
      exact (List.mem_cons.mp hmem).resolve_left hi
    rw [h.lined.waiting i htail k' hcall']
    rfl
  · have hsettled := h.settled i k' hcall' hmem
    rw [Settled] at hsettled
    split at hsettled
    · rename_i hstage
      rw [hstage]
      rfl
    · rename_i hstage
      rw [hstage]
      rfl
    · exact hsettled.elim

/-- The calls that have left stay settled when one more leaves. -/
theorem settled_of_leave (hline : conn.line = x.conn.line.erase id)
    (hsettled : (x.put id conn { k with stage }).Settled id { k with stage })
    (hdoomed : x.Doomed → (x.put id conn { k with stage }).Doomed) :
    ∀ i k', (x.put id conn { k with stage }).calls i = some k' → i ∉ conn.line →
      (x.put id conn { k with stage }).Settled i k' := by
  refine forall_update (fun i k' hi hcall' hleft => ?_) fun _ => hsettled
  have hold : i ∉ x.conn.line := by
    rwa [hline, List.mem_erase_of_ne hi] at hleft
  exact (h.settled i k' hcall' hold).mono (List.prefix_refl _) (List.prefix_refl _)
    (fun hsent => hsent) hdoomed

variable (hcall : x.calls id = some k)

include hcall

/-- A call that has not ended is in the line. -/
theorem mem_line (hstage : k.isFinished = false) : id ∈ x.conn.line := by
  by_contra hmem
  have hsettled := h.settled id k hcall hmem
  rw [Settled] at hsettled
  split at hsettled
  · rename_i heq
    simp [Call.isFinished, heq] at hstage
  · rename_i heq
    simp [Call.isFinished, heq] at hstage
  · exact hsettled

/-- A call that has ended has left the line. -/
theorem not_mem_line (hstage : k.isFinished = true) : id ∉ x.conn.line := by
  obtain ⟨result, at_, hfinished⟩ : ∃ result at_, k.stage = .finished result at_ := by
    rw [Call.isFinished] at hstage
    split at hstage
    · rename_i result at_ heq
      exact ⟨result, at_, heq⟩
    · cases hstage
  intro hmem
  by_cases hhead : x.conn.line.head? = some id
  · have hserves := h.serves id k hhead hcall
    rw [Serves] at hserves
    rw [hfinished] at hserves
    exact hserves
  · have htail : id ∈ x.conn.line.tail := by
      generalize x.conn.line = line at *
      cases line with
      | nil => cases hmem
      | cons first rest =>
          rcases List.mem_cons.mp hmem with rfl | hrest
          · exact absurd rfl hhead
          · exact hrest
    have hinLine := h.lined.waiting id htail k hcall
    rw [hfinished] at hinLine
    cases hinLine

/-- A call that has left the line of the waiting, and has not ended, has the turn. -/
theorem head?_eq (hserved : k.stage.isServed = true) : x.conn.line.head? = some id := by
  have hmem := h.mem_line hcall (Call.isFinished_of_isServed hserved)
  have htail := h.lined.waiting id
  generalize x.conn.line = line at *
  cases line with
  | nil => cases hmem
  | cons first rest =>
      rcases List.mem_cons.mp hmem with rfl | hrest
      · rfl
      · rw [htail hrest k hcall] at hserved
        cases hserved

/-- The call that has the turn goes on in its place. -/
theorem stay (hhead : x.conn.line.head? = some id) (hline : conn.line = x.conn.line)
    (houtbound : conn.outbound = x.conn.outbound) (htaken : conn.isTaken = x.conn.isTaken)
    (hslot : ∀ i, conn.slot = some i → i = id) (hanswers : ∀ a ∈ conn.answers, a.1 = id)
    (hunfinished : k.isFinished = false)
    (hearly : stage.isEarly = true → k.stage.isEarly = true)
    (hserves : (x.put id conn { k with stage }).Serves id { k with stage })
    (hdoomed : x.Doomed → (x.move id conn { k with stage }).Doomed) :
    (x.move id conn { k with stage }).Orderly := by
  rw [move_eq_put houtbound] at hdoomed ⊢
  refine ⟨?_, ?_, ?_, ?_, ?_, ?_, ?_⟩
  · exact h.lined.stay hline fun htail => absurd htail (h.lined.not_mem_tail hhead)
  · exact h.wired.put houtbound htaken fun hstage => h.wired.unsent id k hcall (hearly hstage)
  · intro hnil
    rw [put, hline] at hnil
    rw [hnil] at hhead
    cases hhead
  · intro i k' hi hcall'
    rw [put, hline, hhead] at hi
    obtain rfl := Option.some.inj hi
    obtain rfl := Option.some.inj ((calls_put conn).symm.trans hcall')
    exact hserves
  · intro i hi
    rw [put, hline, hslot i hi]
    exact hhead
  · intro a ha
    rw [put, hline, hanswers a ha]
    exact hhead
  · refine forall_update (fun i k' _ hcall' hleft => ?_) fun hleft => ?_
    · exact (h.settled i k' hcall' (by rwa [put, hline] at hleft)).mono (List.prefix_refl _)
        (List.prefix_refl _) (fun hsent => hsent) hdoomed
    · exact absurd (h.mem_line hcall hunfinished) (by rwa [put, hline] at hleft)

/-- The call that has the turn goes on, and leaves the slot and the answers as they are. -/
theorem goOn (hserved : k.stage.isServed = true) (hline : conn.line = x.conn.line)
    (houtbound : conn.outbound = x.conn.outbound) (htaken : conn.isTaken = x.conn.isTaken)
    (hslot : conn.slot = x.conn.slot) (hanswers : conn.answers = x.conn.answers)
    (hearly : stage.isEarly = true → k.stage.isEarly = true)
    (hserves : x.Serves id k → (x.put id conn { k with stage }).Serves id { k with stage })
    (hdoomed : x.Doomed → (x.move id conn { k with stage }).Doomed) :
    (x.move id conn { k with stage }).Orderly := by
  have hhead := h.head?_eq hcall hserved
  have hserves' := hserves (h.serves id k hhead hcall)
  apply h.stay hcall hhead hline houtbound htaken _ _ (Call.isFinished_of_isServed hserved) hearly
    hserves' hdoomed
  · intro i hi
    rw [hslot] at hi
    exact Option.some.inj ((h.slotted i hi).symm.trans hhead)
  · intro a ha
    rw [hanswers] at ha
    exact Option.some.inj ((h.answered a ha).symm.trans hhead)

/-- The call that has the turn leaves the connection to whoever comes next. -/
theorem leave_turn (hhead : x.conn.line.head? = some id) (hline : conn.line = x.conn.line.erase id)
    (houtbound : conn.outbound = x.conn.outbound) (htaken : conn.isTaken = x.conn.isTaken)
    (hstage : stage.isEarly = false) (hrests : (x.put id conn { k with stage }).Rests)
    (hsettled : (x.put id conn { k with stage }).Settled id { k with stage })
    (hdoomed : x.Doomed → (x.move id conn { k with stage }).Doomed) :
    (x.move id conn { k with stage }).Orderly := by
  rw [move_eq_put houtbound] at hdoomed ⊢
  obtain ⟨rest, hrest⟩ : ∃ rest, x.conn.line = id :: rest := List.head?_eq_some_iff.mp hhead
  have hline' : conn.line = rest := by rw [hline, hrest, List.erase_cons_head]
  have hwired : (x.put id conn { k with stage }).Wired := by
    apply h.wired.put houtbound htaken
    intro hearly
    rw [hstage] at hearly
    cases hearly
  refine ⟨h.lined.leave hline, hwired, fun _ => hrests, ?_, ?_, ?_,
    h.settled_of_leave hline hsettled hdoomed⟩
  · intro i k' hi hcall'
    have hmem : i ∈ rest := List.mem_of_mem_head? (by rwa [put, hline'] at hi)
    have hne : i ≠ id := by
      rintro rfl
      have hnodup := h.lined.nodup
      rw [hrest] at hnodup
      exact (List.nodup_cons.mp hnodup).1 hmem
    have hinLine : k'.stage = .inLine :=
      h.lined.waiting i (by rwa [hrest]) k' ((calls_put_of_ne hne).symm.trans hcall')
    rw [Serves]
    rw [hinLine]
    exact hrests
  · intro i hi
    rw [hrests.slot] at hi
    cases hi
  · intro a ha
    rw [hrests.answers] at ha
    cases ha

/-- A call that waits in the line leaves it. -/
theorem leave_line (hmem : id ∈ x.conn.line) (hhead : x.conn.line.head? ≠ some id)
    (hline : conn.line = x.conn.line.erase id) (houtbound : conn.outbound = x.conn.outbound)
    (htaken : conn.isTaken = x.conn.isTaken) (hstage : stage.isEarly = false)
    (hslot : conn.slot = x.conn.slot) (hanswers : conn.answers = x.conn.answers)
    (hclosed : conn.isClosed = x.conn.isClosed)
    (hsettled : (x.put id conn { k with stage }).Settled id { k with stage })
    (hdoomed : x.Doomed → (x.move id conn { k with stage }).Doomed) :
    (x.move id conn { k with stage }).Orderly := by
  rw [move_eq_put houtbound] at hdoomed ⊢
  obtain ⟨first, rest, hrest⟩ := List.exists_cons_of_ne_nil (List.ne_nil_of_mem hmem)
  have hne : first ≠ id := by
    rintro rfl
    exact hhead (by rw [hrest]; rfl)
  have hline' : conn.line = first :: rest.erase id := by
    rw [hline, hrest, List.erase_cons_tail (by simpa using hne)]
  have hhead' : conn.line.head? = x.conn.line.head? := by rw [hline', hrest]; rfl
  have hwired : (x.put id conn { k with stage }).Wired := by
    apply h.wired.put houtbound htaken
    intro hearly
    rw [hstage] at hearly
    cases hearly
  refine ⟨h.lined.leave hline, hwired, ?_, ?_, ?_, ?_, h.settled_of_leave hline hsettled hdoomed⟩
  · intro hnil
    rw [put, hline'] at hnil
    cases hnil
  · intro i k' hi hcall'
    rw [put, hhead'] at hi
    have hfirst : i = first := by
      rw [hrest] at hi
      exact (Option.some.inj hi).symm
    rw [← hfirst] at hne
    exact (h.serves i k' hi ((calls_put_of_ne hne).symm.trans hcall')).congr hslot hanswers hclosed
      rfl rfl
  · intro i hi
    rw [put, hhead']
    exact h.slotted i (by rwa [put, hslot] at hi)
  · intro a ha
    rw [put, hhead']
    exact h.answered a (by rwa [put, hanswers] at ha)

/-- The call that has the turn sends its frame. -/
theorem send (hstage : k.stage = .sending) (htaken : x.conn.isTaken = true) :
    (x.move id (x.conn.send id k.frame) { k with stage := .sent }).Orderly := by
  have hserved : k.stage.isServed = true := by rw [hstage]; rfl
  have hhead := h.head?_eq hcall hserved
  have hserves := h.serves id k hhead hcall
  have hunsent : id ∉ x.sent.map (·.1) := h.wired.unsent id k hcall (by rw [hstage]; rfl)
  rw [Serves] at hserves
  rw [hstage] at hserves
  obtain ⟨hanswers, hanswered, hslot⟩ := hserves
  have hmove : x.move id (x.conn.send id k.frame) { k with stage := .sent } =
      { x.put id (x.conn.send id k.frame) { k with stage := .sent } with
        sent := x.sent ++ [(id, k.frame)] } := by
    rw [Traffic.move, put, Connection.send]
    simp
  have hlined : (x.put id (x.conn.send id k.frame) { k with stage := .sent }).Lined :=
    h.lined.stay rfl fun htail => absurd htail (h.lined.not_mem_tail hhead)
  rw [hmove]
  refine ⟨⟨hlined.nodup, hlined.known, hlined.waiting⟩, h.wired.send hunsent htaken rfl, ?_, ?_,
    h.slotted, h.answered, ?_⟩
  · intro hnil
    rw [show x.conn.line = [] from hnil] at hhead
    cases hhead
  · intro i k' hi hcall'
    obtain rfl : id = i := Option.some.inj (hhead.symm.trans hi)
    obtain rfl := Option.some.inj ((calls_put (x.conn.send id k.frame)).symm.trans hcall')
    exact ⟨x.sent, rfl, Or.inl ⟨hanswers, fun _ => hanswered, hslot⟩⟩
  · refine forall_update (fun i k' hi hcall' hleft => ?_) fun hleft => ?_
    · refine (h.settled i k' hcall' hleft).mono (List.prefix_append _ _) (List.prefix_refl _) ?_ ?_
      · intro hmem
        rw [List.map_append] at hmem
        rcases List.mem_append.mp hmem with hmem | hmem
        · exact hmem
        · exact absurd (List.mem_singleton.mp hmem) hi
      · intro hdoomed
        have hbarren := hdoomed.barren id k hcall
        rw [hstage] at hbarren
        cases hbarren
    · exact absurd (h.mem_line hcall (Call.isFinished_of_isServed hserved)) hleft

/-- The call that has the turn leaves a connection that was marked closed or on which nothing is
on its way. -/
theorem quit (hserved : k.stage.isServed = true) (hline : conn.line = x.conn.line)
    (houtbound : conn.outbound = x.conn.outbound) (htaken : conn.isTaken = x.conn.isTaken)
    (hslot : conn.slot = none) (hanswers : conn.answers = x.conn.answers)
    (hanswered : conn.isClosed = false → x.IsAnswered) (hstage : stage.isEarly = false)
    (hsettled : (x.put id (conn.vacate id) { k with stage }).Settled id { k with stage })
    (hdoomed : x.Doomed → (x.move id (conn.vacate id) { k with stage }).Doomed) :
    (x.move id (conn.vacate id) { k with stage }).Orderly := by
  have hhead := h.head?_eq hcall hserved
  have hleft : (conn.vacate id).line = x.conn.line.erase id := congrArg (·.erase id) hline
  have hrests := h.rests_of_leave conn hhead hslot hanswers hanswered { k with stage }
  exact h.leave_turn hcall hhead hleft houtbound htaken hstage hrests hsettled hdoomed

/-- A call whose reply has come takes it and leaves. -/
theorem succeed {payload : Bytes} {at_ : Nat} (hstage : k.stage = .sent)
    (hanswer : x.conn.answer? id = some payload)
    (hdoomed : x.Doomed →
      (x.move id (x.conn.vacate id) { k with stage := .finished (.ok payload) at_ }).Doomed) :
    (x.move id (x.conn.vacate id) { k with stage := .finished (.ok payload) at_ }).Orderly := by
  have hserved : k.stage.isServed = true := by rw [hstage]; rfl
  have hserves := h.serves id k (h.head?_eq hcall hserved) hcall
  rw [Serves] at hserves
  rw [hstage] at hserves
  obtain ⟨earlier, hsent, hawaits | ⟨payload', hholds⟩⟩ := hserves
  · rw [Connection.answer?, hawaits.answers] at hanswer
    cases hanswer
  · obtain ⟨before, hreplies, hlength⟩ := hholds.replies
    have hpayload : payload' = payload := by
      simpa [Connection.answer?, hholds.answers] using hanswer
    have hanswered : x.IsAnswered := by
      rw [IsAnswered, hsent, hreplies, List.length_append, List.length_append, hlength]
      rfl
    apply h.quit hcall hserved rfl rfl rfl hholds.slot rfl (fun _ => hanswered) rfl _ hdoomed
    refine ⟨earlier.length, ?_, ?_⟩
    · rw [put, hsent]
      simp
    · rw [put, hreplies, ← hlength, hpayload]
      simp

/-- A call that is not going to get a reply any more leaves. -/
theorem lose {at_ : Nat} (hstage : k.stage = .sent) (hanswer : x.conn.answer? id = none)
    (hanswering : x.conn.mayAnswer id = false)
    (hdoomed : x.Doomed → (x.move id (x.conn.vacate id)
      { k with stage := .finished (.error (.disconnected x.conn.id)) at_ }).Doomed) :
    (x.move id (x.conn.vacate id)
      { k with stage := .finished (.error (.disconnected x.conn.id)) at_ }).Orderly := by
  have hserved : k.stage.isServed = true := by rw [hstage]; rfl
  have hhead := h.head?_eq hcall hserved
  have hserves := h.serves id k hhead hcall
  rw [Serves] at hserves
  rw [hstage] at hserves
  obtain ⟨earlier, hsent, hawaits | ⟨payload', hholds⟩⟩ := hserves
  · have hslot : x.conn.slot = none := by
      cases hsome : x.conn.slot with
      | none => rfl
      | some i =>
          obtain rfl : i = id := Option.some.inj ((h.slotted i hsome).symm.trans hhead)
          simp [Connection.mayAnswer, hsome] at hanswering
    have hanswered : x.conn.isClosed = false → x.IsAnswered := by
      intro hopen
      have hsome := hawaits.slot hopen
      rw [hslot] at hsome
      cases hsome
    exact h.quit hcall hserved rfl rfl rfl hslot rfl hanswered rfl (by rintro ⟨⟩) hdoomed
  · simp [Connection.answer?, hholds.answers] at hanswer

/-- Whatever a call does in its turn leaves the connection in good order. -/
theorem move (hmoves : k.Moves id x.conn conn stage) :
    (x.move id conn { k with stage }).Orderly := by
  have hdoomed (hd : x.Doomed) : (x.move id conn { k with stage }).Doomed :=
    hd.step (.move hcall hmoves)
  have hserves (hhead : x.conn.line.head? = some id) := h.serves id k hhead hcall
  rw [Serves] at hserves
  cases hmoves with
  | wait =>
      rw [move_eq_put rfl, put]
      have hsame : Function.update x.calls id (some k) = x.calls := by
        rw [← hcall]
        exact Function.update_eq_self id x.calls
      rw [show ({ k with stage := k.stage } : Call) = k from rfl, hsame]
      exact h
  | arm hstage hturn =>
      have hhead : x.conn.line.head? = some id := by simpa [Connection.hasTurn] using hturn
      have hanswers (a : Nat × Bytes) (ha : a ∈ x.conn.answers) : a.1 = id :=
        Option.some.inj ((h.answered a ha).symm.trans hhead)
      rw [hstage] at hserves
      have hrests := hserves hhead
      refine h.stay hcall hhead rfl rfl rfl ?_ hanswers (by simp [Call.isFinished, hstage])
        (fun _ => by rw [hstage]; rfl) ?_ hdoomed
      · exact fun i hi => (Option.some.inj hi).symm
      · exact fun hopen => ⟨rfl, hrests.answers, hrests.answered hopen⟩
  | expire timeout at_ hstage hturn =>
      have hhead : x.conn.line.head? ≠ some id := by simpa [Connection.hasTurn] using hturn
      have hmem := h.mem_line hcall (by simp [Call.isFinished, hstage])
      refine h.leave_line hcall hmem hhead rfl rfl rfl rfl rfl ?_ rfl ?_ hdoomed
      · apply List.filter_eq_self.mpr
        intro a ha
        have hne : a.1 ≠ id := fun he => hhead (he ▸ h.answered a ha)
        simpa using hne
      · exact fun _ hmem => absurd hmem (h.wired.unsent id k hcall (by rw [hstage]; rfl))
  | refuse hstage hclosed =>
      have hserved : k.stage.isServed = true := by
        rcases hstage with hstage | hstage <;> rw [hstage] <;> rfl
      apply h.goOn hcall hserved rfl rfl rfl rfl rfl (by rintro ⟨⟩) _ hdoomed
      refine fun _ => ⟨fun hopen => ?_, by rintro ⟨⟩⟩
      rw [show x.conn.isClosed = false from hopen] at hclosed
      cases hclosed
  | register hstage hopen =>
      have hserved : k.stage.isServed = true := by rw [hstage]; rfl
      rw [hstage] at hserves
      obtain ⟨hslot, hnone, hanswered⟩ := hserves (h.head?_eq hcall hserved) hopen
      exact h.goOn hcall hserved rfl rfl rfl rfl rfl (fun _ => by rw [hstage]; rfl)
        (fun _ => ⟨hnone, hanswered, fun _ => hslot⟩) hdoomed
  | queueUp hstage =>
      have hserved : k.stage.isServed = true := by rw [hstage]; rfl
      rw [hstage] at hserves
      exact h.goOn hcall hserved rfl rfl rfl rfl rfl (fun _ => by rw [hstage]; rfl)
        (fun _ => hserves (h.head?_eq hcall hserved)) hdoomed
  | strand hstage =>
      have hserved : k.stage.isServed = true := by rw [hstage]; rfl
      rw [hstage] at hserves
      obtain ⟨-, hanswered, -⟩ := hserves (h.head?_eq hcall hserved)
      exact h.goOn hcall hserved rfl rfl rfl rfl rfl (by rintro ⟨⟩)
        (fun _ => ⟨fun _ => hanswered, by rintro ⟨⟩⟩) hdoomed
  | send hstage htaken => exact h.send hcall hstage htaken
  | succeed at_ hstage hanswer => exact h.succeed hcall hstage hanswer hdoomed
  | lose at_ hstage hanswer hanswering => exact h.lose hcall hstage hanswer hanswering hdoomed
  | timeOut timeout hstage =>
      have hserved : k.stage.isServed = true := by rw [hstage]; rfl
      exact h.goOn hcall hserved rfl rfl rfl rfl rfl (by rintro ⟨⟩)
        (fun _ => ⟨by rintro ⟨⟩, fun _ => rfl⟩) hdoomed
  | withdraw at_ hstage =>
      have hserved : k.stage.isServed = true := by rw [hstage]; rfl
      have hhead := h.head?_eq hcall hserved
      rw [hstage] at hserves
      obtain ⟨hanswered, hclosed⟩ := hserves hhead
      exact h.quit hcall hserved rfl rfl rfl rfl rfl hanswered rfl
        (fun htimeout _ => h.doomed_of_leave hhead (hclosed htimeout) rfl) hdoomed

end Orderly

/-! ## The other events -/

theorem Lined.lineUp (h : x.Lined) (hnew : id ∉ x.conn.line) (hstage : k.stage = .inLine) :
    (x.put id (x.conn.lineUp id) k).Lined := by
  constructor
  · refine List.nodup_append.mpr ⟨h.nodup, by simp, ?_⟩
    intro i hi j hj
    rw [List.mem_singleton.mp hj]
    rintro rfl
    exact hnew hi
  · intro i hi
    rcases List.mem_append.mp hi with hi | hi
    · exact isSome_update i (h.known i hi)
    · rw [List.mem_singleton.mp hi]
      exact Option.isSome_iff_exists.mpr ⟨_, calls_put x.conn⟩
  · intro i hi
    have hall : ∀ i k', (x.put id (x.conn.lineUp id) k).calls i = some k' →
        i ∈ (x.conn.line ++ [id]).tail → k'.stage = .inLine := by
      refine forall_update (fun i k' hne hcall hi => ?_) fun _ => hstage
      refine h.waiting i ?_ k' hcall
      generalize x.conn.line = line at hi
      cases line with
      | nil => cases hi
      | cons first rest =>
          rcases List.mem_append.mp hi with hi | hi
          · exact hi
          · exact absurd (List.mem_singleton.mp hi) hne
    exact fun k' hcall => hall i k' hcall hi

namespace Orderly

variable (h : x.Orderly)

include h

/-- A call joins the line. -/
theorem lineUp (hnew : x.calls id = none) (hstage : k.stage = .inLine) :
    (x.put id (x.conn.lineUp id) k).Orderly := by
  have hunknown {ids : List Nat} (hknown : ∀ i ∈ ids, (x.calls i).isSome) : id ∉ ids := by
    intro hmem
    have hsome := hknown id hmem
    rw [hnew] at hsome
    cases hsome
  have hdoomed (hd : x.Doomed) : (x.put id (x.conn.lineUp id) k).Doomed :=
    hd.step (.lineUp hnew hstage)
  have hkept {i : Nat} (hi : x.conn.line.head? = some i) :
      (x.conn.line ++ [id]).head? = some i := by
    rw [List.head?_append, hi]
    rfl
  refine ⟨h.lined.lineUp (hunknown h.lined.known) hstage,
    h.wired.put rfl rfl fun _ => hunknown h.wired.known, ?_, ?_, ?_, ?_, ?_⟩
  · intro hnil
    simp [put, Connection.lineUp] at hnil
  · intro i k' hi hcall
    change (x.conn.line ++ [id]).head? = some i at hi
    cases hline : x.conn.line with
    | nil =>
        rw [hline] at hi
        obtain rfl := Option.some.inj hi
        obtain rfl := Option.some.inj ((calls_put x.conn).symm.trans hcall)
        rw [Serves]
        rw [hstage]
        have hrests := h.rests hline
        exact ⟨hrests.slot, hrests.answers, hrests.answered⟩
    | cons first rest =>
        rw [hline] at hi
        have hhead : x.conn.line.head? = some i := by
          rw [hline]
          exact hi
        have hne : i ≠ id := by
          rintro rfl
          exact hunknown h.lined.known (List.mem_of_mem_head? hhead)
        have hserves := h.serves i k' hhead ((calls_put_of_ne hne).symm.trans hcall)
        exact hserves.congr rfl rfl rfl rfl rfl
  · exact fun i hi => hkept (h.slotted i hi)
  · exact fun a ha => hkept (h.answered a ha)
  · refine forall_update (fun i k' hi hcall hleft => ?_) fun hleft => ?_
    · have hold : i ∉ x.conn.line := fun hmem => hleft (List.mem_append_left _ hmem)
      exact (h.settled i k' hcall hold).mono (List.prefix_refl _) (List.prefix_refl _)
        (fun hsent => hsent) hdoomed
    · exact absurd (List.mem_append_right _ (List.mem_singleton.mpr rfl)) hleft

/-- Something has happened to the connection, and all calls are where they were. -/
theorem change (hstep : x.Step x') (hcalls : x'.calls = x.calls)
    (hline : x'.conn.line = x.conn.line) (hsent : x'.sent = x.sent)
    (hreplies : x.replies <+: x'.replies) (hwired : x'.Wired)
    (hrests : x.Rests → x'.Rests)
    (hserves : ∀ i k, x.conn.line.head? = some i → x.Serves i k → x'.Serves i k)
    (hslotted : ∀ i, x'.conn.slot = some i → x.conn.line.head? = some i)
    (hanswered : ∀ a ∈ x'.conn.answers, x.conn.line.head? = some a.1) : x'.Orderly := by
  have hlined := h.lined
  refine ⟨⟨?_, ?_, ?_⟩, hwired, ?_, ?_, ?_, ?_, ?_⟩
  all_goals
    rw [hline]
  · exact hlined.nodup
  · rw [hcalls]
    exact hlined.known
  · rw [hcalls]
    exact hlined.waiting
  · exact fun hnil => hrests (h.rests hnil)
  · rw [hcalls]
    exact fun i k hi hcall => hserves i k hi (h.serves i k hi hcall)
  · exact hslotted
  · exact hanswered
  · rw [hcalls]
    intro i k hcall hleft
    refine (h.settled i k hcall hleft).mono ?_ hreplies ?_ fun hd => hd.step hstep
    · rw [hsent]
    · rw [hsent]
      exact fun hmem => hmem

theorem take {frame : Bytes} {rest : List Bytes} (houtbound : x.conn.outbound = frame :: rest) :
    Orderly { x with conn := { x.conn with outbound := rest }, taken := x.taken ++ [frame] } := by
  have hframes : x.taken ++ [frame] ++ rest = x.taken ++ x.conn.outbound := by
    rw [houtbound, List.append_assoc, List.singleton_append]
  refine h.change (.take houtbound) rfl rfl rfl (List.prefix_refl _)
    ⟨h.wired.once, h.wired.known, h.wired.unsent, ?_, ?_, ?_⟩ ?_ ?_ h.slotted h.answered
  · rw [hframes]
    exact h.wired.taken
  · rw [hframes]
    exact h.wired.queued
  · rw [List.length_append]
    exact Nat.le_add_right_of_le h.wired.replied
  · exact fun hrests => ⟨hrests.slot, hrests.answers, hrests.answered⟩
  · exact fun i k _ hserves => hserves.congr rfl rfl rfl rfl rfl

theorem stopTaking : Orderly { x with conn := x.conn.stopTaking } := by
  refine h.change .stopTaking rfl rfl rfl (List.prefix_refl _)
    ⟨h.wired.once, h.wired.known, h.wired.unsent, ?_, by rintro ⟨⟩, h.wired.replied⟩ ?_ ?_
    h.slotted h.answered
  · change x.taken ++ [] <+: _
    rw [List.append_nil]
    exact (List.prefix_append _ _).trans h.wired.taken
  · exact fun hrests => ⟨hrests.slot, hrests.answers, hrests.answered⟩
  · exact fun i k _ hserves => hserves.congr rfl rfl rfl rfl rfl

/-- Somebody has marked the connection closed, or cleared its slot after that. -/
theorem close {conn : Connection} (hstep : x.Step { x with conn }) (hclosed : conn.isClosed = true)
    (hline : conn.line = x.conn.line) (houtbound : conn.outbound = x.conn.outbound)
    (htaken : conn.isTaken = x.conn.isTaken) (hanswers : conn.answers = x.conn.answers)
    (hslot : conn.slot = x.conn.slot ∨ conn.slot = none) : Orderly { x with conn } := by
  have hopen {P : Prop} (hopen : conn.isClosed = false) : P := by
    rw [hclosed] at hopen
    cases hopen
  have hempty (hnone : x.conn.slot = none) : conn.slot = none :=
    hslot.elim (fun hsame => hsame.trans hnone) id
  have hkept (i : Nat) (hi : conn.slot = some i) : x.conn.slot = some i := by
    apply hslot.elim (fun hsame => hsame.symm.trans hi)
    intro hnone
    rw [hnone] at hi
    cases hi
  apply h.change hstep rfl hline rfl (List.prefix_refl _)
  · refine ⟨h.wired.once, h.wired.known, h.wired.unsent, ?_, ?_, h.wired.replied⟩
    · rw [houtbound]
      exact h.wired.taken
    · rw [houtbound, htaken]
      exact h.wired.queued
  · exact fun hrests => ⟨hempty hrests.slot, hanswers.trans hrests.answers, hopen⟩
  · intro i k _ hserves
    unfold Serves at *
    split at hserves
    · exact ⟨hempty hserves.slot, hanswers.trans hserves.answers, hopen⟩
    · exact hopen
    · exact ⟨hanswers.trans hserves.1, hserves.2.1, hopen⟩
    · exact ⟨hanswers.trans hserves.1, hserves.2.1, hopen⟩
    · obtain ⟨earlier, hsent, hawaits | ⟨payload, hholds⟩⟩ := hserves
      · have hunanswered (hi : conn.slot = some i) := hawaits.unanswered (hkept i hi)
        exact ⟨earlier, hsent, Or.inl ⟨hanswers.trans hawaits.answers, hunanswered, hopen⟩⟩
      · have hheld := hanswers.trans hholds.answers
        exact ⟨earlier, hsent, Or.inr ⟨payload, hempty hholds.slot, hheld, hholds.replies⟩⟩
    · exact ⟨hopen, fun _ => hclosed⟩
    · exact hserves
  · exact fun i hi => h.slotted i (hkept i hi)
  · intro a ha
    rw [show Traffic.conn _ = conn from rfl, hanswers] at ha
    exact h.answered a ha

theorem cancel : Orderly { x with conn := x.conn.cancel } :=
  h.close .cancel rfl rfl rfl rfl rfl (Or.inl rfl)

theorem clear (hclosed : x.conn.isClosed = true) : Orderly { x with conn := x.conn.disarm } :=
  h.close (.clear hclosed) hclosed rfl rfl rfl rfl (Or.inr rfl)

/-! ### Replies -/

variable (hdue : x.replies.length < x.taken.length)

include hdue

/-- While a reply is due, not every frame has been answered. -/
theorem not_isAnswered : ¬ x.IsAnswered := by
  have hlength := h.wired.taken.length_le
  rw [List.length_append, List.length_map] at hlength
  rw [IsAnswered]
  omega

theorem not_holds {earlier : List (Nat × Bytes)} {payload : Bytes}
    (hsent : x.sent = earlier ++ [(id, k.frame)]) : ¬ x.Holds id earlier payload := by
  intro hholds
  obtain ⟨before, hreplies, hbefore⟩ := hholds.replies
  apply h.not_isAnswered hdue
  rw [IsAnswered, hsent, hreplies, List.length_append, List.length_append, hbefore]
  rfl

theorem wired_reply (payload : Bytes) {conn : Connection}
    (houtbound : conn.outbound = x.conn.outbound) (htaken : conn.isTaken = x.conn.isTaken) :
    Wired { x with conn, replies := x.replies ++ [payload] } := by
  refine ⟨h.wired.once, h.wired.known, h.wired.unsent, ?_, ?_, ?_⟩
  · rw [houtbound]
    exact h.wired.taken
  · rw [houtbound, htaken]
    exact h.wired.queued
  · rw [List.length_append]
    exact hdue

/-- A reply for which nobody waits is dropped. -/
theorem reply_dropped (payload : Bytes) (hslot : x.conn.slot = none) :
    Orderly { x with conn := x.conn.deliver payload, replies := x.replies ++ [payload] } := by
  have hstep := Step.reply payload hdue
  have hlate {P : Prop} (hanswered : x.IsAnswered) : P := absurd hanswered (h.not_isAnswered hdue)
  rw [deliver_of_none hslot] at hstep ⊢
  refine h.change hstep rfl rfl rfl (List.prefix_append _ _)
    (h.wired_reply hdue payload rfl rfl) ?_ ?_
    h.slotted h.answered
  · exact fun hrests => ⟨hslot, hrests.answers, fun hopen => hlate (hrests.answered hopen)⟩
  · intro i k _ hserves
    unfold Serves at *
    split at hserves
    · exact ⟨hslot, hserves.answers, fun hopen => hlate (hserves.answered hopen)⟩
    · exact fun hopen => hlate (hserves hopen).2.2
    · exact hlate hserves.2.1
    · exact hlate hserves.2.1
    · obtain ⟨earlier, hsent, hawaits | ⟨payload', hholds⟩⟩ := hserves
      · refine ⟨earlier, hsent, Or.inl ⟨hawaits.answers, fun harmed => ?_, hawaits.slot⟩⟩
        rw [show x.conn.slot = some i from harmed] at hslot
        cases hslot
      · exact absurd hholds (h.not_holds hdue hsent)
    · exact ⟨fun hopen => hlate (hserves.1 hopen), hserves.2⟩
    · exact hserves

/-- A reply for which a call waits answers the last frame sent. -/
theorem reply_delivered (payload : Bytes) (hslot : x.conn.slot = some id) :
    Orderly { x with conn := x.conn.deliver payload, replies := x.replies ++ [payload] } := by
  have hstep := Step.reply payload hdue
  have hhead := h.slotted id hslot
  have hlate {P : Prop} (hanswered : x.IsAnswered) : P := absurd hanswered (h.not_isAnswered hdue)
  have harmed {P : Prop} (hnone : x.conn.slot = none) : P := by
    rw [hslot] at hnone
    cases hnone
  rw [deliver_of_some hslot] at hstep ⊢
  refine h.change hstep rfl rfl rfl (List.prefix_append _ _)
    (h.wired_reply hdue payload rfl rfl) ?_ ?_
    (by rintro i ⟨⟩) ?_
  · exact fun hrests => harmed hrests.slot
  · intro i k hi hserves
    obtain rfl : id = i := Option.some.inj (hhead.symm.trans hi)
    unfold Serves at *
    split at hserves
    · exact harmed hserves.slot
    · exact fun hopen => hlate (hserves hopen).2.2
    · exact hlate hserves.2.1
    · exact hlate hserves.2.1
    · obtain ⟨earlier, hsent, hawaits | ⟨payload', hholds⟩⟩ := hserves
      · refine ⟨earlier, hsent, Or.inr ⟨payload, rfl, ?_, x.replies, rfl, hawaits.unanswered hslot⟩⟩
        change x.conn.answers ++ [(id, payload)] = [(id, payload)]
        rw [hawaits.answers, List.nil_append]
      · exact absurd hholds (h.not_holds hdue hsent)
    · exact ⟨fun hopen => hlate (hserves.1 hopen), hserves.2⟩
    · exact hserves
  · intro a ha
    rcases List.mem_append.mp ha with ha | ha
    · exact h.answered a ha
    · rw [List.mem_singleton.mp ha]
      exact hhead

theorem reply (payload : Bytes) :
    Orderly { x with conn := x.conn.deliver payload, replies := x.replies ++ [payload] } := by
  cases hslot : x.conn.slot with
  | none => exact h.reply_dropped hdue payload hslot
  | some id => exact h.reply_delivered hdue payload hslot

omit hdue

theorem step (hstep : x.Step x') : x'.Orderly := by
  cases hstep with
  | quiet => exact h
  | lineUp hnew hstage => exact h.lineUp hnew hstage
  | move hcall hmoves => exact h.move hcall hmoves
  | take houtbound => exact h.take houtbound
  | reply payload hdue => exact h.reply hdue payload
  | cancel => exact h.cancel
  | clear hclosed => exact h.clear hclosed
  | stopTaking => exact h.stopTaking

end Orderly

theorem Orderly.length_sent_le (h : x.Orderly) (hopen : x.conn.isClosed = false) :
    x.sent.length ≤ x.replies.length + 1 := by
  have hrested {P : Prop} (hP : P → x.IsAnswered) : P → x.sent.length ≤ x.replies.length + 1 := by
    intro hp
    have hanswered := hP hp
    rw [IsAnswered] at hanswered
    omega
  cases hline : x.conn.line with
  | nil => exact hrested (fun hrests : x.Rests => hrests.answered hopen) (h.rests hline)
  | cons id rest =>
      obtain ⟨k, hcall⟩ := Option.isSome_iff_exists.mp
        (h.lined.known id (by rw [hline]; exact List.mem_cons_self))
      have hserves := h.serves id k (by rw [hline]; rfl) hcall
      rw [Serves] at hserves
      split at hserves
      · exact hrested (fun hrests => hrests.answered hopen) hserves
      · exact hrested (fun harmed => (harmed hopen).2.2) hserves
      · exact hrested (fun hadmitted => hadmitted.2.1) hserves
      · exact hrested (fun hsending => hsending.2.1) hserves
      · obtain ⟨earlier, hsent, hawaits | ⟨payload, hholds⟩⟩ := hserves
        · have hlength := hawaits.unanswered (hawaits.slot hopen)
          rw [hsent, List.length_append, hlength]
          exact Nat.le_refl _
        · obtain ⟨before, hreplies, hlength⟩ := hholds.replies
          rw [hsent, hreplies, List.length_append, List.length_append, hlength]
          exact Nat.le_add_right _ 1
      · exact hrested (fun hwithdrawing => hwithdrawing.1 hopen) hserves
      · exact hserves.elim

/-- What has been replied has been taken, and what has been taken is what was sent. -/
theorem Wired.taken_of_reply (h : x.Wired) {n : Nat} {frame payload : Bytes}
    (hsent : x.sent[n]? = some (id, frame)) (hreply : x.replies[n]? = some payload) :
    x.taken[n]? = some frame := by
  have hn : n < x.taken.length :=
    Nat.lt_of_lt_of_le (List.getElem?_eq_some_iff.mp hreply).1 h.replied
  obtain ⟨later, hlater⟩ := h.taken
  have hframe : (x.sent.map (·.2))[n]? = some frame := by
    rw [List.getElem?_map, hsent]
    rfl
  rw [← hlater, List.append_assoc, List.getElem?_append_left hn] at hframe
  exact hframe

end Traffic

end MapScout
