import MapScout.Proofs.Keyed
import MapScout.Proofs.Timeline
import MapScout.Tunnel.Turn

/-!
# How a call goes on

All that one turn can do to a call, to its connection and to those who wait, said once.  Waking
somebody and setting alarms touches neither the connections nor the calls, and a call touches no
connection but its own and no other call.  After its turn a call goes on at once, or what it waits
for is still to come; another call that could go on because of it has been woken.
-/

namespace MapScout

/-- A request leaves a connection for good. -/
def Connection.vacate (c : Connection) (request : Nat) : Connection :=
  ((c.leaveLine request).leaveQueue request).forget request

namespace Call

/-- What one turn can make of a call and of its connection. -/
inductive Moves (id : Nat) (k : Call) (conn : Connection) : Connection → CallStage → Prop where
  | wait : Moves id k conn conn k.stage
  | arm (h : k.stage = .inLine) (hturn : conn.hasTurn id) : Moves id k conn (conn.arm id) .armed
  | expire (timeout : Span) (at_ : Nat) (h : k.stage = .inLine) (hturn : conn.hasTurn id = false) :
      Moves id k conn (conn.vacate id) (.finished (.error (.timeout conn.id timeout)) at_)
  | refuse (h : k.stage = .armed ∨ k.stage = .admitted) (hclosed : conn.isClosed = true) :
      Moves id k conn conn (.withdrawing (.disconnected conn.id))
  | register (h : k.stage = .armed) (hopen : conn.isClosed = false) : Moves id k conn conn .admitted
  | queueUp (h : k.stage = .admitted) : Moves id k conn (conn.queueUp id) .sending
  | strand (h : k.stage = .sending) : Moves id k conn conn (.withdrawing (.disconnected conn.id))
  | send (h : k.stage = .sending) (htaken : conn.isTaken = true) :
      Moves id k conn (conn.send id k.frame) .sent
  | succeed {payload : Bytes} (at_ : Nat) (h : k.stage = .sent)
      (hanswer : conn.answer? id = some payload) :
      Moves id k conn (conn.vacate id) (.finished (.ok payload) at_)
  | lose (at_ : Nat) (h : k.stage = .sent) (hanswer : conn.answer? id = none)
      (hslot : conn.mayAnswer id = false) :
      Moves id k conn (conn.vacate id) (.finished (.error (.disconnected conn.id)) at_)
  | timeOut (timeout : Span) (h : k.stage = .sent) :
      Moves id k conn conn.cancel (.withdrawing (.timeout conn.id timeout))
  | withdraw {e : TunnelError} (at_ : Nat) (h : k.stage = .withdrawing e) :
      Moves id k conn (conn.disarm.vacate id) (.finished (.error e) at_)

/-- What one turn can make of a call that wants no answer, and of its connection. -/
inductive Sends (id : Nat) (k : Call) (conn : Connection) : Connection → CallStage → Prop where
  | wait : Sends id k conn conn k.stage
  | strand (at_ : Nat) (h : k.stage = .sending) :
      Sends id k conn (conn.vacate id) (.finished (.error (.disconnected conn.id)) at_)
  | send (at_ : Nat) (h : k.stage = .sending) :
      Sends id k conn ((conn.send id k.frame).vacate id) (.finished (.ok []) at_)

/-- The call is woken before its time is up. -/
def HasAlarm (id : Nat) (k : Call) (time : Timeline BrokerOwner) : Prop :=
  ∃ limit ∈ k.limit, time.now < limit.1 ∧ ⟨limit.1, .call id⟩ ∈ time.alarms

/-- What the call waits for is still to come, and so is the moment until which it waits. -/
def MayWait (id : Nat) (k : Call) (conn : Connection) (time : Timeline BrokerOwner) : Prop :=
  match k.stage with
  | .inLine => conn.hasTurn id = false ∧ k.HasAlarm id time
  | .sending => conn.isTaken = true ∧ conn.canSend id = false
  | .sent => conn.mayAnswer id = true ∧ conn.answer? id = none ∧ k.HasAlarm id time
  | .finished .. => True
  | _ => False

/-- A call that is not finished waits for its turn, for room in the queue or for its answer. -/
theorem mayWait_iff {id : Nat} {k : Call} {conn : Connection} {time : Timeline BrokerOwner} :
    k.MayWait id conn time ↔
      (k.stage = .inLine ∧ conn.hasTurn id = false ∧ k.HasAlarm id time) ∨
      (k.stage = .sending ∧ conn.isTaken = true ∧ conn.canSend id = false) ∨
      (k.stage = .sent ∧ conn.mayAnswer id = true ∧ conn.answer? id = none ∧
        k.HasAlarm id time) ∨
      k.isFinished = true := by
  rw [MayWait, isFinished]
  cases k.stage <;> simp

/-- An alarm at the deadline, set before its time is up, wakes the call in time. -/
theorem hasAlarm_setAlarm {id deadline : Nat} {timeout : Span} {k : Call}
    {time : Timeline BrokerOwner} (hlimit : k.limit = some (deadline, timeout))
    (hlater : ¬ deadline ≤ time.now) : k.HasAlarm id (time.setAlarm deadline (.call id)) := by
  refine ⟨(deadline, timeout), hlimit, ?_, Timeline.mem_alarms_setAlarm.mpr (Or.inr rfl)⟩
  rw [Timeline.now_setAlarm]
  exact Nat.lt_of_not_le hlater

theorem mayWait_of_isFinished {id : Nat} {k : Call} {conn : Connection}
    {time : Timeline BrokerOwner} (h : k.isFinished = true) : k.MayWait id conn time :=
  mayWait_iff.mpr (Or.inr (Or.inr (Or.inr h)))

end Call

/-- A request that had to wait for its turn or for room in the queue still has to. -/
structure Connection.KeepsWaiting (conn conn' : Connection) (request : Nat) : Prop where
  turn : conn.hasTurn request = false → conn'.hasTurn request = false
  taken : request ∈ conn.senders → conn.isTaken = true → conn'.isTaken = true
  room : conn.canSend request = false → conn'.canSend request = false

namespace Connection

theorem KeepsWaiting.refl (conn : Connection) (request : Nat) : conn.KeepsWaiting conn request :=
  ⟨fun h => h, fun _ h => h, fun h => h⟩

theorem KeepsWaiting.queueUp {conn : Connection} {request sender : Nat} (h : request ≠ sender) :
    conn.KeepsWaiting (conn.queueUp sender) request where
  turn h := h
  taken _ h := h
  room hroom := by
    cases hsenders : conn.senders with
    | nil => simp [canSend, Connection.queueUp, hsenders, h.symm]
    | cons first rest => simpa [canSend, Connection.queueUp, hsenders] using hroom

theorem canSend_eq_false {conn : Connection} {sender : Nat} (h : sender ∉ conn.senders) :
    conn.canSend sender = false := by
  have hhead : conn.senders.head? ≠ some sender := fun he => h (List.mem_of_head? he)
  simp [canSend, hhead]

end Connection

/-- Who takes turns is a call, one with `P`. -/
def BrokerOwner.IsCall (P : Nat → Prop) : BrokerOwner → Prop
  | .call id => P id
  | _ => False

namespace Broker

open BrokerOwner (IsCall)

variable {b b' : Broker} {c id : Nat}

/-! ## Waking -/

theorem wakeSenders_eq (b : Broker) (c : Nat) :
    b.wakeSenders c =
      b.onTime (·.wakeAll (((b.connection? c).elim [] (·.senders)).map .call)) := by
  rw [wakeSenders]
  generalize (b.connection? c).elim [] (·.senders) = senders
  induction senders generalizing b with
  | nil => rfl
  | cons id senders ih => exact ih (b.wake (.call id))

def OnlyTime (b b' : Broker) : Prop := ∃ time, b' = { b with time }

namespace OnlyTime

theorem refl (b : Broker) : b.OnlyTime b := ⟨b.time, rfl⟩

theorem trans {b₁ b₂ b₃ : Broker} (h₁ : b₁.OnlyTime b₂) (h₂ : b₂.OnlyTime b₃) : b₁.OnlyTime b₃ := by
  obtain ⟨time₁, rfl⟩ := h₁
  obtain ⟨time₂, rfl⟩ := h₂
  exact ⟨time₂, rfl⟩

theorem onTime (f : Timeline BrokerOwner → Timeline BrokerOwner) : b.OnlyTime (b.onTime f) :=
  ⟨f b.time, rfl⟩

theorem wakeTurn (c : Nat) : b.OnlyTime (b.wakeTurn c) := by
  rw [Broker.wakeTurn]
  split
  · exact onTime _
  · exact refl b

theorem wakeSenders (c : Nat) : b.OnlyTime (b.wakeSenders c) := by
  rw [wakeSenders_eq]
  exact onTime _

theorem wakeTaker (c : Nat) : b.OnlyTime (b.wakeTaker c) := by
  rw [Broker.wakeTaker]
  split
  · exact onTime _
  · split
    · exact onTime _
    · exact refl b

theorem connection? (h : b.OnlyTime b') (c : Nat) : b'.connection? c = b.connection? c := by
  obtain ⟨time, rfl⟩ := h
  rfl

theorem call? (h : b.OnlyTime b') (id : Nat) : b'.call? id = b.call? id := by
  obtain ⟨time, rfl⟩ := h
  rfl

theorem nextKey (h : b.OnlyTime b') : b'.nextKey = b.nextKey := by
  obtain ⟨time, rfl⟩ := h
  rfl

theorem registry (h : b.OnlyTime b') : b'.registry = b.registry := by
  obtain ⟨time, rfl⟩ := h
  rfl

end OnlyTime

/-! ## Connections and calls in their places -/

theorem connection?_onConnection {conn : Connection} (h : b.connection? c = some conn)
    (f : Connection → Connection) : (b.onConnection c f).connection? c = some (f conn) := by
  have hmap : List.lookup c (replace c (f conn) b.connections) =
      (b.connection? c).map fun _ => f conn :=
    Keyed.lookup_map (fun _ => f conn) b.connections
  rw [onConnection]
  rw [h] at hmap ⊢
  exact hmap

theorem connection?_onConnection_of_ne {i : Nat} (f : Connection → Connection) (h : i ≠ c) :
    (b.onConnection c f).connection? i = b.connection? i := by
  rw [onConnection]
  split
  · rfl
  · rename_i conn _
    exact Keyed.lookup_map_of_ne (fun _ => f conn) b.connections h

theorem call?_onConnection (f : Connection → Connection) (id : Nat) :
    (b.onConnection c f).call? id = b.call? id := by
  rw [onConnection]
  split <;> rfl

theorem nextKey_onConnection (f : Connection → Connection) :
    (b.onConnection c f).nextKey = b.nextKey := by
  rw [onConnection]
  split <;> rfl

theorem registry_onConnection (f : Connection → Connection) :
    (b.onConnection c f).registry = b.registry := by
  rw [onConnection]
  split <;> rfl

theorem time_onConnection (f : Connection → Connection) : (b.onConnection c f).time = b.time := by
  rw [onConnection]
  split <;> rfl

theorem call?_setStage {k : Call} (h : b.call? id = some k) (stage : CallStage) :
    (b.setStage id stage).call? id = some { k with stage } := by
  have hmap : (b.setStage id stage).call? id = (b.call? id).map fun k => { k with stage } :=
    Keyed.lookup_map (fun k : Call => { k with stage }) b.calls
  rw [hmap, h]
  rfl

theorem call?_setStage_of_ne {i : Nat} (stage : CallStage) (h : i ≠ id) :
    (b.setStage id stage).call? i = b.call? i :=
  Keyed.lookup_map_of_ne (fun k : Call => { k with stage }) b.calls h

theorem call?_addCall (hfresh : b.call? b.nextKey = none) (k : Call) :
    (b.addCall k).2.call? b.nextKey = some k :=
  Keyed.lookup_append_of_none hfresh k

theorem call?_addCall_of_ne (k : Call) {id : Nat} (hid : id ≠ b.nextKey) :
    (b.addCall k).2.call? id = b.call? id :=
  Keyed.lookup_append_of_ne hid b.calls k

theorem connection?_addConnection (hfresh : b.connection? b.nextKey = none) (proxy : ProxyId) :
    (b.addConnection proxy).2.connection? b.nextKey = some { id := proxy, since := b.now } :=
  Keyed.lookup_append_of_none hfresh _

theorem connection?_addConnection_of_ne (proxy : ProxyId) {c : Nat} (hc : c ≠ b.nextKey) :
    (b.addConnection proxy).2.connection? c = b.connection? c :=
  Keyed.lookup_append_of_ne hc b.connections _

/-! ## One turn of a call -/

/-- In `b'` there is `conn` in place of the connection `c` of `b`, and `k` in place of its call
`id`, and all other connections and calls are those of `b`. -/
structure Becomes (b b' : Broker) (c id : Nat) (conn : Connection) (k : Call) : Prop where
  connection : b'.connection? c = some conn
  connections : ∀ i, i ≠ c → b'.connection? i = b.connection? i
  call : b'.call? id = some k
  calls : ∀ i, i ≠ id → b'.call? i = b.call? i
  nextKey : b'.nextKey = b.nextKey
  registry : b'.registry = b.registry

namespace Becomes

variable {conn : Connection} {k : Call}

theorem refl (hconn : b.connection? c = some conn) (hcall : b.call? id = some k) :
    Becomes b b c id conn k :=
  ⟨hconn, fun _ _ => rfl, hcall, fun _ _ => rfl, rfl, rfl⟩

theorem of_onTime {f : Timeline BrokerOwner → Timeline BrokerOwner}
    (h : Becomes (b.onTime f) b' c id conn k) : Becomes b b' c id conn k :=
  ⟨h.connection, h.connections, h.call, h.calls, h.nextKey, h.registry⟩

theorem onConnection (h : Becomes b b' c id conn k) (f : Connection → Connection) :
    Becomes b (b'.onConnection c f) c id (f conn) k where
  connection := connection?_onConnection h.connection f
  connections i hi := (connection?_onConnection_of_ne f hi).trans (h.connections i hi)
  call := (call?_onConnection f id).trans h.call
  calls i hi := (call?_onConnection f i).trans (h.calls i hi)
  nextKey := (nextKey_onConnection f).trans h.nextKey
  registry := (registry_onConnection f).trans h.registry

theorem setStage (h : Becomes b b' c id conn k) (stage : CallStage) :
    Becomes b (b'.setStage id stage) c id conn { k with stage } where
  connection := h.connection
  connections := h.connections
  call := call?_setStage h.call stage
  calls i hi := (call?_setStage_of_ne stage hi).trans (h.calls i hi)
  nextKey := h.nextKey
  registry := h.registry

theorem onlyTime {b'' : Broker} (h : Becomes b b' c id conn k) (htime : b'.OnlyTime b'') :
    Becomes b b'' c id conn k where
  connection := (htime.connection? c).trans h.connection
  connections i hi := (htime.connection? i).trans (h.connections i hi)
  call := (htime.call? id).trans h.call
  calls i hi := (htime.call? i).trans (h.calls i hi)
  nextKey := htime.nextKey.trans h.nextKey
  registry := htime.registry.trans h.registry

theorem proceedCall (h : Becomes b b' c id conn k) (stage : CallStage) :
    Becomes b (b'.proceedCall id stage) c id conn { k with stage } := by
  rw [Broker.proceedCall, again]
  exact (h.setStage stage).onlyTime (.onTime _)

theorem finishCall (h : Becomes b b' c id conn k) (result : Except TunnelError Bytes) :
    ∃ at_, Becomes b (b'.finishCall id c result) c id (conn.vacate id)
      { k with stage := .finished result at_ } := by
  rw [Broker.finishCall]
  exact ⟨_, ((h.onConnection _).setStage _).onlyTime
    (((OnlyTime.onTime _).trans (.wakeTurn c)).trans (.wakeSenders c))⟩

theorem cancel (h : Becomes b b' c id conn k) : Becomes b (b'.cancel c) c id conn.cancel k := by
  unfold Broker.cancel
  dsimp only
  split
  · exact (h.onConnection _).onlyTime ((OnlyTime.onTime _).trans (.onTime _))
  · exact h.onConnection _

end Becomes

/-! ## Those who wait -/

section Waiting

variable (P : BrokerOwner → Prop)

theorem spares_wakeTurn (b : Broker) (c : Nat) : b.time.Spares P (b.wakeTurn c).time := by
  rw [wakeTurn]
  split
  · exact .wake P _ _
  · exact .refl P _

theorem spares_wakeSenders (b : Broker) (c : Nat) : b.time.Spares P (b.wakeSenders c).time := by
  rw [wakeSenders_eq]
  exact .wakeAll P _ _

theorem spares_wakeTaker (b : Broker) (c : Nat) : b.time.Spares P (b.wakeTaker c).time := by
  rw [wakeTaker]
  split
  · exact .wake P _ _
  · split
    · exact .wake P _ _
    · exact .refl P _

theorem spares_cancel (b : Broker) (c : Nat) : b.time.Spares P (b.cancel c).time := by
  have htime := time_onConnection (b := b) (c := c) Connection.cancel
  rw [cancel]
  split
  · rw [← htime]
    exact (Timeline.Spares.wake P _ _).trans (.wake P _ _)
  · rw [htime]
    exact .refl P _

variable {P}

theorem spares_again {o : BrokerOwner} (ho : ¬ P o) (b : Broker) :
    b.time.Spares P (b.again o).time :=
  (Timeline.Spares.clearAlarms ho _).trans (.continue_ P _ _)

end Waiting

theorem ready_wakeTurn {conn : Connection} (hconn : b.connection? c = some conn)
    (hid : conn.hasTurn id = true) : .call id ∈ (b.wakeTurn c).time.ready := by
  have hhead : (b.connection? c).bind (·.line.head?) = some id := by
    rw [hconn]
    simpa [Connection.hasTurn] using hid
  rw [wakeTurn]
  rw [hhead]
  exact Timeline.mem_ready_wake.mpr (Or.inr rfl)

theorem ready_wakeSenders {conn : Connection} (hconn : b.connection? c = some conn)
    (hid : id ∈ conn.senders) : .call id ∈ (b.wakeSenders c).time.ready := by
  rw [wakeSenders_eq, hconn, Option.elim_some]
  exact Timeline.mem_ready_wakeAll.mpr (Or.inr (List.mem_map_of_mem hid))

/-- Whoever could go on with a connection that has changed has been woken. -/
theorem ready_wakeAll {conn conn' : Connection} (hconn : b.connection? c = some conn')
    (htaken : conn'.isTaken = conn.isTaken) (i : Nat) :
    .call i ∈ ((b.wakeTurn c).wakeSenders c).time.ready ∨ conn.KeepsWaiting conn' i := by
  have hconn' : (b.wakeTurn c).connection? c = some conn' :=
    ((OnlyTime.wakeTurn c).connection? c).trans hconn
  have hspares := spares_wakeSenders (fun _ => True) (b.wakeTurn c) c
  by_cases hturn : conn'.hasTurn i = true
  · exact Or.inl (hspares.ready _ trivial (ready_wakeTurn hconn hturn))
  · by_cases hsender : i ∈ conn'.senders
    · exact Or.inl (ready_wakeSenders hconn' hsender)
    · refine Or.inr ⟨fun _ => by simpa using hturn, fun _ h => htaken.trans h, fun _ => ?_⟩
      exact Connection.canSend_eq_false hsender

/-! ## What a turn makes of a call -/

/-- What the turn of a call `k` makes of it and of its connection `conn`; the other calls that wait
still have to, or have been woken. -/
structure Goes (b b' : Broker) (id : Nat) (k : Call) (conn conn' : Connection) (stage : CallStage) :
    Prop extends Becomes b b' k.connection id conn' { k with stage } where
  time : b.time.Spares (IsCall (· ≠ id)) b'.time
  own : .call id ∈ b'.time.ready ∨ ({ k with stage } : Call).MayWait id conn' b'.time
  others : ∀ i, i ≠ id → .call i ∈ b'.time.ready ∨ conn.KeepsWaiting conn' i

namespace Goes

variable {conn conn' : Connection} {k : Call}

theorem isNotCall (id : Nat) : ¬ IsCall (· ≠ id) (.call id) := fun h => h rfl

/-- The call looks whether it can go on, and cannot. -/
theorem wait (hconn : b.connection? k.connection = some conn) (hcall : b.call? id = some k)
    (f : Timeline BrokerOwner → Timeline BrokerOwner)
    (htime : b.time.Spares (IsCall (· ≠ id)) (f b.time))
    (hwait : k.MayWait id conn (f b.time)) : Goes b (b.onTime f) id k conn conn k.stage where
  toBecomes := (Becomes.refl hconn hcall).onlyTime (.onTime f)
  time := htime
  own := Or.inr hwait
  others _ _ := Or.inr (.refl conn _)

/-- The call goes on in a new stage. -/
theorem proceed (hbecomes : Becomes b b' k.connection id conn' k)
    (htime : b.time.Spares (IsCall (· ≠ id)) b'.time)
    (hothers : ∀ i, i ≠ id → .call i ∈ b'.time.ready ∨ conn.KeepsWaiting conn' i)
    (stage : CallStage) : Goes b (b'.proceedCall id stage) id k conn conn' stage where
  toBecomes := hbecomes.proceedCall stage
  time := htime.trans (spares_again (isNotCall id) (b'.setStage id stage))
  own := Or.inl (Timeline.mem_ready_continue.mpr (Or.inr rfl))
  others i hi := (hothers i hi).imp_left fun hready =>
    (spares_again (isNotCall id) (b'.setStage id stage)).ready _ hi hready

/-- The call goes on in a new stage, and nothing else has happened. -/
theorem goOn (hconn : b.connection? k.connection = some conn) (hcall : b.call? id = some k)
    (stage : CallStage) : Goes b (b.proceedCall id stage) id k conn conn stage :=
  proceed (.refl hconn hcall) (.refl _ _) (fun i _ => Or.inr (.refl conn i)) stage

/-- The call is finished; whoever has the turn and all who wait for room have been woken. -/
theorem finish (hbecomes : Becomes b b' k.connection id conn' k)
    (htime : b.time.Spares (IsCall (· ≠ id)) b'.time) (htaken : conn'.isTaken = conn.isTaken)
    (result : Except TunnelError Bytes) :
    ∃ at_, Goes b (b'.finishCall id k.connection result) id k conn (conn'.vacate id)
      (.finished result at_) := by
  obtain ⟨at_, hfinished⟩ := hbecomes.finishCall result
  let b₀ := b'.onConnection k.connection (·.vacate id)
  let b₁ := (b₀.setStage id (.finished result b₀.now)).onTime (·.forget (.call id))
  have hb₁ : b₁.connection? k.connection = some (conn'.vacate id) :=
    connection?_onConnection hbecomes.connection _
  have htime₁ : b.time.Spares (IsCall (· ≠ id)) b₁.time := by
    refine htime.trans ?_
    rw [← time_onConnection (b := b') (c := k.connection) (·.vacate id)]
    exact .forget (isNotCall id) _
  refine ⟨at_, hfinished, ?_, Or.inr trivial, fun i _ => ready_wakeAll hb₁ htaken i⟩
  exact (htime₁.trans (spares_wakeTurn _ b₁ _)).trans (spares_wakeSenders _ _ _)

theorem of_onTime {f : Timeline BrokerOwner → Timeline BrokerOwner} {stage : CallStage}
    (h : Goes (b.onTime f) b' id k conn conn' stage)
    (htime : b.time.Spares (IsCall (· ≠ id)) (f b.time)) : Goes b b' id k conn conn' stage where
  toBecomes := h.toBecomes.of_onTime
  time := htime.trans h.time
  own := h.own
  others := h.others

end Goes

/-- A frame has been put into the queue, and those who wait for it or for room have been woken. -/
def sent (id c : Nat) (frame : Bytes) (b : Broker) : Broker :=
  ((b.onConnection c (·.send id frame)).wakeTaker c).wakeSenders c

section Sent

variable {conn : Connection}

theorem Becomes.sent {k : Call} (h : Becomes b b' c id conn k) (frame : Bytes) :
    Becomes b (b'.sent id c frame) c id (conn.send id frame) k :=
  (h.onConnection (·.send id frame)).onlyTime ((OnlyTime.wakeTaker c).trans (.wakeSenders c))

theorem spares_sent (P : BrokerOwner → Prop) (b : Broker) (frame : Bytes) :
    b.time.Spares P (b.sent id c frame).time := by
  have htaker := spares_wakeTaker P (b.onConnection c (·.send id frame)) c
  rw [time_onConnection] at htaker
  exact htaker.trans (spares_wakeSenders P _ c)

theorem others_sent (hconn : b.connection? c = some conn) (frame : Bytes) {i : Nat} :
    .call i ∈ (b.sent id c frame).time.ready ∨ conn.KeepsWaiting (conn.send id frame) i := by
  have hsent : ((b.onConnection c (·.send id frame)).wakeTaker c).connection? c =
      some (conn.send id frame) :=
    ((OnlyTime.wakeTaker c).connection? c).trans (connection?_onConnection hconn _)
  by_cases hsender : i ∈ (conn.send id frame).senders
  · exact Or.inl (ready_wakeSenders hsent hsender)
  · exact Or.inr ⟨fun h => h, fun _ h => h, fun _ => Connection.canSend_eq_false hsender⟩

end Sent

variable {conn : Connection} {k : Call}

/-! ### A call that wants an answer, stage by stage -/

section Forward

variable {deadline : Nat} {timeout : Span} (hconn : b.connection? k.connection = some conn)
  (hcall : b.call? id = some k)

include hconn hcall

theorem forwardTurn_inLine (hlimit : k.limit = some (deadline, timeout))
    (hstage : k.stage = .inLine) :
    ∃ conn' stage, k.Moves id conn conn' stage ∧
      Goes b (b.forwardTurn id k conn deadline timeout) id k conn conn' stage := by
  have hself := Becomes.refl hconn hcall
  rw [forwardTurn, hstage]
  dsimp only
  cases hturn : conn.hasTurn id with
  | true =>
      refine ⟨_, _, .arm hstage hturn, .proceed (hself.onConnection _) ?_ ?_ _⟩
      · rw [time_onConnection]
        exact .refl _ _
      · exact fun _ _ => Or.inr ⟨fun h => h, fun _ h => h, fun h => h⟩
  | false =>
      by_cases hlate : deadline ≤ b.now
      · obtain ⟨at_, h⟩ := Goes.finish hself (.refl _ _) rfl (.error (.timeout conn.id timeout))
        simp only [Bool.false_eq_true, if_false, if_pos hlate]
        exact ⟨_, _, .expire timeout at_ hstage hturn, h⟩
      · have hwait : k.MayWait id conn (b.time.setAlarm deadline (.call id)) :=
          Call.mayWait_iff.mpr (Or.inl ⟨hstage, hturn, Call.hasAlarm_setAlarm hlimit hlate⟩)
        simp only [Bool.false_eq_true, if_false, if_neg hlate]
        exact ⟨_, _, .wait, .wait hconn hcall _ (.setAlarm ..) hwait⟩

theorem forwardTurn_armed (hstage : k.stage = .armed) :
    ∃ conn' stage, k.Moves id conn conn' stage ∧
      Goes b (b.forwardTurn id k conn deadline timeout) id k conn conn' stage := by
  rw [forwardTurn, hstage]
  cases hclosed : conn.isClosed with
  | true => exact ⟨_, _, .refuse (.inl hstage) hclosed, .goOn hconn hcall _⟩
  | false => exact ⟨_, _, .register hstage hclosed, .goOn hconn hcall _⟩

theorem forwardTurn_admitted (hstage : k.stage = .admitted) :
    ∃ conn' stage, k.Moves id conn conn' stage ∧
      Goes b (b.forwardTurn id k conn deadline timeout) id k conn conn' stage := by
  rw [forwardTurn, hstage]
  cases hclosed : conn.isClosed with
  | true => exact ⟨_, _, .refuse (.inr hstage) hclosed, .goOn hconn hcall _⟩
  | false =>
      have hqueued := (Becomes.refl hconn hcall).onConnection (·.queueUp id)
      refine ⟨_, _, .queueUp hstage, .proceed hqueued ?_ (fun i hi => Or.inr (.queueUp hi)) _⟩
      rw [time_onConnection]
      exact .refl _ _

theorem forwardTurn_sending (hstage : k.stage = .sending) :
    ∃ conn' stage, k.Moves id conn conn' stage ∧
      Goes b (b.forwardTurn id k conn deadline timeout) id k conn conn' stage := by
  rw [forwardTurn, hstage]
  cases htaken : conn.isTaken with
  | false => exact ⟨_, _, .strand hstage, .goOn hconn hcall _⟩
  | true =>
      cases hroom : conn.canSend id with
      | true =>
          exact ⟨_, _, .send hstage htaken, .proceed ((Becomes.refl hconn hcall).sent k.frame)
            (spares_sent _ b k.frame) (fun _ _ => others_sent hconn k.frame) _⟩
      | false =>
          have hwait : k.MayWait id conn b.time :=
            Call.mayWait_iff.mpr (Or.inr (Or.inl ⟨hstage, htaken, hroom⟩))
          exact ⟨_, _, .wait, .wait hconn hcall (fun time => time) (.refl _ _) hwait⟩

theorem forwardTurn_sent (hlimit : k.limit = some (deadline, timeout)) (hstage : k.stage = .sent) :
    ∃ conn' stage, k.Moves id conn conn' stage ∧
      Goes b (b.forwardTurn id k conn deadline timeout) id k conn conn' stage := by
  have hself := Becomes.refl hconn hcall
  rw [forwardTurn, hstage]
  dsimp only
  cases hanswer : conn.answer? id with
  | some payload =>
      obtain ⟨at_, h⟩ := Goes.finish hself (.refl _ _) rfl (.ok payload)
      exact ⟨_, _, .succeed at_ hstage hanswer, h⟩
  | none =>
      cases hslot : conn.mayAnswer id with
      | false =>
          obtain ⟨at_, h⟩ := Goes.finish hself (.refl _ _) rfl (.error (.disconnected conn.id))
          exact ⟨_, _, .lose at_ hstage hanswer hslot, h⟩
      | true =>
          by_cases hlate : deadline ≤ b.now
          · simp only [Bool.not_true, Bool.false_eq_true, if_false, if_pos hlate]
            refine ⟨_, _, .timeOut timeout hstage, .proceed hself.cancel (spares_cancel _ b _) ?_ _⟩
            exact fun _ _ => Or.inr ⟨fun h => h, fun _ h => h, fun h => h⟩
          · have hwait : k.MayWait id conn (b.time.setAlarm deadline (.call id)) :=
              Call.mayWait_iff.mpr (Or.inr (Or.inr (Or.inl
                ⟨hstage, hslot, hanswer, Call.hasAlarm_setAlarm hlimit hlate⟩)))
            simp only [Bool.not_true, Bool.false_eq_true, if_false, if_neg hlate]
            exact ⟨_, _, .wait, .wait hconn hcall _ (.setAlarm ..) hwait⟩

theorem forwardTurn_withdrawing {e : TunnelError} (hstage : k.stage = .withdrawing e) :
    ∃ conn' stage, k.Moves id conn conn' stage ∧
      Goes b (b.forwardTurn id k conn deadline timeout) id k conn conn' stage := by
  have htaken : conn.disarm.isTaken = conn.isTaken := rfl
  have hdisarmed := (Becomes.refl hconn hcall).onConnection Connection.disarm
  obtain ⟨at_, h⟩ := Goes.finish hdisarmed (by rw [time_onConnection]; exact .refl _ _) htaken
    (.error e)
  rw [forwardTurn, hstage]
  exact ⟨_, _, .withdraw at_ hstage, h⟩

/-- What one turn of a call that wants an answer makes of it, whatever stage it is in. -/
theorem forwardTurn_goes (hlimit : k.limit = some (deadline, timeout)) :
    ∃ conn' stage, k.Moves id conn conn' stage ∧
      Goes b (b.forwardTurn id k conn deadline timeout) id k conn conn' stage := by
  cases hstage : k.stage with
  | inLine => exact forwardTurn_inLine hconn hcall hlimit hstage
  | armed => exact forwardTurn_armed hconn hcall hstage
  | admitted => exact forwardTurn_admitted hconn hcall hstage
  | sending => exact forwardTurn_sending hconn hcall hstage
  | sent => exact forwardTurn_sent hconn hcall hlimit hstage
  | withdrawing e => exact forwardTurn_withdrawing hconn hcall hstage
  | finished result at_ =>
      have hwait : k.MayWait id conn b.time :=
        Call.mayWait_of_isFinished (by rw [Call.isFinished, hstage])
      rw [forwardTurn, hstage]
      exact ⟨_, _, .wait, .wait hconn hcall (fun time => time) (.refl _ _) hwait⟩

end Forward

theorem sendTurn_goes (hconn : b.connection? k.connection = some conn) (hcall : b.call? id = some k)
    (hstage : k.stage = .sending) :
    ∃ conn' stage, k.Sends id conn conn' stage ∧
      Goes b (b.sendTurn id k conn) id k conn conn' stage := by
  have hself := Becomes.refl hconn hcall
  rw [sendTurn, hstage]
  cases htaken : conn.isTaken with
  | false =>
      obtain ⟨at_, h⟩ := Goes.finish hself (.refl _ _) rfl (.error (.disconnected conn.id))
      exact ⟨_, _, .strand at_ hstage, h⟩
  | true =>
      cases hroom : conn.canSend id with
      | true =>
          have hkept : (conn.send id k.frame).isTaken = conn.isTaken := rfl
          obtain ⟨at_, h⟩ :=
            Goes.finish (hself.sent k.frame) (spares_sent _ b k.frame) hkept (.ok [])
          exact ⟨_, _, .send at_ hstage, h⟩
      | false =>
          have hwait : k.MayWait id conn b.time :=
            Call.mayWait_iff.mpr (Or.inr (Or.inl ⟨hstage, htaken, hroom⟩))
          exact ⟨_, _, .wait, .wait hconn hcall (fun time => time) (.refl _ _) hwait⟩

theorem sendTurn_of_ne (hstage : k.stage ≠ .sending) : b.sendTurn id k conn = b := by
  rw [sendTurn]
  split
  · rename_i hsending
    exact absurd hsending hstage
  · rfl

/-- One turn of a call leaves the other calls and connections alone. -/
theorem callTurn_becomes (hcall : b.call? id = some k) :
    b.callTurn id = b ∨
      ∃ conn stage, Becomes b (b.callTurn id) k.connection id conn { k with stage } := by
  rw [callTurn]
  rw [hcall]
  dsimp only
  split
  · exact Or.inl rfl
  · rename_i conn deadline timeout hconn hlimit
    obtain ⟨conn', stage, -, h⟩ := forwardTurn_goes hconn hcall hlimit
    exact Or.inr ⟨conn', stage, h.toBecomes⟩
  · rename_i conn hconn _
    by_cases hstage : k.stage = .sending
    · obtain ⟨conn', stage, -, h⟩ := sendTurn_goes hconn hcall hstage
      exact Or.inr ⟨conn', stage, h.toBecomes⟩
    · exact Or.inl (sendTurn_of_ne hstage)

/-- What one turn of a call that wants an answer makes of it. -/
theorem callTurn_goes (hconn : b.connection? k.connection = some conn) (hcall : b.call? id = some k)
    (hlimit : k.limit.isSome) :
    ∃ conn' stage, k.Moves id conn conn' stage ∧ Goes b (b.callTurn id) id k conn conn' stage := by
  obtain ⟨⟨deadline, timeout⟩, hlimit⟩ := Option.isSome_iff_exists.mp hlimit
  have hturn : b.callTurn id = b.forwardTurn id k conn deadline timeout := by
    simp only [callTurn, hcall, hconn, hlimit]
  rw [hturn]
  exact forwardTurn_goes hconn hcall hlimit

end Broker

end MapScout
