import Mathlib.Logic.Relation
import MapScout.Proofs.Tunnel.CallMoves
import MapScout.Proofs.Tunnel.Run

/-!
# What the events come down to

Whatever happens to a broker comes down to a few effects: something is done to a connection, a
connection is made, a call begins or goes on, or nothing is changed that a call could see.  Whoever
could go on because of an effect is woken by it.  Only the clock and the callers that go away are
apart from this.
-/

namespace MapScout

/-- Something is done to a connection that some calls may have waited for. -/
inductive Connection.Touched (conn : Connection) : Connection → List Nat → Prop where
  | deliver (payload : Bytes) : conn.Touched (conn.deliver payload) conn.slot.toList
  | disarm : conn.Touched conn.disarm conn.slot.toList
  | cancel : conn.Touched conn.cancel []
  | take {frame : Bytes} {rest : List Bytes} (h : conn.outbound = frame :: rest) :
      conn.Touched { conn with outbound := rest } conn.senders
  | stopTaking : conn.Touched conn.stopTaking conn.senders

namespace Call

inductive Begins (id now : Nat) (k : Call) (conn : Connection) : Connection → Prop where
  | forward (timeout : Nat) (hlimit : k.limit = some (now + timeout, Span.ofMillis timeout))
      (hstage : k.stage = .inLine) : Begins id now k conn (conn.lineUp id)
  | send (hlimit : k.limit = none) (hstage : k.stage = .sending) :
      Begins id now k conn (conn.queueUp id)

/-- What one turn can make of a call and of its connection. -/
def Proceeds (id : Nat) (k : Call) (conn conn' : Connection) (stage : CallStage) : Prop :=
  (k.limit.isSome = true ∧ k.Moves id conn conn' stage) ∨
    (k.limit = none ∧ k.Sends id conn conn' stage)

end Call

theorem Registry.mem_register {id : ProxyId} {at_ : Nat} {r : Registry} {e : ProxyId × Nat}
    (h : e ∈ r.register id at_) : e ∈ r ∨ e = (id, at_) := by
  induction r with
  | nil => exact Or.inr (List.mem_singleton.mp h)
  | cons first rest ih =>
      rw [register] at h
      split at h
      · exact (List.mem_cons.mp h).symm
      · split at h
        · exact (List.mem_cons.mp h).elim Or.inr fun h => Or.inl (List.mem_cons_of_mem _ h)
        · obtain rfl | h := List.mem_cons.mp h
          · exact Or.inl List.mem_cons_self
          · exact (ih h).imp_left (List.mem_cons_of_mem _)

namespace Broker

open BrokerOwner (IsCall)

/-- Nothing has changed that a call with `P` could see. -/
structure Aside (P : Nat → Prop) (b b' : Broker) : Prop where
  connections : b'.connection? = b.connection?
  calls : b'.call? = b.call?
  nextKey : b'.nextKey = b.nextKey
  registry : ∀ e ∈ b'.registry, e ∈ b.registry ∨ (b.connection? e.2).isSome = true
  time : b.time.Spares (IsCall P) b'.time

/-- Nothing has changed that a call could see. -/
abbrev Quiet (b b' : Broker) : Prop := b.Aside (fun _ => True) b'

/-- What can become of a broker at once. -/
inductive Effect (b b' : Broker) : Prop where
  | aside {P : Nat → Prop}
      (hP : ∀ id k, b.call? id = some k → (b.connection? k.connection).isSome → P id)
      (h : b.Aside P b')
  | connect (id : ProxyId) (h : (b.addConnection id).2.Quiet b')
  | touch {c : Nat} {conn conn' : Connection} {woken : List Nat}
      (hconn : b.connection? c = some conn) (htouched : conn.Touched conn' woken)
      (h : (b.onConnection c fun _ => conn').Quiet b')
      (hwoken : ∀ i ∈ woken, .call i ∈ b'.time.ready)
  | begin {k : Call} {conn conn' : Connection} (hconn : b.connection? k.connection = some conn)
      (hbegins : k.Begins b.nextKey b.now conn conn')
      (h : ((b.addCall k).2.onConnection k.connection fun _ => conn').Quiet b')
      (hready : .call b.nextKey ∈ b'.time.ready)
  | refuse {k : Call} (hlimit : k.limit = none) (hfinished : k.isFinished = true)
      (h : b' = (b.addCall k).2)
  | go {id : Nat} {k : Call} {conn conn' : Connection} {stage : CallStage}
      (hcall : b.call? id = some k) (hconn : b.connection? k.connection = some conn)
      (hproceeds : k.Proceeds id conn conn' stage) (h : b.Goes b' id k conn conn' stage)

abbrev Effects : Broker → Broker → Prop := Relation.ReflTransGen Effect

variable {b b' b'' : Broker} {c id : Nat} {conn : Connection}

namespace Aside

variable {P : Nat → Prop}

theorem refl (P : Nat → Prop) (b : Broker) : b.Aside P b :=
  ⟨rfl, rfl, rfl, fun _ h => Or.inl h, .refl _ _⟩

theorem trans (h : b.Aside P b') (h' : b'.Aside P b'') : b.Aside P b'' where
  connections := h'.connections.trans h.connections
  calls := h'.calls.trans h.calls
  nextKey := h'.nextKey.trans h.nextKey
  registry e he := by
    obtain hmem | hsome := h'.registry e he
    · exact h.registry e hmem
    · rw [h.connections] at hsome
      exact Or.inr hsome
  time := h.time.trans h'.time

theorem onTime {f : Timeline BrokerOwner → Timeline BrokerOwner}
    (h : b.time.Spares (IsCall P) (f b.time)) : b.Aside P (b.onTime f) :=
  ⟨rfl, rfl, rfl, fun _ he => Or.inl he, h⟩

theorem wake (o : BrokerOwner) (b : Broker) : b.Aside P (b.wake o) := onTime (.wake _ _ _)

theorem alarm (due : Nat) (o : BrokerOwner) (b : Broker) : b.Aside P (b.alarm due o) :=
  onTime (.setAlarm _ _ _ _)

theorem again {o : BrokerOwner} (ho : ¬ IsCall P o) (b : Broker) : b.Aside P (b.again o) :=
  onTime (spares_again ho b)

theorem beginTurn {o : BrokerOwner} (ho : ¬ IsCall P o) (b : Broker) :
    b.Aside P (b.beginTurn o) :=
  onTime (.erase ho _)

theorem setService (c : Nat) (s : Service) (b : Broker) : b.Aside P (b.setService c s) :=
  ⟨rfl, rfl, rfl, fun _ he => Or.inl he, .refl _ _⟩

theorem wakeSenders (c : Nat) (b : Broker) : b.Aside P (b.wakeSenders c) := by
  rw [wakeSenders_eq]
  exact onTime (.wakeAll _ _ _)

theorem onLink (c : Nat) (f : Link → Link) (b : Broker) : b.Aside P (b.onLink c f) := by
  rw [Broker.onLink]
  split
  · exact refl P b
  · exact (setService c _ b).trans (wake _ _)

theorem addEcho (c : Nat) (suffix : Bytes) (delay : Nat) (b : Broker) :
    b.Aside P (b.addEcho c suffix delay) :=
  ⟨rfl, rfl, rfl, fun _ he => Or.inl he, .wake _ _ _⟩

theorem deregister (id : ProxyId) (b : Broker) : b.Aside P (b.deregister id).2 :=
  ⟨rfl, rfl, rfl, fun _ he => Or.inl (List.mem_filter.mp he).1, .refl _ _⟩

theorem register (id : ProxyId) (hconn : (b.connection? c).isSome = true) :
    b.Aside P (b.register id c) where
  connections := rfl
  calls := rfl
  nextKey := rfl
  registry e he := by
    obtain hold | rfl := Registry.mem_register he
    · exact Or.inl hold
    · exact Or.inr hconn
  time := .refl _ _

theorem detach (c : Nat) (b : Broker) : b.Aside P (b.detach c) := by
  rw [Broker.detach]
  split
  · exact refl P b
  · rename_i conn _
    exact ⟨rfl, rfl, rfl, (deregister (P := P) conn.id b).registry, .refl _ _⟩

end Aside

namespace Effect

theorem quiet (h : b.Quiet b') : b.Effect b' := .aside (fun _ _ _ _ => trivial) h

theorem onConnection_congr (hconn : b.connection? c = some conn) (f : Connection → Connection) :
    b.onConnection c f = b.onConnection c fun _ => f conn := by
  simp only [onConnection, hconn]

/-- Something is done to a connection, if there is one. -/
theorem touching {f : Connection → Connection} {woken : Connection → List Nat}
    (htouched : ∀ conn : Connection, conn.Touched (f conn) (woken conn))
    (h : (b.onConnection c f).Quiet b')
    (hwoken : ∀ conn, b.connection? c = some conn → ∀ i ∈ woken conn, .call i ∈ b'.time.ready) :
    b.Effect b' := by
  cases hconn : b.connection? c with
  | none =>
      have hsame : b.onConnection c f = b := by rw [onConnection, hconn]
      rw [hsame] at h
      exact quiet h
  | some conn =>
      rw [onConnection_congr hconn] at h
      exact .touch hconn (htouched conn) h (hwoken conn hconn)

/-- Something is done to the slot of a connection, and whoever is in it is woken. -/
theorem touching_slot {f : Connection → Connection}
    (htouched : ∀ conn : Connection, conn.Touched (f conn) conn.slot.toList) :
    b.Effect (((b.connection? c).bind (·.slot)).elim (b.onConnection c f)
      fun id => (b.onConnection c f).wake (.call id)) := by
  refine touching (c := c) htouched ?_ ?_
  · cases (b.connection? c).bind (·.slot) with
    | none => exact .refl _ _
    | some id => exact .wake _ _
  · intro conn hconn i hi
    have hslot : (b.connection? c).bind (·.slot) = some i := by
      rw [hconn]
      exact Option.mem_toList.mp hi
    rw [hslot]
    exact Timeline.mem_ready_wake.mpr (Or.inr rfl)

theorem deliver (c : Nat) (payload : Bytes) (b : Broker) : b.Effect (b.deliver c payload) :=
  touching_slot fun _ => .deliver payload

theorem clear (c : Nat) (b : Broker) : b.Effect (b.clear c) := touching_slot fun _ => .disarm

theorem onConnection_cancel (h : (b.onConnection c Connection.cancel).Quiet b') : b.Effect b' :=
  touching (fun _ => .cancel) h fun _ _ _ hi => absurd hi List.not_mem_nil

theorem cancel (c : Nat) (b : Broker) : b.Effect (b.cancel c) := by
  apply onConnection_cancel (c := c)
  unfold Broker.cancel
  dsimp only
  split
  · exact (Aside.wake _ _).trans (.wake _ _)
  · exact .refl _ _

theorem stopTaking (c : Nat) (b : Broker) : b.Effect (b.stopTaking c) :=
  touching (fun _ => .stopTaking) (.wakeSenders c _) fun _ hconn _ hi =>
    ready_wakeSenders (connection?_onConnection hconn _) hi

theorem take {frame : Bytes} (h : b.take? c = some (frame, b')) : b.Effect b' := by
  obtain ⟨conn, hconn, htake⟩ := Option.bind_eq_some_iff.mp h
  obtain ⟨⟨frame', conn'⟩, htaken, hb'⟩ := Option.bind_eq_some_iff.mp htake
  obtain ⟨-, rfl⟩ := Prod.mk.inj (Option.some.inj hb')
  have hqueue : ∃ frame rest, conn.outbound = frame :: rest ∧
      conn' = { conn with outbound := rest } := by
    rw [Connection.take?] at htaken
    split at htaken
    · cases htaken
    · rename_i frame rest houtbound
      exact ⟨frame, rest, houtbound, (Prod.mk.inj (Option.some.inj htaken)).2.symm⟩
  obtain ⟨frame, rest, houtbound, rfl⟩ := hqueue
  exact .touch hconn (.take houtbound) (.wakeSenders c _) fun i hi =>
    ready_wakeSenders (connection?_onConnection hconn _) hi

/-! ## New connections and calls -/

theorem attach (b : Broker) : b.Effect b.attach.2 := by
  refine .connect (b.lastId + 1) ⟨rfl, rfl, rfl, ?_, ?_⟩
  · intro e he
    obtain hold | rfl := Registry.mem_register he
    · exact Or.inl hold
    · refine Or.inr ?_
      simp [connection?, addConnection, List.lookup_append]
  · exact (Timeline.Spares.wake _ _ _).trans (.wake _ _ _)

theorem startForward (hconn : b.connection? c = some conn) (frame : Bytes) (timeout : Nat) :
    b.Effect (b.startForward c frame timeout).2 := by
  let limit := some (b.now + timeout, Span.ofMillis timeout)
  refine .begin (k := { connection := c, frame, limit, stage := .inLine }) hconn
    (.forward timeout rfl rfl) ?_ (Timeline.mem_ready_wake.mpr (Or.inr rfl))
  rw [← onConnection_congr (b := (b.addCall _).2) hconn (·.lineUp b.nextKey)]
  exact .wake _ _

theorem startSend (c : Nat) (frame : Bytes) (b : Broker) : b.Effect (b.startSend c frame).2 := by
  rw [Broker.startSend]
  split
  · rename_i hconn
    refine .begin (k := { connection := c, frame, limit := none, stage := .sending }) hconn
      (.send rfl rfl) ?_ (Timeline.mem_ready_wake.mpr (Or.inr rfl))
    rw [← onConnection_congr (b := (b.addCall _).2) hconn (·.queueUp b.nextKey)]
    exact .wake _ _
  · exact .refuse rfl rfl rfl

end Effect

/-! ## Brokers as they should be -/

/-- A call has a key of its own, and a connection while it is not finished; it lines up only if it
wants an answer. -/
structure Placed (b : Broker) (id : Nat) (k : Call) : Prop where
  known : id < b.nextKey
  connected : k.isFinished = false → (b.connection? k.connection).isSome = true
  plain : k.limit = none → k.isFinished = false → k.stage = .sending

/-- Keys are given out once, and what is registered or used is there. -/
structure Proper (b : Broker) : Prop where
  calls : ∀ id k, b.call? id = some k → b.Placed id k
  connections : ∀ c, (b.connection? c).isSome = true → c < b.nextKey
  registered : ∀ e ∈ b.registry, (b.connection? e.2).isSome = true

theorem Proper.isSome_of_target (hb : b.Proper) {headers : List Web.Header}
    (h : (agentOf headers).bind b.lookup = .ok c) : (b.connection? c).isSome = true := by
  cases hagent : agentOf headers with
  | error e =>
      rw [hagent] at h
      cases h
  | ok id =>
      rw [hagent, Except.bind, lookup] at h
      split at h
      · rename_i c' hlookup
        obtain rfl := Except.ok.inj h
        obtain ⟨before, after, heq, -⟩ := List.lookup_eq_some_iff.mp hlookup
        exact hb.registered (id, c') (by simp [heq])
      · cases h

namespace Effect

theorem receive (hb : b.Proper) (r : Web.Request) : b.Effect (b.receive r).2 := by
  rw [Broker.receive]
  split
  · exact quiet (.refl _ _)
  · change b.Effect (b.forward r.method r.headers r.body).2
    rw [Broker.forward]
    cases htarget : (agentOf r.headers).bind b.lookup with
    | error e => exact .refuse rfl rfl rfl
    | ok c =>
        obtain ⟨conn, hconn⟩ := Option.isSome_iff_exists.mp (hb.isSome_of_target htarget)
        exact startForward hconn _ _

/-- A call that can go on takes its turn. -/
theorem go_turn (hb : b.Proper) {k : Call} (hcall : b.call? id = some k)
    (hconn : b.connection? k.connection = some conn) : b.Effect (b.happen (.turn (.call id))) := by
  let b₁ := b.beginTurn (.call id)
  have htime : b.time.Spares (IsCall (· ≠ id)) b₁.time := .erase (Goes.isNotCall id) _
  cases hlimit : k.limit with
  | some limit =>
      have hsome : k.limit.isSome = true := by rw [hlimit]; rfl
      obtain ⟨conn', stage, hmoves, h⟩ := callTurn_goes (b := b₁) hconn hcall hsome
      exact .go hcall hconn (Or.inl ⟨hsome, hmoves⟩) (h.of_onTime htime)
  | none =>
      have hturn : b.happen (.turn (.call id)) = b₁.sendTurn id k conn := by
        change b₁.callTurn id = _
        rw [callTurn, show b₁.call? id = some k from hcall]
        simp only [show b₁.connection? k.connection = some conn from hconn, hlimit]
      rw [hturn]
      by_cases hfinished : k.isFinished = true
      · rw [sendTurn_of_ne fun h => by simp [Call.isFinished, h] at hfinished]
        refine .go hcall hconn (Or.inr ⟨hlimit, .wait⟩) (.wait hconn hcall _ htime ?_)
        exact Call.mayWait_of_isFinished hfinished
      · have hstage := (hb.calls id k hcall).plain hlimit (by simpa using hfinished)
        obtain ⟨conn', stage, hsends, h⟩ := sendTurn_goes (b := b₁) hconn hcall hstage
        exact .go hcall hconn (Or.inr ⟨hlimit, hsends⟩) (h.of_onTime htime)

theorem turn_call (hb : b.Proper) (id : Nat) : b.Effect (b.happen (.turn (.call id))) := by
  have hbegin : b.Aside (· ≠ id) (b.beginTurn (.call id)) := .beginTurn (Goes.isNotCall id) b
  cases hcall : b.call? id with
  | none =>
      have hturn : b.happen (.turn (.call id)) = b.beginTurn (.call id) := by
        change (b.beginTurn (.call id)).callTurn id = _
        rw [callTurn, show (b.beginTurn (.call id)).call? id = none from hcall]
      rw [hturn]
      refine .aside (fun i k hk _ he => ?_) hbegin
      rw [he, hcall] at hk
      cases hk
  | some k =>
      cases hconn : b.connection? k.connection with
      | some conn => exact go_turn hb hcall hconn
      | none =>
          have hturn : b.happen (.turn (.call id)) = b.beginTurn (.call id) := by
            change (b.beginTurn (.call id)).callTurn id = _
            rw [callTurn, show (b.beginTurn (.call id)).call? id = some k from hcall]
            simp only [show (b.beginTurn (.call id)).connection? k.connection = none from hconn]
          rw [hturn]
          refine .aside (fun i k' hk' hsome he => ?_) hbegin
          rw [he, hcall] at hk'
          obtain rfl := Option.some.inj hk'
          rw [hconn] at hsome
          cases hsome

end Effect

/-! ## Loops -/

namespace Effects

theorem quiet (h : b.Quiet b') : b.Effects b' := .single (.quiet h)

theorem close (c : Nat) (b : Broker) : b.Effects (b.close c) :=
  .tail (.single (.cancel c b)) (.clear c _)

theorem endReading (c : Nat) (s : Service) (b : Broker) : b.Effects (b.endReading c s) := by
  rw [Broker.endReading]
  dsimp only
  have hclosed : b.Effects ((b.setService c { s with isReading := false }).close c) :=
    .trans (quiet (.setService c _ b)) (close c _)
  split
  · exact hclosed
  · refine hclosed.tail (.quiet ?_)
    refine ((Aside.setService c _ _).trans (.detach c _)).trans (.onTime ?_)
    exact (Timeline.Spares.forget id _).trans (.forget id _)

theorem endWriting (c : Nat) (s : Service) (b : Broker) : b.Effects (b.endWriting c s) := by
  rw [Broker.endWriting]
  refine Relation.ReflTransGen.tail ?_ (.onConnection_cancel (.wake _ _))
  exact .tail (quiet (.setService c _ b)) (.stopTaking c _)

theorem heard (c : Nat) (s : Service) (b : Broker) : b.Quiet (b.heard c s) :=
  (Aside.setService c _ b).trans (.again id _)

theorem readerTurn (c : Nat) (b : Broker) : b.Effects (b.readerTurn c) := by
  rw [Broker.readerTurn]
  split
  · split
    · split
      · exact .refl
      · exact endReading ..
    · split
      · exact endReading ..
      · split
        · split
          · exact .tail (.single (.deliver c _ b)) (.quiet (heard ..))
          · exact .tail (.single (.deliver c _ b)) (.quiet (heard ..))
          · exact quiet (heard ..)
          · exact quiet (heard ..)
          · exact endReading ..
        · dsimp only
          split
          · exact endReading ..
          · exact quiet ((Aside.onTime (.clearAlarms id _)).trans (.alarm _ _ _))
  · exact .refl

theorem writerTurn (c : Nat) (b : Broker) : b.Effects (b.writerTurn c) := by
  rw [Broker.writerTurn]
  split
  · split
    · exact .refl
    · split
      · exact endWriting ..
      · split
        · rename_i frame b' htake
          have htaken : b.Effects b' := .single (.take htake)
          split
          · exact htaken.tail (.quiet ((Aside.setService c _ b').trans (.again id _)))
          · exact htaken.trans (endWriting ..)
        · dsimp only
          split
          · split
            · exact quiet ((Aside.setService c _ b).trans (.again id _))
            · exact endWriting ..
          · exact quiet (.alarm _ _ _)
  · exact .refl

theorem echoTurn (c : Nat) (b : Broker) : b.Effects (b.echoTurn c) := by
  have hset (echoes : List (Nat × Echo)) (b : Broker) : b.Quiet { b with echoes } :=
    ⟨rfl, rfl, rfl, fun _ he => Or.inl he, .refl _ _⟩
  rw [Broker.echoTurn]
  split
  · exact .refl
  · dsimp only
    split
    · split
      · exact .tail (.tail (quiet (hset _ b)) (.deliver c _ _)) (.quiet (.again id _))
      · exact quiet (.alarm _ _ _)
    · split
      · exact .refl
      · rename_i frame b' htake
        exact .tail (.single (.take htake)) (.quiet ((hset _ b').trans (.again id _)))

theorem turn (hb : b.Proper) (o : BrokerOwner) : b.Effects (b.happen (.turn o)) := by
  cases o with
  | call id => exact .single (.turn_call hb id)
  | reader c => exact .trans (quiet (.beginTurn id b)) (readerTurn c _)
  | writer c => exact .trans (quiet (.beginTurn id b)) (writerTurn c _)
  | echo c => exact .trans (quiet (.beginTurn id b)) (echoTurn c _)

end Effects

/-- Neither does the clock move nor a caller go away. -/
def Event.isPlain : Event → Bool
  | .pass _ | .abandon _ => false
  | _ => true

theorem Effects.happen (hb : b.Proper) {e : Event} (he : e.isPlain = true) :
    b.Effects (b.happen e) := by
  cases e with
  | turn o => exact turn hb o
  | pass now => cases he
  | attach => exact .single (.attach b)
  | link c f => exact quiet (.onLink c f b)
  | connect id => exact .single (.connect id (.refl _ _))
  | echo c suffix delay => exact quiet (.addEcho c suffix delay b)
  | register c =>
      rw [Broker.happen]
      split
      · rename_i conn hconn
        exact quiet (.register _ (by rw [hconn]; rfl))
      · exact .refl
  | deregister id => exact quiet (.deregister id b)
  | request r => exact .single (.receive hb r)
  | forward c frame timeout =>
      rw [Broker.happen]
      split
      · rename_i hsome
        obtain ⟨conn, hconn⟩ := Option.isSome_iff_exists.mp hsome
        exact .single (.startForward hconn frame timeout)
      · exact .refl
  | send c frame => exact .single (.startSend c frame b)
  | deliver c payload => exact .single (.deliver c payload b)
  | cancel c => exact .single (.cancel c b)
  | clear c => exact .single (.clear c b)
  | take c =>
      rw [Broker.happen]
      split
      · rename_i frame b' htake
        exact .single (.take htake)
      · exact .refl
  | stopTaking c => exact .single (.stopTaking c b)
  | abandon id => cases he

/-! ## What every effect preserves -/

namespace Proper

theorem call?_nextKey (hb : b.Proper) : b.call? b.nextKey = none := by
  cases hcall : b.call? b.nextKey with
  | none => rfl
  | some k => exact absurd (hb.calls _ k hcall).known (Nat.lt_irrefl _)

theorem connection?_nextKey (hb : b.Proper) : b.connection? b.nextKey = none := by
  cases hconn : b.connection? b.nextKey with
  | none => rfl
  | some conn => exact absurd (hb.connections b.nextKey (by rw [hconn]; rfl)) (Nat.lt_irrefl _)

/-- No connection has got lost, and the calls and connections that have come are in their places. -/
theorem grow (hb : b.Proper) (hkey : b.nextKey ≤ b'.nextKey)
    (hkept : ∀ c, (b.connection? c).isSome = true → (b'.connection? c).isSome = true)
    (hnew : ∀ c, (b'.connection? c).isSome = true →
      (b.connection? c).isSome = true ∨ c < b'.nextKey)
    (hcalls : ∀ id k, b'.call? id = some k → b.call? id = some k ∨ b'.Placed id k)
    (hregistry : ∀ e ∈ b'.registry, e ∈ b.registry ∨ (b'.connection? e.2).isSome = true) :
    b'.Proper where
  calls id k hcall := by
    obtain hold | hplaced := hcalls id k hcall
    · obtain ⟨hknown, hconnected, hplain⟩ := hb.calls id k hold
      exact ⟨Nat.lt_of_lt_of_le hknown hkey, fun h => hkept _ (hconnected h), hplain⟩
    · exact hplaced
  connections c hc :=
    (hnew c hc).elim (fun hold => Nat.lt_of_lt_of_le (hb.connections c hold) hkey) id
  registered e he := (hregistry e he).elim (fun hold => hkept _ (hb.registered e hold)) id

theorem aside {P : Nat → Prop} (hb : b.Proper) (h : b.Aside P b') : b'.Proper := by
  apply hb.grow
  · exact Nat.le_of_eq h.nextKey.symm
  · exact fun c hc => by rwa [h.connections]
  · exact fun c hc => Or.inl (by rwa [h.connections] at hc)
  · exact fun id k hcall => Or.inl (by rwa [h.calls] at hcall)
  · intro e he
    rw [h.connections]
    exact h.registry e he

theorem addConnection (hb : b.Proper) (proxy : ProxyId) : (b.addConnection proxy).2.Proper := by
  apply hb.grow
  · exact Nat.le_succ _
  · intro c hc
    have hne : c ≠ b.nextKey := Nat.ne_of_lt (hb.connections c hc)
    rwa [connection?_addConnection_of_ne proxy hne]
  · intro c hc
    by_cases hne : c = b.nextKey
    · exact Or.inr (hne ▸ Nat.lt_succ_self _)
    · rw [connection?_addConnection_of_ne proxy hne] at hc
      exact Or.inl hc
  · exact fun _ _ hcall => Or.inl hcall
  · exact fun _ he => Or.inl he

theorem onConnection (hb : b.Proper) (c : Nat) (f : Connection → Connection) :
    (b.onConnection c f).Proper := by
  have hsame (i : Nat) :
      ((b.onConnection c f).connection? i).isSome = (b.connection? i).isSome := by
    by_cases hi : i = c
    · subst hi
      cases hconn : b.connection? i with
      | none => simp [Broker.onConnection, hconn]
      | some conn => rw [connection?_onConnection hconn]; rfl
    · rw [connection?_onConnection_of_ne f hi]
  apply hb.grow
  · exact Nat.le_of_eq (nextKey_onConnection f).symm
  · exact fun i hi => (hsame i).trans hi
  · exact fun i hi => Or.inl ((hsame i).symm.trans hi)
  · exact fun i k hcall => Or.inl (by rwa [call?_onConnection] at hcall)
  · exact fun e he => Or.inl (by rwa [registry_onConnection] at he)

theorem addCall (hb : b.Proper) {k : Call}
    (hconnected : k.isFinished = false → (b.connection? k.connection).isSome = true)
    (hplain : k.limit = none → k.isFinished = false → k.stage = .sending) :
    (b.addCall k).2.Proper := by
  apply hb.grow
  · exact Nat.le_succ _
  · exact fun _ h => h
  · exact fun _ h => Or.inl h
  · intro id k' hcall
    by_cases hid : id = b.nextKey
    · subst hid
      rw [call?_addCall hb.call?_nextKey] at hcall
      obtain rfl := Option.some.inj hcall
      exact Or.inr ⟨Nat.lt_succ_self _, hconnected, hplain⟩
    · rw [call?_addCall_of_ne k hid] at hcall
      exact Or.inl hcall
  · exact fun _ he => Or.inl he

theorem becomes (hb : b.Proper) {k : Call} {stage : CallStage} (hcall : b.call? id = some k)
    (hconn : b.connection? k.connection = some conn)
    (hplain : k.limit = none → ({ k with stage } : Call).isFinished = false → stage = .sending)
    {conn' : Connection} (h : b.Becomes b' k.connection id conn' { k with stage }) :
    b'.Proper := by
  have hsame (i : Nat) : (b'.connection? i).isSome = (b.connection? i).isSome := by
    by_cases hi : i = k.connection
    · rw [hi, h.connection, hconn]
      rfl
    · rw [h.connections i hi]
  apply hb.grow
  · exact Nat.le_of_eq h.nextKey.symm
  · exact fun i hi => (hsame i).trans hi
  · exact fun i hi => Or.inl ((hsame i).symm.trans hi)
  · intro i k' hcall'
    by_cases hi : i = id
    · rw [hi, h.call] at hcall'
      obtain rfl := Option.some.inj hcall'
      refine Or.inr ⟨?_, fun _ => ?_, hplain⟩
      · rw [hi, h.nextKey]
        exact (hb.calls id k hcall).known
      · rw [hsame, hconn]
        rfl
    · rw [h.calls i hi] at hcall'
      exact Or.inl hcall'
  · intro e he
    rw [h.registry] at he
    exact Or.inl he

end Proper

theorem Effect.proper (hb : b.Proper) (h : b.Effect b') : b'.Proper := by
  cases h with
  | aside hP h => exact hb.aside h
  | connect proxy h => exact (hb.addConnection proxy).aside h
  | touch hconn htouched h hwoken => exact (hb.onConnection _ _).aside h
  | begin hconn hbegins h hready =>
      refine ((hb.addCall (fun _ => by rw [hconn]; rfl) ?_).onConnection _ _).aside h
      intro hlimit _
      cases hbegins with
      | forward timeout hlimit' hstage =>
          rw [hlimit'] at hlimit
          cases hlimit
      | send hlimit' hstage => exact hstage
  | refuse hlimit hfinished h =>
      rw [h]
      apply hb.addCall <;>
        simp [hfinished]
  | @go id k conn conn' stage hcall hconn hproceeds h =>
      refine hb.becomes hcall hconn (fun hlimit hunfinished => ?_) h.toBecomes
      obtain ⟨hsome, -⟩ | ⟨-, hsends⟩ := hproceeds
      · rw [hlimit] at hsome
        cases hsome
      · cases hsends with
        | wait => exact (hb.calls id k hcall).plain hlimit hunfinished
        | strand at_ hstage => cases hunfinished
        | send at_ hstage => cases hunfinished

/-- What an event preserves that is not a matter of the clock and of callers that go away. -/
theorem Effects.proper (hb : b.Proper) (h : b.Effects b') : b'.Proper := by
  induction h with
  | refl => exact hb
  | tail _ heffect ih => exact heffect.proper ih

/-! ## Callers that go away -/

/-- A call is gone from its connection; whoever could go on because of it has been woken. -/
structure Drops (b b' : Broker) (id : Nat) (k : Call) : Prop where
  connection : b'.connection? k.connection = (b.connection? k.connection).map (·.vacate id)
  connections : ∀ c, c ≠ k.connection → b'.connection? c = b.connection? c
  call : b'.call? id = none
  calls : ∀ i, i ≠ id → b'.call? i = b.call? i
  nextKey : b'.nextKey = b.nextKey
  registry : b'.registry = b.registry
  time : b.time.Spares (IsCall (· ≠ id)) b'.time
  others : ∀ conn, b.connection? k.connection = some conn → ∀ i,
    .call i ∈ b'.time.ready ∨ conn.KeepsWaiting (conn.vacate id) i

theorem drops_abandon {k : Call} (hcall : b.call? id = some k) : b.Drops (b.abandon id) id k := by
  let c := k.connection
  let b₁ := b.onConnection c (·.vacate id)
  let b₂ := ({ b₁ with calls := Keyed.others id b₁.calls } : Broker).onTime (·.forget (.call id))
  let b₃ := (b₂.wakeTurn c).wakeSenders c
  have hb₃ : b.abandon id = b₃ := by
    rw [abandon, hcall]
    rfl
  have htime : b₂.OnlyTime b₃ := (OnlyTime.wakeTurn c).trans (.wakeSenders c)
  have hcalls : b₁.calls = b.calls := by
    simp only [b₁, onConnection]
    split <;> rfl
  have hspares₁ : b.time.Spares (IsCall (· ≠ id)) b₂.time := by
    have hforget : b₁.time.Spares (IsCall (· ≠ id)) b₂.time := .forget (Goes.isNotCall id) _
    rwa [show b₁.time = b.time from time_onConnection _] at hforget
  rw [hb₃]
  refine ⟨?_, ?_, ?_, ?_, ?_, ?_, ?_, ?_⟩
  · rw [htime.connection?]
    change b₁.connection? c = _
    cases hconn : b.connection? c with
    | none => simp [b₁, onConnection, hconn]
    | some conn => exact connection?_onConnection hconn _
  · intro i hi
    exact (htime.connection? i).trans (connection?_onConnection_of_ne _ hi)
  · exact (htime.call? id).trans (Keyed.lookup_others id b₁.calls)
  · intro i hi
    have hlookup : b₂.call? i = b₁.calls.lookup i := Keyed.lookup_others_of_ne hi b₁.calls
    rw [htime.call?, hlookup, hcalls, call?]
  · exact htime.nextKey.trans (nextKey_onConnection _)
  · exact htime.registry.trans (registry_onConnection _)
  · exact (hspares₁.trans (spares_wakeTurn _ b₂ c)).trans (spares_wakeSenders _ _ c)
  · intro conn hconn i
    have hconn₂ : b₂.connection? c = some (conn.vacate id) := connection?_onConnection hconn _
    have htaken : (conn.vacate id).isTaken = conn.isTaken := rfl
    exact ready_wakeAll hconn₂ htaken i

/-- All that one event can do. -/
theorem happen_cases (hb : b.Proper) (e : Event) :
    b.Effects (b.happen e) ∨ (∃ now, e = .pass now) ∨
      ∃ id k, e = .abandon id ∧ b.call? id = some k ∧ b.Drops (b.happen e) id k := by
  cases e with
  | pass now => exact Or.inr (Or.inl ⟨now, rfl⟩)
  | abandon id =>
      cases hcall : b.call? id with
      | none =>
          have hsame : b.happen (.abandon id) = b := by rw [happen, abandon, hcall]
          rw [hsame]
          exact Or.inl .refl
      | some k => exact Or.inr (Or.inr ⟨id, k, rfl, hcall, drops_abandon hcall⟩)
  | _ => exact Or.inl (Effects.happen hb rfl)

theorem Drops.proper {k : Call} (hb : b.Proper) (h : b.Drops b' id k) : b'.Proper := by
  have hsame (c : Nat) : (b'.connection? c).isSome = (b.connection? c).isSome := by
    by_cases hc : c = k.connection
    · rw [hc, h.connection, Option.isSome_map]
    · rw [h.connections c hc]
  apply hb.grow
  · exact Nat.le_of_eq h.nextKey.symm
  · exact fun c hc => (hsame c).trans hc
  · exact fun c hc => Or.inl ((hsame c).symm.trans hc)
  · intro i k' hcall
    have hi : i ≠ id := by
      rintro rfl
      rw [h.call] at hcall
      cases hcall
    exact Or.inl ((h.calls i hi).symm.trans hcall)
  · intro e he
    rw [h.registry] at he
    exact Or.inl he

theorem Proper.happen (hb : b.Proper) (e : Event) : (b.happen e).Proper := by
  obtain heffects | ⟨now, rfl⟩ | ⟨id, k, rfl, -, hdrops⟩ := happen_cases hb e
  · exact heffects.proper hb
  · apply hb.grow
    · exact Nat.le_refl _
    · exact fun _ h => h
    · exact fun _ h => Or.inl h
    · exact fun _ _ h => Or.inl h
    · exact fun _ h => Or.inl h
  · exact hdrops.proper hb

theorem exists_of_start {config : BrokerConfig} {store : Store} (h : start config store = .ok b) :
    ∃ store lastId, b = { config, store, lastId } := by
  rw [start] at h
  split at h
  · cases h
  · rename_i lastId store' _
    split at h
    · cases h
    · rename_i store'' _
      exact ⟨store'', lastId, (Except.ok.inj h).symm⟩

/-- A broker that has just been made is as it should be. -/
theorem Proper.start {config : BrokerConfig} {store : Store} (h : start config store = .ok b) :
    b.Proper := by
  obtain ⟨store', lastId, rfl⟩ := exists_of_start h
  refine ⟨?_, ?_, ?_⟩
  · rintro id k ⟨⟩
  · rintro c ⟨⟩
  · rintro e ⟨⟩

end Broker

end MapScout
