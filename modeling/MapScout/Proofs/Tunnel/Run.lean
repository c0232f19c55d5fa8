import MapScout.Proofs.Timeline
import MapScout.Tunnel.Turn

/-!
# Runs of the broker

A run is a list of events, and anything may happen at any moment: agents connect and do what they
like at their ends of their links, frames are to be forwarded or sent, connections are closed,
callers go away, and any call or loop may take its turn.  In a timely run the clock moves as the
timeline moves it, only when nobody is ready and never past an alarm.
-/

namespace MapScout.Broker

inductive Event where
  /-- A call or a loop takes its turn. -/
  | turn (o : BrokerOwner)
  /-- The clock moves on. -/
  | pass (now : Nat)
  /-- An agent connects. -/
  | attach
  /-- Something happens at an agent's end of its link. -/
  | link (c : Nat) (f : Link → Link)
  /-- A connection is made that nobody serves. -/
  | connect (id : ProxyId)
  /-- A connection gets an agent that echoes. -/
  | echo (c : Nat) (suffix : Bytes) (delay : Nat)
  /-- A connection is put into the registry. -/
  | register (c : Nat)
  | deregister (id : ProxyId)
  /-- A request comes in that is to be forwarded. -/
  | request (r : Web.Request)
  /-- A frame is to be forwarded through a connection. -/
  | forward (c : Nat) (frame : Bytes) (timeout : Nat)
  /-- A frame is to be sent through a connection. -/
  | send (c : Nat) (frame : Bytes)
  /-- A frame comes from an agent. -/
  | deliver (c : Nat) (payload : Bytes)
  /-- A connection is closed: it is marked closed. -/
  | cancel (c : Nat)
  /-- A connection is closed: its slot is cleared. -/
  | clear (c : Nat)
  /-- A frame is taken out of the queue of a connection. -/
  | take (c : Nat)
  | stopTaking (c : Nat)
  /-- The caller of a call goes away. -/
  | abandon (id : Nat)

/-- A call or a loop has its turn, and is not ready for another until it is woken again. -/
def beginTurn (o : BrokerOwner) (b : Broker) : Broker :=
  b.onTime fun t => { t with ready := t.ready.erase o }

def happen (e : Event) (b : Broker) : Broker :=
  match e with
  | .turn o => Broker.turn o (b.beginTurn o)
  | .pass now => b.onTime (·.advance now)
  | .attach => b.attach.2
  | .link c f => b.onLink c f
  | .connect id => (b.addConnection id).2
  | .echo c suffix delay => b.addEcho c suffix delay
  | .register c =>
      match b.connection? c with
      | some conn => Broker.register conn.id c b
      | none => b
  | .deregister id => (Broker.deregister id b).2
  | .request r => (b.receive r).2
  | .forward c frame timeout =>
      if (b.connection? c).isSome then (b.startForward c frame timeout).2 else b
  | .send c frame => (b.startSend c frame).2
  | .deliver c payload => Broker.deliver c payload b
  | .cancel c => Broker.cancel c b
  | .clear c => Broker.clear c b
  | .take c =>
      match b.take? c with
      | some (_, b) => b
      | none => b
  | .stopTaking c => Broker.stopTaking c b
  | .abandon id => Broker.abandon id b

def run (b : Broker) (events : List Event) : Broker := events.foldl (fun b e => b.happen e) b

theorem run_append (b : Broker) (xs ys : List Event) : b.run (xs ++ ys) = (b.run xs).run ys :=
  List.foldl_append ..

/-- Whatever one event preserves, a run preserves. -/
theorem run_induction {P : Broker → Prop} (hstep : ∀ b e, P b → P (b.happen e)) {b : Broker}
    (hb : P b) (events : List Event) : P (b.run events) := by
  induction events generalizing b with
  | nil => exact hb
  | cons e events ih => exact ih (hstep b e hb)

/-! ## The timeline -/

/-- The clock moves only when nobody is ready, and not past an alarm. -/
def IsTimely (b : Broker) : Event → Prop
  | .pass now => b.time.ready = [] ∧ ∀ a ∈ b.time.alarms, now ≤ a.due
  | _ => True

def Timely : Broker → List Event → Prop
  | _, [] => True
  | b, e :: events => b.IsTimely e ∧ (b.happen e).Timely events

theorem timely_append {b : Broker} {xs ys : List Event} :
    b.Timely (xs ++ ys) ↔ b.Timely xs ∧ (b.run xs).Timely ys := by
  induction xs generalizing b with
  | nil => exact ⟨fun h => ⟨trivial, h⟩, And.right⟩
  | cons e xs ih => exact (and_congr_right fun _ => ih).trans and_assoc.symm

theorem step?_eq_some {b b' : Broker} (h : Timed.step? b = some b') :
    ∃ o, b' = b.happen (.turn o) := by
  rw [Timed.step?] at h
  split at h
  · cases h
  · rename_i o rest hready
    obtain rfl := Option.some.inj h
    refine ⟨o, ?_⟩
    have herase : b.time.ready.erase o = rest := by
      rw [show b.time.ready = o :: rest from hready, List.erase_cons_head]
    simp only [happen, beginTurn, onTime, herase]
    rfl

/-- The runs that the timeline brings about are timely. -/
theorem exists_run_of_runUntil (done : Broker → Bool) (limit turns : Nat) (b : Broker) :
    ∃ events, b.Timely events ∧ Timed.runUntil done limit turns b = b.run events := by
  refine Timed.runUntil_induction
    (R := fun (b b' : Broker) => ∃ events, b.Timely events ∧ b' = b.run events)
    ?_ ?_ ?_ done limit turns b
  · exact fun b => ⟨[], trivial, rfl⟩
  · rintro b b' _ hstep ⟨events, htimely, rfl⟩
    obtain ⟨o, rfl⟩ := step?_eq_some hstep
    exact ⟨.turn o :: events, ⟨trivial, htimely⟩, rfl⟩
  · rintro b _ now hready hnow ⟨events, htimely, rfl⟩
    exact ⟨.pass now :: events, ⟨⟨hready, hnow⟩, htimely⟩, rfl⟩

end MapScout.Broker
