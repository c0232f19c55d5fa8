import MapScout.Proofs.Stock.Acts
import MapScout.Proofs.Tunnel.Roster

/-!
# Agents that come and go

For an agent that comes the broker takes three steps: the agent gets its number, is put into the
registry, and has its proxy stored.  Only then do its loops begin.  When both have ended, there are
two more steps: the agent is struck from the registry, and its proxy is marked dead.  Other agents,
calls, scans and sweeps may come in between any two of them.
-/

namespace MapScout

/-- How far an agent has come. -/
inductive Stage where
  /-- It has got its number. -/
  | numbered
  /-- It is in the registry. -/
  | listed
  /-- Its proxy has been stored, and its loops are at work. -/
  | attached
  /-- Its loops have ended. -/
  | leaving
  /-- It is out of the registry. -/
  | struck
  /-- Its proxy has been marked dead. -/
  | gone
  deriving DecidableEq, Repr

namespace Stage

/-- The stage after the next step that the broker takes for the agent. -/
def next : Stage → Stage
  | numbered => listed
  | listed => attached
  | attached => attached
  | leaving => struck
  | struck => gone
  | gone => gone

def ended : Stage → Stage
  | attached => leaving
  | s => s

/-- The stage after an event, by whether the broker still serves the agent. -/
def under (serving? : Option Bool) (s : Stage) : Stage :=
  if serving? = some true then s else s.ended

def isEarly : Stage → Bool
  | numbered | listed => true
  | _ => false

def isServed : Stage → Bool
  | numbered | listed | attached => true
  | _ => false

def isListed : Stage → Bool
  | listed | attached | leaving => true
  | _ => false

/-- The proxy has been stored and has not been marked dead because of the agent. -/
def isRecorded : Stage → Bool
  | attached | leaving | struck => true
  | _ => false

theorem under_isServed (s : Stage) : s.under (some s.isServed) = s := by cases s <;> rfl

end Stage

namespace Broker

/-- What happens, but for what has to do with the registry and the store. -/
def partly (e : Event) (b : Broker) : Broker :=
  { b.happen e with registry := b.registry, store := b.store }

/-- The step that the broker takes for an agent at a stage. -/
def usher (c : Nat) (stage : Stage) (b : Broker) : Broker :=
  match b.connection? c with
  | none => b
  | some conn =>
    match stage with
    | .numbered => b.register conn.id c
    | .listed => { b with store := (b.store.addProxy { id := conn.id }).2 }
    | .leaving => (b.deregister conn.id).2
    | .struck => { b with store := (b.store.saveProxy { id := conn.id, dead := true }).2 }
    | .attached | .gone => b

end Broker

/-- A broker with all agents that have ever come to it. -/
structure Reception where
  broker : Broker
  stages : List (Nat × Stage) := []

namespace Reception

/-- What can happen to a broker and to the store that it shares with others. -/
inductive Event where
  /-- Something happens to the broker.  The steps for agents that come or go are not taken yet. -/
  | tunnel (e : Broker.Event)
  /-- The broker takes the next step for an agent. -/
  | step (c : Nat)
  /-- Somebody else uses the store. -/
  | store (a : Inventory.Act)

namespace Event

/-- No agents come but those that the broker takes in, and nobody else adds proxies. -/
def IsOrdinary : Event → Prop
  | tunnel e => e.IsOrdinary
  | step _ => True
  | store a => a.isDaily = true

def isComing : Event → Bool
  | tunnel .attach => true
  | _ => false

def report? : Event → Option ProxyId
  | store (.saveProxy p) => if p.dead then some p.id else none
  | _ => none

end Event

def arrivals (events : List Event) : Nat := events.countP (·.isComing)

def reports (events : List Event) : List ProxyId := events.filterMap (·.report?)

def stage? (r : Reception) (c : Nat) : Option Stage := r.stages.lookup c

/-- The loop whose turn it would be has not begun. -/
def isHeld (r : Reception) : Broker.Event → Bool
  | .turn (.reader c) | .turn (.writer c) => (r.stage? c).any (·.isEarly)
  | _ => false

/-- An agent comes and gets its number. -/
def come (r : Reception) : Reception where
  broker := r.broker.partly .attach
  stages := r.stages ++ [(r.broker.nextKey, .numbered)]

/-- Something else happens to the broker, by which loops may end. -/
def goOn (e : Broker.Event) (r : Reception) : Reception :=
  let broker := r.broker.partly e
  { broker, stages := r.stages.map fun (c, s) => (c, s.under (broker.roster.serving? c)) }

def happen (e : Event) (r : Reception) : Reception :=
  match e with
  | .tunnel .attach => r.come
  | .tunnel e => if r.isHeld e then r else r.goOn e
  | .step c =>
    match r.stage? c with
    | none => r
    | some s => { broker := r.broker.usher c s, stages := Broker.replace c s.next r.stages }
  | .store a => { r with broker := { r.broker with store := r.broker.store.perform a } }

def run (r : Reception) (events : List Event) : Reception := events.foldl (fun r e => r.happen e) r

def numbers (r : Reception) : List ProxyId := r.broker.connections.map (·.2.id)

/-- The agent with a number, at a connection, is at a stage. -/
structure At (r : Reception) (stage : Stage) (c : Nat) (id : ProxyId) : Prop where
  number : r.broker.number? c = some id
  stage : r.stage? c = some stage

/-- No agent is just coming or going. -/
def IsAtRest (r : Reception) : Prop :=
  ∀ c stage, r.stage? c = some stage → stage = .attached ∨ stage = .gone

variable {r r' : Reception} {c : Nat} {id : ProxyId} {s s' : Stage}

/-! ## Runs -/

theorem arrivals_cons (e : Event) (events : List Event) :
    arrivals (e :: events) = arrivals [e] + arrivals events :=
  (List.countP_append : ([e] ++ events).countP _ = _)

theorem reports_cons (e : Event) (events : List Event) :
    reports (e :: events) = reports [e] ++ reports events :=
  (List.filterMap_append : ([e] ++ events).filterMap _ = _)

theorem run_append (r : Reception) (xs ys : List Event) : r.run (xs ++ ys) = (r.run xs).run ys :=
  List.foldl_append ..

theorem happen_tunnel {e : Broker.Event} (hattach : e ≠ .attach) :
    r.happen (.tunnel e) = if r.isHeld e then r else r.goOn e := by
  cases e <;> first | rfl | exact absurd rfl hattach

theorem happen_step (hs : r.stage? c = some s) :
    r.happen (.step c) = ⟨r.broker.usher c s, Broker.replace c s.next r.stages⟩ := by
  rw [happen]
  simp only [hs]

theorem happen_step_none (hs : r.stage? c = none) : r.happen (.step c) = r := by
  rw [happen]
  simp only [hs]

/-- All that a step for an agent changes. -/
theorem usher_eq {b : Broker} (hid : b.number? c = some id) (stage : Stage) :
    b.usher c stage =
      { b with
        registry := match stage with
          | .numbered => b.registry.register id c
          | .leaving => (b.registry.deregister id).2
          | _ => b.registry
        store := match stage with
          | .listed => (b.store.addProxy { id }).2
          | .struck => (b.store.saveProxy { id, dead := true }).2
          | _ => b.store } := by
  obtain ⟨conn, hconn, rfl⟩ := Option.map_eq_some_iff.mp hid
  rw [Broker.usher, hconn]
  cases stage <;> rfl

/-! ## What becomes of an agent -/

/-- The one agent with a number comes to another stage. -/
structure Shifts (r r' : Reception) (c : Nat) (id : ProxyId) (s s' : Stage) : Prop where
  before : r.At s c id
  only : ∀ i, r.broker.number? i = some id → i = c
  number? : r'.broker.number? = r.broker.number?
  stages : r'.stages = Broker.replace c s' r.stages

namespace Shifts

variable (h : r.Shifts r' c id s s')

include h

theorem stage?_self : r'.stage? c = some s' := by
  have hstage := h.before.stage
  rw [stage?] at hstage ⊢
  rw [h.stages, Broker.replace, Keyed.lookup_map (fun _ => s'), hstage]
  rfl

theorem stage?_of_ne {i : Nat} (hi : i ≠ c) : r'.stage? i = r.stage? i := by
  rw [stage?, h.stages]
  exact Keyed.lookup_map_of_ne (fun _ => s') r.stages hi

theorem after : r'.At s' c id where
  number := by rw [h.number?, h.before.number]
  stage := h.stage?_self

/-- The number leads to that agent at its new stage. -/
theorem eq_of_at {stage : Stage} {i : Nat} (hat : r'.At stage i id) : i = c ∧ stage = s' := by
  obtain rfl := h.only i (h.number? ▸ hat.number)
  exact ⟨rfl, Option.some.inj (hat.stage.symm.trans h.stage?_self)⟩

theorem at_of_ne {stage : Stage} {i : Nat} {other : ProxyId} (hi : i ≠ c)
    (hat : r.At stage i other) : r'.At stage i other where
  number := by rw [h.number?, hat.number]
  stage := (h.stage?_of_ne hi).trans hat.stage

/-- Nothing becomes of the other agents. -/
theorem at_other {stage : Stage} {i : Nat} {other : ProxyId} (hother : other ≠ id) :
    r'.At stage i other ↔ r.At stage i other := by
  have hne (hnumber : r.broker.number? i = some other) : i ≠ c := by
    rintro rfl
    exact hother (Option.some.inj (hnumber.symm.trans h.before.number))
  constructor
  · rintro ⟨hnumber, hstage⟩
    rw [h.number?] at hnumber
    exact ⟨hnumber, (h.stage?_of_ne (hne hnumber)).symm.trans hstage⟩
  · exact fun hat => h.at_of_ne (hne hat.number) hat

end Shifts

end Reception

end MapScout
