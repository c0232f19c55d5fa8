import MapScout.Settings
import MapScout.Tunnel.Turn
import MapScout.Web.ScanDesk
/-!
# Stations

A process that scans, brokers, or does both over one store.  Requests come in at its doors.  Scanner and
broker take their turns separately; whoever has a turn finds the store as the other left it.
-/

namespace MapScout

/-- Where requests come in. -/
inductive Door where
  /-- Where agents connect. -/
  | agents
  /-- Where callers have requests forwarded. -/
  | forward
  | scanner
  deriving DecidableEq, Repr

/-- What came of a request. -/
inductive Receipt where
  | ticket (t : Ticket)
  /-- The forwarded call with this number will tell. -/
  | call (id : Nat) (method : String)
  deriving Repr

structure Station where
  store : Store := {}
  world : Option World := none
  broker : Option Broker := none
  secret : String := ""
  /-- The time between two sweeps of the inventory; there are none if it is zero. -/
  sweepInterval : Nat := 0
  nextSweep : Nat := 0
  /-- The task that fills the pool at the start, and how many sessions it is to put in. -/
  preload : Option (Nat × Nat) := none
  /-- What there is to tell, the latest last. -/
  log : List String := []
  deriving Inhabited

namespace Station

def note (line : String) (s : Station) : Station := { s with log := s.log ++ [line] }

/-- Lets something be done with the scanner; none if there is no scanner. -/
def onWorld {α : Type} (f : World → α × World) (s : Station) : Option α × Station :=
  match s.world with
  | none => (none, s)
  | some w =>
    let (a, w) := f { w with store := s.store }
    (some a, { s with world := some w, store := w.store })

/-- Lets something be done with the broker; none if there is no broker. -/
def onBroker {α : Type} (f : Broker → α × Broker) (s : Station) : Option α × Station :=
  match s.broker with
  | none => (none, s)
  | some b =>
    let (a, b) := f { b with store := s.store }
    (some a, { s with broker := some b, store := b.store })

/-- The broker is changed, if there is one. -/
def changeBroker (f : Broker → Broker) (s : Station) : Station :=
  (s.onBroker fun b => ((), f b)).2

/-- The scanner is changed, if there is one. -/
def changeWorld (f : World → World) (s : Station) : Station :=
  (s.onWorld fun w => ((), f w)).2

def registered (s : Station) : List ProxyId := s.broker.elim [] (·.registry.ids)

/-- Tells that the pool has been filled. -/
def notePreload (s : Station) : Station :=
  match s.preload with
  | none => s
  | some (id, wanted) =>
    match s.world.bind (·.task? id) with
    | some (.preload { stage := .finished _, queued, .. }) =>
      ({ s with preload := none } : Station).note
        ("Preloaded " ++ toString queued ++ "/" ++ toString wanted ++ " sessions")
    | _ => s

/-- Lets scanner and broker go on until both wait. -/
def settle (s : Station) : Station :=
  let before := s.registered
  let s := ((s.changeWorld (Timed.settle Timed.plenty)).changeBroker
    (Timed.settle Timed.plenty)).notePreload
  let gone := before.filter fun id => !s.registered.contains id
  gone.foldl (fun s id => s.note ("Tunnel agent disconnected agent_id=" ++ toString id.toNat)) s

/-- Sweeps the inventory. -/
def sweep (s : Station) : SweepReport × Station :=
  let (report, store) := s.store.sweep
  (report, { s with store })

/-- The sweep that is due, if one is. -/
def sweepIfDue (now : Nat) (s : Station) : Station :=
  if s.sweepInterval = 0 ∨ now < s.nextSweep then s
  else
    let (r, s) := s.sweep
    ({ s with nextSweep := s.nextSweep + s.sweepInterval } : Station).note
      ("Inventory sweep removed_proxies=" ++ toString r.removedProxies ++ " banned_accounts=" ++
        toString r.bannedAccounts ++ " flagged_accounts=" ++ toString r.flaggedAccounts)

/-- Sets the clocks. -/
def advance (now : Nat) (s : Station) : Station :=
  let s := s.changeWorld fun w => (w.onTime (·.advance now)).syncWall
  (s.changeBroker (·.onTime (·.advance now))).sweepIfDue now

/-- When something happens next by itself. -/
def nextDue? (s : Station) : Option Nat :=
  let sweep := if s.sweepInterval = 0 then [] else [s.nextSweep]
  let world := (s.world.bind fun w => w.time.nextDue?).toList
  let broker := (s.broker.bind fun b => b.time.nextDue?).toList
  (sweep ++ world ++ broker).min?

/-- The receipt for a reply that is known. -/
def settled (r : Web.Request) (reply : Web.Reply) : Receipt :=
  .ticket (.settled (reply.sentFor r.method))

/-- A request at the agents' door.  One that asks for a stream gets one, but nobody is at its other
end. -/
def takeStream (r : Web.Request) (s : Station) : Receipt × Station :=
  let reply := Broker.refuse r
  if reply.status = 426 then
    (settled r { status := 101 }, s.changeBroker fun b =>
      let (c, b) := b.attach
      b.dropAgent c)
  else (settled r reply, s)

/-- Takes a request in at a door. -/
def take (door : Door) (r : Web.Request) (s : Station) : Receipt × Station :=
  let nobody : Receipt := settled r { status := 404 }
  match door with
  | .scanner =>
    let (t, s) := s.onWorld (·.receive s.secret r)
    (t.elim nobody .ticket, s)
  | .forward =>
    match s.onBroker (·.receive r) with
    | (some (.ok id), s) => (.call id r.method, s)
    | (some (.error reply), s) => (.ticket (.settled reply), s)
    | (none, s) => (nobody, s)
  | .agents => s.takeStream r

/-- The reply to a request, if it is known. -/
def reply? (s : Station) : Receipt → Option Web.Reply
  | .ticket t =>
    match t with
    | .settled reply => some reply
    | t => s.world.bind (·.reply? t)
  | .call id method =>
    match s.broker.bind (·.call? id) with
    | some { stage := .finished result _, .. } => some ((Broker.replyTo result).sentFor method)
    | _ => none

end Station

end MapScout
