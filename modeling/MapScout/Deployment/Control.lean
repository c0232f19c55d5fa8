import MapScout.Deployment.Launch
/-!
# Control of running processes

What whoever runs the processes can ask of them: to wait for something they tell, to take in one agent
more, to close a connection, to fill the pool.  Everything is asked of a network, because the others go
on meanwhile.
-/

namespace MapScout.Network

/-- How long something is waited for that comes soon or never, in milliseconds. -/
def shortPatience : Nat := 60000

def exit? (n : Network) (i : Nat) : Option Exit := (n.process? i).bind (·.exit?)

/-- Waits for the end of a process. -/
def awaitExit (i : Nat) (n : Network) : Option Exit × Network :=
  let n := (n.await (fun n => (n.exit? i).isSome) patience).2
  (n.exit? i, n)

/-- Tells a process to stop and waits for its end. -/
def stop (i : Nat) (n : Network) : Option Exit × Network := (n.interrupt i).settle.awaitExit i

/-- Waits until a process has told something. -/
def awaitLine (i : Nat) (part : String) (n : Network) : Bool × Network :=
  let tells (line : String) : Bool := 1 < (line.splitOn part).length
  n.await (fun n => (n.process? i).any fun p => p.lines.any tells) (60 * shortPatience)

/-- Waits until an address can be reached. -/
def awaitDoor (address : String) (n : Network) : Bool × Network :=
  n.await (fun n => n.isConnected && (n.door? address).isSome) shortPatience

/-- Sends a request again and again until the answer contains a text. -/
def fetchUntil (address : String) (r : Web.Request) (part : String) :
    (times : Nat) → Network → Option Web.Response × Network
  | 0, n => (none, n)
  | times + 1, n =>
    let (answer, n) := n.fetch address r
    if answer.any fun a => 1 < ((Utf8.decodeLossy a.body).splitOn part).length then (answer, n)
    else fetchUntil address r part times (n.await (fun _ => false) 20).2

/-! ## Agents -/

/-- All connections of an agent process stand. -/
def isAttached (n : Network) (i : Nat) : Bool :=
  match n.body? i with
  | some (.agents _ runs) => runs.all (·.phase matches .attached ..)
  | _ => false

/-- Starts an agent process and waits until it is connected; none if it gives up. -/
def join (plan : AgentPlan) (n : Network) : Option Nat × Network :=
  let (i, n) := n.spawn (plan.body n.now)
  let n := (n.await (fun n => n.isAttached i || (n.exit? i).isSome) shortPatience).2
  (if n.isAttached i then some i else none, n)

/-! ## Stations -/

/-- Lets a station do something. -/
def ask {α : Type} (i : Nat) (f : Station → α × Station) (n : Network) : Option α × Network :=
  match n.station? i with
  | none => (none, n)
  | some s =>
    let (a, s) := f s
    (some a, n.onStation i fun _ => s)

/-- Has the broker of a station close a connection and waits until the agents are connected again. -/
def disconnect (i : Nat) (id : ProxyId) (agents : List Nat) (n : Network) :
    Except TunnelError Bool × Network :=
  match ((n.station? i).bind (·.broker)).elim (.error (.tunnelNotFound id)) (·.lookup id) with
  | .error e => (.error e, n)
  | .ok c =>
    let n := (n.onStation i (·.changeBroker (·.close c))).settle
    let (done, n) := n.await (fun n => agents.all n.isAttached) shortPatience
    (.ok done, n)

/-- Has the scanner of a station fill its pool and waits until it has; how many sessions came in. -/
def preload (i count : Nat) (n : Network) : Option Nat × Network :=
  let (task, n) := n.ask i (·.onWorld (·.spawn (.preload { remaining := count })))
  let queued (n : Network) : Option Nat :=
    match task.join.bind fun id => ((n.station? i).bind (·.world)).bind (·.task? id) with
    | some (.preload { stage := .finished _, queued, .. }) => some queued
    | _ => none
  let n := (n.await (fun n => (queued n).isSome) patience).2
  (queued n, n)

end MapScout.Network
