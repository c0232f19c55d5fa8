import MapScout.Agent.Endpoint
import MapScout.CommandLine.Invocation
import MapScout.Deployment.Station
import MapScout.Number.Power
/-!
# Processes on a network

Stations and agents that run side by side and reach each other by host and port.  All clocks go
together: time stands still while anybody can go on and then moves to whatever happens next.  A request
is an exchange that stays open until its station knows the reply; an agent that makes a call for its
broker waits for such an exchange like anybody else.
-/

namespace MapScout

/-- What one connection of an agent process is at. -/
inductive AgentPhase where
  /-- The next attempt comes at this moment. -/
  | resting (until_ : Nat)
  /-- The connection ends at this moment, since there is no wait after the one it is in. -/
  | expiring (until_ : Nat)
  /-- Connected to a process that is a broker. -/
  | attached (station connection : Nat)
  /-- Waiting for the answer to a call made for the broker. -/
  | calling (station connection exchange : Nat)
  | gaveUp
  deriving DecidableEq, Repr

structure AgentRun where
  phase : AgentPhase
  state : Backoff.State
  deriving DecidableEq, Repr

/-- How a process ended. -/
structure Exit where
  code : Nat
  /-- What it says on leaving, if anything is wrong. -/
  message : Option String := none
  deriving DecidableEq, Repr

inductive Body where
  | station (s : Station) (doors : List (String × Door))
  | agents (plan : AgentPlan) (runs : List AgentRun)
  | ended (e : Exit)
  deriving Inhabited

structure Process where
  body : Body
  /-- What the process has told, the latest last. -/
  log : List String := []
  deriving Inhabited

/-- A request that some process has taken in. -/
structure Exchange where
  station : Nat
  receipt : Receipt
  /-- The answer, or none if the process ended before there was one. -/
  result : Option (Option Web.Response) := none

structure Network where
  now : Nat := 0
  /-- The wall clock at the start, in milliseconds since the start of 1970. -/
  epoch : Int := 0
  processes : List Process := []
  exchanges : List Exchange := []
  /-- What else answers calls. -/
  endpoint : Option Endpoint := none
  /-- Addresses that are in use elsewhere. -/
  taken : List String := []
  /-- Without this no connection can be made. -/
  isConnected : Bool := true
  deriving Inhabited

namespace Process

/-- All that a process has told. -/
def lines (p : Process) : List String :=
  p.log ++ match p.body with
    | .station s _ => s.log
    | _ => []

def exit? (p : Process) : Option Exit :=
  match p.body with
  | .ended e => some e
  | _ => none

def station? (p : Process) : Option Station :=
  match p.body with
  | .station s _ => some s
  | _ => none

def runs (p : Process) : List AgentRun :=
  match p.body with
  | .agents _ runs => runs
  | _ => []

/-- Ends a process; what it has told stays. -/
def finish (e : Exit) (p : Process) : Process := { body := .ended e, log := p.lines }

end Process

/-- What a process says whose agents have all given up. -/
def allGaveUp : String := "All agent connections gave up"

namespace Network

def process? (n : Network) (i : Nat) : Option Process := n.processes[i]?

def body? (n : Network) (i : Nat) : Option Body := (n.process? i).map (·.body)

def onProcess (i : Nat) (f : Process → Process) (n : Network) : Network :=
  { n with processes := n.processes.modify i f }

def station? (n : Network) (i : Nat) : Option Station := (n.process? i).bind (·.station?)

def onStation (i : Nat) (f : Station → Station) (n : Network) : Network :=
  n.onProcess i fun p =>
    match p.body with
    | .station s doors => { p with body := .station (f s) doors }
    | _ => p

/-- Which process has a door at an address. -/
def door? (n : Network) (address : String) : Option (Nat × Door) :=
  (List.range n.processes.length).findSome? fun i =>
    match n.body? i with
    | some (.station _ doors) => (doors.lookup address).map fun d => (i, d)
    | _ => none

/-- The addresses at which something listens. -/
def listening (n : Network) : List String :=
  n.taken ++ n.processes.flatMap fun p =>
    match p.body with
    | .station _ doors => doors.map (·.1)
    | _ => []

/-! ## Exchanges -/

/-- Sends a request to an address; none if nothing can be reached there. -/
def request (address : String) (r : Web.Request) (n : Network) : Option Nat × Network :=
  match if n.isConnected then n.door? address else none with
  | none => (none, n)
  | some (i, door) =>
    match n.station? i with
    | none => (none, n)
    | some s =>
      let (receipt, s) := s.take door r.received
      let exchanges := n.exchanges ++ [{ station := i, receipt }]
      (some n.exchanges.length, ({ n with exchanges } : Network).onStation i fun _ => s)

/-- What has come of an exchange: nothing yet, or the answer, or that there will be none. -/
def result? (n : Network) (x : Nat) : Option (Option Web.Response) := n.exchanges[x]?.bind (·.result)

/-- Notes the answer to an exchange if there is one. -/
def concluded (n : Network) (x : Exchange) : Exchange :=
  if x.result.isSome then x
  else
    match n.station? x.station with
    | none => { x with result := some none }
    | some s => { x with result := (s.reply? x.receipt).map fun r => r.toResponse.received }

/-- Notes all answers that have become known, and says whether there were any. -/
def conclude (n : Network) : Bool × Network :=
  let exchanges := n.exchanges.map n.concluded
  let open_ (xs : List Exchange) : Nat := xs.countP (·.result.isNone)
  (open_ exchanges != open_ n.exchanges, { n with exchanges })

/-! ## Agents -/

/-- A process tells something. -/
def tell (i : Nat) (line : String) (n : Network) : Network :=
  n.onProcess i fun p => { p with log := p.log ++ [line] }

/-- Puts a connection of an agent process into a phase. -/
def setRun (i j : Nat) (run : AgentRun) (n : Network) : Network :=
  n.onProcess i fun p =>
    match p.body with
    | .agents plan runs => { p with body := .agents plan (runs.set j run) }
    | _ => p

/-- The link between an agent and the broker in a station. -/
def link? (n : Network) (station connection : Nat) : Option Link :=
  ((n.station? station).bind (·.broker)).bind fun b =>
    (b.services.lookup connection).map (·.link)

/-- Changes a link. -/
def onLink (station connection : Nat) (f : Link → Link) (n : Network) : Network :=
  n.onStation station (·.changeBroker (·.onLink connection f))

/-- The agent's end of a link goes away. -/
def hangUp (station connection : Nat) (n : Network) : Network :=
  n.onLink station connection fun l => { l with hasAgent := false }

/-- An agent waits.  Even without a wait it goes on a moment later. -/
def rest (i j : Nat) (wait : Span) (phase : Nat → AgentPhase) (state : Backoff.State)
    (n : Network) : Network :=
  (n.tell i ("Reconnecting in " ++ wait.toText ++ "...")).setRun i j
    { phase := phase (n.now + max 1 wait.millis), state }

/-- What an agent does after an attempt that ended so. -/
def afterAttempt (i j : Nat) (plan : AgentPlan) (state : Backoff.State) (o : Backoff.Outcome)
    (n : Network) : Network :=
  match plan.backoff.after state o with
  | .retry wait state => n.rest i j wait .resting state
  | .overflow wait => n.rest i j wait .expiring state
  | .exhausted =>
    (n.tell i ("Agent gave up: " ++ Backoff.exhaustedMessage plan.backoff.maxAttempts)).setRun i j
      { phase := .gaveUp, state }

/-- The broker that an agent wants to reach, if it can be reached. -/
def brokerFor? (n : Network) (plan : AgentPlan) : Option Nat := do
  let (address, path) ← plan.destination?
  if !n.isConnected || path ≠ "/websocket" then none
  match n.door? address with
  | some (i, .agents) => some i
  | _ => none

/-- An agent is taken in by the broker of a station. -/
def attach (i j s c : Nat) (plan : AgentPlan) (station : Station) (n : Network) : Network :=
  let id := station.broker.elim 0 (·.lastId)
  let n := n.onStation s fun _ => station.note ("New tunnel agent agent_id=" ++ toString id.toNat)
  (n.tell i ("Connected to broker url=" ++ plan.brokerUrl)).setRun i j
    { phase := .attached s c, state := plan.backoff.start }

/-- An agent tries to connect. -/
def connect (i j : Nat) (plan : AgentPlan) (state : Backoff.State) (n : Network) : Network :=
  let n := n.tell i ("Connection attempt " ++ toString (state.attempts + 1))
  match n.brokerFor? plan with
  | none => n.afterAttempt i j plan state .failed
  | some s =>
    match (n.station? s).map (·.onBroker Broker.attach) with
    | some (some c, station) => n.attach i j s c plan station
    | _ => n.afterAttempt i j plan state .failed

/-- An agent has lost its broker. -/
def lose (i j s c : Nat) (plan : AgentPlan) (state : Backoff.State) (n : Network) : Network :=
  (n.hangUp s c).afterAttempt i j plan state .dropped

/-- An agent sends its reply to the broker. -/
def sendReply (i j s c : Nat) (plan : AgentPlan) (state : Backoff.State) (r : AgentReply)
    (n : Network) : Network :=
  match (n.link? s c).map (·.sendToBroker (.ofFrame r.frame)) with
  | some (true, link) =>
    (n.onLink s c fun _ => link).setRun i j { phase := .attached s c, state }
  | _ => n.lose i j s c plan state

/-- An agent has got a frame and makes the call that it asks for. -/
def serveFrame (i j s c : Nat) (plan : AgentPlan) (state : Backoff.State) (frame : Bytes)
    (n : Network) : Network :=
  let reply (r : AgentReply) (n : Network) : Network := n.sendReply i j s c plan state r
  match (TunnelRequest.ofFrame? frame).bind (·.call?) with
  | none => reply .failed n
  | some call =>
    match n.endpoint.filter (·.authority = call.url.authority) with
    | some e =>
      let (answer, e) := e.take call
      reply (.ofResponse answer) { n with endpoint := some e }
    | none =>
      match n.request call.url.authority call.toRequest with
      | (none, n) => reply .failed n
      | (some x, n) => n.setRun i j { phase := .calling s c x, state }

/-- A connection of an agent process goes on; the flag says whether it could. -/
def runTurn (i j : Nat) (plan : AgentPlan) (run : AgentRun) (n : Network) : Bool × Network :=
  match run.phase with
  | .gaveUp => (false, n)
  | .resting until_ =>
    if until_ ≤ n.now then (true, n.connect i j plan run.state) else (false, n)
  | .expiring until_ =>
    if until_ ≤ n.now then (true, n.setRun i j { run with phase := .gaveUp }) else (false, n)
  | .attached s c =>
    match n.link? s c with
    | none => (true, n.lose i j s c plan run.state)
    | some link =>
      match link.readByAgent? with
      | none => (false, n)
      | some (arrival, link) =>
        let n := n.onLink s c fun _ => link
        match arrival with
        | .message (.text frame) | .message (.binary frame) =>
          (true, n.serveFrame i j s c plan run.state frame)
        | .message .close | .ended | .broken => (true, n.lose i j s c plan run.state)
        | .message _ => (true, n)
  | .calling s c x =>
    match n.result? x with
    | none => (false, n)
    | some answer => (true, n.sendReply i j s c plan run.state (.ofResponse answer))

/-- Ends a process all of whose agents have given up. -/
def retire (i : Nat) (n : Network) : Network :=
  n.onProcess i fun p =>
    match p.body with
    | .agents _ runs =>
      if runs.all (·.phase = .gaveUp) then p.finish { code := 1, message := some allGaveUp } else p
    | _ => p

/-- The agents of a process go on. -/
def agentsTurn (i : Nat) (n : Network) : Bool × Network :=
  match n.body? i with
  | some (.agents plan runs) =>
    let (moved, n) := (List.range runs.length).foldl (fun (moved, n) j =>
      match ((n.process? i).map (·.runs)).bind (·[j]?) with
      | none => (moved, n)
      | some run =>
        let (m, n) := n.runTurn i j plan run
        (moved || m, n)) (false, n)
    (moved, n.retire i)
  | _ => (false, n)

/-! ## Time -/

/-- Everybody who can goes on once; the flag says whether anybody could. -/
def pass (n : Network) : Bool × Network :=
  let all := List.range n.processes.length
  let n := all.foldl (fun n i => n.onStation i Station.settle) n
  let (moved, n) := n.conclude
  all.foldl (fun (moved, n) i =>
    let (m, n) := n.agentsTurn i
    (moved || m, n)) (moved, n)

/-- When something happens next by itself. -/
def nextDue? (n : Network) : Option Nat :=
  (n.processes.flatMap fun p =>
    match p.body with
    | .station s _ => s.nextDue?.toList
    | .agents _ runs => runs.filterMap fun r =>
      match r.phase with
      | .resting until_ | .expiring until_ => some until_
      | _ => none
    | .ended _ => []).min?

/-- Sets all clocks. -/
def advance (now : Nat) (n : Network) : Network :=
  let n := { n with now := max n.now now }
  (List.range n.processes.length).foldl (fun n i => n.onStation i (·.advance now)) n

/-- Lets time pass until `done` holds with nobody able to go on, or until `limit`. -/
def runUntil (done : Network → Bool) (limit : Nat) : (passes : Nat) → Network → Network
  | 0, n => n
  | passes + 1, n =>
    match n.pass with
    | (true, n) => runUntil done limit passes n
    | (false, n) =>
      if done n then n
      else
        match n.nextDue? with
        | some due =>
          if due ≤ limit then runUntil done limit passes (n.advance due) else n.advance limit
        | none => n.advance limit

/-- Lets everybody go on until all wait. -/
def settle (n : Network) : Network := n.runUntil (fun _ => true) n.now Timed.plenty

/-- Lets time pass until `done` holds, but not longer than `span` milliseconds; the flag says whether
it came to hold. -/
def await (done : Network → Bool) (span : Nat) (n : Network) : Bool × Network :=
  let n := n.runUntil done (n.now + span) Timed.plenty
  (done n, n)

/-! ## From outside -/

/-- A process is told to stop. -/
def interrupt (i : Nat) (n : Network) : Network :=
  match n.body? i with
  | some (.station ..) => n.onProcess i (·.finish { code := 0 })
  | some (.agents _ runs) =>
    let n := runs.foldl (fun n run =>
      match run.phase with
      | .attached s c | .calling s c _ =>
        (n.onLink s c fun l => (l.sendToBroker .close).2).hangUp s c
      | _ => n) n
    n.onProcess i (·.finish { code := 0 })
  | _ => n

/-- How long an answer is waited for, in milliseconds. -/
def patience : Nat := tenTo 9

/-- Sends requests at the same time and waits for their answers. -/
def fetchAll (requests : List (String × Web.Request)) (n : Network) :
    List (Option Web.Response) × Network :=
  let (ids, n) := requests.foldl (fun (ids, n) (address, r) =>
    let (id, n) := Network.request address r n
    (ids ++ [id], n)) (([] : List (Option Nat)), n)
  let isDone (n : Network) : Bool := ids.all fun id => id.all fun x => (n.result? x).isSome
  let n := (n.await isDone patience).2
  (ids.map fun id => (id.bind n.result?).join, n)

/-- Sends a request and waits for the answer. -/
def fetch (address : String) (r : Web.Request) (n : Network) : Option Web.Response × Network :=
  let (answers, n) := n.fetchAll [(address, r)]
  (answers.head?.join, n)

end Network

end MapScout
