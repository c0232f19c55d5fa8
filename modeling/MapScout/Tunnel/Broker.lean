import MapScout.Net.Address
import MapScout.Number.Decimal
import MapScout.Stock.Store
import MapScout.Text.Blank
import MapScout.Timeline
import MapScout.Tunnel.Connection
import MapScout.Tunnel.Error
import MapScout.Tunnel.Link
/-!
# Broker

Agents connect to the broker and get the next number that was never used; it numbers their proxy,
too.  Callers name an agent by its number and have a request forwarded through it.  All that goes on
at the same time is here: the calls, and for each connected agent one loop that reads from it and one
that writes to it.
-/

namespace MapScout

structure BrokerConfig where
  /-- Where agents connect. -/
  agentAddress : SocketAddress := .v4 [127, 0, 0, 1] 8081
  /-- Where callers have requests forwarded. -/
  forwardAddress : SocketAddress := .v4 [127, 0, 0, 1] 8080
  /-- How long a forwarded request may take, in milliseconds. -/
  forwardTimeout : Nat := 20000
  /-- An agent that is silent for this long is dropped, in milliseconds. -/
  pongWait : Nat := 15000
  deriving DecidableEq, Repr, Inhabited

/-- The configuration as text. -/
def BrokerConfig.describe (c : BrokerConfig) : String :=
  "BrokerConfig \x7b agent_addr: " ++ c.agentAddress.toText ++ ", forward_addr: " ++
    c.forwardAddress.toText ++ ", forward_timeout: " ++ (Span.ofMillis c.forwardTimeout).toText ++
    ", pong_wait: " ++ (Span.ofMillis c.pongWait).toText ++ " \x7d"

/-- The connected agents by ascending number: under each, where its connection is found. -/
abbrev Registry := List (ProxyId × Nat)

namespace Registry

/-- Puts a connection in, in place of the one that has its number. -/
def register (id : ProxyId) (at_ : Nat) : Registry → Registry
  | [] => [(id, at_)]
  | e :: rest =>
    if id < e.1 then (id, at_) :: e :: rest
    else if id = e.1 then (id, at_) :: rest
    else e :: register id at_ rest

/-- Takes a connection out and says whether it was there. -/
def deregister (id : ProxyId) (r : Registry) : Bool × Registry :=
  (r.any (·.1 == id), r.filter (·.1 != id))

def ids (r : Registry) : List ProxyId := r.map (·.1)

end Registry

/-- Where a call stands. -/
inductive CallStage where
  /-- Waiting for its turn. -/
  | inLine
  /-- It has filled the slot and is about to look whether the connection is open. -/
  | armed
  /-- It has found the connection open and is about to line up for the queue. -/
  | admitted
  /-- Waiting for room in the queue for the agent. -/
  | sending
  /-- Waiting for the answer. -/
  | sent
  /-- About to clear the slot and to fail. -/
  | withdrawing (e : TunnelError)
  | finished (result : Except TunnelError Bytes) (at_ : Nat)

/-- A frame on its way to an agent. -/
structure Call where
  /-- Which connection it goes through. -/
  connection : Nat
  frame : Bytes
  /-- When the answer has to be there, and how long that is after the start.  A frame without
  deadline wants no answer: it is done when it is in the queue. -/
  limit : Option (Nat × Span)
  stage : CallStage

def Call.isFinished (c : Call) : Bool := c.stage matches .finished ..

/-- The loops that serve a connected agent. -/
structure Service where
  link : Link := {}
  /-- When the agent was last heard of. -/
  heard : Nat
  /-- When the agent connected. -/
  start : Nat
  /-- How many pings have been sent. -/
  pings : Nat := 0
  isReading : Bool := true
  isWriting : Bool := true
  deriving Repr, Inhabited

/-- An agent that answers every frame with that frame and a suffix after some time. -/
structure Echo where
  suffix : Bytes
  delay : Nat
  /-- The answer being prepared, and when it is ready. -/
  pending : Option (Bytes × Nat) := none
  deriving Repr, Inhabited

/-- Who takes turns. -/
inductive BrokerOwner where
  | call (id : Nat)
  | reader (connection : Nat)
  | writer (connection : Nat)
  | echo (connection : Nat)
  deriving DecidableEq, Repr

structure Broker where
  time : Timeline BrokerOwner := {}
  config : BrokerConfig := {}
  store : Store := {}
  /-- The number that was given out last. -/
  lastId : ProxyId := 0
  registry : Registry := []
  connections : List (Nat × Connection) := []
  services : List (Nat × Service) := []
  echoes : List (Nat × Echo) := []
  calls : List (Nat × Call) := []
  nextKey : Nat := 0
  deriving Inhabited

namespace Broker

/-- Makes a broker.  The proxies of former agents are dropped, but their numbers stay used. -/
def start (config : BrokerConfig) (store : Store) : Except InventoryError Broker :=
  match store.maxProxyId with
  | (.error e, _) => .error e
  | (.ok lastId, store) =>
    match store.dropProxies with
    | (.error e, _) => .error e
    | (.ok (), store) => .ok { config, store, lastId }

def now (b : Broker) : Nat := b.time.now

def onTime (f : Timeline BrokerOwner → Timeline BrokerOwner) (b : Broker) : Broker :=
  { b with time := f b.time }

def wake (o : BrokerOwner) (b : Broker) : Broker := b.onTime (·.wake o)

/-- Has somebody woken at a moment. -/
def alarm (due : Nat) (o : BrokerOwner) (b : Broker) : Broker := b.onTime (·.setAlarm due o)

/-- Lets somebody go on before all others. -/
def again (o : BrokerOwner) (b : Broker) : Broker :=
  b.onTime fun time => (time.clearAlarms o).continue_ o

/-! ## Connections -/

def connection? (b : Broker) (c : Nat) : Option Connection := b.connections.lookup c

/-- Replaces the value under a key. -/
def replace {α : Type} (key : Nat) (a : α) (entries : List (Nat × α)) : List (Nat × α) :=
  entries.map fun (i, x) => if i = key then (i, a) else (i, x)

def onConnection (c : Nat) (f : Connection → Connection) (b : Broker) : Broker :=
  match b.connection? c with
  | none => b
  | some conn => { b with connections := replace c (f conn) b.connections }

def setService (c : Nat) (s : Service) (b : Broker) : Broker :=
  { b with services := replace c s b.services }

/-- Makes a connection that nobody serves yet. -/
def addConnection (id : ProxyId) (b : Broker) : Nat × Broker :=
  let connections := b.connections ++ [(b.nextKey, { id, since := b.now })]
  (b.nextKey, { b with connections, nextKey := b.nextKey + 1 })

/-- Finds a registered connection. -/
def lookup (id : ProxyId) (b : Broker) : Except TunnelError Nat :=
  match List.lookup id b.registry with
  | some c => .ok c
  | none => .error (.tunnelNotFound id)

def register (id : ProxyId) (c : Nat) (b : Broker) : Broker :=
  { b with registry := b.registry.register id c }

def deregister (id : ProxyId) (b : Broker) : Bool × Broker :=
  let (found, registry) := Registry.deregister id b.registry
  (found, { b with registry })

/-- Wakes the call that has the turn. -/
def wakeTurn (c : Nat) (b : Broker) : Broker :=
  match (b.connection? c).bind (·.line.head?) with
  | some id => b.wake (.call id)
  | none => b

/-- Wakes all who wait for room in the queue. -/
def wakeSenders (c : Nat) (b : Broker) : Broker :=
  ((b.connection? c).elim [] (·.senders)).foldl (fun b id => b.wake (.call id)) b

/-- Wakes the one who takes frames out of the queue. -/
def wakeTaker (c : Nat) (b : Broker) : Broker :=
  if (b.services.lookup c).isSome then b.wake (.writer c)
  else if (b.echoes.lookup c).isSome then b.wake (.echo c)
  else b

/-- Hands a frame from the agent to the request that waits for it. -/
def deliver (c : Nat) (payload : Bytes) (b : Broker) : Broker :=
  let requester := (b.connection? c).bind (·.slot)
  let b := b.onConnection c (·.deliver payload)
  requester.elim b fun id => b.wake (.call id)

/-- Marks a connection closed: its loops stop. -/
def cancel (c : Nat) (b : Broker) : Broker :=
  let b := b.onConnection c Connection.cancel
  if (b.services.lookup c).isSome then (b.wake (.reader c)).wake (.writer c) else b

/-- Clears the slot of a connection: the request that waits fails. -/
def clear (c : Nat) (b : Broker) : Broker :=
  let requester := (b.connection? c).bind (·.slot)
  let b := b.onConnection c Connection.disarm
  requester.elim b fun id => b.wake (.call id)

/-- Closes a connection.  It is marked closed before its slot is cleared, so that whoever fills the slot
afterwards finds it closed. -/
def close (c : Nat) (b : Broker) : Broker := (b.cancel c).clear c

/-- Takes the next frame for an agent out of the queue. -/
def take? (c : Nat) (b : Broker) : Option (Bytes × Broker) := do
  let (frame, conn) ← (← b.connection? c).take?
  pure (frame, (b.onConnection c fun _ => conn).wakeSenders c)

/-- Nobody takes frames for an agent any more. -/
def stopTaking (c : Nat) (b : Broker) : Broker :=
  (b.onConnection c Connection.stopTaking).wakeSenders c

/-- From now on every frame is answered with that frame and a suffix. -/
def addEcho (c : Nat) (suffix : Bytes) (delay : Nat) (b : Broker) : Broker :=
  let echoes := b.echoes ++ [(c, { suffix := suffix, delay := delay })]
  ({ b with echoes } : Broker).wake (.echo c)

/-- Whether the frames in the queue of a connection are taken by somebody in here, or lost. -/
def isServed (c : Nat) (b : Broker) : Bool :=
  (b.services.lookup c).isSome || (b.echoes.lookup c).isSome || (b.connection? c).any (!·.isTaken)

/-! ## Agents -/

/-- An agent connects.  That its proxy could not be stored does not keep it out. -/
def attach (b : Broker) : Nat × Broker :=
  let id := b.lastId + 1
  let (c, b) := ({ b with lastId := id } : Broker).addConnection id
  let b := b.register id c
  let store := (b.store.addProxy { id }).2
  let services := b.services ++ [(c, { heard := b.now, start := b.now })]
  (c, (({ b with store, services } : Broker).wake (.reader c)).wake (.writer c))

/-- An agent is gone.  Its number is never given out again and its proxy is dead. -/
def detach (c : Nat) (b : Broker) : Broker :=
  match b.connection? c with
  | none => b
  | some conn =>
    let b := (b.deregister conn.id).2
    { b with store := (b.store.saveProxy { id := conn.id, dead := true }).2 }

/-- Changes the link to an agent and lets the broker look at it. -/
def onLink (c : Nat) (f : Link → Link) (b : Broker) : Broker :=
  match b.services.lookup c with
  | none => b
  | some s => (b.setService c { s with link := f s.link }).wake (.reader c)

/-- The agent's end of the link vanishes. -/
def dropAgent (c : Nat) (b : Broker) : Broker := b.onLink c fun l => { l with hasAgent := false }

/-! ## Calls -/

def call? (b : Broker) (id : Nat) : Option Call := b.calls.lookup id

def setStage (id : Nat) (stage : CallStage) (b : Broker) : Broker :=
  { b with calls := b.calls.map fun (i, k) => if i = id then (i, { k with stage }) else (i, k) }

def addCall (k : Call) (b : Broker) : Nat × Broker :=
  (b.nextKey, { b with calls := b.calls ++ [(b.nextKey, k)], nextKey := b.nextKey + 1 })

/-- Sends a frame through a connection and waits for the answer, both within `timeout`
milliseconds. -/
def startForward (c : Nat) (frame : Bytes) (timeout : Nat) (b : Broker) : Nat × Broker :=
  let limit := some (b.now + timeout, Span.ofMillis timeout)
  let (id, b) := b.addCall { connection := c, frame, limit, stage := .inLine }
  (id, (b.onConnection c (·.lineUp id)).wake (.call id))

/-- Puts a frame into the queue of a connection. -/
def startSend (c : Nat) (frame : Bytes) (b : Broker) : Nat × Broker :=
  match b.connection? c with
  | some { isClosed := false, .. } =>
    let (id, b) := b.addCall { connection := c, frame, limit := none, stage := .sending }
    (id, (b.onConnection c (·.queueUp id)).wake (.call id))
  | conn =>
    let id := conn.elim 0 (·.id)
    b.addCall { connection := c, frame, limit := none,
                stage := .finished (.error (.disconnected id)) b.now }

def proxyIdHeader : String := "Proxy-Id"

def targetHeader : String := "Final-Host"

/-- The text of the first header of a name. -/
def headerText (headers : List Web.Header) (name : String) : String :=
  ((Web.header? (name.map Char.toLower) headers).bind Web.visibleText?).getD ""

/-- The agent that a request names. -/
def agentOf (headers : List Web.Header) : Except TunnelError ProxyId :=
  let given := headerText headers proxyIdHeader
  match Decimal.word64? (Blank.trim given) with
  | some id => .ok id
  | none => .error (.invalidProxyId given)

/-- The frame that carries a request. -/
def frameOf (method : String) (headers : List Web.Header) (body : Bytes) : Bytes :=
  (TunnelRequest.make method (headerText headers targetHeader) (headerText headers "Content-Type")
    (headerText headers "User-Agent") body).frame

/-- Forwards a request through the agent that its headers name. -/
def forward (method : String) (headers : List Web.Header) (body : Bytes) (b : Broker) :
    Nat × Broker :=
  match (agentOf headers).bind b.lookup with
  | .error e =>
    b.addCall { connection := 0, frame := [], limit := none, stage := .finished (.error e) b.now }
  | .ok c => b.startForward c (frameOf method headers body) b.config.forwardTimeout

/-- The reply to the caller of a forwarded request. -/
def replyTo : Except TunnelError Bytes → Web.Reply
  | .ok answer => { status := 200, body := answer }
  | .error e => e.reply

/-- The reply to a request that is too long to be forwarded. -/
def tooLong : Web.Reply := .text 413 "Failed to buffer the request body: length limit exceeded"

/-- Takes in a request that is to be forwarded: a reply, or the number of the call. -/
def receive (r : Web.Request) (b : Broker) : Except Web.Reply Nat × Broker :=
  if Web.bodyLimit < r.body.length then (.error (tooLong.sentFor r.method), b)
  else
    let (id, b) := b.forward r.method r.headers r.body
    (.ok id, b)

/-- The reply to a request at the agents' address that is no stream. -/
def refuse (r : Web.Request) : Web.Reply :=
  let header (name : String) : String :=
    (((Web.header? name r.headers).bind Utf8.decode?).getD "").map Char.toLower
  let bad (text : String) : Web.Reply := .text 400 text
  if r.path ≠ "/websocket" then { status := 404 }
  else if r.method ≠ "GET" && r.method ≠ "HEAD" then { status := 405, allow := ["GET", "HEAD"] }
  else if r.method = "HEAD" then .text 405 "Request method must be `GET`"
  else if ((header "connection").splitOn "upgrade").length = 1 then
    bad "Connection header did not include 'upgrade'"
  else if header "upgrade" ≠ "websocket" then bad "`Upgrade` header did not include 'websocket'"
  else if (Web.header? "sec-websocket-key" r.headers).isNone then
    bad "`Sec-WebSocket-Key` header missing"
  else if header "sec-websocket-version" ≠ "13" then
    bad "`Sec-WebSocket-Version` header did not include '13'"
  else .text 426 "WebSocket request couldn't be upgraded since no upgrade state was present"

end Broker

end MapScout
