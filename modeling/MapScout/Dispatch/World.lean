import MapScout.Dispatch.Board
import MapScout.Dispatch.Config
import MapScout.Dispatch.Task
import MapScout.Gate
import MapScout.Stock.Store
import MapScout.Timeline
/-!
# The dispatcher and its surroundings

Everything that scans share: the store, the pool, the gates, the board, the counters, the clocks and
the tasks themselves, and what can be done to a session in one go.
-/

namespace MapScout

inductive GateName where
  | login
  | call
  deriving DecidableEq, Repr

/-- Who takes turns. -/
inductive Owner where
  | task (id : Nat)
  | cooling (id : Nat)
  | pool
  | gate (g : GateName)
  deriving DecidableEq, Repr

structure World where
  time : Timeline Owner := {}
  config : DispatchConfig := {}
  store : Store := {}
  supply : ClientSupply := .scripts []
  pool : Pool Session := {}
  loginGate : Gate := { period := config.loginInterval }
  callGate : Gate := { period := config.callInterval }
  board : Board := []
  counters : Counters := {}
  /-- The operations of all clients that are logged, in order. -/
  log : List Operation := []
  tasks : List (Nat × Task) := []
  cooling : List (Nat × Cooling) := []
  nextId : Nat := 0
  /-- The wall clock at the start, in milliseconds since the start of 1970. -/
  epoch : Int := 0
  /-- What the wall clock shows; it is not read all the time. -/
  wall : Int := 0
  /-- How late a wait for the pool ends, in milliseconds.  On a clock that does not stand still, all who
  are ready go on before such a wait can end. -/
  lag : Nat := 0
  deriving Inhabited

namespace World

def now (w : World) : Nat := w.time.now

def onTime (f : Timeline Owner → Timeline Owner) (w : World) : World := { w with time := f w.time }

def wake (o : Owner) (w : World) : World := w.onTime (·.wake o)

/-- Sets the wall clock by the time that has passed. -/
def syncWall (w : World) : World := { w with wall := w.epoch + w.now }

/-- Logs an operation of a client. -/
def record (c : Client) (op : Operation) (w : World) : World :=
  if c.isLogged then { w with log := w.log ++ [op] } else w

/-! ## Tasks -/

def task? (w : World) (id : Nat) : Option Task := w.tasks.lookup id

def setTask (id : Nat) (t : Task) (w : World) : World :=
  { w with tasks := w.tasks.map fun (i, u) => if i = id then (i, t) else (i, u) }

/-- Lets a task go on in a new stage before anybody else takes a turn. -/
def proceed (id : Nat) (t : Task) (w : World) : World :=
  (w.setTask id t).onTime fun time => (time.clearAlarms (.task id)).continue_ (.task id)

/-- Ends a task. -/
def finish (id : Nat) (t : Task) (w : World) : World :=
  (w.setTask id t).onTime (·.forget (.task id))

/-- Has a task woken at a moment. -/
def alarm (due id : Nat) (w : World) : World := w.onTime (·.setAlarm due (.task id))

/-- Starts a task.  Its first turn comes after those who are ready already. -/
def spawn (t : Task) (w : World) : Nat × World :=
  (w.nextId, { w with tasks := w.tasks ++ [(w.nextId, t)], nextId := w.nextId + 1 }.wake
    (.task w.nextId))

/-! ## Gates -/

def gate (w : World) : GateName → Gate
  | .login => w.loginGate
  | .call => w.callGate

def setGate (g : GateName) (gate : Gate) (w : World) : World :=
  match g with
  | .login => { w with loginGate := gate }
  | .call => { w with callGate := gate }

/-- Wakes whoever is first in line. -/
def wakeHead (g : GateName) (w : World) : World :=
  match (w.gate g).queue.head? with
  | some id => w.wake (.task id)
  | none => w

def enterGate (g : GateName) (id : Nat) (w : World) : World := w.setGate g ((w.gate g).enter id)

def takeToken (g : GateName) (w : World) : World :=
  (w.setGate g ((w.gate g).take w.now)).wakeHead g

def leaveGate (g : GateName) (id : Nat) (w : World) : World :=
  let wasHead := (w.gate g).queue.head? == some id
  let w := w.setGate g ((w.gate g).leave id)
  if wasHead then w.wakeHead g else w

/-- Has whoever is first in line woken when the next token is due. -/
def armGate (g : GateName) (id : Nat) (w : World) : World :=
  let gate := w.gate g
  if gate.queue.head? == some id && !gate.armed then
    (w.setGate g { gate with armed := true }).onTime (·.setAlarm gate.due (.gate g))
  else w

/-! ## Pool -/

/-- Puts a session into the pool's mail. -/
def sendToPool (s : Session) (w : World) : World :=
  if w.pool.isOpen then { w with pool := w.pool.send s }.wake .pool else w

/-- Puts a session back after a rest.  A spent session is dropped, which the answer tells. -/
def checkIn (s : Session) (cooldown : Nat) (w : World) : Bool × World :=
  if s.isSpent then (false, w)
  else if cooldown = 0 then (true, w.sendToPool s)
  else
    let cooling := w.cooling ++ [(w.nextId, { session := s, span := cooldown })]
    (true, { w with cooling, nextId := w.nextId + 1 }.wake (.cooling w.nextId))

/-- The pool takes a step and wakes whom it hands a session to.  It goes on until it has nothing to
do. -/
def poolTurn (w : World) : World :=
  if w.pool.isOpen && w.pool.isReading then
    let pool := w.pool.act
    let served := (pool.handed.drop w.pool.handed.length).map (·.1)
    let w := served.foldl (fun w id => w.wake (.task id)) { w with pool }
    if pool.isBusy then w.onTime (·.continue_ .pool) else w
  else w

/-- A resting session goes back into the pool when its time has come. -/
def coolingTurn (id : Nat) (w : World) : World :=
  match w.cooling.lookup id with
  | none => w
  | some c =>
    match c.until_ with
    | none =>
      let due := w.now + c.span
      let cooling := w.cooling.map fun (i, d) =>
        if i = id then (i, { d with until_ := some due }) else (i, d)
      { w with cooling }.onTime (·.setAlarm due (.cooling id))
    | some due =>
      if due ≤ w.now then
        { w with cooling := w.cooling.filter (·.1 != id) }.sendToPool c.session
      else w

/-- Closes the pool for good. -/
def closePool (w : World) : World :=
  w.pool.held.foldl (fun w id => w.wake (.task id)) { w with pool := w.pool.close }

/-! ## Sessions -/

/-- How many sessions the pool has to itself, at rest or not. -/
def pooledCount (w : World) : Nat :=
  w.pool.buffer.length + w.pool.arrivals.length + w.cooling.length

/-- Calls the store. -/
def onStore {α : Type} (f : Store → α × Store) (w : World) : α × World :=
  let (a, store) := f w.store
  (a, { w with store })

/-- Calls the store, whatever it says. -/
def tellStore {α : Type} (f : Store → α × Store) (w : World) : World :=
  { w with store := (f w.store).2 }

def show_ (s : Session) (w : World) : World :=
  { w with board := Board.set s.username s.proxy.id w.board }

/-- A pool that starts with some sessions.  Spent ones are refused. -/
def startPool (initial : List Session) : Pool Session :=
  { buffer := initial.filter fun s => !s.isSpent }

/-- Starts a login.  It throws away the ticket that has to be thrown away. -/
def startLogin (s : Session) (w : World) : Answer × Session × World :=
  let (a, client) := s.client.startLogin
  (a, { s with mustLogin := false, client },
    w.record client (.loggedIn s.username s.proxy.id s.mustLogin w.now))

/-- Starts a map call. -/
def startMap (s : Session) (w : World) : Answer × Session × World :=
  let (a, client) := s.client.startMap
  (a, { s with client }, w.record client (.mapped s.username s.proxy.id w.now))

/-- A map call has been answered. -/
def finishMap (a : Answer) (s : Session) (w : World) : Session × World :=
  ({ s with client := s.client.finishMap a }, if s.client.isLogged then w.syncWall else w)

/-- Builds a session from a free account and a free proxy.  Without a proxy the account is released
again. -/
def provision (w : World) : Except ProvisionError Session × World :=
  match w.store.claimAccount with
  | (.error e, store) => (.error (.noAccount e), { w with store })
  | (.ok account, store) =>
    match store.claimProxy with
    | (.error e, store) =>
      (.error (.noProxy e), { w with store := (store.releaseAccount account.username).2 })
    | (.ok proxy, store) =>
      let (client, supply) := w.supply.next
      (.ok { account, proxy, client },
        { w with store, supply }.record client (.created account.username w.now))

/-- Puts a session of a free account, a free proxy and a given client straight into the pool.  Without
a proxy the account stays claimed. -/
def seed (client : Client) (w : World) : Except InventoryError Unit × World :=
  let keep (inventory : Inventory) : World := { w with store := { w.store with inventory } }
  match w.store.inventory.claimAccount? with
  | none => (.error .noAccountAvailable, w)
  | some (account, i) =>
    match i.claimProxy? with
    | none => (.error .noProxyAvailable, keep i)
    | some (proxy, i) =>
      let s : Session := { account, proxy, client }
      (.ok (), ((keep i).show_ s).sendToPool s)

/-- Notes that the proxy of a session is dead, in the session and in the store. -/
def markProxyDead (s : Session) (w : World) : Session × World :=
  let s := s.bind s.proxy.die
  (s, w.tellStore (·.saveProxy s.proxy))

/-- Gives a session another proxy in place of the one found dead, if there is a free one. -/
def swapProxy (s : Session) (w : World) : Bool × Session × World :=
  let (s, w) := w.markProxyDead s
  match w.store.claimProxy with
  | (.error _, store) => (false, s, { w with store })
  | (.ok proxy, store) =>
    let s := s.bind proxy
    (true, s, { w with store }.show_ s)

/-- Learns from the store whether the proxy of a session has died. -/
def refreshProxy (s : Session) (w : World) : Session × World :=
  if s.proxy.dead then (s, w)
  else
    match w.store.isProxyDead s.proxy.id with
    | (.ok true, store) => (s.bind s.proxy.die, { w with store })
    | (_, store) => (s, { w with store })

/-- Draws the conclusion of a failure for the account of a session. -/
def classify (s : Session) (e : ClientError) (w : World) : Session × World :=
  let condemn (account : Account) : Session × World :=
    let w := w.tellStore (·.saveAccount account)
    ({ s with account }, { w with board := w.board.remove account.username })
  match e.accountHealth with
  | .healthy => (s, w)
  | .banned => condemn { s.account with banned := true }
  | .challengeRequired => condemn { s.account with flagged := true }

/-- Drops a session for good and releases what is still of use. -/
def evict (s : Session) (w : World) : World :=
  let w := { w with board := w.board.remove s.username, counters := w.counters.countEviction }
  let w := if s.account.isUnusable then w else w.tellStore (·.releaseAccount s.username)
  if s.proxy.dead then w else w.tellStore (·.releaseProxy s.proxy.id)

end World

end MapScout
