import MapScout.Dispatch.World
/-!
# Turns

How a task goes on.  A turn is one small step: the task finds what it waits for and moves to its next
stage, or finds its deadline passed, or goes on waiting.  What it waits for is looked at before the
deadline, so that something that comes just in time has come in time.
-/

namespace MapScout.World

/-! ## Logging in -/

/-- How a turn of a login procedure ends. -/
inductive LoginStep where
  | blocked
  | moved (s : Session) (wait : LoginWait)
  | succeeded (s : Session)
  | failed (s : Session) (f : Failure)

/-- Waits for a token of a gate no longer than until `deadline`. -/
def awaitToken (g : GateName) (deadline id : Nat) (w : World) : World :=
  (w.armGate g id).alarm deadline id

/-- A turn of a login procedure.  A ticket that is rejected is thrown away by a second login. -/
def loginTurn (id deadline : Nat) (s : Session) (wait : LoginWait) (w : World) : LoginStep × World :=
  match wait with
  | .token t =>
    if (w.gate .login).canTake id w.now then
      let (a, s, w) := (w.takeToken .login).startLogin s
      (.moved s (.answer t a (w.now + a.delay)), w)
    else if deadline ≤ w.now then (.failed s .deadline, w.leaveGate .login id)
    else (.blocked, w.awaitToken .login deadline id)
  | .answer t a due =>
    if due ≤ w.now then
      let s := { s with client := s.client.finishLogin a }
      match a.failure, t with
      | none, _ => (.succeeded s, w)
      | some .invalidAuthToken, .first =>
        (.moved s.requireLogin (.token .forced), w.enterGate .login id)
      | some e, _ => (.failed s (.client e), w)
    else if deadline ≤ w.now then (.failed s .deadline, w)
    else (.blocked, (w.alarm due id).alarm deadline id)

/-! ## Scans -/

/-- Ends a scan and counts how it went. -/
def finishScan (id : Nat) (scan : Scan) (result : Except ScanError (List MapObject)) (w : World) :
    World :=
  let counters := match result with
    | .ok _ => w.counters
    | .error .busy => w.counters.countBusy
    | .error .timeout => w.counters.countTimeout.countFailure
    | .error _ => w.counters.countFailure
  { w with counters }.finish id (.scan { scan with stage := .finished result w.now })

/-- Puts the session of a scan back into the pool, or drops it if it is of no more use. -/
def disposeOf (s : Session) (w : World) : World :=
  let (s, w) := w.refreshProxy s
  if s.isSpent then w.evict s else (w.checkIn s w.config.cooldown).2

/-- Ends a scan that held a session: what was found is stored and the session goes its way. -/
def conclude (id : Nat) (scan : Scan) (s : Session) (result : Except ScanError MapPayload)
    (w : World) : World :=
  let result := result.map fun payload =>
    (Sighting.ofPayload? payload (.ofMillis w.wall)).getD []
  let w := match result with
    | .ok (o :: os) => w.tellStore (·.addObjects (o :: os))
    | _ => w
  (w.disposeOf s).finishScan id scan result

/-- The failure that a scan reports for a failure of its client.  A ticket rejected even so has to be
thrown away before the session is used again. -/
def scanError (s : Session) (e : ClientError) : ScanError × Session :=
  match e.accountHealth, e with
  | .banned, _ => (.accountBanned s.username, s)
  | .challengeRequired, _ => (.accountFlagged s.username, s)
  | .healthy, .proxyDead => (.proxyDead s.proxy.id, s)
  | .healthy, .invalidAuthToken => (.authInvalid, s.requireLogin)
  | .healthy, e => (if e.isTransient then .unstable e else .client e, s)

/-- Ends a scan after its last attempt.  A failure at or after the deadline is a timeout. -/
def concludeAttempt (id : Nat) (scan : Scan) (s : Session) (outcome : Except Failure MapPayload)
    (w : World) : World :=
  match outcome with
  | .ok payload => w.conclude id scan s (.ok payload)
  | .error f =>
    match f with
    | .deadline => w.conclude id scan s (.error .timeout)
    | .client e =>
      if scan.deadline ≤ w.now then w.conclude id scan s (.error .timeout)
      else
        let (e, s) := scanError s e
        w.conclude id scan s (.error e)

/-- Lets a scan go on with a session. -/
def work (id : Nat) (scan : Scan) (s : Session) (attempt : Attempt) (wait : ScanWait) (w : World) :
    World :=
  w.proceed id (.scan { scan with stage := .working s attempt wait })

/-- Lines up for the map call. -/
def lineUpForCall (id : Nat) (scan : Scan) (s : Session) (attempt : Attempt) (w : World) : World :=
  (w.enterGate .call id).work id scan s attempt .callToken

/-- Begins an attempt: a login if the session needs one, then the map call. -/
def beginAttempt (id : Nat) (scan : Scan) (s : Session) (attempt : Attempt) (w : World) : World :=
  if s.isLoggedIn then w.lineUpForCall id scan s attempt
  else (w.enterGate .login id).work id scan s attempt (.login (.token .first))

/-- After the first attempts: the account is judged, and an invalid platform request earns one more
map call if there is time. -/
def afterAttempts (id : Nat) (scan : Scan) (s : Session) (outcome : Except Failure MapPayload)
    (w : World) : World :=
  match outcome with
  | .error (.client e) =>
    let (s, w) := w.classify s e
    if e = .invalidPlatformRequest ∧ w.now < scan.deadline then w.lineUpForCall id scan s .repeated
    else w.concludeAttempt id scan s outcome
  | _ => w.concludeAttempt id scan s outcome

/-- What becomes of a scan when an attempt is over. -/
def afterAttempt (id : Nat) (scan : Scan) (s : Session) (attempt : Attempt)
    (outcome : Except Failure MapPayload) (w : World) : World :=
  match attempt with
  | .first =>
    if outcome matches .error (.client .proxyDead) then
      if scan.deadline ≤ w.now then
        let (s, w) := w.markProxyDead s
        w.conclude id scan s (.error .timeout)
      else
        match w.swapProxy s with
        | (true, s, w) => w.beginAttempt id scan s .swapped
        | (false, s, w) => w.conclude id scan s (.error .busy)
    else w.afterAttempts id scan s outcome
  | .swapped =>
    let (s, w) := if outcome matches .error (.client .proxyDead) then w.markProxyDead s else (s, w)
    w.afterAttempts id scan s outcome
  | .repeated =>
    match outcome with
    | .error (.client e) =>
      let (s, w) := if e = .proxyDead then w.markProxyDead s else (s, w)
      let (s, w) := w.classify s e
      w.concludeAttempt id scan s outcome
    | _ => w.concludeAttempt id scan s outcome

/-- Goes to work with the session that a scan has got. -/
def beginWork (id : Nat) (scan : Scan) (s : Session) (w : World) : World :=
  (w.record s.client (.moved s.username scan.place w.now)).beginAttempt id scan s .first

/-- A scan has got a pooled session.  If its proxy has died meanwhile it needs another one. -/
def acquire (id : Nat) (scan : Scan) (s : Session) (w : World) : World :=
  let (s, w) := w.refreshProxy s
  if s.proxy.dead then
    match w.swapProxy s with
    | (true, s, w) => w.beginWork id scan s
    | (false, s, w) => (w.evict s).finishScan id scan (.error .busy)
  else w.beginWork id scan s

/-- A scan has waited for a pooled session in vain and builds one. -/
def acquireNew (id : Nat) (scan : Scan) (w : World) : World :=
  match w.provision with
  | (.ok s, w) => (w.show_ s).beginWork id scan s
  | (.error _, w) => w.finishScan id scan (.error .busy)

/-- Asks the pool for a session. -/
def requestSession (id : Nat) (w : World) : World :=
  { w with pool := w.pool.request id }.wake .pool

/-- A turn of a scan that holds a session. -/
def workTurn (id : Nat) (scan : Scan) (s : Session) (attempt : Attempt) (wait : ScanWait)
    (w : World) : World :=
  match wait with
  | .login wait =>
    match w.loginTurn id scan.deadline s wait with
    | (.blocked, w) => w
    | (.moved s wait, w) => w.work id scan s attempt (.login wait)
    | (.succeeded s, w) => w.lineUpForCall id scan s attempt
    | (.failed s f, w) => w.afterAttempt id scan s attempt (.error f)
  | .callToken =>
    if (w.gate .call).canTake id w.now then
      let (a, s, w) := (w.takeToken .call).startMap s
      w.work id scan s attempt (.call a (w.now + a.delay))
    else if scan.deadline ≤ w.now then
      (w.leaveGate .call id).afterAttempt id scan s attempt (.error .deadline)
    else w.awaitToken .call scan.deadline id
  | .call a due =>
    if due ≤ w.now then
      let (s, w) := w.finishMap a s
      let outcome := match a.failure with
        | none => .ok a.payload
        | some .newRpcUrl => .ok {}
        | some e => .error (.client e)
      w.afterAttempt id scan s attempt outcome
    else if scan.deadline ≤ w.now then w.afterAttempt id scan s attempt (.error .deadline)
    else (w.alarm due id).alarm scan.deadline id

def scanTurn (id : Nat) (scan : Scan) (w : World) : World :=
  match scan.stage with
  | .planned start =>
    if start ≤ w.now then
      let scan := { scan with deadline := w.now + w.config.requestTimeout }
      let w := { w with counters := w.counters.countScan }
      if w.pool.isOpen then
        (w.requestSession id).proceed id
          (.scan { scan with stage := .checkout (w.now + w.config.checkoutTimeout + w.lag) })
      else w.finishScan id scan (.error .poolClosed)
    else w.alarm start id
  | .checkout until_ =>
    match w.pool.collect? id with
    | some (s, pool) => { w with pool }.acquire id scan s
    | none =>
      if !w.pool.isOpen then w.finishScan id scan (.error .poolClosed)
      else if until_ ≤ w.now then w.proceed id (.scan { scan with stage := .leaving })
      else w.alarm until_ id
  | .leaving =>
    match w.pool.leave id with
    | (some s, pool) => { w with pool }.acquire id scan s
    | (none, pool) => { w with pool }.acquireNew id scan
  | .working s attempt wait => w.workTurn id scan s attempt wait
  | .finished .. => w

/-! ## Preloads -/

/-- Begins the login of a preloaded session. -/
def beginPreloadLogin (id : Nat) (p : Preload) (s : Session) (swapped : Bool) (w : World) : World :=
  (w.enterGate .login id).proceed id
    (.preload { p with stage := .login s swapped (w.now + preloadLoginTimeout) (.token .first) })

/-- The login of a preloaded session is over.  The session goes into the pool unless it is spent,
even if the login failed. -/
def afterPreloadLogin (id : Nat) (p : Preload) (s : Session) (f : Option Failure) (w : World) :
    World :=
  let (s, w) := match f with
    | some (.client e) => w.classify s e
    | _ => (s, w)
  if s.isSpent then
    (w.evict s).proceed id (.preload { p with stage := .next })
  else
    (w.sendToPool s).proceed id (.preload { p with queued := p.queued + 1, stage := .next })

def preloadTurn (id : Nat) (p : Preload) (w : World) : World :=
  match p.stage with
  | .next =>
    if p.remaining = 0 then w.finish id (.preload { p with stage := .finished w.now })
    else
      match w.provision with
      | (.error _, w) => w.finish id (.preload { p with stage := .finished w.now })
      | (.ok s, w) =>
        (w.show_ s).beginPreloadLogin id { p with remaining := p.remaining - 1 } s false
  | .login s swapped deadline wait =>
    match w.loginTurn id deadline s wait with
    | (.blocked, w) => w
    | (.moved s wait, w) =>
      w.proceed id (.preload { p with stage := .login s swapped deadline wait })
    | (.succeeded s, w) => w.afterPreloadLogin id p s none
    | (.failed s f, w) =>
      if f = .client .proxyDead ∧ swapped = false then
        match w.swapProxy s with
        | (true, s, w) => w.beginPreloadLogin id p s true
        | (false, s, w) => w.afterPreloadLogin id p s (some f)
      else w.afterPreloadLogin id p s (some f)
  | .finished _ => w

/-! ## Checkouts -/

def checkoutTurn (id : Nat) (c : Checkout) (w : World) : World :=
  let finish (result : Except PoolError Session) (w : World) : World :=
    w.finish id (.checkout { c with stage := .finished result w.now })
  match c.stage with
  | .planned =>
    if w.pool.isOpen then
      (w.requestSession id).proceed id (.checkout { c with stage := .waiting (w.now + c.timeout + w.lag) })
    else finish (.error .closed) w
  | .waiting until_ =>
    match w.pool.collect? id with
    | some (s, pool) => finish (.ok s) { w with pool }
    | none =>
      if !w.pool.isOpen then finish (.error .closed) w
      else if until_ ≤ w.now then w.proceed id (.checkout { c with stage := .leaving })
      else w.alarm until_ id
  | .leaving =>
    match w.pool.leave id with
    | (some s, pool) => finish (.ok s) { w with pool }
    | (none, pool) => finish (.error (.timeout (.ofMillis c.timeout))) { w with pool }
  | .finished .. => w

/-! ## All turns -/

/-- The turn of one part of the world. -/
def turn (o : Owner) (w : World) : World :=
  match o with
  | .pool => w.poolTurn
  | .cooling id => w.coolingTurn id
  | .gate g => w.wakeHead g
  | .task id =>
    match w.task? id with
    | none => w
    | some (.scan s) => w.scanTurn id s
    | some (.preload p) => w.preloadTurn id p
    | some (.checkout c) => w.checkoutTurn id c

instance : Timed World Owner where
  time := World.time
  setTime t w := { w with time := t }
  turn := World.turn

/-- Closes the pool `span` milliseconds from now, before anybody has a turn at that moment. -/
def closePoolAfter (span : Nat) (w : World) : World :=
  let w := if span = 0 then w
    else
      let w := (Timed.await (fun _ => false) (span - 1) w).2
      w.onTime (·.advance (w.now + 1))
  Timed.settle Timed.plenty w.closePool

/-- Takes a task out of the world where it waits.  The session it holds is lost. -/
def abandon (id : Nat) (w : World) : World :=
  let w := match w.task? id with
    | some (.scan { stage := .checkout _, .. }) => { w with pool := w.pool.giveUp id }
    | some (.scan { stage := .leaving, .. }) => { w with pool := w.pool.giveUp id }
    | some (.checkout { stage := .waiting _, .. }) => { w with pool := w.pool.giveUp id }
    | some (.checkout { stage := .leaving, .. }) => { w with pool := w.pool.giveUp id }
    | some (.scan { stage := .working _ _ (.login (.token _)), .. }) => w.leaveGate .login id
    | some (.preload { stage := .login _ _ _ (.token _), .. }) => w.leaveGate .login id
    | some (.scan { stage := .working _ _ .callToken, .. }) => w.leaveGate .call id
    | _ => w
  { w with tasks := w.tasks.filter (·.1 != id) }.onTime (·.forget (.task id))

end MapScout.World
