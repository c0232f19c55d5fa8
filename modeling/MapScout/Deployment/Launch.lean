import MapScout.Deployment.Network
/-!
# Starting processes

From a command line to a running process, or to the exit code and the words it ends with.  A station
imports its accounts, loads its map and then opens its doors one after the other; the first thing that
fails is what it reports.
-/

namespace MapScout

/-- Why a process does not start. -/
inductive LaunchError where
  | settings (e : SettingsError)
  | accounts (path : String)
  | payload (path : String)
  | addressInUse
  deriving DecidableEq, Repr

namespace LaunchError

def message : LaunchError → String
  | .settings e => e.message
  | .accounts path => "Failed to import accounts from " ++ path
  | .payload path => "Failed to load mock payload " ++ path
  | .addressInUse => "Address already in use (os error 98)"

end LaunchError

namespace Station

/-- The store at the start: the accounts of a file, if one is named, and proxies that nobody
registers. -/
def stock (accountsFile : Option String) (staticProxies : Nat)
    (readFile : String → Option Bytes) : Except LaunchError Store := do
  let accounts ← match accountsFile with
    | none => pure []
    | some path =>
      match (readFile path).bind Inventory.accountsOfFile? with
      | none => .error (.accounts path)
      | some accounts => pure accounts
  let store := (({} : Store).addAccounts accounts).2
  let inventory := (List.range staticProxies).foldl
    (fun i k => i.addProxy { id := UInt64.ofNat (k + 1) }) store.inventory
  pure { store with inventory }

/-- Where the clients of a scanner come from. -/
def supply (mockPayload : Option String) (readFile : String → Option Bytes) :
    Except LaunchError ClientSupply :=
  match mockPayload with
  | none => .ok (.canned {})
  | some path =>
    match (readFile path).bind ClientSupply.payloadOfFile? with
    | none => .error (.payload path)
    | some payload => .ok (.canned payload)

/-- Adds a broker. -/
def withBroker (config : BrokerConfig) (now : Nat) (s : Station) : Station :=
  match Broker.start config s.store with
  | .error _ => s
  | .ok b => { s with store := b.store, broker := some (b.onTime fun time => { time with now }) }

/-- Adds a scanner, which starts to fill its pool. -/
def withScanner (config : DispatchConfig) (supply : ClientSupply) (secret : String)
    (initialSessions now : Nat) (epoch : Int) (s : Station) : Station :=
  let w : World :=
    { time := { now }, config, supply, epoch, lag := 1,
      loginGate := { period := config.loginInterval, due := now },
      callGate := { period := config.callInterval, due := now } }
  let w := w.syncWall
  if initialSessions = 0 then { s with world := some w, secret }
  else
    let (id, w) := w.spawn (.preload { remaining := initialSessions })
    { s with world := some w, secret, preload := some (id, initialSessions) }

/-- A station for a command that needs one. -/
def launch (command : Command) (settings : Settings) (readFile : String → Option Bytes) (now : Nat)
    (epoch : Int) : Except LaunchError Station := do
  let sweepInterval := settings.sweepInterval.millis
  let empty : Station := { sweepInterval, nextSweep := now + sweepInterval }
  let scanner (s : Station) : Except LaunchError Station := do
    let supply ← supply settings.mockPayload readFile
    pure (s.withScanner settings.dispatchConfig supply settings.secret
      settings.initialSessions.toNat now epoch)
  let broker (s : Station) : Station := s.withBroker settings.brokerConfig now
  match command with
  | .broker | .agent _ => pure (broker empty)
  | .serve =>
    let store ← stock settings.accountsFile 0 readFile
    scanner (broker { empty with store })
  | .scanner staticProxies =>
    let store ← stock settings.accountsFile staticProxies readFile
    scanner { empty with store }

/-- The doors of a station in the order in which they are opened. -/
def doors (settings : Settings) (s : Station) : List (SocketAddress × Door) :=
  (if s.broker.isSome then
      [(settings.agentAddress, .agents), (settings.forwardAddress, .forward)] else []) ++
    if s.world.isSome then [(settings.scannerAddress, .scanner)] else []

end Station

/-- An agent process that starts at a given moment. -/
def AgentPlan.body (plan : AgentPlan) (now : Nat) : Body :=
  .agents plan (List.replicate plan.connections { phase := .resting now, state := plan.backoff.start })

namespace Network

/-- Opens doors one after the other; addresses may not be in use.  A port of zero is never in use and
never found. -/
def open_ (taken : List String) :
    List (SocketAddress × Door) → Except LaunchError (List (String × Door))
  | [] => .ok []
  | (address, door) :: rest =>
    let text := address.toText
    if address.port = 0 then open_ taken rest
    else if taken.contains text then .error .addressInUse
    else do
      let doors ← open_ (text :: taken) rest
      pure ((text, door) :: doors)

/-- Starts a station. -/
def launchStation (inv : Invocation) (readFile : String → Option Bytes) (n : Network) :
    Except LaunchError Body := do
  let settings ← match Settings.load readFile inv.settings inv.settingsFile with
    | .ok settings => pure settings
    | .error e => .error (.settings e)
  let s ← Station.launch inv.command settings readFile n.now n.epoch
  let doors ← open_ n.listening (s.doors settings)
  pure (.station s doors)

/-- The body of the process that an invocation starts. -/
def launch (inv : Invocation) (readFile : String → Option Bytes) (n : Network) : Body :=
  match inv.command with
  | .agent plan =>
    plan.body n.now
  | _ =>
    match n.launchStation inv readFile with
    | .ok body => body
    | .error e => .ended { code := 1, message := some e.message }

/-- The body of the process that a command line starts. -/
def run (env : List (String × String)) (args : List String) (readFile : String → Option Bytes)
    (n : Network) : Body :=
  match CommandLine.readInvocation env args with
  | .error halt => .ended { code := halt.exitCode }
  | .ok inv => n.launch inv readFile

/-- Adds a process and tells its number. -/
def spawn (body : Body) (n : Network) : Nat × Network :=
  (n.processes.length, { n with processes := n.processes ++ [{ body }] })

end Network

end MapScout
