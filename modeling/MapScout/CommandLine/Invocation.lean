import MapScout.Agent.Backoff
import MapScout.CommandLine.Flag
import MapScout.Settings
/-!
# Invocations

The commands of the program and what can be said with each.  Settings may stand before or after the
command.
-/

namespace MapScout

/-- What an agent process is to do. -/
structure AgentPlan where
  /-- Where the broker is. -/
  brokerUrl : String := "ws://127.0.0.1:8081/websocket"
  /-- How many connections it keeps; at least one. -/
  connections : Nat := 1
  backoff : Backoff := {}
  deriving DecidableEq, Repr

namespace AgentPlan

/-- The plan of one connection as text. -/
def describe (p : AgentPlan) : String :=
  "AgentConfig \x7b broker_url: \"" ++ p.brokerUrl ++ "\", max_reconnect_attempts: " ++
    toString p.backoff.maxAttempts ++ ", initial_delay: " ++ p.backoff.initial.toText ++
    ", max_delay: " ++ p.backoff.longest.toText ++ " \x7d"

/-- The address and the path that the broker's URL names. -/
def destination? (p : AgentPlan) : Option (String × String) :=
  match p.brokerUrl.toList with
  | 'w' :: 's' :: ':' :: '/' :: '/' :: rest =>
    let isEnd (c : Char) : Bool := c = '/' || c = '?' || c = '#'
    let address := rest.takeWhile fun c => !isEnd c
    let path := (rest.dropWhile fun c => !isEnd c).takeWhile fun c => c != '?' && c != '#'
    some (String.ofList address, if path.isEmpty then "/" else String.ofList path)
  | _ => none

end AgentPlan

inductive Command where
  /-- Broker and scanner over one inventory. -/
  | serve
  | broker
  /-- The scanner alone, with as many proxies that nobody registers. -/
  | scanner (staticProxies : Nat)
  | agent (plan : AgentPlan)
  deriving DecidableEq, Repr

structure Invocation where
  command : Command
  verbose : Bool := false
  /-- The settings given on the command line and in the environment. -/
  settings : SettingsLayer := {}
  settingsFile : Option String := none
  deriving DecidableEq, Repr

namespace CommandLine

def helpFlag : Flag := { name := "help", role := .help, letter := some 'h' }

def versionFlag : Flag := { name := "version", role := .version, letter := some 'V' }

def verboseFlag : Flag := { name := "verbose", role := .switch, letter := some 'v' }

/-- The flags for settings, in order. -/
def settingsFlags : List Flag :=
  let setting (name variable_ : String) (role : Role) : Flag :=
    { name, role, variable_ := some ("FLEET_" ++ variable_) }
  [{ setting "config" "CONFIG" .path with letter := some 'c' },
    setting "agent-addr" "AGENT_ADDR" .address,
    setting "forward-addr" "FORWARD_ADDR" .address,
    setting "scanner-addr" "SCANNER_ADDR" .address,
    setting "secret" "SECRET" .text,
    setting "accounts-file" "ACCOUNTS_FILE" .path,
    setting "mock-payload" "MOCK_PAYLOAD" .path,
    setting "initial-sessions" "INITIAL_SESSIONS" .count,
    setting "scan-delay-secs" "SCAN_DELAY" .count,
    setting "call-interval-ms" "CALL_INTERVAL_MS" .count,
    setting "login-interval-ms" "LOGIN_INTERVAL_MS" .count,
    setting "checkout-timeout-secs" "CHECKOUT_TIMEOUT" .count,
    setting "request-timeout-secs" "REQUEST_TIMEOUT" .count,
    setting "forward-timeout-secs" "FORWARD_TIMEOUT" .count,
    setting "sweep-interval-secs" "SWEEP_INTERVAL" .count]

/-- The flags that may stand anywhere. -/
def commonFlags : List Flag := verboseFlag :: settingsFlags

/-- The flags of a command of its own. -/
def flagsOf : String → List Flag
  | "scanner" =>
    [{ name := "static-proxies", role := .count, variable_ := some "FLEET_STATIC_PROXIES" }]
  | "agent" =>
    [{ name := "broker", role := .text, variable_ := some "FLEET_BROKER_URL" },
      { name := "connections", role := .count, variable_ := some "FLEET_AGENT_CONNECTIONS" },
      { name := "max-reconnect-attempts", role := .count },
      { name := "reconnect-delay", role := .count },
      { name := "max-reconnect-delay", role := .count }]
  | _ => []

def commandNames : List String := ["serve", "broker", "scanner", "agent"]

namespace Reading

def text? (r : Reading) (name : String) : Option String :=
  match r.value? name with
  | some (.text s) => some s
  | _ => none

def address? (r : Reading) (name : String) : Option SocketAddress :=
  match r.value? name with
  | some (.address a) => some a
  | _ => none

def count? (r : Reading) (name : String) : Option UInt64 :=
  match r.value? name with
  | some (.count n) => some n
  | _ => none

/-- A number of seconds. -/
def seconds? (r : Reading) (name : String) : Option Span :=
  (r.count? name).map fun n => .ofSeconds n.toNat

/-- A number of milliseconds. -/
def millis? (r : Reading) (name : String) : Option Span :=
  (r.count? name).map fun n => .ofMillis n.toNat

/-- The settings that are given. -/
def settings (r : Reading) : SettingsLayer where
  agentAddress := r.address? "agent-addr"
  forwardAddress := r.address? "forward-addr"
  scannerAddress := r.address? "scanner-addr"
  secret := r.text? "secret"
  accountsFile := r.text? "accounts-file"
  mockPayload := r.text? "mock-payload"
  initialSessions := r.count? "initial-sessions"
  scanDelay := r.seconds? "scan-delay-secs"
  callInterval := r.millis? "call-interval-ms"
  loginInterval := r.millis? "login-interval-ms"
  checkoutTimeout := r.seconds? "checkout-timeout-secs"
  requestTimeout := r.seconds? "request-timeout-secs"
  forwardTimeout := r.seconds? "forward-timeout-secs"
  sweepInterval := r.seconds? "sweep-interval-secs"

def number (r : Reading) (name : String) (default : Nat) : Nat :=
  ((r.count? name).map (·.toNat)).getD default

/-- What an agent process is told to do. -/
def agentPlan (r : Reading) : AgentPlan :=
  let d : AgentPlan := {}
  { brokerUrl := (r.text? "broker").getD d.brokerUrl
    connections := max 1 (r.number "connections" d.connections)
    backoff := {
      maxAttempts := r.number "max-reconnect-attempts" d.backoff.maxAttempts
      initial := (r.seconds? "reconnect-delay").getD d.backoff.initial
      longest := (r.seconds? "max-reconnect-delay").getD d.backoff.longest } }

/-- The command with a name. -/
def command (r : Reading) : String → Command
  | "broker" => .broker
  | "scanner" => .scanner (r.number "static-proxies" 0)
  | "agent" => .agent r.agentPlan
  | _ => .serve

end Reading

/-- Whether help can be had on what these words name. -/
def isTopic : List String → Bool
  | [] => true
  | [w] => w = "help" || commandNames.contains w
  | ["help", w] => commandNames.contains w
  | _ => false

/-- Reads flags alone, without a command. -/
def readSettings (env : List (String × String)) (args : List String) :
    Except Halt (SettingsLayer × Option String) := do
  let flags := settingsFlags ++ [helpFlag]
  let (r, _) ← Reading.words flags [] {} args
  let r ← r.complete flags env
  pure (r.settings, r.text? "config")

/-- Reads a whole command line. -/
def readInvocation (env : List (String × String)) (args : List String) :
    Except Halt Invocation := do
  let flags := commonFlags ++ [helpFlag, versionFlag]
  let (outer, command) ← Reading.words flags ("help" :: commandNames) {} args
  match command with
  | none =>
    let _ ← outer.complete flags env
    .error (.misuse .missingCommand)
  | some ("help", topic) =>
    .error (if isTopic topic then .help else .misuse .unknownCommand)
  | some (name, rest) =>
    let inner := commonFlags ++ flagsOf name ++ [helpFlag]
    let (r, _) ← Reading.words inner [] {} rest
    let r ← r.complete inner env
    let r := r.within (← outer.complete flags env)
    pure { command := r.command name, verbose := (r.value? "verbose").isSome,
           settings := r.settings, settingsFile := r.text? "config" }

end CommandLine

end MapScout
