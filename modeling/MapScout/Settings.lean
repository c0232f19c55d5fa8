import MapScout.Dispatch.Config
import MapScout.Json.Record
import MapScout.Net.Address
import MapScout.Span
import MapScout.Tunnel.Broker
/-!
# Settings

What the services need to know.  Each value may be given on the command line or in the environment,
or else in a settings file, and has a default.
-/

namespace MapScout

/-- Values that are given somewhere. -/
structure SettingsLayer where
  agentAddress : Option SocketAddress := none
  forwardAddress : Option SocketAddress := none
  scannerAddress : Option SocketAddress := none
  secret : Option String := none
  accountsFile : Option String := none
  mockPayload : Option String := none
  initialSessions : Option UInt64 := none
  scanDelay : Option Span := none
  callInterval : Option Span := none
  loginInterval : Option Span := none
  checkoutTimeout : Option Span := none
  requestTimeout : Option Span := none
  forwardTimeout : Option Span := none
  sweepInterval : Option Span := none
  deriving DecidableEq, Repr

structure Settings where
  agentAddress : SocketAddress := ({} : BrokerConfig).agentAddress
  forwardAddress : SocketAddress := ({} : BrokerConfig).forwardAddress
  scannerAddress : SocketAddress := .v4 [127, 0, 0, 1] 8100
  secret : String := ""
  /-- Where the accounts are listed. -/
  accountsFile : Option String := none
  /-- Where the map is that is shown instead of a real one. -/
  mockPayload : Option String := none
  /-- How many sessions are logged in before they are needed. -/
  initialSessions : UInt64 := 1
  scanDelay : Span := .ofMillis ({} : DispatchConfig).cooldown
  callInterval : Span := .ofMillis ({} : DispatchConfig).callInterval
  loginInterval : Span := .ofMillis ({} : DispatchConfig).loginInterval
  checkoutTimeout : Span := .ofMillis ({} : DispatchConfig).checkoutTimeout
  requestTimeout : Span := .ofMillis ({} : DispatchConfig).requestTimeout
  forwardTimeout : Span := .ofMillis ({} : BrokerConfig).forwardTimeout
  sweepInterval : Span := .ofSeconds 300
  deriving DecidableEq, Repr

namespace SettingsLayer

/-- The values of a layer, and those of the layer below where it has none. -/
def orElse (upper lower : SettingsLayer) : SettingsLayer where
  agentAddress := upper.agentAddress <|> lower.agentAddress
  forwardAddress := upper.forwardAddress <|> lower.forwardAddress
  scannerAddress := upper.scannerAddress <|> lower.scannerAddress
  secret := upper.secret <|> lower.secret
  accountsFile := upper.accountsFile <|> lower.accountsFile
  mockPayload := upper.mockPayload <|> lower.mockPayload
  initialSessions := upper.initialSessions <|> lower.initialSessions
  scanDelay := upper.scanDelay <|> lower.scanDelay
  callInterval := upper.callInterval <|> lower.callInterval
  loginInterval := upper.loginInterval <|> lower.loginInterval
  checkoutTimeout := upper.checkoutTimeout <|> lower.checkoutTimeout
  requestTimeout := upper.requestTimeout <|> lower.requestTimeout
  forwardTimeout := upper.forwardTimeout <|> lower.forwardTimeout
  sweepInterval := upper.sweepInterval <|> lower.sweepInterval

/-- The settings that a layer gives, with defaults where it has no value. -/
def toSettings (l : SettingsLayer) : Settings :=
  let d : Settings := {}
  { agentAddress := l.agentAddress.getD d.agentAddress
    forwardAddress := l.forwardAddress.getD d.forwardAddress
    scannerAddress := l.scannerAddress.getD d.scannerAddress
    secret := l.secret.getD d.secret
    accountsFile := l.accountsFile
    mockPayload := l.mockPayload
    initialSessions := l.initialSessions.getD d.initialSessions
    scanDelay := l.scanDelay.getD d.scanDelay
    callInterval := l.callInterval.getD d.callInterval
    loginInterval := l.loginInterval.getD d.loginInterval
    checkoutTimeout := l.checkoutTimeout.getD d.checkoutTimeout
    requestTimeout := l.requestTimeout.getD d.requestTimeout
    forwardTimeout := l.forwardTimeout.getD d.forwardTimeout
    sweepInterval := l.sweepInterval.getD d.sweepInterval }

def fieldNames : List String :=
  ["agent_addr", "forward_addr", "scanner_addr", "secret", "accounts_file", "mock_payload",
    "initial_sessions", "scan_delay_secs", "call_interval_ms", "login_interval_ms",
    "checkout_timeout_secs", "request_timeout_secs", "forward_timeout_secs", "sweep_interval_secs"]

/-- Reads the values that a settings file gives.  All may be left out, none may be unknown. -/
def ofJson? (j : Json) : Option SettingsLayer := do
  let r ← j.closedRecord? fieldNames
  let field {α : Type} (name : String) (value? : Json → Option α) : Option (Option α) :=
    r.optional name (Json.option? value?) none
  let address (name : String) := field name fun j => j.text?.bind SocketAddress.ofText?
  let seconds (name : String) := field name fun j => j.uint64?.map fun n => Span.ofSeconds n.toNat
  let millis (name : String) := field name fun j => j.uint64?.map fun n => Span.ofMillis n.toNat
  let agentAddress ← address "agent_addr"
  let forwardAddress ← address "forward_addr"
  let scannerAddress ← address "scanner_addr"
  let secret ← field "secret" Json.text?
  let accountsFile ← field "accounts_file" Json.text?
  let mockPayload ← field "mock_payload" Json.text?
  let initialSessions ← field "initial_sessions" Json.uint64?
  let scanDelay ← seconds "scan_delay_secs"
  let callInterval ← millis "call_interval_ms"
  let loginInterval ← millis "login_interval_ms"
  let checkoutTimeout ← seconds "checkout_timeout_secs"
  let requestTimeout ← seconds "request_timeout_secs"
  let forwardTimeout ← seconds "forward_timeout_secs"
  let sweepInterval ← seconds "sweep_interval_secs"
  pure { agentAddress, forwardAddress, scannerAddress, secret, accountsFile, mockPayload,
         initialSessions, scanDelay, callInterval, loginInterval, checkoutTimeout, requestTimeout,
         forwardTimeout, sweepInterval }

end SettingsLayer

/-- What can be wrong with a settings file. -/
inductive SettingsError where
  /-- It is not there or no text. -/
  | unreadable (path : String)
  /-- It does not hold settings. -/
  | malformed (path : String)
  deriving DecidableEq, Repr

namespace SettingsError

def message : SettingsError → String
  | .unreadable path => "Failed to read settings file: " ++ path
  | .malformed path => "Failed to parse settings file: " ++ path

/-- What was being done with the file. -/
def stage : SettingsError → String
  | .unreadable _ => "read"
  | .malformed _ => "parse"

end SettingsError

namespace Settings

/-- Reads a settings file, given a way to read files. -/
def readLayer (readFile : String → Option Bytes) (path : String) :
    Except SettingsError SettingsLayer :=
  match (readFile path).filter fun bs => (Utf8.decode? bs).isSome with
  | none => .error (.unreadable path)
  | some bs =>
    match (Json.ofBytes? bs).bind SettingsLayer.ofJson? with
    | none => .error (.malformed path)
    | some l => .ok l

/-- The settings under a layer of given values and a settings file, if there is one. -/
def load (readFile : String → Option Bytes) (given : SettingsLayer) (file : Option String) :
    Except SettingsError Settings :=
  match file with
  | none => .ok given.toSettings
  | some path => (readLayer readFile path).map fun l => (given.orElse l).toSettings

def dispatchConfig (s : Settings) : DispatchConfig where
  cooldown := s.scanDelay.millis
  checkoutTimeout := s.checkoutTimeout.millis
  requestTimeout := s.requestTimeout.millis
  loginInterval := s.loginInterval.millis
  callInterval := s.callInterval.millis

def brokerConfig (s : Settings) : BrokerConfig where
  agentAddress := s.agentAddress
  forwardAddress := s.forwardAddress
  forwardTimeout := s.forwardTimeout.millis

end Settings

end MapScout
