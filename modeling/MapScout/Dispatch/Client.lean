import MapScout.Map.Payload
import MapScout.Report
import MapScout.Stock.Proxy
import MapScout.Text.Quoted
/-!
# Clients

The game server as a session sees it: a client logs in and fetches the map, and either can fail in
one of a closed set of ways.  What a client will answer, and how long each answer takes, is part of
its state; a client about which nothing is said succeeds at once.
-/

namespace MapScout

inductive ClientError where
  | proxyDead
  | invalidAuthToken
  | invalidPlatformRequest
  | accountBanned
  | newRpcUrl
  | checkChallenge
  | badCredentials
  | accountNotActive
  | emptyResponse
  | other (text : String)
  deriving DecidableEq, Repr

/-- What a failure says about the account that met it. -/
inductive AccountHealth where
  | healthy
  | banned
  | challengeRequired
  deriving DecidableEq, Repr

def AccountHealth.name : AccountHealth → String
  | .healthy => "Healthy"
  | .banned => "Banned"
  | .challengeRequired => "ChallengeRequired"

namespace ClientError

def message : ClientError → String
  | .proxyDead => "proxy is dead"
  | .invalidAuthToken => "invalid auth token"
  | .invalidPlatformRequest => "invalid platform request"
  | .accountBanned => "account is banned"
  | .newRpcUrl => "new RPC URL"
  | .checkChallenge => "challenge required"
  | .badCredentials => "username or password is incorrect"
  | .accountNotActive => "account is not yet active"
  | .emptyResponse => "empty response"
  | .other text => text

/-- The failures that have a name of their own. -/
def named : List (String × ClientError) :=
  [("ProxyDead", .proxyDead), ("InvalidAuthToken", .invalidAuthToken),
    ("InvalidPlatformRequest", .invalidPlatformRequest), ("AccountBanned", .accountBanned),
    ("NewRpcUrl", .newRpcUrl), ("CheckChallenge", .checkChallenge),
    ("BadCredentials", .badCredentials), ("AccountNotActive", .accountNotActive),
    ("EmptyResponse", .emptyResponse)]

/-- The failure with a name; under any other name, one that is described by `text`. -/
def ofName (name text : String) : ClientError :=
  (named.find? (·.1 == name)).elim (.other text) (·.2)

/-- A failure in diagnostics. -/
def describe : ClientError → String
  | .other text => "Other(" ++ Quoted.quote text ++ ")"
  | e => (named.find? (·.2 == e)).elim "" (·.1)

def accountHealth : ClientError → AccountHealth
  | .badCredentials | .accountBanned | .emptyResponse | .accountNotActive => .banned
  | .checkChallenge => .challengeRequired
  | .proxyDead | .invalidAuthToken | .invalidPlatformRequest | .newRpcUrl | .other _ => .healthy

/-- Failures that a second call may get past. -/
def isTransient : ClientError → Bool
  | .invalidPlatformRequest | .newRpcUrl => true
  | _ => false

instance : Reported ClientError := ⟨describe, message⟩

end ClientError

/-- One answer of a client: after `delay` milliseconds, a failure or success.  The payload counts
for map calls only, and so does whether the client is logged out by the call. -/
structure Answer where
  delay : Nat := 0
  failure : Option ClientError := none
  payload : MapPayload := {}
  logsOut : Bool := false
  deriving DecidableEq, Repr, Inhabited

/-- The client of one session. -/
inductive Client where
  /-- A client with answers lined up. -/
  | scripted (loggedIn : Bool) (logins maps : List Answer)
  /-- A client that is always logged in and answers every call at once with one payload. -/
  | canned (payload : MapPayload)
  deriving Repr, Inhabited

namespace Client

def isLoggedIn : Client → Bool
  | .scripted loggedIn _ _ => loggedIn
  | .canned _ => true

/-- Whether the operations of a client are logged. -/
def isLogged : Client → Bool
  | .scripted .. => true
  | .canned _ => false

/-- Takes the answer to the login that starts now. -/
def startLogin : Client → Answer × Client
  | .scripted loggedIn logins maps => (logins.headD {}, .scripted loggedIn logins.tail maps)
  | .canned payload => ({}, .canned payload)

/-- A login has been answered: the client is logged in if it succeeded. -/
def finishLogin (a : Answer) : Client → Client
  | .scripted _ logins maps => .scripted a.failure.isNone logins maps
  | .canned payload => .canned payload

/-- Takes the answer to the map call that starts now. -/
def startMap : Client → Answer × Client
  | .scripted loggedIn logins maps => (maps.headD {}, .scripted loggedIn logins maps.tail)
  | .canned payload => ({ payload }, .canned payload)

/-- A map call has been answered. -/
def finishMap (a : Answer) : Client → Client
  | .scripted loggedIn logins maps => .scripted (loggedIn && !a.logsOut) logins maps
  | .canned payload => .canned payload

end Client

/-- Where the clients of new sessions come from. -/
inductive ClientSupply where
  /-- The clients for the next sessions; fresh ones without a script when there are no more. -/
  | scripts (clients : List Client)
  /-- All clients answer with one payload. -/
  | canned (payload : MapPayload)
  deriving Repr, Inhabited

namespace ClientSupply

/-- The client of the next session. -/
def next : ClientSupply → Client × ClientSupply
  | .scripts clients => (clients.headD (.scripted false [] []), .scripts clients.tail)
  | .canned payload => (.canned payload, .canned payload)

/-- The payload in a file. -/
def payloadOfFile? (contents : Bytes) : Option MapPayload :=
  (Json.ofFile? contents).bind MapPayload.ofJson?

end ClientSupply

end MapScout
