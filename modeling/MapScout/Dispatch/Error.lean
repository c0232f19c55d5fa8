import MapScout.Dispatch.Client
import MapScout.Report
/-!
# Scan failures

Why a scan gave no map objects, and what the caller is told of it.
-/

namespace MapScout

inductive ScanError where
  | busy
  | timeout
  | proxyDead (id : ProxyId)
  | authInvalid
  | unstable (cause : ClientError)
  | accountBanned (account : String)
  | accountFlagged (account : String)
  | client (cause : ClientError)
  | poolClosed
  deriving DecidableEq, Repr

namespace ScanError

/-- The name of the failure in reports. -/
def name : ScanError → String
  | .busy => "Busy"
  | .timeout => "Timeout"
  | .proxyDead _ => "ProxyDead"
  | .authInvalid => "AuthInvalid"
  | .unstable _ => "TransientUpstream"
  | .accountBanned _ => "AccountBanned"
  | .accountFlagged _ => "AccountFlagged"
  | .client _ => "Upstream"
  | .poolClosed => "PoolClosed"

def message : ScanError → String
  | .busy => "no session available and none could be provisioned"
  | .timeout => "scan deadline exceeded"
  | .proxyDead id => "proxy " ++ toString id.toNat ++ " is dead"
  | .authInvalid => "auth token rejected after forced login"
  | .unstable cause => "upstream still failing after retry: " ++ cause.message
  | .accountBanned account => "account " ++ account ++ " is banned"
  | .accountFlagged account => "account " ++ account ++ " requires a challenge"
  | .client cause => "upstream error: " ++ cause.message
  | .poolClosed => "session pool is shut down"

def busyMessage : String := "All our minions are busy"

def timeoutMessage : String := "Scan timed out"

def failedMessage : String := "Scan failed"

/-- What an outside caller may know. -/
def publicMessage : ScanError → String
  | .busy => busyMessage
  | .timeout => timeoutMessage
  | _ => failedMessage

instance : Reported ScanError := ⟨name, message⟩

end ScanError

end MapScout
