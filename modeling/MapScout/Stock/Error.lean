import MapScout.Report
import MapScout.Stock.Proxy
/-!
# Failures of the stock

Why the store of accounts and proxies could not do what it was asked to do.
-/

namespace MapScout

inductive InventoryError where
  | noAccountAvailable
  | noProxyAvailable
  | unknownAccount (username : String)
  | unknownProxy (id : ProxyId)
  | importFailed (reason : String)
  | storage (reason : String)
  deriving DecidableEq, Repr

/-- The name of the failure in reports. -/
def InventoryError.name : InventoryError → String
  | .noAccountAvailable => "NoAccountAvailable"
  | .noProxyAvailable => "NoProxyAvailable"
  | .unknownAccount _ => "UnknownAccount"
  | .unknownProxy _ => "UnknownProxy"
  | .importFailed _ => "Import"
  | .storage _ => "Storage"

def InventoryError.message : InventoryError → String
  | .noAccountAvailable => "No account available"
  | .noProxyAvailable => "No proxy available"
  | .unknownAccount username => "Unknown account: " ++ username
  | .unknownProxy id => "Unknown proxy: " ++ toString id.toNat
  | .importFailed reason => "Failed to import accounts: " ++ reason
  | .storage reason => "Storage error: " ++ reason

instance : Reported InventoryError := ⟨InventoryError.name, InventoryError.message⟩

/-- Why no new session could be built. -/
inductive ProvisionError where
  | noAccount (cause : InventoryError)
  | noProxy (cause : InventoryError)
  deriving DecidableEq, Repr

/-- The name of the failure in reports. -/
def ProvisionError.name : ProvisionError → String
  | .noAccount _ => "NoAccount"
  | .noProxy _ => "NoProxy"

def ProvisionError.message : ProvisionError → String
  | .noAccount cause => "No account available: " ++ cause.message
  | .noProxy cause => "No proxy available: " ++ cause.message

instance : Reported ProvisionError := ⟨ProvisionError.name, ProvisionError.message⟩

end MapScout
