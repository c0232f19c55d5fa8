import MapScout.Span
/-!
# What the dispatcher needs to know

Times are in milliseconds.
-/

namespace MapScout

structure DispatchConfig where
  /-- How long a session rests between two scans. -/
  cooldown : Nat := 25000
  /-- How long a scan waits for a pooled session before it builds a new one. -/
  checkoutTimeout : Nat := 5000
  /-- How long a whole scan may take. -/
  requestTimeout : Nat := 15000
  /-- The time between two logins. -/
  loginInterval : Nat := 1000
  /-- The time between two map calls. -/
  callInterval : Nat := 1
  deriving DecidableEq, Repr, Inhabited

namespace DispatchConfig

/-- The configuration as text. -/
def describe (c : DispatchConfig) : String :=
  let span (ms : Nat) : String := (Span.ofMillis ms).toText
  "DispatchConfig \x7b cooldown: " ++ span c.cooldown ++ ", checkout_timeout: " ++
    span c.checkoutTimeout ++ ", request_timeout: " ++ span c.requestTimeout ++
    ", login_interval: " ++ span c.loginInterval ++ ", call_interval: " ++ span c.callInterval ++
    " \x7d"

end DispatchConfig

/-- How long one login of a preload may take. -/
def preloadLoginTimeout : Nat := 10000

end MapScout
