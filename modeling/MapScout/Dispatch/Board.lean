import MapScout.Stock.Proxy
/-!
# Status board and counters

The board shows which proxy the account of every live session is bound to, sorted by account.  The
counters say how the scans went.
-/

namespace MapScout

/-- An account and the proxy its session is bound to. -/
structure Binding where
  account : String
  proxy : ProxyId
  deriving DecidableEq, Repr, Inhabited

namespace Binding

def fieldNames : List String := ["account_name", "proxy_id"]

def toJson (b : Binding) : Json :=
  .fields [("account_name", .text b.account), ("proxy_id", .nat b.proxy.toNat)]

def ofJson? (j : Json) : Option Binding := do
  let r ← j.record? fieldNames
  let account ← r.required "account_name" Json.text?
  let proxy ← r.required "proxy_id" Json.uint64?
  pure { account, proxy }

instance : Json.Form Binding := ⟨toJson, ofJson?⟩

end Binding

/-- The bindings by ascending account, one for each account. -/
abbrev Board := List Binding

namespace Board

/-- Shows an account on a proxy, in place of what was shown for it. -/
def set (account : String) (proxy : ProxyId) : Board → Board
  | [] => [⟨account, proxy⟩]
  | b :: rest =>
    if account < b.account then ⟨account, proxy⟩ :: b :: rest
    else if account = b.account then ⟨account, proxy⟩ :: rest
    else b :: set account proxy rest

/-- Takes an account off. -/
def remove (account : String) (board : Board) : Board := board.filter (·.account != account)

/-- What is shown for an account. -/
def get? (account : String) (board : Board) : Option Binding := board.find? (·.account == account)

end Board

/-- How often each thing has happened so far. -/
structure Counters where
  scans : Nat := 0
  failures : Nat := 0
  busy : Nat := 0
  timeouts : Nat := 0
  evictions : Nat := 0
  deriving DecidableEq, Repr, Inhabited

namespace Counters

def countScan (c : Counters) : Counters := { c with scans := c.scans + 1 }

def countFailure (c : Counters) : Counters := { c with failures := c.failures + 1 }

def countBusy (c : Counters) : Counters := { c with busy := c.busy + 1 }

def countTimeout (c : Counters) : Counters := { c with timeouts := c.timeouts + 1 }

def countEviction (c : Counters) : Counters := { c with evictions := c.evictions + 1 }

/-- All counters, in order. -/
def toList (c : Counters) : List Nat := [c.scans, c.failures, c.busy, c.timeouts, c.evictions]

end Counters

/-- The counters as they are reported, in words of 64 bits. -/
structure Metrics where
  scans : UInt64
  failures : UInt64
  busy : UInt64
  timeouts : UInt64
  evictions : UInt64
  deriving DecidableEq, Repr, Inhabited

namespace Metrics

def ofCounters (c : Counters) : Metrics :=
  ⟨.ofNat c.scans, .ofNat c.failures, .ofNat c.busy, .ofNat c.timeouts, .ofNat c.evictions⟩

def fieldNames : List String := ["scans", "failures", "busy", "timeouts", "evictions"]

def toJson (m : Metrics) : Json :=
  .fields [("scans", .nat m.scans.toNat), ("failures", .nat m.failures.toNat),
    ("busy", .nat m.busy.toNat), ("timeouts", .nat m.timeouts.toNat),
    ("evictions", .nat m.evictions.toNat)]

def ofJson? (j : Json) : Option Metrics := do
  let r ← j.record? fieldNames
  let scans ← r.required "scans" Json.uint64?
  let failures ← r.required "failures" Json.uint64?
  let busy ← r.required "busy" Json.uint64?
  let timeouts ← r.required "timeouts" Json.uint64?
  let evictions ← r.required "evictions" Json.uint64?
  pure { scans, failures, busy, timeouts, evictions }

instance : Json.Form Metrics := ⟨toJson, ofJson?⟩

end Metrics

/-- The answer to a status query. -/
structure StatusReport where
  sessions : List Binding
  pooled : UInt64
  metrics : Metrics
  deriving DecidableEq, Repr, Inhabited

namespace StatusReport

def fieldNames : List String := ["sessions", "pooled", "metrics"]

def toJson (s : StatusReport) : Json :=
  .fields [("sessions", .array (s.sessions.map Binding.toJson)), ("pooled", .nat s.pooled.toNat),
    ("metrics", s.metrics.toJson)]

def ofJson? (j : Json) : Option StatusReport := do
  let r ← j.record? fieldNames
  let sessions ← r.required "sessions" (Json.list? Binding.ofJson?)
  let pooled ← r.required "pooled" Json.uint64?
  let metrics ← r.required "metrics" Metrics.ofJson?
  pure { sessions, pooled, metrics }

instance : Json.Form StatusReport := ⟨toJson, ofJson?⟩

end StatusReport

end MapScout
