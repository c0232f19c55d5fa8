import MapScout.Json.Record
/-!
# Proxies

A proxy is the way out through one connected agent and carries the number of that connection.  A
proxy that died never comes back.
-/

namespace MapScout

abbrev ProxyId := UInt64

structure Proxy where
  id : ProxyId
  /-- Claimed by a session. -/
  inUse : Bool := false
  dead : Bool := false
  deriving DecidableEq, Repr, Inhabited

namespace Proxy

/-- A proxy that can be claimed. -/
def isFree (p : Proxy) : Bool := !p.inUse && !p.dead

/-- The proxy found dead: out of use for good. -/
def die (p : Proxy) : Proxy := { p with dead := true, inUse := false }

def fieldNames : List String := ["id", "use", "dead"]

def toJson (p : Proxy) : Json :=
  .fields [("id", .nat p.id.toNat), ("use", .bool p.inUse), ("dead", .bool p.dead)]

def ofJson? (j : Json) : Option Proxy := do
  let r ← j.record? fieldNames
  let id ← r.required "id" Json.uint64?
  let inUse ← r.required "use" Json.bool?
  let dead ← r.required "dead" Json.bool?
  pure { id, inUse, dead }

instance : Json.Form Proxy := ⟨toJson, ofJson?⟩

end Proxy

end MapScout
