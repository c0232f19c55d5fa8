import MapScout.Agent.Call
/-!
# Endpoints

A place on the network that gives every request the same answer and remembers what it was asked: what
an agent's calls come to when nothing is behind them.
-/

namespace MapScout

/-- What can be wrong with an endpoint. -/
inductive EndpointFault where
  /-- It hangs up. -/
  | reset
  /-- Its answers are no answers. -/
  | garbage
  /-- Its answers break off. -/
  | short
  deriving DecidableEq, Repr

namespace EndpointFault

def ofName? : String → Option EndpointFault
  | "reset" => some .reset
  | "garbage" => some .garbage
  | "short" => some .short
  | _ => none

end EndpointFault

structure Endpoint where
  /-- Host and port. -/
  authority : String
  answer : Web.Response
  fault : Option EndpointFault := none
  /-- The requests so far. -/
  seen : List Web.Request := []
  deriving Inhabited

namespace Endpoint

/-- What a caller receives.  An answer that breaks off is whole if it has no body anyway. -/
def received (e : Endpoint) : Option Web.Response :=
  match e.fault with
  | none => e.answer.received
  | some .short => if Web.Response.isBodiless e.answer.status then e.answer.received else none
  | some _ => none

/-- A call comes in. -/
def take (c : OutboundCall) (e : Endpoint) : Option Web.Response × Endpoint :=
  (e.received, { e with seen := e.seen ++ [c.toRequest] })

/-- A network on which there is nothing else. -/
def network (c : OutboundCall) (e : Endpoint) : Option Web.Response × Endpoint :=
  if c.url.authority = e.authority then e.take c else (none, e)

end Endpoint

end MapScout
