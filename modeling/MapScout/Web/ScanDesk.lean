import MapScout.Dispatch.Turn
import MapScout.Web.Scanner
/-!
# Requests to a running scanner

A request is settled at once, or it starts a scan whose result will be the reply.
-/

namespace MapScout

/-- What came of a request. -/
inductive Ticket where
  | settled (reply : Web.Reply)
  /-- The scan with this number will tell. -/
  | scan (task : Nat)
  deriving Repr

namespace World

/-- A scan of a place that starts at a given time. -/
def planScan (place : Place) (start : Nat) : Task := .scan { place, stage := .planned start }

def statusReport (w : World) : StatusReport :=
  ⟨w.board, UInt64.ofNat w.pool.buffer.length, .ofCounters w.counters⟩

/-- The second that the wall clock shows. -/
def wallSecond (w : World) : Int := w.wall / 1000

/-- Takes a request in. -/
def receive (secret : String) (r : Web.Request) (w : World) : Ticket × World :=
  let settled (reply : Web.Reply) : Ticket := .settled (reply.sentFor r.method)
  match Scanner.wishOf secret r with
  | .settled reply => (settled reply, w)
  | .status => (settled (Scanner.reported w.statusReport), w)
  | .cache kinds =>
    let (found, w) := w.onStore (·.getObjects kinds w.wallSecond)
    (settled (Scanner.cached found.toOption), w)
  | .scan place =>
    let (id, w) := w.spawn (planScan place w.now)
    (.scan id, w)

/-- The reply to a request, if it is known. -/
def reply? (w : World) : Ticket → Option Web.Reply
  | .settled reply => some reply
  | .scan task =>
    match w.task? task with
    | some (.scan { stage := .finished result _, .. }) => some (Scanner.scanned result)
    | _ => none

end World

end MapScout
