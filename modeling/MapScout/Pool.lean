import MapScout.Report
import MapScout.Span
/-!
# Session pool

A queue of sessions and a queue of tickets.  Sessions and tickets come in by mail, sessions are read
before tickets, and after each reading the heads of the session queue go to the oldest tickets that
are still held.  A session handed to a ticket waits there until its holder collects it.  Nothing else
touches the two queues.

The pool works in steps so small that anything may happen between two of them.  In particular a
ticket may be given up after it was found held and before it is offered a session; then the session
keeps its place.
-/

namespace MapScout

inductive PoolError where
  | timeout (after : Span)
  | closed
  deriving DecidableEq, Repr

/-- The name of the failure in reports. -/
def PoolError.name : PoolError → String
  | .timeout _ => "Timeout"
  | .closed => "Closed"

def PoolError.message : PoolError → String
  | .timeout after => "No session available within " ++ after.toText
  | .closed => "Session pool is shut down"

instance : Reported PoolError := ⟨PoolError.name, PoolError.message⟩

/-- What a pool is about to do. -/
inductive PoolPhase where
  /-- Read mail, if there is any. -/
  | resting
  /-- Look for a ticket to serve. -/
  | serving
  /-- Offer the head of the buffer to a ticket that was found held. -/
  | offering (ticket : Nat)
  deriving DecidableEq, Repr, Inhabited

/-- A pool of sessions of type `σ`. -/
structure Pool (σ : Type) where
  /-- Once closed, a pool takes and gives nothing. -/
  isOpen : Bool := true
  /-- Whether mail is read.  A pool that is held up takes mail and leaves it unread. -/
  isReading : Bool := true
  /-- Sessions that have been sent but not read. -/
  arrivals : List σ := []
  /-- Tickets that have been sent but not read. -/
  requests : List Nat := []
  buffer : List σ := []
  waiting : List Nat := []
  /-- The tickets whose holders still wait. -/
  held : List Nat := []
  /-- Sessions that have been handed over and not yet collected. -/
  handed : List (Nat × σ) := []
  phase : PoolPhase := .resting
  deriving Repr, Inhabited

namespace Pool

variable {σ : Type}

/-! ## Mail -/

/-- Sends a session; a closed pool drops it. -/
def send (p : Pool σ) (s : σ) : Pool σ :=
  if p.isOpen then { p with arrivals := p.arrivals ++ [s] } else p

/-- Sends a ticket. -/
def request (p : Pool σ) (ticket : Nat) : Pool σ :=
  { p with requests := p.requests ++ [ticket], held := p.held ++ [ticket] }

/-! ## Steps of the pool -/

/-- Drops the tickets in the queue that were given up. -/
def prune (p : Pool σ) : Pool σ := { p with waiting := p.waiting.filter (p.held.contains ·) }

/-- Reads one session. -/
def readSession (p : Pool σ) : Pool σ :=
  match p.arrivals with
  | [] => p
  | s :: rest => { p with arrivals := rest, buffer := p.buffer ++ [s], phase := .serving }

/-- Reads one ticket.  The tickets given up are dropped first. -/
def readRequest (p : Pool σ) : Pool σ :=
  match p.requests with
  | [] => p
  | ticket :: rest =>
    { p.prune with requests := rest, waiting := p.prune.waiting ++ [ticket], phase := .serving }

/-- Takes the oldest ticket out of the queue if there is a session to offer.  A ticket that was given
up is dropped. -/
def pickTicket (p : Pool σ) : Pool σ :=
  match p.buffer, p.waiting with
  | _ :: _, ticket :: rest =>
    { p with waiting := rest, phase := if p.held.contains ticket then .offering ticket else .serving }
  | _, _ => { p with phase := .resting }

/-- Hands the head of the buffer to a ticket, unless the ticket has been given up meanwhile. -/
def offer (p : Pool σ) (ticket : Nat) : Pool σ :=
  match p.buffer with
  | [] => { p with phase := .serving }
  | s :: rest =>
    if p.held.contains ticket then
      { p with buffer := rest, held := p.held.erase ticket, handed := p.handed ++ [(ticket, s)],
               phase := .serving }
    else { p with phase := .serving }

/-- The next step.  Sessions are read before tickets. -/
def act (p : Pool σ) : Pool σ :=
  match p.phase with
  | .resting => if p.arrivals.isEmpty then p.readRequest else p.readSession
  | .serving => p.pickTicket
  | .offering ticket => p.offer ticket

/-- Whether there is anything to do. -/
def isBusy (p : Pool σ) : Bool :=
  p.phase != .resting || !p.arrivals.isEmpty || !p.requests.isEmpty

/-! ## Tickets -/

/-- The session that was handed to a ticket, taken out of the pool. -/
def collect? (p : Pool σ) (ticket : Nat) : Option (σ × Pool σ) :=
  (p.handed.find? (·.1 == ticket)).map fun (_, s) =>
    (s, { p with handed := p.handed.filter (·.1 != ticket) })

/-- Nothing will be handed to a ticket any more. -/
def release (p : Pool σ) (ticket : Nat) : Pool σ := { p with held := p.held.erase ticket }

/-- The holder of a ticket stops waiting.  What has been handed over until then it still gets. -/
def leave (p : Pool σ) (ticket : Nat) : Option σ × Pool σ :=
  match (p.release ticket).collect? ticket with
  | some (s, p) => (some s, p)
  | none => (none, p.release ticket)

/-- Gives a ticket up, with what was handed to it. -/
def giveUp (p : Pool σ) (ticket : Nat) : Pool σ :=
  { p.release ticket with handed := p.handed.filter (·.1 != ticket) }

/-- Closes the pool.  The sessions in it are dropped; the ones handed over can still be
collected. -/
def close (p : Pool σ) : Pool σ :=
  { p with isOpen := false, arrivals := [], requests := [], buffer := [], waiting := [],
           phase := .resting }

/-- How many tickets in the queue are still held. -/
def waitingCount (p : Pool σ) : Nat := p.waiting.countP (p.held.contains ·)

end Pool

end MapScout
