import MapScout.Stock.Proxy
/-!
# Connections

The broker's side of one agent.  An agent answers its requests one at a time and its answers do not
say which request they answer, so a connection has one slot for the request that is to get the next
answer.  Requests line up for their turn; whoever has it fills the slot, sends a frame and waits.
Frames for the agent go through a queue of limited length, with a line of its own for room in it.
-/

namespace MapScout

structure Connection where
  id : ProxyId
  /-- When the connection was made. -/
  since : Nat := 0
  isClosed : Bool := false
  /-- Frames that the agent's side has not taken yet. -/
  outbound : List Bytes := []
  /-- Whether there still is somebody to take frames. -/
  isTaken : Bool := true
  /-- Who waits for room in the queue. -/
  senders : List Nat := []
  /-- Who has the turn, followed by those who wait for it. -/
  line : List Nat := []
  /-- The request that gets the next frame from the agent. -/
  slot : Option Nat := none
  /-- Answers that have been handed to requests and not been looked at. -/
  answers : List (Nat × Bytes) := []
  deriving DecidableEq, Repr, Inhabited

namespace Connection

/-- How many frames the queue holds. -/
def capacity : Nat := 64

/-! ## Turns -/

def lineUp (c : Connection) (request : Nat) : Connection := { c with line := c.line ++ [request] }

def hasTurn (c : Connection) (request : Nat) : Bool := c.line.head? == some request

/-- Gives up the turn, or the place in the line for it. -/
def leaveLine (c : Connection) (request : Nat) : Connection :=
  { c with line := c.line.erase request }

/-! ## Answers -/

/-- Makes a request the one that gets the next answer. -/
def arm (c : Connection) (request : Nat) : Connection := { c with slot := some request }

def disarm (c : Connection) : Connection := { c with slot := none }

/-- A frame has come from the agent.  It goes to the request in the slot; without one it is
dropped. -/
def deliver (c : Connection) (payload : Bytes) : Connection :=
  match c.slot with
  | none => c
  | some request => { c.disarm with answers := c.answers ++ [(request, payload)] }

/-- The answer that a request was handed. -/
def answer? (c : Connection) (request : Nat) : Option Bytes := c.answers.lookup request

/-- Whether a request can still get an answer. -/
def mayAnswer (c : Connection) (request : Nat) : Bool := c.slot == some request

/-- Drops what a request was handed. -/
def forget (c : Connection) (request : Nat) : Connection :=
  { c with answers := c.answers.filter (·.1 != request) }

/-- Marks the connection closed. -/
def cancel (c : Connection) : Connection := { c with isClosed := true }

/-! ## Frames for the agent -/

def queueUp (c : Connection) (sender : Nat) : Connection := { c with senders := c.senders ++ [sender] }

def leaveQueue (c : Connection) (sender : Nat) : Connection :=
  { c with senders := c.senders.erase sender }

/-- Whether it is this sender's turn to put a frame into the queue. -/
def canSend (c : Connection) (sender : Nat) : Bool :=
  c.senders.head? == some sender && c.outbound.length < capacity

def send (c : Connection) (sender : Nat) (frame : Bytes) : Connection :=
  { c.leaveQueue sender with outbound := c.outbound ++ [frame] }

/-- Takes the next frame for the agent. -/
def take? (c : Connection) : Option (Bytes × Connection) :=
  match c.outbound with
  | [] => none
  | frame :: rest => some (frame, { c with outbound := rest })

/-- Nobody takes frames any more; those in the queue are lost. -/
def stopTaking (c : Connection) : Connection := { c with isTaken := false, outbound := [] }

/-- A connection in diagnostics. -/
def describe (c : Connection) : String :=
  "AgentConnection \x7b id: " ++ toString c.id.toNat ++ ", closed: " ++ toString c.isClosed ++
    " \x7d"

end Connection

end MapScout
