import MapScout.Text.Utf8
/-!
# Links

The message stream between the broker and an agent, seen from between the two.  Both ends answer
pings and the closing of the stream by themselves.  An end that vanishes leaves nothing behind but
what it has sent.
-/

namespace MapScout

/-- A message of the stream. -/
inductive Message where
  | text (data : Bytes)
  | binary (data : Bytes)
  | ping (data : Bytes)
  | pong (data : Bytes)
  | close
  deriving DecidableEq, Repr

/-- The name of the kind of a message. -/
def Message.kind : Message → String
  | .text _ => "text"
  | .binary _ => "binary"
  | .ping _ => "ping"
  | .pong _ => "pong"
  | .close => "close"

/-- The message of a kind. -/
def Message.make (kind : String) (data : Bytes) : Message :=
  match kind with
  | "text" => .text data
  | "binary" => .binary data
  | "ping" => .ping data
  | "pong" => .pong data
  | _ => .close

/-- What a message carries. -/
def Message.data? : Message → Option Bytes
  | .text data | .binary data | .ping data | .pong data => some data
  | .close => none

/-- The message that carries a frame. -/
def Message.ofFrame (frame : Bytes) : Message :=
  if (Utf8.decode? frame).isSome then .text frame else .binary frame

/-- What the agent's end finds when it reads. -/
inductive Arrival where
  | message (m : Message)
  /-- The stream has ended in good order. -/
  | ended
  /-- The stream has broken off. -/
  | broken
  deriving DecidableEq, Repr

structure Link where
  /-- Messages that the agent has not read. -/
  toAgent : List Message := []
  /-- Messages that the broker has not read. -/
  toBroker : List Message := []
  /-- The broker's end is there. -/
  hasBroker : Bool := true
  /-- The agent's end is there. -/
  hasAgent : Bool := true
  /-- The agent has closed the stream. -/
  agentClosed : Bool := false
  /-- The agent has read that the broker closed the stream. -/
  agentSawClose : Bool := false
  /-- The agent has read the end of the stream. -/
  agentSawEnd : Bool := false
  deriving DecidableEq, Repr, Inhabited

namespace Link

/-- Sends a message to the broker; the flag says whether that could be done. -/
def sendToBroker (l : Link) (m : Message) : Bool × Link :=
  if l.hasBroker && l.hasAgent && !l.agentClosed && !l.agentSawClose then
    (true, { l with toBroker := l.toBroker ++ [m], agentClosed := m = .close })
  else (false, l)

/-- The agent reads, if there is anything to read.  A ping is answered. -/
def readByAgent? (l : Link) : Option (Arrival × Link) :=
  match l.toAgent with
  | m :: rest =>
    let l := { l with toAgent := rest }
    match m with
    | .ping data => some (.message m, (l.sendToBroker (.pong data)).2)
    | .close => some (.message m, { l with agentSawClose := true })
    | m => some (.message m, l)
  | [] =>
    if l.agentSawEnd then some (.ended, l)
    else if l.hasBroker then none
    else
      some (if l.agentClosed && l.agentSawClose then .ended else .broken,
        { l with agentSawEnd := true })

/-- Sends a message to the agent. -/
def sendToAgent (l : Link) (m : Message) : Link := { l with toAgent := l.toAgent ++ [m] }

end Link

end MapScout
