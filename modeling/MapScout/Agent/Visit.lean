import MapScout.Agent.Backoff
import MapScout.Agent.Endpoint
import MapScout.Tunnel.Link
/-!
# Visits

An agent comes to a broker again and again until it is told to stop or has been turned away too often
in a row.  Here what the broker does is known beforehand: one reception for each visit.
-/

namespace MapScout.Agent

/-- How a visit ends. -/
inductive Parting where
  /-- The agent is turned away at once. -/
  | refused
  /-- The broker ends the visit, in good order or not. -/
  | sentAway
  /-- The agent is told to stop. -/
  | stopped
  deriving DecidableEq, Repr

/-- What the broker does with an agent on one visit. -/
structure Reception where
  messages : List Message := []
  parting : Parting
  deriving Repr

/-- What the agent sends on a visit. -/
inductive Sent where
  | reply (r : AgentReply)
  | pong (data : Bytes)
  /-- It takes its leave. -/
  | leave
  deriving DecidableEq, Repr

/-- How all visits together end. -/
inductive Outcome where
  | stopped
  | exhausted
  /-- There are more receptions than visits, or more visits than receptions and no end of them, or a
  wait that is too long to be doubled. -/
  | endless
  deriving DecidableEq, Repr

/-- What the agent sends back for a message. -/
def answer (m : Message) (e : Endpoint) : List Sent × Endpoint :=
  match m with
  | .text frame | .binary frame =>
    let (r, e) := handle Endpoint.network frame e
    ([.reply r], e)
  | .ping data => ([.pong data], e)
  | .pong _ | .close => ([], e)

/-- What the agent sends back for messages that come one after the other. -/
def answerAll : List Message → Endpoint → List Sent × Endpoint
  | [], e => ([], e)
  | m :: rest, e =>
    let (sent, e) := answer m e
    let (more, e) := answerAll rest e
    (sent ++ more, e)

/-- How it ends for an agent that no broker receives any more. -/
def afterLast (b : Backoff) (s : Backoff.State) : Outcome :=
  match b.runOffline none (b.maxAttempts + 1) s ⟨0⟩ with
  | some (.exhausted _) => .exhausted
  | _ => .endless

/-- Goes through receptions.  None is in the list for a visit on which the agent was turned away. -/
def visit (b : Backoff) : Backoff.State → List Reception → Endpoint →
    List (Option (List Sent)) × Outcome × Endpoint
  | s, [], e => ([], afterLast b s, e)
  | s, r :: rest, e =>
    let (sent, e) := answerAll (if r.parting = .refused then [] else r.messages) e
    if r.parting = .stopped then
      ([some (sent ++ [.leave])], if rest.isEmpty then .stopped else .endless, e)
    else
      let refused : Bool := r.parting = .refused
      let record := if refused then none else some sent
      match b.after s (if refused then .failed else .dropped) with
      | .retry _ s =>
        let (records, outcome, e) := visit b s rest e
        (record :: records, outcome, e)
      | .exhausted => ([record], if rest.isEmpty then .exhausted else .endless, e)
      | .overflow _ => ([record], .endless, e)

end MapScout.Agent
