import MapScout.Span
/-!
# Waiting before the next connection attempt

An agent that cannot reach its broker waits longer and longer, up to a limit, and may give up after a
number of attempts in a row.  A connection made starts the count and the waits anew.
-/

namespace MapScout

structure Backoff where
  /-- How many attempts in a row may fail; zero for any number. -/
  maxAttempts : Nat := 0
  /-- The first wait. -/
  initial : Span := .ofSeconds 1
  /-- The longest wait. -/
  longest : Span := .ofSeconds 60
  deriving DecidableEq, Repr

namespace Backoff

/-- The wait after a wait of `current`: twice as long, up to the limit; none if twice as long is no
span of time. -/
def next? (current longest : Span) : Option Span :=
  current.double?.map fun s => if longest.nanos < s.nanos then longest else s

/-- Where an agent stands between two attempts. -/
structure State where
  /-- How many attempts have failed since the last connection. -/
  attempts : Nat
  /-- The wait before the next attempt. -/
  delay : Span
  deriving DecidableEq, Repr

def start (b : Backoff) : State := ⟨0, b.initial⟩

/-- How an attempt can end. -/
inductive Outcome where
  /-- No connection was made. -/
  | failed
  /-- A connection was made, and it broke. -/
  | dropped
  deriving DecidableEq, Repr

/-- What an agent does after an attempt. -/
inductive Verdict where
  /-- Waits and then goes on from `state`. -/
  | retry (wait : Span) (state : State)
  /-- Gives up. -/
  | exhausted
  /-- The wait after this one would be no span of time. -/
  | overflow (wait : Span)
  deriving DecidableEq, Repr

/-- What an agent does after an attempt that ended so. -/
def after (b : Backoff) (s : State) (o : Outcome) : Verdict :=
  let (attempts, delay) := match o with
    | .failed => (s.attempts + 1, s.delay)
    | .dropped => (0, b.initial)
  if 0 < b.maxAttempts ∧ b.maxAttempts ≤ attempts then .exhausted
  else
    match next? delay b.longest with
    | some next => .retry delay ⟨attempts, next⟩
    | none => .overflow delay

/-- What an agent says that has given up. -/
def exhaustedMessage (maxAttempts : Nat) : String :=
  "Giving up after " ++ toString maxAttempts ++ " failed connection attempts"

/-- How an agent that never gets a connection ends. -/
inductive Ending where
  | exhausted (at_ : Span)
  | stopped (at_ : Span)
  /-- A wait became too long to be doubled. -/
  | overflow (at_ : Span)
  deriving DecidableEq, Repr

/-- An agent that never gets a connection and is stopped at `stop`, if ever; none if it would go on
for more than `attempts` attempts. -/
def runOffline (b : Backoff) (stop : Option Span) : (attempts : Nat) → State → Span → Option Ending
  | 0, _, _ => none
  | attempts + 1, s, now =>
    let stopsBy (t : Span) : Option Ending :=
      stop.bind fun u => if u.nanos ≤ t.nanos then some (.stopped ⟨max now.nanos u.nanos⟩) else none
    match b.after s .failed with
    | .exhausted => some (.exhausted now)
    | .overflow wait =>
      let t : Span := ⟨now.nanos + wait.nanos⟩
      (stopsBy t).getD (.overflow t)
    | .retry wait s =>
      let t : Span := ⟨now.nanos + wait.nanos⟩
      match stopsBy t with
      | some e => some e
      | none => b.runOffline stop attempts s t

end Backoff

end MapScout
