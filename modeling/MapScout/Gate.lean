/-!
# Rate gates

A gate hands out one token for each period, in the order of arrival, however many are waiting.  Who
takes a token up to five milliseconds after it was due leaves the rhythm as it is; after a longer
idle time the next period starts when the token is taken.  Who gives up takes nothing.
-/

namespace MapScout

structure Gate where
  /-- The time between two tokens, in milliseconds.  A period of zero never makes anybody wait. -/
  period : Nat
  /-- When the next token is due. -/
  due : Nat := 0
  /-- Who waits, in the order of arrival. -/
  queue : List Nat := []
  /-- Whether somebody has been waiting for the token that is due next. -/
  armed : Bool := false
  deriving DecidableEq, Repr, Inhabited

namespace Gate

/-- Tokens taken later than this after they were due shift the rhythm. -/
def tolerance : Nat := 5

/-- The moment at which the token after one is due that was due at `due` and taken at `now`. -/
def nextDue (period due now : Nat) : Nat :=
  if due + tolerance < now then now + period else due + period

/-- Joins the queue. -/
def enter (g : Gate) (id : Nat) : Gate :=
  if g.period = 0 then g else { g with queue := g.queue ++ [id] }

/-- Whether somebody can take a token now. -/
def canTake (g : Gate) (id now : Nat) : Bool :=
  g.period = 0 || (g.queue.head? == some id && g.due ≤ now)

/-- Takes the token that is due and leaves the queue. -/
def take (g : Gate) (now : Nat) : Gate :=
  if g.period = 0 then g
  else { g with due := nextDue g.period g.due now, queue := g.queue.tail, armed := false }

/-- Leaves the queue without a token. -/
def leave (g : Gate) (id : Nat) : Gate := { g with queue := g.queue.erase id }

end Gate

end MapScout
