import MapScout.Gate
import MapScout.Span
import MapScout.Text.Quoted
import MapScout.Timeline
/-!
# The line in front of a gate

Visitors come to one gate, each with or without a moment at which it gives up.  Whoever is first in
line takes the token once it is due; a token that is due is taken even at the very moment of giving
up.
-/

namespace MapScout

/-- How a visit ended. -/
structure Visit where
  /-- Whether the visitor got a token. -/
  granted : Bool
  at_ : Nat
  deriving DecidableEq, Repr

/-- What becomes of a visitor. -/
inductive VisitStage where
  | arriving
  | inLine
  | gone (visit : Visit)
  deriving DecidableEq, Repr

structure Visitor where
  /-- When the visitor gives up; never, if there is no such moment. -/
  deadline : Option Nat
  stage : VisitStage := .arriving
  deriving DecidableEq, Repr

/-- Who takes turns at a gate. -/
inductive LineOwner where
  | visitor (id : Nat)
  /-- The gate itself, when a token becomes due. -/
  | token
  deriving DecidableEq, Repr

structure GateLine where
  gate : Gate
  time : Timeline LineOwner := {}
  visitors : List (Nat × Visitor) := []
  nextId : Nat := 0
  deriving Repr

namespace GateLine

def now (l : GateLine) : Nat := l.time.now

def onTime (f : Timeline LineOwner → Timeline LineOwner) (l : GateLine) : GateLine :=
  { l with time := f l.time }

def setStage (id : Nat) (stage : VisitStage) (l : GateLine) : GateLine :=
  { l with visitors := l.visitors.map fun (i, v) => if i = id then (i, { v with stage }) else (i, v) }

/-- Wakes whoever is first in line. -/
def wakeHead (l : GateLine) : GateLine :=
  match l.gate.queue.head? with
  | some id => l.onTime (·.wake (.visitor id))
  | none => l

/-- Ends a visit and lets the next in line have a look. -/
def finish (id : Nat) (granted : Bool) (gate : Gate) (l : GateLine) : GateLine :=
  (({ l with gate }.setStage id (.gone ⟨granted, l.now⟩)).onTime (·.forget (.visitor id))).wakeHead

/-- Has whoever is first in line woken when the next token is due. -/
def arm (id : Nat) (l : GateLine) : GateLine :=
  if l.gate.queue.head? == some id && !l.gate.armed then
    { l with gate := { l.gate with armed := true } }.onTime (·.setAlarm l.gate.due .token)
  else l

/-- A visitor in line takes the token, gives up, or waits on. -/
def inLineTurn (id : Nat) (deadline : Option Nat) (l : GateLine) : GateLine :=
  if l.gate.canTake id l.now then l.finish id true (l.gate.take l.now)
  else
    match deadline with
    | none => l.arm id
    | some due =>
      if due ≤ l.now then l.finish id false (l.gate.leave id)
      else (l.arm id).onTime (·.setAlarm due (.visitor id))

def turn (o : LineOwner) (l : GateLine) : GateLine :=
  match o with
  | .token => l.wakeHead
  | .visitor id =>
    match l.visitors.lookup id with
    | none => l
    | some v =>
      match v.stage with
      | .arriving =>
        ({ l with gate := l.gate.enter id }.setStage id .inLine).inLineTurn id v.deadline
      | .inLine => l.inLineTurn id v.deadline
      | .gone _ => l

instance : Timed GateLine LineOwner where
  time := GateLine.time
  setTime t l := { l with time := t }
  turn := GateLine.turn

/-- A visitor comes.  Its first turn comes after those who are ready already. -/
def arrive (deadline : Option Nat) (l : GateLine) : Nat × GateLine :=
  let visitors := l.visitors ++ [(l.nextId, { deadline := deadline })]
  let time := l.time.wake (.visitor l.nextId)
  (l.nextId, { l with visitors, time, nextId := l.nextId + 1 })

/-- How the visit of a visitor ended, if it has. -/
def visit? (l : GateLine) (id : Nat) : Option Visit :=
  (l.visitors.lookup id).bind fun v =>
    match v.stage with
    | .gone visit => some visit
    | _ => none

/-- A visitor vanishes. -/
def abandon (id : Nat) (l : GateLine) : GateLine :=
  { l with gate := l.gate.leave id, visitors := l.visitors.filter (·.1 != id) }.onTime
    (·.forget (.visitor id)) |>.wakeHead

/-- Visitors come one after the other.  How their visits ended, if all did within `span`
milliseconds. -/
def visitAll (deadlines : List (Option Nat)) (span : Nat) (l : GateLine) :
    Option (List Visit) × GateLine :=
  let (ids, l) := deadlines.foldl (fun (ids, l) deadline =>
    let (id, l) := arrive deadline l
    (ids ++ [id], l)) (([] : List Nat), l)
  let visits (l : GateLine) : Option (List Visit) := ids.mapM l.visit?
  let l := (Timed.await (fun l => (visits l).isSome) span l).2
  (visits l, l)

end GateLine

/-- A gate in diagnostics. -/
def Gate.describe (g : Gate) (name : String) : String :=
  "RateGate \x7b name: " ++ Quoted.quote name ++ ", period: " ++ (Span.ofMillis g.period).toText ++
    " \x7d"

end MapScout
