import MapScout.Number.Power
/-!
# Timeline

A clock in whole milliseconds on which tasks wait.  Time stands still while a task is ready to go on
and then moves straight to the next alarm.  Ready tasks take their turns first come, first served; of
several alarms due at one moment the one set first goes off first.
-/

namespace MapScout

/-- A moment at which somebody wants to be woken. -/
structure Alarm (ι : Type) where
  due : Nat
  owner : ι
  deriving Repr

structure Timeline (ι : Type) where
  /-- Milliseconds since the start. -/
  now : Nat := 0
  /-- In the order in which they were set. -/
  alarms : List (Alarm ι) := []
  /-- Who is ready to go on, the next one first. -/
  ready : List ι := []
  deriving Repr, Inhabited

namespace Timeline

variable {ι : Type} [BEq ι]

/-- Lets somebody go on after all who are ready already. -/
def wake (i : ι) (t : Timeline ι) : Timeline ι :=
  if t.ready.contains i then t else { t with ready := t.ready ++ [i] }

/-- Lets somebody go on before all others. -/
def continue_ (i : ι) (t : Timeline ι) : Timeline ι :=
  { t with ready := i :: t.ready.filter (· != i) }

/-- Sets an alarm, unless its owner has one for that moment. -/
def setAlarm (due : Nat) (i : ι) (t : Timeline ι) : Timeline ι :=
  if t.alarms.any fun a => a.due == due && a.owner == i then t
  else { t with alarms := t.alarms ++ [⟨due, i⟩] }

/-- Takes back all alarms of an owner. -/
def clearAlarms (i : ι) (t : Timeline ι) : Timeline ι :=
  { t with alarms := t.alarms.filter (·.owner != i) }

/-- Forgets an owner altogether. -/
def forget (i : ι) (t : Timeline ι) : Timeline ι :=
  { t.clearAlarms i with ready := t.ready.filter (· != i) }

/-- The moment of the next alarm. -/
def nextDue? (t : Timeline ι) : Option Nat := (t.alarms.map (·.due)).min?

/-- Moves the clock and wakes the owners of the alarms that are due. -/
def advance (now : Nat) (t : Timeline ι) : Timeline ι :=
  let (due, later) := t.alarms.partition (·.due ≤ now)
  due.foldl (fun t a => t.wake a.owner) { t with now := max t.now now, alarms := later }

end Timeline

/-- A system whose parts wait on a timeline and take turns. -/
class Timed (σ : Type) (ι : outParam Type) where
  time : σ → Timeline ι
  setTime : Timeline ι → σ → σ
  /-- The turn of one part of the system. -/
  turn : ι → σ → σ

namespace Timed

variable {σ ι : Type} [BEq ι] [Timed σ ι]

/-- The next turn, if somebody is ready. -/
def step? (s : σ) : Option σ :=
  match (time s).ready with
  | [] => none
  | i :: rest => some (turn i (setTime { time s with ready := rest } s))

/-- Lets turns be taken until nobody is ready. -/
def settle : (turns : Nat) → σ → σ
  | 0, s => s
  | turns + 1, s =>
    match step? s with
    | none => s
    | some s' => settle turns s'

/-- Lets time pass until `done` holds with nobody ready, or until `limit` is reached. -/
def runUntil (done : σ → Bool) (limit : Nat) : (turns : Nat) → σ → σ
  | 0, s => s
  | turns + 1, s =>
    match step? s with
    | some s' => runUntil done limit turns s'
    | none =>
      if done s then s
      else
        match (time s).nextDue? with
        | some due =>
          if due ≤ limit then
            runUntil done limit turns (setTime ((time s).advance due) s)
          else setTime ((time s).advance limit) s
        | none => setTime ((time s).advance limit) s

/-- More turns than any run takes. -/
def plenty : Nat := tenTo 9

/-- Lets time pass until `done` holds, but not longer than `span` milliseconds; the flag says whether
it came to hold. -/
def await (done : σ → Bool) (span : Nat) (s : σ) : Bool × σ :=
  let s := runUntil done ((time s).now + span) plenty s
  (done s, s)

end Timed

end MapScout
