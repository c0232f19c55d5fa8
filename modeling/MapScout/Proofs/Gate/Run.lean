import MapScout.Proofs.Gate.Forecast
import MapScout.Proofs.Timeline

/-!
# Runs of a line

A run is a list of events: visitors come, whoever is in line takes turns, in any order and woken or
not, and the clock moves on.  The runs that the timeline brings about are timely: the clock moves
only when nobody is ready, and never past an alarm.
-/

namespace MapScout.GateLine

inductive Event where
  /-- A visitor or the gate itself takes its turn. -/
  | turn (o : LineOwner)
  /-- The clock moves on. -/
  | pass (now : Nat)
  /-- A visitor comes. -/
  | arrive (deadline : Option Nat)
  deriving DecidableEq, Repr

/-- One of them has its turn, and is not ready for another until it is woken again. -/
def beginTurn (o : LineOwner) (l : GateLine) : GateLine :=
  l.onTime fun t => { t with ready := t.ready.erase o }

def happen (e : Event) (l : GateLine) : GateLine :=
  match e with
  | .turn o => GateLine.turn o (l.beginTurn o)
  | .pass now => l.onTime (·.advance now)
  | .arrive deadline => (l.arrive deadline).2

def run (l : GateLine) (events : List Event) : GateLine := events.foldl (fun l e => l.happen e) l

def IsWaiting (l : GateLine) : Prop := l.time.ready = []

instance (l : GateLine) : Decidable l.IsWaiting := inferInstanceAs (Decidable (_ = []))

/-- The clock moves only when nobody is ready, and not past an alarm. -/
def IsTimely (l : GateLine) : Event → Prop
  | .pass now => l.IsWaiting ∧ ∀ a ∈ l.time.alarms, now ≤ a.due
  | _ => True

def Timely : GateLine → List Event → Prop
  | _, [] => True
  | l, e :: events => l.IsTimely e ∧ (l.happen e).Timely events

instance (l : GateLine) (e : Event) : Decidable (l.IsTimely e) :=
  match e with
  | .pass _ => inferInstanceAs (Decidable (_ ∧ _))
  | .turn _ | .arrive _ => inferInstanceAs (Decidable True)

instance decidableTimely : (l : GateLine) → (events : List Event) → Decidable (l.Timely events)
  | _, [] => inferInstanceAs (Decidable True)
  | l, e :: events =>
    have := decidableTimely (l.happen e) events
    inferInstanceAs (Decidable (_ ∧ _))

theorem timely_append {l : GateLine} {xs ys : List Event} :
    l.Timely (xs ++ ys) ↔ l.Timely xs ∧ (l.run xs).Timely ys := by
  induction xs generalizing l with
  | nil => exact ⟨fun h => ⟨trivial, h⟩, And.right⟩
  | cons e xs ih => exact (and_congr_right fun _ => ih).trans and_assoc.symm

theorem run_append (l : GateLine) (xs ys : List Event) : l.run (xs ++ ys) = (l.run xs).run ys :=
  List.foldl_append ..

/-! ## What is seen of a run -/

/-- Who gets in line at an event.  A visitor does at its first turn. -/
def comingsAt (l : GateLine) : Event → List Coming
  | .turn (.visitor id) =>
    match l.visitors.lookup id with
    | some ⟨deadline, .arriving⟩ => [⟨id, l.now, deadline⟩]
    | _ => []
  | _ => []

def comings (l : GateLine) : List Event → List Coming
  | [] => []
  | e :: events => l.comingsAt e ++ (l.happen e).comings events

/-- Who takes a token at an event. -/
def grantsAt (l : GateLine) : Event → List Nat
  | .turn (.visitor id) =>
    if l.visit? id = none ∧ ((l.happen (.turn (.visitor id))).visit? id).any (·.granted) then [id]
    else []
  | _ => []

def grants (l : GateLine) : List Event → List Nat
  | [] => []
  | e :: events => l.grantsAt e ++ (l.happen e).grants events

theorem comings_append (l : GateLine) (xs ys : List Event) :
    l.comings (xs ++ ys) = l.comings xs ++ (l.run xs).comings ys := by
  induction xs generalizing l with
  | nil => rfl
  | cons e xs ih => rw [List.cons_append, comings, comings, ih, List.append_assoc]; rfl

/-! ## The timeline -/

theorem step?_eq_some {l l' : GateLine} (h : Timed.step? l = some l') :
    ∃ o ∈ l.time.ready, l' = l.happen (.turn o) := by
  rw [Timed.step?] at h
  split at h
  · cases h
  · rename_i o rest hready
    change l.time.ready = o :: rest at hready
    obtain rfl := Option.some.inj h
    refine ⟨o, hready ▸ List.mem_cons_self, ?_⟩
    have herase : l.time.ready.erase o = rest := by rw [hready, List.erase_cons_head]
    simp only [happen, beginTurn, onTime, herase]
    rfl

/-- The runs that the timeline brings about are timely. -/
theorem exists_run_of_runUntil (done : GateLine → Bool) (limit turns : Nat) (l : GateLine) :
    ∃ events, l.Timely events ∧ Timed.runUntil done limit turns l = l.run events := by
  refine Timed.runUntil_induction
    (R := fun (l l' : GateLine) => ∃ events, l.Timely events ∧ l' = l.run events)
    ?_ ?_ ?_ done limit turns l
  · exact fun l => ⟨[], trivial, rfl⟩
  · rintro l l' _ hstep ⟨events, htimely, rfl⟩
    obtain ⟨o, -, rfl⟩ := step?_eq_some hstep
    exact ⟨.turn o :: events, ⟨trivial, htimely⟩, rfl⟩
  · rintro l _ now hready hnow ⟨events, htimely, rfl⟩
    exact ⟨.pass now :: events, ⟨⟨hready, hnow⟩, htimely⟩, rfl⟩

end MapScout.GateLine
