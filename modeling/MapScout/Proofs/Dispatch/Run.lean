import MapScout.Dispatch.Turn
import MapScout.Proofs.Timeline

/-!
# Runs of the dispatcher

A run is a list of events, and anything may happen at any moment: any part of the dispatcher may
take its turn, whether or not it was woken, the clock may move by any amount, scans and preloads
may be asked for, and the inventory may be changed from outside.  The runs that the timeline
brings about are among them, so that what holds of all runs here holds of the program.  They are
timely: the clock moves only when nobody is ready and never past an alarm.

A turn is one event, together with all its calls to the store and to the board.  These calls are
taken to answer at once, as those to a store in memory do: no task is suspended within one, so that
nothing can happen between two calls of one turn.  A task waits for a timer, for a token, for the
pool and for its client, and only there.
-/

namespace MapScout.World

/-- What can happen to a dispatcher. -/
inductive Event where
  /-- A part of it takes its turn, in which calls to the store and the board are not waited for. -/
  | turn (o : Owner)
  /-- The clock moves on. -/
  | pass (now : Nat)
  /-- The wall clock is read. -/
  | readWall
  | scan (place : Place) (start : Nat)
  | preload (count : Nat)
  /-- An agent connects and brings a proxy. -/
  | addProxy (id : ProxyId)
  /-- An agent disconnects, so that its proxy is dead. -/
  | loseProxy (id : ProxyId)
  /-- The inventory is swept. -/
  | sweep

/-- One part has its turn, and is not ready for another until it is woken again. -/
def beginTurn (o : Owner) (w : World) : World :=
  w.onTime fun t => { t with ready := t.ready.erase o }

def happen (e : Event) (w : World) : World :=
  match e with
  | .turn o => World.turn o (w.beginTurn o)
  | .pass now => w.onTime (·.advance now)
  | .readWall => w.syncWall
  | .scan place start => (w.spawn (.scan { place, stage := .planned start })).2
  | .preload count => (w.spawn (.preload { remaining := count })).2
  | .addProxy id => w.tellStore (·.addProxy { id })
  | .loseProxy id => w.tellStore (·.saveProxy { id, dead := true })
  | .sweep => w.tellStore Store.sweep

/-- A turn is that of a part that is then not ready any more. -/
theorem happen_turn (w : World) (o : Owner) : w.happen (.turn o) = (w.beginTurn o).turn o := rfl

def run (w : World) (events : List Event) : World := events.foldl (fun w e => w.happen e) w

/-- Whatever one event preserves, a run preserves. -/
theorem run_induction {P : World → Prop} (hstep : ∀ w e, P w → P (w.happen e)) {w : World}
    (hw : P w) (events : List Event) : P (w.run events) := by
  induction events generalizing w with
  | nil => exact hw
  | cons e events ih => exact ih (hstep w e hw)

def IsWaiting (w : World) : Prop := w.time.ready = []

instance (w : World) : Decidable w.IsWaiting := inferInstanceAs (Decidable (_ = []))

def addedProxies : List Event → List ProxyId :=
  List.filterMap fun
    | .addProxy id => some id
    | _ => none

theorem addedProxies_append (xs ys : List Event) :
    addedProxies (xs ++ ys) = addedProxies xs ++ addedProxies ys :=
  List.filterMap_append ..

theorem addedProxies_cons (e : Event) (events : List Event) :
    addedProxies (e :: events) = addedProxies [e] ++ addedProxies events :=
  List.filterMap_append (l := [e])

/-- A run up to an earlier moment brings proxies under new numbers, too. -/
theorem nodup_addedProxies {known : List ProxyId} {xs events : List Event}
    (hids : (known ++ addedProxies events).Nodup) (hxs : xs <+: events) :
    (known ++ addedProxies xs).Nodup :=
  hids.sublist ((List.Sublist.refl known).append (hxs.sublist.filterMap _))

/-- Whatever one event preserves that brings no known proxy, a run preserves in which every proxy is
brought once, where the proxies that are brought become known. -/
theorem run_induction_known {P : World → List ProxyId → Prop}
    (hstep : ∀ w known e, P w known → (known ++ addedProxies [e]).Nodup →
      P (w.happen e) (known ++ addedProxies [e])) {w : World} {known : List ProxyId}
    (hw : P w known) (events : List Event) (hids : (known ++ addedProxies events).Nodup) :
    P (w.run events) (known ++ addedProxies events) := by
  induction events generalizing w known with
  | nil =>
      rw [show addedProxies [] = [] from rfl, List.append_nil]
      exact hw
  | cons e events ih =>
      rw [addedProxies_cons, ← List.append_assoc] at hids ⊢
      exact ih (hstep w known e hw (List.nodup_append.mp hids).1) hids

/-! ## The timeline -/

/-- The clock moves only when nobody is ready, and not past an alarm. -/
def IsTimely (w : World) : Event → Prop
  | .pass now => w.time.ready = [] ∧ ∀ a ∈ w.time.alarms, now ≤ a.due
  | _ => True

def Timely : World → List Event → Prop
  | _, [] => True
  | w, e :: events => w.IsTimely e ∧ (w.happen e).Timely events

instance (w : World) (e : Event) : Decidable (w.IsTimely e) :=
  match e with
  | .pass _ => inferInstanceAs (Decidable (_ ∧ _))
  | .turn _ | .readWall | .scan .. | .preload _ | .addProxy _ | .loseProxy _ | .sweep =>
    inferInstanceAs (Decidable True)

instance decidableTimely : (w : World) → (events : List Event) → Decidable (w.Timely events)
  | _, [] => inferInstanceAs (Decidable True)
  | w, e :: events =>
    have := decidableTimely (w.happen e) events
    inferInstanceAs (Decidable (_ ∧ _))

theorem timely_append {w : World} {xs ys : List Event} :
    w.Timely (xs ++ ys) ↔ w.Timely xs ∧ (w.run xs).Timely ys := by
  induction xs generalizing w with
  | nil => exact ⟨fun h => ⟨trivial, h⟩, And.right⟩
  | cons e xs ih => exact (and_congr_right fun _ => ih).trans and_assoc.symm

/-- The dispatcher goes on by the turn of somebody who is ready. -/
theorem step?_eq_some {w w' : World} (h : Timed.step? w = some w') :
    ∃ o ∈ w.time.ready, w' = w.happen (.turn o) := by
  rw [Timed.step?] at h
  split at h
  · cases h
  · rename_i o rest hready
    change w.time.ready = o :: rest at hready
    obtain rfl := Option.some.inj h
    refine ⟨o, hready ▸ List.mem_cons_self, ?_⟩
    have herase : w.time.ready.erase o = rest := by rw [hready, List.erase_cons_head]
    simp only [happen, beginTurn, onTime, herase]
    rfl

/-- The runs that the timeline brings about are timely. -/
theorem exists_run_of_runUntil (done : World → Bool) (limit turns : Nat) (w : World) :
    ∃ events, w.Timely events ∧ Timed.runUntil done limit turns w = w.run events := by
  refine Timed.runUntil_induction
    (R := fun (w w' : World) => ∃ events, w.Timely events ∧ w' = w.run events)
    ?_ ?_ ?_ done limit turns w
  · exact fun w => ⟨[], trivial, rfl⟩
  · rintro w w' _ hstep ⟨events, htimely, rfl⟩
    obtain ⟨o, -, rfl⟩ := step?_eq_some hstep
    exact ⟨.turn o :: events, ⟨trivial, htimely⟩, rfl⟩
  · rintro w _ now hready hnow ⟨events, htimely, rfl⟩
    exact ⟨.pass now :: events, ⟨⟨hready, hnow⟩, htimely⟩, rfl⟩

end MapScout.World
