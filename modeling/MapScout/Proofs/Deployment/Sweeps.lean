import MapScout.Deployment.Station
import MapScout.Proofs.Dispatch.Remains
import MapScout.Proofs.Tunnel.Remains

/-!
# Sweeps go unnoticed

A dispatcher and a broker that share one store, while the inventory is swept from time to time.  A
sweep takes away the records of dead proxies.  As nobody looks for those, and as a record that is
gone counts as dead, the run without the sweeps shows the same at every moment.
-/

namespace MapScout.Station

inductive Event where
  /-- Something happens to the dispatcher, if there is one. -/
  | dispatch (e : World.Event)
  /-- Something happens to the broker, if there is one. -/
  | tunnel (e : Broker.Event)
  /-- The inventory is swept. -/
  | sweep

namespace Event

def isSweep : Event → Bool
  | sweep | dispatch .sweep => true
  | _ => false

end Event

def happen (e : Event) (s : Station) : Station :=
  match e with
  | .dispatch e => s.changeWorld (·.happen e)
  | .tunnel e => s.changeBroker (·.happen e)
  | .sweep => s.sweep.2

def run (s : Station) (events : List Event) : Station := events.foldl (fun s e => s.happen e) s

/-- All of two stations is the same, but for the records of dead proxies. -/
structure Unnoticed (s s' : Station) : Prop where
  /-- The tasks with their results and times, the log of the operations, the board, the counters,
  the pool, the gates and the clocks. -/
  dispatcher : s'.world.map (·.withStore {}) = s.world.map (·.withStore {})
  /-- The connections with their numbers, the registry, the calls with their results and times, the
  links, and the clock. -/
  broker : s'.broker.map (·.withStore {}) = s.broker.map (·.withStore {})
  accounts : s'.store.inventory.accounts = s.store.inventory.accounts
  living : Inventory.living s'.store.inventory.proxies = Inventory.living s.store.inventory.proxies
  claimed : s'.store.inventory.proxies.filter (·.inUse) =
    s.store.inventory.proxies.filter (·.inUse)
  maxProxyId : s'.store.inventory.maxProxyId = s.store.inventory.maxProxyId
  objects : s'.store.objects = s.store.objects

/-- Two stations that differ in their dead proxies only. -/
structure Matches (s s' : Station) : Prop where
  store : s.store.Matches s'.store
  world : s'.world.map (·.withStore {}) = s.world.map (·.withStore {})
  broker : s'.broker.map (·.withStore {}) = s.broker.map (·.withStore {})

namespace Matches

variable {s s' : Station}

theorem unnoticed (h : s.Matches s') : Unnoticed s s' where
  dispatcher := h.world
  broker := h.broker
  accounts := h.store.inventory.accounts
  living := h.store.inventory.living
  claimed := h.store.inventory.claimed
  maxProxyId := h.store.inventory.maxProxyId
  objects := h.store.objects

/-- What keeps two dispatchers alike keeps their stations alike: the broker sees the same store. -/
theorem changeWorld (h : s.Matches s') {f : World → World}
    (hf : ∀ {w w' : World}, w.Matches w' → (f w).Matches (f w')) :
    (s.changeWorld f).Matches (s'.changeWorld f) := by
  have hworld := h.world
  unfold Station.changeWorld onWorld
  cases hw : s.world with
  | none =>
      rw [hw, Option.map_none, Option.map_eq_none_iff] at hworld
      rw [hworld]
      exact h
  | some w =>
      rw [hw, Option.map_some, Option.map_eq_some_iff] at hworld
      obtain ⟨w', hw', hsame⟩ := hworld
      have hrest := congrArg (World.withStore s'.store) hsame
      have hmatches : (w.withStore s.store).Matches (w'.withStore s'.store) :=
        ⟨s'.store, hrest, h.store⟩
      obtain ⟨store, heq, hstore⟩ := hf hmatches
      have heq : f { w' with store := s'.store } =
        (f { w with store := s.store }).withStore store := heq
      rw [hw']
      refine ⟨?_, ?_, h.broker⟩
      · dsimp only
        rw [heq]
        exact hstore
      · dsimp only
        rw [heq]
        rfl

/-- What keeps two brokers alike keeps their stations alike: the dispatcher sees the same store. -/
theorem changeBroker (h : s.Matches s') {f : Broker → Broker}
    (hf : ∀ {b b' : Broker}, b.Matches b' → (f b).Matches (f b')) :
    (s.changeBroker f).Matches (s'.changeBroker f) := by
  have hbroker := h.broker
  unfold Station.changeBroker onBroker
  cases hb : s.broker with
  | none =>
      rw [hb, Option.map_none, Option.map_eq_none_iff] at hbroker
      rw [hbroker]
      exact h
  | some b =>
      rw [hb, Option.map_some, Option.map_eq_some_iff] at hbroker
      obtain ⟨b', hb', hsame⟩ := hbroker
      have hrest := congrArg (Broker.withStore s'.store) hsame
      have hmatches : (b.withStore s.store).Matches (b'.withStore s'.store) :=
        ⟨s'.store, hrest, h.store⟩
      obtain ⟨store, heq, hstore⟩ := hf hmatches
      have heq : f { b' with store := s'.store } =
        (f { b with store := s.store }).withStore store := heq
      rw [hb']
      refine ⟨?_, h.world, ?_⟩
      · dsimp only
        rw [heq]
        exact hstore
      · dsimp only
        rw [heq]
        rfl

/-- The same happens to both. -/
theorem happen (h : s.Matches s') {e : Event} (he : e.isSweep = false) :
    (s.happen e).Matches (s'.happen e) := by
  cases e with
  | dispatch e =>
      refine h.changeWorld fun hw => hw.happen ?_
      rintro rfl
      cases he
  | tunnel e => exact h.changeBroker fun hb => hb.happen e
  | sweep => cases he

/-- Only one of the two is swept. -/
theorem sweep_right (h : s.Matches s') {e : Event} (he : e.isSweep = true) :
    s.Matches (s'.happen e) := by
  have hstore := h.store.sweep_right
  cases e with
  | dispatch e =>
      cases e with
      | sweep =>
          rw [Station.happen]
          unfold Station.changeWorld onWorld
          cases hw' : s'.world with
          | none => exact h
          | some w' => exact ⟨hstore, by rw [← h.world, hw']; rfl, h.broker⟩
      | _ => cases he
  | tunnel e => cases he
  | sweep => exact ⟨hstore, h.world, h.broker⟩

end Matches

/-- Sweeps at any points of a run change nothing that is shown. -/
theorem sweeps_unnoticed {s : Station} (h : Inventory.Orderly s.store.inventory.proxies)
    (events : List Event) :
    Unnoticed (s.run (events.filter (!·.isSweep))) (s.run events) := by
  have hself : s.Matches s := ⟨⟨.refl h, rfl, rfl⟩, rfl, rfl⟩
  -- the two runs are at different events, so the induction is over any two stations that match
  suffices hrun : ∀ {s s' : Station}, s.Matches s' →
      (s.run (events.filter (!·.isSweep))).Matches (s'.run events) from (hrun hself).unnoticed
  clear hself h
  induction events with
  | nil => exact fun h => h
  | cons e events ih =>
      intro s s' h
      cases he : e.isSweep with
      | true =>
          rw [List.filter_cons_of_neg (by simp [he])]
          exact ih (h.sweep_right he)
      | false =>
          rw [List.filter_cons_of_pos (by simp [he])]
          exact ih (h.happen he)

def oneAccount : Station where
  store := { inventory := { accounts := [⟨"ann", "pw", "x", false, false, false⟩] } }
  world := some {}
  broker := some {}

/-- Two agents connect and the first one is lost.  Between two sweeps a session is built, and its
login begins. -/
def lostAgent : List Event :=
  [.tunnel .attach, .tunnel .attach, .tunnel (.link 0 fun l => { l with hasAgent := false }),
    .tunnel (.turn (.reader 0)), .tunnel (.turn (.writer 0)), .tunnel (.turn (.reader 0)), .sweep,
    .dispatch (.preload 1), .dispatch (.turn (.task 0)), .dispatch (.turn (.task 0)), .sweep]

theorem sweeps_unnoticed_lostAgent :
    Inventory.Orderly oneAccount.store.inventory.proxies ∧
      (oneAccount.run lostAgent).store.inventory.proxies = [⟨2, true, false⟩] ∧
      (oneAccount.run (lostAgent.filter (!·.isSweep))).store.inventory.proxies =
        [⟨1, false, true⟩, ⟨2, true, false⟩] ∧
      (oneAccount.run lostAgent).world.map (·.log) =
        some [.created "ann" 0, .loggedIn "ann" 2 false 0] ∧
      Unnoticed (oneAccount.run (lostAgent.filter (!·.isSweep))) (oneAccount.run lostAgent) :=
  ⟨.nil, by decide +kernel, by decide +kernel, by decide +kernel, sweeps_unnoticed .nil lostAgent⟩

end MapScout.Station
