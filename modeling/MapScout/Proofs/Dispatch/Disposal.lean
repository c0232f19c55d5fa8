import MapScout.Proofs.Dispatch.Deadlines
import MapScout.Proofs.Dispatch.Partings

/-!
# What becomes of the sessions of scans

A scan that has come to a session keeps it until it ends, and its last turn is the only one in which
anything happens to the session: it is dropped if it is spent, and otherwise kept for the pool.  In
all other turns of the scan no session is dropped, and none is put into the pool.
-/

namespace MapScout.World

variable {w w' start : World} {id : Nat} {scan : Scan} {s : Session} {news : Option ClientError}
variable {pool : Pool Session} {σ : Seat}

/-- The session that a scan has when its turn comes: the one that it works with, or the one that
lies ready for it. -/
def hand? (id : Nat) (w : World) : Option Session :=
  match w.seat? id with
  | some σ => some σ.session
  | none => w.pool.handed.lookup id

/-- What the scan learns of that session in its turn. -/
def tidings (id : Nat) (s : Session) (w : World) : Option ClientError :=
  match w.seat? id with
  | some σ => σ.news w.now
  | none => w.foundOut s

/-- No session has been dropped, and none has been put into the pool. -/
structure PartsWithNone (w w' : World) : Prop where
  evictions : w'.counters.evictions = w.counters.evictions
  arrivals : w'.pool.arrivals = w.pool.arrivals
  buffer : w'.pool.buffer = w.pool.buffer
  cooling : w'.cooling = w.cooling

/-- A scan has ended with a session, which has been dropped if it is spent and kept otherwise. -/
def Disposes (s : Session) (news : Option ClientError) (w w' : World) : Prop :=
  if (w.lastLook s news).isSpent then w.Drops s news w' else w.Saves s w'

def IsOver (id at_ : Nat) (w : World) : Prop :=
  ∃ scan result, w.task? id = some (.scan scan) ∧ scan.stage = .finished result at_

/-- A scan comes to its end and parts with the session `s`. -/
structure EndsWith (id : Nat) (s : Session) (w w' : World) : Prop where
  hand : w.hand? id = some s
  ended : w'.IsOver id w.now
  disposes : w.Disposes s (w.tidings id s) w'

/-- What one turn of a scan can do. -/
inductive ScanGoes (id : Nat) (w w' : World) : Prop where
  /-- It keeps the session that it has, if it has one. -/
  | keeps (h : w.PartsWithNone w') (hkept : ∀ s, w.hand? id = some s →
      ∃ σ, w'.seat? id = some σ ∧ σ.session.username = s.username)
  | ends {s : Session} (h : w.EndsWith id s w')

/-! ## One turn -/

theorem Retains.partsWithNone (h : w.Retains w') : w.PartsWithNone w' where
  evictions := h.evictions
  arrivals := congrArg Pool.arrivals h.pool
  buffer := congrArg Pool.buffer h.pool
  cooling := h.cooling

/-- A turn has begun in which something may have been collected from the pool. -/
structure Starts (w start : World) : Prop where
  tasks : start.tasks = w.tasks
  store : start.store = w.store
  board : start.board = w.board
  evictions : start.counters.evictions = w.counters.evictions
  config : start.config = w.config
  cooling : start.cooling = w.cooling
  nextId : start.nextId = w.nextId
  now : start.now = w.now
  isOpen : start.pool.isOpen = w.pool.isOpen
  arrivals : start.pool.arrivals = w.pool.arrivals
  buffer : start.pool.buffer = w.pool.buffer

namespace Starts

theorem begin (w : World) (id : Nat) : w.Starts (w.beginTurn (.task id)) :=
  ⟨rfl, rfl, rfl, rfl, rfl, rfl, rfl, rfl, rfl, rfl, rfl⟩

/-- A task takes what lies ready for it. -/
theorem collect (hcollect : w.pool.collect? id = some (s, pool)) :
    w.Starts (World.beginTurn (.task id) { w with pool }) := by
  obtain ⟨-, rfl⟩ := Pool.lookup_of_collect? hcollect
  exact ⟨rfl, rfl, rfl, rfl, rfl, rfl, rfl, rfl, rfl, rfl, rfl⟩

/-- A turn begins in which the task has left the queue of the pool. -/
theorem leave (w : World) (id : Nat) :
    w.Starts (World.beginTurn (.task id) { w with pool := (w.pool.leave id).2 }) := by
  rw [Pool.leave_eq]
  exact ⟨rfl, rfl, rfl, rfl, rfl, rfl, rfl, rfl, rfl, rfl, rfl⟩

theorem partsWithNone (h : w.Starts start) (hnone : start.PartsWithNone w') :
    w.PartsWithNone w' where
  evictions := hnone.evictions.trans h.evictions
  arrivals := hnone.arrivals.trans h.arrivals
  buffer := hnone.buffer.trans h.buffer
  cooling := hnone.cooling.trans h.cooling

theorem drops (h : w.Starts start) (hdrops : start.Drops s news w') : w.Drops s news w' where
  evictions := by rw [hdrops.evictions, h.evictions]
  board := by rw [hdrops.board, h.board]
  inventory := by rw [hdrops.inventory, lastLook, lastLook, h.store]
  arrivals := hdrops.arrivals.trans h.arrivals
  buffer := hdrops.buffer.trans h.buffer
  cooling := hdrops.cooling.trans h.cooling

theorem saves (h : w.Starts start) (hsaves : start.Saves s w') : w.Saves s w' := by
  obtain ⟨hevictions, hboard, hinventory, halive, s', haccount, hproxy, hput⟩ := hsaves
  obtain ⟨hbuffer, hmailed, hlaid⟩ := hput
  rw [h.config, h.arrivals, h.cooling] at hmailed
  rw [h.config, h.arrivals, h.cooling, h.nextId] at hlaid
  rw [h.store] at hinventory
  exact ⟨hevictions.trans h.evictions, hboard.trans h.board, hinventory, halive, s', haccount,
    hproxy, hbuffer.trans h.buffer, hmailed, hlaid⟩

/-- How a session is disposed of may be said from the beginning of the event on. -/
theorem disposes (h : w.Starts start) (hdisposes : start.Disposes s news w') :
    w.Disposes s news w' := by
  have hlook : start.lastLook s news = w.lastLook s news := by rw [lastLook, lastLook, h.store]
  rw [Disposes, hlook] at hdisposes
  rw [Disposes]
  split at hdisposes
  · rw [if_pos ‹_›]
    exact h.drops hdisposes
  · rw [if_neg ‹_›]
    exact h.saves hdisposes

end Starts

/-- How the turn of a scan ends that has a session. -/
theorem Fares.goes (h : Fares start id s news w') (hstarts : w.Starts start)
    (hfaultless : w.store.Faultless) (hopen : w.pool.isOpen = true) (hid : (w.task? id).isSome)
    (hhand : w.hand? id = some s) (hnews : w.tidings id s = news) : ScanGoes id w w' := by
  have hfaultless : start.store.Faultless := hstarts.store ▸ hfaultless
  have htask : start.task? id = w.task? id := task?_congr hstarts.tasks id
  cases h with
  | @works v s' scan attempt wait h hname =>
      refine .keeps (hstarts.partsWithNone ?_) fun s₀ hs₀ => ?_
      · have hkept := h.partsWithNone
        exact ⟨hkept.1, hkept.2, hkept.3, hkept.4⟩
      · obtain rfl := Option.some.inj (hhand.symm.trans hs₀)
        refine ⟨⟨.scan attempt, s', wait, scan.deadline⟩, ?_, hname⟩
        rw [work, proceed]
        exact seat?_setTask h.tasks (by rwa [htask]) _ _
  | @parts v s' scan result h =>
      have hdisposed : (v.disposeOf s').now = w.now := by
        rw [(Calm.disposeOf s').now, h.now, hstarts.now]
      have hid' : ((v.disposeOf s').task? id).isSome := by
        rwa [task?_congr ((tasks_disposeOf s').trans h.tasks), htask]
      have hended := @task?_finishScan _ id scan hid' result
      refine .ends ⟨hhand, ⟨_, result, hended, by rw [hdisposed]⟩, hstarts.disposes ?_⟩
      · rw [hnews, Disposes]
        split
        · rename_i hspent
          exact drops_of_spent hfaultless h hspent result
        · rename_i hfit
          exact saves_of_fit hfaultless (hstarts.isOpen.trans hopen) h (by simpa using hfit) result

/-- A scan that has no session yet, and for which none lies ready. -/
theorem scanGoes_of_none (hhand : w.hand? id = none) (h : w.PartsWithNone w') :
    ScanGoes id w w' := by
  refine .keeps h fun s hs => ?_
  rw [hhand] at hs
  cases hs

/-- A scan that is to build a session has none to part with. -/
theorem partsWithNone_acquireNew (id : Nat) (scan : Scan) (w : World) :
    w.PartsWithNone (w.acquireNew id scan) := by
  have hprovisioned := Retains.deals (.provision (w := w))
  rw [acquireNew]
  split
  · rename_i s v hprovision
    rw [hprovision] at hprovisioned
    obtain ⟨u, wait, hquiet, heq⟩ := beginWork_works id scan s (v.show_ s)
    have hkept := ((hprovisioned.trans (.deals (.show_ s))).trans (.quiet hquiet)).partsWithNone
    rw [heq]
    exact ⟨hkept.1, hkept.2, hkept.3, hkept.4⟩
  · rename_i e v hprovision
    rw [hprovision] at hprovisioned
    have hkept := hprovisioned.partsWithNone
    exact ⟨(evictions_finishScan ..).trans hkept.1, hkept.2, hkept.3, hkept.4⟩

theorem hand?_of_seat? (hseat : w.seat? id = some σ) : w.hand? id = some σ.session := by
  rw [hand?, hseat]

theorem tidings_of_seat? (hseat : w.seat? id = some σ) (s : Session) :
    w.tidings id s = σ.news w.now := by
  rw [tidings, hseat]

theorem hand?_of_none (hseat : w.seat? id = none) : w.hand? id = w.pool.handed.lookup id := by
  rw [hand?, hseat]

/-- For a scan that does not wait for the pool nothing lies ready. -/
theorem hand?_eq_none (h : w.Attentive) (hscan : w.task? id = some (.scan scan))
    (hasking : scan.stage.isAsking = false) (hseat : w.seat? id = none) : w.hand? id = none := by
  rw [hand?_of_none hseat]
  exact Keyed.lookup_eq_none (h.not_handed (not_isAsking hscan hasking))

/-- A scan that is given a session has its turn. -/
theorem scanGoes_acquire (hscan : w.task? id = some (.scan scan)) (hseat : w.seat? id = none)
    (hfaultless : w.store.Faultless) (hopen : w.pool.isOpen = true) (hstarts : w.Starts start)
    (hhanded : w.pool.handed.lookup id = some s) :
    ScanGoes id w (start.acquire id scan s) := by
  have hfares : Fares start id s (start.foundOut s) (start.acquire id scan s) :=
    fares_acquire (hstarts.store ▸ hfaultless) s
  refine hfares.goes hstarts hfaultless hopen (Option.isSome_of_eq_some hscan) ?_ ?_
  · rwa [hand?_of_none hseat]
  · rw [tidings, hseat, foundOut, foundOut, hstarts.store]

section ScanTurn

variable {place : Place} {deadline : Nat} (h : w.Attentive) (hfaultless : w.store.Faultless)

include h hfaultless

/-- A scan in the queue collects a session, waits on, or leaves the queue at its deadline. -/
theorem scanTurn_goes_checkout {until_ : Nat}
    (hscan : w.task? id = some (.scan ⟨place, deadline, .checkout until_⟩)) :
    ScanGoes id w ((w.beginTurn (.task id)).scanTurn id ⟨place, deadline, .checkout until_⟩) := by
  have hseat := seat?_of_task hscan
  have hsame : (w.beginTurn (.task id)).pool = w.pool := rfl
  rw [scanTurn]
  dsimp only
  rw [hsame]
  cases hcollect : w.pool.collect? id with
  | some result =>
      exact scanGoes_acquire hscan hseat hfaultless h.isOpen (.collect hcollect)
        (Pool.lookup_of_collect? hcollect).1
  | none =>
      have hhand : w.hand? id = none := by
        rw [hand?_of_none hseat]
        exact Keyed.lookup_eq_none (Pool.lookup_of_collect?_eq_none hcollect)
      refine scanGoes_of_none hhand ?_
      dsimp only
      split
      · exact ⟨evictions_finishScan .., rfl, rfl, rfl⟩
      · split <;> exact ⟨rfl, rfl, rfl, rfl⟩

/-- A scan that leaves the queue takes what was handed to it meanwhile, or builds a session. -/
theorem scanTurn_goes_leaving
    (hscan : w.task? id = some (.scan ⟨place, deadline, .leaving⟩)) :
    ScanGoes id w ((w.beginTurn (.task id)).scanTurn id ⟨place, deadline, .leaving⟩) := by
  have hseat := seat?_of_task hscan
  have hstarts := Starts.leave w id
  have hleft : (w.beginTurn (.task id)).pool.leave id =
      (w.pool.handed.lookup id, (w.pool.leave id).2) := by
    rw [show (w.beginTurn (.task id)).pool = w.pool from rfl, Pool.leave_eq]
  rw [scanTurn]
  dsimp only
  rw [hleft]
  cases hhanded : w.pool.handed.lookup id with
  | some s => exact scanGoes_acquire hscan hseat hfaultless h.isOpen hstarts hhanded
  | none =>
      have hhand : w.hand? id = none := (hand?_of_none hseat).trans hhanded
      exact scanGoes_of_none hhand (hstarts.partsWithNone (partsWithNone_acquireNew ..))

/-- A scan at work goes on or ends. -/
theorem scanTurn_goes_working {attempt : Attempt} {wait : ScanWait}
    (hscan : w.task? id = some (.scan ⟨place, deadline, .working s attempt wait⟩)) :
    ScanGoes id w ((w.beginTurn (.task id)).scanTurn id
      ⟨place, deadline, .working s attempt wait⟩) := by
  have hseat := seat?_of_task hscan
  have hstarts := Starts.begin w id
  have hhand := hand?_of_seat? hseat
  rw [scanTurn]
  rcases fares_workTurn (w := w.beginTurn (.task id)) id
    ⟨place, deadline, .working s attempt wait⟩ s attempt wait with hretains | hfares
  · refine .keeps (hstarts.partsWithNone hretains.partsWithNone) fun s₀ hs₀ => ?_
    obtain rfl := Option.some.inj (hhand.symm.trans hs₀)
    exact ⟨_, (seat?_congr (task?_congr hretains.tasks id)).trans hseat, rfl⟩
  · exact hfares.goes hstarts hfaultless h.isOpen (Option.isSome_of_eq_some hscan) hhand
      (tidings_of_seat? hseat s)

theorem scanTurn_goes (hscan : w.task? id = some (.scan scan)) :
    ScanGoes id w ((w.beginTurn (.task id)).scanTurn id scan) := by
  obtain ⟨place, deadline, stage⟩ := scan
  have hseat := seat?_of_task hscan
  cases stage with
  | planned start =>
      refine scanGoes_of_none (hand?_eq_none h hscan rfl hseat) ?_
      rw [scanTurn]
      dsimp only
      split
      · split
        · exact ⟨rfl, rfl, rfl, rfl⟩
        · exact ⟨evictions_finishScan .., rfl, rfl, rfl⟩
      · exact ⟨rfl, rfl, rfl, rfl⟩
  | checkout until_ => exact scanTurn_goes_checkout h hfaultless hscan
  | leaving => exact scanTurn_goes_leaving h hfaultless hscan
  | working s attempt wait => exact scanTurn_goes_working h hfaultless hscan
  | finished result at_ =>
      exact scanGoes_of_none (hand?_eq_none h hscan rfl hseat) ⟨rfl, rfl, rfl, rfl⟩

end ScanTurn

/-- What any turn of a scan can do. -/
theorem scanGoes_happen (h : w.Attentive) (hfaultless : w.store.Faultless)
    (hscan : w.task? id = some (.scan scan)) :
    ScanGoes id w (w.happen (.turn (.task id))) := by
  rw [happen_turn, turn_scan (w := w.beginTurn (.task id)) hscan]
  exact scanTurn_goes h hfaultless hscan

/-! ## A whole scan -/

/-- A scan that is over stays over. -/
theorem IsOver.run {at_ : Nat} (h : w.IsOver id at_) (events : List Event) :
    (w.run events).IsOver id at_ := by
  obtain ⟨scan, result, hscan, hstage⟩ := h
  exact ⟨scan, result, task?_run_of_finished hscan hstage events, hstage⟩

theorem IsOver.seat?_eq_none {at_ : Nat} (h : w.IsOver id at_) : w.seat? id = none := by
  obtain ⟨⟨place, deadline, stage⟩, result, hscan, rfl⟩ := h
  exact seat?_of_task hscan

theorem IsOver.hand?_eq_none {at_ : Nat} (h : w.IsOver id at_) (hw : w.Attentive) :
    w.hand? id = none := by
  obtain ⟨⟨place, deadline, stage⟩, result, hscan, rfl⟩ := h
  exact World.hand?_eq_none hw hscan rfl (seat?_of_task hscan)

/-- A scan that works with a session keeps it, or has ended and parted with it. -/
theorem seat?_or_ending (hw : w.Steady) (hscan : w.task? id = some (.scan scan))
    (hseat : w.seat? id = some σ) (events : List Event) :
    (∃ σ', (w.run events).seat? id = some σ' ∧ σ'.session.username = σ.session.username) ∨
      ∃ xs ys s, events = xs ++ .turn (.task id) :: ys ∧ s.username = σ.session.username ∧
        (w.run xs).EndsWith id s ((w.run xs).happen (.turn (.task id))) := by
  -- The session may be bound to another proxy, or get another ticket; its account stays.
  induction events generalizing w scan σ with
  | nil => exact .inl ⟨σ, hseat, rfl⟩
  | cons e events ih =>
      by_cases he : e = .turn (.task id)
      · subst he
        cases scanGoes_happen hw.attentive hw.faultless hscan with
        | keeps h hkept =>
            obtain ⟨σ', hseat', hname⟩ := hkept _ (hand?_of_seat? hseat)
            obtain ⟨scan', hscan', -⟩ := happen_scan hscan (.turn (.task id))
            have hgoes := ih (hw.happen _).steady hscan' hseat'
            rw [hname] at hgoes
            refine hgoes.imp_right ?_
            rintro ⟨xs, ys, s, rfl, hs, hends⟩
            exact ⟨.turn (.task id) :: xs, ys, s, rfl, hs, hends⟩
        | ends h =>
            obtain rfl := Option.some.inj ((hand?_of_seat? hseat).symm.trans h.hand)
            exact .inr ⟨[], events, _, rfl, rfl, h⟩
      · have hscan' := task?_happen_of_ne he hscan
        have hseat' := (seat?_congr (hscan'.trans hscan.symm)).trans hseat
        refine (ih (hw.happen e).steady hscan' hseat').imp_right ?_
        rintro ⟨xs, ys, s, rfl, hs, hends⟩
        exact ⟨e :: xs, ys, s, rfl, hs, hends⟩

/-- A scan that has a session in its turn parts with it when it ends. -/
theorem exists_ending {at_ : Nat} {events : List Event} (hw : w.Steady)
    (hscan : w.task? id = some (.scan scan)) (hhand : w.hand? id = some s)
    (hover : (w.run (.turn (.task id) :: events)).IsOver id at_) :
    ∃ xs ys s', .turn (.task id) :: events = xs ++ .turn (.task id) :: ys ∧
      s'.username = s.username ∧
      (w.run xs).EndsWith id s' ((w.run xs).happen (.turn (.task id))) := by
  cases scanGoes_happen hw.attentive hw.faultless hscan with
  | keeps h hkept =>
      obtain ⟨σ, hseat, hname⟩ := hkept s hhand
      obtain ⟨scan', hscan', -⟩ := happen_scan hscan (.turn (.task id))
      rcases seat?_or_ending (hw.happen _).steady hscan' hseat events with
        ⟨σ', hseat', -⟩ | ⟨xs, ys, s', rfl, hs', hends⟩
      · cases hseat'.symm.trans hover.seat?_eq_none
      · exact ⟨.turn (.task id) :: xs, ys, s', rfl, hs'.trans hname, hends⟩
  | ends h =>
      obtain rfl := Option.some.inj (hhand.symm.trans h.hand)
      exact ⟨[], events, s, rfl, rfl, h⟩

theorem Steady.run (h : w.Steady) (events : List Event) : (w.run events).Steady :=
  run_induction (fun _ e h => (h.happen e).steady) h events

/-- It parts with a session only once. -/
theorem EndsWith.eq_nil {o : Owner} {s' : Session} {v : World} {events : List Event}
    (hw : w.Steady) (h : w.EndsWith id s (w.happen (.turn o)))
    (h' : (w.run events).EndsWith id s' v) {ys ys' : List Event}
    (heq : .turn o :: ys = events ++ ys') : events = [] := by
  cases events with
  | nil => rfl
  | cons e events =>
      obtain ⟨rfl, -⟩ := List.cons.inj heq
      -- A scan that is over stays over, and has no session.
      have hover := h.ended.run events
      have hnone := hover.hand?_eq_none ((hw.happen (.turn o)).steady.run events).attentive
      cases hnone.symm.trans h'.hand

/-- A scan ends once. -/
theorem EndsWith.unique {s' : Session} {xs xs' ys ys' : List Event} (hw : w.Steady)
    (h : (w.run xs).EndsWith id s ((w.run xs).happen (.turn (.task id))))
    (h' : (w.run xs').EndsWith id s' ((w.run xs').happen (.turn (.task id))))
    (heq : xs ++ .turn (.task id) :: ys = xs' ++ .turn (.task id) :: ys') : xs' = xs := by
  rcases List.append_eq_append_iff.mp heq with ⟨zs, rfl, hzs⟩ | ⟨zs, rfl, hzs⟩
  · rw [run_append] at h'
    rw [h.eq_nil (hw.run xs) h' hzs, List.append_nil]
  · rw [run_append] at h
    rw [h'.eq_nil (hw.run xs') h hzs, List.append_nil]

/-- In the other turns of a scan nothing happens to any session but its own. -/
theorem partsWithNone_of_ne {xs ys zs zs' : List Event} (hw : w.Steady)
    (h : (w.run xs).EndsWith id s ((w.run xs).happen (.turn (.task id))))
    (heq : xs ++ .turn (.task id) :: ys = zs ++ .turn (.task id) :: zs') (hne : zs ≠ xs)
    (hscan : (w.run zs).task? id = some (.scan scan)) :
    (w.run zs).PartsWithNone ((w.run zs).happen (.turn (.task id))) := by
  have hzs := hw.run zs
  cases scanGoes_happen hzs.attentive hzs.faultless hscan with
  | keeps hnone => exact hnone
  | ends h' => exact absurd (h.unique hw h' heq) hne

end MapScout.World
