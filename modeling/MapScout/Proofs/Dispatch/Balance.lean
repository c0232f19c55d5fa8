import MapScout.Proofs.Dispatch.Reconciliation

/-!
# What the counters say

The dispatcher is run with a store that is in other hands as well.  Then the counters of the scans
are the numbers of scans that have come to such a result or are still under way, and the counter of
evictions makes up the difference between the sessions that there have ever been and those that
there are.
-/

namespace MapScout.World

variable {w : World} {initial : List Session} {sessions bound : Nat}

/-! ## Runs with a store in other hands -/

/-- What can happen to a dispatcher and to its store. -/
inductive Occurrence where
  | event (e : Event)
  /-- The store is changed from outside, in whatever way. -/
  | restock (store : Store)

def occur (w : World) : Occurrence → World
  | .event e => w.happen e
  | .restock store => { w with store }

def undergo (w : World) (occurrences : List Occurrence) : World :=
  occurrences.foldl (fun w o => w.occur o) w

def built : World → List Occurrence → Nat
  | _, [] => 0
  | w, .event e :: rest => (w.builds e).toNat + (w.happen e).built rest
  | w, .restock store :: rest => World.built { w with store } rest

/-- A dispatcher that has not begun.  Its pool has been given some sessions, and has taken in those
that were of use. -/
structure Untouched (initial : List Session) (w : World) : Prop where
  pool : w.pool = startPool initial
  tasks : w.tasks = []
  cooling : w.cooling = []
  counters : w.counters = {}

theorem Untouched.attentive (h : w.Untouched initial) : w.Attentive := by
  apply attentive_of_idle h.tasks h.cooling
  all_goals
    rw [h.pool]
    rfl

/-- A dispatcher that has not begun has counted nothing, and has the sessions that its pool took in.
-/
theorem Untouched.reconciled (h : w.Untouched initial) :
    w.Reconciled (startPool initial).buffer.length 0 := by
  refine ⟨h.attentive, ?_, ?_, ?_, ?_, ?_⟩
  · intro i t ht
    rw [task?, h.tasks] at ht
    cases ht
  · intro c
    rw [h.counters, scansAt, h.tasks]
    cases c <;> rfl
  · rw [pooled, inTransit, h.pool, h.cooling, h.tasks, h.counters]
    simp [startPool, ownedBy]
  · exact Nat.le_of_eq (congrArg List.length h.tasks)
  · exact Nat.le_of_eq (congrArg Counters.evictions h.counters)

/-- Whatever happens, the counters are those of the scans, and no session is lost uncounted. -/
theorem Reconciled.undergo (h : w.Reconciled sessions bound) (occurrences : List Occurrence) :
    (w.undergo occurrences).Reconciled (sessions + w.built occurrences)
      (bound + occurrences.length) := by
  induction occurrences generalizing w sessions bound with
  | nil => exact h
  | cons o rest ih =>
      cases o with
      | event e =>
          have hrest := ih (h.happen e)
          rw [List.length_cons, Nat.add_comm rest.length, ← Nat.add_assoc, built, ← Nat.add_assoc]
          exact hrest
      | restock store =>
          have hrest := ih (h.withStore store)
          exact hrest.mono (by rw [List.length_cons]; omega)

/-! ## Reading the counters -/

def running (w : World) : Nat := w.scansAt ScanStage.isRunning

def returnedOk (w : World) : Nat := w.scansAt (·.hasReturned Except.isOk)

def failedWith (p : ScanError → Bool) (w : World) : Nat :=
  w.scansAt (·.hasReturned (ScanError.among p))

/-- What the metrics say: every scan that has begun has ended well, has found no session, has failed
otherwise, or is under way; a scan whose time was up is one of the failures; and every session that
was `accepted` by the pool at first, or was `built`, is there or has been dropped. -/
structure Balances (accepted built : Nat) (w : World) : Prop where
  scans : (Metrics.ofCounters w.counters).scans.toNat = w.returnedOk +
    (Metrics.ofCounters w.counters).busy.toNat +
    (Metrics.ofCounters w.counters).failures.toNat + w.running
  busy : (Metrics.ofCounters w.counters).busy.toNat = w.failedWith (· = .busy)
  timeouts : (Metrics.ofCounters w.counters).timeouts.toNat = w.failedWith (· = .timeout)
  failures : (Metrics.ofCounters w.counters).failures.toNat = w.failedWith (· ≠ .busy)
  sessions : accepted + built = (w.inTransit ++ w.live).length +
    (Metrics.ofCounters w.counters).evictions.toNat
  sessions_waiting : w.IsWaiting → accepted + built = w.live.length +
    (Metrics.ofCounters w.counters).evictions.toNat

/-- A scan that has begun has come to one of four things. -/
theorem marks_scans (stage : ScanStage) :
    (Column.scans.marks stage).toNat = (stage.hasReturned Except.isOk).toNat +
      (stage.hasReturned (ScanError.among (· = .busy))).toNat +
      (stage.hasReturned (ScanError.among (· ≠ .busy))).toNat + stage.isRunning.toNat := by
  cases stage with
  | finished result at_ =>
      cases result with
      | ok objects => rfl
      | error e => cases e <;> rfl
  | _ => rfl

/-- The scans that have begun are those that have ended well, have found no session, have failed
otherwise, or are under way. -/
theorem scansAt_scans (w : World) :
    w.scansAt Column.scans.marks =
      w.returnedOk + w.failedWith (· = .busy) + w.failedWith (· ≠ .busy) + w.running := by
  have hcons (p : ScanStage → Bool) (entry : Nat × Task) (tasks : List (Nat × Task)) :
      (entry :: tasks).countP (·.2.isScanAt p) =
        tasks.countP (·.2.isScanAt p) + (entry.2.isScanAt p).toNat := by
    rw [List.countP_cons]
    cases entry.2.isScanAt p <;> rfl
  unfold returnedOk failedWith running scansAt
  induction w.tasks with
  | nil => rfl
  | cons entry tasks ih =>
      obtain ⟨id, t⟩ := entry
      rw [hcons, hcons, hcons, hcons, hcons, ih]
      cases t with
      | scan s =>
          have hmarks := marks_scans s.stage
          dsimp only [Task.isScanAt]
          omega
      | _ => simp [Task.isScanAt]

/-- A counter of results is the number of scans with such a result. -/
theorem scansAt_marks {c : Column} (hc : c.marksRunning = false) (w : World) :
    w.scansAt c.marks = w.scansAt (·.hasReturned c.counts) := by
  have hmarks : c.marks = (·.hasReturned c.counts) := by
    funext stage
    rw [Column.marks, hc, Bool.false_and, Bool.or_false]
  rw [hmarks]

/-- No counter overflows as long as fewer than 2^64 things have happened. -/
theorem Reconciled.of_lt (h : w.Reconciled sessions bound) (hbound : bound < twoTo 64) (c : Column) :
    c.of w.counters < twoTo 64 := by
  rw [h.columns]
  exact Nat.lt_of_le_of_lt (Nat.le_trans List.countP_le_length h.tasks_le) hbound

/-- Counters that are small enough are reported as they are. -/
theorem Reconciled.balances {accepted built : Nat} (h : w.Reconciled (accepted + built) bound)
    (hbound : bound < twoTo 64) : w.Balances accepted built := by
  have hscans : (Metrics.ofCounters w.counters).scans.toNat = w.scansAt Column.scans.marks :=
    (UInt64.toNat_ofNat_of_lt' (h.of_lt hbound .scans)).trans (h.columns .scans)
  have hresult {c : Column} (hc : c.marksRunning = false) :
      (UInt64.ofNat (c.of w.counters)).toNat = w.scansAt (·.hasReturned c.counts) := by
    rw [UInt64.toNat_ofNat_of_lt' (h.of_lt hbound c), h.columns, scansAt_marks hc]
  have hbusy : (Metrics.ofCounters w.counters).busy.toNat = w.failedWith (· = .busy) :=
    hresult (c := .busy) rfl
  have hfailures : (Metrics.ofCounters w.counters).failures.toNat = w.failedWith (· ≠ .busy) :=
    hresult (c := .failures) rfl
  have hevictions : (Metrics.ofCounters w.counters).evictions.toNat = w.counters.evictions :=
    UInt64.toNat_ofNat_of_lt' (Nat.lt_of_le_of_lt h.evictions_le hbound)
  have hsessions : accepted + built =
      (w.inTransit ++ w.live).length + (Metrics.ofCounters w.counters).evictions.toNat := by
    rw [hevictions, w.perm_live.length_eq, h.sessions_eq]
  refine ⟨?_, hbusy, hresult (c := .timeouts) rfl, hfailures, hsessions, fun hwaiting => ?_⟩
  · rw [hscans, hbusy, hfailures, scansAt_scans]
  · rwa [h.attentive.inTransit_eq_nil hwaiting] at hsessions

/-- In every run of scans and preloads the books balance, whatever the clients answer and whatever
the store does. -/
theorem balances_undergo (hw : w.Untouched initial) (occurrences : List Occurrence)
    (hlength : occurrences.length < twoTo 64) :
    (w.undergo occurrences).Balances (startPool initial).buffer.length (w.built occurrences) := by
  have hreconciled := hw.reconciled.undergo occurrences
  exact hreconciled.balances (by omega)

/-- Two sessions, of which one is spent. -/
def annAndBob : List Session :=
  [{ account := { username := "ann", password := "pw", provider := "ptc" }, proxy := { id := 7 },
      client := .scripted false [] [] },
    { account := { username := "bob", password := "pw", provider := "ptc", banned := true },
      proxy := { id := 8 }, client := .scripted false [] [] }]

/-- There is no free proxy, and the one that the session of use is bound to is gone. -/
def shortOfProxies : World where
  config := { cooldown := 0, loginInterval := 0, callInterval := 0 }
  pool := startPool annAndBob

/-- A scan is busy and its session is dropped.  Then somebody brings an account and a proxy, and
another scan builds a session with them. -/
def turnsOfShortOfProxies : List Occurrence :=
  .event (.scan default 0) :: .event (.turn (.task 0)) ::
    List.replicate 3 (.event (.turn .pool)) ++ .event (.turn (.task 0)) ::
  .restock { inventory := {
    accounts := [{ username := "eve", password := "pw", provider := "ptc" }],
    proxies := [{ id := 1 }] } } ::
  .event (.scan default 0) :: .event (.turn (.task 1)) ::
    List.replicate 2 (.event (.turn .pool)) ++ .event (.pass 5000) ::
    List.replicate 8 (.event (.turn (.task 1))) ++ List.replicate 4 (.event (.turn .pool))

theorem untouched_shortOfProxies : shortOfProxies.Untouched annAndBob where
  pool := rfl
  tasks := rfl
  cooling := rfl
  counters := rfl

theorem balances_undergo_shortOfProxies :
    shortOfProxies.Untouched annAndBob ∧ turnsOfShortOfProxies.length < twoTo 64 ∧
      (shortOfProxies.undergo turnsOfShortOfProxies).Balances (startPool annAndBob).buffer.length
        (shortOfProxies.built turnsOfShortOfProxies) ∧
      (shortOfProxies.undergo turnsOfShortOfProxies).IsWaiting ∧
      (startPool annAndBob).buffer.length = 1 ∧ shortOfProxies.built turnsOfShortOfProxies = 1 ∧
      (shortOfProxies.undergo turnsOfShortOfProxies).counters =
        { scans := 2, busy := 1, evictions := 1 } :=
  ⟨untouched_shortOfProxies, by decide,
    balances_undergo untouched_shortOfProxies turnsOfShortOfProxies (by decide),
    by decide +kernel, by decide, by decide +kernel, by decide +kernel⟩

end MapScout.World
