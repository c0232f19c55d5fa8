import MapScout.Proofs.Dispatch.Disposal

/-!
# What scans say of the time

A scan that fails after it has had a session says that its time was up just when it was.  There is
one exception: a scan that gets a session from the pool looks up the proxy of the session, and not
its own deadline.  If the proxy is recorded as dead and no other one is free, the scan drops the
session and ends with the answer that all are busy, however late it is.
-/

namespace MapScout

namespace Scan

/-- A scan that works with a session keeps to its deadline, and one that has failed says that its
time was up just when it was. -/
def Accounts (deadline : Nat) (scan : Scan) : Prop :=
  match scan.stage with
  | .working .. => scan.deadline = deadline
  | .finished result at_ => ∀ e, result = .error e → (e = .timeout ↔ deadline ≤ at_)
  | _ => False

/-- A scan that has failed has found no session, or has found the pool closed. -/
def Lacks (scan : Scan) : Prop :=
  ∀ result at_, scan.stage = .finished result at_ →
    ∀ e, result = .error e → e = .busy ∨ e = .poolClosed

end Scan

namespace World

variable {w w' : World} {id : Nat} {scan : Scan} {s : Session} {e : Event} {events : List Event}
variable {begun deadline limit at_ : Nat} {result : Except ScanError (List MapObject)}

def Accounted (id deadline : Nat) (w : World) : Prop :=
  ∃ scan, w.task? id = some (.scan scan) ∧ scan.Accounts deadline

def Lacking (id : Nat) (w : World) : Prop :=
  ∃ scan, w.task? id = some (.scan scan) ∧ scan.Lacks

/-- At one of its turns in a run a task has a session, and be it one that only lies ready for it. -/
def HasHeld (id : Nat) (w : World) (events : List Event) : Prop :=
  ∃ xs, xs ++ [.turn (.task id)] <+: events ∧ ((w.run xs).hand? id).isSome

/-- The session that lies ready for a task is bound to a proxy whose record is dead or gone, and no
other proxy is free. -/
structure IsStranded (id : Nat) (w : World) : Prop where
  unseated : w.seat? id = none
  handed : ∃ s, w.pool.handed.lookup id = some s ∧
    w.store.inventory.isProxyDead s.proxy.id = true
  not_free : ∀ p ∈ w.store.inventory.proxies, p.isFree = false

/-- At a given moment of a run a task finds the session stranded that it gets from the pool. -/
def IsTurnedAway (id moment : Nat) (w : World) (events : List Event) : Prop :=
  ∃ xs, xs ++ [.turn (.task id)] <+: events ∧ (w.run xs).now = moment ∧ (w.run xs).IsStranded id

/-- How a scan ends that was asked for in `w` and began at `begun`. -/
structure EndsInTime (w : World) (id : Nat) (events : List Event) (begun deadline limit : Nat)
    (result : Except ScanError (List MapObject)) (at_ : Nat) : Prop where
  begun_le : begun ≤ at_
  le_limit : at_ ≤ limit
  timeout_iff (hheld : w.HasHeld id events) (hkept : ¬ w.IsTurnedAway id at_ events)
    (e : ScanError) (he : result = .error e) : e = .timeout ↔ deadline ≤ at_
  busy {moment : Nat} (haway : w.IsTurnedAway id moment events) :
    result = .error .busy ∧ at_ = moment
  lacks (hlacks : ¬ w.HasHeld id events) (e : ScanError) (he : result = .error e) :
    e = .busy ∨ e = .poolClosed

/-! ## Scans that work -/

section Steps

variable {v : World}

theorem accounted_work {attempt : Attempt} {wait : ScanWait} (hid : (v.task? id).isSome)
    (hdeadline : scan.deadline = deadline) :
    (v.work id scan s attempt wait).Accounted id deadline :=
  ⟨_, task?_setTask _ hid, hdeadline⟩

/-- A scan that ends accounts for its time if it says rightly whether that was up. -/
theorem accounted_finishScan (hid : (v.task? id).isSome)
    (hresult : ∀ e, result = .error e → (e = .timeout ↔ deadline ≤ v.now)) :
    (v.finishScan id scan result).Accounted id deadline :=
  ⟨_, task?_finishScan hid result, hresult⟩

end Steps

/-- A scan that accounts for its time goes on doing so in its own turns. -/
theorem Accounted.turn (h : w.Accounted id deadline) :
    (w.happen (.turn (.task id))).Accounted id deadline := by
  obtain ⟨scan, hscan, haccounts⟩ := h
  have hid : (w.task? id).isSome := Option.isSome_of_eq_some hscan
  have hkept {v : World} (h : (w.beginTurn (.task id)).Calm v) :
      v.task? id = w.task? id := task?_congr h.tasks id
  have hturn := scanTurn_happen hscan
  generalize w.happen (.turn (.task id)) = w' at hturn ⊢
  cases hturn with
  | waits h halarm => exact ⟨scan, (hkept h.toCalm).trans hscan, haccounts⟩
  | works hstage h =>
      have hdeadline : scan.deadline = deadline := by
        rwa [Scan.Accounts, hstage] at haccounts
      have htells {e : ScanError} {v : World} (h : (w.beginTurn (.task id)).Calm v)
          (hmay : TellsTime (w.beginTurn (.task id)) scan e) : e = .timeout ↔ deadline ≤ v.now := by
        rw [TellsTime, hdeadline, ← h.now] at hmay
        exact hmay
      cases h with
      | waits h halarm => exact ⟨scan, (hkept h.toCalm).trans hscan, haccounts⟩
      | lands hwait h =>
          cases h with
          | work h hrank => exact accounted_work (by rwa [hkept h]) hdeadline
          | finish h hmay =>
              exact accounted_finishScan (by rwa [hkept h]) fun e he => htells h (hmay e he)
      | quits h hmay =>
          exact accounted_finishScan (by rwa [hkept h]) fun e he => htells h (hmay e he)
      | takes hwait hcan h hkind hrank =>
          have hkept := task?_congr h.tasks id
          exact accounted_work (by rw [hkept]; exact hid) hdeadline
  | begins hstage hstart h => simp [Scan.Accounts, hstage] at haccounts
  | refused hstage hstart h => simp [Scan.Accounts, hstage] at haccounts
  | stops hstage => simp [Scan.Accounts, hstage] at haccounts
  | gets hstage h =>
      obtain ⟨place, deadline', stage⟩ := scan
      cases stage with
      | checkout until_ => cases haccounts
      | leaving => cases haccounts
      | _ => cases hstage

theorem Accounted.run (h : w.Accounted id deadline) (events : List Event) :
    (w.run events).Accounted id deadline := by
  refine run_induction (P := fun w => w.Accounted id deadline) (fun w e h => ?_) h events
  by_cases he : e = .turn (.task id)
  · exact he ▸ h.turn
  · obtain ⟨scan, hscan, haccounts⟩ := h
    exact ⟨scan, task?_happen_of_ne he hscan, haccounts⟩

theorem working_of_seat? (hscan : w.task? id = some (.scan scan)) (hseat : (w.seat? id).isSome) :
    ∃ s attempt wait, scan.stage = .working s attempt wait := by
  rw [seat?_of_task hscan] at hseat
  obtain ⟨place, deadline, stage⟩ := scan
  cases stage with
  | working s attempt wait => exact ⟨s, attempt, wait, rfl⟩
  | _ => cases hseat

/-- A scan that is at work in time accounts for its time. -/
theorem InTime.accounted (h : w.InTime id begun deadline limit) (hseat : (w.seat? id).isSome) :
    w.Accounted id deadline := by
  cases h with
  | planned hscan hstage hstart hbegun hdeadline hlimit hnow hheeded =>
      obtain ⟨s, attempt, wait, hworking⟩ := working_of_seat? hscan hseat
      cases hstage.symm.trans hworking
  | going hscan hgoing hunfinished hdeadline hdue hbegun hnow hheeded =>
      obtain ⟨s, attempt, wait, hworking⟩ := working_of_seat? hscan hseat
      exact ⟨_, hscan, by rwa [Scan.Accounts, hworking]⟩
  | ended hscan hstage hbegun hlimit =>
      obtain ⟨s, attempt, wait, hworking⟩ := working_of_seat? hscan hseat
      cases hstage.symm.trans hworking

/-! ## Scans that have no session -/

/-- A scan that has no session at its turn does not end with one. -/
theorem Lacking.turn (h : w.Lacking id) (hhand : w.hand? id = none) :
    (w.happen (.turn (.task id))).Lacking id := by
  obtain ⟨scan, hscan, hlacks⟩ := h
  have hid : (w.task? id).isSome := Option.isSome_of_eq_some hscan
  have hkept {v : World} (h : (w.beginTurn (.task id)).Calm v) :
      v.task? id = w.task? id := task?_congr h.tasks id
  have hturn := scanTurn_happen hscan
  generalize w.happen (.turn (.task id)) = w' at hturn ⊢
  cases hturn with
  | waits h halarm => exact ⟨scan, (hkept h.toCalm).trans hscan, hlacks⟩
  | begins hstage hstart h => exact ⟨_, task?_setTask _ (by rwa [hkept h]), nofun⟩
  | refused hstage hstart h =>
      refine ⟨_, task?_finishScan (by rwa [hkept h]) _, ?_⟩
      rintro result at_ ⟨⟩ e ⟨⟩
      exact .inr rfl
  | stops hstage => exact ⟨_, task?_setTask (w := w.beginTurn (.task id)) _ hid, nofun⟩
  | gets hstage h =>
      cases h with
      | work h hrank => exact ⟨_, task?_setTask _ (by rwa [hkept h]), nofun⟩
      | finish h hmay =>
          refine ⟨_, task?_finishScan (by rwa [hkept h]) _, ?_⟩
          rintro result at_ ⟨⟩ e he
          exact hmay e he
  | works hstage h =>
      have hseat := seat?_of_task hscan
      obtain ⟨place, deadline, stage⟩ := scan
      obtain rfl := hstage
      cases (hand?_of_seat? hseat).symm.trans hhand

/-- A scan that never has a session never ends with one. -/
theorem Lacking.run (h : w.Lacking id) (hlacks : ¬ w.HasHeld id events) :
    (w.run events).Lacking id := by
  induction events generalizing w with
  | nil => exact h
  | cons e events ih =>
      refine ih ?_ fun ⟨xs, hxs, hsome⟩ =>
        hlacks ⟨e :: xs, List.cons_prefix_cons.mpr ⟨rfl, hxs⟩, hsome⟩
      by_cases he : e = .turn (.task id)
      · subst he
        refine h.turn (Option.not_isSome_iff_eq_none.mp fun hsome => hlacks ⟨[], ?_, hsome⟩)
        exact List.prefix_append [_] events
      · obtain ⟨scan, hscan, hlacks⟩ := h
        exact ⟨scan, task?_happen_of_ne he hscan, hlacks⟩

/-! ## Scans that get a session from the pool -/

/-- A session lies ready only for a scan that waits for it. -/
theorem isAsking_of_handed (hw : w.Attentive) (hscan : w.task? id = some (.scan scan))
    (hhanded : w.pool.handed.lookup id = some s) : scan.stage.isAsking = true := by
  by_contra hasking
  have hnone := hw.not_handed (not_isAsking hscan (Bool.not_eq_true _ ▸ hasking))
  exact hnone (List.mem_map_of_mem (Keyed.mem_of_lookup hhanded))

/-- A free proxy is found in place of one that is dead. -/
theorem swapProxy_of_free (hfaultless : w.store.Faultless)
    (hdead : w.store.inventory.isProxyDead s.proxy.id = true)
    (hfree : ∃ p ∈ w.store.inventory.proxies, p.isFree = true) : (w.swapProxy s).1 = true := by
  obtain ⟨p, hp, hfree⟩ := hfree
  have hmem := Inventory.mem_saveProxy?_of_isFree (p := s.proxy.die) hdead hp hfree
  rw [← Store.inventory_saveProxy hfaultless] at hmem
  have hfound : ((w.store.saveProxy s.proxy.die).2.inventory.claimProxy?).isSome := by
    rw [Inventory.claimProxy?, Option.isSome_map, List.find?_isSome]
    exact ⟨p, hmem, hfree⟩
  obtain ⟨⟨q, i⟩, hfound⟩ := Option.isSome_iff_exists.mp hfound
  have hclaimed : (w.store.saveProxy s.proxy.die).2.claimProxy =
      (.ok q, { (w.store.saveProxy s.proxy.die).2 with inventory := i }) := by
    rw [Store.claimProxy, Store.claim_eq (hfaultless.saveProxy _), hfound]
  have hmarked : w.markProxyDead s =
      (s.bind s.proxy.die, w.tellStore (·.saveProxy s.proxy.die)) := rfl
  rw [swapProxy, hmarked]
  dsimp only
  rw [show (w.tellStore (·.saveProxy s.proxy.die)).store.claimProxy = _ from hclaimed]

theorem seat?_beginWork (hid : (w.task? id).isSome) (scan : Scan) (s : Session) :
    ((w.beginWork id scan s).seat? id).isSome := by
  have hmoved := Still.stirs (.record (w := w) s.client (.moved s.username scan.place w.now))
  rw [← task?_congr hmoved.tasks] at hid
  exact Option.isSome_of_eq_some (seat?_beginAttempt hid scan s .first)

/-- A session whose proxy is alive, or can be replaced, is one to work with. -/
theorem seat?_acquire (hid : (w.task? id).isSome) (hfaultless : w.store.Faultless)
    (halive : s.proxy.dead = false)
    (huseful : w.store.inventory.isProxyDead s.proxy.id = true →
      ∃ p ∈ w.store.inventory.proxies, p.isFree = true) :
    ((w.acquire id scan s).seat? id).isSome := by
  cases hdead : w.store.inventory.isProxyDead s.proxy.id with
  | false =>
      have hrefreshed : w.refreshProxy s = (s, w) := by
        rw [refreshProxy, halive, if_neg Bool.false_ne_true, Store.isProxyDead_eq hfaultless, hdead]
      rw [acquire, hrefreshed]
      dsimp only
      rw [if_neg (by simp [halive])]
      exact seat?_beginWork hid scan s
  | true =>
      have hrefreshed : w.refreshProxy s = (s.bind s.proxy.die, w) := by
        rw [refreshProxy, halive, if_neg Bool.false_ne_true, Store.isProxyDead_eq hfaultless, hdead]
      have hswapped := swapProxy_of_free (s := s.bind s.proxy.die) hfaultless hdead (huseful hdead)
      have htasks := (Frame.deals (.swapProxy (w := w) (s.bind s.proxy.die))).tasks
      have hgone : (s.bind s.proxy.die).proxy.dead = true := rfl
      rw [acquire, hrefreshed]
      dsimp only
      rw [if_pos hgone]
      generalize w.swapProxy (s.bind s.proxy.die) = swapped at hswapped htasks ⊢
      obtain ⟨swapped, s', w'⟩ := swapped
      obtain rfl : swapped = true := hswapped
      exact seat?_beginWork (by rwa [task?_congr htasks]) scan s'

/-- A scan that comes to a session in its turn works with it, unless it is stranded. -/
theorem seat?_of_hand? (hw : w.Steady) (hsound : w.Sound) (hscan : w.task? id = some (.scan scan))
    (hseat : w.seat? id = none) (hhand : (w.hand? id).isSome) (hkept : ¬ w.IsStranded id) :
    ((w.happen (.turn (.task id))).seat? id).isSome := by
  rw [hand?_of_none hseat] at hhand
  obtain ⟨s, hhanded⟩ := Option.isSome_iff_exists.mp hhand
  have huseful := hsound.useful_of_handed hhanded
  obtain ⟨pool, hturn⟩ := exists_acquire hscan (isAsking_of_handed hw.attentive hscan hhanded)
    hhanded
  rw [hturn]
  refine seat?_acquire (Option.isSome_of_eq_some hscan) hw.faultless
    (Bool.or_eq_false_iff.mp huseful).2 fun hdead => ?_
  by_contra hnone
  refine hkept ⟨hseat, ⟨s, hhanded, hdead⟩, fun p hp => ?_⟩
  exact Bool.eq_false_iff.mpr fun hfree => hnone ⟨p, hp, hfree⟩

/-- A scan whose session is stranded ends with its turn. -/
theorem IsStranded.isOver (h : w.IsStranded id) (hw : w.Steady) (hsound : w.Sound)
    (hscan : w.task? id = some (.scan scan)) :
    (w.happen (.turn (.task id))).task? id =
      some (.scan { scan with stage := .finished (.error .busy) w.now }) := by
  obtain ⟨s, hhanded, hdead⟩ := h.handed
  obtain ⟨pool, hturn⟩ := exists_acquire hscan (isAsking_of_handed hw.attentive hscan hhanded)
    hhanded
  rw [hturn]
  exact (turnedAway_acquire (w := { w.beginTurn (.task id) with pool }) scan
    (Option.isSome_of_eq_some hscan) hw.faultless (hsound.useful_of_handed hhanded) hdead
    h.not_free).1

/-! ## How scans end -/

theorem InTime.exists_scan (h : w.InTime id begun deadline limit) :
    ∃ scan, w.task? id = some (.scan scan) := by
  cases h with
  | planned hscan | going hscan | ended hscan => exact ⟨_, hscan⟩

section Endings

variable (hw : w.Steady) (hsound : w.Sound) (hintime : w.InTime id begun deadline limit)
variable (hle : deadline ≤ limit) (htimely : w.Timely events)
variable (hscan : (w.run events).task? id = some (.scan scan))
variable (hstage : scan.stage = .finished result at_)

include hw hsound hintime hle htimely hscan hstage

/-- A scan that finds its session stranded is busy at that moment, whatever the time. -/
theorem busy_of_isTurnedAway {moment : Nat} (haway : w.IsTurnedAway id moment events) :
    result = .error .busy ∧ at_ = moment := by
  obtain ⟨xs, ⟨ys, rfl⟩, rfl, hstranded⟩ := haway
  have hnumbered : w.Numbered := ⟨hw.attentive.tasks_nodup, hw.attentive.tasks_lt⟩
  have hbefore := (timely_append.mp (timely_append.mp htimely).1).1
  obtain ⟨scan', hscan'⟩ := (hintime.run hle hbefore).exists_scan
  have hover := hstranded.isOver (hw.run xs) (hsound.run hnumbered xs) hscan'
  have hlast := task?_run_of_finished hover rfl ys
  rw [run_append, run_append] at hscan
  cases hscan.symm.trans hlast
  cases hstage
  exact ⟨rfl, rfl⟩

/-- Any other scan that has had a session says rightly whether its time was up. -/
theorem timeout_iff_of_hasHeld (hheld : w.HasHeld id events)
    (hkept : ¬ w.IsTurnedAway id at_ events) (e : ScanError) (he : result = .error e) :
    e = .timeout ↔ deadline ≤ at_ := by
  obtain ⟨xs, ⟨ys, rfl⟩, hhand⟩ := hheld
  obtain ⟨hearly, -⟩ := timely_append.mp htimely
  have hnumbered : w.Numbered := ⟨hw.attentive.tasks_nodup, hw.attentive.tasks_lt⟩
  have hbefore := hintime.run hle (timely_append.mp hearly).1
  have hturned := hintime.run hle hearly
  obtain ⟨scan', hscan'⟩ := hbefore.exists_scan
  -- after the turn the scan accounts for its time, whether it had the session before or not
  have haccounted : (w.run (xs ++ [.turn (.task id)])).Accounted id deadline := by
    cases hseat : (w.run xs).seat? id with
    | some σ =>
        rw [run_append]
        exact (hbefore.accounted (Option.isSome_of_eq_some hseat)).turn
    | none =>
        refine hturned.accounted ?_
        rw [run_append]
        refine seat?_of_hand? (hw.run xs) (hsound.run hnumbered xs) hscan' hseat hhand fun h => ?_
        have haway : w.IsTurnedAway id (w.run xs).now (xs ++ [.turn (.task id)] ++ ys) :=
          ⟨xs, List.prefix_append .., rfl, h⟩
        obtain ⟨-, rfl⟩ :=
          busy_of_isTurnedAway hw hsound hintime hle htimely hscan hstage haway
        exact hkept haway
  obtain ⟨scan'', hscan'', haccounts⟩ := haccounted.run ys
  rw [run_append] at hscan
  cases hscan.symm.trans hscan''
  rw [Scan.Accounts, hstage] at haccounts
  exact haccounts e he

/-- A scan that is over has come to one of these ends. -/
theorem endsInTime (hlacking : w.Lacking id) (hbegun : begun ≤ at_) (hlimit : at_ ≤ limit) :
    EndsInTime w id events begun deadline limit result at_ where
  begun_le := hbegun
  le_limit := hlimit
  timeout_iff := timeout_iff_of_hasHeld hw hsound hintime hle htimely hscan hstage
  busy := busy_of_isTurnedAway hw hsound hintime hle htimely hscan hstage
  lacks hlacks e he := by
    obtain ⟨scan', hscan', hlacks⟩ := hlacking.run hlacks
    cases hscan.symm.trans hscan'
    exact hlacks _ _ hstage e he

end Endings

/-- A scan that is asked for begins at once, or when it is due, and is over by its deadline or by
the end of its wait for the pool, whichever is later: the clock does not pass that moment before it
is over, and the timeline brings its end about.  (There is a lag only if the clock does not stand
still.)  If it fails after it has had a session, it answers
that the time was up just when it was, unless the session was stranded when the scan got it from
the pool: then it answers at once that all are busy.  Without ever having had a session it has found
none, or has found the pool closed. -/
theorem scan_over_in_time (hw : w.Steady) (hsound : w.Sound) (place : Place) (start : Nat)
    {events : List Event} (htimely : (w.happen (.scan place start)).Timely events) :
    let begun := max w.now start
    let deadline := begun + w.config.requestTimeout
    let limit := begun + max w.config.requestTimeout (w.config.checkoutTimeout + w.lag)
    let asked := w.happen (.scan place start)
    (∃ scan, (asked.run events).task? w.nextId = some (.scan scan) ∧
      (limit < (asked.run events).now → (Task.scan scan).isFinished = true) ∧
      ∀ result at_, scan.stage = .finished result at_ →
        EndsInTime asked w.nextId events begun deadline limit result at_) ∧
    ∀ until_ ≥ limit, ∃ turns, ∀ n ≥ turns, ∃ scan result at_,
      (Timed.runUntil (fun _ => false) until_ n (asked.run events)).task? w.nextId =
        some (.scan scan) ∧ scan.stage = .finished result at_ ∧ at_ ≤ limit := by
  intro begun deadline limit asked
  have hfresh : w.task? w.nextId = none := Keyed.lookup_eq_none hw.attentive.nextId_fresh
  have hnumbered : w.Numbered := ⟨hw.attentive.tasks_nodup, hw.attentive.tasks_lt⟩
  have hsteady : asked.Steady := (hw.happen _).steady
  have hsound : asked.Sound := hsound.happen hnumbered _
  have hle : deadline ≤ limit := Nat.add_le_add_left (Nat.le_max_left ..) _
  have hasked : asked.InTime w.nextId begun deadline limit := inTime_scan hfresh place start
  have hlacking : asked.Lacking w.nextId := ⟨_, Keyed.lookup_append_of_none hfresh _, nofun⟩
  have hinTime := hasked.run hle htimely
  refine ⟨?_, fun until_ huntil => hinTime.exists_over hle huntil⟩
  cases hinTime with
  | planned hscan hstage hstart hbegun hdeadline hlimit hnow hheeded =>
      refine ⟨_, hscan, fun hlate => absurd hlate (by omega), fun result at_ hfinished => ?_⟩
      cases hstage.symm.trans hfinished
  | going hscan hgoing hunfinished hdeadline hdue hbegun hnow hheeded =>
      refine ⟨_, hscan, fun hlate => absurd hlate (by omega), fun result at_ hfinished => ?_⟩
      rw [isFinished_iff.mpr ⟨result, at_, hfinished⟩] at hunfinished
      cases hunfinished
  | ended hscan hstage hbegun hlimit =>
      have hfinished := isFinished_iff.mpr ⟨_, _, hstage⟩
      refine ⟨_, hscan, fun _ => hfinished, fun result at_ hfinished => ?_⟩
      cases hstage.symm.trans hfinished
      exact endsInTime hsteady hsound hasked hle htimely hscan hstage hlacking hbegun hlimit

/-- A dispatcher with one account and one proxy, whose client is slow, and whose scans have a second
each. -/
def slowClient : World where
  config := { cooldown := 0, requestTimeout := 1000, loginInterval := 0, callInterval := 0 }
  store := { inventory := {
    accounts := [{ username := "ann", password := "pw", provider := "ptc" }]
    proxies := [{ id := 1 }] } }
  supply := .scripts [.scripted false [{ delay := 2000 }] [{ delay := 5000 }]]

theorem unbegun_slowClient : slowClient.Unbegun := ⟨fun _ => rfl, rfl, rfl, rfl⟩

def logIn : List Event := .preload 1 :: List.replicate 3 (.turn (.task 0))

/-- When it has logged in, the session goes into the pool. -/
def intoPool : List Event :=
  .pass 2000 :: List.replicate 2 (.turn (.task 0)) ++ List.replicate 2 (.turn .pool)

/-- A scan gets the session from the pool, and waits for the answer to its map call until its
deadline. -/
def waitInVain : List Event :=
  List.replicate 2 (.turn (.task 1)) ++ List.replicate 4 (.turn .pool) ++
    List.replicate 3 (.turn (.task 1)) ++ [.pass 3000, .turn (.task 1)]

theorem scan_over_in_time_slowClient :
    (slowClient.run (logIn ++ intoPool)).Steady ∧ (slowClient.run (logIn ++ intoPool)).Sound ∧
      ((slowClient.run (logIn ++ intoPool)).happen (.scan default 0)).Timely waitInVain ∧
      ((slowClient.run (logIn ++ intoPool)).happen (.scan default 0)).HasHeld 1 waitInVain ∧
      ∃ scan, (((slowClient.run (logIn ++ intoPool)).happen (.scan default 0)).run
          waitInVain).task? 1 = some (.scan scan) ∧
        scan.stage = .finished (.error .timeout) 3000 ∧
        EndsInTime ((slowClient.run (logIn ++ intoPool)).happen (.scan default 0)) 1 waitInVain
          2000 3000 7000 (.error .timeout) 3000 := by
  have hidle : slowClient.Idle := ⟨fun _ => rfl, rfl, rfl⟩
  have hsteady := unbegun_slowClient.steady.run (logIn ++ intoPool)
  have hsound := hidle.sound.run hidle.numbered (logIn ++ intoPool)
  have htimely : ((slowClient.run (logIn ++ intoPool)).happen (.scan default 0)).Timely
      waitInVain := by
    decide +kernel
  have hheld : ((slowClient.run (logIn ++ intoPool)).happen (.scan default 0)).HasHeld 1
      waitInVain :=
    ⟨waitInVain.dropLast, List.prefix_rfl, by decide +kernel⟩
  have hends : ∃ scan, (((slowClient.run (logIn ++ intoPool)).happen (.scan default 0)).run
      waitInVain).task? 1 = some (.scan scan) ∧ scan.stage = .finished (.error .timeout) 3000 :=
    ⟨_, rfl, rfl⟩
  obtain ⟨scan, hscan, hstage⟩ := hends
  obtain ⟨scan', hscan', -, hends⟩ := (scan_over_in_time hsteady hsound default 0 htimely).1
  cases hscan.symm.trans hscan'
  exact ⟨hsteady, hsound, htimely, hheld, scan, hscan, hstage, hends _ _ hstage⟩

/-- A scan has waited for the pool for two seconds when it gets the session, whose proxy has been
lost meanwhile. -/
def getStranded : List Event :=
  List.flatten [
    List.replicate 2 (.turn (.task 1)), List.replicate 2 (.turn .pool), [.loseProxy 1, .pass 2000],
    List.replicate 2 (.turn (.task 0)), List.replicate 4 (.turn .pool), [.turn (.task 1)]]

/-- There are scans that have had a session, fail after their deadline and do not say so. -/
theorem not_timeout_slowClient :
    ¬ ∀ (w : World) (before after : List Event) (place : Place) (scan : Scan) (e : ScanError)
        (at_ : Nat), w.Unbegun → w.Timely (before ++ .scan place 0 :: after) →
      ((w.run before).happen (.scan place 0)).HasHeld (w.run before).nextId after →
      (w.run (before ++ .scan place 0 :: after)).task? (w.run before).nextId = some (.scan scan) →
      scan.stage = .finished (.error e) at_ →
        (e = .timeout ↔ (w.run before).now + w.config.requestTimeout ≤ at_) := by
  intro h
  have htimely : slowClient.Timely (logIn ++ .scan default 0 :: getStranded) := by decide +kernel
  have hheld : ((slowClient.run logIn).happen (.scan default 0)).HasHeld 1 getStranded :=
    ⟨getStranded.dropLast, List.prefix_rfl, by decide +kernel⟩
  have hends : ∃ scan, (slowClient.run (logIn ++ .scan default 0 :: getStranded)).task? 1 =
      some (.scan scan) ∧ scan.stage = .finished (.error .busy) 2000 := ⟨_, rfl, rfl⟩
  obtain ⟨scan, hscan, hstage⟩ := hends
  have htimeout := h slowClient logIn getStranded default scan .busy 2000 unbegun_slowClient htimely
    hheld hscan hstage
  cases htimeout.mpr (by decide)

end World

end MapScout
