import MapScout.Proofs.Dispatch.Handling
import MapScout.Proofs.Dispatch.Landing

/-!
# What turns come to

All that the turn of a task can do to the timeline and at the gates, said once.  A task waits on, or
it ends its turn further on, or it takes one token and sends one request.  As long as it waits for
something, an alarm will wake it by its deadline.
-/

namespace MapScout

def ScanWait.gate? : ScanWait → Option GateName
  | .login (.token _) => some .login
  | .callToken => some .call
  | _ => none

def RequestKind.gate : RequestKind → GateName
  | login _ => .login
  | map => .call

/-- Who does not wait at a gate waits for the answer to a request. -/
theorem ScanWait.kind?_eq_none {wait : ScanWait} : wait.kind? = none ↔ wait.gate?.isSome := by
  cases wait with
  | login wait => cases wait <;> simp [kind?, gate?]
  | callToken => simp [kind?, gate?]
  | call a due => simp [kind?, gate?]

def Scan.due (scan : Scan) : Nat :=
  match scan.stage with
  | .planned start => start
  | .checkout until_ => until_
  | _ => scan.deadline

namespace World

variable {w start : World} {id : Nat}

/-- An alarm will wake a task, at the latest at a given moment. -/
def WakesBy (id due : Nat) (w : World) : Prop :=
  ∃ a ∈ w.time.alarms, a.owner = .task id ∧ w.now < a.due ∧ a.due ≤ due

theorem wakesBy_alarm {due : Nat} (h : w.now < due) : (w.alarm due id).WakesBy id due := by
  refine ⟨⟨due, .task id⟩, Timeline.mem_alarms_setAlarm.mpr (.inr rfl), rfl, ?_, Nat.le_refl due⟩
  rwa [(Calm.alarm due id).now]

/-- A task waits on: nobody is woken, and the alarms that are set are not due yet. -/
structure Waits (w w' : World) : Prop extends Calm w w' where
  pool : w'.pool = w.pool
  cooling : w'.cooling = w.cooling
  ready : w'.time.ready = w.time.ready
  late : w'.time.late = w.time.late

namespace Waits

theorem refl (w : World) : w.Waits w := ⟨.refl w, rfl, rfl, rfl, rfl⟩

theorem trans {w₁ w₂ w₃ : World} (h₁ : w₁.Waits w₂) (h₂ : w₂.Waits w₃) : w₁.Waits w₃ :=
  ⟨h₁.toCalm.trans h₂.toCalm, h₂.pool.trans h₁.pool, h₂.cooling.trans h₁.cooling,
    h₂.ready.trans h₁.ready, h₂.late.trans h₁.late⟩

theorem alarm {due : Nat} (h : w.now < due) (id : Nat) : w.Waits (w.alarm due id) :=
  ⟨.alarm due id, rfl, rfl, Timeline.ready_setAlarm .., Timeline.late_setAlarm h _⟩

/-- The gate goes off when its token is due, which is later. -/
theorem armGate {g : GateName} (hcan : (w.gate g).canTake id w.now = false) :
    w.Waits (w.armGate g id) := by
  have hcalm : w.Calm (w.armGate g id) := .armGate g id
  unfold World.armGate at hcalm ⊢
  dsimp only at hcalm ⊢
  split at hcalm
  · rename_i hhead
    obtain ⟨hfirst, -⟩ := Bool.and_eq_true_iff.mp hhead
    have hlater : w.now < (w.gate g).due := by
      rw [Gate.canTake, hfirst, Bool.true_and, Bool.or_eq_false_iff] at hcan
      simpa using hcan.2
    rw [if_pos hhead]
    refine ⟨hcalm, ?_, ?_, ?_, ?_⟩
    all_goals cases g
    all_goals first
      | rfl
      | exact Timeline.ready_setAlarm ..
      | exact Timeline.late_setAlarm hlater _
  · rename_i hhead
    rw [if_neg hhead]
    exact refl w

theorem awaitToken {g : GateName} {deadline : Nat} (hcan : (w.gate g).canTake id w.now = false)
    (hearly : w.now < deadline) : w.Waits (w.awaitToken g deadline id) := by
  have harmed : w.Waits (w.armGate g id) := .armGate hcan
  exact harmed.trans (alarm (by rwa [harmed.now]) id)

end Waits

/-! ## Scans that hold a session -/

/-- What the turn of a scan that holds a session comes to. -/
inductive WorkTurn (w : World) (id : Nat) (scan : Scan) (attempt : Attempt) (wait : ScanWait) :
    World → Prop where
  /-- It waits on. -/
  | waits {v : World} (h : w.Waits v) (halarm : v.WakesBy id scan.deadline) :
      WorkTurn w id scan attempt wait v
  /-- What it waits for has come, or comes too late. -/
  | lands {v : World} (hwait : wait.gate? = none)
      (h : ScanLands w.Calm id scan (TellsTime w scan) v) : WorkTurn w id scan attempt wait v
  /-- It gives up. -/
  | quits {v : World} (h : w.Calm v) {result : Except ScanError (List MapObject)}
      (hmay : ∀ e, result = .error e → TellsTime w scan e) :
      WorkTurn w id scan attempt wait (v.finishScan id scan result)
  /-- It takes a token and sends a request. -/
  | takes {v : World} {g : GateName} (hwait : wait.gate? = some g)
      (hcan : (w.gate g).canTake id w.now) (h : Takes g w v) {s : Session} {wait' : ScanWait}
      (hkind : wait'.kind?.map RequestKind.gate = some g) (hrank : wait.rank < wait'.rank) :
      WorkTurn w id scan attempt wait (v.work id scan s attempt wait')

section WorkTurns

variable {scan : Scan} {s : Session} {attempt : Attempt} {wait : ScanWait}

/-- A scan that still waits before its deadline has only set the alarm for it once more. -/
theorem workTurn_waits {v : World} (h : w.Waits v) (hearly : ¬ scan.deadline ≤ w.now) :
    WorkTurn w id scan attempt wait (v.alarm scan.deadline id) := by
  have hlater : v.now < scan.deadline := by
    rw [h.now]
    exact Nat.lt_of_not_le hearly
  exact .waits (h.trans (.alarm hlater id)) (wakesBy_alarm hlater)

/-- A scan whose deadline has come ends its attempt with an error, wherever it stands. -/
theorem workTurn_quits {v : World} (h : w.Calm v) (hlate : scan.deadline ≤ w.now) (s : Session) :
    WorkTurn w id scan attempt wait (v.afterAttempt id scan s attempt (.error .deadline)) := by
  have hconclude : v.afterAttempt id scan s attempt (.error .deadline) =
      v.conclude id scan s (.error .timeout) := by
    cases attempt <;> rfl
  have hmay (e : ScanError) (he : (Except.error .timeout : Except _ MapPayload) = .error e) :
      TellsTime w scan e := by
    cases he
    exact iff_of_true rfl hlate
  obtain ⟨u, result, hu, hresult, heq⟩ := conclude_lands id scan h s hmay
  rw [hconclude, heq]
  exact .quits hu hresult

variable (hrank : scan.stage.rank = 3 + 6 * attempt.rank + wait.rank)

include hrank

/-- The outcome of an attempt is known. -/
theorem workTurn_known {v : World} (hwait : wait.gate? = none) (h : w.Calm v) (s : Session)
    {outcome : Except Failure MapPayload} (houtcome : outcome ≠ .error .deadline) :
    WorkTurn w id scan attempt wait (v.afterAttempt id scan s attempt outcome) := by
  refine .lands hwait (.afterAttempt h s ?_ fun he => absurd he houtcome)
  have hlt := wait.rank_lt
  omega

/-- The attempt goes on. -/
theorem workTurn_goesOn {v : World} {wait' : ScanWait} (hwait : wait.gate? = none) (h : w.Calm v)
    (s : Session) (hlt : wait.rank < wait'.rank) :
    WorkTurn w id scan attempt wait (v.work id scan s attempt wait') := by
  refine .lands hwait (.work h ?_)
  rw [hrank, ScanStage.rank]
  omega

end WorkTurns

/-- The first login, or a forced one, waits at its gate. -/
theorem workTurn_ends_token (id : Nat) (scan : Scan) (s : Session) (attempt : Attempt)
    (t : LoginTry) :
    WorkTurn w id scan attempt (.login (.token t))
      (w.workTurn id scan s attempt (.login (.token t))) := by
  rw [workTurn, loginTurn]
  cases hcan : (w.gate .login).canTake id w.now with
  | true =>
      rw [if_pos rfl]
      refine .takes rfl hcan ((takes_takeToken .login).record ..) rfl ?_
      cases t <;> simp [ScanWait.rank, LoginWait.rank]
  | false =>
      rw [if_neg Bool.false_ne_true]
      by_cases hlate : scan.deadline ≤ w.now
      · rw [if_pos hlate]
        exact workTurn_quits (.leaveGate .login id) hlate s
      · rw [if_neg hlate]
        exact workTurn_waits (.armGate hcan) hlate

theorem workTurn_ends_answer (id : Nat) {scan : Scan} (s : Session) {attempt : Attempt}
    {t : LoginTry} {a : Answer} {due : Nat}
    (hrank : scan.stage.rank = 3 + 6 * attempt.rank + (ScanWait.login (.answer t a due)).rank) :
    WorkTurn w id scan attempt (.login (.answer t a due))
      (w.workTurn id scan s attempt (.login (.answer t a due))) := by
  rw [workTurn, loginTurn]
  by_cases hdue : due ≤ w.now
  · rw [if_pos hdue]
    dsimp only
    split
    all_goals
      rename_i hlogin
      split at hlogin <;> cases hlogin
    · refine workTurn_goesOn hrank rfl (.enterGate .login id) _ ?_
      simp [ScanWait.rank, LoginWait.rank]
    · exact workTurn_goesOn hrank rfl (.enterGate .call id) _ (LoginWait.rank_lt _)
    · exact workTurn_known hrank rfl (.refl w) _ (by simp)
  · rw [if_neg hdue]
    by_cases hlate : scan.deadline ≤ w.now
    · rw [if_pos hlate]
      exact workTurn_quits (.refl w) hlate s
    · rw [if_neg hlate]
      exact workTurn_waits (.alarm (Nat.lt_of_not_le hdue) id) hlate

/-- A scan in line for the token of its map call. -/
theorem workTurn_ends_callToken (id : Nat) (scan : Scan) (s : Session) (attempt : Attempt) :
    WorkTurn w id scan attempt .callToken (w.workTurn id scan s attempt .callToken) := by
  rw [workTurn]
  cases hcan : (w.gate .call).canTake id w.now with
  | true =>
      rw [if_pos rfl]
      exact .takes rfl hcan ((takes_takeToken .call).record ..) rfl (by simp [ScanWait.rank])
  | false =>
      rw [if_neg Bool.false_ne_true]
      by_cases hlate : scan.deadline ≤ w.now
      · rw [if_pos hlate]
        exact workTurn_quits (.leaveGate .call id) hlate s
      · rw [if_neg hlate]
        exact workTurn_waits (.armGate hcan) hlate

theorem workTurn_ends_call (id : Nat) {scan : Scan} (s : Session) {attempt : Attempt} {a : Answer}
    {due : Nat} (hrank : scan.stage.rank = 3 + 6 * attempt.rank + (ScanWait.call a due).rank) :
    WorkTurn w id scan attempt (.call a due) (w.workTurn id scan s attempt (.call a due)) := by
  rw [workTurn]
  by_cases hdue : due ≤ w.now
  · rw [if_pos hdue]
    dsimp only
    refine workTurn_known hrank rfl (.finishMap a s) _ ?_
    split <;> simp
  · rw [if_neg hdue]
    by_cases hlate : scan.deadline ≤ w.now
    · rw [if_pos hlate]
      exact workTurn_quits (.refl w) hlate s
    · rw [if_neg hlate]
      exact workTurn_waits (.alarm (Nat.lt_of_not_le hdue) id) hlate

/-- The turn of a scan at work, in each of its four waits. -/
theorem workTurn_ends (id : Nat) {scan : Scan} {s : Session} {attempt : Attempt} {wait : ScanWait}
    (hstage : scan.stage = .working s attempt wait) :
    WorkTurn w id scan attempt wait (w.workTurn id scan s attempt wait) := by
  have hrank : scan.stage.rank = 3 + 6 * attempt.rank + wait.rank := by
    rw [hstage]
    rfl
  cases wait with
  | login wait =>
      cases wait with
      | token t => exact workTurn_ends_token id scan s attempt t
      | answer t a due => exact workTurn_ends_answer id s hrank
  | callToken => exact workTurn_ends_callToken id scan s attempt
  | call a due => exact workTurn_ends_call id s hrank

/-! ## All scans -/

/-- A scan that has begun asks the pool for a session. -/
def begun (scan : Scan) (w : World) : Scan :=
  { scan with
    deadline := w.now + w.config.requestTimeout
    stage := .checkout (w.now + w.config.checkoutTimeout + w.lag) }

/-- What the turn of a scan comes to. -/
inductive ScanTurn (w : World) (id : Nat) (scan : Scan) : World → Prop where
  /-- It waits on. -/
  | waits {v : World} (h : w.Waits v)
      (halarm : (Task.scan scan).isFinished = false → v.WakesBy id scan.due) :
      ScanTurn w id scan v
  | begins {v : World} {start : Nat} (hstage : scan.stage = .planned start)
      (hstart : start ≤ w.now) (h : w.Calm v) :
      ScanTurn w id scan (v.proceed id (.scan (w.begun scan)))
  /-- It finds the pool closed when it begins. -/
  | refused {v : World} {start : Nat} (hstage : scan.stage = .planned start)
      (hstart : start ≤ w.now) (h : w.Calm v) :
      ScanTurn w id scan (v.finishScan id (w.begun scan) (.error .poolClosed))
  /-- It has waited for the pool in vain. -/
  | stops {until_ : Nat} (hstage : scan.stage = .checkout until_) :
      ScanTurn w id scan (w.proceed id (.scan { scan with stage := .leaving }))
  /-- It gets a session, or none. -/
  | gets {w' : World} (hstage : scan.stage.isAsking = true)
      (h : ScanLands w.Calm id scan (fun e => e = .busy ∨ e = .poolClosed) w') :
      ScanTurn w id scan w'
  | works {w' : World} {s : Session} {attempt : Attempt} {wait : ScanWait}
      (hstage : scan.stage = .working s attempt wait) (h : WorkTurn w id scan attempt wait w') :
      ScanTurn w id scan w'

/-- The turn of a scan at any stage. -/
theorem scanTurn_ends (w : World) (id : Nat) (scan : Scan) :
    ScanTurn w id scan (w.scanTurn id scan) := by
  obtain ⟨place, deadline, stage⟩ := scan
  rw [scanTurn]
  cases stage with
  | planned start =>
      dsimp only
      split
      · rename_i hstart
        split
        · exact .begins rfl hstart (((Calm.count _).trans (.withPool _)).trans (.wake _))
        · exact .refused rfl hstart (.count _)
      · rename_i hstart
        have hlater := Nat.lt_of_not_le hstart
        exact .waits (.alarm hlater id) fun _ => wakesBy_alarm hlater
  | checkout until_ =>
      dsimp only
      split
      · refine .gets rfl (ScanLands.mono ?_ fun _ => .inl)
        exact .acquire (.withPool _) _ (by simp [ScanStage.rank])
      · split
        · exact .gets rfl (.finish (.refl w) fun e he => .inr (Except.error.inj he).symm)
        · split
          · exact .stops rfl
          · rename_i huntil
            have hlater := Nat.lt_of_not_le huntil
            exact .waits (.alarm hlater id) fun _ => wakesBy_alarm hlater
  | leaving =>
      dsimp only
      split
      · refine .gets rfl (ScanLands.mono ?_ fun _ => .inl)
        exact .acquire (.withPool _) _ (by simp [ScanStage.rank])
      · refine .gets rfl (ScanLands.mono ?_ fun _ => .inl)
        exact .acquireNew (.withPool _) (by simp [ScanStage.rank])
  | working s attempt wait => exact .works rfl (workTurn_ends id rfl)
  | finished result at_ => exact .waits (.refl w) fun hunfinished => by cases hunfinished

/-! ## All tasks -/

/-- A task goes on, or it has come to its end.  Either way it has fewer steps before it. -/
inductive Lands (w : World) (id : Nat) : World → Prop where
  | proceed {v : World} {t u : Task} (h : w.Calm v) (hu : w.task? id = some u)
      (hleft : t.left < u.left) : Lands w id (v.proceed id t)
  | finish {v : World} {t u : Task} (h : w.Calm v) (hu : w.task? id = some u)
      (hleft : t.left < u.left) : Lands w id (v.finish id t)

theorem Lands.finishScan {v : World} {scan : Scan} (h : w.Calm v)
    (hscan : w.task? id = some (.scan scan)) (hrank : scan.stage.rank < 21) (scan' : Scan)
    (result : Except ScanError (List MapObject)) : Lands w id (v.finishScan id scan' result) :=
  .finish (h.trans (.count _)) hscan (Task.left_scan_lt hrank)

/-- What ends further on as a scan ends further on as a task. -/
theorem ScanLands.lands {scan : Scan} {may : ScanError → Prop} {w' : World}
    (h : ScanLands w.Calm id scan may w') (hscan : w.task? id = some (.scan scan))
    (hrank : scan.stage.rank < 21) : Lands w id w' := by
  cases h with
  | work h hlt => exact .proceed h hscan (Task.left_scan_lt hlt)
  | finish h hmay => exact .finishScan h hscan hrank ..

/-- What the turn of a task comes to. -/
inductive TaskTurn (w : World) (id : Nat) : World → Prop where
  | waits {w' : World} (h : w.Waits w') : TaskTurn w id w'
  /-- It goes on without having waited at a gate. -/
  | lands {w' : World} (hwait : ∀ σ, w.seat? id = some σ → σ.wait.gate? = none)
      (h : Lands w id w') : TaskTurn w id w'
  /-- It gives its session up. -/
  | quits {w' : World} (h : Lands w id w') (hseat : w'.seat? id = none) : TaskTurn w id w'
  /-- It takes a token and sends a request. -/
  | takes {v w' : World} {g : GateName} {σ σ' : Seat} {t u : Task} (hseat : w.seat? id = some σ)
      (hwait : σ.wait.gate? = some g) (hcan : (w.gate g).canTake id w.now) (h : Takes g w v)
      (ht : t.seat? = some σ') (hkind : σ'.wait.kind?.map RequestKind.gate = some g)
      (hu : w.task? id = some u) (hleft : t.left < u.left)
      (hw' : w' = v.proceed id t) : TaskTurn w id w'

theorem TaskTurn.idle {w' : World} (hseat : w.seat? id = none) (h : Lands w id w') :
    TaskTurn w id w' := by
  refine .lands (fun σ hσ => ?_) h
  rw [hseat] at hσ
  cases hσ

theorem seat?_of_task {t : Task} (ht : w.task? id = some t) : w.seat? id = t.seat? := by
  rw [seat?, ht]
  rfl

/-- A scan that waits for a session holds none. -/
theorem rank_of_isAsking {stage : ScanStage} (h : stage.isAsking = true) : stage.rank < 3 := by
  cases stage with
  | checkout until_ => simp [ScanStage.rank]
  | leaving => simp [ScanStage.rank]
  | _ => cases h

/-- The turn of a scan, together with the line it stands in. -/
theorem scanTurn_comes {scan : Scan} (hscan : w.task? id = some (.scan scan)) :
    TaskTurn w id (w.scanTurn id scan) := by
  have hseat := seat?_of_task hscan
  have hid : (w.task? id).isSome := Option.isSome_of_eq_some hscan
  have hturn := scanTurn_ends w id scan
  generalize w.scanTurn id scan = w' at hturn ⊢
  obtain ⟨place, deadline, stage⟩ := scan
  cases hturn with
  | waits h halarm => exact .waits h
  | begins hstage hstart h =>
      obtain rfl := hstage
      exact .idle hseat (.proceed h hscan (Task.left_scan_lt (by simp [begun, ScanStage.rank])))
  | refused hstage hstart h =>
      obtain rfl := hstage
      exact .idle hseat (.finishScan h hscan (by simp [ScanStage.rank]) ..)
  | stops hstage =>
      obtain rfl := hstage
      exact .idle hseat (.proceed (.refl w) hscan (Task.left_scan_lt (by simp [ScanStage.rank])))
  | gets hstage h =>
      have hrank : stage.rank < 21 := Nat.lt_trans (rank_of_isAsking hstage) (by decide)
      refine .idle (hseat.trans ?_) (h.lands hscan hrank)
      cases stage <;> first | rfl | cases hstage
  | @works _ s attempt wait hstage h =>
      obtain rfl := hstage
      have hrank : (ScanStage.working s attempt wait).rank < 21 := by
        have hwait := wait.rank_lt
        cases attempt <;> simp only [ScanStage.rank, Attempt.rank] <;> omega
      cases h with
      | waits h halarm => exact .waits h
      | lands hwait h =>
          refine .lands (fun σ hσ => ?_) (h.lands hscan hrank)
          rw [hseat] at hσ
          cases hσ
          exact hwait
      | quits h hmay =>
          refine .quits (.finishScan h hscan hrank ..) ?_
          unfold finishScan finish
          exact seat?_setTask h.tasks hid _ (·.forget (.task id))
      | takes hwait hcan h hkind hlt =>
          refine .takes hseat hwait hcan h rfl hkind hscan (Task.left_scan_lt ?_) rfl
          rw [ScanStage.rank, ScanStage.rank]
          omega

/-- However its login has ended, a preload goes on to the next of its sessions. -/
theorem afterPreloadLogin_lands (id : Nat) {v : World} (h : w.Calm v) (p : Preload) (s : Session)
    (f : Option Failure) :
    ∃ u, ∃ q : Preload, w.Calm u ∧ q.stage = .next ∧ q.remaining = p.remaining ∧
      v.afterPreloadLogin id p s f = u.proceed id (.preload q) := by
  unfold afterPreloadLogin
  split
  rename_i s' v' hjudged
  have hcalm : w.Calm v' := by
    split at hjudged
    · rename_i e
      have hclassified := h.trans (.deals (.classify s e))
      rwa [hjudged] at hclassified
    · obtain ⟨rfl, rfl⟩ := Prod.mk.inj hjudged
      exact h
  split
  · exact ⟨_, { p with stage := .next }, hcalm.trans (.evict s'), rfl, rfl, rfl⟩
  · exact ⟨_, { p with queued := p.queued + 1, stage := .next }, hcalm.trans (.sendToPool s'),
      rfl, rfl, rfl⟩

/-- A preload that is done with a session has fewer steps before it. -/
theorem left_next_lt {p q : Preload} {s : Session} {swapped : Bool} {deadline : Nat}
    {wait : LoginWait} (hp : p.stage = .login s swapped deadline wait) (hq : q.stage = .next)
    (hremaining : q.remaining = p.remaining) : q.left < p.left := by
  have hwait := wait.rank_lt
  rw [Preload.left, Preload.left, hp, hq, hremaining]
  cases swapped <;> simp only [if_true, Bool.false_eq_true, if_false] <;> omega

section Preloads

variable {p : Preload} {s₀ : Session} {swapped : Bool} {deadline : Nat} {wait : LoginWait}

theorem Lands.afterPreloadLogin {v : World} (h : w.Calm v)
    (hpreload : w.task? id = some (.preload p))
    (hstage : p.stage = .login s₀ swapped deadline wait) (s : Session) (f : Option Failure) :
    Lands w id (v.afterPreloadLogin id p s f) := by
  obtain ⟨u, q, hu, hq, hremaining, heq⟩ := afterPreloadLogin_lands id h p s f
  rw [heq]
  exact .proceed hu hpreload (left_next_lt hstage hq hremaining)

theorem Lands.beginPreloadLogin {v : World} {p' : Preload} (h : w.Calm v)
    (hpreload : w.task? id = some (.preload p)) (s : Session) (swapped : Bool)
    (hleft : 10 * p'.remaining + (if swapped then 5 else 9) < p.left) :
    Lands w id (v.beginPreloadLogin id p' s swapped) :=
  .proceed (h.trans (.enterGate .login id)) hpreload hleft

/-- The login procedure goes on. -/
theorem left_login_lt {wait' : LoginWait} (remaining queued : Nat) (s s' : Session)
    (swapped : Bool) (deadline : Nat) (h : wait.rank < wait'.rank) :
    Task.left (.preload ⟨remaining, queued, .login s' swapped deadline wait'⟩) <
      Task.left (.preload ⟨remaining, queued, .login s swapped deadline wait⟩) := by
  have hwait := wait'.rank_lt
  rw [Task.left, Task.left, Preload.left, Preload.left]
  cases swapped <;> simp only [if_true, Bool.false_eq_true, if_false] <;> omega

/-- The login procedure may begin once more, on another proxy. -/
theorem lt_left_login (remaining queued : Nat) (s : Session) (deadline : Nat) (wait : LoginWait) :
    10 * remaining + 5 < Preload.left ⟨remaining, queued, .login s false deadline wait⟩ := by
  have hwait := wait.rank_lt
  rw [Preload.left]
  simp only [Bool.false_eq_true, if_false]
  omega

/-- The login procedure of a preload has ended, and it gives the session away. -/
theorem TaskTurn.endLogin {v : World} (h : w.Calm v) (hpreload : w.task? id = some (.preload p))
    (hstage : p.stage = .login s₀ swapped deadline wait) (s : Session) (f : Option Failure) :
    TaskTurn w id (v.afterPreloadLogin id p s f) := by
  refine .quits (.afterPreloadLogin h hpreload hstage s f) ?_
  obtain ⟨u, q, hu, hq, -, heq⟩ := afterPreloadLogin_lands id h p s f
  obtain ⟨remaining, queued, _⟩ := q
  obtain rfl := hq
  rw [heq]
  exact seat?_setTask hu.tasks (Option.isSome_of_eq_some hpreload) _ _

end Preloads

section PreloadTurns

variable {remaining queued : Nat} {s : Session} {swapped : Bool} {deadline : Nat}

/-- A preload between two sessions. -/
theorem preloadTurn_comes_next
    (hpreload : w.task? id = some (.preload ⟨remaining, queued, .next⟩)) :
    TaskTurn w id (w.preloadTurn id ⟨remaining, queued, .next⟩) := by
  have hseat := seat?_of_task hpreload
  have hprovisioned := Calm.deals (.provision (w := w))
  have hfinished (at_ : Nat) : Task.left (.preload ⟨remaining, queued, .finished at_⟩) <
      Task.left (.preload ⟨remaining, queued, .next⟩) := Nat.succ_pos _
  rw [preloadTurn]
  dsimp only
  split
  · exact .idle hseat (.finish (.refl w) hpreload (hfinished _))
  · rename_i hremaining
    split
    all_goals
      rename_i hprovision
      rw [hprovision] at hprovisioned
    · exact .idle hseat (.finish hprovisioned hpreload (hfinished _))
    · refine .idle hseat ?_
      refine .beginPreloadLogin (hprovisioned.trans (.deals (.board _))) hpreload _ _ ?_
      change 10 * (remaining - 1) + 9 < 10 * remaining + 1
      omega

/-- A wait that has come to its deadline is no reason to try another proxy. -/
theorem not_lostProxy_deadline :
    ¬ (Failure.deadline = .client .proxyDead ∧ swapped = false) := by
  rintro ⟨⟨⟩, -⟩

/-- A preload in line for the token of a login. -/
theorem preloadTurn_comes_token {t : LoginTry} (hpreload : w.task? id =
      some (.preload ⟨remaining, queued, .login s swapped deadline (.token t)⟩)) :
    TaskTurn w id
      (w.preloadTurn id ⟨remaining, queued, .login s swapped deadline (.token t)⟩) := by
  rw [preloadTurn]
  dsimp only
  rw [loginTurn]
  cases hcan : (w.gate .login).canTake id w.now with
  | true =>
      rw [if_pos rfl]
      refine .takes (seat?_of_task hpreload) rfl hcan ((takes_takeToken .login).record ..) rfl rfl
        hpreload (left_login_lt _ _ _ _ _ _ ?_) rfl
      cases t <;> simp [LoginWait.rank]
  | false =>
      rw [if_neg Bool.false_ne_true]
      split
      all_goals
        rename_i hlogin
        split at hlogin <;> cases hlogin
      · rename_i hearly
        exact .waits (.awaitToken hcan (Nat.lt_of_not_le hearly))
      · rw [if_neg not_lostProxy_deadline]
        exact .endLogin (.leaveGate .login id) hpreload rfl _ _

/-- A preload that waits for the answer to a login. -/
theorem preloadTurn_comes_answer {t : LoginTry} {a : Answer} {due : Nat} (hpreload : w.task? id =
      some (.preload ⟨remaining, queued, .login s swapped deadline (.answer t a due)⟩)) :
    TaskTurn w id
      (w.preloadTurn id ⟨remaining, queued, .login s swapped deadline (.answer t a due)⟩) := by
  have hlands {w' : World} (h : Lands w id w') : TaskTurn w id w' := by
    refine .lands (fun σ hσ => ?_) h
    rw [seat?_of_task hpreload] at hσ
    cases hσ
    rfl
  rw [preloadTurn]
  dsimp only
  rw [loginTurn]
  by_cases hdue : due ≤ w.now
  · rw [if_pos hdue]
    dsimp only
    split
    all_goals
      rename_i hlogin
      split at hlogin <;> cases hlogin
    · refine hlands (.proceed (.enterGate .login id) hpreload (left_login_lt _ _ _ _ _ _ ?_))
      simp [LoginWait.rank]
    · exact .endLogin (.refl w) hpreload rfl _ _
    · rename_i e _ _
      split
      · rename_i hfirst
        have hswapped :=
          Calm.deals (.swapProxy (w := w) { s with client := s.client.finishLogin a })
        split
        all_goals
          rename_i hswap
          rw [hswap] at hswapped
        · obtain ⟨-, rfl⟩ := hfirst
          exact hlands (.beginPreloadLogin hswapped hpreload _ _ (lt_left_login ..))
        · exact .endLogin hswapped hpreload rfl _ _
      · exact .endLogin (.refl w) hpreload rfl _ _
  · rw [if_neg hdue]
    split
    all_goals
      rename_i hlogin
      split at hlogin <;> cases hlogin
    · rename_i hearly
      have halarm : w.Waits (w.alarm due id) := .alarm (Nat.lt_of_not_le hdue) id
      refine .waits (halarm.trans (.alarm ?_ id))
      rw [halarm.now]
      exact Nat.lt_of_not_le hearly
    · rw [if_neg not_lostProxy_deadline]
      exact .endLogin (.refl w) hpreload rfl _ _

theorem preloadTurn_comes {p : Preload} (hpreload : w.task? id = some (.preload p)) :
    TaskTurn w id (w.preloadTurn id p) := by
  obtain ⟨remaining, queued, stage⟩ := p
  cases stage with
  | next => exact preloadTurn_comes_next hpreload
  | login s swapped deadline wait =>
      cases wait with
      | token t => exact preloadTurn_comes_token hpreload
      | answer t a due => exact preloadTurn_comes_answer hpreload
  | finished at_ => exact .waits (.refl w)

end PreloadTurns

/-- A checkout stands in no line. -/
theorem checkoutTurn_comes {c : Checkout} (hcheckout : w.task? id = some (.checkout c)) :
    TaskTurn w id (w.checkoutTurn id c) := by
  have hseat := seat?_of_task hcheckout
  obtain ⟨timeout, stage⟩ := c
  rw [checkoutTurn]
  cases stage with
  | planned =>
      dsimp only
      split
      · refine .idle hseat (.proceed ((Calm.withPool _).trans (.wake _)) hcheckout ?_)
        simp [Task.left, CheckoutStage.left]
      · exact .idle hseat (.finish (.refl w) hcheckout (Nat.succ_pos _))
  | waiting until_ =>
      dsimp only
      split
      · exact .idle hseat (.finish (.withPool _) hcheckout (Nat.succ_pos _))
      · split
        · exact .idle hseat (.finish (.refl w) hcheckout (Nat.succ_pos _))
        · split
          · refine .idle hseat (.proceed (.refl w) hcheckout ?_)
            simp [Task.left, CheckoutStage.left]
          · rename_i huntil
            exact .waits (.alarm (Nat.lt_of_not_le huntil) id)
  | leaving =>
      dsimp only
      split
      · exact .idle hseat (.finish (.withPool _) hcheckout (Nat.succ_pos _))
      · exact .idle hseat (.finish (.withPool _) hcheckout (Nat.succ_pos _))
  | finished result at_ => exact .waits (.refl w)

/-- What the turn of any task comes to. -/
theorem turn_comes (w : World) (id : Nat) : TaskTurn w id (w.turn (.task id)) := by
  rw [turn]
  split
  · exact .waits (.refl w)
  · rename_i hscan
    exact scanTurn_comes hscan
  · rename_i hpreload
    exact preloadTurn_comes hpreload
  · rename_i hcheckout
    exact checkoutTurn_comes hcheckout

/-! ## The other parts -/

theorem Calm.poolTurn : w.Calm w.poolTurn := by
  rw [World.poolTurn]
  split
  · dsimp only
    rw [foldl_wake]
    have hwoken (owners : List Owner) :
        w.Calm (World.onTime (·.wakeAll owners) { w with pool := w.pool.act }) :=
      (withPool _).trans (onTime (.wakeAll ..))
    split
    · exact (hwoken _).trans (onTime (.continue_ ..))
    · exact hwoken _
  · exact refl w

theorem Calm.coolingTurn (id : Nat) : w.Calm (w.coolingTurn id) := by
  rw [World.coolingTurn]
  split
  · exact refl w
  · split
    · exact ⟨⟨rfl, rfl, rfl, .setAlarm ..⟩, fun _ => ⟨rfl, rfl⟩⟩
    · split
      · refine Calm.trans ?_ (sendToPool _)
        exact ⟨⟨rfl, rfl, rfl, .refl ..⟩, fun _ => ⟨rfl, rfl⟩⟩
      · exact refl w

end World

end MapScout
