import MapScout.Proofs.Dispatch.Frame
import MapScout.Proofs.Keyed

/-!
# How a scan goes on

All that one turn can do to the stage of a scan, said once.  A scan moves from attempt to attempt
in one direction: from the first to the one on another proxy, and from either to the repeated map
call.
-/

namespace MapScout

def ScanWait.answer? : ScanWait → Option (Answer × Nat)
  | .login (.answer _ a due) => some (a, due)
  | .call a due => some (a, due)
  | _ => none

/-- A wait comes to an end because its answer has come. -/
def ScanWait.IsAnswered (wait : ScanWait) (now : Nat) (a : Answer) : Prop :=
  ∃ due ≤ now, wait.answer? = some (a, due)

def Session.firstWait (s : Session) : ScanWait :=
  if s.isLoggedIn then .callToken else .login (.token .first)

namespace ScanStage

def isAsking : ScanStage → Bool
  | .checkout _ | .leaving => true
  | _ => false

def isDue (now : Nat) : ScanStage → Bool
  | .working _ _ wait => wait.answer?.any (·.2 ≤ now)
  | _ => false

/-- What one turn at `now` can make of the stage of a scan. -/
inductive Next (now : Nat) : ScanStage → ScanStage → Prop where
  | stay {stage : ScanStage} (h : stage.isDue now = false) : Next now stage stage
  | finish (stage : ScanStage) (result : Except ScanError (List MapObject)) (at_ : Nat) :
      Next now stage (.finished result at_)
  | ask (start until_ : Nat) : Next now (.planned start) (.checkout until_)
  | leave (until_ : Nat) : Next now (.checkout until_) .leaving
  | begin {stage : ScanStage} (h : stage.isAsking) (s : Session) :
      Next now stage (.working s .first s.firstWait)
  | login (s : Session) (attempt : Attempt) (t : LoginTry) :
      Next now (.working s attempt (.login (.token t)))
        (.working { s with mustLogin := false, client := s.client.startLogin.2 } attempt
          (.login (.answer t s.client.startLogin.1 (now + s.client.startLogin.1.delay))))
  | reject (s : Session) (attempt : Attempt) {a : Answer} {due : Nat} (hdue : due ≤ now)
      (h : a.failure = some .invalidAuthToken) :
      Next now (.working s attempt (.login (.answer .first a due)))
        (.working { s with mustLogin := true, client := s.client.finishLogin a } attempt
          (.login (.token .forced)))
  | enter (s : Session) (attempt : Attempt) (t : LoginTry) {a : Answer} {due : Nat}
      (hdue : due ≤ now) (h : a.failure = none) :
      Next now (.working s attempt (.login (.answer t a due)))
        (.working { s with client := s.client.finishLogin a } attempt .callToken)
  | call (s : Session) (attempt : Attempt) :
      Next now (.working s attempt .callToken)
        (.working { s with client := s.client.startMap.2 } attempt
          (.call s.client.startMap.1 (now + s.client.startMap.1.delay)))
  | swap (s s' : Session) {wait : ScanWait} {a : Answer} (ha : wait.IsAnswered now a)
      (h : a.failure = some .proxyDead) :
      Next now (.working s .first wait) (.working s' .swapped s'.firstWait)
  | again (s s' : Session) {attempt : Attempt} {wait : ScanWait} {a : Answer}
      (ha : wait.IsAnswered now a) (h : a.failure = some .invalidPlatformRequest)
      (hattempt : attempt ≠ .repeated) :
      Next now (.working s attempt wait) (.working s' .repeated .callToken)

end ScanStage

namespace World

variable {w : World} {id : Nat} {scan : Scan}

/-! ## Tasks in their places -/

theorem task?_congr {w w' : World} (h : w'.tasks = w.tasks) (id : Nat) :
    w'.task? id = w.task? id := by
  rw [task?, task?, h]

theorem task?_setTask (t : Task) (h : (w.task? id).isSome) :
    (w.setTask id t).task? id = some t := by
  obtain ⟨u, hu⟩ := Option.isSome_iff_exists.mp h
  have hmap : (w.setTask id t).task? id = (w.task? id).map fun _ => t :=
    Keyed.lookup_map (fun _ => t) w.tasks
  rw [hmap, hu]
  rfl

theorem task?_setTask_of_ne {i : Nat} (t : Task) (h : i ≠ id) :
    (w.setTask id t).task? i = w.task? i :=
  Keyed.lookup_map_of_ne (fun _ => t) w.tasks h

theorem task?_finishScan (hid : (w.task? id).isSome)
    (result : Except ScanError (List MapObject)) :
    (w.finishScan id scan result).task? id =
      some (.scan { scan with stage := .finished result w.now }) := by
  unfold finishScan finish
  exact task?_setTask _ hid

theorem tasks_checkIn (s : Session) (cooldown : Nat) :
    (w.checkIn s cooldown).2.tasks = w.tasks := by
  rw [checkIn, sendToPool]
  split
  · rfl
  · split
    · dsimp only
      split <;> rfl
    · rfl

theorem tasks_disposeOf (s : Session) : (w.disposeOf s).tasks = w.tasks := by
  rw [disposeOf]
  dsimp only
  split
  · exact ((Frame.deals (.refreshProxy s)).trans (Frame.evict _)).tasks
  · exact (tasks_checkIn ..).trans (Frame.deals (.refreshProxy s)).tasks

/-! ## One turn of a login -/

/-- What one turn at `now` can make of the login of a session. -/
inductive LoginStep.Follows (now : Nat) (s : Session) : LoginWait → LoginStep → Prop where
  | wait {wait : LoginWait} (h : (ScanWait.login wait).answer?.any (·.2 ≤ now) = false) :
      Follows now s wait .blocked
  | giveUp (wait : LoginWait) : Follows now s wait (.failed s .deadline)
  | start (t : LoginTry) :
      Follows now s (.token t)
        (.moved { s with mustLogin := false, client := s.client.startLogin.2 }
          (.answer t s.client.startLogin.1 (now + s.client.startLogin.1.delay)))
  | reject {a : Answer} {due : Nat} (hdue : due ≤ now) (h : a.failure = some .invalidAuthToken) :
      Follows now s (.answer .first a due)
        (.moved { s with mustLogin := true, client := s.client.finishLogin a } (.token .forced))
  | succeed (t : LoginTry) {a : Answer} {due : Nat} (hdue : due ≤ now) (h : a.failure = none) :
      Follows now s (.answer t a due) (.succeeded { s with client := s.client.finishLogin a })
  | fail (t : LoginTry) {a : Answer} {due : Nat} {e : ClientError} (hdue : due ≤ now)
      (h : a.failure = some e) :
      Follows now s (.answer t a due)
        (.failed { s with client := s.client.finishLogin a } (.client e))

/-- A turn of a login comes to what its answer and its deadline call for. -/
theorem loginTurn_follows (id deadline : Nat) (s : Session) (wait : LoginWait) :
    LoginStep.Follows w.now s wait (w.loginTurn id deadline s wait).1 := by
  unfold loginTurn
  cases wait with
  | token t =>
      dsimp only
      split
      · have hnow : ((w.takeToken .login).startLogin s).2.2.now = w.now :=
          (Still.stirs ((Stirs.takeToken .login).trans (.startLogin s))).now
        rw [hnow]
        exact .start t
      · split
        · exact .giveUp _
        · exact .wait rfl
  | answer t a due =>
      dsimp only
      split
      · rename_i hdue
        split
        · rename_i hfailure
          exact .succeed _ hdue hfailure
        · rename_i hfailure
          exact .reject hdue hfailure
        · rename_i hfailure _
          exact .fail _ hdue hfailure
      · rename_i hdue
        split
        · exact .giveUp _
        · refine .wait ?_
          simpa [ScanWait.answer?] using hdue

/-! ## One turn of a scan -/

/-- Of the tasks that were there before, at most the one with this number has changed. -/
def Spares (tasks : List (Nat × Task)) (id : Nat) (w : World) : Prop :=
  ∀ i, i ≠ id → w.task? i = tasks.lookup i

/-- The scan with this number has gone on from `stage`, and no other task has changed. -/
structure Reaches (tasks : List (Nat × Task)) (now id : Nat) (stage : ScanStage) (w : World) :
    Prop where
  spares : Spares tasks id w
  next : ∃ scan, w.task? id = some (.scan scan) ∧ stage.Next now scan.stage

variable {tasks : List (Nat × Task)}

theorem spares_of_tasks (htasks : w.tasks = tasks) : Spares tasks id w := by
  intro i _
  rw [task?, htasks]

theorem spares_setTask (htasks : w.tasks = tasks) (t : Task) :
    Spares tasks id (w.setTask id t) := by
  intro i hi
  rw [task?_setTask_of_ne t hi, task?, htasks]

/-- A scan goes on to a stage that may come next. -/
theorem reaches_setTask {now : Nat} {stage : ScanStage} (htasks : w.tasks = tasks)
    (hid : (tasks.lookup id).isSome) (h : stage.Next now scan.stage) :
    Reaches tasks now id stage (w.setTask id (.scan scan)) := by
  refine ⟨spares_setTask htasks _, scan, task?_setTask _ ?_, h⟩
  rwa [task?, htasks]

theorem Reaches.onTime {now : Nat} {stage : ScanStage} (h : Reaches tasks now id stage w)
    (f : Timeline Owner → Timeline Owner) : Reaches tasks now id stage (w.onTime f) :=
  ⟨h.spares, h.next⟩

/-- A scan waits on as long as no answer has come. -/
theorem reaches_stay {now : Nat} (htasks : w.tasks = tasks)
    (hscan : tasks.lookup id = some (.scan scan)) (h : scan.stage.isDue now = false) :
    Reaches tasks now id scan.stage w := by
  refine ⟨spares_of_tasks htasks, scan, ?_, .stay h⟩
  rw [task?, htasks, hscan]

section Endings

variable {now : Nat} {stage : ScanStage}
variable (htasks : w.tasks = tasks) (hid : (tasks.lookup id).isSome)

include htasks hid

theorem reaches_finishScan (result : Except ScanError (List MapObject)) :
    Reaches tasks now id stage (w.finishScan id scan result) := by
  unfold finishScan finish
  refine Reaches.onTime ?_ _
  exact reaches_setTask htasks hid (.finish ..)

theorem reaches_work {s : Session} {attempt : Attempt} {wait : ScanWait}
    (h : stage.Next now (.working s attempt wait)) :
    Reaches tasks now id stage (w.work id scan s attempt wait) := by
  rw [work, proceed]
  exact (reaches_setTask htasks hid h).onTime _

/-- An attempt begins with its first wait. -/
theorem reaches_beginAttempt {s : Session} {attempt : Attempt}
    (h : stage.Next now (.working s attempt s.firstWait)) :
    Reaches tasks now id stage (w.beginAttempt id scan s attempt) := by
  have hentered (g : GateName) : (w.enterGate g id).tasks = tasks :=
    (Still.stirs (.enterGate g id)).tasks.trans htasks
  rw [beginAttempt]
  rw [Session.firstWait] at h
  split
  · rename_i hlogged
    rw [if_pos hlogged] at h
    exact reaches_work (hentered .call) hid h
  · rename_i hlogged
    rw [if_neg hlogged] at h
    exact reaches_work (hentered .login) hid h

theorem reaches_conclude (s : Session) (result : Except ScanError MapPayload) :
    Reaches tasks now id stage (w.conclude id scan s result) := by
  rw [conclude]
  refine reaches_finishScan ((tasks_disposeOf s).trans ?_) hid _
  split
  · exact htasks
  · exact htasks

theorem reaches_concludeAttempt (s : Session) (outcome : Except Failure MapPayload) :
    Reaches tasks now id stage (w.concludeAttempt id scan s outcome) := by
  unfold concludeAttempt
  split
  · exact reaches_conclude htasks hid ..
  · split
    · exact reaches_conclude htasks hid ..
    · split
      · exact reaches_conclude htasks hid ..
      · exact reaches_conclude htasks hid ..

/-- A scan that gets a session from the pool goes to work or ends. -/
theorem reaches_acquire {s : Session} (h : stage.isAsking) :
    Reaches tasks now id stage (w.acquire id scan s) := by
  have hrefreshed : (w.refreshProxy s).2.tasks = tasks :=
    (Frame.deals (.refreshProxy s)).tasks.trans htasks
  have hswapped : ((w.refreshProxy s).2.swapProxy (w.refreshProxy s).1).2.2.tasks = tasks :=
    (Frame.deals (.swapProxy _)).tasks.trans hrefreshed
  unfold acquire beginWork
  dsimp only
  split
  · split
    · rename_i s' w' hswap
      rw [hswap] at hswapped
      exact reaches_beginAttempt ((Still.stirs (.record ..)).tasks.trans hswapped) hid (.begin h _)
    · rename_i s' w' hswap
      rw [hswap] at hswapped
      exact reaches_finishScan ((Frame.evict _).tasks.trans hswapped) hid _
  · exact reaches_beginAttempt ((Still.stirs (.record ..)).tasks.trans hrefreshed) hid (.begin h _)

/-- So does a scan that gets nothing from the pool. -/
theorem reaches_acquireNew (h : stage.isAsking) :
    Reaches tasks now id stage (w.acquireNew id scan) := by
  have hprovisioned : w.provision.2.tasks = tasks := (Frame.deals .provision).tasks.trans htasks
  unfold acquireNew beginWork
  split
  · rename_i s w' hprovision
    rw [hprovision] at hprovisioned
    exact reaches_beginAttempt
      (((Still.show_ s).trans (Still.stirs (.record ..))).tasks.trans hprovisioned) hid (.begin h _)
  · rename_i e w' hprovision
    rw [hprovision] at hprovisioned
    exact reaches_finishScan hprovisioned hid _

end Endings

/-- What an attempt of a scan came to is what its client answered, if it answered. -/
def OutcomeOf (now : Nat) (wait : ScanWait) (outcome : Except Failure MapPayload) : Prop :=
  ∀ e, outcome = .error (.client e) → ∃ a, wait.IsAnswered now a ∧ a.failure = some e

section Attempts

variable {now : Nat} {s₀ : Session} {attempt : Attempt} {wait : ScanWait}
variable {outcome : Except Failure MapPayload}
variable (htasks : w.tasks = tasks) (hid : (tasks.lookup id).isSome)
variable (houtcome : OutcomeOf now wait outcome)

include htasks hid houtcome

/-- After its last attempt a scan ends or repeats its map call, and that only once. -/
theorem reaches_afterAttempts (hattempt : attempt ≠ .repeated) (s : Session) :
    Reaches tasks now id (.working s₀ attempt wait) (w.afterAttempts id scan s outcome) := by
  unfold afterAttempts
  split
  · rename_i e
    obtain ⟨a, ha, hfailure⟩ := houtcome e rfl
    have hclassified : (w.classify s e).2.tasks = tasks :=
      (Frame.deals (.classify s e)).tasks.trans htasks
    dsimp only
    split
    · rename_i hagain
      rw [hagain.1] at hfailure
      exact reaches_work ((Still.stirs (.enterGate ..)).tasks.trans hclassified) hid
        (.again _ _ ha hfailure hattempt)
    · exact reaches_concludeAttempt hclassified hid ..
  · exact reaches_concludeAttempt htasks hid ..

/-- What may come after an attempt, by what the attempt came to. -/
theorem reaches_afterAttempt (s : Session) :
    Reaches tasks now id (.working s₀ attempt wait) (w.afterAttempt id scan s attempt outcome) := by
  have hmarked : (w.markProxyDead s).2.tasks = tasks :=
    (Frame.deals (.markProxyDead s)).tasks.trans htasks
  unfold afterAttempt
  cases attempt with
  | first =>
      dsimp only
      split
      · obtain ⟨a, ha, hfailure⟩ := houtcome _ rfl
        rw [if_pos rfl]
        split
        · exact reaches_conclude hmarked hid ..
        · have hswapped : (w.swapProxy s).2.2.tasks = tasks :=
            (Frame.deals (.swapProxy s)).tasks.trans htasks
          split
          · rename_i s' w' hswap
            rw [hswap] at hswapped
            exact reaches_beginAttempt hswapped hid (.swap _ _ ha hfailure)
          · rename_i s' w' hswap
            rw [hswap] at hswapped
            exact reaches_conclude hswapped hid ..
      · rw [if_neg Bool.false_ne_true]
        exact reaches_afterAttempts htasks hid houtcome (by simp) s
  | swapped =>
      dsimp only
      split
      · exact reaches_afterAttempts hmarked hid houtcome (by simp) _
      · exact reaches_afterAttempts htasks hid houtcome (by simp) _
  | repeated =>
      dsimp only
      split
      · split
        · exact reaches_concludeAttempt ((Frame.deals (.classify ..)).tasks.trans hmarked) hid ..
        · exact reaches_concludeAttempt ((Frame.deals (.classify ..)).tasks.trans htasks) hid ..
      · exact reaches_concludeAttempt htasks hid ..

end Attempts

theorem isSome_lookup (hscan : w.task? id = some (.scan scan)) : (w.tasks.lookup id).isSome := by
  rw [show w.tasks.lookup id = _ from hscan]
  rfl

section WorkTurn

variable {s : Session} {attempt : Attempt} (hscan : w.task? id = some (.scan scan))

include hscan

/-- The turn of a scan whose client logs in. -/
theorem workTurn_login {wait : LoginWait} (hstage : scan.stage = .working s attempt (.login wait)) :
    Reaches w.tasks w.now id scan.stage (w.workTurn id scan s attempt (.login wait)) := by
  have hid := isSome_lookup hscan
  have hframe := Still.stirs (.loginTurn (w := w) id scan.deadline s wait)
  have hfollows := loginTurn_follows (w := w) id scan.deadline s wait
  unfold workTurn
  dsimp only
  split
  all_goals
    rename_i hlogin
    rw [hlogin] at hframe hfollows
  · apply reaches_stay hframe.tasks hscan
    rw [hstage]
    cases hfollows with
    | wait h => exact h
  · rw [hstage]
    apply reaches_work hframe.tasks hid
    cases hfollows with
    | start t => exact .login ..
    | reject hdue h => exact .reject _ _ hdue h
  · rw [hstage]
    apply reaches_work ((Still.stirs (.enterGate ..)).tasks.trans hframe.tasks) hid
    cases hfollows with
    | succeed t hdue h => exact .enter _ _ _ hdue h
  · rw [hstage]
    refine reaches_afterAttempt hframe.tasks hid ?_ _
    intro e he
    cases hfollows with
    | giveUp => cases he
    | fail t hdue h =>
        cases he
        exact ⟨_, ⟨_, hdue, rfl⟩, h⟩

/-- The turn of a scan that waits for the token of its map call. -/
theorem workTurn_callToken (hstage : scan.stage = .working s attempt .callToken) :
    Reaches w.tasks w.now id scan.stage (w.workTurn id scan s attempt .callToken) := by
  have hid := isSome_lookup hscan
  rw [workTurn]
  dsimp only
  split
  · have hframe := Still.stirs ((Stirs.takeToken (w := w) .call).trans (.startMap s))
    rw [show ((w.takeToken .call).startMap s).2.2.now = w.now from hframe.now, hstage]
    exact reaches_work hframe.tasks hid (.call ..)
  · split
    · rw [hstage]
      refine reaches_afterAttempt (Still.stirs (.leaveGate ..)).tasks hid ?_ _
      intro e he
      cases he
    · apply reaches_stay (Still.stirs (.awaitToken ..)).tasks hscan
      rw [hstage]
      rfl

/-- The turn of a scan that waits for its map. -/
theorem workTurn_call {a : Answer} {due : Nat}
    (hstage : scan.stage = .working s attempt (.call a due)) :
    Reaches w.tasks w.now id scan.stage (w.workTurn id scan s attempt (.call a due)) := by
  have hid := isSome_lookup hscan
  rw [workTurn]
  dsimp only
  by_cases hdue : due ≤ w.now
  · rw [if_pos hdue, hstage]
    refine reaches_afterAttempt (Still.stirs (.finishMap ..)).tasks hid ?_ _
    intro e he
    split at he
    · cases he
    · cases he
    · rename_i e' hne hfailure
      cases he
      exact ⟨_, ⟨_, hdue, rfl⟩, hfailure⟩
  · rw [if_neg hdue]
    split
    · rw [hstage]
      refine reaches_afterAttempt rfl hid ?_ _
      intro e he
      cases he
    · apply reaches_stay (Still.stirs ((Stirs.alarm ..).trans (.alarm ..))).tasks hscan
      rw [hstage]
      simpa [ScanStage.isDue, ScanWait.answer?] using hdue

/-- A scan at work goes on to a stage that may come next. -/
theorem workTurn_reaches {wait : ScanWait} (hstage : scan.stage = .working s attempt wait) :
    Reaches w.tasks w.now id scan.stage (w.workTurn id scan s attempt wait) := by
  cases wait with
  | login wait => exact workTurn_login hscan hstage
  | callToken => exact workTurn_callToken hscan hstage
  | call a due => exact workTurn_call hscan hstage

end WorkTurn

/-- What one turn of a scan makes of its stage. -/
theorem scanTurn_reaches (hscan : w.task? id = some (.scan scan)) :
    Reaches w.tasks w.now id scan.stage (w.scanTurn id scan) := by
  have hid := isSome_lookup hscan
  have hstay (hdue : scan.stage.isDue w.now = false) (due : Nat) :
      Reaches w.tasks w.now id scan.stage (w.alarm due id) :=
    reaches_stay (Still.stirs (.alarm ..)).tasks hscan hdue
  rw [scanTurn]
  split
  · rename_i start hstage
    split
    · dsimp only
      rw [hstage]
      split
      · rw [proceed]
        refine Reaches.onTime ?_ _
        exact reaches_setTask rfl hid (.ask ..)
      · exact reaches_finishScan (w := { w with counters := w.counters.countScan }) rfl hid _
    · exact hstay (by rw [hstage]; rfl) start
  · rename_i until_ hstage
    split
    · rename_i s pool _
      rw [hstage]
      exact reaches_acquire (w := { w with pool }) rfl hid rfl
    · split
      · exact reaches_finishScan rfl hid _
      · split
        · rw [hstage]
          rw [proceed]
          refine Reaches.onTime ?_ _
          exact reaches_setTask rfl hid (.leave _)
        · exact hstay (by rw [hstage]; rfl) until_
  · rename_i hstage
    rw [hstage]
    split
    · rename_i s pool _
      exact reaches_acquire (w := { w with pool }) rfl hid rfl
    · rename_i pool _
      exact reaches_acquireNew (w := { w with pool }) rfl hid rfl
  · rename_i s attempt wait hstage
    exact workTurn_reaches hscan hstage
  · rename_i hstage
    exact reaches_stay rfl hscan (by rw [hstage]; rfl)

theorem turn_scan (hscan : w.task? id = some (.scan scan)) :
    w.turn (.task id) = w.scanTurn id scan := by
  rw [turn, hscan]

/-! ## The other parts -/

theorem spares_proceed (htasks : w.tasks = tasks) (t : Task) : Spares tasks id (w.proceed id t) :=
  spares_setTask htasks t

theorem spares_finish (htasks : w.tasks = tasks) (t : Task) : Spares tasks id (w.finish id t) :=
  spares_setTask htasks t

theorem tasks_sendToPool (s : Session) : (w.sendToPool s).tasks = w.tasks := by
  rw [sendToPool]
  split <;> rfl

/-- What becomes of a preloaded session is no concern of other tasks. -/
theorem afterPreloadLogin_spares (htasks : w.tasks = tasks) (p : Preload) (s : Session)
    (f : Option Failure) : Spares tasks id (w.afterPreloadLogin id p s f) := by
  unfold afterPreloadLogin
  split
  rename_i s' w' hjudged
  have htasks' : w'.tasks = tasks := by
    split at hjudged
    · rename_i e
      have hclassified := (Frame.deals (.classify (w := w) s e)).tasks.trans htasks
      rwa [hjudged] at hclassified
    · obtain ⟨rfl, rfl⟩ := Prod.mk.inj hjudged
      exact htasks
  split
  · exact spares_proceed ((Frame.evict _).tasks.trans htasks') _
  · exact spares_proceed ((tasks_sendToPool _).trans htasks') _

theorem preloadTurn_spares (id : Nat) (p : Preload) : Spares w.tasks id (w.preloadTurn id p) := by
  rw [preloadTurn]
  split
  · split
    · exact spares_finish rfl _
    · have hprovisioned := (Frame.deals (.provision (w := w))).tasks
      split
      · rename_i w' hprovision
        rw [hprovision] at hprovisioned
        exact spares_finish hprovisioned _
      · rename_i s w' hprovision
        rw [hprovision] at hprovisioned
        exact spares_proceed
          (((Still.show_ s).trans (Still.stirs (.enterGate ..))).tasks.trans hprovisioned) _
  · rename_i s swapped deadline wait _
    have htasks := (Still.stirs (.loginTurn (w := w) id deadline s wait)).tasks
    split
    all_goals
      rename_i hlogin
      rw [hlogin] at htasks
    · exact spares_of_tasks htasks
    · exact spares_proceed htasks _
    · exact afterPreloadLogin_spares htasks _ _ _
    · rename_i s' f w'
      split
      · have hswapped := (Frame.deals (.swapProxy (w := w') s')).tasks.trans htasks
        split
        · rename_i hswap
          rw [hswap] at hswapped
          exact spares_proceed ((Still.stirs (.enterGate ..)).tasks.trans hswapped) _
        · rename_i hswap
          rw [hswap] at hswapped
          exact afterPreloadLogin_spares hswapped _ _ _
      · exact afterPreloadLogin_spares htasks _ _ _
  · exact spares_of_tasks rfl

theorem checkoutTurn_spares (id : Nat) (c : Checkout) :
    Spares w.tasks id (w.checkoutTurn id c) := by
  rw [checkoutTurn]
  dsimp only
  split
  · split
    · exact spares_proceed rfl _
    · exact spares_finish rfl _
  · split
    · exact spares_finish rfl _
    · split
      · exact spares_finish rfl _
      · split
        · exact spares_proceed rfl _
        · exact spares_of_tasks rfl
  · split
    · exact spares_finish rfl _
    · exact spares_finish rfl _
  · exact spares_of_tasks rfl

theorem tasks_poolTurn : w.poolTurn.tasks = w.tasks := by
  rw [poolTurn]
  dsimp only
  rw [foldl_wake]
  split
  · split <;> rfl
  · rfl

theorem tasks_coolingTurn (id : Nat) : (w.coolingTurn id).tasks = w.tasks := by
  rw [coolingTurn]
  split
  · rfl
  · split
    · rfl
    · split
      · exact tasks_sendToPool _
      · rfl

/-- A part of the world changes no task but its own. -/
theorem task?_turn {o : Owner} (h : o ≠ .task id) : (w.turn o).task? id = w.task? id := by
  unfold turn
  cases o with
  | task i =>
      have hne : id ≠ i := fun he => h (by rw [he])
      dsimp only
      split
      · rfl
      · rename_i hscan
        exact (scanTurn_reaches hscan).spares id hne
      · exact preloadTurn_spares i _ id hne
      · exact checkoutTurn_spares i _ id hne
  | cooling i => exact task?_congr (tasks_coolingTurn i) id
  | pool => exact task?_congr tasks_poolTurn id
  | gate g => exact task?_congr (Still.stirs (.wakeHead g)).tasks id

end World

end MapScout
