import MapScout.Proofs.Dispatch.Frame
import MapScout.Proofs.Dispatch.Run

/-!
# What scans store

The object cache changes only at the end of a scan whose client has answered with a payload: the
objects that are made of the payload at that moment are stored, unless the store refuses.  Every
other turn and every other event leaves the cache as it is.
-/

namespace MapScout

/-- A payload that a scan has ended with and stored, and the moment at which its objects were
made. -/
structure Haul where
  payload : MapPayload
  moment : Moment
  deriving DecidableEq, Repr

def Haul.objects (h : Haul) : List MapObject := (Sighting.ofPayload? h.payload h.moment).getD []

/-- The payload that an answer to a map call amounts to.  A notice of another address counts as an
empty one. -/
def Answer.yield? (a : Answer) : Option MapPayload :=
  match a.failure with
  | none => some a.payload
  | some .newRpcUrl => some {}
  | some _ => none

namespace World

/-- What a scan stores whose turn comes at this stage: it ends with a payload if the answer to its
map call has come with one. -/
def haulAt (w : World) : ScanStage → Option Haul
  | .working s _ (.call a due) =>
    if due ≤ w.now ∧ w.store.faults .addObjects = 0 then
      a.yield?.map fun payload => ⟨payload, .ofMillis (w.finishMap a s).2.wall⟩
    else none
  | _ => none

def haul? (w : World) : Event → Option Haul
  | .turn (.task id) =>
    match w.task? id with
    | some (.scan scan) => w.haulAt scan.stage
    | _ => none
  | _ => none

def hauls : World → List Event → List Haul
  | _, [] => []
  | w, e :: events => (w.haul? e).toList ++ (w.happen e).hauls events

end World

namespace World

variable {w w' : World} {id : Nat} {scan : Scan} {s : Session}

/-! ## Turns that store nothing -/

section Turns

theorem objects_stirs (h : w.Stirs w') : w'.store.objects = w.store.objects := by
  refine of_moves (R := fun w w' => w'.store.objects = w.store.objects) (fun _ => rfl)
    (fun h h' => h'.trans h) (fun h => ?_) h
  cases h with
  | setGate g gate => cases g <;> rfl
  | _ => rfl

theorem objects_deals (h : w.Deals w') : w'.store.objects = w.store.objects := by
  refine of_moves (R := fun w w' => w'.store.objects = w.store.objects) (fun _ => rfl)
    (fun h h' => h'.trans h) (fun h => ?_) h
  cases h with
  | store h => exact h.objects
  | _ => rfl

@[simp]
theorem objects_onTime (f : Timeline Owner → Timeline Owner) :
    (w.onTime f).store.objects = w.store.objects := rfl

@[simp]
theorem objects_record (c : Client) (op : Operation) :
    (w.record c op).store.objects = w.store.objects :=
  objects_stirs (.record c op)

theorem objects_wakeHead (g : GateName) : (w.wakeHead g).store.objects = w.store.objects :=
  objects_stirs (.wakeHead g)

@[simp]
theorem objects_enterGate (g : GateName) (id : Nat) :
    (w.enterGate g id).store.objects = w.store.objects :=
  objects_stirs (.enterGate g id)

@[simp]
theorem objects_markProxyDead (s : Session) :
    (w.markProxyDead s).2.store.objects = w.store.objects :=
  objects_deals (.markProxyDead s)

@[simp]
theorem objects_refreshProxy (s : Session) :
    (w.refreshProxy s).2.store.objects = w.store.objects :=
  objects_deals (.refreshProxy s)

@[simp]
theorem objects_classify (s : Session) (e : ClientError) :
    (w.classify s e).2.store.objects = w.store.objects :=
  objects_deals (.classify s e)

@[simp]
theorem objects_evict (s : Session) : (w.evict s).store.objects = w.store.objects :=
  objects_deals (w := { w with counters := w.counters.countEviction }) (.evict s)

@[simp]
theorem objects_sendToPool (s : Session) : (w.sendToPool s).store.objects = w.store.objects := by
  rw [sendToPool]
  split <;> rfl

@[simp]
theorem objects_checkIn (s : Session) (cooldown : Nat) :
    (w.checkIn s cooldown).2.store.objects = w.store.objects := by
  rw [checkIn]
  split
  · rfl
  · split
    · exact objects_sendToPool s
    · rfl

@[simp]
theorem objects_disposeOf (s : Session) : (w.disposeOf s).store.objects = w.store.objects := by
  rw [disposeOf]
  dsimp only
  split <;> simp

@[simp]
theorem objects_finishScan (result : Except ScanError (List MapObject)) :
    (w.finishScan id scan result).store.objects = w.store.objects := rfl

@[simp]
theorem objects_proceed (t : Task) : (w.proceed id t).store.objects = w.store.objects := rfl

@[simp]
theorem objects_work (attempt : Attempt) (wait : ScanWait) :
    (w.work id scan s attempt wait).store.objects = w.store.objects := rfl

@[simp]
theorem objects_lineUpForCall (attempt : Attempt) :
    (w.lineUpForCall id scan s attempt).store.objects = w.store.objects := by
  simp [lineUpForCall]

@[simp]
theorem objects_beginAttempt (attempt : Attempt) :
    (w.beginAttempt id scan s attempt).store.objects = w.store.objects := by
  rw [beginAttempt]
  split <;> simp

@[simp]
theorem objects_beginWork : (w.beginWork id scan s).store.objects = w.store.objects := by
  simp [beginWork]

theorem objects_acquire : (w.acquire id scan s).store.objects = w.store.objects := by
  have hswapped := objects_deals (.swapProxy (w := (w.refreshProxy s).2) (w.refreshProxy s).1)
  rw [acquire]
  dsimp only
  split
  · split <;>
    · rename_i h
      rw [h] at hswapped
      simpa using hswapped
  · simp

theorem objects_acquireNew : (w.acquireNew id scan).store.objects = w.store.objects := by
  have hprovisioned := objects_deals (.provision (w := w))
  rw [acquireNew]
  split <;>
  · rename_i h
    rw [h] at hprovisioned
    simpa [show_] using hprovisioned

@[simp]
theorem objects_conclude_error (e : ScanError) :
    (w.conclude id scan s (.error e)).store.objects = w.store.objects := by
  rw [conclude, objects_finishScan, objects_disposeOf]
  rfl

@[simp]
theorem objects_concludeAttempt_error (f : Failure) :
    (w.concludeAttempt id scan s (.error f)).store.objects = w.store.objects := by
  unfold concludeAttempt
  split
  next h => cases h
  next f' h =>
    split
    · exact objects_conclude_error _
    · split <;> simp

@[simp]
theorem objects_afterAttempts_error (f : Failure) :
    (w.afterAttempts id scan s (.error f)).store.objects = w.store.objects := by
  cases f with
  | deadline => exact objects_concludeAttempt_error _
  | client e =>
      unfold afterAttempts
      dsimp only
      split <;> simp

theorem objects_afterAttempt_error (attempt : Attempt) (f : Failure) :
    (w.afterAttempt id scan s attempt (.error f)).store.objects = w.store.objects := by
  have hswapped := objects_deals (.swapProxy (w := w) s)
  cases attempt with
  | first =>
      unfold afterAttempt
      dsimp only
      split
      · rw [if_pos rfl]
        split
        · simp
        · split <;>
          · rename_i h
            rw [h] at hswapped
            simpa using hswapped
      · rw [if_neg Bool.false_ne_true]
        exact objects_afterAttempts_error f
  | swapped =>
      unfold afterAttempt
      dsimp only
      split <;> simp
  | repeated =>
      cases f with
      | deadline => exact objects_concludeAttempt_error _
      | client e =>
          unfold afterAttempt
          dsimp only
          split <;> simp

end Turns

/-! ## The turn in which a scan ends with a payload -/

/-- A payload is the end of a scan, in whatever attempt it comes. -/
theorem afterAttempt_ok (attempt : Attempt) (payload : MapPayload) :
    w.afterAttempt id scan s attempt (.ok payload) = w.conclude id scan s (.ok payload) := by
  cases attempt <;> rfl

/-- A scan that ends with a payload stores its objects, unless the store refuses. -/
theorem objects_conclude_ok (payload : MapPayload) :
    (w.conclude id scan s (.ok payload)).store.objects =
      if w.store.faults .addObjects = 0 then
        ObjectCache.insertAll (Haul.objects ⟨payload, .ofMillis w.wall⟩) w.store.objects
      else w.store.objects := by
  rw [conclude, objects_finishScan, objects_disposeOf]
  simp only [Except.map, Haul.objects]
  cases (Sighting.ofPayload? payload (.ofMillis w.wall)).getD [] with
  | nil => exact (ite_self _).symm
  | cons o os =>
      change (w.store.addObjects (o :: os)).2.objects = _
      rw [Store.addObjects, Store.guarded]
      split <;> rfl

def storeIn (c : ObjectCache) (haul : Option Haul) : ObjectCache :=
  haul.elim c fun h => ObjectCache.insertAll h.objects c

/-- A turn of a scan at work stores what its answer amounts to, if that has come. -/
theorem objects_workTurn (attempt : Attempt) (wait : ScanWait) :
    (w.workTurn id scan s attempt wait).store.objects =
      storeIn w.store.objects (w.haulAt (.working s attempt wait)) := by
  unfold workTurn
  cases wait with
  | login wait =>
      have hlogged := objects_stirs (.loginTurn (w := w) id scan.deadline s wait)
      dsimp only
      split
      all_goals
        rename_i hlogin
        rw [hlogin] at hlogged
      · exact hlogged
      · exact hlogged
      · exact (objects_lineUpForCall _).trans hlogged
      · exact (objects_afterAttempt_error ..).trans hlogged
  | callToken =>
      dsimp only
      split
      · exact (objects_work ..).trans
            (objects_stirs ((Stirs.takeToken .call).trans (.startMap s)))
      · split
        · exact (objects_afterAttempt_error ..).trans (objects_stirs (.leaveGate ..))
        · exact objects_stirs (.awaitToken ..)
  | call a due =>
      have hfinished : (w.finishMap a s).2.store = w.store := by
        rw [finishMap]
        dsimp only
        split <;> rfl
      dsimp only [haulAt]
      by_cases hdue : due ≤ w.now
      · have hpayload (payload : MapPayload) (hyield : a.yield? = some payload) :
            ((w.finishMap a s).2.afterAttempt id scan (w.finishMap a s).1 attempt
              (.ok payload)).store.objects = storeIn w.store.objects
                (if due ≤ w.now ∧ w.store.faults .addObjects = 0 then
                  a.yield?.map fun payload => ⟨payload, .ofMillis (w.finishMap a s).2.wall⟩
                else none) := by
          rw [afterAttempt_ok, objects_conclude_ok, hfinished, hyield]
          simp only [hdue, true_and]
          split <;> rfl
        rw [if_pos hdue]
        split
        · rename_i hfailure
          exact hpayload _ (by rw [Answer.yield?, hfailure])
        · rename_i hfailure
          exact hpayload _ (by rw [Answer.yield?, hfailure])
        · rename_i e hother hfailure
          have hnone : a.yield? = none := by
            rw [Answer.yield?, hfailure]
            cases e <;> first | rfl | exact absurd rfl hother
          rw [objects_afterAttempt_error, hfinished, hnone]
          split <;> rfl
      · rw [if_neg hdue]
        simp only [hdue, false_and, if_false]
        split
        · exact objects_afterAttempt_error ..
        · rfl

/-! ## Turns without a payload -/

/-- A preload stores no objects. -/
theorem objects_preloadTurn (p : Preload) :
    (w.preloadTurn id p).store.objects = w.store.objects := by
  have hafter (w : World) (s : Session) (f : Option Failure) :
      (w.afterPreloadLogin id p s f).store.objects = w.store.objects := by
    unfold afterPreloadLogin
    split
    rename_i s' w' hjudged
    have hobjects : w'.store.objects = w.store.objects := by
      split at hjudged
      · rename_i e
        have hclassified := objects_classify (w := w) s e
        rwa [hjudged] at hclassified
      · rw [(Prod.mk.inj hjudged).2]
    split <;> simpa using hobjects
  unfold preloadTurn
  split
  · split
    · rfl
    · have hprovisioned := objects_deals (.provision (w := w))
      split <;>
      · rename_i h
        rw [h] at hprovisioned
        simpa [finish, setTask, show_, beginPreloadLogin] using hprovisioned
  · rename_i s swapped deadline wait hstage
    have hlogged := objects_stirs (.loginTurn (w := w) id deadline s wait)
    split
    all_goals
      rename_i hlogin
      rw [hlogin] at hlogged
    · exact hlogged
    · exact hlogged
    · exact (hafter ..).trans hlogged
    · rename_i s' f w'
      have hswapped := objects_deals (.swapProxy (w := w') s')
      split
      · split <;>
        · rename_i h
          rw [h] at hswapped
          simpa [beginPreloadLogin, hafter] using hswapped.trans hlogged
      · exact (hafter ..).trans hlogged
  · rfl

/-- A scan stores objects only at its end, and only while it is at work. -/
theorem objects_scanTurn :
    (w.scanTurn id scan).store.objects =
      storeIn w.store.objects (w.haulAt scan.stage) := by
  rw [scanTurn]
  cases scan.stage with
  | planned start =>
      dsimp only
      split
      · split <;> rfl
      · rfl
  | checkout until_ =>
      dsimp only
      split
      · exact objects_acquire
      · split
        · rfl
        · split <;> rfl
  | leaving =>
      dsimp only
      split
      · exact objects_acquire
      · exact objects_acquireNew
  | working s attempt wait => exact objects_workTurn attempt wait
  | finished result at_ => rfl

theorem objects_checkoutTurn (c : Checkout) :
    (w.checkoutTurn id c).store.objects = w.store.objects := by
  unfold checkoutTurn
  split
  · dsimp only
    split <;> rfl
  · split
    · rfl
    · split
      · rfl
      · split <;> rfl
  · split <;> rfl
  · rfl

theorem objects_poolTurn : w.poolTurn.store.objects = w.store.objects := by
  rw [poolTurn]
  split
  · dsimp only
    rw [foldl_wake]
    split <;> rfl
  · rfl

theorem objects_coolingTurn : (w.coolingTurn id).store.objects = w.store.objects := by
  rw [coolingTurn]
  split
  · rfl
  · split
    · rfl
    · split
      · exact objects_sendToPool _
      · rfl

/-! ## Events and runs -/

/-- What is to be stored does not depend on who is ready. -/
theorem haulAt_beginTurn (o : Owner) (stage : ScanStage) :
    (w.beginTurn o).haulAt stage = w.haulAt stage := by
  unfold haulAt
  split
  · have hwall (a : Answer) (s : Session) :
        ((w.beginTurn o).finishMap a s).2.wall = (w.finishMap a s).2.wall := by
      unfold finishMap
      dsimp only
      split <;> rfl
    rw [hwall]
    rfl
  · rfl

/-- An event changes the cache only by what a scan stores that ends in it. -/
theorem objects_happen (e : Event) :
    (w.happen e).store.objects = storeIn w.store.objects (w.haul? e) := by
  cases e with
  | turn o =>
      cases o with
      | pool => exact objects_poolTurn
      | cooling id => exact objects_coolingTurn
      | gate g => exact objects_wakeHead g
      | task id =>
          rw [happen_turn, turn, haul?]
          have htask : (w.beginTurn (.task id)).task? id = w.task? id := rfl
          rw [htask]
          cases w.task? id with
          | none => rfl
          | some t =>
              cases t with
              | scan scan =>
                  have hturn : ((w.beginTurn (.task id)).scanTurn id scan).store.objects = _ :=
                    objects_scanTurn
                  rwa [haulAt_beginTurn] at hturn
              | preload p => exact objects_preloadTurn p
              | checkout c => exact objects_checkoutTurn c
  | pass | readWall | scan | preload => rfl
  | addProxy id => exact Store.Keeps.objects (.guarded ⟨rfl, fun h => h⟩)
  | loseProxy id => exact (Store.Keeps.change ..).objects
  | sweep => rfl

/-- The cache after a run is made of what was stored in it, one object after the other. -/
theorem objects_run (events : List Event) :
    (w.run events).store.objects =
      ObjectCache.insertAll ((w.hauls events).flatMap Haul.objects) w.store.objects := by
  induction events generalizing w with
  | nil => rfl
  | cons e events ih =>
      change ((w.happen e).run events).store.objects = _
      rw [ih, objects_happen, hauls, List.flatMap_append]
      simp only [ObjectCache.insertAll, List.foldl_append]
      cases w.haul? e with
      | none => rfl
      | some h => simp [storeIn, ObjectCache.insertAll]

end World

end MapScout
