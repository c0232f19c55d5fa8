import MapScout.Proofs.Dispatch.ScanFlow

/-!
# What turns count

A task counts nothing before it ends its turn.  A scan that has a session goes on with it, or it
ends and counts its result; by then it has parted with the session, which lies in the pool or at
rest, or has been dropped, and only the drop is counted.  A preload parts with its sessions in the
same way.
-/

namespace MapScout.World

variable {w w' start : World} {id : Nat} {scan : Scan} {p : Preload} {s : Session}

/-! ## Parting with a session -/

/-- A session has been put back or dropped, and nothing else has been counted. -/
inductive Leaves (start : World) : World → Prop where
  | put {w : World} {s : Session} (cooldown : Nat) (h : start.Uncounted w)
      (hfit : s.isSpent = false) : Leaves start (w.checkIn s cooldown).2
  | drop {w : World} (h : start.Uncounted w) (s : Session) : Leaves start (w.evict s)

/-- A session that a scan parts with is put back or dropped. -/
theorem leaves_disposeOf (h : start.Uncounted w) (s : Session) :
    start.Leaves (w.disposeOf s) := by
  have hrefreshed := h.trans (.deals (.refreshProxy s))
  rw [disposeOf]
  dsimp only
  split
  · exact .drop hrefreshed _
  · rename_i hfit
    exact .put _ hrefreshed (by simpa using hfit)

/-! ## Scans -/

/-- How the turn of a scan ends that has a session. -/
inductive ScanEnds (start : World) (id : Nat) : World → Prop where
  | work {w : World} (h : start.Uncounted w) (scan : Scan) (s : Session) (attempt : Attempt)
      (wait : ScanWait) : ScanEnds start id (w.work id scan s attempt wait)
  | finish {w : World} (h : start.Leaves w) (scan : Scan)
      (result : Except ScanError (List MapObject)) :
      ScanEnds start id (w.finishScan id scan result)

namespace ScanEnds

theorem conclude (h : start.Uncounted w) (s : Session) (result : Except ScanError MapPayload) :
    ScanEnds start id (w.conclude id scan s result) := by
  rw [World.conclude]
  refine .finish (leaves_disposeOf ?_ s) _ _
  split
  · exact h.trans (.addObjects _)
  · exact h

/-- A scan that ends counts nothing before it has parted with its session. -/
theorem concludeAttempt (h : start.Uncounted w) (s : Session)
    (outcome : Except Failure MapPayload) :
    ScanEnds start id (w.concludeAttempt id scan s outcome) := by
  unfold World.concludeAttempt
  split
  · exact conclude h s _
  · split
    · exact conclude h s _
    · split
      · exact conclude h s _
      · exact conclude h _ _

theorem lineUpForCall (h : start.Uncounted w) (s : Session) (attempt : Attempt) :
    ScanEnds start id (w.lineUpForCall id scan s attempt) :=
  .work (h.trans (.stirs (.enterGate ..))) ..

theorem beginAttempt (h : start.Uncounted w) (s : Session) (attempt : Attempt) :
    ScanEnds start id (w.beginAttempt id scan s attempt) := by
  rw [World.beginAttempt]
  split
  · exact lineUpForCall h s attempt
  · exact .work (h.trans (.stirs (.enterGate ..))) ..

/-- The map call is made once more, or the scan ends. -/
theorem afterAttempts (h : start.Uncounted w) (s : Session)
    (outcome : Except Failure MapPayload) :
    ScanEnds start id (w.afterAttempts id scan s outcome) := by
  unfold World.afterAttempts
  split
  · rename_i e
    have hclassified := h.trans (.deals (.classify s e))
    dsimp only
    split
    · exact lineUpForCall hclassified _ _
    · exact concludeAttempt hclassified _ _
  · exact concludeAttempt h s _

/-- An attempt is followed by another one, or the scan ends. -/
theorem afterAttempt (h : start.Uncounted w) (s : Session) (attempt : Attempt)
    (outcome : Except Failure MapPayload) :
    ScanEnds start id (w.afterAttempt id scan s attempt outcome) := by
  have hmarked := h.trans (.deals (.markProxyDead s))
  unfold World.afterAttempt
  cases attempt with
  | first =>
      have hswapped := h.trans (.deals (.swapProxy s))
      dsimp only
      split
      · rw [if_pos rfl]
        split
        · exact conclude hmarked _ _
        · split
          · rename_i hswap
            rw [hswap] at hswapped
            exact beginAttempt hswapped _ _
          · rename_i hswap
            rw [hswap] at hswapped
            exact conclude hswapped _ _
      · rw [if_neg Bool.false_ne_true]
        exact afterAttempts h s _
  | swapped =>
      dsimp only
      split
      · exact afterAttempts hmarked _ _
      · exact afterAttempts h s _
  | repeated =>
      dsimp only
      split
      · split
        · exact concludeAttempt (hmarked.trans (.deals (.classify ..))) _ _
        · exact concludeAttempt (h.trans (.deals (.classify ..))) _ _
      · exact concludeAttempt h s _

theorem beginWork (h : start.Uncounted w) (s : Session) :
    ScanEnds start id (w.beginWork id scan s) :=
  beginAttempt (h.trans (.stirs (.record ..))) s _

/-- A session from the pool for which there is no proxy is dropped. -/
theorem acquire (h : start.Uncounted w) (s : Session) :
    ScanEnds start id (w.acquire id scan s) := by
  have hrefreshed := h.trans (.deals (.refreshProxy s))
  have hswapped := hrefreshed.trans (.deals (.swapProxy (w.refreshProxy s).1))
  rw [World.acquire]
  dsimp only
  split
  · split
    · rename_i hswap
      rw [hswap] at hswapped
      exact beginWork hswapped _
    · rename_i hswap
      rw [hswap] at hswapped
      exact .finish (.drop hswapped _) _ _
  · exact beginWork hrefreshed _

end ScanEnds

/-- A scan that has a session waits on, or ends its turn. -/
theorem workTurn_tallies (id : Nat) (scan : Scan) (s : Session) (attempt : Attempt) (wait : ScanWait)
    (w : World) :
    w.Uncounted (w.workTurn id scan s attempt wait) ∨
      ScanEnds w id (w.workTurn id scan s attempt wait) := by
  unfold workTurn
  cases wait with
  | login wait =>
      have hlogged := Uncounted.stirs (.loginTurn (w := w) id scan.deadline s wait)
      dsimp only
      split
      all_goals
        rename_i hlogin
        rw [hlogin] at hlogged
      · exact .inl hlogged
      · exact .inr (.work hlogged ..)
      · exact .inr (.lineUpForCall hlogged _ _)
      · exact .inr (.afterAttempt hlogged _ _ _)
  | callToken =>
      dsimp only
      split
      · exact .inr (.work ((Uncounted.stirs (.takeToken .call)).trans (.stirs (.record ..))) ..)
      · split
        · exact .inr (.afterAttempt (.stirs (.leaveGate ..)) _ _ _)
        · exact .inl (.stirs (.awaitToken ..))
  | call a due =>
      dsimp only
      split
      · exact .inr (.afterAttempt (.stirs (.finishMap a s)) _ _ _)
      · split
        · exact .inr (.afterAttempt (.refl w) _ _ _)
        · exact .inl ((Uncounted.stirs (.alarm ..)).trans (.stirs (.alarm ..)))

/-! ## Preloads -/

/-- How the turn of a preload ends that has a session. -/
inductive PreloadEnds (start : World) (id : Nat) : World → Prop where
  | login {w : World} (h : start.Uncounted w) (p : Preload) (s : Session) (swapped : Bool)
      (deadline : Nat) (wait : LoginWait) :
      PreloadEnds start id
        (w.proceed id (.preload { p with stage := .login s swapped deadline wait }))
  | next {w : World} (h : start.Leaves w) (p : Preload) :
      PreloadEnds start id (w.proceed id (.preload { p with stage := .next }))

namespace PreloadEnds

theorem beginPreloadLogin (h : start.Uncounted w) (s : Session) (swapped : Bool) :
    PreloadEnds start id (w.beginPreloadLogin id p s swapped) :=
  .login (h.trans (.stirs (.enterGate ..))) ..

/-- The pool takes the session at once, with no rest. -/
theorem afterPreloadLogin (h : start.Uncounted w) (s : Session) (f : Option Failure) :
    PreloadEnds start id (w.afterPreloadLogin id p s f) := by
  have hends {w : World} (h : start.Uncounted w) (s : Session) :
      PreloadEnds start id (if s.isSpent = true then
        (w.evict s).proceed id (.preload { p with stage := .next })
        else (w.sendToPool s).proceed id
          (.preload { p with queued := p.queued + 1, stage := .next })) := by
    split
    · exact .next (.drop h s) p
    · rename_i hfit
      have hput := Leaves.put 0 h (s := s) (by simpa using hfit)
      rw [checkIn, if_neg hfit, if_pos rfl] at hput
      exact .next hput { p with queued := p.queued + 1 }
  unfold World.afterPreloadLogin
  split
  rename_i s' w' hjudged
  split at hjudged
  · rename_i e
    have hclassified := h.trans (.deals (.classify s e))
    rw [hjudged] at hclassified
    exact hends hclassified s'
  · obtain ⟨rfl, rfl⟩ := Prod.mk.inj hjudged
    exact hends h s

end PreloadEnds

/-- A preload that has a session waits on, or ends its turn. -/
theorem preloadTurn_tallies {swapped : Bool} {deadline : Nat} {wait : LoginWait}
    (hstage : p.stage = .login s swapped deadline wait) :
    w.Uncounted (w.preloadTurn id p) ∨ PreloadEnds w id (w.preloadTurn id p) := by
  have hlogged := Uncounted.stirs (.loginTurn (w := w) id deadline s wait)
  rw [preloadTurn, hstage]
  dsimp only
  split
  all_goals
    rename_i hlogin
    rw [hlogin] at hlogged
  · exact .inl hlogged
  · exact .inr (.login hlogged ..)
  · exact .inr (.afterPreloadLogin hlogged _ _)
  · rename_i s' f w'
    have hswapped := Uncounted.trans hlogged (.deals (.swapProxy s'))
    right
    split
    · split
      · rename_i hswap
        rw [hswap] at hswapped
        exact .beginPreloadLogin hswapped _ _
      · rename_i hswap
        rw [hswap] at hswapped
        exact .afterPreloadLogin hswapped _ _
    · exact .afterPreloadLogin hlogged _ _

end MapScout.World
