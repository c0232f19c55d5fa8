import MapScout.Proofs.Dispatch.Transcript

/-!
# How turns end

Up to its end a turn changes no task, passes nobody over and takes back no alarm, and as long as
nothing is sent it takes no token either.  Then the task goes on in a new stage, has come to its
end, or waits on.  A scan that goes on has come further than before, and a scan that gives up after
it has been at work says why: it is a timeout exactly when the deadline has passed.
-/

namespace MapScout

namespace World

variable {w : World} {id : Nat}

/-! ## Up to the end of a turn -/

/-- The tasks and the settings are as before, the clock stands still, whoever was ready is ready,
and all alarms are set. -/
structure Mild (w w' : World) : Prop where
  tasks : w'.tasks = w.tasks
  config : w'.config = w.config
  lag : w'.lag = w.lag
  time : w.time.Spares (fun _ => True) w'.time

/-- And no token has been taken. -/
structure Calm (w w' : World) : Prop extends Mild w w' where
  gate : ∀ g, (w'.gate g).due = (w.gate g).due ∧ (w'.gate g).period = (w.gate g).period

theorem Mild.now {w' : World} (h : w.Mild w') : w'.now = w.now := h.time.now

theorem Mild.trans {w₁ w₂ w₃ : World} (h₁ : w₁.Mild w₂) (h₂ : w₂.Mild w₃) : w₁.Mild w₃ :=
  ⟨h₂.tasks.trans h₁.tasks, h₂.config.trans h₁.config, h₂.lag.trans h₁.lag, h₁.time.trans h₂.time⟩

namespace Calm

theorem refl (w : World) : w.Calm w := ⟨⟨rfl, rfl, rfl, .refl ..⟩, fun _ => ⟨rfl, rfl⟩⟩

theorem trans {w₁ w₂ w₃ : World} (h₁ : w₁.Calm w₂) (h₂ : w₂.Calm w₃) : w₁.Calm w₃ :=
  ⟨h₁.toMild.trans h₂.toMild,
    fun g => ⟨(h₂.gate g).1.trans (h₁.gate g).1, (h₂.gate g).2.trans (h₁.gate g).2⟩⟩

theorem onTime {f : Timeline Owner → Timeline Owner}
    (h : w.time.Spares (fun _ => True) (f w.time)) : w.Calm (w.onTime f) :=
  ⟨⟨rfl, rfl, rfl, h⟩, fun _ => ⟨rfl, rfl⟩⟩

theorem wake (o : Owner) : w.Calm (w.wake o) := onTime (.wake ..)

theorem alarm (due id : Nat) : w.Calm (w.alarm due id) := onTime (.setAlarm ..)

theorem withPool (pool : Pool Session) : w.Calm { w with pool } :=
  ⟨⟨rfl, rfl, rfl, .refl ..⟩, fun _ => ⟨rfl, rfl⟩⟩

theorem count (counters : Counters) : w.Calm { w with counters } :=
  ⟨⟨rfl, rfl, rfl, .refl ..⟩, fun _ => ⟨rfl, rfl⟩⟩

theorem addObjects (objects : List MapObject) : w.Calm (w.tellStore (·.addObjects objects)) :=
  ⟨⟨rfl, rfl, rfl, .refl ..⟩, fun _ => ⟨rfl, rfl⟩⟩

theorem deal {w' : World} (h : w.Deal w') : w.Calm w' := by
  cases h <;> exact ⟨⟨rfl, rfl, rfl, .refl ..⟩, fun _ => ⟨rfl, rfl⟩⟩

theorem deals {w' : World} (h : w.Deals w') : w.Calm w' := of_moves refl trans deal h

theorem finishMap (a : Answer) (s : Session) : w.Calm (w.finishMap a s).2 := by
  rw [World.finishMap]
  dsimp only
  split
  · exact ⟨⟨rfl, rfl, rfl, .refl ..⟩, fun _ => ⟨rfl, rfl⟩⟩
  · exact refl w

end Calm

/-! ### Gates -/

@[simp]
theorem gate_setGate (g : GateName) (gate : Gate) : (w.setGate g gate).gate g = gate := by
  cases g <;> rfl

theorem gate_setGate_of_ne {g g' : GateName} (gate : Gate) (h : g' ≠ g) :
    (w.setGate g gate).gate g' = w.gate g' := by
  cases g <;> cases g' <;> first | rfl | exact absurd rfl h

theorem Mild.setGate (g : GateName) (gate : Gate) : w.Mild (w.setGate g gate) := by
  cases g <;> exact ⟨rfl, rfl, rfl, .refl ..⟩

namespace Calm

/-- A gate may change in all but its next token and its interval. -/
theorem setGate {g : GateName} {gate : Gate} (hdue : gate.due = (w.gate g).due)
    (hperiod : gate.period = (w.gate g).period) : w.Calm (w.setGate g gate) := by
  refine ⟨.setGate g gate, fun g' => ?_⟩
  by_cases h : g' = g
  · subst h
    rw [gate_setGate]
    exact ⟨hdue, hperiod⟩
  · rw [gate_setGate_of_ne gate h]
    exact ⟨rfl, rfl⟩

theorem wakeHead (g : GateName) : w.Calm (w.wakeHead g) := by
  rw [World.wakeHead]
  split
  · exact wake _
  · exact refl w

theorem enterGate (g : GateName) (id : Nat) : w.Calm (w.enterGate g id) := by
  apply setGate <;>
  · rw [Gate.enter]
    split <;> rfl

theorem leaveGate (g : GateName) (id : Nat) : w.Calm (w.leaveGate g id) := by
  have hleft : w.Calm (w.setGate g ((w.gate g).leave id)) := setGate rfl rfl
  rw [World.leaveGate]
  split
  · exact hleft.trans (wakeHead g)
  · exact hleft

theorem armGate (g : GateName) (id : Nat) : w.Calm (w.armGate g id) := by
  have harmed : w.Calm (w.setGate g { w.gate g with armed := true }) := setGate rfl rfl
  rw [World.armGate]
  split
  · exact harmed.trans (onTime (.setAlarm ..))
  · exact refl w

end Calm

theorem Mild.takeToken (g : GateName) : w.Mild (w.takeToken g) :=
  (setGate ..).trans (Calm.wakeHead g).toMild

/-! ### Sessions -/

namespace Calm

theorem sendToPool (s : Session) : w.Calm (w.sendToPool s) := by
  rw [World.sendToPool]
  split
  · exact (withPool _).trans (wake .pool)
  · exact refl w

theorem checkIn (s : Session) (cooldown : Nat) : w.Calm (w.checkIn s cooldown).2 := by
  rw [World.checkIn]
  split
  · exact refl w
  · split
    · exact sendToPool s
    · refine Calm.trans ?_ (wake _)
      exact ⟨⟨rfl, rfl, rfl, .refl ..⟩, fun _ => ⟨rfl, rfl⟩⟩

theorem evict (s : Session) : w.Calm (w.evict s) := (count _).trans (deals (.evict s))

/-- To part with a session is to take no token and to forget nobody. -/
theorem disposeOf (s : Session) : w.Calm (w.disposeOf s) := by
  rw [World.disposeOf]
  dsimp only
  split
  · exact (deals (.refreshProxy s)).trans (evict _)
  · exact (deals (.refreshProxy s)).trans (checkIn ..)

end Calm

/-! ### Tokens -/

theorem gate_wakeHead (g g' : GateName) : (w.wakeHead g).gate g' = w.gate g' := by
  rw [wakeHead]
  split <;> rfl

theorem gate_record (c : Client) (op : Operation) (g : GateName) :
    (w.record c op).gate g = w.gate g := by
  rw [record]
  split <;> rfl

/-- A token of a gate has been taken, and nothing has happened to the other one. -/
structure Takes (g : GateName) (w w' : World) : Prop extends Mild w w' where
  gate : w'.gate g = (w.gate g).take w.now
  other : ∀ g' ≠ g, w'.gate g' = w.gate g'

/-- To take a token moves the gate on by one. -/
theorem takes_takeToken (g : GateName) : Takes g w (w.takeToken g) where
  toMild := .takeToken g
  gate := by rw [takeToken, gate_wakeHead, gate_setGate]
  other g' h := by rw [takeToken, gate_wakeHead, gate_setGate_of_ne _ h]

theorem Takes.record {w' : World} {g : GateName} (h : Takes g w w') (c : Client) (op : Operation) :
    Takes g w (w'.record c op) where
  toMild := h.toMild.trans (Calm.deals (.record c op)).toMild
  gate := (gate_record c op g).trans h.gate
  other g' hne := (gate_record c op g').trans (h.other g' hne)

end World

/-! ## How far scans have come -/

def LoginWait.rank : LoginWait → Nat
  | .token .first => 0
  | .answer .first .. => 1
  | .token .forced => 2
  | .answer .forced .. => 3

def ScanWait.rank : ScanWait → Nat
  | .login wait => wait.rank
  | .callToken => 4
  | .call .. => 5

def Attempt.rank : Attempt → Nat
  | .first => 0
  | .swapped => 1
  | .repeated => 2

def ScanStage.rank : ScanStage → Nat
  | .planned _ => 0
  | .checkout _ => 1
  | .leaving => 2
  | .working _ attempt wait => 3 + 6 * attempt.rank + wait.rank
  | .finished .. => 21

theorem LoginWait.rank_lt (wait : LoginWait) : wait.rank < 4 := by
  cases wait with
  | token t => cases t <;> simp [rank]
  | answer t a due => cases t <;> simp [rank]

theorem ScanWait.rank_lt (wait : ScanWait) : wait.rank < 6 := by
  cases wait with
  | login wait => exact Nat.lt_trans wait.rank_lt (by decide)
  | callToken => simp [rank]
  | call a due => simp [rank]

theorem ScanStage.rank_le (stage : ScanStage) : stage.rank ≤ 21 := by
  cases stage with
  | working s attempt wait =>
      have hwait := wait.rank_lt
      cases attempt <;> simp only [rank, Attempt.rank] <;> omega
  | _ => simp [rank]

/-- How many steps a preload has at most before it. -/
def Preload.left (p : Preload) : Nat :=
  match p.stage with
  | .next => 10 * p.remaining + 1
  | .login _ swapped _ wait => 10 * p.remaining + (if swapped then 5 else 9) - wait.rank
  | .finished _ => 0

def CheckoutStage.left : CheckoutStage → Nat
  | .planned => 3
  | .waiting _ => 2
  | .leaving => 1
  | .finished .. => 0

def Task.left : Task → Nat
  | .scan s => 21 - s.stage.rank
  | .preload p => p.left
  | .checkout c => c.stage.left

/-- A scan that has come further has fewer steps before it. -/
theorem Task.left_scan_lt {scan scan' : Scan} (h : scan.stage.rank < scan'.stage.rank) :
    (Task.scan scan').left < (Task.scan scan).left := by
  have hle := scan'.stage.rank_le
  rw [left, left]
  omega

namespace World

/-! ## The end of a turn of a scan -/

/-- A scan ends its turn further on: at work, or at its end with a result that is allowed. -/
inductive ScanLands (R : World → Prop) (id : Nat) (scan : Scan) (may : ScanError → Prop) :
    World → Prop where
  | work {v : World} (h : R v) {s : Session} {attempt : Attempt} {wait : ScanWait}
      (hrank : scan.stage.rank < (ScanStage.working s attempt wait).rank) :
      ScanLands R id scan may (v.work id scan s attempt wait)
  | finish {v : World} (h : R v) {result : Except ScanError (List MapObject)}
      (hmay : ∀ e, result = .error e → may e) :
      ScanLands R id scan may (v.finishScan id scan result)

variable {w start : World} {id : Nat} {scan : Scan} {may : ScanError → Prop}

theorem ScanLands.mono {R : World → Prop} {may' : ScanError → Prop} (h : ScanLands R id scan may w)
    (hmay : ∀ e, may e → may' e) : ScanLands R id scan may' w := by
  cases h with
  | work h hrank => exact .work h hrank
  | finish h hresult => exact .finish h fun e he => hmay e (hresult e he)

/-- A failure of a scan that has been at work is a timeout just when the deadline has passed. -/
def TellsTime (start : World) (scan : Scan) (e : ScanError) : Prop :=
  e = .timeout ↔ scan.deadline ≤ start.now

theorem conclude_lands (id : Nat) (scan : Scan) (h : start.Calm w) (s : Session)
    {result : Except ScanError MapPayload} (hmay : ∀ e, result = .error e → may e) :
    ∃ v result', start.Calm v ∧ (∀ e, result' = .error e → may e) ∧
      w.conclude id scan s result = v.finishScan id scan result' := by
  refine ⟨_, _, (h.trans ?_).trans (.disposeOf s), ?_, rfl⟩
  · split
    · exact .addObjects _
    · exact .refl w
  · intro e he
    cases result with
    | ok payload => cases he
    | error e' => exact hmay e (by simpa [Except.map] using he)

/-- A scan that ends does so with the result that it has come to. -/
theorem ScanLands.conclude (h : start.Calm w) (s : Session)
    {result : Except ScanError MapPayload} (hmay : ∀ e, result = .error e → may e) :
    ScanLands start.Calm id scan may (w.conclude id scan s result) := by
  obtain ⟨v, result', hv, hmay', heq⟩ := conclude_lands id scan h s hmay
  rw [heq]
  exact .finish hv hmay'

/-- What a client fails with is never reported as a timeout. -/
theorem scanError_ne_timeout (s : Session) (e : ClientError) : (scanError s e).1 ≠ .timeout := by
  unfold scanError
  split
  · simp
  · simp
  · simp
  · simp
  · dsimp only
    split <;> simp

namespace ScanLands

/-- A scan that gives up after an attempt tells the time truly. -/
theorem concludeAttempt (h : start.Calm w) (s : Session) {outcome : Except Failure MapPayload}
    (hlate : outcome = .error .deadline → scan.deadline ≤ start.now) :
    ScanLands start.Calm id scan (TellsTime start scan) (w.concludeAttempt id scan s outcome) := by
  have htimeout (hle : scan.deadline ≤ start.now) :
      ScanLands start.Calm id scan (TellsTime start scan)
        (w.conclude id scan s (.error .timeout)) := by
    refine conclude h s fun e he => ?_
    cases he
    exact iff_of_true rfl hle
  unfold World.concludeAttempt
  split
  · exact conclude h s fun e he => nomatch he
  · split
    · exact htimeout (hlate rfl)
    · rename_i e
      split
      · rename_i hle
        exact htimeout (h.now ▸ hle)
      · rename_i hle
        rw [h.now] at hle
        have hne := scanError_ne_timeout s e
        refine conclude h _ fun e' he => ?_
        cases he
        exact iff_of_false hne hle

/-- A new attempt is further on than any stage of the one before. -/
theorem beginAttempt (h : start.Calm w) (s : Session) {attempt : Attempt}
    (hrank : scan.stage.rank < 3 + 6 * attempt.rank) :
    ScanLands start.Calm id scan may (w.beginAttempt id scan s attempt) := by
  rw [World.beginAttempt]
  split
  · refine work (h.trans (.enterGate .call id)) ?_
    rw [ScanStage.rank]
    omega
  · refine work (h.trans (.enterGate .login id)) ?_
    rw [ScanStage.rank]
    omega

/-- So is the call that is made once more. -/
theorem afterAttempts (h : start.Calm w) (s : Session) {outcome : Except Failure MapPayload}
    (hrank : scan.stage.rank < 15)
    (hlate : outcome = .error .deadline → scan.deadline ≤ start.now) :
    ScanLands start.Calm id scan (TellsTime start scan) (w.afterAttempts id scan s outcome) := by
  unfold World.afterAttempts
  split
  · rename_i e
    have hclassified := h.trans (.deals (.classify s e))
    dsimp only
    split
    · refine work (hclassified.trans (.enterGate .call id)) (Nat.lt_of_lt_of_le hrank ?_)
      simp [ScanStage.rank, Attempt.rank, ScanWait.rank]
    · exact concludeAttempt hclassified _ hlate
  · exact concludeAttempt h s hlate

/-- Each attempt comes after the one before. -/
theorem afterAttempt (h : start.Calm w) (s : Session) {attempt : Attempt}
    {outcome : Except Failure MapPayload} (hrank : scan.stage.rank < 9 + 6 * attempt.rank)
    (hlate : outcome = .error .deadline → scan.deadline ≤ start.now) :
    ScanLands start.Calm id scan (TellsTime start scan)
      (w.afterAttempt id scan s attempt outcome) := by
  have hmarked := h.trans (.deals (.markProxyDead s))
  unfold World.afterAttempt
  cases attempt with
  | first =>
      have hrank : scan.stage.rank < 9 := hrank
      have hswapped := h.trans (.deals (.swapProxy s))
      dsimp only
      split
      · rw [if_pos rfl]
        split
        · rename_i hle
          rw [h.now] at hle
          refine conclude hmarked _ fun e he => ?_
          cases he
          exact iff_of_true rfl hle
        · rename_i hle
          rw [h.now] at hle
          split
          · rename_i hswap
            rw [hswap] at hswapped
            exact beginAttempt hswapped _ hrank
          · rename_i hswap
            rw [hswap] at hswapped
            refine conclude hswapped _ fun e he => ?_
            cases he
            exact iff_of_false (by simp) hle
      · rw [if_neg Bool.false_ne_true]
        exact afterAttempts h s (by omega) hlate
  | swapped =>
      have hrank : scan.stage.rank < 15 := hrank
      dsimp only
      split
      · exact afterAttempts hmarked _ hrank hlate
      · exact afterAttempts h _ hrank hlate
  | repeated =>
      dsimp only
      split
      · split
        · exact concludeAttempt (hmarked.trans (.deals (.classify ..))) _ hlate
        · exact concludeAttempt (h.trans (.deals (.classify ..))) _ hlate
      · exact concludeAttempt h s hlate

theorem beginWork (h : start.Calm w) (s : Session) (hrank : scan.stage.rank < 3) :
    ScanLands start.Calm id scan may (w.beginWork id scan s) :=
  beginAttempt (h.trans (.deals (.record ..))) s hrank

/-- A session that cannot be used makes a scan busy. -/
theorem acquire (h : start.Calm w) (s : Session) (hrank : scan.stage.rank < 3) :
    ScanLands start.Calm id scan (· = .busy) (w.acquire id scan s) := by
  have hrefreshed := h.trans (.deals (.refreshProxy s))
  have hswapped := hrefreshed.trans (.deals (.swapProxy (w.refreshProxy s).1))
  rw [World.acquire]
  dsimp only
  split
  · split
    · rename_i hswap
      rw [hswap] at hswapped
      exact beginWork hswapped _ hrank
    · rename_i hswap
      rw [hswap] at hswapped
      exact finish (hswapped.trans (.evict _)) fun e he => (Except.error.inj he).symm
  · exact beginWork hrefreshed _ hrank

/-- A scan for which no session can be built is busy. -/
theorem acquireNew (h : start.Calm w) (hrank : scan.stage.rank < 3) :
    ScanLands start.Calm id scan (· = .busy) (w.acquireNew id scan) := by
  have hprovisioned := h.trans (.deals .provision)
  rw [World.acquireNew]
  split
  · rename_i s w' hprovision
    rw [hprovision] at hprovisioned
    exact beginWork (hprovisioned.trans (.deals (.board _))) s hrank
  · rename_i hprovision
    rw [hprovision] at hprovisioned
    exact finish hprovisioned fun e he => (Except.error.inj he).symm

end ScanLands

end World

end MapScout
