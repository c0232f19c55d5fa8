import MapScout.Proofs.Dispatch.Turns

/-!
# The spacing of requests

Logins and map calls each pass a gate of their own.  Every request that is sent takes exactly one
token of its gate, and nothing else takes any, whoever waits, gives up or begins anew.  A token is
not taken before it is due, and the next one is due a period later, so that the requests of all
tasks together keep the distance that the gate prescribes, up to its tolerance.
-/

namespace MapScout

/-- A request that has passed its gate. -/
structure Issue where
  request : ClientRequest
  /-- When the token was due that it took. -/
  due : Nat
  at_ : Nat
  deriving DecidableEq, Repr

/-- The token was taken exactly when it was due, or so late that the rhythm began anew. -/
def Issue.IsOnBeat (c : Issue) : Prop := c.at_ = c.due ∨ c.due + Gate.tolerance < c.at_

instance (c : Issue) : Decidable c.IsOnBeat := inferInstanceAs (Decidable (_ ∨ _))

def Entry.sent? : Entry → Option ClientRequest
  | .sent r => some r
  | _ => none

def DispatchConfig.interval (c : DispatchConfig) : GateName → Nat
  | .login => c.loginInterval
  | .call => c.callInterval

namespace World

variable {w : World} {id : Nat}

/-- The requests that are sent in one event and have to pass a gate. -/
def sentIn (g : GateName) (w : World) (e : Event) : List ClientRequest :=
  ((w.entriesIn e).filterMap Entry.sent?).filter fun r => r.kind.gate = g

/-- The same with the token that is there for them. -/
def issuesIn (g : GateName) (w : World) (e : Event) : List Issue :=
  (w.sentIn g e).map fun r => ⟨r, (w.gate g).due, w.now⟩

def issues (g : GateName) : World → List Event → List Issue
  | _, [] => []
  | w, e :: events => w.issuesIn g e ++ (w.happen e).issues g events

/-- These are the requests of the run. -/
theorem request_issues (g : GateName) (w : World) (events : List Event) :
    (w.issues g events).map (·.request) =
      ((w.transcript events).filterMap Entry.sent?).filter fun r => r.kind.gate = g := by
  induction events generalizing w with
  | nil => rfl
  | cons e events ih =>
      rw [issues, transcript, List.map_append, ih, List.filterMap_append, List.filter_append,
        issuesIn, List.map_map]
      exact congrArg (· ++ _) (List.map_id _)

/-- What one event makes of a gate: nothing is sent that has to pass it, and it keeps its next
token; or one request is sent, which takes the token that is due, and the other gate is left
alone. -/
inductive AtGate (g : GateName) (w : World) (e : Event) : Prop where
  | rests (hnone : w.sentIn g e = []) (hdue : ((w.happen e).gate g).due = (w.gate g).due)
  | passes (r : ClientRequest) (hone : w.sentIn g e = [r]) (hdue : (w.gate g).due ≤ w.now)
      (hnext : ((w.happen e).gate g).due = Gate.nextDue (w.gate g).period (w.gate g).due w.now)
      (hother : ∀ g' ≠ g, (w.happen e).gate g' = w.gate g')

/-! ### One event -/

/-- What is heard is not sent. -/
theorem filterMap_sent?_hears (σ : Seat) (id now : Nat) :
    (σ.hears id now).filterMap Entry.sent? = [] := by
  apply List.filterMap_eq_nil_iff.mpr
  intro entry h
  rcases σ.mem_hears h with ⟨r, a, -, -, rfl⟩ | ⟨r, -, rfl⟩ <;> rfl

theorem sentIn_turn {g : GateName} {σ : Seat} (hseat : w.seat? id = some σ) :
    w.sentIn g (.turn (.task id)) =
      ((((w.happen (.turn (.task id))).seat? id).toList.flatMap (σ.sends id)).filterMap
        Entry.sent?).filter fun r => r.kind.gate = g := by
  simp only [sentIn, entriesIn, hseat, List.filterMap_append, filterMap_sent?_hears,
    List.nil_append]

/-- A token that is taken makes the next one due a period later. -/
theorem take_of_pos {gate : Gate} (hpos : 0 < gate.period) (now : Nat) :
    (gate.take now).due = Gate.nextDue gate.period gate.due now ∧
      (gate.take now).period = gate.period := by
  rw [Gate.take, if_neg (Nat.ne_of_gt hpos)]
  exact ⟨rfl, rfl⟩

/-- A token cannot be taken before it is due. -/
theorem due_le_of_canTake {gate : Gate} {now : Nat} (hpos : 0 < gate.period)
    (h : gate.canTake id now) : gate.due ≤ now := by
  simp only [Gate.canTake, Bool.or_eq_true, Bool.and_eq_true, decide_eq_true_eq] at h
  exact h.elim (fun hzero => absurd hzero (Nat.ne_of_gt hpos)) And.right

/-- The clock does not go back, and the tokens of a gate stay as far apart as they are. -/
structure Keeps (g : GateName) (w w' : World) : Prop where
  now : w.now ≤ w'.now
  period : (w'.gate g).period = (w.gate g).period

theorem Calm.keeps {w' : World} (h : w.Calm w') (g : GateName) : Keeps g w w' :=
  ⟨Nat.le_of_eq h.now.symm, (h.gate g).2⟩

/-- A task that comes to the end of its turn without a request has left the gates alone. -/
theorem Lands.gate {w' : World} (h : Lands w id w') (g : GateName) :
    (w'.gate g).due = (w.gate g).due ∧ Keeps g w w' := by
  cases h with
  | proceed h t => exact ⟨(h.gate g).1, (h.keeps g).now, (h.keeps g).period⟩
  | finish h t => exact ⟨(h.gate g).1, (h.keeps g).now, (h.keeps g).period⟩

theorem request?_eq_none {σ : Seat} : σ.request? id = none ↔ σ.wait.gate?.isSome := by
  rw [Seat.request?, Option.map_eq_none_iff, ScanWait.kind?_eq_none]

/-- What is sent in the turn of a task. -/
theorem sentIn_eq_nil {g : GateName}
    (h : ∀ σ σ', w.seat? id = some σ → (w.happen (.turn (.task id))).seat? id = some σ' →
      σ.wait.gate?.isSome → σ'.request? id = none) : w.sentIn g (.turn (.task id)) = [] := by
  cases hseat : w.seat? id with
  | none => simp [sentIn, entriesIn, hseat]
  | some σ =>
      rw [sentIn_turn hseat]
      cases hseat' : (w.happen (.turn (.task id))).seat? id with
      | none => rfl
      | some σ' =>
          by_cases hnone : σ.request? id = none
          · simp [Seat.sends, h σ σ' hseat hseat' (request?_eq_none.mp hnone)]
          · simp [Seat.sends, hnone]

/-- Who takes a token sends one request, which had to pass that gate. -/
theorem sentIn_of_takes (g : GateName) {g₀ : GateName} {v : World} {σ σ' : Seat} {t : Task}
    (hseat : w.seat? id = some σ) (hwait : σ.wait.gate? = some g₀) (htasks : v.tasks = w.tasks)
    (ht : t.seat? = some σ') (hkind : σ'.wait.kind?.map RequestKind.gate = some g₀)
    (hturn : w.happen (.turn (.task id)) = v.proceed id t) :
    ∃ r, w.sentIn g (.turn (.task id)) = if g₀ = g then [r] else [] := by
  have hid : (w.task? id).isSome := by
    cases htask : w.task? id with
    | none =>
        rw [seat?, htask] at hseat
        cases hseat
    | some t => rfl
  have hseat' : (w.happen (.turn (.task id))).seat? id = some σ' := by
    rw [hturn]
    exact (seat?_setTask htasks hid t _).trans ht
  obtain ⟨kind, hkind, hgate⟩ := Option.map_eq_some_iff.mp hkind
  have hr : ∃ r, σ'.request? id = some r ∧ r.kind.gate = g₀ := by
    rw [Seat.request?, hkind]
    exact ⟨_, rfl, hgate⟩
  obtain ⟨r, hr, hrgate⟩ := hr
  have hnone : σ.request? id = none := request?_eq_none.mpr (by rw [hwait]; rfl)
  refine ⟨r, ?_⟩
  rw [sentIn_turn hseat, hseat']
  simp [Seat.sends, hnone, hr, Entry.sent?, hrgate, List.filter_cons]

/-- What a task does in its turn is what happens at the gates. -/
theorem atGate_turn {g : GateName} (hpos : 0 < (w.gate g).period) (id : Nat) :
    w.AtGate g (.turn (.task id)) ∧ Keeps g w (w.happen (.turn (.task id))) := by
  have hturn := turn_comes (w.beginTurn (.task id)) id
  rw [← happen_turn] at hturn
  cases hturn with
  | waits h =>
      refine ⟨.rests (sentIn_eq_nil fun σ σ' hσ hσ' hwait => ?_) (h.gate g).1,
        (h.keeps g).now, (h.keeps g).period⟩
      rw [seat?_congr (task?_congr h.tasks id)] at hσ'
      obtain rfl := Option.some.inj (hσ.symm.trans hσ')
      exact request?_eq_none.mpr hwait
  | lands hwait h =>
      obtain ⟨hdue, hnow, hperiod⟩ := h.gate g
      refine ⟨.rests (sentIn_eq_nil fun σ σ' hσ hσ' hsome => ?_) hdue, hnow, hperiod⟩
      rw [hwait σ hσ] at hsome
      cases hsome
  | quits h hseat =>
      obtain ⟨hdue, hnow, hperiod⟩ := h.gate g
      refine ⟨.rests (sentIn_eq_nil fun σ σ' hσ hσ' hsome => ?_) hdue, hnow, hperiod⟩
      rw [hseat] at hσ'
      cases hσ'
  | @takes v _ g₀ _ _ _ _ hseat hwait hcan h ht hkind _ _ hturn =>
      obtain ⟨r, hsent⟩ := sentIn_of_takes (w := w) g hseat hwait h.tasks ht hkind hturn
      have hgate (g : GateName) : (w.happen (.turn (.task id))).gate g = v.gate g := by
        rw [hturn]
        rfl
      have hnow : w.now ≤ (w.happen (.turn (.task id))).now := by
        rw [hturn]
        exact Nat.le_of_eq h.now.symm
      by_cases hg : g₀ = g
      · subst hg
        obtain ⟨hdue, hperiod⟩ := take_of_pos hpos w.now
        have htaken : (w.happen (.turn (.task id))).gate g₀ = (w.gate g₀).take w.now :=
          (hgate g₀).trans h.gate
        rw [← htaken] at hdue hperiod
        rw [if_pos rfl] at hsent
        exact ⟨.passes r hsent (due_le_of_canTake hpos hcan) hdue
          fun g' hne => (hgate g').trans (h.other g' hne), hnow, hperiod⟩
      · rw [if_neg hg] at hsent
        have hsame : (w.happen (.turn (.task id))).gate g = w.gate g :=
          (hgate g).trans (h.other g (Ne.symm hg))
        exact ⟨.rests hsent (by rw [hsame]), hnow, by rw [hsame]⟩

/-- What happens at a gate in one event. -/
theorem atGate_happen {g : GateName} (hpos : 0 < (w.gate g).period) (e : Event) :
    w.AtGate g e ∧ Keeps g w (w.happen e) := by
  have hcalm {v : World} {e : Event} (hnone : w.sentIn g e = []) (h : v.Calm (w.happen e))
      (hgate : v.gate g = w.gate g) (hnow : v.now = w.now) :
      w.AtGate g e ∧ Keeps g w (w.happen e) := by
    obtain ⟨hdue, hperiod⟩ := h.gate g
    rw [hgate] at hdue hperiod
    exact ⟨.rests hnone hdue, Nat.le_of_eq (hnow.symm.trans h.now.symm), hperiod⟩
  cases e with
  | turn o =>
      cases o with
      | task id => exact atGate_turn hpos id
      | cooling id => exact hcalm rfl (Calm.coolingTurn id) rfl rfl
      | pool => exact hcalm rfl Calm.poolTurn rfl rfl
      | gate g => exact hcalm rfl (Calm.wakeHead g) rfl rfl
  | pass now =>
      refine ⟨.rests rfl rfl, ?_, rfl⟩
      change w.time.now ≤ (w.time.advance now).now
      rw [Timeline.now_advance]
      exact Nat.le_max_left ..
  | readWall => exact ⟨.rests rfl rfl, Nat.le_refl _, rfl⟩
  | scan place start => exact hcalm rfl (Calm.wake _) rfl rfl
  | preload count => exact hcalm rfl (Calm.wake _) rfl rfl
  | addProxy id => exact ⟨.rests rfl rfl, Nat.le_refl _, rfl⟩
  | loseProxy id => exact ⟨.rests rfl rfl, Nat.le_refl _, rfl⟩
  | sweep => exact ⟨.rests rfl rfl, Nat.le_refl _, rfl⟩

/-! ### Runs -/

variable {g : GateName} {e : Event} {events : List Event}

/-- Nothing is sent before its time has come. -/
theorem now_le_issues (hpos : 0 < (w.gate g).period) : ∀ c ∈ w.issues g events, w.now ≤ c.at_ := by
  induction events generalizing w with
  | nil => exact fun c hc => nomatch hc
  | cons e events ih =>
      obtain ⟨-, hkeeps⟩ := atGate_happen hpos e
      intro c hc
      rcases List.mem_append.mp hc with hc | hc
      · obtain ⟨r, -, rfl⟩ := List.mem_map.mp hc
        exact Nat.le_refl _
      · exact Nat.le_trans hkeeps.now (ih (by rwa [hkeeps.period]) c hc)

/-- Two tokens are due at least a period apart. -/
theorem due_add_le_nextDue (period due now : Nat) :
    due + period ≤ Gate.nextDue period due now := by
  rw [Gate.nextDue]
  split <;> omega

theorem issues_of_none (hnone : w.sentIn g e = []) (events : List Event) :
    w.issues g (e :: events) = (w.happen e).issues g events := by
  rw [issues, issuesIn, hnone, List.map_nil, List.nil_append]

theorem issues_of_one {r : ClientRequest} (hone : w.sentIn g e = [r]) (events : List Event) :
    w.issues g (e :: events) =
      ⟨r, (w.gate g).due, w.now⟩ :: (w.happen e).issues g events := by
  rw [issues, issuesIn, hone, List.map_singleton, List.singleton_append]

/-- The token that is due next is the first that can be taken, and each further one is due a period
later. -/
theorem due_le_issues (hpos : 0 < (w.gate g).period) (k : Nat)
    (hk : k < (w.issues g events).length) :
    (w.gate g).due + k * (w.gate g).period ≤ (w.issues g events)[k].at_ := by
  induction events generalizing w k with
  | nil => cases hk
  | cons e events ih =>
      obtain ⟨hgate, hkeeps⟩ := atGate_happen hpos e
      have ih := fun k => ih (w := w.happen e) (by rwa [hkeeps.period]) k
      rw [hkeeps.period] at ih
      cases hgate with
      | rests hnone hdue =>
          simp only [issues_of_none hnone] at hk ⊢
          rw [← hdue]
          exact ih k hk
      | passes r hone hdue hnext hother =>
          simp only [issues_of_one hone] at hk ⊢
          cases k with
          | zero => simpa using hdue
          | succ k =>
              have hlater := ih k (by simpa using hk)
              have hnext' := due_add_le_nextDue (w.gate g).period (w.gate g).due w.now
              rw [hnext] at hlater
              rw [List.getElem_cons_succ, Nat.succ_mul]
              omega

/-- Two requests in their order keep the distance of their gate. -/
structure Spaced (period steps : Nat) (c d : Issue) : Prop where
  inOrder : c.at_ ≤ d.at_
  apart : c.at_ + steps * period ≤ d.at_ + Gate.tolerance
  apart_of_isOnBeat (h : c.IsOnBeat) : c.at_ + steps * period ≤ d.at_

/-- What is taken at `now` is followed by tokens that are due periods after it. -/
theorem spaced_of_nextDue {period due now k : Nat} {r : ClientRequest} {d : Issue}
    (hnow : now ≤ d.at_) (h : Gate.nextDue period due now + k * period ≤ d.at_) :
    Spaced period (k + 1) ⟨r, due, now⟩ d := by
  rw [Gate.nextDue] at h
  refine ⟨hnow, ?_, fun hbeat => ?_⟩
  · change now + (k + 1) * period ≤ d.at_ + Gate.tolerance
    rw [Nat.succ_mul]
    split at h <;> omega
  · have hbeat : now = due ∨ due + Gate.tolerance < now := hbeat
    change now + (k + 1) * period ≤ d.at_
    rw [Nat.succ_mul]
    split at h <;> omega

/-- Of two requests each comes as many periods after the other as there are requests from one to the
other. -/
theorem spaced_issues (hpos : 0 < (w.gate g).period) {i j : Nat} (hij : i < j)
    (hj : j < (w.issues g events).length) :
    Spaced (w.gate g).period (j - i) (w.issues g events)[i] (w.issues g events)[j] := by
  induction events generalizing w i j with
  | nil => cases hj
  | cons e events ih =>
      obtain ⟨hgate, hkeeps⟩ := atGate_happen hpos e
      have hpos' : 0 < ((w.happen e).gate g).period := by rwa [hkeeps.period]
      have ih := fun {i j} => ih (w := w.happen e) (i := i) (j := j) hpos'
      rw [hkeeps.period] at ih
      cases hgate with
      | rests hnone hdue =>
          simp only [issues_of_none hnone] at hj ⊢
          exact ih hij hj
      | passes r hone hdue hnext hother =>
          simp only [issues_of_one hone] at hj ⊢
          obtain ⟨j, rfl⟩ := Nat.exists_eq_add_of_le' (Nat.succ_le_of_lt (Nat.zero_lt_of_lt hij))
          have hj' : j < ((w.happen e).issues g events).length := by simpa using hj
          cases i with
          | zero =>
              have hlater := due_le_issues hpos' j hj'
              have hnow := now_le_issues hpos' _ (List.getElem_mem hj')
              rw [hnext, hkeeps.period] at hlater
              exact spaced_of_nextDue (Nat.le_trans hkeeps.now hnow) hlater
          | succ i =>
              rw [Nat.add_sub_add_right]
              exact ih (Nat.lt_of_succ_lt_succ hij) hj'

/-- The interval of a gate stays as it is. -/
theorem period_run (hpos : 0 < (w.gate g).period) (events : List Event) :
    ((w.run events).gate g).period = (w.gate g).period := by
  induction events generalizing w with
  | nil => rfl
  | cons e events ih =>
      have hkeeps := (atGate_happen hpos e).2
      exact (ih (by rwa [hkeeps.period])).trans hkeeps.period

/-- A task that has given up has taken no token. -/
theorem AtGate.due_of_gone (h : w.AtGate g (.turn (.task id)))
    (hgone : (w.happen (.turn (.task id))).seat? id = none) :
    ((w.happen (.turn (.task id))).gate g).due = (w.gate g).due := by
  cases h with
  | rests hnone hdue => exact hdue
  | passes r hone hdue hnext hother =>
      cases hseat : w.seat? id with
      | none => simp [sentIn, entriesIn, hseat] at hone
      | some σ => simp [sentIn_turn hseat, hgone] at hone

/-- The logins of a run, and its map calls, each keep the distance that is set for them.  At any
moment of the run, whatever happens next, each request takes one token of its gate and leaves the
other gate alone, and where none is sent, as when a task gives up, no token is taken. -/
theorem requests_spaced (hgate : (w.gate g).period = w.config.interval g)
    (hpos : 0 < w.config.interval g) (events : List Event) :
    (w.issues g events).map (·.request) =
        (((w.transcript events).filterMap Entry.sent?).filter fun r => r.kind.gate = g) ∧
      (∀ i j (_ : i < j) (_ : j < (w.issues g events).length),
        Spaced (w.config.interval g) (j - i) (w.issues g events)[i] (w.issues g events)[j]) ∧
      ((w.run events).gate g).period = w.config.interval g ∧
      (∀ e, (w.run events).AtGate g e) ∧
      ∀ id, ((w.run events).happen (.turn (.task id))).seat? id = none →
        (((w.run events).happen (.turn (.task id))).gate g).due = ((w.run events).gate g).due := by
  rw [← hgate] at hpos ⊢
  have hperiod := period_run hpos events
  have hatGate : ∀ e, (w.run events).AtGate g e :=
    fun e => (atGate_happen (by rwa [hperiod]) e).1
  exact ⟨request_issues g w events, fun i j hij hj => spaced_issues hpos hij hj, hperiod,
    hatGate, fun id => (hatGate _).due_of_gone⟩

/-- Two sessions at rest, and a map call every 100 milliseconds. -/
def callsApart : World :=
  let account (username : String) : Account :=
    { username, password := "pw", provider := "ptc", used := true }
  let proxy (id : ProxyId) : Proxy := { id, inUse := true }
  let session (username : String) (id : ProxyId) : Session :=
    { account := account username, proxy := proxy id, client := .canned {} }
  { config := { requestTimeout := 1000, loginInterval := 1000, callInterval := 100 }
    store := { inventory := { accounts := [account "ann", account "bob"]
                              proxies := [proxy 1, proxy 2] } }
    pool := { buffer := [session "ann" 1, session "bob" 2] } }

/-- Two scans are asked for and each gets a session.  The first one takes its token three
milliseconds late, the other one as soon as it can. -/
def twoScans : List Event :=
  [.scan default 0, .scan default 0, .turn (.task 0), .turn (.task 1)] ++
    List.replicate 12 (.turn .pool) ++
    [.turn (.task 0), .turn (.task 1), .pass 3, .turn (.task 0), .pass 100, .turn (.task 1)]

theorem requests_spaced_callsApart :
    (callsApart.issues .call twoScans).map (fun c => (c.due, c.at_)) = [(0, 3), (100, 100)] ∧
      ∀ i j (_ : i < j) (_ : j < (callsApart.issues .call twoScans).length),
        Spaced 100 (j - i) (callsApart.issues .call twoScans)[i]
          (callsApart.issues .call twoScans)[j] :=
  ⟨by decide +kernel, (requests_spaced rfl (by decide) twoScans).2.1⟩

end World

end MapScout
