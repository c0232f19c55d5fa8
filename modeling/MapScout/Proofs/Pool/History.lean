import MapScout.Proofs.Dispatch.Attention
import MapScout.Proofs.Pool.Progress

/-!
# The history of a session pool

A pool among its checkouts, with a record of every session that it accepted, sent on to the queue
and handed over.  Anything may happen in any order, and at any moment every accepted session is in
exactly one place: at rest, in the mail, in the queue, lying ready for one ticket, or with the one
caller that got it.
-/

namespace MapScout

/-- A session that a pool accepted: when, and for how long it was to rest. -/
structure Acceptance where
  session : Session
  since : Nat
  rest : Nat

/-- A session that a pool handed over to a ticket. -/
structure Handover where
  ticket : Nat
  session : Session
  at_ : Nat

def Handover.entry (l : Handover) : Nat × Session := (l.ticket, l.session)

/-- A dispatcher with a record of what has happened to its pool. -/
structure PoolHistory where
  world : World
  accepted : List Acceptance
  /-- When the sessions at rest were accepted. -/
  since : Nat → Nat
  /-- The sessions that were sent to the queue, in order. -/
  entered : List Acceptance
  left : List Handover
  /-- The tickets that were handed in, in order. -/
  asked : List Nat

def CheckoutStage.hasBegun : CheckoutStage → Bool
  | .planned => false
  | _ => true

def Task.got? : Task → Option Session
  | .checkout { stage := .finished (.ok s) _, .. } => some s
  | _ => none

/-- The callers that got a session, each with what it got. -/
def World.returned (w : World) : List (Nat × Session) :=
  w.tasks.filterMap fun (id, t) => t.got?.map (id, ·)

namespace PoolHistory

inductive Event where
  /-- The pool, a checkout or a session at rest takes its turn. -/
  | turn (o : Owner)
  | pass (now : Nat)
  | checkout (timeout : Nat)
  | checkIn (s : Session) (cooldown : Nat)
  | addNew (s : Session)
  /-- The pool answers a question; `counting` if it is how many checkouts wait. -/
  | query (counting : Bool)
  /-- The pool reads a ticket although a session has come in just now. -/
  | overtake

def resting (h : PoolHistory) : List Acceptance :=
  h.world.cooling.map fun (id, c) => ⟨c.session, h.since id, c.span⟩

/-- What the turn of a session at rest sends to the queue. -/
def risen (id : Nat) (h : PoolHistory) : List Acceptance :=
  match h.world.cooling.lookup id with
  | none => []
  | some c => if c.until_.any (· ≤ h.world.now) then [⟨c.session, h.since id, c.span⟩] else []

def turn (o : Owner) (h : PoolHistory) : PoolHistory :=
  let world := h.world.happen (.turn o)
  match o with
  | .pool =>
    let handed := world.pool.handed.drop h.world.pool.handed.length
    { h with world, left := h.left ++ handed.map fun (ticket, s) => ⟨ticket, s, h.world.now⟩ }
  | .cooling id => { h with world, entered := h.entered ++ h.risen id }
  | .task _ =>
    { h with world, asked := h.asked ++ world.pool.requests.drop h.world.pool.requests.length }
  | .gate _ => { h with world }

def checkIn (s : Session) (cooldown : Nat) (h : PoolHistory) : PoolHistory :=
  let (taken, world) := h.world.checkIn s cooldown
  let entry : Acceptance := ⟨s, h.world.now, cooldown⟩
  if !taken then { h with world }
  else if cooldown = 0 then
    { h with world, accepted := h.accepted ++ [entry], entered := h.entered ++ [entry] }
  else
    { h with
      world
      accepted := h.accepted ++ [entry]
      since := fun id => if id = h.world.nextId then h.world.now else h.since id }

def addNew (s : Session) (h : PoolHistory) : PoolHistory :=
  let entry : Acceptance := ⟨s, h.world.now, 0⟩
  { h with
    world := h.world.sendToPool s
    accepted := h.accepted ++ [entry]
    entered := h.entered ++ [entry] }

/-- Changes a pool that reads its mail, which then goes on. -/
def atRest (f : Pool Session → Pool Session) (h : PoolHistory) : PoolHistory :=
  if h.world.pool.phase = .resting then
    { h with world := World.wake .pool { h.world with pool := f h.world.pool } }
  else h

def happen (e : Event) (h : PoolHistory) : PoolHistory :=
  match e with
  | .turn o => h.turn o
  | .pass now => { h with world := h.world.happen (.pass now) }
  | .checkout timeout => { h with world := (h.world.spawn (.checkout { timeout })).2 }
  | .checkIn s cooldown => h.checkIn s cooldown
  | .addNew s => h.addNew s
  | .query counting => h.atRest (Pool.answer counting)
  | .overtake => h.atRest Pool.readRequest

def run (h : PoolHistory) (events : List Event) : PoolHistory :=
  events.foldl (fun h e => h.happen e) h

/-- A pool that starts with some sessions, the spent ones left out, in a world where nobody waits.
-/
def start (initial : List Session) (w : World) : PoolHistory :=
  let pool := World.startPool initial
  let entries : List Acceptance := pool.buffer.map fun s => ⟨s, w.now, 0⟩
  { world := { w with pool, tasks := [], cooling := [] }
    accepted := entries
    since := fun _ => 0
    entered := entries
    left := []
    asked := [] }

/-- The checkout waits, and no session lies ready for it. -/
def IsOpen (h : PoolHistory) (ticket : Nat) : Prop :=
  h.world.IsAsking ticket ∧ ticket ∉ h.world.pool.handed.map (·.1)

/-- What holds of a pool at any moment after some events. -/
structure Faithful (events : List Event) (h : PoolHistory) : Prop where
  /-- Nothing is lost and nothing is there twice. -/
  conserved : (h.accepted.map (·.session)).Perm
    (h.world.cooling.map (·.2.session) ++ (h.world.pool.arrivals ++ (h.world.pool.buffer ++
      (h.world.pool.handed.map (·.2) ++ h.world.returned.map (·.2)))))
  /-- What has been handed over lies ready for one checkout that waits, or has been returned to one
  caller. -/
  holders_nodup : ((h.world.pool.handed ++ h.world.returned).map (·.1)).Nodup
  handed_asking : ∀ ticket ∈ h.world.pool.handed.map (·.1), h.world.IsAsking ticket
  handed_over : (h.left.map Handover.entry).Perm (h.world.pool.handed ++ h.world.returned)
  /-- What has been accepted rests or has entered the queue. -/
  accepted : h.accepted.Perm (h.resting ++ h.entered)
  /-- Sessions leave in the order in which they entered, and never before they have had their
  rest. -/
  first_in_first_out : ∀ (k : Nat) (l : Handover), h.left[k]? = some l →
    ∃ e : Acceptance, h.entered[k]? = some e ∧ l.session = e.session ∧ e.since + e.rest ≤ l.at_
  /-- Checkouts are served in the order in which they came, and none is passed over that still
  waits. -/
  asked_nodup : h.asked.Nodup
  asked_of_isAsking : ∀ ticket, h.world.IsAsking ticket → ticket ∈ h.asked
  served_in_order : (h.left.map (·.ticket)).Sublist h.asked
  not_passed_over : ∀ earlier later, [earlier, later].Sublist h.asked →
    later ∈ h.left.map (·.ticket) → ¬ h.IsOpen earlier
  /-- A pool with nothing to do has no session for anybody who waits, and one with something to do
  is ready for it. -/
  rests : h.world.pool.isBusy = false → h.world.pool.buffer = [] ∨ ∀ ticket, ¬ h.IsOpen ticket
  ready : h.world.pool.isBusy = true → .pool ∈ h.world.time.ready
  /-- A spent session in the queue has come past the check. -/
  added_of_isSpent : ∀ s ∈ h.world.pool.buffer, s.isSpent = true → .addNew s ∈ events

/-! ## What carries it -/

/-- The state of a pool agrees with the record of its history. -/
structure Sound (h : PoolHistory) : Prop where
  attentive : h.world.Attentive
  checkouts : ∀ id t, h.world.task? id = some t → ∃ c, t = .checkout c
  order : h.world.pool.InOrder (h.entered.map (·.session)) (h.left.map Handover.entry) h.asked
  begun : ∀ id ∈ h.asked, ∃ c, h.world.task? id = some (.checkout c) ∧ c.stage.hasBegun = true
  handed_over : (h.left.map Handover.entry).Perm (h.world.pool.handed ++ h.world.returned)
  accepted : h.accepted.Perm (h.resting ++ h.entered)
  rested : ∀ e ∈ h.entered, e.since + e.rest ≤ h.world.now
  resting : ∀ id c, (id, c) ∈ h.world.cooling → h.since id ≤ h.world.now ∧
    ∀ due, c.until_ = some due → h.since id + c.span ≤ due
  on_time : ∀ (k : Nat) (l : Handover) (e : Acceptance),
    h.left[k]? = some l → h.entered[k]? = some e → e.since + e.rest ≤ l.at_

namespace Sound

variable {h : PoolHistory} {w w' : World} {id : Nat} {c : Checkout}

/-- Time has passed, or somebody has been woken. -/
theorem later (hs : h.Sound) (hattends : w'.Attends h.world.IsAsking)
    (htasks : w'.tasks = h.world.tasks) (hpool : w'.pool = h.world.pool)
    (hcooling : w'.cooling = h.world.cooling) (hnow : h.world.now ≤ w'.now) :
    Sound { h with world := w' } := by
  have htask (i : Nat) : w'.task? i = h.world.task? i := World.task?_congr htasks i
  constructor
  · exact hattends.congr fun i => (World.isAsking_congr (htask i)).symm
  · intro i t ht
    exact hs.checkouts i t ((htask i).symm.trans ht)
  · change w'.pool.InOrder _ _ _
    rw [hpool]
    exact hs.order
  · intro i hi
    obtain ⟨c, hc, hbegun⟩ := hs.begun i hi
    exact ⟨c, (htask i).trans hc, hbegun⟩
  · change (h.left.map _).Perm (w'.pool.handed ++ w'.returned)
    rw [hpool, World.returned, htasks]
    exact hs.handed_over
  · change h.accepted.Perm (w'.cooling.map _ ++ _)
    rw [hcooling]
    exact hs.accepted
  · exact fun e he => Nat.le_trans (hs.rested e he) hnow
  · intro i c hc
    change (i, c) ∈ w'.cooling at hc
    rw [hcooling] at hc
    obtain ⟨hsince, hdue⟩ := hs.resting i c hc
    exact ⟨Nat.le_trans hsince hnow, hdue⟩
  · exact hs.on_time

/-- The pool has moved on by itself. -/
theorem act (hs : h.Sound) {pool : Pool Session} {new : List (Nat × Session)}
    {f : Timeline Owner → Timeline Owner} (hnow : (f h.world.time).now = h.world.now)
    (hattends : World.Attends (World.onTime f { h.world with pool }) h.world.IsAsking)
    (hhanded : pool.handed = h.world.pool.handed ++ new)
    (horder : pool.InOrder (h.entered.map (·.session)) (h.left.map Handover.entry ++ new) h.asked) :
    Sound { h with
      world := World.onTime f { h.world with pool }
      left := h.left ++ new.map fun (ticket, s) => ⟨ticket, s, h.world.now⟩ } := by
  have hentries : (h.left ++ new.map fun (ticket, s) => (⟨ticket, s, h.world.now⟩ : Handover)).map
      Handover.entry = h.left.map Handover.entry ++ new := by
    rw [List.map_append, List.map_map]
    exact congrArg _ (List.map_id new)
  have hnow' : (World.onTime f { h.world with pool }).now = h.world.now := hnow
  constructor
  · exact hattends
  · exact hs.checkouts
  · dsimp only
    rw [hentries]
    exact horder
  · exact hs.begun
  · dsimp only
    rw [hentries]
    change List.Perm _ (pool.handed ++ h.world.returned)
    calc List.Perm (h.left.map Handover.entry ++ new)
          ((h.world.pool.handed ++ h.world.returned) ++ new) := hs.handed_over.append_right new
      _ = h.world.pool.handed ++ (h.world.returned ++ new) := List.append_assoc ..
      List.Perm _ (h.world.pool.handed ++ (new ++ h.world.returned)) :=
        List.perm_append_comm.append_left _
      _ = pool.handed ++ h.world.returned := by rw [hhanded, List.append_assoc]
  · exact hs.accepted
  · dsimp only
    rw [hnow']
    exact hs.rested
  · dsimp only
    rw [hnow']
    exact hs.resting
  · intro k l e hl he
    by_cases hk : k < h.left.length
    · rw [List.getElem?_append_left hk] at hl
      exact hs.on_time k l e hl he
    · rw [List.getElem?_append_right (Nat.le_of_not_lt hk)] at hl
      obtain ⟨_, _, rfl⟩ := List.mem_map.mp (List.mem_of_getElem? hl)
      exact hs.rested e (List.mem_of_getElem? he)

theorem poolTurn (hs : h.Sound) : (h.turn .pool).Sound := by
  have hacts : h.world.pool.Acts h.world.pool.act := Pool.act_acts
  obtain ⟨new, hhanded, horder⟩ := hs.order.acts hacts
  have hattends := hs.attentive.poolTurn
  obtain ⟨f, hturn, hnow, -⟩ := World.poolTurn_eq
    (w := h.world.beginTurn .pool)
    hs.attentive.isOpen hs.attentive.isReading
  have hworld : h.world.happen (.turn .pool) =
      World.onTime (fun time => f { time with ready := time.ready.erase .pool })
        { h.world with pool := h.world.pool.act } := hturn
  have hnew : (h.world.happen (.turn .pool)).pool.handed.drop h.world.pool.handed.length = new := by
    rw [hworld]
    change h.world.pool.act.handed.drop _ = new
    rw [hhanded, List.drop_left]
  rw [turn]
  dsimp only
  rw [hnew, hworld]
  rw [hworld] at hattends
  exact hs.act hnow hattends hhanded horder

/-! ### Checkouts -/

theorem perm_returned {tasks : List (Nat × Task)} {t : Task} (hnodup : (tasks.map (·.1)).Nodup)
    (ht : tasks.lookup id = some t) (hgot : t.got? = none) (t' : Task) :
    ((tasks.map fun (i, u) => if i = id then (i, t') else (i, u)).filterMap
        fun (i, t) => t.got?.map (i, ·)).Perm
      ((t'.got?.map (id, ·)).toList ++ tasks.filterMap fun (i, t) => t.got?.map (i, ·)) := by
  have hbefore := (Keyed.perm_others hnodup ht).filterMap fun (i, t) => t.got?.map (i, ·)
  have hafter := (Keyed.map_perm_others hnodup ht fun _ => t').filterMap
    fun (i, t) => t.got?.map (i, ·)
  rw [List.filterMap_cons_none (by simp [hgot])] at hbefore
  refine hafter.trans (List.Perm.trans ?_ (hbefore.symm.append_left _))
  cases hgot' : t'.got? <;> simp [hgot']

/-- A checkout has gone on. -/
theorem goOn (hs : h.Sound) (hc : h.world.task? id = some (.checkout c))
    (hgot : (Task.checkout c).got? = none) {stage : CheckoutStage} (hbegun : stage.hasBegun = true)
    {asked : List Nat} (hasked : ∀ i ∈ asked, i ∈ h.asked ∨ i = id)
    (hattentive : w'.Attentive)
    (htasks : w'.tasks = (h.world.setTask id (.checkout { c with stage })).tasks)
    (hcooling : w'.cooling = h.world.cooling) (hnow : w'.now = h.world.now)
    (horder : w'.pool.InOrder (h.entered.map (·.session)) (h.left.map Handover.entry) asked)
    (hhanded : h.world.pool.handed.Perm
      (((Task.checkout { c with stage }).got?.map (id, ·)).toList ++ w'.pool.handed)) :
    Sound { h with world := w', asked } := by
  have htask : w'.task? id = some (.checkout { c with stage }) := by
    rw [World.task?_congr htasks]
    exact World.task?_setTask _ (by rw [hc]; rfl)
  have hother (i : Nat) (hi : i ≠ id) : w'.task? i = h.world.task? i := by
    rw [World.task?_congr htasks]
    exact World.task?_setTask_of_ne _ hi
  constructor
  · exact hattentive
  · intro i t ht
    by_cases hi : i = id
    · subst hi
      cases htask.symm.trans ht
      exact ⟨_, rfl⟩
    · exact hs.checkouts i t ((hother i hi).symm.trans ht)
  · exact horder
  · intro i hi
    by_cases hid : i = id
    · subst hid
      exact ⟨_, htask, hbegun⟩
    · obtain ⟨c', hc', hbegun'⟩ := hs.begun i ((hasked i hi).resolve_right hid)
      exact ⟨c', (hother i hid).trans hc', hbegun'⟩
  · have hreturned : w'.returned.Perm
        (((Task.checkout { c with stage }).got?.map (id, ·)).toList ++ h.world.returned) := by
      rw [World.returned, htasks]
      exact perm_returned hs.attentive.tasks_nodup hc hgot _
    generalize (Task.got? _).map (id, ·) = got at hhanded hreturned
    change List.Perm _ (w'.pool.handed ++ w'.returned)
    calc List.Perm (h.left.map Handover.entry) (h.world.pool.handed ++ h.world.returned) :=
          hs.handed_over
      List.Perm _ ((got.toList ++ w'.pool.handed) ++ h.world.returned) := hhanded.append_right _
      List.Perm _ ((w'.pool.handed ++ got.toList) ++ h.world.returned) :=
        List.perm_append_comm.append_right _
      _ = w'.pool.handed ++ (got.toList ++ h.world.returned) := List.append_assoc ..
      List.Perm _ (w'.pool.handed ++ w'.returned) := hreturned.symm.append_left _
  · change h.accepted.Perm (w'.cooling.map _ ++ _)
    rw [hcooling]
    exact hs.accepted
  · intro e he
    rw [show PoolHistory.world _ = w' from rfl, hnow]
    exact hs.rested e he
  · intro i c' hc'
    change (i, c') ∈ w'.cooling at hc'
    rw [hcooling] at hc'
    rw [show PoolHistory.world _ = w' from rfl, hnow]
    exact hs.resting i c' hc'
  · exact hs.on_time

/-- The requests that a turn adds to the queue are put on record. -/
theorem turn_task {more : List Nat}
    (hmore : (h.world.happen (.turn (.task id))).pool.requests = h.world.pool.requests ++ more) :
    h.turn (.task id) =
      { h with world := h.world.happen (.turn (.task id)), asked := h.asked ++ more } := by
  rw [turn, hmore, List.drop_left]

theorem turn_task_of_requests
    (hsame : (h.world.happen (.turn (.task id))).pool.requests = h.world.pool.requests) :
    h.turn (.task id) = { h with world := h.world.happen (.turn (.task id)) } := by
  have hmore : (h.world.happen (.turn (.task id))).pool.requests = h.world.pool.requests ++ [] := by
    rw [hsame, List.append_nil]
  rw [turn_task hmore, List.append_nil]

/-- Nothing has come of the turn of a task. -/
theorem wait (hs : h.Sound) (hid : id ∉ h.world.pool.handed.map (·.1))
    (hframe : (h.world.beginTurn (.task id)).Frame (h.world.happen (.turn (.task id)))) :
    (h.turn (.task id)).Sound := by
  rw [turn_task_of_requests (by rw [hframe.pool]; rfl)]
  exact hs.later ((hs.attentive.beginTask hid).frame hframe) hframe.tasks hframe.pool
    hframe.cooling (Nat.le_of_eq hframe.now.symm)

theorem happen_checkout (hc : h.world.task? id = some (.checkout c)) :
    h.world.happen (.turn (.task id)) = (h.world.beginTurn (.task id)).checkoutTurn id c := by
  have htask : (h.world.beginTurn (.task id)).task? id = some (.checkout c) := hc
  rw [World.happen_turn, World.turn, htask]

theorem got?_eq_none (hasking : c.stage.isAsking = true) : (Task.checkout c).got? = none := by
  obtain ⟨timeout, stage⟩ := c
  cases stage <;> first | rfl | cases hasking

/-- The checkout has come to its end. -/
theorem finish (hs : h.Sound) (hc : h.world.task? id = some (.checkout c))
    (hasking : c.stage.isAsking = true) (result : Except PoolError Session) {pool : Pool Session}
    (hrequests : pool.requests = h.world.pool.requests)
    (hattends : World.Attends { h.world with pool } fun i => h.world.IsAsking i ∧ i ≠ id)
    (hhanded : h.world.pool.handed.Perm
      (((Task.checkout { c with stage := .finished result h.world.now }).got?.map (id, ·)).toList ++
        pool.handed))
    (horder : pool.InOrder (h.entered.map (·.session)) (h.left.map Handover.entry) h.asked)
    (hturn : h.world.happen (.turn (.task id)) = World.finish id
      (.checkout { c with stage := .finished result h.world.now })
      (World.beginTurn (.task id) { h.world with pool })) :
    (h.turn (.task id)).Sound := by
  have hid : ¬ (h.world.IsAsking id ∧ id ≠ id) := fun hne => hne.2 rfl
  have hfinished := (hattends.beginTask (hattends.not_handed hid)).finish hid
    (.checkout { c with stage := .finished result h.world.now })
  have htask :
      (h.world.setTask id (.checkout { c with stage := .finished result h.world.now })).task? id =
        some _ := World.task?_setTask _ (by rw [hc]; rfl)
  rw [turn_task_of_requests (by rw [hturn]; exact hrequests), hturn]
  refine hs.goOn hc (got?_eq_none hasking) rfl (fun _ => Or.inl) ?_ rfl rfl rfl horder hhanded
  exact hfinished.settle (World.spares_setTask rfl _) htask rfl

/-- The checkout goes on waiting for its session. -/
theorem stay (hs : h.Sound) (hc : h.world.task? id = some (.checkout c))
    (hgot : (Task.checkout c).got? = none) {stage : CheckoutStage} (hasking : stage.isAsking = true)
    (more : List Nat) (hmore : ∀ i ∈ more, i = id)
    (hattends : w'.Attends fun i => h.world.IsAsking i ∨ i = id)
    (htasks : w'.tasks = h.world.tasks) (hcooling : w'.cooling = h.world.cooling)
    (hnow : w'.now = h.world.now) (hhanded : w'.pool.handed = h.world.pool.handed)
    (hrequests : w'.pool.requests = h.world.pool.requests ++ more)
    (horder : w'.pool.InOrder (h.entered.map (·.session)) (h.left.map Handover.entry)
      (h.asked ++ more))
    (hturn : h.world.happen (.turn (.task id)) = w'.proceed id (.checkout { c with stage })) :
    (h.turn (.task id)).Sound := by
  have htask : (w'.setTask id (.checkout { c with stage })).task? id = some _ :=
    World.task?_setTask _ (by rw [World.task?_congr htasks, hc]; rfl)
  have hset : (w'.setTask id (.checkout { c with stage })).tasks =
      (h.world.setTask id (.checkout { c with stage })).tasks := by
    rw [World.setTask, htasks]
    rfl
  have hgot' : (Task.checkout { c with stage }).got? = none := got?_eq_none hasking
  have hbegun : stage.hasBegun = true := by
    cases stage <;> first | rfl | cases hasking
  have hmem (i : Nat) (hi : i ∈ h.asked ++ more) : i ∈ h.asked ∨ i = id :=
    (List.mem_append.mp hi).imp_right (hmore i)
  rw [turn_task (by rw [hturn]; exact hrequests), hturn]
  refine hs.goOn hc hgot hbegun hmem ?_ hset hcooling hnow horder ?_
  · exact (hattends.proceed _).settle_asking (World.spares_setTask htasks _) htask hasking
  · rw [hgot']
    exact List.Perm.of_eq hhanded.symm

/-- The checkout asks for a session. -/
theorem askingTurn (hs : h.Sound) {timeout : Nat}
    (ht : h.world.task? id = some (.checkout { timeout, stage := .planned })) :
    (h.turn (.task id)).Sound := by
  have hturn := happen_checkout ht
  have hopen : (h.world.beginTurn (.task id)).pool.isOpen = true := hs.attentive.isOpen
  have hid : ¬ h.world.IsAsking id := World.not_isAsking ht rfl
  have hnew : id ∉ h.asked := by
    intro hmem
    obtain ⟨c, hc, hbegun⟩ := hs.begun id hmem
    cases ht.symm.trans hc
    cases hbegun
  have hattends := (hs.attentive.beginTask (hs.attentive.not_handed hid)).requestSession hid
  rw [World.checkoutTurn] at hturn
  simp only [hopen, if_true] at hturn
  exact hs.stay ht rfl rfl [id] (fun i hi => List.mem_singleton.mp hi) hattends rfl rfl
    (Timeline.now_wake ..) rfl rfl (hs.order.request hnew) hturn

/-- The checkout looks what has been handed over to it. -/
theorem waitingTurn (hs : h.Sound) {timeout until_ : Nat}
    (ht : h.world.task? id = some (.checkout { timeout, stage := .waiting until_ })) :
    (h.turn (.task id)).Sound := by
  have hturn := happen_checkout ht
  have hopen : (h.world.beginTurn (.task id)).pool.isOpen = true := hs.attentive.isOpen
  rw [World.checkoutTurn] at hturn
  dsimp only at hturn
  cases hcollect : h.world.pool.collect? id with
  | some result =>
      obtain ⟨s, pool⟩ := result
      obtain ⟨-, hhanded, hpool⟩ := hs.attentive.serves.collect hcollect
      rw [show (h.world.beginTurn (.task id)).pool.collect? id = _ from hcollect] at hturn
      have hattends := hs.attentive.collect hcollect
      refine hs.finish ht rfl (.ok s) (by rw [hpool]) hattends hhanded ?_ hturn
      rw [hpool]
      exact hs.order.collect _
  | none =>
      rw [show (h.world.beginTurn (.task id)).pool.collect? id = _ from hcollect] at hturn
      simp only [hopen, Bool.not_true, Bool.false_eq_true, if_false] at hturn
      have hasking : h.world.IsAsking id := ⟨_, ht, rfl⟩
      have hid := Pool.lookup_of_collect?_eq_none hcollect
      split at hturn
      · refine hs.stay ht rfl rfl [] (by simp) ((hs.attentive.beginTask hid).keep hasking)
          rfl rfl rfl rfl (List.append_nil _).symm ?_ hturn
        rw [List.append_nil]
        exact hs.order
      · apply hs.wait hid
        rw [hturn]
        exact (World.Still.stirs (.alarm ..)).toFrame

/-- The checkout gives up, with or without what was handed over to it. -/
theorem leavingTurn (hs : h.Sound) {timeout : Nat}
    (ht : h.world.task? id = some (.checkout { timeout, stage := .leaving })) :
    (h.turn (.task id)).Sound := by
  have hturn := happen_checkout ht
  have hasking : h.world.IsAsking id := ⟨_, ht, rfl⟩
  obtain ⟨-, hhanded, hpool⟩ := hs.attentive.serves.leave hasking
  have hattends := hs.attentive.leave hasking
  have hrequests : (h.world.pool.leave id).2.requests = h.world.pool.requests := by
    rw [hpool]
    rfl
  have horder : (h.world.pool.leave id).2.InOrder (h.entered.map (·.session))
      (h.left.map Handover.entry) h.asked := by
    rw [hpool]
    exact (hs.order.release id).collect _
  rw [World.checkoutTurn] at hturn
  dsimp only at hturn
  cases hleave : h.world.pool.leave id with
  | mk got pool =>
      rw [show (h.world.beginTurn (.task id)).pool.leave id = _ from hleave] at hturn
      rw [hleave] at hhanded hattends hrequests horder
      cases got with
      | some s => exact hs.finish ht rfl (.ok s) hrequests hattends hhanded horder hturn
      | none => exact hs.finish ht rfl (.error _) hrequests hattends hhanded horder hturn

theorem taskTurn (hs : h.Sound) (id : Nat) : (h.turn (.task id)).Sound := by
  cases ht : h.world.task? id with
  | none =>
      have hid : ¬ h.world.IsAsking id := World.not_isAsking_of_none ht
      have hturn : h.world.happen (.turn (.task id)) = h.world.beginTurn (.task id) := by
        have htask : (h.world.beginTurn (.task id)).task? id = none := ht
        rw [World.happen_turn, World.turn, htask]
      apply hs.wait (hs.attentive.not_handed hid)
      rw [hturn]
      exact (World.Still.refl _).toFrame
  | some t =>
      obtain ⟨⟨timeout, stage⟩, rfl⟩ := hs.checkouts id t ht
      cases stage with
      | planned => exact hs.askingTurn ht
      | waiting until_ => exact hs.waitingTurn ht
      | leaving => exact hs.leavingTurn ht
      | finished result at_ =>
          apply hs.wait (hs.attentive.not_handed (World.not_isAsking ht rfl))
          rw [happen_checkout ht]
          exact (World.Still.refl _).toFrame

theorem checkout (hs : h.Sound) (timeout : Nat) : (h.happen (.checkout timeout)).Sound := by
  have hfresh := hs.attentive.nextId_fresh
  have hnone : h.world.task? h.world.nextId = none := Keyed.lookup_eq_none hfresh
  have hnew := World.task?_spawn hfresh (.checkout { timeout })
  have hold {i : Nat} (hi : i ≠ h.world.nextId) :=
    World.task?_spawn_of_ne hi (.checkout { timeout })
  have hnow : (h.world.spawn (.checkout { timeout })).2.now = h.world.now :=
    Timeline.now_wake ..
  rw [happen]
  constructor
  · exact hs.attentive.spawn rfl
  · intro i t ht
    by_cases hi : i = h.world.nextId
    · subst hi
      cases hnew.symm.trans ht
      exact ⟨_, rfl⟩
    · exact hs.checkouts i t ((hold hi).symm.trans ht)
  · exact hs.order
  · intro i hi
    obtain ⟨c, hc, hbegun⟩ := hs.begun i hi
    refine ⟨c, (hold ?_).trans hc, hbegun⟩
    rintro rfl
    cases hnone.symm.trans hc
  · have hreturned : (h.world.spawn (.checkout { timeout })).2.returned = h.world.returned := by
      change List.filterMap _ (h.world.tasks ++ [_]) = _
      rw [List.filterMap_append]
      exact List.append_nil _
    dsimp only
    rw [hreturned]
    exact hs.handed_over
  · exact hs.accepted
  · dsimp only
    rw [hnow]
    exact hs.rested
  · dsimp only
    rw [hnow]
    exact hs.resting
  · exact hs.on_time

/-! ### Sessions that come in -/

/-- A session has come into the mail. -/
theorem enter (hs : h.Sound) (e : Acceptance) {accepted : List Acceptance}
    (hattends : w.Attends h.world.IsAsking) (htasks : w.tasks = h.world.tasks)
    (hpool : w.pool = h.world.pool) (hnow : w.now = h.world.now)
    (hcooling : ∀ entry ∈ w.cooling, entry ∈ h.world.cooling)
    (hrested : e.since + e.rest ≤ h.world.now)
    (haccepted : accepted.Perm
      (w.cooling.map (fun (id, c) => (⟨c.session, h.since id, c.span⟩ : Acceptance)) ++
        (h.entered ++ [e]))) :
    Sound { h with
      world := w.sendToPool e.session, accepted, entered := h.entered ++ [e] } := by
  have hsent := hattends.sendToPool e.session
  rw [World.sendToPool, if_pos hattends.isOpen] at hsent ⊢
  have htask (i : Nat) : w.task? i = h.world.task? i := World.task?_congr htasks i
  have hnow' : (World.wake .pool { w with pool := w.pool.send e.session }).now = h.world.now :=
    (Timeline.now_wake ..).trans hnow
  constructor
  · exact hsent.congr fun i => (World.isAsking_congr (htask i)).symm
  · intro i t ht
    exact hs.checkouts i t ((htask i).symm.trans ht)
  · change (w.pool.send e.session).InOrder ((h.entered ++ [e]).map _) _ _
    rw [hpool, List.map_append]
    exact hs.order.send hs.attentive.isOpen e.session
  · intro i hi
    obtain ⟨c, hc, hbegun⟩ := hs.begun i hi
    exact ⟨c, (htask i).trans hc, hbegun⟩
  · change (h.left.map _).Perm ((w.pool.send e.session).handed ++ w.returned)
    rw [Pool.send, if_pos hattends.isOpen, World.returned, htasks, hpool]
    exact hs.handed_over
  · exact haccepted
  · dsimp only
    rw [hnow']
    intro e' he'
    rcases List.mem_append.mp he' with he' | he'
    · exact hs.rested e' he'
    · rw [List.mem_singleton.mp he']
      exact hrested
  · dsimp only
    rw [hnow']
    exact fun i c hc => hs.resting i c (hcooling _ hc)
  · intro k l e' hl he'
    have hk : k < h.entered.length := by
      have hlt : k < h.left.length := (List.getElem?_eq_some_iff.mp hl).1
      have hle := congrArg List.length hs.order.sessions
      simp only [List.length_map, List.length_append] at hle
      omega
    rw [List.getElem?_append_left hk] at he'
    exact hs.on_time k l e' hl he'

theorem addNew (hs : h.Sound) (s : Session) : (h.addNew s).Sound := by
  have haccepted := hs.accepted.append_right [⟨s, h.world.now, 0⟩]
  rw [List.append_assoc] at haccepted
  exact hs.enter ⟨s, h.world.now, 0⟩ hs.attentive rfl rfl rfl (fun _ => id) (Nat.le_refl _)
    haccepted

theorem checkIn (hs : h.Sound) (s : Session) (cooldown : Nat) : (h.checkIn s cooldown).Sound := by
  have hattends := hs.attentive.checkIn s cooldown
  rw [PoolHistory.checkIn]
  rw [World.checkIn] at hattends ⊢
  by_cases hspent : s.isSpent = true
  · rw [if_pos hspent]
    exact hs
  rw [if_neg hspent] at hattends ⊢
  by_cases hcooldown : cooldown = 0
  · subst hcooldown
    exact hs.addNew s
  rw [if_neg hcooldown] at hattends ⊢
  simp only [Bool.not_true, Bool.false_eq_true, if_false, if_neg hcooldown]
  have hold (i : Nat) (c : Cooling) (hc : (i, c) ∈ h.world.cooling) : i ≠ h.world.nextId :=
    Nat.ne_of_lt (hs.attentive.cooling_lt i (List.mem_map_of_mem hc))
  have hnow (w : World) : (w.wake (.cooling h.world.nextId)).now = w.now := Timeline.now_wake ..
  constructor
  · exact hattends
  · exact hs.checkouts
  · exact hs.order
  · exact hs.begun
  · exact hs.handed_over
  · have hresting : (h.world.cooling.map fun (i, c) =>
        (⟨c.session, if i = h.world.nextId then h.world.now else h.since i, c.span⟩ : Acceptance)) =
        h.resting :=
      List.map_congr_left fun entry hentry => by simp [hold _ _ hentry]
    change List.Perm _ (List.map _ (h.world.cooling ++ [_]) ++ h.entered)
    rw [List.map_append, hresting]
    simp only [List.map_cons, List.map_nil, if_true]
    calc List.Perm (h.accepted ++ [⟨s, h.world.now, cooldown⟩])
          (h.resting ++ h.entered ++ [⟨s, h.world.now, cooldown⟩]) := hs.accepted.append_right _
      _ = h.resting ++ (h.entered ++ [⟨s, h.world.now, cooldown⟩]) := List.append_assoc ..
      List.Perm _ (h.resting ++ ([⟨s, h.world.now, cooldown⟩] ++ h.entered)) :=
        List.perm_append_comm.append_left _
      _ = h.resting ++ [⟨s, h.world.now, cooldown⟩] ++ h.entered := (List.append_assoc ..).symm
  · dsimp only
    rw [hnow]
    exact hs.rested
  · dsimp only
    rw [hnow]
    intro i c hc
    rcases List.mem_append.mp hc with hc | hc
    · rw [if_neg (hold i c hc)]
      exact hs.resting i c hc
    · obtain ⟨rfl, rfl⟩ := Prod.mk.inj (List.mem_singleton.mp hc)
      rw [if_pos rfl]
      refine ⟨Nat.le_refl _, ?_⟩
      intro due huntil
      cases huntil
  · exact hs.on_time

/-- A session lies down for its rest. -/
theorem lieDown (hs : h.Sound) (hattends : w'.Attends h.world.IsAsking) {c : Cooling}
    (hc : h.world.cooling.lookup id = some c) (htasks : w'.tasks = h.world.tasks)
    (hpool : w'.pool = h.world.pool) (hnow : w'.now = h.world.now)
    (hcooling : w'.cooling = h.world.cooling.map fun (i, d) =>
      if i = id then (i, { d with until_ := some (h.world.now + c.span) }) else (i, d)) :
    Sound { h with world := w' } := by
  have htask (i : Nat) : w'.task? i = h.world.task? i := World.task?_congr htasks i
  constructor
  · exact hattends.congr fun i => (World.isAsking_congr (htask i)).symm
  · intro i t ht
    exact hs.checkouts i t ((htask i).symm.trans ht)
  · change w'.pool.InOrder _ _ _
    rw [hpool]
    exact hs.order
  · intro i hi
    obtain ⟨c, hc, hbegun⟩ := hs.begun i hi
    exact ⟨c, (htask i).trans hc, hbegun⟩
  · change (h.left.map _).Perm (w'.pool.handed ++ w'.returned)
    rw [hpool, World.returned, htasks]
    exact hs.handed_over
  · have hresting : PoolHistory.resting { h with world := w' } = h.resting := by
      rw [PoolHistory.resting, PoolHistory.resting, hcooling]
      exact Keyed.map_map_eq id (fun d => { d with until_ := some (h.world.now + c.span) })
        (fun i d => (⟨d.session, h.since i, d.span⟩ : Acceptance)) (fun _ => rfl) h.world.cooling
    rw [hresting]
    exact hs.accepted
  · dsimp only
    rw [hnow]
    exact hs.rested
  · dsimp only
    rw [hnow, hcooling]
    intro i d hd
    obtain ⟨⟨j, d'⟩, hmem, heq⟩ := List.mem_map.mp hd
    obtain ⟨hsince, hdue⟩ := hs.resting j d' hmem
    dsimp only at heq
    split at heq
    · rename_i hj
      subst hj
      obtain ⟨rfl, rfl⟩ := Prod.mk.inj heq
      refine ⟨hsince, fun due huntil => ?_⟩
      have hsame := hc.symm.trans (Keyed.lookup_of_mem hs.attentive.cooling_nodup hmem)
      rw [← Option.some.inj huntil, Option.some.inj hsame]
      exact Nat.add_le_add_right hsince _
    · obtain ⟨rfl, rfl⟩ := Prod.mk.inj heq
      exact ⟨hsince, hdue⟩
  · exact hs.on_time

/-- A session at rest sends itself to the queue when its time has come. -/
theorem coolingTurn (hs : h.Sound) (id : Nat) : (h.turn (.cooling id)).Sound := by
  have hbegun : (h.world.beginTurn (.cooling id)).Attends h.world.IsAsking :=
    hs.attentive.beginTurn (by simp) (by simp)
  have hattends := hs.attentive.coolingTurn id
  have hrests := World.coolingTurn_rests (h.world.beginTurn (.cooling id)) id
  rw [turn, World.happen_turn, World.turn]
  rw [World.happen_turn, World.turn] at hattends
  generalize World.coolingTurn id _ = w' at hrests hattends ⊢
  cases hrests with
  | stay hstay =>
      have hrisen : h.risen id = [] := by
        rw [risen]
        cases hc : h.world.cooling.lookup id with
        | none => rfl
        | some c =>
            obtain ⟨due, huntil, hlater⟩ := hstay c hc
            have hearly : ¬ due ≤ h.world.now := Nat.not_le_of_lt hlater
            simp [huntil, hearly]
      rw [hrisen, List.append_nil]
      exact hs.later hattends rfl rfl rfl (Nat.le_refl _)
  | @lieDown c hc huntil =>
      have hrisen : h.risen id = [] := by
        rw [risen, show h.world.cooling.lookup id = some c from hc]
        simp [huntil]
      rw [hrisen, List.append_nil]
      refine hs.lieDown hattends hc rfl rfl ?_ rfl
      exact Timeline.now_setAlarm ..
  | @getUp c due hc huntil hdue =>
      have hrisen : h.risen id = [⟨c.session, h.since id, c.span⟩] := by
        rw [risen, show h.world.cooling.lookup id = some c from hc]
        have hnow : due ≤ h.world.now := hdue
        simp [huntil, hnow]
      have hmem := Keyed.mem_of_lookup hc
      rw [hrisen]
      have hothers := Keyed.others_sublist id h.world.cooling
      have hattends := hbegun.setCooling (hothers.map (·.1))
      refine hs.enter ⟨c.session, h.since id, c.span⟩ hattends rfl rfl rfl
        (fun _ hentry => hothers.subset hentry) ?_ ?_
      · exact Nat.le_trans ((hs.resting id c hmem).2 due huntil) hdue
      · have hperm := (Keyed.perm_others hs.attentive.cooling_nodup hc).map fun (i, c) =>
          (⟨c.session, h.since i, c.span⟩ : Acceptance)
        refine hs.accepted.trans ((hperm.append_right h.entered).trans ?_)
        rw [← List.append_assoc]
        exact (List.perm_append_singleton _ _).symm

/-! ### All that can happen -/

/-- The pool has answered a question, or has read its mail in another order. -/
theorem atRest (hs : h.Sound) {f : Pool Session → Pool Session}
    (hacts : h.world.pool.phase = .resting → h.world.pool.Acts (f h.world.pool))
    (hhanded : (f h.world.pool).handed = h.world.pool.handed) : (h.atRest f).Sound := by
  rw [PoolHistory.atRest]
  by_cases hphase : h.world.pool.phase = .resting
  · have hacts := hacts hphase
    have hattends := hs.attentive.mail hacts.isOpen hacts.isReading hhanded
      (hs.attentive.serves.acts hacts)
    obtain ⟨new, hnew, horder⟩ := hs.order.acts hacts
    obtain rfl : new = [] := List.append_cancel_left
      (hnew.symm.trans (hhanded.trans (List.append_nil _).symm))
    have hacted :=
      hs.act (f := fun time => time.wake .pool) (Timeline.now_wake ..) hattends hnew horder
    rw [List.map_nil, List.append_nil] at hacted
    rw [if_pos hphase]
    exact hacted
  · rw [if_neg hphase]
    exact hs

theorem happen (hs : h.Sound) (e : Event) : (h.happen e).Sound := by
  cases e with
  | turn o =>
      cases o with
      | task id => exact hs.taskTurn id
      | cooling id => exact hs.coolingTurn id
      | pool => exact hs.poolTurn
      | gate g =>
          have hframe := World.Still.stirs (.wakeHead (w := h.world.beginTurn (.gate g)) g)
          exact hs.later (hs.attentive.gateTurn g) hframe.tasks hframe.pool hframe.cooling
            (Nat.le_of_eq hframe.now.symm)
  | pass now =>
      have hnow : (h.world.happen (.pass now)).now = max h.world.now now := Timeline.now_advance ..
      apply hs.later (hs.attentive.pass now) rfl rfl rfl
      rw [hnow]
      exact Nat.le_max_left ..
  | checkout timeout => exact hs.checkout timeout
  | checkIn s cooldown => exact hs.checkIn s cooldown
  | addNew s => exact hs.addNew s
  | query counting =>
      exact hs.atRest (fun hphase => .answer hphase counting) (Pool.handed_answer counting)
  | overtake => exact hs.atRest Pool.readRequest_acts Pool.handed_readRequest

theorem run (hs : h.Sound) (events : List Event) : (h.run events).Sound := by
  induction events generalizing h with
  | nil => exact hs
  | cons e events ih => exact ih (hs.happen e)

end Sound

theorem sound_start (initial : List Session) (w : World) : (start initial w).Sound where
  attentive := {
    isOpen := rfl
    isReading := rfl
    tasks_nodup := List.nodup_nil
    cooling_nodup := List.nodup_nil
    tasks_lt := fun _ hmem => nomatch hmem
    cooling_lt := fun _ hmem => nomatch hmem
    serves := ⟨List.nodup_nil,
      fun _ => iff_of_false (fun hmem => nomatch hmem) fun ⟨_, ht, _⟩ => nomatch ht⟩
    pool_ready := fun hbusy => nomatch hbusy
    task_ready := fun _ hmem => nomatch hmem }
  checkouts := fun _ _ ht => nomatch ht
  order := {
    sessions := by simp [start, World.startPool, Function.comp_def]
    tickets := List.Sublist.refl _
    asked_nodup := List.nodup_nil
    held_pending := fun _ hmem => nomatch hmem
    held_nodup := List.nodup_nil
    offering := fun _ hphase => nomatch hphase
    resting := fun _ => Or.inr fun _ hmem => nomatch hmem }
  begun := fun _ hmem => nomatch hmem
  handed_over := List.Perm.refl _
  accepted := List.Perm.refl _
  rested := by
    intro e he
    obtain ⟨s, -, rfl⟩ := List.mem_map.mp he
    exact Nat.le_refl _
  resting := fun _ _ hmem => nomatch hmem
  on_time := fun _ _ _ hl => nomatch hl

/-! ## What follows from it -/

variable {h : PoolHistory}

theorem accepted_turn (o : Owner) : (h.turn o).accepted = h.accepted := by
  cases o <;> rfl

theorem accepted_atRest (f : Pool Session → Pool Session) : (h.atRest f).accepted = h.accepted := by
  rw [atRest]
  split <;> rfl

/-- A spent session is accepted only where nobody checks. -/
theorem mem_accepted_happen {e : Event} {a : Acceptance} (ha : a ∈ (h.happen e).accepted) :
    a ∈ h.accepted ∨ (a.session.isSpent = true → e = .addNew a.session) := by
  cases e with
  | turn o =>
      rw [happen, accepted_turn] at ha
      exact Or.inl ha
  | pass => exact Or.inl ha
  | checkout => exact Or.inl ha
  | checkIn s cooldown =>
      rw [happen, checkIn, World.checkIn] at ha
      by_cases hspent : s.isSpent = true
      · rw [if_pos hspent] at ha
        exact Or.inl ha
      · have ha' : a ∈ h.accepted ++ [⟨s, h.world.now, cooldown⟩] := by
          rw [if_neg hspent] at ha
          by_cases hcooldown : cooldown = 0
          · simpa [hcooldown] using ha
          · simpa [hcooldown] using ha
        apply (List.mem_append.mp ha').imp_right
        intro hnew hspent'
        rw [List.mem_singleton.mp hnew] at hspent'
        exact absurd hspent' hspent
  | addNew s =>
      apply (List.mem_append.mp ha).imp_right
      intro hnew _
      rw [List.mem_singleton.mp hnew]
  | query counting =>
      rw [happen, accepted_atRest] at ha
      exact Or.inl ha
  | overtake =>
      rw [happen, accepted_atRest] at ha
      exact Or.inl ha

/-- What has been accepted since, if it is spent, was added as a new session. -/
theorem mem_accepted_run {events : List Event} {a : Acceptance} (ha : a ∈ (h.run events).accepted) :
    a ∈ h.accepted ∨ (a.session.isSpent = true → .addNew a.session ∈ events) := by
  induction events generalizing h with
  | nil => exact Or.inl ha
  | cons e events ih =>
      rcases ih ha with hmem | hadded
      · apply (mem_accepted_happen hmem).imp_right
        intro hadded hspent
        rw [hadded hspent]
        exact List.mem_cons_self
      · exact Or.inr fun hspent => List.mem_cons_of_mem _ (hadded hspent)

/-- Where the accepted sessions are. -/
theorem Sound.conserved (hs : h.Sound) : (h.accepted.map (·.session)).Perm
    (h.world.cooling.map (·.2.session) ++ (h.world.pool.arrivals ++ (h.world.pool.buffer ++
      (h.world.pool.handed.map (·.2) ++ h.world.returned.map (·.2))))) := by
  have hresting : h.resting.map (·.session) = h.world.cooling.map (·.2.session) := by
    rw [PoolHistory.resting, List.map_map]
    rfl
  have hleft : (h.left.map Handover.entry).map (·.2) = h.left.map (·.session) := by
    rw [List.map_map]
    rfl
  have hentered := hs.order.sessions
  have hhanded := hs.handed_over.map (·.2)
  rw [List.map_append] at hhanded
  have haccepted := hs.accepted.map (·.session)
  rw [List.map_append, hresting, hentered] at haccepted
  refine haccepted.trans (List.Perm.append_left _ ?_)
  generalize h.world.pool.handed.map (·.2) ++ h.world.returned.map (·.2) = outside at hhanded ⊢
  calc List.Perm _ (outside ++ (h.world.pool.buffer ++ h.world.pool.arrivals)) :=
        hhanded.append_right _
    List.Perm _ ((h.world.pool.buffer ++ h.world.pool.arrivals) ++ outside) :=
      List.perm_append_comm
    List.Perm _ ((h.world.pool.arrivals ++ h.world.pool.buffer) ++ outside) :=
      List.perm_append_comm.append_right _
    _ = h.world.pool.arrivals ++ (h.world.pool.buffer ++ outside) := List.append_assoc ..

theorem map_entry (left : List Handover) :
    (left.map Handover.entry).map (·.1) = left.map (·.ticket) := by
  rw [List.map_map]
  rfl

theorem Sound.served_in_order (hs : h.Sound) : (h.left.map (·.ticket)).Sublist h.asked := by
  rw [← map_entry]
  exact (List.sublist_append_left ..).trans hs.order.tickets

/-- Who asks has a request that is on record. -/
theorem Sound.asked_of_isAsking (hs : h.Sound) {ticket : Nat} (hticket : h.world.IsAsking ticket) :
    ticket ∈ h.asked := by
  rcases List.mem_append.mp ((hs.attentive.serves.mem_iff ticket).mpr hticket) with hheld | hhanded
  · exact hs.order.tickets.subset (List.mem_append_right _ (hs.order.held_pending ticket hheld))
  · have hleft : ticket ∈ (h.left.map Handover.entry).map (·.1) := by
      rw [(hs.handed_over.map (·.1)).mem_iff, List.map_append]
      exact List.mem_append_left _ hhanded
    rw [map_entry] at hleft
    exact hs.served_in_order.subset hleft

/-- The sessions that have left are the first that entered, each after its rest. -/
theorem Sound.first_in_first_out (hs : h.Sound) {k : Nat} {l : Handover}
    (hl : h.left[k]? = some l) :
    ∃ e : Acceptance, h.entered[k]? = some e ∧ l.session = e.session ∧
      e.since + e.rest ≤ l.at_ := by
  have hleft : (h.entered.map (·.session))[k]? = some l.session := by
    rw [hs.order.sessions, List.map_map, List.getElem?_append_left, List.getElem?_map, hl]
    · rfl
    · rw [List.length_map]
      exact (List.getElem?_eq_some_iff.mp hl).1
  rw [List.getElem?_map, Option.map_eq_some_iff] at hleft
  obtain ⟨e, he, hsession⟩ := hleft
  exact ⟨e, he, hsession.symm, hs.on_time k l e hl he⟩

theorem Sound.held_of_isOpen (hs : h.Sound) {ticket : Nat} (hopen : h.IsOpen ticket) :
    ticket ∈ h.world.pool.held :=
  hs.attentive.serves.mem_held.mpr hopen

/-- A pool with nothing to do has no session for anybody who waits. -/
theorem Sound.rests (hs : h.Sound) (hidle : h.world.pool.isBusy = false) :
    h.world.pool.buffer = [] ∨ ∀ ticket, ¬ h.IsOpen ticket := by
  apply (hs.order.rests hidle).imp_right
  intro hnobody ticket hopen
  have hheld := hs.held_of_isOpen hopen
  rw [hnobody] at hheld
  cases hheld

theorem added_of_isSpent {initial : List Session} {w : World} {events : List Event}
    {a : Acceptance} (ha : a ∈ ((start initial w).run events).accepted)
    (hspent : a.session.isSpent = true) : .addNew a.session ∈ events := by
  rcases mem_accepted_run ha with hmem | hadded
  · obtain ⟨s, hs, rfl⟩ := List.mem_map.mp hmem
    have hunspent := (List.mem_filter.mp hs).2
    rw [hspent] at hunspent
    cases hunspent
  · exact hadded hspent

/-- Whatever happens to a pool, it loses nothing, keeps the order of sessions and of checkouts, lets
every session have its rest, and has no session to spare while somebody waits. -/
theorem faithful_run (initial : List Session) (w : World) (events : List Event) :
    Faithful events ((start initial w).run events) := by
  have hs := (sound_start initial w).run events
  have hadded {a : Acceptance} (ha : a ∈ ((start initial w).run events).accepted) :
      a.session.isSpent = true → .addNew a.session ∈ events := added_of_isSpent ha
  generalize (start initial w).run events = h at hs hadded
  constructor
  · exact hs.conserved
  · rw [← (hs.handed_over.map (·.1)).nodup_iff, map_entry]
    exact hs.order.asked_nodup.sublist hs.served_in_order
  · exact fun ticket hticket =>
      (hs.attentive.serves.mem_iff ticket).mp (List.mem_append_right _ hticket)
  · exact hs.handed_over
  · exact hs.accepted
  · exact fun k l hl => hs.first_in_first_out hl
  · exact hs.order.asked_nodup
  · exact fun ticket hticket => hs.asked_of_isAsking hticket
  · exact hs.served_in_order
  · intro earlier later horder hserved hopen
    rw [← map_entry] at hserved
    exact hs.order.not_held horder hserved (hs.held_of_isOpen hopen)
  · exact hs.rests
  · exact hs.attentive.pool_ready
  · intro s hbuffer hspent
    have hmem : s ∈ h.accepted.map (·.session) := by
      rw [hs.conserved.mem_iff]
      exact List.mem_append_right _ (List.mem_append_right _ (List.mem_append_left _ hbuffer))
    obtain ⟨a, ha, rfl⟩ := List.mem_map.mp hmem
    exact hadded ha hspent

-- The timer goes off between the moment at which the checkout is found waiting and the one at
-- which it is offered the session, which it then gets all the same.
example : ((start [] default).run [.checkout 5, .turn (.task 0), .turn .pool, .turn .pool,
    .addNew default, .turn .pool, .turn .pool, .pass 5, .turn (.task 0), .turn .pool,
    .turn (.task 0)]).world.returned.map (·.1) = [0] := rfl

/-! ## How it gets on -/

theorem Sound.pool_poolTurn (hs : h.Sound) : (h.turn .pool).world.pool = h.world.pool.act := by
  obtain ⟨f, hturn, -⟩ := World.poolTurn_eq (w := h.world.beginTurn .pool)
    hs.attentive.isOpen hs.attentive.isReading
  exact congrArg World.pool hturn

theorem Sound.pool_poolTurns (hs : h.Sound) (n : Nat) :
    (h.run (List.replicate n (.turn .pool))).world.pool = Pool.act^[n] h.world.pool := by
  induction n generalizing h with
  | zero => rfl
  | succ n ih =>
      rw [List.replicate_succ, Function.iterate_succ_apply, ← hs.pool_poolTurn]
      exact ih hs.poolTurn

/-- A pool that has something to do gets on.  Its own turns alone, for each of which it is ready,
bring it to rest, in no more of them than it has steps before it; then it has no session for anybody
who waits. -/
theorem comes_to_rest (initial : List Session) (w : World) (events : List Event) :
    let h := (start initial w).run events
    let after := fun k => h.run (List.replicate k (.turn .pool))
    ∃ n ≤ h.world.pool.left, (∀ k < n, .pool ∈ (after k).world.time.ready) ∧
      (after n).world.pool.isBusy = false ∧
        ((after n).world.pool.buffer = [] ∨ ∀ ticket, ¬ (after n).IsOpen ticket) := by
  have hs := (sound_start initial w).run events
  generalize (start initial w).run events = h at hs
  obtain ⟨n, hn, hbusy, hidle⟩ := Pool.exists_idle h.world.pool
  have hafter (k : Nat) := hs.run (List.replicate k (.turn .pool))
  refine ⟨n, hn, fun k hk => (hafter k).attentive.pool_ready ?_, ?_⟩
  · rw [hs.pool_poolTurns]
    exact hbusy k hk
  · have hrested := (congrArg Pool.isBusy (hs.pool_poolTurns n)).trans hidle
    exact ⟨hrested, (hafter n).rests hrested⟩

-- By its own turns the pool hands the session that it has to the checkout that waits for it.
example : ((start [default] default).run [.checkout 5, .turn (.task 0), .turn .pool, .turn .pool,
    .turn .pool, .turn .pool, .turn (.task 0)]).world.returned.map (·.1) = [0] := rfl

end PoolHistory

end MapScout
