import MapScout.Proofs.Dispatch.Holding
import MapScout.Proofs.Dispatch.Run

/-!
# Transcripts

What scans and preloads ask of their clients in a run, and what comes of it, in order.  A request
is on its way as long as the task that made it waits for the answer.  It is answered when the task
finds the answer there, and it is cut off when the task finds its deadline passed instead.
-/

namespace MapScout

/-- What a request is made for. -/
inductive Errand where
  | scan (attempt : Attempt)
  /-- Logging a preloaded session in, on its second proxy if `swapped`. -/
  | preload (swapped : Bool)
  deriving DecidableEq, Repr

inductive RequestKind where
  | login (try_ : LoginTry)
  | map
  deriving DecidableEq, Repr

namespace RequestKind

def isLogin : RequestKind → Bool
  | login _ => true
  | map => false

end RequestKind

/-- A login or a map call that a task makes on its session. -/
structure ClientRequest where
  task : Nat
  errand : Errand
  account : String
  proxy : ProxyId
  kind : RequestKind
  /-- When the task stops waiting for the answer. -/
  deadline : Nat
  deriving DecidableEq, Repr

/-- What is heard of a request. -/
inductive Entry where
  | sent (r : ClientRequest)
  | answered (r : ClientRequest) (failure : Option ClientError) (at_ : Nat)
  /-- The answer has not come by the deadline. -/
  | cutOff (r : ClientRequest)
  deriving DecidableEq, Repr

def Entry.request : Entry → ClientRequest
  | .sent r | .answered r _ _ | .cutOff r => r

def ScanWait.kind? : ScanWait → Option RequestKind
  | .login (.answer t _ _) => some (.login t)
  | .call _ _ => some .map
  | _ => none

/-- A session at work in a task. -/
structure Seat where
  errand : Errand
  session : Session
  wait : ScanWait
  deadline : Nat

namespace Seat

def request? (id : Nat) (σ : Seat) : Option ClientRequest :=
  σ.wait.kind?.map fun kind =>
    { task := id, errand := σ.errand, account := σ.session.username, proxy := σ.session.proxy.id,
      kind, deadline := σ.deadline }

/-- What becomes of the request on its way when the task has a turn at `now`. -/
def hears (id now : Nat) (σ : Seat) : List Entry :=
  match σ.request? id, σ.wait.answer? with
  | some r, some (a, due) =>
      if due ≤ now then [.answered r a.failure now]
      else if σ.deadline ≤ now then [.cutOff r]
      else []
  | _, _ => []

/-- What a task sends that goes from one seat to another. -/
def sends (id : Nat) (σ σ' : Seat) : List Entry :=
  if (σ.request? id).isNone then (σ'.request? id).toList.map .sent else []

variable {id now : Nat} {entry : Entry}

theorem hears_of_isAnswered {σ : Seat} {r : ClientRequest} {a : Answer}
    (hr : σ.request? id = some r) (ha : σ.wait.IsAnswered now a) :
    σ.hears id now = [.answered r a.failure now] := by
  obtain ⟨due, hdue, hanswer⟩ := ha
  rw [hears, hr, hanswer]
  exact if_pos hdue

/-- Nothing is heard while there is time and no answer. -/
theorem hears_eq_nil {σ : Seat} (htime : now < σ.deadline)
    (hdue : ∀ a, ¬ σ.wait.IsAnswered now a) : σ.hears id now = [] := by
  unfold hears
  split
  · rename_i r a due hr hanswer
    rw [if_neg fun hle => hdue a ⟨due, hle, hanswer⟩, if_neg (Nat.not_le_of_lt htime)]
  · rfl

/-- What is heard is the answer to the request under way, or that it is cut off. -/
theorem mem_hears (σ : Seat) (h : entry ∈ σ.hears id now) :
    (∃ r a, σ.request? id = some r ∧ σ.wait.IsAnswered now a ∧
      entry = .answered r a.failure now) ∨
    ∃ r, σ.request? id = some r ∧ entry = .cutOff r := by
  unfold hears at h
  split at h
  · rename_i r a due hr hanswer
    split at h
    · rename_i hdue
      exact Or.inl ⟨r, a, hr, ⟨due, hdue, hanswer⟩, List.mem_singleton.mp h⟩
    · split at h
      · exact Or.inr ⟨r, hr, List.mem_singleton.mp h⟩
      · cases h
  · cases h

/-- Nothing is sent as long as there is a request on its way. -/
theorem request?_of_mem_sends {σ σ' : Seat} (h : entry ∈ σ.sends id σ') : σ.request? id = none := by
  unfold sends at h
  split at h
  · rename_i hnone
    exact Option.isNone_iff_eq_none.mp hnone
  · cases h

/-- What is sent is the request that is then under way. -/
theorem mem_sends (σ : Seat) {σ' : Seat} (h : entry ∈ σ.sends id σ') :
    ∃ r, σ'.request? id = some r ∧ entry = .sent r := by
  unfold sends at h
  split at h
  · obtain ⟨r, hr, rfl⟩ := List.mem_map.mp h
    exact ⟨r, Option.mem_toList.mp hr, rfl⟩
  · cases h

end Seat

def Task.seat? : Task → Option Seat
  | .scan { stage := .working s attempt wait, deadline, .. } =>
      some { errand := .scan attempt, session := s, wait, deadline }
  | .preload { stage := .login s swapped deadline wait, .. } =>
      some { errand := .preload swapped, session := s, wait := .login wait, deadline }
  | _ => none

/-- Where a session is: it rests in the pool or on its way in or out, or it is at work. -/
inductive Berth where
  | resting (s : Session)
  | seated (σ : Seat)

namespace Berth

def session : Berth → Session
  | resting s => s
  | seated σ => σ.session

def username (π : Berth) : String := π.session.username

def seat? : Berth → Option Seat
  | resting _ => none
  | seated σ => some σ

end Berth

namespace World

def seat? (w : World) (id : Nat) : Option Seat := (w.task? id).bind Task.seat?

def seats (tasks : List (Nat × Task)) : List Seat := tasks.filterMap (·.2.seat?)

/-- Where all sessions are. -/
def berths (w : World) : List Berth := w.pooled.map .resting ++ (seats w.tasks).map .seated

def sessions (w : World) : List Session := w.pooled ++ (seats w.tasks).map (·.session)

/-- What is heard of requests in one event. -/
def entriesIn (w : World) : Event → List Entry
  | .turn (.task id) =>
      match w.seat? id with
      | some σ =>
          σ.hears id w.now ++ ((w.happen (.turn (.task id))).seat? id).toList.flatMap (σ.sends id)
      | none => []
  | _ => []

def transcript : World → List Event → List Entry
  | _, [] => []
  | w, e :: events => w.entriesIn e ++ (w.happen e).transcript events

variable {w : World}

theorem map_session_berths : w.berths.map Berth.session = w.sessions := by
  rw [berths, sessions, List.map_append, List.map_map, List.map_map]
  exact congrArg (· ++ _) (List.map_id _)

theorem mem_sessions {s : Session} : s ∈ w.sessions ↔ ∃ π ∈ w.berths, π.session = s := by
  rw [← map_session_berths, List.mem_map]

theorem run_append (w : World) (xs ys : List Event) : w.run (xs ++ ys) = (w.run xs).run ys :=
  List.foldl_append ..

theorem transcript_append (w : World) (xs ys : List Event) :
    w.transcript (xs ++ ys) = w.transcript xs ++ (w.run xs).transcript ys := by
  induction xs generalizing w with
  | nil => rfl
  | cons e xs ih =>
      rw [List.cons_append, transcript, transcript, ih, List.append_assoc]
      rfl

/-- What is heard of in a run is heard of in one of its events. -/
theorem mem_transcript {x : Entry} {events : List Event} (h : x ∈ w.transcript events) :
    ∃ xs e ys, events = xs ++ e :: ys ∧ x ∈ (w.run xs).entriesIn e := by
  induction events generalizing w with
  | nil => cases h
  | cons e events ih =>
      rcases List.mem_append.mp h with h | h
      · exact ⟨[], e, events, rfl, h⟩
      · obtain ⟨xs, e', ys, rfl, hlater⟩ := ih h
        exact ⟨e :: xs, e', ys, rfl, hlater⟩

theorem seat?_congr {w' : World} {id : Nat} (h : w'.task? id = w.task? id) :
    w'.seat? id = w.seat? id := by
  rw [seat?, seat?, h]

theorem mem_berths_of_seat? {id : Nat} {σ : Seat} (h : w.seat? id = some σ) :
    .seated σ ∈ w.berths := by
  obtain ⟨t, ht, hσ⟩ := Option.bind_eq_some_iff.mp h
  apply List.mem_append_right
  apply List.mem_map_of_mem
  exact List.mem_filterMap.mpr ⟨(id, t), Keyed.mem_of_lookup ht, hσ⟩

/-- What a request is about is read off the seat that it comes from. -/
theorem eq_of_request? {id : Nat} {σ : Seat} {r : ClientRequest} (h : σ.request? id = some r) :
    ∃ kind, σ.wait.kind? = some kind ∧
      r = ⟨id, σ.errand, σ.session.username, σ.session.proxy.id, kind, σ.deadline⟩ := by
  obtain ⟨kind, hkind, rfl⟩ := Option.map_eq_some_iff.mp h
  exact ⟨kind, hkind, rfl⟩

/-- Requests are sent and heard of in the turns of the tasks that make them. -/
theorem mem_entriesIn {e : Event} {entry : Entry} (h : entry ∈ w.entriesIn e) :
    ∃ id σ, e = .turn (.task id) ∧ w.seat? id = some σ ∧
      (entry ∈ σ.hears id w.now ∨
        ∃ σ', (w.happen e).seat? id = some σ' ∧ entry ∈ σ.sends id σ') := by
  unfold entriesIn at h
  split at h
  · rename_i id
    split at h
    · rename_i σ hseat
      refine ⟨id, σ, rfl, hseat, (List.mem_append.mp h).imp_right fun hsent => ?_⟩
      obtain ⟨σ', hσ', hsent⟩ := List.mem_flatMap.mp hsent
      exact ⟨σ', Option.mem_toList.mp hσ', hsent⟩
    · cases h
  · cases h

/-- A request is sent by a task that has a session after its turn. -/
theorem seat_of_sent {e : Event} {r : ClientRequest} (h : .sent r ∈ w.entriesIn e) :
    ∃ id σ', e = .turn (.task id) ∧ (w.happen e).seat? id = some σ' ∧ σ'.request? id = some r := by
  obtain ⟨id, σ, he, -, hheard | ⟨σ', hσ', hsent⟩⟩ := mem_entriesIn h
  · rcases σ.mem_hears hheard with ⟨r', a, -, -, hentry⟩ | ⟨r', -, hentry⟩ <;> cases hentry
  · obtain ⟨r', hr', hentry⟩ := σ.mem_sends hsent
    cases hentry
    exact ⟨id, σ', he, hσ', hr'⟩

/-- An answer is heard by a task that waits for it when it has its turn. -/
theorem seat_of_answered {e : Event} {r : ClientRequest} {f : Option ClientError} {at_ : Nat}
    (h : .answered r f at_ ∈ w.entriesIn e) :
    ∃ id σ a, e = .turn (.task id) ∧ w.seat? id = some σ ∧ σ.request? id = some r ∧
      σ.wait.IsAnswered w.now a ∧ a.failure = f ∧ at_ = w.now := by
  obtain ⟨id, σ, he, hseat, hheard | ⟨σ', -, hsent⟩⟩ := mem_entriesIn h
  · rcases σ.mem_hears hheard with ⟨r', a, hr', ha, hentry⟩ | ⟨r', -, hentry⟩
    · cases hentry
      exact ⟨id, σ, a, he, hseat, hr', ha, rfl, rfl⟩
    · cases hentry
  · obtain ⟨r', -, hentry⟩ := σ.mem_sends hsent
    cases hentry

/-- An answer that a task finds when it has its turn is heard. -/
theorem answered_mem_entriesIn {id : Nat} {σ : Seat} {a : Answer} (hseat : w.seat? id = some σ)
    (ha : σ.wait.IsAnswered w.now a) :
    ∃ r, σ.request? id = some r ∧ .answered r a.failure w.now ∈ w.entriesIn (.turn (.task id)) := by
  have hkind : σ.wait.kind?.isSome := by
    obtain ⟨due, -, hanswer⟩ := ha
    generalize σ.wait = wait at hanswer ⊢
    cases wait with
    | login wait =>
        cases wait with
        | token t => cases hanswer
        | answer t a due => rfl
    | callToken => cases hanswer
    | call a due => rfl
  obtain ⟨r, hr⟩ : ∃ r, σ.request? id = some r := by
    rw [Seat.request?]
    exact Option.isSome_iff_exists.mp (by simpa using hkind)
  refine ⟨r, hr, ?_⟩
  simp [entriesIn, hseat, Seat.hears_of_isAnswered hr ha]

end World

end MapScout
