import MapScout.Proofs.Dispatch.Course

/-!
# Events

What one event does to the sessions and to the books of a dispatcher.  In one event at most one
session changes its place in the course of its work, or comes to work from the pool or just built.
The inventory changes by moves of the books, unless the event comes from outside.
-/

namespace MapScout

theorem map_subperm {α β : Type} (f : α → β) {l l' : List α} (h : l.Subperm l') :
    (l.map f).Subperm (l'.map f) := by
  obtain ⟨l₀, hperm, hsub⟩ := h
  exact ⟨l₀.map f, hperm.map f, hsub.map f⟩

/-- The place of one session among those of all others can be found again. -/
theorem Keyed.cons_others_subperm {α : Type} {key : Nat} {entries : List (Nat × α)} {x : α}
    (h : entries.lookup key = some x) : ((key, x) :: others key entries).Subperm entries := by
  induction entries with
  | nil => cases h
  | cons entry entries ih =>
      obtain ⟨i, y⟩ := entry
      by_cases hi : key = i
      · subst hi
        simp only [List.lookup_cons, beq_self_eq_true] at h
        obtain rfl := Option.some.inj h
        have hrest : others key ((key, y) :: entries) = others key entries := by simp [others]
        rw [hrest]
        exact ((others_sublist key entries).cons_cons _).subperm
      · have hne : (key == i) = false := by simpa using hi
        simp only [List.lookup_cons, hne] at h
        have hrest : others key ((i, y) :: entries) = (i, y) :: others key entries := by
          simp [others, Ne.symm hi]
        rw [hrest]
        exact (List.Perm.swap ..).subperm.trans ((List.subperm_cons _).mpr (ih h))

/-- What one event at `now` makes of the places of all sessions, with what is heard of requests. -/
inductive Passage (now : Nat) (places places' : List Berth) : List Entry → Prop where
  /-- Nothing is heard, and no session comes to a new place. -/
  | drop (h : places'.Subperm places) : Passage now places places' []
  /-- A session is taken out of the pool. -/
  | begin {s : Session} {σ : Seat} {rest : List Berth}
      (hold : (.resting s :: rest).Subperm places) (hkin : s.Kin σ.session)
      (hwait : σ.wait = σ.session.firstWait) (hnew : places'.Perm (.seated σ :: rest)) :
      Passage now places places' []
  /-- A session is built. -/
  | fresh {σ : Seat} (hwait : σ.wait.answer? = none) (hnew : places'.Perm (.seated σ :: places)) :
      Passage now places places' []
  /-- A session at work has its turn. -/
  | go (id : Nat) {σ : Seat} {left : Option Berth} {rest : List Berth}
      (hold : places.Perm (.seated σ :: rest)) (hcourse : ∀ π ∈ left, Course now σ π)
      (hnew : places'.Perm (left.toList ++ rest)) :
      Passage now places places'
        (σ.hears id now ++ (left.bind Berth.seat?).toList.flatMap (σ.sends id))

namespace World

def Event.isOwn : Event → Bool
  | .addProxy _ | .loseProxy _ | .sweep => false
  | _ => true

/-- The session that is in hand at the beginning of an event. -/
def handIn (w : World) : Event → Option Session
  | .turn (.task id) => (w.seat? id).map (·.session)
  | _ => none

def newsIn (w : World) : Event → Option ClientError
  | .turn (.task id) => (w.seat? id).bind (·.news w.now)
  | _ => none

/-- No two tasks have the same number, and the next number is new. -/
structure Numbered (w : World) : Prop where
  tasks_nodup : (w.tasks.map (·.1)).Nodup
  tasks_lt : ∀ id ∈ w.tasks.map (·.1), id < w.nextId

/-- The store refuses nothing, and all sessions are of use. -/
structure Sound (w : World) : Prop where
  faultless : w.store.Faultless
  useful : ∀ s ∈ w.sessions, s.isSpent = false

/-- What one event makes of a world. -/
structure Outcome (w : World) (e : Event) (w' : World) : Prop where
  numbered : w'.Numbered
  passage : Passage w.now w.berths w'.berths (w.entriesIn e)
  path : w.Sound → w'.store.Faultless ∧ (e.isOwn = true →
    ∃ others, w.sessions.Perm ((w.handIn e).toList ++ others) ∧
      (w.books (w.handIn e) (w.newsIn e) others).Path (w'.books none none w'.sessions))

/-- How a task that has no session can come to one, which it has just built unless it is `taken`
from the pool. -/
def Begins : Option Session → Berth → Prop
  | some s, π => ∃ σ, π = .seated σ ∧ s.Kin σ.session ∧ σ.wait = σ.session.firstWait
  | none, π => ∃ σ, π = .seated σ ∧ σ.wait.answer? = none

variable {start w w' : World} {begun : Books} {s : Session} {id : Nat} {left : Option Berth}
variable {e : Event} {σ : Seat} {G : Berth → Prop} {pool : Pool Session}

/-! ## Where the sessions are after a turn -/

theorem subperm_sessions (h : w'.berths.Subperm w.berths) : w'.sessions.Subperm w.sessions := by
  rw [← map_session_berths, ← map_session_berths]
  exact map_subperm Berth.session h

/-- The sessions at work are that of one task and those of the others. -/
theorem perm_seats (hnodup : (w.tasks.map (·.1)).Nodup) (id : Nat) :
    (seats w.tasks).Perm ((w.seat? id).toList ++ seats (Keyed.others id w.tasks)) := by
  rw [seat?, task?]
  cases ht : w.tasks.lookup id with
  | none =>
      have hnew : id ∉ w.tasks.map (·.1) := by
        intro hmem
        obtain ⟨⟨i, t⟩, hentry, rfl⟩ := List.mem_map.mp hmem
        rw [Keyed.lookup_of_mem hnodup hentry] at ht
        cases ht
      rw [Keyed.others_eq_self hnew]
      exact List.Perm.refl _
  | some t =>
      apply ((Keyed.perm_others hnodup ht).filterMap _).trans
      cases hseat : t.seat? <;> simp [seats, hseat]

/-- The places of all sessions but that of one task. -/
def elsewhere (id : Nat) (w : World) : List Berth :=
  w.pooled.map .resting ++ (seats (Keyed.others id w.tasks)).map .seated

/-- The places of all sessions are that of one task and those elsewhere. -/
theorem berths_perm (hnodup : (w.tasks.map (·.1)).Nodup) (id : Nat) :
    w.berths.Perm (((w.seat? id).toList.map .seated) ++ w.elsewhere id) := by
  rw [berths, elsewhere]
  apply (((perm_seats hnodup id).map Berth.seated).append_left _).trans
  rw [List.map_append]
  exact List.perm_append_comm_assoc ..

/-- After a turn the session of the task is where it has been left, and all others are where they
were. -/
theorem Ends.berths_perm (h : Ends start begun id left w)
    (hnodup : (start.tasks.map (·.1)).Nodup) :
    w.berths.Perm (left.toList ++ start.elsewhere id) := by
  have hnodup' : (w.tasks.map (·.1)).Nodup := by rwa [h.keys]
  apply (World.berths_perm hnodup' id).trans
  rw [h.seat, elsewhere, elsewhere, h.others]
  have hpooled := h.pooled.map Berth.resting
  cases left with
  | none => exact hpooled.append_right _
  | some π =>
      cases π with
      | resting s => exact hpooled.append_right _
      | seated σ => exact (hpooled.append_right _).cons _

/-- The books of a turn end with all sessions in their places. -/
theorem Ends.path_sessions (h : Ends start begun id left w)
    (hnodup : (start.tasks.map (·.1)).Nodup)
    (hothers : begun.others = (start.elsewhere id).map Berth.session)
    (hfaultless : start.store.Faultless) (huseful : ∀ s ∈ begun.hand, s.isSpent = false) :
    begun.Path (w.books none none w.sessions) := by
  apply (h.path hfaultless huseful).tail
  have hperm := (h.berths_perm hnodup).map Berth.session
  rw [map_session_berths, List.map_append, ← hothers] at hperm
  exact .shift hperm.subperm

/-- A session is taken in hand, if one is to be taken. -/
theorem path_take {taken : Option Session} {l l' : List Session}
    (h : (taken.toList ++ l).Subperm l') :
    (w.books none none l').Path (w.books taken none l) := by
  have hshift : (w.books none none l').Path (w.books none none (taken.toList ++ l)) :=
    .single (.shift h)
  cases taken with
  | none => exact hshift
  | some s => exact hshift.tail (.take rfl rfl rfl)

theorem Ends.numbered (h : Ends start begun id left w) (hstart : start.Numbered) : w.Numbered := by
  constructor
  · rw [h.keys]
    exact hstart.tasks_nodup
  · rw [h.keys]
    exact fun i hi => Nat.lt_of_lt_of_le (hstart.tasks_lt i hi) h.nextId

/-- Nothing is heard of any request in an event. -/
structure Silent (w : World) (e : Event) : Prop where
  entries : w.entriesIn e = []
  hand : w.handIn e = none
  news : w.newsIn e = none

theorem silent_of_seat? (hseat : w.seat? id = none) : w.Silent (.turn (.task id)) := by
  constructor
  · simp [entriesIn, hseat]
  · simp [handIn, hseat]
  · simp [newsIn, hseat]

/-- Sessions are lost at most. -/
theorem Outcome.calm (w' : World) (hsilent : w.Silent e) (hnumbered : w'.Numbered)
    (hberths : w'.berths.Subperm w.berths) (hfaultless : w.Sound → w'.store.Faultless)
    (hinventory : e.isOwn = true → w'.store.inventory = w.store.inventory)
    (hboard : w'.board = w.board) (hcounters : w'.counters = w.counters) : Outcome w e w' where
  numbered := hnumbered
  passage := by
    rw [hsilent.entries]
    exact .drop hberths
  path hsound := by
    refine ⟨hfaultless hsound, fun hown => ⟨w.sessions, ?_, ?_⟩⟩
    · rw [hsilent.hand]
      exact List.Perm.refl _
    · rw [hsilent.hand, hsilent.news, books, books, hinventory hown, hboard, hcounters]
      exact .single (.shift (subperm_sessions hberths))

/-- The two are the same but for the pool and the clocks. -/
structure Alike (w w' : World) : Prop where
  tasks : w'.tasks = w.tasks
  nextId : w'.nextId = w.nextId
  store : w'.store = w.store
  board : w'.board = w.board
  counters : w'.counters = w.counters

namespace Alike

variable {taken : Option Session}

theorem numbered (h : Alike w w') (hw : w.Numbered) : w'.Numbered := by
  constructor
  · rw [h.tasks]
    exact hw.tasks_nodup
  · rw [h.tasks, h.nextId]
    exact hw.tasks_lt

theorem books (h : Alike w w') (hand : Option Session) (news : Option ClientError)
    (others : List Session) : w'.books hand news others = w.books hand news others := by
  rw [World.books, World.books, h.store, h.board, h.counters]

/-- What a task without a session leaves alone, with what it has taken from the pool. -/
theorem subperm_berths (h : Alike w start) (hw : w.Numbered) (hseat : w.seat? id = none)
    (hpooled : (taken.toList ++ start.pooled).Subperm w.pooled) :
    (taken.toList.map Berth.resting ++ start.elsewhere id).Subperm w.berths := by
  have hberths := berths_perm hw.tasks_nodup id
  rw [hseat] at hberths
  rw [elsewhere, h.tasks, ← List.append_assoc, ← List.map_append]
  apply List.Subperm.trans _ hberths.symm.subperm
  exact (List.subperm_append_right _).mpr (map_subperm Berth.resting hpooled)

/-- A task that had no session has ended its turn, with one from the pool or one that it has built.
-/
theorem passage (h : Alike w start) (hw : w.Numbered) (hseat : w.seat? id = none)
    (hpooled : (taken.toList ++ start.pooled).Subperm w.pooled)
    (hends : Ends start begun id left w') (hbegins : ∀ π ∈ left, Begins taken π)
    (hexact : taken = none → ∀ π ∈ left, start.pooled = w.pooled) (now : Nat) :
    Passage now w.berths w'.berths [] := by
  have hnew := hends.berths_perm (h.numbered hw).tasks_nodup
  have hold := h.subperm_berths hw hseat hpooled
  cases left with
  | none =>
      apply Passage.drop (hnew.subperm.trans (List.Subperm.trans _ hold))
      exact (List.sublist_append_right ..).subperm
  | some π =>
      have hbegins := hbegins π rfl
      cases taken with
      | none =>
          obtain ⟨σ, rfl, hwait⟩ := hbegins
          have hberths := berths_perm hw.tasks_nodup id
          rw [hseat] at hberths
          rw [elsewhere, h.tasks, hexact rfl _ rfl] at hnew
          exact .fresh hwait (hnew.trans (hberths.symm.cons _))
      | some s =>
          obtain ⟨σ, rfl, hkin, hwait⟩ := hbegins
          exact .begin hold hkin hwait hnew

/-- So much has been done to the books meanwhile. -/
theorem path (h : Alike w start) (hw : w.Numbered) (hseat : w.seat? id = none)
    (hpooled : (taken.toList ++ start.pooled).Subperm w.pooled) (hsound : w.Sound)
    (hends : Ends start (start.books taken none ((start.elsewhere id).map Berth.session)) id left
      w') :
    (w.books none none w.sessions).Path (w'.books none none w'.sessions) := by
  have hsessions : (taken.toList ++ (start.elsewhere id).map Berth.session).Subperm
      w.sessions := by
    have hmapped := map_subperm Berth.session (h.subperm_berths hw hseat hpooled)
    rw [map_session_berths, List.map_append, List.map_map] at hmapped
    rwa [show Berth.session ∘ Berth.resting = fun s => s from rfl, List.map_id'] at hmapped
  have huseful : ∀ s ∈ taken, s.isSpent = false := by
    intro s hs
    apply hsound.useful
    apply hsessions.subset
    apply List.mem_append_left
    simpa using hs
  have hpath := hends.path_sessions (h.numbered hw).tasks_nodup rfl (h.store ▸ hsound.faultless)
    huseful
  rw [h.books] at hpath
  exact (path_take hsessions).trans hpath

end Alike

/-- A task that has no session has its turn.  It has got one from the pool if one is `taken`. -/
theorem Outcome.unseated (start : World) (taken : Option Session) (hw : w.Numbered)
    (hseat : w.seat? id = none) (halike : Alike w start)
    (hpooled : (taken.toList ++ start.pooled).Subperm w.pooled)
    (hexact : taken = none → ∀ π, G π → start.pooled = w.pooled)
    (hG : ∀ π, G π → Begins taken π)
    (hturned : ∀ others, Turned start (start.books taken none others) id G w') :
    Outcome w (.turn (.task id)) w' := by
  have hsilent := silent_of_seat? hseat
  obtain ⟨left, hleft, hends⟩ := hturned ((start.elsewhere id).map Berth.session)
  refine ⟨hends.numbered (halike.numbered hw), ?_, fun hsound =>
    ⟨?_, fun _ => ⟨w.sessions, ?_, ?_⟩⟩⟩
  · rw [hsilent.entries]
    exact halike.passage hw hseat hpooled hends (fun π hπ => hG π (hleft π hπ))
      (fun htaken π hπ => hexact htaken π (hleft π hπ)) w.now
  · exact hends.faultless (halike.store ▸ hsound.faultless)
  · rw [hsilent.hand]
    exact List.Perm.refl _
  · rw [hsilent.hand, hsilent.news]
    exact halike.path hw hseat hpooled hsound hends

/-- A session at work has its turn. -/
theorem Outcome.seated (hw : w.Numbered) (hseat : w.seat? id = some σ)
    (hturned : ∀ others, Turned (w.beginTurn (.task id))
      (w.books (some σ.session) (σ.news w.now) others) id (Course w.now σ)
      (w.happen (.turn (.task id)))) :
    Outcome w (.turn (.task id)) (w.happen (.turn (.task id))) := by
  have hstart : (w.beginTurn (.task id)).Numbered := ⟨hw.tasks_nodup, hw.tasks_lt⟩
  obtain ⟨left, hleft, hends⟩ := hturned ((w.elsewhere id).map Berth.session)
  have hberths := berths_perm hw.tasks_nodup id
  rw [hseat] at hberths
  refine ⟨hends.numbered hstart, ?_, fun hsound => ⟨hends.faultless hsound.faultless, fun _ => ?_⟩⟩
  · have hentries : w.entriesIn (.turn (.task id)) =
        σ.hears id w.now ++ (left.bind Berth.seat?).toList.flatMap (σ.sends id) := by
      rw [entriesIn, hseat, ← hends.seat]
    rw [hentries]
    exact .go id hberths hleft (hends.berths_perm hstart.tasks_nodup)
  · have hsessions : w.sessions.Perm (σ.session :: (w.elsewhere id).map Berth.session) := by
      rw [← map_session_berths]
      exact hberths.map Berth.session
    have huseful : ∀ s ∈ some σ.session, s.isSpent = false := by
      rintro s ⟨⟩
      apply hsound.useful
      exact hsessions.symm.subset List.mem_cons_self
    refine ⟨(w.elsewhere id).map Berth.session, ?_, ?_⟩
    · simpa [handIn, hseat] using hsessions
    · simpa [handIn, newsIn, hseat] using
        hends.path_sessions hstart.tasks_nodup rfl hsound.faultless huseful

/-! ## The turns of tasks -/

/-- A task that has a session goes on in the course of it. -/
theorem turned_seat (hseat : w.seat? id = some σ) (others : List Session) :
    Turned (w.beginTurn (.task id)) (w.books (some σ.session) (σ.news w.now) others) id
      (Course w.now σ) (w.happen (.turn (.task id))) := by
  have hfit : Fit (w.beginTurn (.task id)) (w.books (some σ.session) (σ.news w.now) others)
      σ.session := fun _ huseful => huseful _ rfl
  have hbegun : Midway (w.beginTurn (.task id))
      (w.books (some σ.session) (σ.news w.now) others) (some σ.session) (σ.news w.now)
      (w.beginTurn (.task id)) := .begin ..
  obtain ⟨t, ht, hσ⟩ := Option.bind_eq_some_iff.mp hseat
  have ht' : (w.beginTurn (.task id)).task? id = some t := ht
  rw [happen_turn, turn, ht']
  cases t with
  | scan scan =>
      obtain ⟨place, deadline, stage⟩ := scan
      cases stage with
      | working s attempt wait =>
          obtain rfl := Option.some.inj hσ
          exact turned_workTurn rfl hseat hbegun hfit
      | _ => cases hσ
  | preload p =>
      obtain ⟨remaining, queued, stage⟩ := p
      cases stage with
      | login s swapped deadline wait =>
          obtain rfl := Option.some.inj hσ
          exact turned_preloadTurn rfl rfl hseat hbegun hfit
      | _ => cases hσ
  | checkout c => cases hσ

/-- What was handed to a ticket is no longer in the pool when it has been collected. -/
theorem subperm_collect (h : w.pool.collect? id = some (s, pool)) :
    (s :: World.pooled { w with pool }).Subperm w.pooled := by
  rw [Pool.collect?, Option.map_eq_some_iff] at h
  obtain ⟨⟨ticket, s'⟩, hfind, heq⟩ := h
  obtain ⟨rfl, rfl⟩ := Prod.mk.inj heq
  have hlookup : w.pool.handed.lookup id = some s' := by
    rw [← Keyed.find?_map_snd, hfind]
    rfl
  have hhanded := map_subperm (·.2) (Keyed.cons_others_subperm hlookup)
  have hperm : (w.pool.buffer ++ (w.cooling.map (·.2.session) ++ (w.pool.arrivals ++
      ([s'] ++ (Keyed.others id w.pool.handed).map (·.2))))).Perm
        ([s'] ++ World.pooled { w with pool := { w.pool with
          handed := Keyed.others id w.pool.handed } }) := perm_pooled (List.Perm.refl _)
  apply hperm.symm.subperm.trans
  apply (List.subperm_append_left _).mpr
  apply (List.subperm_append_left _).mpr
  exact (List.subperm_append_left _).mpr hhanded

theorem subperm_sendToPool (s : Session) : (w.sendToPool s).pooled.Subperm (s :: w.pooled) := by
  by_cases hopen : w.pool.isOpen = true
  · exact (Holds.pooled_sendToPool hopen s).subperm
  · rw [sendToPool, if_neg hopen]
    exact (List.sublist_cons_self ..).subperm

theorem alike_sendToPool (s : Session) : w.Alike (w.sendToPool s) := by
  rw [sendToPool]
  split <;> exact ⟨rfl, rfl, rfl, rfl, rfl⟩

/-- What a task collects from the pool is not there any more. -/
theorem subperm_leave (h : w.pool.leave id = (some s, pool)) :
    (s :: World.pooled { w with pool }).Subperm w.pooled := by
  rw [Pool.leave] at h
  split at h
  · rename_i s' pool' hcollect
    obtain ⟨hs, rfl⟩ := Prod.mk.inj h
    obtain rfl := Option.some.inj hs
    exact subperm_collect (w := { w with pool := w.pool.release id }) hcollect
  · cases h

theorem pooled_leave (h : w.pool.leave id = (none, pool)) :
    World.pooled { w with pool } = w.pooled := by
  rw [Pool.leave] at h
  split at h
  · cases h
  · obtain ⟨-, rfl⟩ := Prod.mk.inj h
    rfl

/-- A task has taken nothing from the pool and is left without a session. -/
theorem Outcome.idle (hw : w.Numbered) (hseat : w.seat? id = none)
    (hturned : ∀ others, Turned (w.beginTurn (.task id)) (w.books none none others) id
      (fun _ => False) w') : Outcome w (.turn (.task id)) w' :=
  .unseated (w.beginTurn (.task id)) none hw hseat ⟨rfl, rfl, rfl, rfl, rfl⟩
    (List.Subperm.refl _) (fun _ _ => False.elim) (fun _ => False.elim) hturned

/-- A task has taken a session from the pool. -/
theorem Outcome.taken (hw : w.Numbered) (hseat : w.seat? id = none)
    (hpooled : (s :: World.pooled { w with pool }).Subperm w.pooled)
    (hturned : ∀ others, Turned (World.beginTurn (.task id) { w with pool })
      (w.books (some s) none others) id (Begins (some s)) w') :
    Outcome w (.turn (.task id)) w' :=
  .unseated (World.beginTurn (.task id) { w with pool }) (some s) hw hseat
    ⟨rfl, rfl, rfl, rfl, rfl⟩ hpooled (by simp) (fun _ h => h) hturned

/-- The turn of a task that has just collected a session. -/
theorem outcome_acquire (scan : Scan) (hw : w.Numbered) (hseat : w.seat? id = none)
    (hid : (w.task? id).isSome) (hpooled : (s :: World.pooled { w with pool }).Subperm w.pooled) :
    Outcome w (.turn (.task id))
      (World.acquire id scan s (World.beginTurn (.task id) { w with pool })) := by
  have hid' : ((World.beginTurn (.task id) { w with pool }).task? id).isSome := hid
  apply Outcome.taken hw hseat hpooled
  intro others
  have hbegun : Midway (World.beginTurn (.task id) { w with pool }) (w.books (some s) none others)
      (some s) none (World.beginTurn (.task id) { w with pool }) := .begin ..
  exact turned_acquire hid' hbegun (fun _ huseful => huseful s rfl)
    fun s' hs' => ⟨_, rfl, hs', rfl⟩

/-- The turn of a scan that gets nothing from the pool. -/
theorem outcome_acquireNew (scan : Scan) (hw : w.Numbered) (hseat : w.seat? id = none)
    (hid : (w.task? id).isSome) (hpooled : World.pooled { w with pool } = w.pooled) :
    Outcome w (.turn (.task id))
      (World.acquireNew id scan (World.beginTurn (.task id) { w with pool })) := by
  have hid' : ((World.beginTurn (.task id) { w with pool }).task? id).isSome := hid
  apply Outcome.unseated (World.beginTurn (.task id) { w with pool }) none
    (G := Begins none) hw hseat ⟨rfl, rfl, rfl, rfl, rfl⟩
    (List.Perm.of_eq hpooled).subperm (fun _ _ _ => hpooled) (fun _ h => h)
  intro others
  have hbegun : Midway (World.beginTurn (.task id) { w with pool }) (w.books none none others)
      none none (World.beginTurn (.task id) { w with pool }) := .begin ..
  apply turned_acquireNew hid' hbegun
  intro s
  refine ⟨_, rfl, ?_⟩
  rw [Session.firstWait]
  split <;> rfl

/-- The turn of a scan that has no session yet, or none any more. -/
theorem outcome_scanTurn {scan : Scan} (hw : w.Numbered) (hseat : w.seat? id = none)
    (ht : w.task? id = some (.scan scan)) :
    Outcome w (.turn (.task id)) ((w.beginTurn (.task id)).scanTurn id scan) := by
  obtain ⟨place, deadline, stage⟩ := scan
  have hid : ((w.beginTurn (.task id)).task? id).isSome := isSome_lookup ht
  have hidle (others : List Session) : Midway (w.beginTurn (.task id)) (w.books none none others)
      none none (w.beginTurn (.task id)) := .begin ..
  rw [World.scanTurn]
  cases stage with
  | planned start =>
      apply Outcome.idle hw hseat
      intro others
      have hcount : (w.beginTurn (.task id)).Quiet { w.beginTurn (.task id) with
          counters := (w.beginTurn (.task id)).counters.countScan } := Quiet.count rfl
      have hcounted := (hidle others).quiet hcount
      dsimp only
      split
      · split
        · rw [proceed]
          exact (hcounted.part.request id).settle hid rfl (by simp) _
        · exact turned_finishScan hid hcounted.part (by simp) _
      · exact ((hidle others).quiet (.stirs (.alarm start id))).part.stay hseat
  | checkout until_ =>
      dsimp only
      cases hcollect : w.pool.collect? id with
      | some result =>
          obtain ⟨s, pool⟩ := result
          rw [show (w.beginTurn (.task id)).pool.collect? id = some (s, pool) from hcollect]
          exact outcome_acquire _ hw hseat hid (subperm_collect hcollect)
      | none =>
          rw [show (w.beginTurn (.task id)).pool.collect? id = none from hcollect]
          apply Outcome.idle hw hseat
          intro others
          dsimp only
          split
          · exact turned_finishScan hid (hidle others).part (by simp) _
          · split
            · rw [proceed]
              exact (hidle others).part.settle hid rfl (by simp) _
            · exact ((hidle others).quiet (.stirs (.alarm until_ id))).part.stay hseat
  | leaving =>
      dsimp only
      cases hleave : w.pool.leave id with
      | mk got pool =>
          rw [show (w.beginTurn (.task id)).pool.leave id = (got, pool) from hleave]
          cases got with
          | some s => exact outcome_acquire _ hw hseat hid (subperm_leave hleave)
          | none => exact outcome_acquireNew _ hw hseat hid (pooled_leave hleave)
  | working s attempt wait =>
      rw [seat?, ht] at hseat
      cases hseat
  | finished result at_ => exact .idle hw hseat fun others => (hidle others).part.stay hseat

/-- The turn of a preload between two sessions. -/
theorem outcome_preloadTurn {p : Preload} (hw : w.Numbered) (hseat : w.seat? id = none)
    (ht : w.task? id = some (.preload p)) :
    Outcome w (.turn (.task id)) ((w.beginTurn (.task id)).preloadTurn id p) := by
  obtain ⟨remaining, queued, stage⟩ := p
  have hid : ((w.beginTurn (.task id)).task? id).isSome := by
    rw [show (w.beginTurn (.task id)).task? id = _ from ht]
    rfl
  have hidle (others : List Session) : Midway (w.beginTurn (.task id)) (w.books none none others)
      none none (w.beginTurn (.task id)) := .begin ..
  rw [World.preloadTurn]
  cases stage with
  | next =>
      apply Outcome.unseated (w.beginTurn (.task id)) none (G := Begins none) hw
        hseat ⟨rfl, rfl, rfl, rfl, rfl⟩ (List.Subperm.refl _) (fun _ _ _ => rfl) (fun _ h => h)
      intro others
      dsimp only
      split
      · exact (hidle others).part.settle hid rfl (by simp) _
      · have hprovisioned := (hidle others).provision
        split
        · rename_i w' hprovision
          rw [hprovision] at hprovisioned
          exact (Midway.part hprovisioned).settle hid rfl (by simp) _
        · rename_i s w' hprovision
          rw [hprovision] at hprovisioned
          have hshown : Midway (w.beginTurn (.task id)) (w.books none none others) (some s) none
            (w'.show_ s) := Midway.show_ hprovisioned
          apply turned_beginPreloadLogin hid hshown fun _ _ => useful_of_provision hprovision
          exact fun _ => ⟨_, rfl, rfl⟩
  | login s swapped deadline wait =>
      rw [seat?, ht] at hseat
      cases hseat
  | finished at_ => exact .idle hw hseat fun others => (hidle others).part.stay hseat

/-- The turn of a checkout, which gives what it collects to its caller. -/
theorem outcome_checkoutTurn {c : Checkout} (hw : w.Numbered)
    (ht : w.task? id = some (.checkout c)) :
    Outcome w (.turn (.task id)) ((w.beginTurn (.task id)).checkoutTurn id c) := by
  obtain ⟨timeout, stage⟩ := c
  have hseat : w.seat? id = none := by
    rw [seat?, ht]
    rfl
  have hid : ((w.beginTurn (.task id)).task? id).isSome := by
    rw [show (w.beginTurn (.task id)).task? id = _ from ht]
    rfl
  have hidle (others : List Session) : Midway (w.beginTurn (.task id)) (w.books none none others)
      none none (w.beginTurn (.task id)) := .begin ..
  -- The holder of a ticket goes off with what it has got.
  have hgone {pool : Pool Session} (hpooled : (World.pooled { w with pool }).Subperm w.pooled)
      (result : Except PoolError Session) (at_ : Nat) : Outcome w (.turn (.task id))
        (World.finish id (.checkout ⟨timeout, .finished result at_⟩)
          (World.beginTurn (.task id) { w with pool })) := by
    have hid' : ((World.beginTurn (.task id) { w with pool }).task? id).isSome := hid
    apply Outcome.unseated (World.beginTurn (.task id) { w with pool }) none
      (G := fun _ => False) hw hseat ⟨rfl, rfl, rfl, rfl, rfl⟩ hpooled (fun _ _ => False.elim)
      (fun _ => False.elim)
    intro others
    have hbegun : Midway (World.beginTurn (.task id) { w with pool }) (w.books none none others)
        none none (World.beginTurn (.task id) { w with pool }) := .begin ..
    exact hbegun.part.settle hid' rfl (by simp) _
  rw [World.checkoutTurn]
  cases stage with
  | planned =>
      apply Outcome.idle hw hseat
      intro others
      dsimp only
      split
      · rw [proceed]
        exact ((hidle others).part.request id).settle hid rfl (by simp) _
      · exact (hidle others).part.settle hid rfl (by simp) _
  | waiting until_ =>
      dsimp only
      cases hcollect : w.pool.collect? id with
      | some result =>
          obtain ⟨s, pool⟩ := result
          rw [show (w.beginTurn (.task id)).pool.collect? id = some (s, pool) from hcollect]
          exact hgone ((List.sublist_cons_self ..).subperm.trans (subperm_collect hcollect)) _ _
      | none =>
          rw [show (w.beginTurn (.task id)).pool.collect? id = none from hcollect]
          apply Outcome.idle hw hseat
          intro others
          dsimp only
          split
          · exact (hidle others).part.settle hid rfl (by simp) _
          · split
            · rw [proceed]
              exact (hidle others).part.settle hid rfl (by simp) _
            · exact ((hidle others).quiet (.stirs (.alarm until_ id))).part.stay hseat
  | leaving =>
      dsimp only
      cases hleave : w.pool.leave id with
      | mk got pool =>
          rw [show (w.beginTurn (.task id)).pool.leave id = (got, pool) from hleave]
          cases got with
          | some s =>
              exact hgone ((List.sublist_cons_self ..).subperm.trans (subperm_leave hleave)) _ _
          | none => exact hgone (List.Perm.of_eq (pooled_leave hleave)).subperm _ _
  | finished result at_ => exact .idle hw hseat fun others => (hidle others).part.stay hseat

/-- The turn of any task. -/
theorem outcome_taskTurn (hw : w.Numbered) (id : Nat) :
    Outcome w (.turn (.task id)) (w.happen (.turn (.task id))) := by
  cases hseat : w.seat? id with
  | some σ => exact .seated hw hseat (turned_seat hseat)
  | none =>
      rw [happen_turn, turn]
      cases ht : w.task? id with
      | none =>
          rw [show (w.beginTurn (.task id)).task? id = none from ht]
          exact .calm (w.beginTurn (.task id)) (silent_of_seat? hseat)
            ⟨hw.tasks_nodup, hw.tasks_lt⟩ (List.Subperm.refl _) (·.faultless) (fun _ => rfl) rfl rfl
      | some t =>
          rw [show (w.beginTurn (.task id)).task? id = some t from ht]
          cases t with
          | scan scan => exact outcome_scanTurn hw hseat ht
          | preload p => exact outcome_preloadTurn hw hseat ht
          | checkout c => exact outcome_checkoutTurn hw ht

/-! ## Other events -/

theorem subperm_berths (hseats : seats w'.tasks = seats w.tasks)
    (hpooled : w'.pooled.Subperm w.pooled) : w'.berths.Subperm w.berths := by
  rw [berths, berths, hseats]
  exact (List.subperm_append_right _).mpr (map_subperm Berth.resting hpooled)

/-- Sessions change their places within the pool at most. -/
theorem Outcome.pooling (hw : w.Numbered) (hsilent : w.Silent e) (halike : w.Alike w')
    (hpooled : w'.pooled.Subperm w.pooled) : Outcome w e w' := by
  apply Outcome.calm _ hsilent (halike.numbered hw) (subperm_berths (by rw [halike.tasks]) hpooled)
    _ _ halike.board halike.counters
  · intro hsound
    rw [halike.store]
    exact hsound.faultless
  · intro _
    rw [halike.store]

/-- In the pool sessions only change their places. -/
theorem outcome_poolTurn (hw : w.Numbered) :
    Outcome w (.turn .pool) (w.happen (.turn .pool)) := by
  have hsilent : w.Silent (.turn .pool) := ⟨rfl, rfl, rfl⟩
  rw [happen_turn, turn]
  by_cases hacts : w.pool.isOpen = true ∧ w.pool.isReading = true
  · obtain ⟨f, hturn, -⟩ := poolTurn_eq (w := w.beginTurn .pool) hacts.1 hacts.2
    have hpooled : (w.beginTurn .pool).poolTurn.pooled.Perm w.pooled := by
      rw [hturn]
      exact pool_act_perm _ Pool.act_acts
    rw [hturn] at hpooled ⊢
    exact .pooling hw hsilent ⟨rfl, rfl, rfl, rfl, rfl⟩ hpooled.subperm
  · have hturn : (w.beginTurn .pool).poolTurn = w.beginTurn .pool := by
      rw [poolTurn, if_neg]
      rw [Bool.and_eq_true]
      exact hacts
    rw [hturn]
    exact .pooling hw hsilent ⟨rfl, rfl, rfl, rfl, rfl⟩ (List.Subperm.refl _)

/-- A session that has rested is put into the queue. -/
theorem outcome_coolingTurn (hw : w.Numbered) (id : Nat) :
    Outcome w (.turn (.cooling id)) (w.happen (.turn (.cooling id))) := by
  have hsilent : w.Silent (.turn (.cooling id)) := ⟨rfl, rfl, rfl⟩
  have hrests := coolingTurn_rests (w.beginTurn (.cooling id)) id
  rw [happen_turn, turn]
  generalize World.coolingTurn id _ = w' at hrests ⊢
  cases hrests with
  | stay => exact .pooling hw hsilent ⟨rfl, rfl, rfl, rfl, rfl⟩ (List.Subperm.refl _)
  | @lieDown c hc huntil =>
      have hcooling := Keyed.map_map_eq id (fun d => { d with until_ := some (w.now + c.span) })
        (fun _ c => c.session) (fun _ => rfl) w.cooling
      have hpooled := congrArg (fun sessions => w.pool.buffer ++ (sessions ++ w.inTransit)) hcooling
      exact .pooling hw hsilent ⟨rfl, rfl, rfl, rfl, rfl⟩ (List.Perm.of_eq hpooled).subperm
  | @getUp c due hc huntil hdue =>
      -- The session leaves those that rest for the mail of the pool, if that is still open.
      have hcooling := map_subperm (·.2.session) (Keyed.cons_others_subperm hc)
      have hpooled : (World.sendToPool c.session { w.beginTurn (.cooling id) with
          cooling := Keyed.others id w.cooling }).pooled.Subperm w.pooled := by
        apply (subperm_sendToPool c.session).trans
        apply List.perm_middle.symm.subperm.trans
        apply (List.subperm_append_left _).mpr
        exact (List.subperm_append_right _).mpr hcooling
      have halike := alike_sendToPool
        (w := { w.beginTurn (.cooling id) with cooling := Keyed.others id w.cooling }) c.session
      exact .pooling hw hsilent ⟨halike.1, halike.2, halike.3, halike.4, halike.5⟩ hpooled

/-- A task begins without a session. -/
theorem outcome_spawn (hw : w.Numbered) (hsilent : w.Silent e) {t : Task} (ht : t.seat? = none) :
    Outcome w e (w.spawn t).2 := by
  have hkeys : (w.spawn t).2.tasks.map (·.1) = w.tasks.map (·.1) ++ [w.nextId] :=
    List.map_append ..
  have hseats : seats (w.spawn t).2.tasks = seats w.tasks := by
    change List.filterMap _ (w.tasks ++ [(w.nextId, t)]) = _
    simp [seats, ht]
  apply Outcome.calm _ hsilent _ (subperm_berths hseats (List.Subperm.refl _)) (·.faultless)
    (fun _ => rfl) rfl rfl
  constructor
  · rw [hkeys]
    apply List.nodup_append.mpr ⟨hw.tasks_nodup, by simp, ?_⟩
    intro i hi j hj
    rw [List.mem_singleton.mp hj]
    exact Nat.ne_of_lt (hw.tasks_lt i hi)
  · intro i hi
    rw [hkeys] at hi
    rcases List.mem_append.mp hi with hi | hi
    · exact Nat.lt_succ_of_lt (hw.tasks_lt i hi)
    · rw [List.mem_singleton.mp hi]
      exact Nat.lt_succ_self _

/-- The inventory is changed from outside. -/
theorem outcome_tellStore {α : Type} {f : Store → α × Store} (hw : w.Numbered)
    (hsilent : w.Silent e) (hown : e.isOwn = false)
    (hf : w.store.Faultless → (f w.store).2.Faultless) : Outcome w e (w.tellStore f) := by
  apply Outcome.calm (w.tellStore f) hsilent ⟨hw.tasks_nodup, hw.tasks_lt⟩
    (List.Subperm.refl _) _ _ rfl rfl
  · exact fun hsound => hf hsound.faultless
  · intro hown'
    rw [hown] at hown'
    cases hown'

/-- What comes of any event. -/
theorem outcome_happen (hw : w.Numbered) (e : Event) : Outcome w e (w.happen e) := by
  cases e with
  | turn o =>
      cases o with
      | task id => exact outcome_taskTurn hw id
      | cooling id => exact outcome_coolingTurn hw id
      | pool => exact outcome_poolTurn hw
      | gate g =>
          have hsilent : w.Silent (.turn (.gate g)) := ⟨rfl, rfl, rfl⟩
          have hstill := Still.stirs (.wakeHead (w := w.beginTurn (.gate g)) g)
          apply Outcome.pooling hw hsilent _ (List.Perm.of_eq hstill.pooled_eq).subperm
          rw [wakeHead]
          split <;> exact ⟨rfl, rfl, rfl, rfl, rfl⟩
  | pass now =>
      exact .pooling hw ⟨rfl, rfl, rfl⟩ ⟨rfl, rfl, rfl, rfl, rfl⟩ (List.Subperm.refl _)
  | readWall => exact .pooling hw ⟨rfl, rfl, rfl⟩ ⟨rfl, rfl, rfl, rfl, rfl⟩ (List.Subperm.refl _)
  | scan place start => exact outcome_spawn hw ⟨rfl, rfl, rfl⟩ rfl
  | preload count => exact outcome_spawn hw ⟨rfl, rfl, rfl⟩ rfl
  | addProxy id =>
      exact outcome_tellStore (f := (·.addProxy { id })) hw ⟨rfl, rfl, rfl⟩ rfl (·.addProxy { id })
  | loseProxy id =>
      exact outcome_tellStore (f := (·.saveProxy { id, dead := true })) hw ⟨rfl, rfl, rfl⟩ rfl
        (·.saveProxy { id, dead := true })
  | sweep => exact outcome_tellStore hw ⟨rfl, rfl, rfl⟩ rfl Store.Faultless.sweep

namespace Numbered

theorem happen (hw : w.Numbered) (e : Event) : (w.happen e).Numbered :=
  (outcome_happen hw e).numbered

theorem run (hw : w.Numbered) (events : List Event) : (w.run events).Numbered :=
  run_induction (fun _ e h => h.happen e) hw events

end Numbered

namespace Sound

/-- Only an event from outside changes the inventory other than by moves of the books. -/
theorem path_happen (h : w.Sound) (hw : w.Numbered) (hown : e.isOwn = true) :
    ∃ others, w.sessions.Perm ((w.handIn e).toList ++ others) ∧
      (w.books (w.handIn e) (w.newsIn e) others).Path
        ((w.happen e).books none none (w.happen e).sessions) :=
  ((outcome_happen hw e).path h).2 hown

theorem happen (h : w.Sound) (hw : w.Numbered) (e : Event) : (w.happen e).Sound := by
  refine ⟨((outcome_happen hw e).path h).1, ?_⟩
  cases hown : e.isOwn with
  | false =>
      cases e with
      | addProxy | loseProxy | sweep => exact h.useful
      | _ => cases hown
  | true =>
      obtain ⟨others, hperm, hpath⟩ := h.path_happen hw hown
      apply hpath.others_not_spent
      intro s hs
      apply h.useful
      exact hperm.symm.subset (List.mem_append_right _ hs)

/-- In a run that begins with sessions of use all sessions are of use. -/
theorem run (h : w.Sound) (hw : w.Numbered) (events : List Event) : (w.run events).Sound := by
  have hboth : (w.run events).Numbered ∧ (w.run events).Sound :=
    run_induction (P := fun w => w.Numbered ∧ w.Sound)
      (fun _ e h => ⟨h.1.happen e, h.2.happen h.1 e⟩) ⟨hw, h⟩ events
  exact hboth.2

end Sound

/-- Nothing is under way. -/
structure Idle (w : World) : Prop where
  faultless : w.store.Faultless
  tasks : w.tasks = []
  pooled : w.pooled = []

namespace Idle

theorem sessions_eq_nil (h : w.Idle) : w.sessions = [] := by
  rw [sessions, h.tasks, h.pooled]
  rfl

theorem numbered (h : w.Idle) : w.Numbered := by
  constructor <;> simp [h.tasks]

theorem sound (h : w.Idle) : w.Sound := by
  refine ⟨h.faultless, ?_⟩
  simp [h.sessions_eq_nil]

end Idle

end World

end MapScout
