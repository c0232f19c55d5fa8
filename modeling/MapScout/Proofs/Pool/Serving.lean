import Mathlib.Data.Nat.Find
import MapScout.Proofs.Pool.Order

/-!
# Serving the queue

A pool that has read its mail serves the queue: it takes one ticket after the other and offers it the
head of the buffer, until there is nothing to offer or nobody to offer it to.  Others do not wait for
that.  At any moment, also between the one at which a ticket is found held and the one at which it is
offered a session, tickets are given up and handed in and sessions are sent and collected.  Whatever
they do, the pool comes to rest, and what it hands out it hands out from the head of the buffer to
the tickets in their order.
-/

namespace MapScout.Pool

variable {σ : Type} {p q q' : Pool σ} {ticket : Nat} {got : Option σ}

inductive Deed (σ : Type) where
  | send (s : σ)
  | request (ticket : Nat)
  | release (ticket : Nat)
  | collect (ticket : Nat)
  | giveUp (ticket : Nat)

def Deed.on (d : Deed σ) (p : Pool σ) : Pool σ :=
  match d with
  | .send s => p.send s
  | .request ticket => p.request ticket
  | .release ticket => p.release ticket
  | .collect ticket => ((p.collect? ticket).map (·.2)).getD p
  | .giveUp ticket => p.giveUp ticket

def meanwhile (deeds : List (Deed σ)) (p : Pool σ) : Pool σ := deeds.foldl (fun p d => d.on p) p

/-- A pool that serves its queue, with what it has handed over since it began. -/
structure Service (σ : Type) where
  pool : Pool σ
  given : List (Nat × σ)

namespace Service

/-- The pool takes a step after others have done something. -/
def step (deeds : List (Deed σ)) (v : Service σ) : Service σ :=
  let p := meanwhile deeds v.pool
  { pool := p.act, given := v.given ++ p.act.handed.drop p.handed.length }

/-- A pool begins to serve its queue and takes `n` steps; `deeds k` is what others do before step
`k`. -/
def after (p : Pool σ) (deeds : Nat → List (Deed σ)) : Nat → Service σ
  | 0 => { pool := { p with phase := .serving }, given := [] }
  | n + 1 => (after p deeds n).step (deeds n)

def before (p : Pool σ) (deeds : Nat → List (Deed σ)) (k : Nat) : Pool σ :=
  meanwhile (deeds k) (after p deeds k).pool

end Service

/-- What the next step of a pool makes of a ticket: it is handed a session, or it has been given
up. -/
inductive Settles (p : Pool σ) : Nat → Option σ → Prop where
  | absent {ticket : Nat} (hphase : p.phase = .serving) (h : p.waiting.head? = some ticket)
      (hgone : ticket ∉ p.held) : Settles p ticket none
  /-- It was found held, and was given up before it could be offered a session. -/
  | late {ticket : Nat} (hphase : p.phase = .offering ticket) (hgone : ticket ∉ p.held) :
      Settles p ticket none
  | served {ticket : Nat} {s : σ} (hphase : p.phase = .offering ticket)
      (h : p.buffer.head? = some s) (hheld : ticket ∈ p.held) : Settles p ticket (some s)

/-- The ticket was settled in one of the first `n` steps. -/
def SettledBy (p : Pool σ) (deeds : Nat → List (Deed σ)) (n ticket : Nat) (got : Option σ) : Prop :=
  ∃ k < n, (Service.before p deeds k).Settles ticket got

def handover? (entry : Nat × Option σ) : Option (Nat × σ) := entry.2.map (entry.1, ·)

/-- A pool serves its queue in `n` steps.  In these steps the tickets in `taken` leave the queue, each
with the session that it was handed, if any. -/
structure ServesQueue (p : Pool σ) (deeds : Nat → List (Deed σ)) (n : Nat)
    (taken : List (Nat × Option σ)) : Prop where
  busy : ∀ k < n, (Service.after p deeds k).pool.phase ≠ .resting
  ends : (Service.after p deeds n).pool.phase = .resting
  steps_le : n ≤ 2 * p.waiting.length + 1
  /-- The rest of the queue is the end of it. -/
  tickets : p.waiting = taken.map (·.1) ++ (Service.after p deeds n).pool.waiting
  /-- What is handed over goes to the tickets in their order. -/
  given : (Service.after p deeds n).given = taken.filterMap handover?
  /-- What is handed over comes from the buffer in its order. -/
  sessions : ∀ (k : Nat) (l : Nat × σ), (Service.after p deeds n).given[k]? = some l →
    p.buffer[k]? = some l.2
  /-- The rest of the buffer is what has not been handed over. -/
  buffer : (Service.after p deeds n).pool.buffer =
    p.buffer.drop (Service.after p deeds n).given.length
  /-- A ticket is handed a session if it is held at that moment, and is passed over only if it is
  not. -/
  settled : ∀ entry ∈ taken, SettledBy p deeds n entry.1 entry.2
  exhausted : (Service.after p deeds n).pool.buffer = [] ∨
    (Service.after p deeds n).pool.waiting = []

/-! ## What others leave as it is -/

theorem undisturbed_on (d : Deed σ) (p : Pool σ) :
    (d.on p).buffer = p.buffer ∧ (d.on p).waiting = p.waiting ∧ (d.on p).phase = p.phase := by
  cases d with
  | send s =>
      rw [Deed.on, send]
      split <;> exact ⟨rfl, rfl, rfl⟩
  | request => exact ⟨rfl, rfl, rfl⟩
  | release => exact ⟨rfl, rfl, rfl⟩
  | collect ticket =>
      rw [Deed.on, collect?]
      cases p.handed.find? (·.1 == ticket) <;> exact ⟨rfl, rfl, rfl⟩
  | giveUp => exact ⟨rfl, rfl, rfl⟩

/-- What others do between two steps touches neither buffer nor queue. -/
theorem undisturbed_meanwhile (deeds : List (Deed σ)) (p : Pool σ) :
    (meanwhile deeds p).buffer = p.buffer ∧ (meanwhile deeds p).waiting = p.waiting ∧
      (meanwhile deeds p).phase = p.phase := by
  induction deeds generalizing p with
  | nil => exact ⟨rfl, rfl, rfl⟩
  | cons d deeds ih =>
      obtain ⟨hbuffer, hwaiting, hphase⟩ := undisturbed_on d p
      obtain ⟨hbuffer', hwaiting', hphase'⟩ := ih (d.on p)
      exact ⟨hbuffer'.trans hbuffer, hwaiting'.trans hwaiting, hphase'.trans hphase⟩

/-! ## The pool comes to rest -/

/-- How many steps a pool may need to serve its queue: two for every ticket, and one to see that it
is done. -/
def work (p : Pool σ) : Nat :=
  2 * p.waiting.length +
    match p.phase with
    | .resting => 0
    | .serving => 1
    | .offering _ => 2

theorem work_meanwhile (deeds : List (Deed σ)) (p : Pool σ) : (meanwhile deeds p).work = p.work := by
  obtain ⟨-, hwaiting, hphase⟩ := undisturbed_meanwhile deeds p
  rw [work, work, hwaiting, hphase]

/-- Each step of the actor at work leaves it less to do. -/
theorem work_act (hphase : p.phase ≠ .resting) : p.act.work < p.work := by
  rw [act]
  split
  · rename_i hresting
    exact absurd hresting hphase
  · rename_i hserving
    rw [pickTicket]
    split
    · rename_i hwaiting
      simp only [work, hwaiting, hserving, List.length_cons]
      split <;> omega
    · simp [work, hserving]
  · rename_i ticket hoffering
    have hless : 2 * p.waiting.length + 1 < p.work := by simp [work, hoffering]
    rw [offer]
    split
    · exact hless
    · split <;> exact hless

namespace Service

variable {deeds : Nat → List (Deed σ)} {n : Nat} {v : Service σ}

theorem work_step (deeds : List (Deed σ)) (hphase : v.pool.phase ≠ .resting) :
    (v.step deeds).pool.work < v.pool.work := by
  have hbusy : (meanwhile deeds v.pool).phase ≠ .resting := by
    rwa [(undisturbed_meanwhile deeds v.pool).2.2]
  calc (v.step deeds).pool.work < (meanwhile deeds v.pool).work := work_act hbusy
    _ = v.pool.work := work_meanwhile deeds v.pool

/-- Every step leaves less to do. -/
theorem work_after (hbusy : ∀ k < n, (after p deeds k).pool.phase ≠ .resting) :
    (after p deeds n).pool.work + n ≤ 2 * p.waiting.length + 1 := by
  induction n with
  | zero => exact Nat.le_refl _
  | succ n ih =>
      have hless := work_step (deeds n) (hbusy n (Nat.lt_succ_self n))
      have hrest := ih fun k hk => hbusy k (Nat.lt_succ_of_lt hk)
      rw [after]
      omega

/-- However the others interfere, the actor comes to rest. -/
theorem exists_resting (p : Pool σ) (deeds : Nat → List (Deed σ)) :
    ∃ n, (after p deeds n).pool.phase = .resting := by
  by_contra hnever
  rw [not_exists] at hnever
  have hwork := work_after (n := 2 * p.waiting.length + 2) fun k _ => hnever k
  omega

end Service

/-! ## What has been handed out by then -/

/-- The tickets that have not been settled: the one that is about to be offered a session, and those
that wait. -/
def queue (p : Pool σ) : List Nat :=
  match p.phase with
  | .offering ticket => ticket :: p.waiting
  | _ => p.waiting

theorem queue_of_serving (hphase : p.phase = .serving) : p.queue = p.waiting := by
  rw [queue, hphase]

theorem queue_of_resting (hphase : p.phase = .resting) : p.queue = p.waiting := by
  rw [queue, hphase]

theorem queue_of_offering (hphase : p.phase = .offering ticket) :
    p.queue = ticket :: p.waiting := by
  rw [queue, hphase]

/-- A pool is serving the queue of `p`: the tickets in `taken` have left it, each settled at some
moment. -/
structure Underway (p : Pool σ) (settled : Nat → Option σ → Prop) (v : Service σ)
    (taken : List (Nat × Option σ)) : Prop where
  tickets : p.waiting = taken.map (·.1) ++ v.pool.queue
  given : v.given = taken.filterMap handover?
  sessions : p.buffer = v.given.map (·.2) ++ v.pool.buffer
  settled : ∀ entry ∈ taken, settled entry.1 entry.2
  offering : ∀ ticket, v.pool.phase = .offering ticket → v.pool.buffer ≠ []
  resting : v.pool.phase = .resting → v.pool.buffer = [] ∨ v.pool.waiting = []

namespace Underway

variable {settled settled' : Nat → Option σ → Prop} {v : Service σ} {given : List (Nat × σ)}
  {taken : List (Nat × Option σ)}

theorem start (p : Pool σ) (deeds : Nat → List (Deed σ)) :
    Underway p settled (Service.after p deeds 0) [] where
  tickets := rfl
  given := rfl
  sessions := rfl
  settled := by simp
  offering := by rintro _ ⟨⟩
  resting := by rintro ⟨⟩

theorem mono (h : Underway p settled v taken)
    (hsettled : ∀ ticket got, settled ticket got → settled' ticket got) :
    Underway p settled' v taken :=
  { h with settled := fun entry hentry => hsettled _ _ (h.settled entry hentry) }

/-- Neither of the two queues has moved. -/
theorem keep (h : Underway p settled ⟨q, given⟩ taken) (hqueue : q'.queue = q.queue)
    (hbuffer : q'.buffer = q.buffer)
    (hoffering : ∀ ticket, q'.phase = .offering ticket → q'.buffer ≠ [])
    (hresting : q'.phase = .resting → q'.buffer = [] ∨ q'.waiting = []) :
    Underway p settled ⟨q', given⟩ taken where
  tickets := by rw [h.tickets, hqueue]
  given := h.given
  sessions := by rw [h.sessions, hbuffer]
  settled := h.settled
  offering := hoffering
  resting := hresting

/-- What others do is no concern of the serving. -/
theorem meanwhile (h : Underway p settled v taken) (deeds : List (Deed σ)) :
    Underway p settled ⟨Pool.meanwhile deeds v.pool, v.given⟩ taken := by
  obtain ⟨hbuffer, hwaiting, hphase⟩ := undisturbed_meanwhile deeds v.pool
  refine h.keep (by rw [queue, queue, hwaiting, hphase]) hbuffer ?_ ?_
  · intro ticket hoffering
    rw [hbuffer]
    exact h.offering ticket (hphase.symm.trans hoffering)
  · intro hresting
    rw [hbuffer, hwaiting]
    exact h.resting (hphase.symm.trans hresting)

/-- The next ticket has been handed the head of the buffer, or nothing. -/
theorem settle (h : Underway p settled ⟨q, given⟩ taken) (got : Option σ)
    (hqueue : q.queue = ticket :: q'.waiting) (hbuffer : q.buffer = got.toList ++ q'.buffer)
    (hphase : q'.phase = .serving) (hsettled : settled ticket got) :
    Underway p settled ⟨q', given ++ (got.map (ticket, ·)).toList⟩ (taken ++ [(ticket, got)]) where
  tickets := by
    rw [h.tickets, hqueue, queue_of_serving hphase]
    simp
  given := by
    rw [List.filterMap_append, ← h.given]
    cases got <;> rfl
  sessions := by
    rw [h.sessions, hbuffer]
    cases got <;> simp
  settled entry hentry := by
    rcases List.mem_append.mp hentry with hentry | hentry
    · exact h.settled entry hentry
    · rwa [List.mem_singleton.mp hentry]
  offering ticket hoffering := by
    rw [hphase] at hoffering
    cases hoffering
  resting hresting := by
    rw [hphase] at hresting
    cases hresting

/-- The pool takes a step: it finds the next ticket held, or it settles one, or it is done. -/
theorem act (h : Underway p settled ⟨q, given⟩ taken) (hbusy : q.phase ≠ .resting)
    (hsettled : ∀ ticket got, q.Settles ticket got → settled ticket got) :
    ∃ taken', Underway p settled ⟨q.act, given ++ q.act.handed.drop q.handed.length⟩ taken' := by
  have hacts : q.Acts q.act := act_acts
  generalize q.act = q' at hacts ⊢
  have hgiven {new : List (Nat × σ)} (hhanded : q'.handed = q.handed ++ new) :
      given ++ q'.handed.drop q.handed.length = given ++ new := by
    rw [hhanded, List.drop_left]
  have hsame (hhanded : q'.handed = q.handed) :
      given ++ q'.handed.drop q.handed.length = given := by
    rw [hgiven (hhanded.trans (List.append_nil _).symm), List.append_nil]
  cases hacts with
  | idle =>
      rw [hsame rfl]
      exact ⟨taken, h⟩
  | readSession hphase => exact absurd hphase hbusy
  | readRequest hphase => exact absurd hphase hbusy
  | answer hphase => exact absurd hphase hbusy
  | pick hphase hbuffer hwaiting =>
      rw [hsame rfl]
      refine ⟨taken, h.keep ?_ rfl (fun _ _ => hbuffer) (by rintro ⟨⟩)⟩
      rw [queue_of_serving hphase, hwaiting]
      rfl
  | @skip ticket rest hphase hwaiting hgone =>
      have hhead : q.waiting.head? = some ticket := by rw [hwaiting, List.head?_cons]
      rw [hgiven (List.append_nil _).symm]
      exact ⟨_, h.settle none ((queue_of_serving hphase).trans hwaiting) rfl rfl
        (hsettled ticket none (.absent hphase hhead hgone))⟩
  | rest hphase hnone =>
      rw [hsame rfl]
      refine ⟨taken, h.keep ?_ rfl (by rintro _ ⟨⟩) (fun _ => hnone)⟩
      rw [queue_of_serving hphase]
      rfl
  | @hand ticket s rest hphase hbuffer hheld =>
      have hhead : q.buffer.head? = some s := by rw [hbuffer, List.head?_cons]
      rw [hgiven rfl]
      exact ⟨_, h.settle (some s) (queue_of_offering hphase) hbuffer rfl
        (hsettled ticket (some s) (.served hphase hhead hheld))⟩
  | @keep ticket hphase hkeep =>
      have hgone := hkeep.resolve_left (h.offering ticket hphase)
      rw [hgiven (List.append_nil _).symm]
      exact ⟨_, h.settle none (queue_of_offering hphase) rfl rfl
        (hsettled ticket none (.late hphase hgone))⟩

end Underway

/-! ## The whole serving -/

variable {deeds : Nat → List (Deed σ)} {n : Nat}

/-- After each number of steps the sessions given so far are told, and what is left of the queue. -/
theorem exists_underway (hbusy : ∀ k < n, (Service.after p deeds k).pool.phase ≠ .resting) :
    ∃ taken, Underway p (SettledBy p deeds n) (Service.after p deeds n) taken := by
  induction n with
  | zero => exact ⟨[], .start p deeds⟩
  | succ n ih =>
      obtain ⟨taken, h⟩ := ih fun k hk => hbusy k (Nat.lt_succ_of_lt hk)
      have hbefore : (Service.before p deeds n).phase ≠ .resting := by
        rw [Service.before, (undisturbed_meanwhile ..).2.2]
        exact hbusy n (Nat.lt_succ_self n)
      have hlater (ticket : Nat) (got : Option σ) (hgot : SettledBy p deeds n ticket got) :
          SettledBy p deeds (n + 1) ticket got := by
        obtain ⟨k, hk, hsettles⟩ := hgot
        exact ⟨k, Nat.lt_succ_of_lt hk, hsettles⟩
      exact ((h.meanwhile (deeds n)).mono hlater).act hbefore
        fun ticket got hsettles => ⟨n, Nat.lt_succ_self n, hsettles⟩

theorem Underway.getElem?_buffer {settled : Nat → Option σ → Prop} {v : Service σ}
    {taken : List (Nat × Option σ)} (h : Underway p settled v taken) {k : Nat} {l : Nat × σ}
    (hl : v.given[k]? = some l) : p.buffer[k]? = some l.2 := by
  have hk : k < (v.given.map (·.2)).length := by
    rw [List.length_map]
    exact (List.getElem?_eq_some_iff.mp hl).1
  rw [h.sessions, List.getElem?_append_left hk, List.getElem?_map, hl]
  rfl

/-- What is left of the buffer is what has not been given. -/
theorem Underway.buffer_eq_drop {settled : Nat → Option σ → Prop} {v : Service σ}
    {taken : List (Nat × Option σ)} (h : Underway p settled v taken) :
    v.pool.buffer = p.buffer.drop v.given.length := by
  rw [h.sessions, ← List.length_map (·.2), List.drop_left]

/-- Whatever others do meanwhile, a pool that serves its queue comes to rest.  It has then handed the
head of its buffer, session after session, to the tickets that were held when their turn came, and
has nothing left to hand out or nobody left to hand it to. -/
theorem exists_servesQueue (p : Pool σ) (deeds : Nat → List (Deed σ)) :
    ∃ n taken, ServesQueue p deeds n taken := by
  -- the serving ends when the pool rests for the first time; after that it reads its mail again
  have hrest := Service.exists_resting p deeds
  have hends := Nat.find_spec hrest
  have hbusy (k : Nat) (hk : k < Nat.find hrest) := Nat.find_min hrest hk
  generalize Nat.find hrest = n at hends hbusy
  obtain ⟨taken, h⟩ := exists_underway hbusy
  refine ⟨n, taken, ⟨hbusy, hends, ?_, ?_, h.given, ?_, h.buffer_eq_drop, h.settled, ?_⟩⟩
  · exact Nat.le_trans (Nat.le_add_left ..) (Service.work_after hbusy)
  · rw [h.tickets, queue_of_resting hends]
  · exact fun k l hl => h.getElem?_buffer hl
  · exact h.resting hends

-- The holder of ticket 1 gives up just after it was found waiting; the session keeps its place and
-- goes to the next ticket that is held.
example : (Service.after { buffer := ["a", "b"], waiting := [1, 2, 3], held := [1, 3] }
    (fun k => if k = 1 then [.release 1] else []) 6).given = [(3, "a")] := rfl

end MapScout.Pool
