import MapScout.Pool

/-!
# The order of a session pool

Sessions leave a pool in the order in which they were sent, and the tickets that are still held are
served in the order in which they were handed in.  The pool keeps no record of either, so that both
records stand beside it here.
-/

namespace MapScout.Pool

variable {σ : Type} {p p' : Pool σ}

/-- The pool has answered a question.  To count the tickets that wait it drops those that were given
up. -/
def answer (counting : Bool) (p : Pool σ) : Pool σ :=
  { if counting then p.prune else p with phase := .serving }

/-- What one step can make of a pool. -/
inductive Acts (p : Pool σ) : Pool σ → Prop where
  | idle : Acts p p
  | readSession {s : σ} {rest : List σ} (hphase : p.phase = .resting) (h : p.arrivals = s :: rest) :
      Acts p { p with arrivals := rest, buffer := p.buffer ++ [s], phase := .serving }
  | readRequest {ticket : Nat} {rest : List Nat} (hphase : p.phase = .resting)
      (h : p.requests = ticket :: rest) :
      Acts p { p with
        requests := rest
        waiting := p.waiting.filter (p.held.contains ·) ++ [ticket]
        phase := .serving }
  | answer (hphase : p.phase = .resting) (counting : Bool) : Acts p (p.answer counting)
  | pick {ticket : Nat} {rest : List Nat} (hphase : p.phase = .serving) (hbuffer : p.buffer ≠ [])
      (h : p.waiting = ticket :: rest) (hheld : ticket ∈ p.held) :
      Acts p { p with waiting := rest, phase := .offering ticket }
  | skip {ticket : Nat} {rest : List Nat} (hphase : p.phase = .serving)
      (h : p.waiting = ticket :: rest) (hheld : ticket ∉ p.held) :
      Acts p { p with waiting := rest, phase := .serving }
  | rest (hphase : p.phase = .serving) (h : p.buffer = [] ∨ p.waiting = []) :
      Acts p { p with phase := .resting }
  | hand {ticket : Nat} {s : σ} {rest : List σ} (hphase : p.phase = .offering ticket)
      (h : p.buffer = s :: rest) (hheld : ticket ∈ p.held) :
      Acts p { p with
        buffer := rest
        held := p.held.erase ticket
        handed := p.handed ++ [(ticket, s)]
        phase := .serving }
  | keep {ticket : Nat} (hphase : p.phase = .offering ticket)
      (h : p.buffer = [] ∨ ticket ∉ p.held) : Acts p { p with phase := .serving }

theorem readRequest_acts (hphase : p.phase = .resting) : p.Acts p.readRequest := by
  rw [readRequest]
  split
  · exact .idle
  · rename_i ticket rest h
    exact .readRequest hphase h

/-- A step of the actor is one of its acts. -/
theorem act_acts : p.Acts p.act := by
  rw [act]
  split
  · rename_i hphase
    split
    · exact readRequest_acts hphase
    · rw [readSession]
      split
      · exact .idle
      · rename_i s rest h
        exact .readSession hphase h
  · rename_i hphase
    rw [pickTicket]
    split
    · rename_i s buffer ticket rest hbuffer h
      split
      · rename_i hheld
        exact .pick hphase (by simp [hbuffer]) h (by simpa using hheld)
      · rename_i hheld
        exact .skip hphase h (by simpa using hheld)
    · rename_i hnone
      refine .rest hphase ?_
      cases hbuffer : p.buffer with
      | nil => exact Or.inl rfl
      | cons s buffer =>
          cases hwaiting : p.waiting with
          | nil => exact Or.inr rfl
          | cons ticket rest => exact (hnone s buffer ticket rest hbuffer hwaiting).elim
  · rename_i ticket hphase
    rw [offer]
    split
    · rename_i hbuffer
      exact .keep hphase (Or.inl hbuffer)
    · rename_i s rest hbuffer
      split
      · rename_i hheld
        exact .hand hphase hbuffer (by simpa using hheld)
      · rename_i hheld
        exact .keep hphase (Or.inr (by simpa using hheld))

theorem handed_readRequest : p.readRequest.handed = p.handed := by
  rw [readRequest]
  split <;> rfl

@[simp]
theorem isOpen_answer (counting : Bool) : (p.answer counting).isOpen = p.isOpen := by
  cases counting <;> rfl

@[simp]
theorem isReading_answer (counting : Bool) : (p.answer counting).isReading = p.isReading := by
  cases counting <;> rfl

@[simp]
theorem held_answer (counting : Bool) : (p.answer counting).held = p.held := by
  cases counting <;> rfl

@[simp]
theorem handed_answer (counting : Bool) : (p.answer counting).handed = p.handed := by
  cases counting <;> rfl

theorem Acts.isOpen (h : p.Acts p') : p'.isOpen = p.isOpen := by
  cases h <;> simp

theorem Acts.isReading (h : p.Acts p') : p'.isReading = p.isReading := by
  cases h <;> simp

/-- What has been handed over stays where it is. -/
theorem Acts.exists_handed (h : p.Acts p') : ∃ new, p'.handed = p.handed ++ new := by
  cases h with
  | hand => exact ⟨_, rfl⟩
  | _ => exact ⟨[], by simp⟩

/-- The tickets that the pool has before it, the oldest first.  Those that were given up may still
be among them. -/
def pending (p : Pool σ) : List Nat :=
  (match p.phase with
    | .offering ticket => [ticket]
    | _ => []) ++ (p.waiting ++ p.requests)

theorem pending_of_resting (hphase : p.phase = .resting) : p.pending = p.waiting ++ p.requests := by
  simp [pending, hphase]

theorem pending_of_serving (hphase : p.phase = .serving) : p.pending = p.waiting ++ p.requests := by
  simp [pending, hphase]

theorem pending_of_offering {ticket : Nat} (hphase : p.phase = .offering ticket) :
    p.pending = ticket :: (p.waiting ++ p.requests) := by
  simp [pending, hphase]

/-- Of some tickets, only such as are not held any more have been dropped. -/
structure Prunes (held before after : List Nat) : Prop where
  sublist : after.Sublist before
  kept : ∀ ticket ∈ held, ticket ∈ before → ticket ∈ after

namespace Prunes

variable {held before after : List Nat}

theorem refl (held tickets : List Nat) : Prunes held tickets tickets :=
  ⟨List.Sublist.refl _, fun _ _ hmem => hmem⟩

theorem filter (held tickets : List Nat) :
    Prunes held tickets (tickets.filter (held.contains ·)) := by
  refine ⟨List.filter_sublist, fun ticket hticket hmem => ?_⟩
  apply List.mem_filter.mpr
  exact ⟨hmem, by simpa using hticket⟩

theorem append_right (h : Prunes held before after) (tickets : List Nat) :
    Prunes held (before ++ tickets) (after ++ tickets) := by
  refine ⟨List.Sublist.append h.sublist (List.Sublist.refl _), fun ticket hticket hmem => ?_⟩
  rcases List.mem_append.mp hmem with hmem | hmem
  · exact List.mem_append_left _ (h.kept ticket hticket hmem)
  · exact List.mem_append_right _ hmem

theorem tail {ticket : Nat} (hgone : ticket ∉ held) (rest : List Nat) :
    Prunes held (ticket :: rest) rest := by
  refine ⟨List.sublist_cons_self _ _, fun t ht hmem => ?_⟩
  rcases List.mem_cons.mp hmem with rfl | hmem
  · exact absurd ht hgone
  · exact hmem

end Prunes

/-- The sessions and the tickets of a pool are in order: `entered` are the sessions that were sent
to it, `left` those that were handed over, each with its ticket, and `asked` the tickets that were
handed in. -/
structure InOrder (p : Pool σ) (entered : List σ) (left : List (Nat × σ)) (asked : List Nat) :
    Prop where
  sessions : entered = left.map (·.2) ++ (p.buffer ++ p.arrivals)
  tickets : (left.map (·.1) ++ p.pending).Sublist asked
  asked_nodup : asked.Nodup
  held_pending : ∀ ticket ∈ p.held, ticket ∈ p.pending
  held_nodup : p.held.Nodup
  offering : ∀ ticket, p.phase = .offering ticket → p.buffer ≠ []
  resting : p.phase = .resting → p.buffer = [] ∨ ∀ ticket ∈ p.waiting, ticket ∉ p.held

variable {entered : List σ} {left : List (Nat × σ)} {asked : List Nat}

/-- The pool has gone on with its tickets without handing anything over. -/
theorem InOrder.pass (h : p.InOrder entered left asked) (hheld : p'.held = p.held)
    (hsessions : p'.buffer ++ p'.arrivals = p.buffer ++ p.arrivals)
    (hpending : Prunes p.held p.pending p'.pending)
    (hoffering : ∀ ticket, p'.phase = .offering ticket → p'.buffer ≠ [])
    (hresting : p'.phase = .resting → p'.buffer = [] ∨ p'.waiting = []) :
    p'.InOrder entered left asked where
  sessions := by
    rw [hsessions]
    exact h.sessions
  tickets := (List.Sublist.append (List.Sublist.refl _) hpending.sublist).trans h.tickets
  asked_nodup := h.asked_nodup
  held_pending ticket hticket := by
    rw [hheld] at hticket
    exact hpending.kept ticket hticket (h.held_pending ticket hticket)
  held_nodup := by
    rw [hheld]
    exact h.held_nodup
  offering := hoffering
  resting hphase := by
    apply (hresting hphase).imp_right
    intro hwaiting ticket hticket
    rw [hwaiting] at hticket
    cases hticket

/-- No step disturbs the order.  What a step hands over, it hands over from the head of the queue
to a ticket that is held. -/
theorem InOrder.acts (h : p.InOrder entered left asked) (hacts : p.Acts p') :
    ∃ new, p'.handed = p.handed ++ new ∧ p'.InOrder entered (left ++ new) asked := by
  have hpass (hhanded : p'.handed = p.handed) (h' : p'.InOrder entered left asked) :
      ∃ new, p'.handed = p.handed ++ new ∧ p'.InOrder entered (left ++ new) asked :=
    ⟨[], by rw [hhanded, List.append_nil], by rwa [List.append_nil]⟩
  cases hacts with
  | idle => exact hpass rfl h
  | readSession hphase harrivals =>
      refine hpass rfl (h.pass rfl ?_ ?_ (by rintro _ ⟨⟩) (by rintro ⟨⟩))
      · rw [harrivals, List.append_assoc, List.singleton_append]
      · rw [pending_of_resting hphase]
        exact .refl ..
  | @readRequest ticket rest hphase hrequests =>
      refine hpass rfl (h.pass rfl rfl ?_ (by rintro _ ⟨⟩) (by rintro ⟨⟩))
      have hpruned := (Prunes.filter p.held p.waiting).append_right (ticket :: rest)
      rw [pending_of_resting hphase, pending_of_serving rfl, hrequests, List.append_assoc]
      exact hpruned
  | answer hphase counting =>
      have hpruned : Prunes p.held (p.waiting ++ p.requests) (p.answer counting).pending := by
        cases counting with
        | false => exact .refl ..
        | true => exact (Prunes.filter ..).append_right _
      rw [← pending_of_resting hphase] at hpruned
      refine hpass (handed_answer counting)
        (h.pass (held_answer counting) ?_ hpruned (by rintro _ ⟨⟩) (by rintro ⟨⟩))
      cases counting <;> rfl
  | pick hphase hbuffer hwaiting hheld =>
      refine hpass rfl (h.pass rfl rfl ?_ (fun _ _ => hbuffer) (by rintro ⟨⟩))
      rw [pending_of_serving hphase, pending_of_offering rfl, hwaiting]
      exact .refl ..
  | skip hphase hwaiting hheld =>
      refine hpass rfl (h.pass rfl rfl ?_ (by rintro _ ⟨⟩) (by rintro ⟨⟩))
      rw [pending_of_serving hphase, pending_of_serving rfl, hwaiting]
      exact .tail hheld _
  | rest hphase hnone =>
      refine hpass rfl (h.pass rfl rfl ?_ (by rintro _ ⟨⟩) fun _ => hnone)
      rw [pending_of_serving hphase, pending_of_resting rfl]
      exact .refl ..
  | @hand ticket s rest hphase hbuffer hheld =>
      have hpending := pending_of_offering hphase
      refine ⟨[(ticket, s)], rfl, ?_, ?_, h.asked_nodup, ?_, h.held_nodup.erase ticket,
        by rintro _ ⟨⟩, by rintro ⟨⟩⟩
      · rw [h.sessions, hbuffer]
        simp
      · have htickets := h.tickets
        rw [hpending] at htickets
        simpa [pending] using htickets
      · intro t ht
        obtain ⟨hne, ht⟩ := h.held_nodup.mem_erase_iff.mp ht
        have hmem := h.held_pending t ht
        rw [hpending] at hmem
        exact (List.mem_cons.mp hmem).resolve_left hne
  | keep hphase hkeep =>
      have hgone := hkeep.resolve_left (h.offering _ hphase)
      refine hpass rfl (h.pass rfl rfl ?_ (by rintro _ ⟨⟩) (by rintro ⟨⟩))
      rw [pending_of_offering hphase, pending_of_serving rfl]
      exact .tail hgone _

/-! ## What happens to a pool from outside -/

/-- A session that comes in is the last in the buffer. -/
theorem InOrder.send (h : p.InOrder entered left asked) (hopen : p.isOpen = true) (s : σ) :
    (p.send s).InOrder (entered ++ [s]) left asked := by
  rw [Pool.send, if_pos hopen]
  refine ⟨?_, h.tickets, h.asked_nodup, h.held_pending, h.held_nodup, h.offering, h.resting⟩
  rw [h.sessions]
  simp

theorem pending_request (p : Pool σ) (ticket : Nat) :
    (p.request ticket).pending = p.pending ++ [ticket] := by
  simp [pending, request]

/-- A request that comes in is the last in the queue. -/
theorem InOrder.request (h : p.InOrder entered left asked) {ticket : Nat} (hnew : ticket ∉ asked) :
    (p.request ticket).InOrder entered left (asked ++ [ticket]) := by
  have hasked (t : Nat) (ht : t ∈ p.pending) : t ∈ asked :=
    h.tickets.subset (List.mem_append_right _ ht)
  have hfresh (t : Nat) (ht : t ∈ p.pending) : t ≠ ticket := by
    rintro rfl
    exact hnew (hasked t ht)
  refine ⟨h.sessions, ?_, ?_, ?_, ?_, h.offering, ?_⟩
  · rw [pending_request, ← List.append_assoc]
    exact List.Sublist.append h.tickets (List.Sublist.refl _)
  · refine List.nodup_append.mpr ⟨h.asked_nodup, by simp, ?_⟩
    intro t ht t' ht'
    rw [List.mem_singleton.mp ht']
    rintro rfl
    exact hnew ht
  · intro t ht
    rw [pending_request]
    rcases List.mem_append.mp ht with ht | ht
    · exact List.mem_append_left _ (h.held_pending t ht)
    · exact List.mem_append_right _ ht
  · refine List.nodup_append.mpr ⟨h.held_nodup, by simp, ?_⟩
    intro t ht t' ht'
    rw [List.mem_singleton.mp ht']
    exact hfresh t (h.held_pending t ht)
  · intro hphase
    apply (h.resting hphase).imp_right
    intro hgone t ht hheld
    rcases List.mem_append.mp hheld with hheld | hheld
    · exact hgone t ht hheld
    · refine hfresh t ?_ (List.mem_singleton.mp hheld)
      rw [pending]
      exact List.mem_append_right _ (List.mem_append_left _ ht)

/-- Giving up a ticket leaves the order as it is. -/
theorem InOrder.release (h : p.InOrder entered left asked) (ticket : Nat) :
    (p.release ticket).InOrder entered left asked where
  sessions := h.sessions
  tickets := h.tickets
  asked_nodup := h.asked_nodup
  held_pending t ht := h.held_pending t (List.mem_of_mem_erase ht)
  held_nodup := h.held_nodup.erase ticket
  offering := h.offering
  resting hphase := (h.resting hphase).imp_right fun hgone t ht hheld =>
    hgone t ht (List.mem_of_mem_erase hheld)

/-- It does not matter for the order what has become of the sessions that were handed over. -/
theorem InOrder.collect (h : p.InOrder entered left asked) (handed : List (Nat × σ)) :
    InOrder { p with handed } entered left asked :=
  ⟨h.sessions, h.tickets, h.asked_nodup, h.held_pending, h.held_nodup, h.offering, h.resting⟩

/-! ## What the order means -/

/-- Of two tickets of a list without repetition only one comes before the other. -/
theorem not_sublist_of_nodup {tickets : List Nat} (h : tickets.Nodup) {a b : Nat}
    (hab : [a, b].Sublist tickets) : ¬ [b, a].Sublist tickets := by
  induction tickets with
  | nil => cases hab
  | cons first rest ih =>
      obtain ⟨hfirst, hrest⟩ := List.nodup_cons.mp h
      intro hba
      cases hab with
      | cons _ hab =>
          cases hba with
          | cons _ hba => exact ih hrest hab hba
          | cons_cons _ _ => exact hfirst (hab.subset (by simp))
      | cons_cons _ hab =>
          cases hba with
          | cons _ hba => exact hfirst (hba.subset (by simp))
          | cons_cons _ _ => exact hfirst (hab.subset (by simp))

/-- No ticket is served before one that was handed in before it and is still held. -/
theorem InOrder.not_held (h : p.InOrder entered left asked) {earlier later : Nat}
    (horder : [earlier, later].Sublist asked) (hserved : later ∈ left.map (·.1)) :
    earlier ∉ p.held := by
  intro hheld
  refine not_sublist_of_nodup h.asked_nodup horder (List.Sublist.trans ?_ h.tickets)
  exact List.Sublist.append (List.singleton_sublist.mpr hserved)
    (List.singleton_sublist.mpr (h.held_pending earlier hheld))

/-- A pool that has nothing to do has no session for anybody who waits. -/
theorem InOrder.rests (h : p.InOrder entered left asked) (hidle : p.isBusy = false) :
    p.buffer = [] ∨ p.held = [] := by
  simp only [isBusy, Bool.or_eq_false_iff, bne_eq_false_iff_eq, Bool.not_eq_false',
    List.isEmpty_iff] at hidle
  obtain ⟨⟨hphase, -⟩, hrequests⟩ := hidle
  refine (h.resting hphase).imp_right fun hgone => List.eq_nil_iff_forall_not_mem.mpr ?_
  intro ticket hheld
  have hmem := h.held_pending ticket hheld
  simp only [pending, hphase, hrequests, List.nil_append, List.append_nil] at hmem
  exact hgone ticket hmem hheld

end MapScout.Pool
