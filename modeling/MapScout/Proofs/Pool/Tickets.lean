import MapScout.Proofs.Keyed
import MapScout.Proofs.Pool.Order

/-!
# The tickets of a pool

Whoever asks a pool for a session has a ticket that is either still held or has a session lying
ready for it, and never both.  So a session that has been handed over can be collected by one
holder only.
-/

namespace MapScout.Pool

variable {σ : Type} {p p' : Pool σ} {asking : Nat → Prop} {ticket : Nat}

/-- The tickets whose holders have not got an answer yet. -/
def tickets (p : Pool σ) : List Nat := p.held ++ p.handed.map (·.1)

/-- Those who ask have one ticket each, and nobody else has one. -/
structure Serves (p : Pool σ) (asking : Nat → Prop) : Prop where
  nodup : p.tickets.Nodup
  mem_iff : ∀ ticket, ticket ∈ p.tickets ↔ asking ticket

namespace Serves

theorem congr {asking' : Nat → Prop} (h : p.Serves asking)
    (hasking : ∀ ticket, asking ticket ↔ asking' ticket) : p.Serves asking' :=
  ⟨h.nodup, fun ticket => (h.mem_iff ticket).trans (hasking ticket)⟩

theorem of_tickets (h : p.Serves asking) (htickets : p'.tickets = p.tickets) :
    p'.Serves asking := by
  constructor
  · rw [htickets]
    exact h.nodup
  · rw [htickets]
    exact h.mem_iff

theorem of_perm (h : p.Serves asking) (htickets : p'.tickets.Perm p.tickets) :
    p'.Serves asking :=
  ⟨htickets.nodup_iff.mpr h.nodup, fun ticket => htickets.mem_iff.trans (h.mem_iff ticket)⟩

theorem nodup_handed (h : p.Serves asking) : (p.handed.map (·.1)).Nodup :=
  (List.nodup_append.mp h.nodup).2.1

theorem not_held (h : p.Serves asking) (hticket : ticket ∈ p.handed.map (·.1)) :
    ticket ∉ p.held := by
  intro hheld
  exact (List.nodup_append.mp h.nodup).2.2 ticket hheld ticket hticket rfl

/-- A holder waits for a session of its own as long as none lies ready for it. -/
theorem mem_held (h : p.Serves asking) :
    ticket ∈ p.held ↔ asking ticket ∧ ticket ∉ p.handed.map (·.1) := by
  rw [← h.mem_iff, tickets, List.mem_append]
  constructor
  · intro hheld
    exact ⟨Or.inl hheld, fun hhanded => h.not_held hhanded hheld⟩
  · rintro ⟨hheld | hhanded, hnot⟩
    · exact hheld
    · exact absurd hhanded hnot

theorem acts (h : p.Serves asking) (hacts : p.Acts p') : p'.Serves asking := by
  cases hacts with
  | @hand ticket s rest hphase hbuffer hheld =>
      apply h.of_perm
      have hperm : p.held.Perm (ticket :: p.held.erase ticket) := List.perm_cons_erase hheld
      rw [tickets, List.map_append, ← List.append_assoc]
      exact List.perm_append_comm.trans (hperm.symm.append_right _)
  | answer => exact h.of_tickets (by simp [tickets])
  | _ => exact h.of_tickets rfl

/-- A ticket that is new makes one more who asks. -/
theorem request (h : p.Serves asking) (hnew : ¬ asking ticket) :
    (p.request ticket).Serves fun i => asking i ∨ i = ticket := by
  have hperm : (p.request ticket).tickets.Perm (ticket :: p.tickets) := by
    rw [tickets, Pool.request, List.append_assoc]
    exact List.perm_middle
  constructor
  · rw [hperm.nodup_iff, List.nodup_cons, h.mem_iff]
    exact ⟨hnew, h.nodup⟩
  · intro i
    rw [hperm.mem_iff, List.mem_cons, h.mem_iff, or_comm]

/-- A ticket that is let go of is nobody's. -/
theorem drop (h : p.Serves asking) (htickets : p.tickets.Perm (ticket :: p'.tickets)) :
    p'.Serves fun i => asking i ∧ i ≠ ticket := by
  obtain ⟨hnot, hnodup⟩ := List.nodup_cons.mp (htickets.nodup_iff.mp h.nodup)
  refine ⟨hnodup, fun i => ?_⟩
  rw [← h.mem_iff, htickets.mem_iff, List.mem_cons]
  constructor
  · intro hi
    refine ⟨Or.inr hi, ?_⟩
    rintro rfl
    exact hnot hi
  · rintro ⟨rfl | hi, hne⟩
    · exact absurd rfl hne
    · exact hi

end Serves

/-! ## Collecting a session -/

theorem lookup_of_collect? {s : σ} (h : p.collect? ticket = some (s, p')) :
    p.handed.lookup ticket = some s ∧ p' = { p with handed := Keyed.others ticket p.handed } := by
  rw [collect?, Option.map_eq_some_iff] at h
  obtain ⟨⟨t, s'⟩, hfind, heq⟩ := h
  obtain ⟨rfl, rfl⟩ := Prod.mk.inj heq
  refine ⟨?_, rfl⟩
  rw [← Keyed.find?_map_snd, hfind]
  rfl

theorem lookup_of_collect?_eq_none (h : p.collect? ticket = none) :
    ticket ∉ p.handed.map (·.1) := by
  rw [collect?, Option.map_eq_none_iff, List.find?_eq_none] at h
  intro hmem
  obtain ⟨entry, hentry, rfl⟩ := List.mem_map.mp hmem
  exact h entry hentry (by simp)

/-- Who leaves gives the ticket up, and gets what was handed over. -/
theorem leave_eq (p : Pool σ) (ticket : Nat) :
    p.leave ticket = (p.handed.lookup ticket, p.giveUp ticket) := by
  rw [Pool.leave]
  cases hcollect : (p.release ticket).collect? ticket with
  | none =>
      have hnot : ticket ∉ p.handed.map (·.1) :=
        lookup_of_collect?_eq_none (p := p.release ticket) hcollect
      have hothers : p.handed.filter (·.1 != ticket) = p.handed := Keyed.others_eq_self hnot
      rw [giveUp, hothers, Keyed.lookup_eq_none hnot]
      rfl
  | some result =>
      obtain ⟨s, p'⟩ := result
      obtain ⟨hlookup, rfl⟩ := lookup_of_collect? hcollect
      rw [show p.handed.lookup ticket = some s from hlookup]
      rfl

/-- What a ticket collects has been handed to it. -/
theorem Serves.collect (h : p.Serves asking) {s : σ} (hcollect : p.collect? ticket = some (s, p')) :
    p'.Serves (fun i => asking i ∧ i ≠ ticket) ∧
      p.handed.Perm ((ticket, s) :: p'.handed) ∧ p' = { p with handed := p'.handed } := by
  obtain ⟨hlookup, rfl⟩ := lookup_of_collect? hcollect
  have hperm := Keyed.perm_others h.nodup_handed hlookup
  refine ⟨h.drop ?_, hperm, rfl⟩
  exact ((hperm.map (·.1)).append_left p.held).trans List.perm_middle

/-- Who leaves has what was handed over by then, or leaves empty-handed. -/
theorem Serves.leave (h : p.Serves asking) (hasking : asking ticket) :
    (p.leave ticket).2.Serves (fun i => asking i ∧ i ≠ ticket) ∧
      p.handed.Perm ((p.leave ticket).1.toList.map (ticket, ·) ++ (p.leave ticket).2.handed) ∧
      (p.leave ticket).2 =
        { p.release ticket with handed := (p.leave ticket).2.handed } := by
  rw [leave_eq, giveUp]
  by_cases hhanded : ticket ∈ p.handed.map (·.1)
  · obtain ⟨⟨ticket, s⟩, hmem, rfl⟩ := List.mem_map.mp hhanded
    have hlookup := Keyed.lookup_of_mem h.nodup_handed hmem
    have hperm := Keyed.perm_others h.nodup_handed hlookup
    have hheld := List.erase_of_not_mem (h.not_held hhanded)
    rw [hlookup]
    refine ⟨h.drop ?_, hperm, rfl⟩
    rw [tickets, tickets, release, hheld]
    exact ((hperm.map (·.1)).append_left p.held).trans List.perm_middle
  · have hheld : ticket ∈ p.held := h.mem_held.mpr ⟨hasking, hhanded⟩
    rw [Keyed.lookup_eq_none hhanded]
    have hothers : p.handed.filter (·.1 != ticket) = p.handed := Keyed.others_eq_self hhanded
    rw [hothers]
    exact ⟨h.drop ((List.perm_cons_erase hheld).append_right _), List.Perm.refl _, rfl⟩

end MapScout.Pool
