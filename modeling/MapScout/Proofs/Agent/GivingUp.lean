import Mathlib.Algebra.GroupWithZero.Nat
import Mathlib.Data.List.Forall2
import MapScout.Agent.Visit
import MapScout.Proofs.Agent.Attempts

/-!
# Giving up

An agent gives up right after the last of as many failures in a row as it is to put up with, and for
no other reason.  Connections that break do not count.
-/

namespace MapScout

namespace Backoff

variable {b : Backoff} {s : State} {os : List Outcome} {o : Outcome} {vs : List Verdict} {k : Nat}

/-- What becomes of an agent that is to give up after `n` failures in a row, zero for never, if its
attempts end so and these are the verdicts on them. -/
structure GivesUpDuly (n : Nat) (os : List Outcome) (vs : List Verdict) : Prop where
  /-- It gives up after an attempt exactly if that is the last of `n` that failed one after the other. -/
  exhausted_iff : ∀ k < vs.length, vs[k]? = some .exhausted ↔
    0 < n ∧ List.replicate n .failed <:+ os.take (k + 1)
  /-- It never gives up when a connection breaks. -/
  ne_exhausted : ∀ k : Nat, os[k]? = some .dropped → vs[k]? ≠ some .exhausted
  unlimited : n = 0 → .exhausted ∉ vs
  /-- After giving up it makes no attempt, -/
  ends : ∀ k : Nat, vs[k]? = some .exhausted → vs.length = k + 1
  length_le : vs.length ≤ os.length
  /-- and there is nothing else that keeps it from the next one but a wait that cannot be doubled. -/
  goes_on : vs.length < os.length →
    vs.getLast? = some .exhausted ∨ ∃ wait, vs.getLast? = some (.overflow wait)

/-! ## One attempt after the other -/

theorem length_verdicts_le (b : Backoff) (s : State) (os : List Outcome) :
    (b.verdicts s os).length ≤ os.length := by
  induction os generalizing s with
  | nil => exact Nat.le_refl 0
  | cons o os ih =>
      rw [verdicts]
      split
      · exact Nat.succ_le_succ (ih _)
      · exact Nat.succ_le_succ (Nat.zero_le _)
      · exact Nat.succ_le_succ (Nat.zero_le _)

/-- The last verdict on a run that stops short is not to go on. -/
theorem getLast?_verdicts (h : (b.verdicts s os).length < os.length) :
    (b.verdicts s os).getLast? = some .exhausted ∨
      ∃ wait, (b.verdicts s os).getLast? = some (.overflow wait) := by
  induction os generalizing s with
  | nil => cases h
  | cons o os ih =>
      rw [verdicts] at h ⊢
      cases hafter : b.after s o with
      | retry wait t =>
          rw [hafter] at h
          rcases ih (Nat.lt_of_succ_lt_succ h) with hlast | ⟨wait, hlast⟩
          · exact .inl (by simp [List.getLast?_cons, hlast])
          · exact .inr ⟨wait, by simp [List.getLast?_cons, hlast]⟩
      | exhausted => exact .inl rfl
      | overflow wait => exact .inr ⟨wait, rfl⟩

/-- An agent gives up after attempt `k` exactly if the last attempts, as many as it puts up with,
have all failed. -/
theorem getElem?_verdicts_eq_exhausted_iff (hk : k < (b.verdicts b.start os).length) :
    (b.verdicts b.start os)[k]? = some .exhausted ↔
      0 < b.maxAttempts ∧ List.replicate b.maxAttempts .failed <:+ os.take (k + 1) := by
  rw [start_eq] at hk ⊢
  obtain ⟨-, hverdict, -⟩ := getElem?_verdicts.mp (List.getElem?_eq_getElem hk)
  rw [List.getElem?_eq_getElem hk, Option.some_inj, hverdict, List.nil_append,
    verdict_eq_exhausted_iff, replicate_suffix_iff]

/-- Nobody gives up because a connection broke. -/
theorem ne_exhausted_of_dropped (hk : os[k]? = some .dropped) :
    (b.verdicts b.start os)[k]? ≠ some .exhausted := by
  intro hexhausted
  have hlt := (List.getElem?_eq_some_iff.mp hexhausted).1
  obtain ⟨hpos, hfailed⟩ := (getElem?_verdicts_eq_exhausted_iff hlt).mp hexhausted
  have htake : os.take (k + 1) = os.take k ++ [.dropped] := by
    rw [List.take_add_one, hk, Option.toList_some]
  rw [htake, replicate_suffix_iff, failures, tally_dropped] at hfailed
  omega

/-- No verdict follows one that is not to go on. -/
theorem length_of_exhausted (hk : (b.verdicts b.start os)[k]? = some .exhausted) :
    (b.verdicts b.start os).length = k + 1 := by
  have hlt := (List.getElem?_eq_some_iff.mp hk).1
  refine Nat.le_antisymm (Nat.le_of_not_lt fun hlonger => ?_) hlt
  rw [start_eq] at hk hlonger
  obtain ⟨-, -, hretry⟩ := getElem?_verdicts.mp (List.getElem?_eq_getElem hlonger)
  have hthis := hretry k (Nat.lt_succ_self k)
  rw [← (getElem?_verdicts.mp hk).2.1] at hthis
  cases hthis

theorem givesUpDuly_verdicts (b : Backoff) (os : List Outcome) :
    GivesUpDuly b.maxAttempts os (b.verdicts b.start os) where
  exhausted_iff k hk := getElem?_verdicts_eq_exhausted_iff hk
  ne_exhausted k hk := ne_exhausted_of_dropped hk
  unlimited hzero hmem := by
    obtain ⟨k, hk⟩ := List.mem_iff_getElem?.mp hmem
    have hlt := (List.getElem?_eq_some_iff.mp hk).1
    have hpos := ((getElem?_verdicts_eq_exhausted_iff hlt).mp hk).1
    exact absurd hzero (Nat.ne_of_gt hpos)
  ends k hk := length_of_exhausted hk
  length_le := length_verdicts_le b b.start os
  goes_on := getLast?_verdicts

/-! ## When it happens -/

def spent (vs : List Verdict) : Nat := (vs.map fun v => v.wait?.elim 0 Span.nanos).sum

def Verdict.ending? (t : Span) : Verdict → Option Ending
  | .retry .. => none
  | .exhausted => some (.exhausted t)
  | .overflow _ => some (.overflow t)

/-- An agent that no broker receives ends when all its waits are over. -/
theorem runOffline_eq (b : Backoff) (s : State) (attempts : Nat) (now : Span) :
    b.runOffline none attempts s now =
      (b.verdicts s (List.replicate attempts .failed)).getLast?.bind fun v =>
        v.ending? ⟨now.nanos + spent (b.verdicts s (List.replicate attempts .failed))⟩ := by
  induction attempts generalizing s now with
  | zero => rfl
  | succ attempts ih =>
      rw [runOffline, List.replicate_succ, verdicts]
      dsimp only [Option.bind_none]
      cases hafter : b.after s .failed with
      | exhausted => rfl
      | overflow wait => rfl
      | retry wait t =>
          dsimp only
          have hspent (vs : List Verdict) :
              now.nanos + spent (.retry wait t :: vs) = now.nanos + wait.nanos + spent vs := by
            rw [spent, List.map_cons, List.sum_cons]
            exact (Nat.add_assoc _ _ _).symm
          rw [ih, hspent, List.getLast?_cons]
          cases (b.verdicts t (List.replicate attempts .failed)).getLast? <;> rfl

/-- Nobody stops an agent that is not told to stop. -/
theorem runOffline_ne_stopped (b : Backoff) (s : State) (attempts : Nat) (now t : Span) :
    b.runOffline none attempts s now ≠ some (.stopped t) := by
  rw [runOffline_eq]
  intro hstopped
  obtain ⟨v, -, hending⟩ := Option.bind_eq_some_iff.mp hstopped
  cases v <;> cases hending

theorem verdict_replicate (b : Backoff) (i : Nat) :
    b.verdict (List.replicate (i + 1) .failed) =
      if 0 < b.maxAttempts ∧ b.maxAttempts ≤ i + 1 then .exhausted
      else if b.HasNext i then .retry (b.wait i) (b.standing (List.replicate (i + 1) .failed))
      else .overflow (b.wait i) := by
  rw [verdict_eq (tally_replicate 1 (i + 1)), failures, tally_replicate]

/-- A failure after which an agent goes on is not the last that it puts up with. -/
theorem isRetry_verdict_replicate {i : Nat}
    (h : (b.verdict (List.replicate (i + 1) .failed)).isRetry = true) :
    ¬ (0 < b.maxAttempts ∧ b.maxAttempts ≤ i + 1) ∧ b.HasNext i := by
  rw [verdict_replicate] at h
  split at h
  · cases h
  · split at h
    · exact ⟨‹_›, ‹_›⟩
    · cases h

/-- An agent that fails again and again waits once after each failure but the last. -/
theorem verdicts_replicate {i m attempts : Nat} (hmax : b.maxAttempts = i + m + 1)
    (hnext : ∀ j, i ≤ j → j < i + m → b.HasNext j) (hattempts : m < attempts) :
    b.verdicts (b.standing (List.replicate i .failed)) (List.replicate attempts .failed) =
      (List.range' i m).map (fun j =>
        .retry (b.wait j) (b.standing (List.replicate (j + 1) .failed))) ++ [.exhausted] := by
  obtain ⟨attempts, rfl⟩ := Nat.exists_eq_succ_of_ne_zero (Nat.ne_of_gt (Nat.zero_lt_of_lt hattempts))
  induction m generalizing i attempts with
  | zero =>
      have hexhausted : b.verdict (List.replicate (i + 1) .failed) = .exhausted := by
        rw [verdict_replicate, if_pos ⟨by omega, by omega⟩]
      rw [List.replicate_succ, verdicts_cons, ← List.replicate_succ', hexhausted]
      rfl
  | succ m ih =>
      have hretry : b.verdict (List.replicate (i + 1) .failed) =
          .retry (b.wait i) (b.standing (List.replicate (i + 1) .failed)) := by
        rw [verdict_replicate, if_neg (by omega), if_pos (hnext i (Nat.le_refl i) (by omega))]
      obtain ⟨attempts, rfl⟩ := Nat.exists_eq_succ_of_ne_zero (Nat.ne_of_gt (Nat.zero_lt_of_lt
        (Nat.lt_of_succ_lt_succ hattempts)))
      have hrest := ih (by omega) (fun j hj hlt => hnext j (Nat.le_of_succ_le hj) (by omega))
        attempts (Nat.lt_of_succ_lt_succ hattempts)
      rw [List.replicate_succ, verdicts_cons, ← List.replicate_succ', hretry, List.range'_succ,
        List.map_cons, List.cons_append, ← hrest]
      rfl

/-- Until it gives up an agent spends all its waits. -/
theorem spent_retries (b : Backoff) (m : Nat) (state : Nat → State) :
    spent ((List.range m).map (fun j => .retry (b.wait j) (state j)) ++ [.exhausted]) =
      ((List.range m).map fun j => (b.wait j).nanos).sum := by
  rw [spent, List.map_append, List.map_map, List.sum_append]
  rfl

theorem runOffline_of_hasNext {m attempts : Nat} (hmax : b.maxAttempts = m + 1)
    (hattempts : m < attempts) (hnext : ∀ i < m, b.HasNext i) :
    b.runOffline none attempts b.start ⟨0⟩ =
      some (.exhausted ⟨((List.range m).map fun i => (b.wait i).nanos).sum⟩) := by
  have hverdicts := verdicts_replicate (show b.maxAttempts = 0 + m + 1 by omega)
    (fun j _ hj => hnext j (by omega)) hattempts
  rw [List.replicate_zero, ← start_eq, ← List.range_eq_range'] at hverdicts
  rw [runOffline_eq, hverdicts, List.getLast?_concat, spent_retries, Nat.zero_add]
  rfl

/-- An agent that gives up after nothing but failures has gone on after each of those before. -/
theorem hasNext_of_exhausted {m attempts : Nat}
    (h : (b.verdicts b.start (List.replicate attempts .failed))[m]? = some .exhausted) :
    b.maxAttempts = m + 1 ∧ m < attempts ∧ ∀ i < m, b.HasNext i := by
  rw [start_eq] at h
  obtain ⟨hlt, hexhausted, hretry⟩ := getElem?_verdicts.mp h
  rw [List.length_replicate] at hlt
  have htake {j : Nat} (hj : j < attempts) :
      [] ++ (List.replicate attempts Outcome.failed).take (j + 1) = List.replicate (j + 1) .failed := by
    rw [List.nil_append, List.take_replicate, min_eq_left hj]
  have hgone (j : Nat) (hj : j < m) := isRetry_verdict_replicate (htake (hj.trans hlt) ▸ hretry j hj)
  rw [htake hlt, eq_comm, verdict_eq_exhausted_iff, failures, tally_replicate] at hexhausted
  obtain ⟨hpos, hreached⟩ := hexhausted
  have hmax : b.maxAttempts = m + 1 := by
    by_contra hother
    exact (hgone (b.maxAttempts - 1) (by omega)).1 ⟨hpos, by omega⟩
  exact ⟨hmax, hlt, fun i hi => (hgone i hi).2⟩

/-- An agent that no broker receives gives up right when the last of the failures happens, having
waited after each of the others. -/
theorem runOffline_eq_exhausted_iff (b : Backoff) (attempts : Nat) (t : Span) :
    b.runOffline none attempts b.start ⟨0⟩ = some (.exhausted t) ↔
      ∃ m, b.maxAttempts = m + 1 ∧ m < attempts ∧ (∀ i < m, b.HasNext i) ∧
        t = ⟨((List.range m).map fun i => (b.wait i).nanos).sum⟩ := by
  constructor
  · intro hended
    have hending := hended
    rw [runOffline_eq] at hending
    obtain ⟨v, hlast, hending⟩ := Option.bind_eq_some_iff.mp hending
    cases v with
    | exhausted =>
        rw [List.getLast?_eq_getElem?] at hlast
        obtain ⟨hmax, hattempts, hnext⟩ := hasNext_of_exhausted hlast
        rw [runOffline_of_hasNext hmax hattempts hnext, Option.some_inj] at hended
        exact ⟨_, hmax, hattempts, hnext, (Ending.exhausted.inj hended).symm⟩
    | retry wait s => cases hending
    | overflow wait => cases hending
  · rintro ⟨m, hmax, hattempts, hnext, rfl⟩
    exact runOffline_of_hasNext hmax hattempts hnext

end Backoff

namespace Agent

open Backoff (verdicts)

variable {b : Backoff} {s : Backoff.State} {os : List Backoff.Outcome} {o : Backoff.Outcome}
variable {receptions rest : List Reception} {r : Reception} {e : Endpoint}

/-- How the attempt ended that led to this reception; none if the agent was told to stop. -/
def Reception.outcome? (r : Reception) : Option Backoff.Outcome :=
  match r.parting with
  | .refused => some .failed
  | .sentAway => some .dropped
  | .stopped => none

/-- What comes of all visits if the attempts end so and nobody tells the agent to stop. -/
structure Visited (b : Backoff) (os : List Backoff.Outcome) (records : List (Option (List Sent)))
    (outcome : Outcome) : Prop where
  /-- The agent makes as many of these attempts as there are verdicts on them. -/
  records_eq : records.map Option.isNone =
    (os.map fun o => decide (o = .failed)).take (b.verdicts b.start os).length
  /-- It gives up if the verdict says so after the last of them or of those that fail thereafter. -/
  exhausted_iff : outcome = .exhausted ↔
    os.length ≤ (b.verdicts b.start (os ++ List.replicate (b.maxAttempts + 1) .failed)).length ∧
      (b.verdicts b.start (os ++ List.replicate (b.maxAttempts + 1) .failed)).getLast? =
        some .exhausted
  /-- It never ends in good order. -/
  ne_stopped : outcome ≠ .stopped

/-- A visit is one attempt, on whose verdict the rest of the visits depends. -/
theorem visit_cons (h : r.outcome? = some o) (b : Backoff) (s : Backoff.State)
    (rest : List Reception) (e : Endpoint) :
    ∃ (record : Option (List Sent)) (e' : Endpoint), record.isNone = decide (o = .failed) ∧
      visit b s (r :: rest) e =
        match b.after s o with
        | .retry _ t => (record :: (visit b t rest e').1, (visit b t rest e').2)
        | .exhausted => ([record], if rest.isEmpty then .exhausted else .endless, e')
        | .overflow _ => ([record], .endless, e') := by
  obtain ⟨messages, parting⟩ := r
  cases parting with
  | stopped => cases h
  | refused =>
      cases h
      refine ⟨none, e, rfl, ?_⟩
      cases hafter : b.after s .failed <;> simp [visit, answerAll, hafter]
  | sentAway =>
      cases h
      refine ⟨some (answerAll messages e).1, (answerAll messages e).2, rfl, ?_⟩
      cases hafter : b.after s .dropped <;> simp [visit, hafter]

theorem afterLast_ne_stopped (b : Backoff) (s : Backoff.State) : afterLast b s ≠ .stopped := by
  rw [afterLast]
  split <;> nofun

theorem afterLast_eq_exhausted_iff (b : Backoff) (s : Backoff.State) :
    afterLast b s = .exhausted ↔
      (b.verdicts s (List.replicate (b.maxAttempts + 1) .failed)).getLast? = some .exhausted := by
  rw [afterLast, Backoff.runOffline_eq]
  cases (b.verdicts s (List.replicate (b.maxAttempts + 1) .failed)).getLast? with
  | none => simp
  | some v => cases v <;> simp [Backoff.Verdict.ending?]

theorem records_visit (h : List.Forall₂ (fun r o => r.outcome? = some o) receptions os) :
    (visit b s receptions e).1.map Option.isNone =
      (os.map fun o => decide (o = .failed)).take (b.verdicts s os).length := by
  induction h generalizing s e with
  | nil => rfl
  | @cons r o rest os hr hrest ih =>
      obtain ⟨record, e', hrecord, hvisit⟩ := visit_cons hr b s rest e
      rw [hvisit, verdicts]
      cases b.after s o with
      | retry wait t => simp [hrecord, ih]
      | exhausted => simp [hrecord]
      | overflow wait => simp [hrecord]

/-- Nobody stops an agent whose receptions all come to an end. -/
theorem visit_ne_stopped (h : List.Forall₂ (fun r o => r.outcome? = some o) receptions os) :
    (visit b s receptions e).2.1 ≠ .stopped := by
  induction h generalizing s e with
  | nil => exact afterLast_ne_stopped b s
  | @cons r o rest os hr hrest ih =>
      obtain ⟨record, e', -, hvisit⟩ := visit_cons hr b s rest e
      rw [hvisit]
      cases b.after s o with
      | retry wait t => exact ih
      | exhausted =>
          dsimp only
          split <;> nofun
      | overflow wait => nofun

theorem visit_eq_exhausted_iff
    (h : List.Forall₂ (fun r o => r.outcome? = some o) receptions os) :
    (visit b s receptions e).2.1 = .exhausted ↔
      os.length ≤ (b.verdicts s (os ++ List.replicate (b.maxAttempts + 1) .failed)).length ∧
        (b.verdicts s (os ++ List.replicate (b.maxAttempts + 1) .failed)).getLast? =
          some .exhausted := by
  induction h generalizing s e with
  | nil =>
      rw [visit, afterLast_eq_exhausted_iff]
      exact (and_iff_right (Nat.zero_le _)).symm
  | @cons r o rest os hr hrest ih =>
      obtain ⟨record, e', -, hvisit⟩ := visit_cons hr b s rest e
      rw [hvisit, List.cons_append, verdicts]
      cases b.after s o with
      | retry wait t =>
          dsimp only
          rw [ih, List.getLast?_cons, List.length_cons, List.length_cons, Nat.succ_le_succ_iff]
          cases (b.verdicts t (os ++ List.replicate (b.maxAttempts + 1) .failed)).getLast? <;> simp
      | exhausted =>
          have hempty : rest = [] ↔ os = [] := by
            rw [← List.length_eq_zero_iff, hrest.length_eq, List.length_eq_zero_iff]
          simp [hempty]
      | overflow wait => simp

/-- An agent that nobody tells to stop gives up right after the last of so many failures in a row, and
for no other reason; and its visits never end otherwise. -/
theorem gives_up_duly (b : Backoff) (e : Endpoint)
    (h : List.Forall₂ (fun r o => r.outcome? = some o) receptions os) :
    Backoff.GivesUpDuly b.maxAttempts os (b.verdicts b.start os) ∧
      Visited b os (visit b b.start receptions e).1 (visit b b.start receptions e).2.1 ∧
      ∀ attempts t, b.runOffline none attempts b.start ⟨0⟩ ≠ some (.stopped t) ∧
        (b.runOffline none attempts b.start ⟨0⟩ = some (.exhausted t) ↔
          ∃ m, b.maxAttempts = m + 1 ∧ m < attempts ∧ (∀ i < m, b.HasNext i) ∧
            t = ⟨((List.range m).map fun i => (b.wait i).nanos).sum⟩) := by
  refine ⟨Backoff.givesUpDuly_verdicts b os, ?_, fun attempts t => ?_⟩
  · exact ⟨records_visit h, visit_eq_exhausted_iff h, visit_ne_stopped h⟩
  · exact ⟨Backoff.runOffline_ne_stopped b _ attempts _ t,
      Backoff.runOffline_eq_exhausted_iff b attempts t⟩

/-- A failure before a connection does not count: where two are too many, it takes two after it. -/
theorem gives_up_duly_twoInARow :
    let b : Backoff := { maxAttempts := 2 }
    let receptions : List Reception :=
      [⟨[], .refused⟩, ⟨[], .sentAway⟩, ⟨[], .refused⟩, ⟨[], .refused⟩]
    let os : List Backoff.Outcome := [.failed, .dropped, .failed, .failed]
    List.Forall₂ (fun (r : Reception) o => r.outcome? = some o) receptions os ∧
      Backoff.GivesUpDuly 2 os (b.verdicts b.start os) ∧
      (b.verdicts b.start os)[3]? = some .exhausted ∧
      (visit b b.start receptions default).2.1 = .exhausted := by
  intro b receptions os
  have hends : List.Forall₂ (fun (r : Reception) o => r.outcome? = some o) receptions os :=
    .cons rfl (.cons rfl (.cons rfl (.cons rfl .nil)))
  obtain ⟨hduly, hvisited, -⟩ := gives_up_duly b default hends
  exact ⟨hends, hduly, by decide, hvisited.exhausted_iff.mpr ⟨by decide, by decide⟩⟩

end Agent

end MapScout
