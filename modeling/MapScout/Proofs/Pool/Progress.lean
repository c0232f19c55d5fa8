import Mathlib.Logic.Function.Iterate
import MapScout.Pool

/-!
# How a session pool gets on

Every step of a pool that has something to do takes work off it: mail that is read makes less work
than mail that has not been read, and a ticket that is picked leaves the queue.  So a pool that
nobody disturbs comes to rest.
-/

namespace MapScout

def PoolPhase.left : PoolPhase → Nat
  | .resting => 0
  | .serving => 1
  | .offering _ => 2

namespace Pool

variable {σ : Type} {p : Pool σ}

/-- How many steps a pool has at most before it. -/
def left (p : Pool σ) : Nat :=
  2 * p.arrivals.length + 5 * p.requests.length + 3 * p.waiting.length + p.phase.left

theorem act_eq_self (h : p.isBusy = false) : p.act = p := by
  simp only [isBusy, Bool.or_eq_false_iff, Bool.not_eq_false', bne_eq_false_iff_eq] at h
  obtain ⟨⟨hphase, harrivals⟩, hrequests⟩ := h
  rw [act, hphase]
  dsimp only
  rw [if_pos harrivals, readRequest, List.isEmpty_iff.mp hrequests]

/-- Mail that is read makes less work than mail that has not been read. -/
theorem left_act_lt (h : p.isBusy = true) : p.act.left < p.left := by
  obtain ⟨isOpen, isReading, arrivals, requests, buffer, waiting, held, handed, phase⟩ := p
  rw [act]
  cases phase with
  | resting =>
      cases arrivals with
      | cons s rest =>
          simp only [left, List.isEmpty_cons, Bool.false_eq_true, if_false, readSession,
            List.length_cons, PoolPhase.left]
          omega
      | nil =>
          cases requests with
          | nil => cases h
          | cons ticket rest =>
              have hle := List.length_filter_le (held.contains ·) waiting
              simp [left, readRequest, prune, PoolPhase.left] at hle ⊢
              omega
  | serving =>
      dsimp only [pickTicket]
      split
      · dsimp only [left]
        split
        all_goals
          simp only [PoolPhase.left, List.length_cons]
          omega
      · simp [left, PoolPhase.left]
  | offering ticket =>
      dsimp only [offer]
      split
      · simp [left, PoolPhase.left]
      · split <;> simp [left, PoolPhase.left]

/-- A pool that nobody disturbs comes to rest, in no more steps than it has before it, and has
something to do until then. -/
theorem exists_idle (p : Pool σ) :
    ∃ n ≤ p.left, (∀ k < n, (act^[k] p).isBusy = true) ∧ (act^[n] p).isBusy = false := by
  induction hleft : p.left using Nat.strongRecOn generalizing p with
  | ind left ih =>
      cases hbusy : p.isBusy with
      | false => exact ⟨0, Nat.zero_le _, fun k hk => absurd hk (Nat.not_lt_zero k), hbusy⟩
      | true =>
          have hlt : p.act.left < left := hleft ▸ left_act_lt hbusy
          obtain ⟨n, hn, hbusyAct, hidle⟩ := ih _ hlt p.act rfl
          refine ⟨n + 1, Nat.succ_le_of_lt (Nat.lt_of_le_of_lt hn hlt), fun k hk => ?_, hidle⟩
          cases k with
          | zero => exact hbusy
          | succ k => exact hbusyAct k (Nat.lt_of_succ_lt_succ hk)

end Pool

end MapScout
