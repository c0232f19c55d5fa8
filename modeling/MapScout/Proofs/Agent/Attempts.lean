import Mathlib.Data.List.Infix
import MapScout.Agent.Backoff

/-!
# Attempts one after the other

All that an agent remembers of its attempts are two counts: how many have failed since the last
connection, and how many waits there have been since then.  The first decides whether it gives up, the
second how long it waits.
-/

namespace MapScout.Backoff

variable {b : Backoff} {s : State} {os rest : List Outcome} {o : Outcome} {v : Verdict} {i k n : Nat}

/-! ## Waits -/

/-- The first wait, doubled so many times and cut at the longest one after each time. -/
def wait (b : Backoff) : Nat → Span
  | 0 => b.initial
  | i + 1 => ⟨min (twoTo (i + 1) * b.initial.nanos) b.longest.nanos⟩

def HasNext (b : Backoff) (i : Nat) : Prop := 2 * (b.wait i).nanos < Span.limit

instance (b : Backoff) (i : Nat) : Decidable (b.HasNext i) :=
  inferInstanceAs (Decidable (2 * (b.wait i).nanos < Span.limit))

/-- Doubled and cut, each wait gives the next one. -/
theorem min_wait_longest (b : Backoff) (i : Nat) :
    min (2 * (b.wait i).nanos) b.longest.nanos = (b.wait (i + 1)).nanos := by
  cases i with
  | zero => rfl
  | succ i =>
      have hpower : twoTo (i + 1 + 1) = 2 * twoTo (i + 1) := Nat.mul_comm (twoTo (i + 1)) 2
      have hdouble : twoTo (i + 1 + 1) * b.initial.nanos = 2 * (twoTo (i + 1) * b.initial.nanos) := by
        rw [hpower, Nat.mul_assoc]
      simp only [wait]
      omega

/-- A wait that cannot be doubled is the last one. -/
theorem next?_wait (b : Backoff) (i : Nat) :
    next? (b.wait i) b.longest = if b.HasNext i then some (b.wait (i + 1)) else none := by
  have hnext : b.wait (i + 1) = ⟨min (2 * (b.wait i).nanos) b.longest.nanos⟩ := by
    rw [min_wait_longest]
  rw [next?, Span.double?, hnext]
  by_cases hhas : b.HasNext i
  · have hexists : 2 * (b.wait i).nanos < Span.limit := hhas
    rw [if_pos hhas, if_pos hexists, Option.map_some]
    congr 1
    split
    · rw [min_eq_right (Nat.le_of_lt ‹_›)]
    · rw [min_eq_left (Nat.le_of_not_lt ‹_›)]
  · have hlacks : ¬ 2 * (b.wait i).nanos < Span.limit := hhas
    rw [if_neg hhas, if_neg hlacks, Option.map_none]

/-! ## Counts -/

/-- Counts failures; a connection that broke sets the count to `reset`. -/
def tally (reset : Nat) (os : List Outcome) : Nat :=
  os.foldl (fun n o => match o with
    | .failed => n + 1
    | .dropped => reset) 0

/-- How many attempts have failed since the last connection. -/
abbrev failures (os : List Outcome) : Nat := tally 0 os

/-- How many waits there have been since the last connection, the one right after it among them. -/
abbrev waits (os : List Outcome) : Nat := tally 1 os

@[simp]
theorem tally_nil (reset : Nat) : tally reset [] = 0 := rfl

@[simp]
theorem tally_failed (reset : Nat) (os : List Outcome) :
    tally reset (os ++ [.failed]) = tally reset os + 1 := by
  rw [tally, List.foldl_concat]
  rfl

@[simp]
theorem tally_dropped (reset : Nat) (os : List Outcome) :
    tally reset (os ++ [.dropped]) = reset := by
  rw [tally, List.foldl_concat]

theorem tally_append_replicate (reset : Nat) (os : List Outcome) (n : Nat) :
    tally reset (os ++ List.replicate n .failed) = tally reset os + n := by
  induction n with
  | zero => rw [List.replicate_zero, List.append_nil, Nat.add_zero]
  | succ n ih => rw [List.replicate_succ', ← List.append_assoc, tally_failed, ih, Nat.add_assoc]

theorem tally_replicate (reset n : Nat) : tally reset (List.replicate n .failed) = n := by
  have happend := tally_append_replicate reset [] n
  rwa [List.nil_append, tally_nil, Nat.zero_add] at happend

/-- Every wait since the last connection comes after a failure, but for the one right after it. -/
theorem waits_le (os : List Outcome) : waits os ≤ failures os + 1 := by
  induction os using List.reverseRecOn with
  | nil => exact Nat.zero_le _
  | append_singleton os o ih =>
      cases o with
      | failed =>
          rw [failures, waits, tally_failed, tally_failed]
          exact Nat.succ_le_succ ih
      | dropped => rw [failures, waits, tally_dropped, tally_dropped]

/-- The count of failures says how many of the latest attempts have failed. -/
theorem replicate_suffix_iff : List.replicate n .failed <:+ os ↔ n ≤ failures os := by
  induction os using List.reverseRecOn generalizing n with
  | nil =>
      rw [List.suffix_nil, List.replicate_eq_nil_iff]
      exact Nat.le_zero.symm
  | append_singleton os o ih =>
      cases n with
      | zero => exact iff_of_true (List.nil_suffix) (Nat.zero_le _)
      | succ n =>
          rw [List.replicate_succ', List.suffix_concat_iff]
          cases o with
          | failed => simp [ih, failures]
          | dropped => simp [failures]

/-! ## Verdicts -/

/-- Where an agent stands after these attempts. -/
def standing (b : Backoff) (os : List Outcome) : State := ⟨failures os, b.wait (waits os)⟩

/-- What an agent does after the last of these attempts. -/
def verdict (b : Backoff) (os : List Outcome) : Verdict :=
  if 0 < b.maxAttempts ∧ b.maxAttempts ≤ failures os then .exhausted
  else if b.HasNext (waits os - 1) then .retry (b.wait (waits os - 1)) (b.standing os)
  else .overflow (b.wait (waits os - 1))

/-- The verdict in terms of the waits that there have been. -/
theorem verdict_eq (hwaits : waits os = i + 1) :
    b.verdict os =
      if 0 < b.maxAttempts ∧ b.maxAttempts ≤ failures os then .exhausted
      else if b.HasNext i then .retry (b.wait i) (b.standing os) else .overflow (b.wait i) := by
  rw [verdict, hwaits, Nat.add_sub_cancel]

namespace Verdict

def wait? : Verdict → Option Span
  | .retry wait _ | .overflow wait => some wait
  | .exhausted => none

def isRetry : Verdict → Bool
  | .retry .. => true
  | .exhausted | .overflow _ => false

end Verdict

/-- What an agent remembers is enough to know what it does after the next attempt. -/
theorem after_standing (b : Backoff) (os : List Outcome) (o : Outcome) :
    b.after (b.standing os) o = b.verdict (os ++ [o]) := by
  cases o with
  | failed =>
      rw [verdict_eq (tally_failed 1 os), after.eq_def]
      simp only [standing, failures, waits, tally_failed, next?_wait]
      by_cases hhas : b.HasNext (tally 1 os) <;> simp only [hhas, if_true, if_false]
  | dropped =>
      have hwaits : waits (os ++ [.dropped]) = 0 + 1 := tally_dropped 1 os
      have hnext : next? b.initial b.longest = if b.HasNext 0 then some (b.wait 1) else none :=
        next?_wait b 0
      rw [verdict_eq hwaits, after.eq_def]
      simp only [standing, failures, waits, tally_dropped, hnext]
      by_cases hhas : b.HasNext 0 <;> simp only [hhas, if_true, if_false, wait]

theorem verdict_eq_exhausted_iff :
    b.verdict os = .exhausted ↔ 0 < b.maxAttempts ∧ b.maxAttempts ≤ failures os := by
  rw [verdict]
  split
  · exact iff_of_true rfl ‹_›
  · split <;> exact iff_of_false nofun ‹_›

/-! ## Runs -/

/-- What an agent does after each of its attempts if they end so; it makes no more of them than it
wants to. -/
def verdicts (b : Backoff) : State → List Outcome → List Verdict
  | _, [] => []
  | s, o :: rest =>
    match b.after s o with
    | .retry wait s => .retry wait s :: b.verdicts s rest
    | .exhausted => [.exhausted]
    | .overflow wait => [.overflow wait]

/-- After its first attempt an agent goes on from where it then stands, if it goes on. -/
theorem verdicts_cons (b : Backoff) (os : List Outcome) (o : Outcome) (rest : List Outcome) :
    b.verdicts (b.standing os) (o :: rest) =
      b.verdict (os ++ [o]) :: if (b.verdict (os ++ [o])).isRetry = true then
        b.verdicts (b.standing (os ++ [o])) rest else [] := by
  have hafter := after_standing b os o
  have hstate : ∀ wait t, b.verdict (os ++ [o]) = .retry wait t → t = b.standing (os ++ [o]) := by
    intro wait t hretry
    rw [verdict] at hretry
    split at hretry
    · cases hretry
    · split at hretry <;> cases hretry
      rfl
  rw [verdicts, hafter]
  cases hverdict : b.verdict (os ++ [o]) with
  | retry wait t =>
      rw [hstate wait t hverdict]
      rfl
  | exhausted => rfl
  | overflow wait => rfl

/-- Each verdict depends on the attempts up to it alone, and it is given if all before it are to go
on. -/
theorem getElem?_verdicts :
    (b.verdicts (b.standing os) rest)[k]? = some v ↔
      k < rest.length ∧ v = b.verdict (os ++ rest.take (k + 1)) ∧
        ∀ j < k, (b.verdict (os ++ rest.take (j + 1))).isRetry = true := by
  induction rest generalizing os k with
  | nil => exact iff_of_false nofun fun h => Nat.not_lt_zero k h.1
  | cons o rest ih =>
      rw [verdicts_cons]
      cases k with
      | zero =>
          rw [List.getElem?_cons_zero, Option.some_inj, eq_comm]
          exact ⟨fun h => ⟨Nat.succ_pos _, h, nofun⟩, fun h => h.2.1⟩
      | succ k =>
          have hsplit (j : Nat) : os ++ (o :: rest).take (j + 1) = os ++ [o] ++ rest.take j := by
            rw [List.take_succ_cons, List.append_assoc, List.singleton_append]
          rw [List.getElem?_cons_succ, Nat.forall_lt_succ_left]
          simp only [hsplit, List.take_zero, List.append_nil, List.length_cons, Nat.succ_lt_succ_iff]
          split
          · rename_i hretry
            rw [ih]
            simp only [hretry, true_and]
          · rename_i hends
            simp [hends]

theorem start_eq (b : Backoff) : b.start = b.standing [] := rfl

end MapScout.Backoff
