import MapScout.CommandLine.Invocation
import MapScout.Proofs.Agent.Attempts

/-!
# The longest wait

A wait that has been doubled is cut at the longest one, but the wait that it all starts with is taken
as it is, and a wait is doubled before it is cut.  So the limit is respected if the first wait is
within it and all waits that can come up can be doubled, and only then.
-/

namespace MapScout.Backoff

variable {b : Backoff} {os : List Outcome} {w w' : Span} {i j k : Nat}

/-- How long an agent waits after attempt `k` if its attempts end so. -/
def waitAfter? (b : Backoff) (os : List Outcome) (k : Nat) : Option Span :=
  (b.verdicts b.start os)[k]?.bind (·.wait?)

/-- The waits of an agent keep to its limit. -/
structure Limited (b : Backoff) : Prop where
  capped : ∀ os k w, b.waitAfter? os k = some w → w.nanos ≤ b.longest.nanos
  /-- As long as no connection comes between them, a later wait is at least as long. -/
  rising : ∀ os j k w w', j ≤ k → (∀ i : Nat, j < i → i ≤ k → os[i]? = some .failed) →
    b.waitAfter? os j = some w → b.waitAfter? os k = some w' → w.nanos ≤ w'.nanos
  /-- There is always a next wait. -/
  doubled : ∀ os w, .overflow w ∉ b.verdicts b.start os

/-! ## The length of a wait -/

theorem wait_le_longest (h : b.initial.nanos ≤ b.longest.nanos) (i : Nat) :
    (b.wait i).nanos ≤ b.longest.nanos := by
  cases i with
  | zero => exact h
  | succ i => exact Nat.min_le_right _ _

/-- The waits do not get shorter if the first one keeps to the limit. -/
theorem wait_mono (h : b.initial.nanos ≤ b.longest.nanos) (hij : i ≤ j) :
    (b.wait i).nanos ≤ (b.wait j).nanos := by
  induction j, hij using Nat.le_induction with
  | base => exact Nat.le_refl _
  | succ j _ ih =>
      have hshorter : (b.wait j).nanos ≤ 2 * (b.wait j).nanos := by omega
      calc (b.wait i).nanos ≤ (b.wait j).nanos := ih
        _ ≤ min (2 * (b.wait j).nanos) b.longest.nanos :=
          Nat.le_min.mpr ⟨hshorter, wait_le_longest h j⟩
        _ = (b.wait (j + 1)).nanos := min_wait_longest b j

theorem wait?_verdict (h : (b.verdict os).wait? = some w) : w = b.wait (waits os - 1) := by
  rw [verdict] at h
  split at h
  · cases h
  · split at h <;> exact (Option.some.inj h).symm

/-- How long an agent waits after an attempt depends on the waits since the last connection alone.
-/
theorem waitAfter?_eq (h : b.waitAfter? os k = some w) :
    w = b.wait (waits (os.take (k + 1)) - 1) := by
  obtain ⟨v, hv, hwait⟩ := Option.bind_eq_some_iff.mp h
  rw [start_eq] at hv
  obtain ⟨-, rfl, -⟩ := getElem?_verdicts.mp hv
  exact wait?_verdict hwait

/-- Failures add waits. -/
theorem waits_take (hjk : j ≤ k) (hfailed : ∀ i : Nat, j < i → i ≤ k → os[i]? = some .failed) :
    waits (os.take (j + 1)) ≤ waits (os.take (k + 1)) := by
  induction k, hjk using Nat.le_induction with
  | base => exact Nat.le_refl _
  | succ k hjk ih =>
      have hlast := hfailed (k + 1) (Nat.lt_succ_of_le hjk) (Nat.le_refl _)
      have hnext : os.take (k + 1 + 1) = os.take (k + 1) ++ [.failed] := by
        rw [List.take_add_one, hlast, Option.toList_some]
      rw [hnext, waits, waits, tally_failed]
      exact Nat.le_succ_of_le (ih fun i hj hk => hfailed i hj (Nat.le_succ_of_le hk))

/-! ## Waits that come up -/

/-- A connection that broke and then failures only: the waits come up one after the other. -/
theorem verdict_dropped_replicate (b : Backoff) (i : Nat) :
    b.verdict (.dropped :: List.replicate i .failed) =
      if 0 < b.maxAttempts ∧ b.maxAttempts ≤ i then .exhausted
      else if b.HasNext i then
        .retry (b.wait i) (b.standing (.dropped :: List.replicate i .failed))
      else .overflow (b.wait i) := by
  have htally (reset : Nat) :
      tally reset (.dropped :: List.replicate i .failed) = i + reset := by
    have happend := tally_append_replicate reset ([] ++ [.dropped]) i
    rwa [tally_dropped, Nat.add_comm] at happend
  rw [verdict_eq (htally 1), failures, htally, Nat.add_zero]

/-- The first wait is waited after any connection that broke. -/
theorem waitAfter?_dropped (hnext : b.HasNext 0) : b.waitAfter? [.dropped] 0 = some b.initial := by
  have hverdict : b.verdict [.dropped] = _ := verdict_dropped_replicate b 0
  rw [if_neg (by omega), if_pos hnext] at hverdict
  rw [waitAfter?, start_eq, verdicts_cons, List.getElem?_cons_zero, Option.bind_some,
    List.nil_append, hverdict]
  rfl

/-- Every wait comes up in some run, unless the agent gives up before, and so it must be possible to
double it. -/
theorem hasNext_of_doubled (h : ∀ os w, .overflow w ∉ b.verdicts b.start os)
    (hi : b.maxAttempts = 0 ∨ i < b.maxAttempts) : b.HasNext i := by
  induction i using Nat.strong_induction_on with
  | _ i ih =>
      have hgoes (j : Nat) (hj : j < i) :
          (b.verdict (.dropped :: List.replicate j .failed)).isRetry = true := by
        rw [verdict_dropped_replicate, if_neg (by omega), if_pos (ih j hj (by omega))]
        rfl
      have hverdict := verdict_dropped_replicate b i
      rw [if_neg (by omega)] at hverdict
      by_contra hlong
      rw [if_neg hlong] at hverdict
      have htake {j : Nat} (hj : j ≤ i) :
          [] ++ (Outcome.dropped :: List.replicate i .failed).take (j + 1) =
            .dropped :: List.replicate j .failed := by
        rw [List.nil_append, List.take_succ_cons, List.take_replicate, min_eq_left hj]
      refine h (.dropped :: List.replicate i .failed) (b.wait i) (List.mem_of_getElem? (i := i) ?_)
      rw [start_eq, getElem?_verdicts, htake (Nat.le_refl i)]
      refine ⟨by simp, hverdict.symm, fun j hj => ?_⟩
      rw [htake (Nat.le_of_lt hj)]
      exact hgoes j hj

/-- No wait overflows if all can be doubled that come before the agent gives up. -/
theorem overflow_not_mem_verdicts
    (hnext : ∀ i, b.maxAttempts = 0 ∨ i < b.maxAttempts → b.HasNext i) (os : List Outcome)
    (w : Span) : .overflow w ∉ b.verdicts b.start os := by
  intro hmem
  obtain ⟨k, hk⟩ := List.mem_iff_getElem?.mp hmem
  rw [start_eq] at hk
  obtain ⟨-, hverdict, -⟩ := getElem?_verdicts.mp hk
  have hwaits := waits_le ([] ++ os.take (k + 1))
  rw [verdict] at hverdict
  split at hverdict
  · cases hverdict
  · split at hverdict
    · cases hverdict
    · rename_i hongoing hlong
      exact hlong (hnext _ (by omega))

/-- The waits keep to the limit, however the attempts end, exactly if the first one does and all that
can come up can be doubled. -/
theorem limited_iff (b : Backoff) :
    b.Limited ↔ b.initial.nanos ≤ b.longest.nanos ∧
      ∀ i, b.maxAttempts = 0 ∨ i < b.maxAttempts → b.HasNext i := by
  constructor
  · intro hlimited
    have hnext (i : Nat) (hi : b.maxAttempts = 0 ∨ i < b.maxAttempts) : b.HasNext i :=
      hasNext_of_doubled hlimited.doubled hi
    have hfirst := waitAfter?_dropped (hnext 0 (Nat.eq_zero_or_pos _))
    exact ⟨hlimited.capped _ _ _ hfirst, hnext⟩
  · rintro ⟨hinitial, hnext⟩
    constructor
    · intro os k w hw
      rw [waitAfter?_eq hw]
      exact wait_le_longest hinitial _
    · intro os j k w w' hjk hfailed hw hw'
      rw [waitAfter?_eq hw, waitAfter?_eq hw']
      exact wait_mono hinitial (Nat.sub_le_sub_right (waits_take hjk hfailed) 1)
    · exact overflow_not_mem_verdicts hnext

/-- A first wait that is longer than the longest is waited as it is, and the wait after it is shorter.
A wait that is within the limit may still be too long to be doubled. -/
theorem not_limited_longFirstWait :
    let words := ["agent", "--max-reconnect-attempts", "2", "--reconnect-delay", "5",
      "--max-reconnect-delay", "3"]
    let words' := ["agent", "--reconnect-delay", "9223372036854775808",
      "--max-reconnect-delay", "18446744073709551615"]
    let b : Backoff := ⟨2, .ofSeconds 5, .ofSeconds 3⟩
    let b' : Backoff := ⟨0, .ofSeconds (twoTo 63), .ofSeconds (twoTo 64 - 1)⟩
    CommandLine.readInvocation [] words = .ok { command := .agent { backoff := b } } ∧
      CommandLine.readInvocation [] words' = .ok { command := .agent { backoff := b' } } ∧
      b.waitAfter? [.dropped, .failed] 0 = some (.ofSeconds 5) ∧
      b.waitAfter? [.dropped, .failed] 1 = some (.ofSeconds 3) ∧
      b'.verdicts b'.start [.failed] = [.overflow (.ofSeconds (twoTo 63))] ∧
      ¬ b.Limited ∧ ¬ b'.Limited := by
  intro words words' b b'
  have hfirst : b.waitAfter? [.dropped, .failed] 0 = some (.ofSeconds 5) := by decide
  have hoverflow : b'.verdicts b'.start [.failed] = [.overflow (.ofSeconds (twoTo 63))] := by decide
  refine ⟨by decide +kernel, by decide +kernel, hfirst, by decide, hoverflow, fun h => ?_,
    fun h => ?_⟩
  · exact absurd (h.capped _ _ _ hfirst) (by decide)
  · exact h.doubled [.failed] (.ofSeconds (twoTo 63)) (by rw [hoverflow]; exact List.mem_singleton_self _)

end MapScout.Backoff
