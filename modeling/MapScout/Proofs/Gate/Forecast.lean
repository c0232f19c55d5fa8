import Mathlib.Data.List.Basic
import Mathlib.Order.Basic
import MapScout.Gate.Line

/-!
# What a gate has in store

Once it is known who gets in line and when, it is known what becomes of everybody: whoever is first
takes the token that is due, unless it gives up before that, and only a token that is taken changes
when the next one is due.  The forecast can be made anew at any moment, from the due time of the
gate then and from those who still wait.
-/

namespace MapScout

/-- Somebody gets in line. -/
structure Coming where
  id : Nat
  moment : Nat
  /-- When it gives up; never, if there is no such moment. -/
  deadline : Option Nat
  deriving DecidableEq, Repr

def Visit.seenBy (now : Nat) (visit : Visit) : Option Visit :=
  if visit.at_ ≤ now then some visit else none

theorem Visit.seenBy_eq_some {now : Nat} {visit visit' : Visit} :
    visit.seenBy now = some visit' ↔ visit.at_ ≤ now ∧ visit = visit' := by
  simp [seenBy]

namespace Coming

/-- How the visit ends if the token it is waiting for is due at `due`. -/
def outcome (due : Nat) (c : Coming) : Visit :=
  match c.deadline with
  | none => ⟨true, max c.moment due⟩
  | some deadline =>
    if due ≤ max c.moment deadline then ⟨true, max c.moment due⟩
    else ⟨false, max c.moment deadline⟩

def dueAfter (period due : Nat) (c : Coming) : Nat :=
  if (c.outcome due).granted then Gate.nextDue period due (c.outcome due).at_ else due

variable {period due : Nat} {c : Coming}

theorem outcome_granted (h : ∀ deadline, c.deadline = some deadline → due ≤ max c.moment deadline) :
    c.outcome due = ⟨true, max c.moment due⟩ := by
  rw [outcome]
  split
  · rfl
  · rename_i deadline hdeadline
    rw [if_pos (h deadline hdeadline)]

theorem outcome_refused {deadline : Nat} (hdeadline : c.deadline = some deadline)
    (h : max c.moment deadline < due) : c.outcome due = ⟨false, max c.moment deadline⟩ := by
  rw [outcome, hdeadline]
  exact if_neg (Nat.not_le_of_lt h)

/-- A token that is taken sets when the next one is due. -/
theorem dueAfter_of_granted (period : Nat) {now : Nat} (h : c.outcome due = ⟨true, now⟩) :
    c.dueAfter period due = Gate.nextDue period due now := by
  rw [dueAfter, h]
  rfl

/-- Who gives up takes no token. -/
theorem dueAfter_of_refused (h : (c.outcome due).granted = false) :
    c.dueAfter period due = due := by
  rw [dueAfter, h]
  rfl

theorem due_add_le_nextDue (period due now : Nat) : due + period ≤ Gate.nextDue period due now := by
  rw [Gate.nextDue]
  split <;> omega

theorem le_dueAfter (period due : Nat) (c : Coming) : due ≤ c.dueAfter period due := by
  rw [dueAfter]
  split
  · exact Nat.le_trans (Nat.le_add_right ..) (due_add_le_nextDue ..)
  · exact Nat.le_refl _

/-! ## Forecasts -/

/-- How all visits end, those that have ended being known, if the next token is due at `due`. -/
def forecast (visits : Nat → Option Visit) (period : Nat) : (due : Nat) → List Coming → List Visit
  | _, [] => []
  | due, c :: rest =>
    match visits c.id with
    | some visit => visit :: forecast visits period due rest
    | none => c.outcome due :: forecast visits period (c.dueAfter period due) rest

/-- When the next token will be due after all visits that have not ended. -/
def dueThrough (visits : Nat → Option Visit) (period : Nat) : (due : Nat) → List Coming → Nat
  | due, [] => due
  | due, c :: rest =>
    match visits c.id with
    | some _ => dueThrough visits period due rest
    | none => dueThrough visits period (c.dueAfter period due) rest

def unknown : Nat → Option Visit := fun _ => none

variable {visits visits' : Nat → Option Visit} {log : List Coming} {visit : Visit}

theorem forecast_singleton (h : visits c.id = none) :
    forecast visits period due [c] = [c.outcome due] := by
  rw [forecast, h]
  rfl

theorem dueThrough_singleton (h : visits c.id = none) :
    dueThrough visits period due [c] = c.dueAfter period due := by
  rw [dueThrough, h]
  rfl

/-- The forecast for those behind begins where that for those in front ends. -/
theorem forecast_append (visits : Nat → Option Visit) (period due : Nat) (xs ys : List Coming) :
    forecast visits period due (xs ++ ys) =
      forecast visits period due xs ++
        forecast visits period (dueThrough visits period due xs) ys := by
  induction xs generalizing due with
  | nil => rfl
  | cons c xs ih =>
      rw [List.cons_append, forecast, forecast, dueThrough]
      split <;> rw [ih, List.cons_append]

theorem dueThrough_append (visits : Nat → Option Visit) (period due : Nat) (xs ys : List Coming) :
    dueThrough visits period due (xs ++ ys) =
      dueThrough visits period (dueThrough visits period due xs) ys := by
  induction xs generalizing due with
  | nil => rfl
  | cons c xs ih =>
      rw [List.cons_append, dueThrough, dueThrough]
      split <;> rw [ih]

theorem le_dueThrough (visits : Nat → Option Visit) (period due : Nat) (log : List Coming) :
    due ≤ dueThrough visits period due log := by
  induction log generalizing due with
  | nil => exact Nat.le_refl _
  | cons c log ih =>
      rw [dueThrough]
      split
      · exact ih due
      · exact Nat.le_trans (le_dueAfter ..) (ih _)

/-- A forecast looks only at those it is made for. -/
theorem forecast_congr (h : ∀ c ∈ log, visits' c.id = visits c.id) (due : Nat) :
    forecast visits' period due log = forecast visits period due log := by
  induction log generalizing due with
  | nil => rfl
  | cons c log ih =>
      obtain ⟨hc, hlog⟩ := List.forall_mem_cons.mp h
      rw [forecast, forecast, hc]
      split <;> rw [ih hlog]

theorem dueThrough_congr (h : ∀ c ∈ log, visits' c.id = visits c.id) (due : Nat) :
    dueThrough visits' period due log = dueThrough visits period due log := by
  induction log generalizing due with
  | nil => rfl
  | cons c log ih =>
      obtain ⟨hc, hlog⟩ := List.forall_mem_cons.mp h
      rw [dueThrough, dueThrough, hc]
      split <;> rw [ih hlog]

/-- Visits that have ended do not depend on when the next token is due. -/
theorem forecast_of_ended (h : ∀ c ∈ log, (visits c.id).isSome) (due due' : Nat) :
    forecast visits period due log = forecast visits period due' log := by
  induction log with
  | nil => rfl
  | cons c log ih =>
      obtain ⟨hc, hlog⟩ := List.forall_mem_cons.mp h
      obtain ⟨visit, hvisit⟩ := Option.isSome_iff_exists.mp hc
      rw [forecast, forecast, hvisit]
      dsimp only
      rw [ih hlog]

/-- Those whose visits are over do not count any more. -/
theorem dueThrough_of_ended (h : ∀ c ∈ log, (visits c.id).isSome) (due : Nat) :
    dueThrough visits period due log = due := by
  induction log with
  | nil => rfl
  | cons c log ih =>
      obtain ⟨hc, hlog⟩ := List.forall_mem_cons.mp h
      obtain ⟨visit, hvisit⟩ := Option.isSome_iff_exists.mp hc
      rw [dueThrough, hvisit]
      exact ih hlog

/-- A token that is due now goes to somebody in front, and the next one is due later. -/
theorem lt_dueThrough {now : Nat} (hperiod : 0 < period) (hmoment : ∀ c ∈ log, c.moment ≤ now)
    (hdeadline : ∀ c ∈ log, visits c.id = none → ∀ deadline, c.deadline = some deadline →
      now ≤ max c.moment deadline)
    (hwaiting : ∃ c ∈ log, visits c.id = none) : now < dueThrough visits period now log := by
  induction log with
  | nil =>
      obtain ⟨c, hc, -⟩ := hwaiting
      cases hc
  | cons c log ih =>
      obtain ⟨hcm, hlm⟩ := List.forall_mem_cons.mp hmoment
      obtain ⟨hcd, hld⟩ := List.forall_mem_cons.mp hdeadline
      rw [dueThrough]
      split
      · rename_i visit hvisit
        refine ih hlm hld ?_
        obtain ⟨d, hd, hnone⟩ := hwaiting
        rcases List.mem_cons.mp hd with rfl | hd
        · rw [hvisit] at hnone
          cases hnone
        · exact ⟨d, hd, hnone⟩
      · rename_i hnone
        have houtcome : c.outcome now = ⟨true, now⟩ := by
          rw [outcome_granted (hcd hnone), Nat.max_eq_right hcm]
        have hnext := due_add_le_nextDue period now now
        have hrest := le_dueThrough visits period (c.dueAfter period now) log
        rw [dueAfter_of_granted period houtcome] at hrest ⊢
        omega

/-- Whoever waits before the token is due and before the deadline leaves later. -/
theorem lt_at_outcome {now : Nat} (hdue : now < due)
    (hdeadline : ∀ deadline, c.deadline = some deadline → now < deadline) :
    now < (c.outcome due).at_ := by
  rw [outcome]
  split
  · exact Nat.lt_of_lt_of_le hdue (Nat.le_max_right ..)
  · rename_i deadline hc
    split
    · exact Nat.lt_of_lt_of_le hdue (Nat.le_max_right ..)
    · exact Nat.lt_of_lt_of_le (hdeadline deadline hc) (Nat.le_max_right ..)

/-- If the token and all deadlines of those who wait lie ahead, the forecast tells nothing new about
the time up to now. -/
theorem map_seenBy_forecast {now : Nat}
    (hended : ∀ c ∈ log, ∀ visit, visits c.id = some visit → visit.at_ ≤ now)
    (hwaiting : ∀ c ∈ log, visits c.id = none →
      now < due ∧ ∀ deadline, c.deadline = some deadline → now < deadline) :
    (forecast visits period due log).map (·.seenBy now) = log.map fun c => visits c.id := by
  induction log generalizing due with
  | nil => rfl
  | cons c log ih =>
      obtain ⟨hce, hle⟩ := List.forall_mem_cons.mp hended
      obtain ⟨hcw, hlw⟩ := List.forall_mem_cons.mp hwaiting
      rw [forecast]
      split
      · rename_i visit hvisit
        rw [List.map_cons, List.map_cons, ih hle hlw, hvisit,
          Visit.seenBy_eq_some.mpr ⟨hce visit hvisit, rfl⟩]
      · rename_i hnone
        have hahead := lt_at_outcome (hcw hnone).1 (hcw hnone).2
        have hrest : ∀ d ∈ log, visits d.id = none →
            now < c.dueAfter period due ∧ ∀ deadline, d.deadline = some deadline → now < deadline :=
          fun d hd hwaits =>
            ⟨Nat.lt_of_lt_of_le (hcw hnone).1 (le_dueAfter ..), (hlw d hd hwaits).2⟩
        rw [List.map_cons, List.map_cons, ih hle hrest, hnone, Visit.seenBy,
          if_neg (Nat.not_le_of_lt hahead)]

/-! ## The end of a visit -/

section End

variable {before after : List Coming}

/-- Others than `c` are where they were, and the visit of `c` has ended. -/
structure EndsAs (visits visits' : Nat → Option Visit) (c : Coming) (visit : Visit)
    (others : List Coming) : Prop where
  before : visits c.id = none
  after : visits' c.id = some visit
  others : ∀ d ∈ others, visits' d.id = visits d.id

/-- If a visit ends without a token as foretold, everything else stays as foretold. -/
theorem forecast_refused (hend : EndsAs visits visits' c visit (before ++ after))
    (houtcome : c.outcome (dueThrough visits period due before) = visit)
    (hrefused : visit.granted = false) :
    forecast visits' period due (before ++ c :: after) =
        forecast visits period due (before ++ c :: after) ∧
      dueThrough visits' period due (before ++ c :: after) =
        dueThrough visits period due (before ++ c :: after) := by
  obtain ⟨hbefore, hafter⟩ := List.forall_mem_append.mp hend.others
  have hsame : c.dueAfter period (dueThrough visits period due before) =
      dueThrough visits period due before :=
    dueAfter_of_refused (by rw [houtcome, hrefused])
  constructor
  · rw [forecast_append, forecast_append, dueThrough_congr hbefore, forecast_congr hbefore,
      forecast, forecast, hend.before, hend.after]
    dsimp only
    rw [hsame, houtcome, forecast_congr hafter]
  · rw [dueThrough_append, dueThrough_append, dueThrough_congr hbefore, dueThrough, dueThrough,
      hend.before, hend.after]
    dsimp only
    rw [hsame, dueThrough_congr hafter]

/-- If whoever is first takes the token as foretold, everything else stays as foretold. -/
theorem forecast_granted {now : Nat}
    (hend : EndsAs visits visits' c ⟨true, now⟩ (before ++ after))
    (hfirst : ∀ d ∈ before, (visits d.id).isSome)
    (houtcome : c.outcome due = ⟨true, now⟩) :
    forecast visits' period (Gate.nextDue period due now) (before ++ c :: after) =
        forecast visits period due (before ++ c :: after) ∧
      dueThrough visits' period (Gate.nextDue period due now) (before ++ c :: after) =
        dueThrough visits period due (before ++ c :: after) := by
  obtain ⟨hbefore, hafter⟩ := List.forall_mem_append.mp hend.others
  have hnext := dueAfter_of_granted period houtcome
  constructor
  · rw [forecast_append, forecast_append, dueThrough_congr hbefore, forecast_congr hbefore,
      dueThrough_of_ended hfirst, dueThrough_of_ended hfirst, forecast, forecast, hend.before,
      hend.after, forecast_of_ended hfirst _ due]
    dsimp only
    rw [hnext, houtcome, forecast_congr hafter]
  · rw [dueThrough_append, dueThrough_append, dueThrough_congr hbefore, dueThrough_of_ended hfirst,
      dueThrough_of_ended hfirst, dueThrough, dueThrough, hend.before, hend.after]
    dsimp only
    rw [hnext, dueThrough_congr hafter]

end End

/-! ## Those who give up -/

def request (c : Coming) : Nat × Option Nat := (c.moment, c.deadline)

/-- Names do not matter to a forecast from the start. -/
theorem forecast_unknown_congr {log log' : List Coming} (h : log'.map request = log.map request)
    (due : Nat) : forecast unknown period due log' = forecast unknown period due log := by
  induction log generalizing log' due with
  | nil => rw [List.map_eq_nil_iff.mp h]
  | cons c log ih =>
      obtain ⟨c', log', rfl, hc, hlog⟩ := List.map_eq_cons_iff.mp h
      obtain ⟨hmoment, hdeadline⟩ := Prod.mk.inj hc
      have houtcome (due : Nat) : c'.outcome due = c.outcome due := by
        rw [outcome, outcome, hmoment, hdeadline]
      have hafter : c'.dueAfter period due = c.dueAfter period due := by
        rw [dueAfter, dueAfter, houtcome]
      change c'.outcome due :: forecast unknown period (c'.dueAfter period due) log' =
        c.outcome due :: forecast unknown period (c.dueAfter period due) log
      rw [houtcome, hafter, ih hlog]

def gaveUp (visits : Nat → Option Visit) (c : Coming) : Bool := (visits c.id).any (!·.granted)

/-- If all that has been seen by `now` is as foretold, then those who have given up can be left out,
and what has been seen of the others is still as foretold. -/
theorem forecast_filter_gaveUp {now : Nat}
    (h : log.map (fun c => visits c.id) = (forecast unknown period due log).map (·.seenBy now)) :
    (log.filter fun c => !gaveUp visits c).map (fun c => visits c.id) =
      (forecast unknown period due (log.filter fun c => !gaveUp visits c)).map (·.seenBy now) := by
  induction log generalizing due with
  | nil => rfl
  | cons c log ih =>
      obtain ⟨hc, hlog⟩ := List.cons.inj h
      replace hc : visits c.id = (c.outcome due).seenBy now := hc
      cases hgave : gaveUp visits c with
      | true =>
          have hrefused : (c.outcome due).granted = false := by
            obtain ⟨visit, hvisit, hgranted⟩ := Option.any_eq_true _ _ |>.mp hgave
            rw [hvisit] at hc
            obtain ⟨-, rfl⟩ := Visit.seenBy_eq_some.mp hc.symm
            simpa using hgranted
          have hdue : c.dueAfter period due = due := dueAfter_of_refused hrefused
          rw [List.filter_cons_of_neg (by simp [hgave])]
          exact ih (hdue ▸ hlog)
      | false =>
          rw [List.filter_cons_of_pos (by simp [hgave]), List.map_cons, ih hlog, hc]
          rfl

end Coming

end MapScout
