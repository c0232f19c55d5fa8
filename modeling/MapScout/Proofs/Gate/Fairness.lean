import MapScout.Proofs.Gate.Schedule

/-!
# Fairness of a gate

Tokens are taken in the order of arrival, and who gives up leaves no trace: without those who gave
up, everybody else would have taken the same token at the same moment.
-/

namespace MapScout.GateLine

open Coming (forecast unknown)

variable {l : GateLine} {log : List Coming} {c : Coming} {id i : Nat} {v : Visitor}
variable {period start : Nat} {events : List Event}

/-- A visit that has ended is over. -/
theorem InOrder.visit?_turn_of_ended {visit : Visit} (h : l.InOrder period start log)
    (hended : l.visit? id = some visit) :
    (l.happen (.turn (.visitor id))).visit? id = some visit := by
  obtain ⟨hturn, -⟩ | ⟨k, hk, rfl, -⟩ | ⟨deadline, hnew, -⟩ := h.turn_cases id
  · rw [hturn]
    exact hended
  · rw [(mem_pending.mp hk).2] at hended
    cases hended
  · rw [visit?_of_lookup hnew] at hended
    cases hended

/-! ## Tokens are taken in the order of arrival -/

def granted (l : GateLine) (log : List Coming) : List Coming :=
  log.filter fun c => (l.visit? c.id).any (·.granted)

theorem granted_congr {l' : GateLine} (h : ∀ c ∈ log,
    (l'.visit? c.id).any (·.granted) = (l.visit? c.id).any (·.granted)) :
    l'.granted log = l.granted log :=
  List.filter_congr h

/-- Whoever gets in line has its first turn. -/
theorem comingsAt_visitor (l : GateLine) (id : Nat) :
    l.comingsAt (.turn (.visitor id)) = [] ∨
      ∃ deadline, l.visitors.lookup id = some ⟨deadline, .arriving⟩ ∧
        l.comingsAt (.turn (.visitor id)) = [⟨id, l.now, deadline⟩] := by
  by_cases hnew : ∃ deadline, l.visitors.lookup id = some ⟨deadline, .arriving⟩
  · obtain ⟨deadline, hv⟩ := hnew
    exact Or.inr ⟨deadline, hv, comingsAt_arriving hv⟩
  · exact Or.inl (comingsAt_of_ne fun deadline hv => hnew ⟨deadline, hv⟩)

theorem granted_comingsAt (l : GateLine) (log : List Coming) (id : Nat) :
    l.granted (log ++ l.comingsAt (.turn (.visitor id))) = l.granted log := by
  rcases l.comingsAt_visitor id with hnobody | ⟨deadline, hv, hcoming⟩
  · rw [hnobody, List.append_nil]
  · have hnone : l.visit? id = none := visit?_of_lookup hv
    rw [granted, hcoming, List.filter_append, ← granted]
    simp [hnone]

/-- Nobody behind one who waits has taken a token. -/
theorem InOrder.exists_split (h : l.InOrder period start log) (hnone : l.visit? id = none)
    (hmem : id ∈ (log ++ l.comingsAt (.turn (.visitor id))).map (·.id)) :
    ∃ before k after, log ++ l.comingsAt (.turn (.visitor id)) = before ++ k :: after ∧
      k.id = id ∧ l.granted after = [] := by
  rcases l.comingsAt_visitor id with hnobody | ⟨deadline, -, hcoming⟩
  · rw [hnobody, List.append_nil] at hmem ⊢
    obtain ⟨k, hk, rfl⟩ := List.mem_map.mp hmem
    obtain ⟨before, after, rfl⟩ := List.append_of_mem hk
    refine ⟨before, k, after, rfl, rfl, List.filter_eq_nil_iff.mpr fun d hd hgranted => ?_⟩
    obtain ⟨-, hbehind, -⟩ := List.pairwise_append.mp h.foretold.granted_first
    have hended := (List.pairwise_cons.mp hbehind).1 d hd hgranted
    rw [hnone] at hended
    cases hended
  · rw [hcoming]
    exact ⟨log, _, [], rfl, rfl, rfl⟩

/-- Whoever has taken a token got in line before. -/
theorem Recorded.mem_ids_of_granted (h : l.Recorded log)
    (hgranted : (l.visit? id).any (·.granted) = true) : id ∈ log.map (·.id) := by
  rw [visit?] at hgranted
  cases hv : l.visitors.lookup id with
  | none =>
      rw [hv] at hgranted
      cases hgranted
  | some v =>
      refine h.logged id v hv fun hstage => ?_
      rw [hv, Option.bind_some, hstage] at hgranted
      cases hgranted

/-- A token goes to somebody behind whom nobody has one: it is the last of all who have one. -/
theorem InOrder.granted_take {before after : List Coming} {k : Coming}
    (h : l.InOrder period start log) (hnodup : ((before ++ k :: after).map (·.id)).Nodup)
    (hnone : l.visit? k.id = none) (hbehind : l.granted after = [])
    (hgranted : ((l.happen (.turn (.visitor k.id))).visit? k.id).any (·.granted) = true) :
    (l.happen (.turn (.visitor k.id))).granted (before ++ k :: after) =
      l.granted (before ++ k :: after) ++ [k] := by
  have hothers : ∀ d ∈ before ++ after, d.id ≠ k.id := fun d => id_ne_of_nodup hnodup
  obtain ⟨hbefore, hafter⟩ := List.forall_mem_append.mp hothers
  have hsame {others : List Coming} (hne : ∀ d ∈ others, d.id ≠ k.id) :
      (l.happen (.turn (.visitor k.id))).granted others = l.granted others :=
    granted_congr fun d hd => by rw [(h.confined_turn k.id).visit? d.id (hne d hd)]
  have hself : l.granted (k :: after) = l.granted after :=
    List.filter_cons_of_neg (by simp [hnone])
  have hself' : (l.happen (.turn (.visitor k.id))).granted (k :: after) =
      k :: (l.happen (.turn (.visitor k.id))).granted after :=
    List.filter_cons_of_pos hgranted
  have happend (l : GateLine) (xs ys : List Coming) :
      l.granted (xs ++ ys) = l.granted xs ++ l.granted ys := List.filter_append ..
  rw [happend, happend, hself, hself', hsame hbefore, hsame hafter, hbehind, List.append_nil]

/-- Whoever takes a token comes behind all who have taken one. -/
theorem InOrder.granted_turn (h : l.InOrder period start log) (hperiod : 0 < period) (id : Nat) :
    ((l.happen (.turn (.visitor id))).granted (log ++ l.comingsAt (.turn (.visitor id)))).map
        (·.id) =
      (l.granted log).map (·.id) ++ l.grantsAt (.turn (.visitor id)) := by
  have h' := h.turn hperiod (.visitor id)
  rw [← granted_comingsAt l log id, grantsAt]
  split
  · rename_i hnew
    obtain ⟨hnone, hgranted⟩ := hnew
    have hmem := h'.recorded.mem_ids_of_granted hgranted
    obtain ⟨before, k, after, hlog, rfl, hbehind⟩ := h.exists_split hnone hmem
    have hnodup := h'.recorded.ids_nodup
    rw [hlog] at hnodup ⊢
    rw [h.granted_take hnodup hnone hbehind hgranted, List.map_append]
    rfl
  · rename_i hnotnew
    rw [List.append_nil, granted_congr fun c hc => ?_]
    -- The visitor itself has taken none now: its visit was over before, or it has none yet.
    by_cases hc : c.id = id
    · cases hvisit : l.visit? id with
      | none =>
          rw [hc, hvisit, Option.any_none]
          simpa using fun hgranted => hnotnew ⟨hvisit, hgranted⟩
      | some visit => rw [hc, hvisit, h.visit?_turn_of_ended hvisit]
    · rw [(h.confined_turn id).visit? c.id hc]

theorem InOrder.granted_happen (h : l.InOrder period start log) (hperiod : 0 < period) (e : Event) :
    ((l.happen e).granted (log ++ l.comingsAt e)).map (·.id) =
      (l.granted log).map (·.id) ++ l.grantsAt e := by
  have hidle {l' : GateLine} (hvisit : l'.visit? = l.visit?) :
      (l'.granted (log ++ [])).map (·.id) = (l.granted log).map (·.id) ++ [] := by
    rw [List.append_nil, List.append_nil, granted, hvisit]
    rfl
  cases e with
  | turn o =>
      cases o with
      | visitor id => exact h.granted_turn hperiod id
      | token =>
          exact hidle ((sameLine_wakeHead _).visit?.trans (sameLine_beginTurn _ l).visit?)
  | pass now => exact hidle (sameLine_pass now l).visit?
  | arrive deadline => exact hidle (h.visit?_arrive deadline)

theorem InOrder.granted_run (h : l.InOrder period start log) (hperiod : 0 < period)
    (htimely : l.Timely events) :
    ((l.run events).granted (log ++ l.comings events)).map (·.id) =
      (l.granted log).map (·.id) ++ l.grants events := by
  induction events generalizing l log with
  | nil => rw [comings, grants, List.append_nil, List.append_nil]; rfl
  | cons e events ih =>
      rw [comings, grants, ← List.append_assoc, ← List.append_assoc, ← h.granted_happen hperiod e]
      exact ih (h.happen hperiod htimely.1) htimely.2

/-- Tokens are taken in the order of arrival. -/
theorem Fresh.grants_sublist (h : l.Fresh) (hperiod : 0 < l.gate.period)
    (htimely : l.Timely events) :
    (l.grants events).Sublist ((l.comings events).map (·.id)) := by
  have hall := h.inOrder.granted_run hperiod htimely
  rw [List.nil_append] at hall
  have hgrants : (l.granted []).map (·.id) ++ l.grants events = l.grants events := rfl
  rw [← hgrants, ← hall]
  exact List.filter_sublist.map _

/-! ## Who gives up leaves no trace -/

/-- While all wait, exactly those visits have ended that end by now according to the forecast. -/
theorem InOrder.visits_eq (h : l.InOrder period start log) (hwaiting : l.IsWaiting) :
    log.map (fun c => l.visit? c.id) =
      (forecast unknown period start log).map (·.seenBy l.now) := by
  rw [← h.foretold.forecast_eq, Coming.map_seenBy_forecast h.foretold.at_le fun c hc hnone => ?_]
  obtain ⟨⟨hdue, -⟩, hdeadline⟩ := h.ahead hwaiting (mem_pending.mpr ⟨hc, hnone⟩)
  exact ⟨hdue, fun deadline hd => (hdeadline deadline hd).1⟩

/-- Those who come in a run and do not give up in it. -/
def patient (l : GateLine) (events : List Event) : List Coming :=
  (l.comings events).filter fun c => !c.gaveUp (l.run events).visit?

theorem Fresh.exists_patient (h : l.Fresh) (hperiod : 0 < l.gate.period)
    (htimely : l.Timely events) :
    ∃ events', l.Leads events' ((l.patient events).map Coming.request) (l.run events).now := by
  refine h.exists_run hperiod ?_
  have hsorted := h.inOrder.comings_sorted hperiod htimely
  refine hsorted.sublist (((List.Sublist.cons_cons _ ?_).append_right _))
  rw [List.map_map]
  exact List.filter_sublist.map _

theorem Fresh.visits_patient (h : l.Fresh) (hperiod : 0 < l.gate.period) (htimely : l.Timely events)
    (hwaiting : (l.run events).IsWaiting) {events' : List Event}
    (hleads : l.Leads events' ((l.patient events).map Coming.request) (l.run events).now) :
    (l.comings events').map (fun c => (l.run events').visit? c.id) =
      (l.patient events).map fun c => (l.run events).visit? c.id := by
  have horder := h.inOrder.run hperiod htimely
  have horder' := h.inOrder.run hperiod hleads.timely
  rw [List.nil_append] at horder horder'
  rw [horder'.visits_eq hleads.waiting, hleads.now, Coming.forecast_unknown_congr hleads.comings]
  exact (Coming.forecast_filter_gaveUp (horder.visits_eq hwaiting)).symm

/-- Tokens are taken in the order of arrival; and for every moment at which all wait there is a run
up to that moment in which everybody comes who has not given up, and nobody else, and in each such
run everybody takes the same token at the same moment as before, or still waits. -/
theorem fair_run (hfresh : l.Fresh) (hperiod : 0 < l.gate.period) (htimely : l.Timely events) :
    (l.grants events).Sublist ((l.comings events).map (·.id)) ∧
      ((l.run events).IsWaiting →
        (∃ events', l.Leads events' ((l.patient events).map Coming.request) (l.run events).now) ∧
          ∀ events', l.Leads events' ((l.patient events).map Coming.request) (l.run events).now →
            (l.comings events').map (fun c => (l.run events').visit? c.id) =
              (l.patient events).map fun c => (l.run events).visit? c.id) :=
  ⟨hfresh.grants_sublist hperiod htimely, fun hwaiting =>
    ⟨hfresh.exists_patient hperiod htimely, fun _ hleads =>
      hfresh.visits_patient hperiod htimely hwaiting hleads⟩⟩

/-- Of three visitors at once the second gives up at 50 while the next token is due at 100.  Without
it the third takes the same token. -/
theorem fair_run_secondGivesUp :
    let l : GateLine := { gate := { period := 100 } }
    let events : List Event := [.arrive none, .turn (.visitor 0), .arrive (some 50),
      .turn (.visitor 1), .arrive none, .turn (.visitor 2), .pass 50, .turn (.visitor 1),
      .turn (.visitor 2), .pass 100, .turn .token, .turn (.visitor 2)]
    let others : List Event := [.arrive none, .turn (.visitor 0), .arrive none,
      .turn (.visitor 1), .pass 100, .turn .token, .turn (.visitor 1)]
    (l.grants events).Sublist [0, 1, 2] ∧
      (l.comings events).map (fun c => (l.run events).visit? c.id) =
        [some ⟨true, 0⟩, some ⟨false, 50⟩, some ⟨true, 100⟩] ∧
      (l.comings others).map (fun c => (l.run others).visit? c.id) =
        [some ⟨true, 0⟩, some ⟨true, 100⟩] := by
  intro l events others
  have htimely : l.Timely events := by decide +kernel
  have hfair := fair_run (l := l) ⟨rfl, rfl, rfl, rfl, rfl⟩ (by decide) htimely
  have hwaiting : (l.run events).IsWaiting := by decide +kernel
  have hothers : l.Leads others ((l.patient events).map Coming.request) (l.run events).now :=
    ⟨by decide +kernel, by decide +kernel, by decide +kernel, by decide +kernel⟩
  have hids : (l.comings events).map (·.id) = [0, 1, 2] := by decide +kernel
  have hpatient : (l.patient events).map (fun c => (l.run events).visit? c.id) =
      [some ⟨true, 0⟩, some ⟨true, 100⟩] := by decide +kernel
  refine ⟨hids ▸ hfair.1, by decide +kernel, ?_⟩
  rw [(hfair.2 hwaiting).2 others hothers, hpatient]

end MapScout.GateLine
