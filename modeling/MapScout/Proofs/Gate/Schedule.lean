import MapScout.Proofs.Gate.Events

/-!
# Whoever may come

Whenever and with whatever deadlines visitors are to come, there is a run in which they do.  Turns
come to an end before the clock moves on, since everybody who is ready is either woken once more at
most or leaves the line.
-/

namespace MapScout.GateLine

variable {l : GateLine} {log : List Coming} {c k : Coming} {id : Nat} {v : Visitor}
variable {period start : Nat}

/-! ## Turns come to an end -/

/-- Bounds the number of turns that can be taken before the clock moves on.  The turn of the gate
itself wakes a visitor. -/
def weight (l : GateLine) : Nat :=
  2 * l.gate.queue.length + l.time.ready.length + l.time.ready.count .token

/-- A turn that begins takes its owner off the list of those who are ready. -/
theorem weight_beginTurn {o : LineOwner} (ho : o ∈ l.time.ready) :
    (l.beginTurn o).weight + (if o = .token then 2 else 1) = l.weight := by
  have hlength := List.length_erase_of_mem ho
  have hpos := List.length_pos_of_mem ho
  change 2 * l.gate.queue.length + (l.time.ready.erase o).length +
    (l.time.ready.erase o).count .token + _ = _
  rw [weight, hlength]
  split
  · rename_i htoken
    subst htoken
    have hcount := List.count_pos_iff.mpr ho
    rw [List.count_erase_self]
    omega
  · rename_i hvisitor
    rw [List.count_erase_of_ne (Ne.symm hvisitor)]
    omega

/-- Waking the first in line makes one more of them ready at most. -/
theorem weight_wakeHead (l : GateLine) : l.wakeHead.weight ≤ l.weight + 1 := by
  rw [wakeHead]
  split
  · rename_i id hid
    change 2 * l.gate.queue.length + (l.time.wake (.visitor id)).ready.length +
      (l.time.wake (.visitor id)).ready.count .token ≤ l.weight + 1
    rw [weight, Timeline.wake]
    split
    · omega
    · rw [List.length_append, List.count_append]
      change _ + (_ + 1) + (_ + 0) ≤ _
      omega
  · omega

/-- To leave the line counts for more than to wake the next one. -/
theorem weight_left (granted : Bool) {gate : Gate} (hid : id ∈ l.gate.queue)
    (hqueue : gate.queue = l.gate.queue.erase id) :
    (l.left id granted gate).weight + 2 ≤ l.weight := by
  have hlength := List.length_erase_of_mem hid
  have hpos := List.length_pos_of_mem hid
  have hready := List.length_filter_le (· != .visitor id) l.time.ready
  have hcount : (l.time.ready.filter (· != .visitor id)).count .token ≤
      l.time.ready.count .token := List.filter_sublist.count_le _
  change 2 * gate.queue.length + (l.time.ready.filter (· != .visitor id)).length +
    (l.time.ready.filter (· != .visitor id)).count .token + 2 ≤ l.weight
  rw [weight, hqueue, hlength]
  omega

theorem weight_arm (id : Nat) (l : GateLine) : (l.arm id).weight = l.weight := by
  rw [arm]
  split
  · change 2 * l.gate.queue.length + (l.time.setAlarm l.gate.due .token).ready.length +
      (l.time.setAlarm l.gate.due .token).ready.count .token = _
    rw [Timeline.ready_setAlarm, weight]
  · rfl

/-- A turn in line sets nothing going that was not waiting for it. -/
theorem Midway.weight_inLineTurn (h : l.Midway period start log k) (hperiod : 0 < period) :
    (l.inLineTurn k.id k.deadline).weight ≤ l.weight := by
  have hid : k.id ∈ l.gate.queue := by
    rw [h.recorded.queue_eq]
    exact List.mem_map_of_mem h.mem
  have hfinish {granted : Bool} {gate : Gate} (hqueue : gate.queue = l.gate.queue.erase k.id) :
      (l.finish k.id granted gate).weight ≤ l.weight := by
    have hwake := (l.left k.id granted gate).weight_wakeHead
    have hleft := weight_left granted hid hqueue
    rw [finish_eq]
    omega
  rw [inLineTurn.eq_def]
  split
  · rename_i hcan
    have hpositive : l.gate.period ≠ 0 := by
      rw [h.foretold.period_eq]
      omega
    refine hfinish ?_
    rw [queue_take hpositive hcan]
  · split
    · exact Nat.le_of_eq (weight_arm ..)
    · rename_i deadline _
      split
      · exact hfinish rfl
      · rw [← weight_arm k.id l]
        change 2 * (l.arm k.id).gate.queue.length +
          ((l.arm k.id).time.setAlarm deadline (.visitor k.id)).ready.length +
          ((l.arm k.id).time.setAlarm deadline (.visitor k.id)).ready.count .token ≤ _
        rw [Timeline.ready_setAlarm]
        exact Nat.le_refl _

def AllIn (log : List Coming) (l : GateLine) : Prop :=
  ∀ key ∈ l.visitors.map (·.1), key ∈ log.map (·.id)

/-- Nobody comes when everybody has come. -/
theorem InOrder.comingsAt_of_allIn (h : l.InOrder period start log) (hall : l.AllIn log)
    (o : LineOwner) : l.comingsAt (.turn o) = [] := by
  cases o with
  | token => rfl
  | visitor id =>
      obtain ⟨-, hnobody, -⟩ | ⟨k, -, rfl, -, hnobody⟩ | ⟨deadline, hnew, -, -⟩ := h.turn_cases id
      · exact hnobody
      · exact hnobody
      · have hkey := List.mem_map_of_mem (f := (·.1)) (Keyed.mem_of_lookup hnew)
        exact absurd (hall _ hkey) (h.recorded.not_logged hnew)

theorem InOrder.now_turn (h : l.InOrder period start log) (o : LineOwner) :
    (l.happen (.turn o)).now = l.now := by
  cases o with
  | token => exact now_wakeHead (l.beginTurn .token)
  | visitor id => exact (h.confined_turn id).now

theorem InOrder.keys_turn (h : l.InOrder period start log) (o : LineOwner) :
    (l.happen (.turn o)).visitors.map (·.1) = l.visitors.map (·.1) := by
  cases o with
  | token => exact congrArg _ (sameLine_wakeHead (l.beginTurn .token)).visitors
  | visitor id => exact (h.confined_turn id).keys

/-- Each turn brings the line closer to rest, once everybody has come. -/
theorem InOrder.weight_turn (h : l.InOrder period start log) (hperiod : 0 < period)
    (hall : l.AllIn log) {o : LineOwner} (ho : o ∈ l.time.ready) :
    (l.happen (.turn o)).weight < l.weight := by
  have hbegin := weight_beginTurn ho
  cases o with
  | token =>
      have hwake := weight_wakeHead (l.beginTurn .token)
      rw [if_pos rfl] at hbegin
      change (l.beginTurn .token).wakeHead.weight < l.weight
      omega
  | visitor id =>
      rw [if_neg nofun] at hbegin
      obtain ⟨hturn, -, -⟩ | ⟨k, hk, rfl, hturn, -⟩ | ⟨deadline, hnew, -, -⟩ := h.turn_cases id
      · rw [hturn]
        omega
      · have hinLine := (h.midway hk).weight_inLineTurn hperiod
        rw [hturn]
        omega
      · have hkey := List.mem_map_of_mem (f := (·.1)) (Keyed.mem_of_lookup hnew)
        exact absurd (hall _ hkey) (h.recorded.not_logged hnew)

/-! ## Runs in which nobody comes -/

/-- A timely run in which the given visitors come, up to a moment at which all wait. -/
structure Leads (events : List Event) (requests : List (Nat × Option Nat)) (now : Nat)
    (l : GateLine) : Prop where
  timely : l.Timely events
  comings : (l.comings events).map Coming.request = requests
  waiting : (l.run events).IsWaiting
  now : (l.run events).now = now

/-- Two runs, one after the other, serve the requests of both. -/
theorem Leads.append {xs ys : List Event} {requests requests' : List (Nat × Option Nat)}
    {now now' : Nat} (h : l.Leads xs requests now) (h' : (l.run xs).Leads ys requests' now') :
    l.Leads (xs ++ ys) (requests ++ requests') now' where
  timely := timely_append.mpr ⟨h.timely, h'.timely⟩
  comings := by rw [comings_append, List.map_append, h.comings, h'.comings]
  waiting := by
    rw [run_append]
    exact h'.waiting
  now := by
    rw [run_append]
    exact h'.now

/-- Turns are taken until nobody is ready. -/
theorem InOrder.exists_settled (h : l.InOrder period start log) (hperiod : 0 < period)
    (hall : l.AllIn log) :
    ∃ events, l.Leads events [] l.now ∧ (l.run events).InOrder period start log ∧
      (l.run events).AllIn log := by
  induction hweight : l.weight using Nat.strongRecOn generalizing l with
  | ind weight ih =>
      subst hweight
      cases hready : l.time.ready with
      | nil => exact ⟨[], ⟨trivial, rfl, hready, rfl⟩, h, hall⟩
      | cons o rest =>
          have ho : o ∈ l.time.ready := hready ▸ List.mem_cons_self
          have hnobody := h.comingsAt_of_allIn hall o
          have hnext := h.turn hperiod o
          rw [hnobody, List.append_nil] at hnext
          have hall' : (l.happen (.turn o)).AllIn log := by
            rw [AllIn, h.keys_turn]
            exact hall
          obtain ⟨events, hleads, horder, hin⟩ :=
            ih _ (h.weight_turn hperiod hall ho) hnext hall' rfl
          refine ⟨.turn o :: events, ⟨⟨trivial, hleads.timely⟩, ?_, hleads.waiting, ?_⟩, horder,
            hin⟩
          · rw [comings, hnobody, List.nil_append]
            exact hleads.comings
          · exact hleads.now.trans (h.now_turn o)

/-- The clock moves on to the next alarm, but not further than wanted. -/
theorem InOrder.exists_pass (h : l.InOrder period start log) {limit : Nat}
    (hlimit : l.now < limit) :
    ∃ now, l.now < now ∧ now ≤ limit ∧ ∀ a ∈ l.time.alarms, now ≤ a.due := by
  cases hdue : l.time.nextDue? with
  | none =>
      refine ⟨limit, hlimit, Nat.le_refl _, fun a ha => ?_⟩
      rw [Timeline.alarms_of_nextDue? hdue] at ha
      cases ha
  | some due =>
      obtain ⟨a, ha, rfl⟩ := Timeline.exists_of_nextDue? hdue
      have hlater := h.watched.later a ha
      refine ⟨min a.due limit, Nat.lt_min.mpr ⟨hlater, hlimit⟩, Nat.min_le_right .., fun b hb => ?_⟩
      exact Nat.le_trans (Nat.min_le_left ..) (Timeline.due_le_of_nextDue? hdue hb)

/-- The clock moves on as far as wanted. -/
theorem InOrder.exists_passed (h : l.InOrder period start log) (hperiod : 0 < period)
    (hall : l.AllIn log) (hwaiting : l.IsWaiting) {limit : Nat} (hlimit : l.now ≤ limit) :
    ∃ events, l.Leads events [] limit ∧ (l.run events).InOrder period start log ∧
      (l.run events).AllIn log := by
  induction hleft : limit - l.now using Nat.strongRecOn generalizing l with
  | ind left ih =>
      subst hleft
      by_cases hthere : l.now = limit
      · exact ⟨[], ⟨trivial, rfl, hwaiting, hthere⟩, h, hall⟩
      obtain ⟨now, hmoves, hnot, htimely⟩ := h.exists_pass (Nat.lt_of_le_of_ne hlimit hthere)
      have hpass := h.pass hwaiting htimely
      have hnow : (l.happen (.pass now)).now = now := by
        rw [now_pass]
        omega
      obtain ⟨turns, hturns, horder, hin⟩ := hpass.exists_settled hperiod hall
      have hnow' := hturns.now.trans hnow
      obtain ⟨events, hevents, horder', hin'⟩ :=
        ih (limit - ((l.happen (.pass now)).run turns).now) (by omega) horder hin hturns.waiting
          (by omega) rfl
      have hall := hturns.append hevents
      refine ⟨.pass now :: (turns ++ events),
        ⟨⟨⟨hwaiting, htimely⟩, hall.timely⟩, hall.comings, hall.waiting, hall.now⟩, ?_, ?_⟩
      · change ((l.happen (.pass now)).run (turns ++ events)).InOrder period start log
        rw [run_append]
        exact horder'
      · change ((l.happen (.pass now)).run (turns ++ events)).AllIn log
        rw [run_append]
        exact hin'

/-- Somebody comes and gets in line at once. -/
theorem InOrder.exists_arrived (h : l.InOrder period start log) (hperiod : 0 < period)
    (hall : l.AllIn log) (deadline : Option Nat) :
    ∃ events, l.Leads events [(l.now, deadline)] l.now ∧
      ∃ log', (l.run events).InOrder period start log' ∧ (l.run events).AllIn log' := by
  have hcame := h.arrive deadline
  have hnew : (l.happen (.arrive deadline)).visitors.lookup l.nextId = some ⟨deadline, .arriving⟩ :=
    Keyed.lookup_append h.recorded.nextId_unknown _
  have hnow : (l.happen (.arrive deadline)).now = l.now := Timeline.now_wake ..
  have hcoming : (l.happen (.arrive deadline)).comingsAt (.turn (.visitor l.nextId)) =
      [⟨l.nextId, l.now, deadline⟩] := by
    rw [comingsAt_arriving hnew, hnow]
  have hturn := hcame.turn hperiod (.visitor l.nextId)
  have hin : ((l.happen (.arrive deadline)).happen (.turn (.visitor l.nextId))).AllIn
      (log ++ [⟨l.nextId, l.now, deadline⟩]) := by
    rw [AllIn, hcame.keys_turn]
    intro key hkey
    rw [List.map_append, List.mem_append]
    rcases List.mem_append.mp ((congrArg (key ∈ ·) List.map_append).mp hkey) with hkey | hkey
    · exact Or.inl (hall key hkey)
    · exact Or.inr hkey
  rw [hcoming] at hturn
  obtain ⟨events, hleads, horder, hin⟩ := hturn.exists_settled hperiod hin
  refine ⟨.arrive deadline :: .turn (.visitor l.nextId) :: events,
    ⟨⟨trivial, trivial, hleads.timely⟩, ?_, hleads.waiting, ?_⟩, _, horder, hin⟩
  · have hnobody : l.comingsAt (.arrive deadline) = [] := rfl
    rw [comings, comings, hnobody, hcoming, List.nil_append, List.map_append, hleads.comings]
    rfl
  · exact hleads.now.trans ((hcame.now_turn _).trans hnow)

/-- Whoever may come, there is a run in which they do. -/
theorem InOrder.exists_run (h : l.InOrder period start log) (hperiod : 0 < period)
    (hall : l.AllIn log) (hwaiting : l.IsWaiting) {requests : List (Nat × Option Nat)} {limit : Nat}
    (hsorted : (l.now :: requests.map (·.1) ++ [limit]).Pairwise (· ≤ ·)) :
    ∃ events, l.Leads events requests limit := by
  induction requests generalizing l log with
  | nil =>
      have hlimit : l.now ≤ limit := by simpa using hsorted
      obtain ⟨events, hleads, -⟩ := h.exists_passed hperiod hall hwaiting hlimit
      exact ⟨events, hleads⟩
  | cons request requests ih =>
      obtain ⟨moment, deadline⟩ := request
      obtain ⟨hbounds, hrest⟩ := List.pairwise_cons.mp hsorted
      obtain ⟨xs, hxs, hpassed, hin⟩ :=
        h.exists_passed hperiod hall hwaiting (hbounds moment List.mem_cons_self)
      obtain ⟨ys, hys, log', horder, hin'⟩ := hpassed.exists_arrived hperiod hin deadline
      rw [hxs.now] at hys
      have hrest' : (((l.run xs).run ys).now :: requests.map (·.1) ++ [limit]).Pairwise
          (· ≤ ·) := by
        rw [hys.now]
        exact hrest
      obtain ⟨zs, hzs⟩ := ih horder hin' hys.waiting hrest'
      exact ⟨_, hxs.append (hys.append hzs)⟩

/-- Any list of requests, ordered by their times, can be played. -/
theorem Fresh.exists_run (h : l.Fresh) (hperiod : 0 < l.gate.period)
    {requests : List (Nat × Option Nat)} {limit : Nat}
    (hsorted : (l.now :: requests.map (·.1) ++ [limit]).Pairwise (· ≤ ·)) :
    ∃ events, l.Leads events requests limit := by
  refine h.inOrder.exists_run hperiod ?_ h.ready hsorted
  rw [AllIn, h.visitors]
  nofun

/-! ## When visitors come -/

theorem now_le_happen (h : l.InOrder period start log) (e : Event) : l.now ≤ (l.happen e).now := by
  cases e with
  | turn o => exact Nat.le_of_eq (h.now_turn o).symm
  | pass now =>
      rw [now_pass]
      exact Nat.le_max_left ..
  | arrive deadline => exact Nat.le_of_eq (Timeline.now_wake ..).symm

theorem moment_of_mem_comingsAt {e : Event} (hc : c ∈ l.comingsAt e) : c.moment = l.now := by
  rw [comingsAt.eq_def] at hc
  split at hc
  · split at hc
    · rw [List.mem_singleton.mp hc]
    · cases hc
  · cases hc

/-- Visitors get in line one after the other, in the course of the run. -/
theorem InOrder.comings_sorted (h : l.InOrder period start log) (hperiod : 0 < period)
    {events : List Event} (htimely : l.Timely events) :
    (l.now :: (l.comings events).map (·.moment) ++ [(l.run events).now]).Pairwise (· ≤ ·) := by
  induction events generalizing l log with
  | nil => exact List.pairwise_pair.mpr (Nat.le_refl _)
  | cons e events ih =>
      obtain ⟨hbounds, hrest⟩ := List.pairwise_cons.mp (ih (h.happen hperiod htimely.1) htimely.2)
      have hnow : ∀ moment ∈ l.now :: (l.comingsAt e).map (·.moment), moment = l.now := by
        refine List.forall_mem_cons.mpr ⟨rfl, fun moment hmoment => ?_⟩
        obtain ⟨c, hc, rfl⟩ := List.mem_map.mp hmoment
        exact moment_of_mem_comingsAt hc
      rw [comings, List.map_append, ← List.cons_append, List.append_assoc, List.pairwise_append]
      refine ⟨?_, hrest, fun a ha b hb => ?_⟩
      · rw [List.eq_replicate_of_mem hnow, List.pairwise_replicate]
        exact Or.inr (Nat.le_refl _)
      · rw [hnow a ha]
        exact Nat.le_trans (now_le_happen h e) (hbounds b hb)

end MapScout.GateLine
