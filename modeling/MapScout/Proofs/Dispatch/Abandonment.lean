import MapScout.Proofs.Dispatch.Conservation

/-!
# What goes with an abandoned task

A scan or a preload can be abandoned wherever it waits, by a caller that goes away.  It is then
simply gone, and with it the session that it had in its hand: the account and the proxy of that
session are released by nobody.  Nothing else is lost.  So the claims in the inventory are those of
the sessions that are about and of those that are lost, in every run in which tasks are abandoned.
-/

namespace MapScout

/-- Who waits for the pool has no session to work with. -/
theorem Task.session?_of_isAsking {t : Task} (h : t.isAsking = true) : t.session? = none := by
  cases t with
  | scan scan =>
      obtain ⟨place, deadline, stage⟩ := scan
      cases stage with
      | working s attempt wait => cases h
      | _ => rfl
  | preload p => cases h
  | checkout c => rfl

namespace World

variable {w w₀ : World} {known : List ProxyId} {lost hand : List Session} {id : Nat} {t : Task}

inductive Happening where
  | event (e : Event)
  /-- Whoever waits for a task goes away. -/
  | abandon (id : Nat)

namespace Happening

def event? : Happening → Option Event
  | .event e => some e
  | .abandon _ => none

end Happening

def befall (i : Happening) (w : World) : World :=
  match i with
  | .event e => w.happen e
  | .abandon id => w.abandon id

def fate (w : World) (happenings : List Happening) : World :=
  happenings.foldl (fun w i => w.befall i) w

/-- The sessions that go with a task: the one that was handed over to it and that it has not
collected, or the one that it works with. -/
def lostWith (w : World) (id : Nat) : List Session :=
  (w.pool.handed.lookup id).toList ++ ((w.task? id).bind Task.session?).toList

def lostIn : World → List Happening → List Session
  | _, [] => []
  | w, .event e :: happenings => (w.happen e).lostIn happenings
  | w, .abandon id :: happenings => w.lostWith id ++ (w.abandon id).lostIn happenings

/-! ## Abandoning a task -/

def dismiss (id : Nat) (w : World) : World :=
  { w with tasks := Keyed.others id w.tasks }.onTime (·.forget (.task id))

theorem task?_dismiss (id : Nat) : (w.dismiss id).task? id = none :=
  Keyed.lookup_others id w.tasks

/-- A task that has no ticket can be forgotten. -/
theorem Attends.dismiss {asking : Nat → Prop} (h : w.Attends asking) (hid : ¬ asking id) :
    (w.dismiss id).Attends asking := by
  have hkeys : ((Keyed.others id w.tasks).map (·.1)).Sublist (w.tasks.map (·.1)) :=
    (Keyed.others_sublist id w.tasks).map _
  have hothers : World.Attends { w with tasks := Keyed.others id w.tasks } asking :=
    { h with
      tasks_nodup := h.tasks_nodup.sublist hkeys
      tasks_lt := fun i hi => h.tasks_lt i (hkeys.subset hi) }
  apply hothers.rest (h.not_handed hid)
  exact fun o ho hne => Timeline.mem_ready_forget.mpr ⟨ho, hne⟩

/-- To forget a task concerns no other task. -/
theorem spares_dismiss {tasks : List (Nat × Task)} (htasks : w.tasks = tasks) :
    Spares tasks id (w.dismiss id) := by
  intro i hi
  rw [← htasks]
  exact Keyed.lookup_others_of_ne hi w.tasks

/-- Before a task is forgotten, it gives up its ticket if it waits for the pool, or leaves the gate
that it waits at. -/
inductive Departs (w : World) (id : Nat) : World → Prop where
  | ticket (h : w.IsAsking id) : Departs w id { w with pool := w.pool.giveUp id }
  | quiet {w' : World} (h : ¬ w.IsAsking id) (hquiet : w.Quiet w') : Departs w id w'

/-- Wherever a task is abandoned, it departs and is forgotten. -/
theorem abandon_departs (w : World) (id : Nat) :
    ∃ w', w.Departs id w' ∧ w.abandon id = w'.dismiss id := by
  have hstays (h : ¬ w.IsAsking id) : ∃ w', w.Departs id w' ∧ w.dismiss id = w'.dismiss id :=
    ⟨w, .quiet h (Quiet.refl w), rfl⟩
  rw [abandon]
  cases ht : w.task? id with
  | none => exact hstays (not_isAsking_of_none ht)
  | some t =>
      have hasking (h : t.isAsking = true) : w.IsAsking id := ⟨t, ht, h⟩
      have hnot (h : t.isAsking = false) : ¬ w.IsAsking id := not_isAsking ht h
      cases t with
      | scan scan =>
          obtain ⟨place, deadline, stage⟩ := scan
          cases stage with
          | planned start => exact hstays (hnot rfl)
          | checkout until_ => exact ⟨_, .ticket (hasking rfl), rfl⟩
          | leaving => exact ⟨_, .ticket (hasking rfl), rfl⟩
          | finished result at_ => exact hstays (hnot rfl)
          | working s attempt wait =>
              cases wait with
              | login wait =>
                  cases wait with
                  | token turn => exact ⟨_, .quiet (hnot rfl) (.stirs (.leaveGate .login id)), rfl⟩
                  | answer turn a due => exact hstays (hnot rfl)
              | callToken => exact ⟨_, .quiet (hnot rfl) (.stirs (.leaveGate .call id)), rfl⟩
              | call a due => exact hstays (hnot rfl)
      | preload p =>
          obtain ⟨remaining, queued, stage⟩ := p
          cases stage with
          | next => exact hstays (hnot rfl)
          | finished at_ => exact hstays (hnot rfl)
          | login s swapped deadline wait =>
              cases wait with
              | token turn => exact ⟨_, .quiet (hnot rfl) (.stirs (.leaveGate .login id)), rfl⟩
              | answer turn a due => exact hstays (hnot rfl)
      | checkout c =>
          obtain ⟨timeout, stage⟩ := c
          cases stage with
          | planned => exact hstays (hnot rfl)
          | waiting until_ => exact ⟨_, .ticket (hasking rfl), rfl⟩
          | leaving => exact ⟨_, .ticket (hasking rfl), rfl⟩
          | finished result at_ => exact hstays (hnot rfl)

/-- A task that departs has in its hand what is lost with it. -/
theorem Steady.depart (h : w₀.Steady) (hdeparts : w₀.Departs id w) :
    Holds w₀ id (w₀.lostWith id) w := by
  cases hdeparts with
  -- It has no session but the one that was handed over to it, if any, and gets it as if it left.
  | ticket hasking =>
      obtain ⟨t, ht, htasking⟩ := hasking
      have hsession := Task.session?_of_isAsking htasking
      have hlost : w₀.lostWith id = (w₀.pool.handed.lookup id).toList := by
        rw [lostWith, ht, Option.bind_some, hsession]
        exact List.append_nil _
      have hattends := h.attentive.leave ⟨t, ht, htasking⟩
      obtain ⟨-, hhanded, hpool⟩ := h.attentive.serves.leave ⟨t, ht, htasking⟩
      rw [Pool.leave_eq] at hattends hhanded hpool
      rw [hlost]
      exact h.receive ht hsession hpool hattends hhanded
  -- Nothing can have been handed over to it, so that it has just the session of its own stage.
  | quiet hasking hquiet =>
      refine Holds.quiet ?_ hquiet
      have hhanded := Keyed.lookup_eq_none (h.attentive.not_handed hasking)
      rw [lostWith, hhanded]
      cases ht : w₀.task? id with
      | some t =>
          have htasking : t.isAsking = false := by
            rwa [isAsking_iff ht, Bool.not_eq_true] at hasking
          exact h.take ht htasking
      | none =>
          refine ⟨h.attentive.except hasking, rfl, h.faultless, ?_⟩
          rw [Keyed.others_of_lookup ht]
          exact .refl

/-- A task is forgotten, and what it had in its hand is lost. -/
theorem Holds.dismiss (h₀ : w₀.Steady) (h : Holds w₀ id hand w) :
    (w.dismiss id).Steady ∧ w₀.custody.Path ((w.dismiss id).custodyOf
      (hand ++ ((w.dismiss id).pooled ++ ownedBy (w.dismiss id).tasks))) := by
  have hspares : Spares w₀.tasks id (w.dismiss id) := spares_dismiss h.tasks
  refine ⟨⟨?_, h.faultless, ?_⟩, ?_⟩
  · apply (h.attends.dismiss fun hne => hne.2 rfl).congr
    intro i
    by_cases hi : i = id
    · subst hi
      exact iff_of_false (fun hne => hne.2 rfl) (not_isAsking_of_none (task?_dismiss i))
    · rw [isAsking_congr (hspares i hi)]
      exact and_iff_left hi
  · intro i t ht
    by_cases hi : i = id
    · subst hi
      cases (task?_dismiss i).symm.trans ht
    · exact h₀.not_checkout i t ((hspares i hi).symm.trans ht)
  · have htasks : (w.dismiss id).tasks = Keyed.others id w₀.tasks :=
      congrArg (Keyed.others id) h.tasks
    rw [htasks]
    exact h.path

/-! ## Runs in which tasks are abandoned -/

namespace Settled

/-- The claims of what is lost with a task remain. -/
theorem abandon (h : w.Settled known lost) (id : Nat) :
    (w.abandon id).Settled known (lost ++ w.lostWith id) := by
  obtain ⟨w', hdeparts, habandon⟩ := w.abandon_departs id
  obtain ⟨hsteady, hpath⟩ := (h.toSteady.depart hdeparts).dismiss h.toSteady
  rw [habandon]
  have hcovers := Inventory.Covers.path (hpath.append lost) (h.covers.perm List.perm_append_comm)
  refine ⟨hsteady, hcovers.perm ?_⟩
  rw [List.append_assoc]
  exact List.perm_append_comm

/-- Whatever befalls the dispatcher, the claims in the inventory remain those of the same sessions,
those that are lost included. -/
theorem fate (h : w.Settled known lost) (happenings : List Happening)
    (hids : (known ++ addedProxies (happenings.filterMap Happening.event?)).Nodup) :
    (w.fate happenings).Settled (known ++ addedProxies (happenings.filterMap Happening.event?))
      (lost ++ w.lostIn happenings) := by
  induction happenings generalizing w known lost with
  | nil =>
      rw [lostIn, List.append_nil, List.filterMap_nil, show addedProxies [] = [] from rfl,
        List.append_nil]
      exact h
  | cons i happenings ih =>
      cases i with
      | event e =>
          have hsplit := addedProxies_cons e (happenings.filterMap Happening.event?)
          rw [List.filterMap_cons_some (show Happening.event? (.event e) = some e from rfl), hsplit,
            ← List.append_assoc] at hids ⊢
          exact ih (h.happen e (List.nodup_append.mp hids).1) hids
      | abandon id =>
          rw [lostIn, ← List.append_assoc]
          exact ih (h.abandon id) hids

end Settled

/-- As long as no proxy gets a number that was used before, the sessions that tasks had when they
were abandoned are all that is lost: their accounts and proxies stay claimed, and whatever else is
still of use is claimed exactly if a session has it.  If tasks are abandoned only while they have no
session, nothing is lost. -/
theorem conservedBut_fate (hw : w.Fresh) (happenings : List Happening)
    (hids : (w.store.inventory.proxies.map (·.id) ++
      addedProxies (happenings.filterMap Happening.event?)).Nodup) :
    (w.fate happenings).ConservedBut (w.lostIn happenings) := by
  have hsettled := hw.settled (List.nodup_append.mp hids).1
  exact (hsettled.fate happenings hids).conservedBut

/-- A dispatcher with one account and one proxy, whose client takes a minute for the map call. -/
def slowClientAhead : World where
  config := { cooldown := 0, loginInterval := 0, callInterval := 0 }
  store := { inventory := {
    accounts := [{ username := "ann", password := "pw", provider := "ptc" }]
    proxies := [{ id := 1 }] } }
  supply := .scripts [.scripted true [] [{ delay := 60000 }]]

/-- A scan gets nothing from the pool, builds a session and makes its map call. -/
def turnsOfSlowClient : List Event :=
  [.scan default 0, .turn (.task 0), .turn (.task 0), .turn .pool, .turn .pool, .pass 5000] ++
  List.replicate 4 (.turn (.task 0))

/-- Nobody waits that long for the answer. -/
def callerGone : List Happening := turnsOfSlowClient.map .event ++ [.abandon 0]

theorem fresh_slowClientAhead : slowClientAhead.Fresh where
  usernames_nodup := by decide
  unused := by decide
  not_inUse := by decide
  faultless := fun _ => rfl
  pool := rfl
  tasks := rfl
  cooling := rfl

theorem conservedBut_fate_callerGone :
    slowClientAhead.Fresh ∧
      (slowClientAhead.store.inventory.proxies.map (·.id) ++
        addedProxies (callerGone.filterMap Happening.event?)).Nodup ∧
      (slowClientAhead.fate callerGone).ConservedBut (slowClientAhead.lostIn callerGone) ∧
      (slowClientAhead.lostIn callerGone).map (fun s => (s.username, s.proxy.id)) = [("ann", 1)] :=
  ⟨fresh_slowClientAhead, by decide,
    conservedBut_fate fresh_slowClientAhead callerGone (by decide), by decide +kernel⟩

/-- When a caller goes away during the map call, the account and the proxy stay claimed, and no
session has them. -/
theorem claims_left_callerGone :
    slowClientAhead.Fresh ∧ slowClientAhead.Timely turnsOfSlowClient ∧
      (slowClientAhead.fate callerGone).IsWaiting ∧
      (∃ a ∈ (slowClientAhead.fate callerGone).store.inventory.accounts,
        a.banned = false ∧ a.flagged = false ∧ a.used = true ∧
          a.username ∉ (slowClientAhead.fate callerGone).live.map (·.username)) ∧
      ∃ p ∈ (slowClientAhead.fate callerGone).store.inventory.proxies,
        p.dead = false ∧ p.inUse = true ∧
          p.id ∉ (slowClientAhead.fate callerGone).live.map (·.proxy.id) :=
  ⟨fresh_slowClientAhead, by decide +kernel, by decide +kernel, by decide +kernel,
    by decide +kernel⟩

end World

end MapScout
