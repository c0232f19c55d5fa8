import Mathlib.Data.List.Nodup
import MapScout.Proofs.Gate.Run
import MapScout.Proofs.Keyed

/-!
# Who is in line

The queue of the gate holds exactly those who got in line and whose visits have not ended, in the
order in which they came, and at every moment the forecast is the one that could be made from the
start.  Each of them is watched: it is ready, or it will be woken when it gives up, and whoever is
first in line when the token is due.
-/

namespace MapScout

def VisitStage.visit? : VisitStage → Option Visit
  | .gone visit => some visit
  | _ => none

namespace GateLine

open Coming (forecast dueThrough unknown)

variable {l l' : GateLine} {log : List Coming} {c k : Coming} {id i : Nat} {v : Visitor}
variable {period start : Nat}

theorem visit?_of_lookup (h : l.visitors.lookup id = some v) : l.visit? id = v.stage.visit? := by
  rw [visit?, h]
  rfl

def pending (l : GateLine) (log : List Coming) : List Coming :=
  log.filter fun c => (l.visit? c.id).isNone

theorem mem_pending : c ∈ l.pending log ↔ c ∈ log ∧ l.visit? c.id = none := by
  rw [pending, List.mem_filter, Option.isNone_iff_eq_none]

/-! ## Invariants -/

/-- The visitors are known under their numbers, and those who got in line stand in the queue until
their visits end. -/
structure Recorded (log : List Coming) (l : GateLine) : Prop where
  keys_nodup : (l.visitors.map (·.1)).Nodup
  keys_lt : ∀ key ∈ l.visitors.map (·.1), key < l.nextId
  ids_nodup : (log.map (·.id)).Nodup
  logged : ∀ id v, l.visitors.lookup id = some v → v.stage ≠ .arriving → id ∈ log.map (·.id)
  known : ∀ c ∈ log, ∃ stage, l.visitors.lookup c.id = some ⟨c.deadline, stage⟩ ∧
    stage ≠ .arriving
  moment_le : ∀ c ∈ log, c.moment ≤ l.now
  queue_eq : l.gate.queue = (l.pending log).map (·.id)

/-- What was foretold at the start, when the token was due at `start`, is foretold still. -/
structure Foretold (period start : Nat) (log : List Coming) (l : GateLine) : Prop where
  period_eq : l.gate.period = period
  forecast_eq : forecast l.visit? period l.gate.due log = forecast unknown period start log
  due_eq : dueThrough l.visit? period l.gate.due log = dueThrough unknown period start log
  at_le : ∀ c ∈ log, ∀ visit, l.visit? c.id = some visit → visit.at_ ≤ l.now
  granted_first : log.Pairwise fun c d =>
    (l.visit? d.id).any (·.granted) = true → (l.visit? c.id).isSome

/-- Nobody in line has missed a token that is due or the moment at which it gives up. -/
structure Punctual (log : List Coming) (l : GateLine) : Prop where
  due : ∀ c ∈ l.pending log, l.now ≤ l.gate.due
  deadline : ∀ c ∈ l.pending log, ∀ deadline, c.deadline = some deadline →
    l.now ≤ max c.moment deadline

/-- Everybody in line will be woken in time, one of them possibly excepted. -/
structure Watched (but : Option Nat) (log : List Coming) (l : GateLine) : Prop where
  deadline : ∀ c ∈ l.pending log, some c.id ≠ but → ∀ deadline, c.deadline = some deadline →
    .visitor c.id ∈ l.time.ready ∨
      l.now < deadline ∧ ⟨deadline, .visitor c.id⟩ ∈ l.time.alarms
  head : ∀ id, l.gate.queue.head? = some id → some id ≠ but →
    .visitor id ∈ l.time.ready ∨ .token ∈ l.time.ready ∨
      l.gate.armed = true ∧ l.now < l.gate.due
  armed : l.gate.armed = true → ⟨l.gate.due, .token⟩ ∈ l.time.alarms ∨ l.gate.due ≤ l.now
  later : ∀ a ∈ l.time.alarms, l.now < a.due

/-- The line is in order. -/
structure InOrder (period start : Nat) (log : List Coming) (l : GateLine) : Prop where
  recorded : l.Recorded log
  foretold : l.Foretold period start log
  punctual : l.Punctual log
  watched : l.Watched none log

/-- One visitor in line is having its turn, possibly its first. -/
structure Midway (period start : Nat) (log : List Coming) (k : Coming) (l : GateLine) : Prop where
  recorded : l.Recorded log
  foretold : l.Foretold period start log
  mem : k ∈ l.pending log
  due_self : l.now ≤ max k.moment l.gate.due
  due_others : ∀ c ∈ l.pending log, c.id ≠ k.id → l.now ≤ l.gate.due
  deadline : ∀ c ∈ l.pending log, ∀ deadline, c.deadline = some deadline →
    l.now ≤ max c.moment deadline
  watched : l.Watched (some k.id) log

/-! ## Changes that leave the line as it is -/

/-- No visit ends, and the gate stays as it is. -/
structure SameVisits (l l' : GateLine) : Prop where
  visit? : l'.visit? = l.visit?
  period : l'.gate.period = l.gate.period
  due : l'.gate.due = l.gate.due
  queue : l'.gate.queue = l.gate.queue
  now : l.now ≤ l'.now

namespace SameVisits

theorem pending (h : l.SameVisits l') (log : List Coming) : l'.pending log = l.pending log := by
  rw [GateLine.pending, GateLine.pending, h.visit?]

theorem foretold (h : l.SameVisits l') (hforetold : l.Foretold period start log) :
    l'.Foretold period start log where
  period_eq := h.period.trans hforetold.period_eq
  forecast_eq := by
    rw [h.visit?, h.due]
    exact hforetold.forecast_eq
  due_eq := by
    rw [h.visit?, h.due]
    exact hforetold.due_eq
  at_le c hc visit hvisit :=
    Nat.le_trans (hforetold.at_le c hc visit (h.visit? ▸ hvisit)) h.now
  granted_first := h.visit? ▸ hforetold.granted_first

/-- If no time passes, nobody misses anything. -/
theorem punctual (h : l.SameVisits l') (hnow : l'.now = l.now) (hpunctual : l.Punctual log) :
    l'.Punctual log where
  due := by
    rw [h.pending, hnow, h.due]
    exact hpunctual.due
  deadline := by
    rw [h.pending, hnow]
    exact hpunctual.deadline

end SameVisits

structure SameLine (l l' : GateLine) : Prop extends l.SameVisits l' where
  visitors : l'.visitors = l.visitors
  nextId : l'.nextId = l.nextId

namespace SameLine

theorem of_eq (hgate : l'.gate.period = l.gate.period ∧ l'.gate.due = l.gate.due ∧
      l'.gate.queue = l.gate.queue) (hvisitors : l'.visitors = l.visitors)
    (hnextId : l'.nextId = l.nextId) (hnow : l.now ≤ l'.now) : l.SameLine l' where
  visit? := by
    funext id
    rw [GateLine.visit?, GateLine.visit?, hvisitors]
  period := hgate.1
  due := hgate.2.1
  queue := hgate.2.2
  now := hnow
  visitors := hvisitors
  nextId := hnextId

theorem trans {l'' : GateLine} (h : l.SameLine l') (h' : l'.SameLine l'') : l.SameLine l'' where
  visit? := h'.visit?.trans h.visit?
  period := h'.period.trans h.period
  due := h'.due.trans h.due
  queue := h'.queue.trans h.queue
  now := Nat.le_trans h.now h'.now
  visitors := h'.visitors.trans h.visitors
  nextId := h'.nextId.trans h.nextId

theorem recorded (h : l.SameLine l') (hrecorded : l.Recorded log) : l'.Recorded log where
  keys_nodup := h.visitors ▸ hrecorded.keys_nodup
  keys_lt := by
    rw [h.visitors, h.nextId]
    exact hrecorded.keys_lt
  ids_nodup := hrecorded.ids_nodup
  logged := h.visitors ▸ hrecorded.logged
  known := h.visitors ▸ hrecorded.known
  moment_le c hc := Nat.le_trans (hrecorded.moment_le c hc) h.now
  queue_eq := by
    rw [h.queue, h.pending]
    exact hrecorded.queue_eq

end SameLine

theorem sameLine_onTime (l : GateLine) {f : Timeline LineOwner → Timeline LineOwner}
    (hnow : l.time.now ≤ (f l.time).now) : l.SameLine (l.onTime f) :=
  .of_eq ⟨rfl, rfl, rfl⟩ rfl rfl hnow

theorem sameLine_wakeHead (l : GateLine) : l.SameLine l.wakeHead := by
  rw [wakeHead]
  split
  · exact l.sameLine_onTime (Nat.le_of_eq (Timeline.now_wake ..).symm)
  · exact .of_eq ⟨rfl, rfl, rfl⟩ rfl rfl (Nat.le_refl _)

theorem now_wakeHead (l : GateLine) : l.wakeHead.now = l.now := by
  rw [wakeHead]
  split
  · exact Timeline.now_wake ..
  · rfl

/-! ## Somebody gets in line -/

/-- The visitor is at the new stage; the deadline is as before. -/
theorem lookup_setStage (stage : VisitStage) (l : GateLine) :
    (l.setStage id stage).visitors.lookup id =
      (l.visitors.lookup id).map fun v => { v with stage } :=
  Keyed.lookup_map (fun v => { v with stage }) l.visitors

theorem lookup_setStage_of_ne (stage : VisitStage) (l : GateLine) (h : i ≠ id) :
    (l.setStage id stage).visitors.lookup i = l.visitors.lookup i :=
  Keyed.lookup_map_of_ne (fun v : Visitor => { v with stage }) l.visitors h

theorem keys_setStage (stage : VisitStage) (l : GateLine) :
    (l.setStage id stage).visitors.map (·.1) = l.visitors.map (·.1) :=
  Keyed.keys_map id (fun v : Visitor => { v with stage }) l.visitors

theorem visit?_setStage_of_ne (stage : VisitStage) (l : GateLine) (h : i ≠ id) :
    (l.setStage id stage).visit? i = l.visit? i := by
  rw [visit?, lookup_setStage_of_ne stage l h, ← visit?]

theorem visit?_setStage (stage : VisitStage) (h : l.visitors.lookup id = some v) :
    (l.setStage id stage).visit? id = stage.visit? := by
  apply visit?_of_lookup (v := { v with stage })
  rw [lookup_setStage, h, Option.map_some]

def lineUp (id : Nat) (l : GateLine) : GateLine :=
  { l with gate := l.gate.enter id }.setStage id .inLine

/-- A visitor that has just come and now gets in line. -/
def asComing (l : GateLine) (id : Nat) (deadline : Option Nat) : Coming := ⟨id, l.now, deadline⟩

section LineUp

variable {deadline : Option Nat}

theorem Recorded.not_logged (h : l.Recorded log)
    (hnew : l.visitors.lookup id = some ⟨deadline, .arriving⟩) : id ∉ log.map (·.id) := by
  intro hmem
  obtain ⟨c, hc, rfl⟩ := List.mem_map.mp hmem
  obtain ⟨stage, hlookup, hstage⟩ := h.known c hc
  rw [hlookup] at hnew
  exact hstage (congrArg Visitor.stage (Option.some.inj hnew))

theorem visit?_lineUp (hnew : l.visitors.lookup id = some ⟨deadline, .arriving⟩) :
    (l.lineUp id).visit? = l.visit? := by
  funext i
  by_cases hi : i = id
  · subst hi
    rw [visit?_of_lookup hnew]
    exact visit?_setStage (l := { l with gate := l.gate.enter i }) _ hnew
  · exact visit?_setStage_of_ne _ { l with gate := l.gate.enter id } hi

/-- Who joins the line is the last of those who are still in it. -/
theorem pending_lineUp (log : List Coming)
    (hnew : l.visitors.lookup id = some ⟨deadline, .arriving⟩) :
    (l.lineUp id).pending (log ++ [l.asComing id deadline]) =
      l.pending log ++ [l.asComing id deadline] := by
  have hvisit : l.visit? id = none := visit?_of_lookup hnew
  rw [pending, visit?_lineUp hnew, List.filter_append, ← pending]
  simp [asComing, hvisit]

/-- The queue and the record of who has come grow together. -/
theorem Recorded.lineUp (h : l.Recorded log) (hperiod : l.gate.period ≠ 0)
    (hnew : l.visitors.lookup id = some ⟨deadline, .arriving⟩) :
    (l.lineUp id).Recorded (log ++ [l.asComing id deadline]) where
  keys_nodup := (congrArg List.Nodup (keys_setStage ..)).mpr h.keys_nodup
  keys_lt key hkey := h.keys_lt key ((congrArg (key ∈ ·) (keys_setStage ..)).mp hkey)
  ids_nodup := by
    rw [List.map_append, List.nodup_append]
    refine ⟨h.ids_nodup, List.nodup_singleton _, ?_⟩
    rintro i hi j hj rfl
    obtain rfl := List.mem_singleton.mp hj
    exact h.not_logged hnew hi
  logged i v hv hstage := by
    rw [List.map_append, List.mem_append]
    by_cases hi : i = id
    · exact Or.inr (List.mem_singleton.mpr hi)
    · rw [GateLine.lineUp, lookup_setStage_of_ne _ _ hi] at hv
      exact Or.inl (h.logged i v hv hstage)
  known c hc := by
    rcases List.mem_append.mp hc with hc | hc
    · obtain ⟨stage, hlookup, hstage⟩ := h.known c hc
      have hne : c.id ≠ id := fun he => h.not_logged hnew (he ▸ List.mem_map_of_mem hc)
      refine ⟨stage, ?_, hstage⟩
      rw [GateLine.lineUp, lookup_setStage_of_ne _ _ hne]
      exact hlookup
    · obtain rfl := List.mem_singleton.mp hc
      refine ⟨.inLine, ?_, nofun⟩
      rw [GateLine.lineUp, asComing, lookup_setStage, hnew]
      rfl
  moment_le c hc := by
    rcases List.mem_append.mp hc with hc | hc
    · exact h.moment_le c hc
    · obtain rfl := List.mem_singleton.mp hc
      exact Nat.le_refl _
  queue_eq := by
    rw [pending_lineUp _ hnew, List.map_append, ← h.queue_eq]
    exact congrArg Gate.queue (if_neg hperiod)

/-- Who joins the line comes after all others, so their forecast stands. -/
theorem Foretold.lineUp (h : l.Foretold period start log)
    (hnew : l.visitors.lookup id = some ⟨deadline, .arriving⟩) :
    (l.lineUp id).Foretold period start (log ++ [l.asComing id deadline]) := by
  have hvisit : l.visit? id = none := visit?_of_lookup hnew
  have hgate : (l.lineUp id).gate.due = l.gate.due ∧ (l.lineUp id).gate.period = l.gate.period := by
    change (l.gate.enter id).due = _ ∧ (l.gate.enter id).period = _
    rw [Gate.enter]
    split <;> exact ⟨rfl, rfl⟩
  refine ⟨hgate.2.trans h.period_eq, ?_, ?_, ?_, ?_⟩
  · rw [visit?_lineUp hnew, hgate.1, Coming.forecast_append, Coming.forecast_append, h.forecast_eq,
      h.due_eq, Coming.forecast_singleton hvisit, Coming.forecast_singleton rfl]
  · rw [visit?_lineUp hnew, hgate.1, Coming.dueThrough_append, Coming.dueThrough_append, h.due_eq,
      Coming.dueThrough_singleton hvisit, Coming.dueThrough_singleton rfl]
  · intro c hc visit hended
    rw [visit?_lineUp hnew] at hended
    rcases List.mem_append.mp hc with hc | hc
    · exact h.at_le c hc visit hended
    · obtain rfl := List.mem_singleton.mp hc
      rw [asComing, hvisit] at hended
      cases hended
  · rw [visit?_lineUp hnew, List.pairwise_append]
    refine ⟨h.granted_first, List.pairwise_singleton .., ?_⟩
    intro c hc d hd hgranted
    obtain rfl := List.mem_singleton.mp hd
    rw [asComing, hvisit] at hgranted
    cases hgranted

end LineUp

/-! ## Somebody leaves -/

/-- A visit ends, and nobody has been woken for that yet. -/
def left (id : Nat) (granted : Bool) (gate : Gate) (l : GateLine) : GateLine :=
  ({ l with gate }.setStage id (.gone ⟨granted, l.now⟩)).onTime (·.forget (.visitor id))

theorem finish_eq (id : Nat) (granted : Bool) (gate : Gate) (l : GateLine) :
    l.finish id granted gate = (l.left id granted gate).wakeHead := rfl

section Left

variable {granted : Bool} {gate : Gate} {before after : List Coming}

theorem visit?_left_of_ne (granted : Bool) (gate : Gate) (l : GateLine) (h : i ≠ id) :
    (l.left id granted gate).visit? i = l.visit? i :=
  visit?_setStage_of_ne _ { l with gate } h

theorem Recorded.visit?_left (h : l.Recorded log) (hk : k ∈ log) (granted : Bool) (gate : Gate) :
    (l.left k.id granted gate).visit? k.id = some ⟨granted, l.now⟩ := by
  obtain ⟨stage, hlookup, -⟩ := h.known k hk
  exact visit?_setStage (l := { l with gate }) (.gone ⟨granted, l.now⟩) hlookup

/-- Who is still in line when one visitor has left. -/
theorem Recorded.mem_pending_left (h : l.Recorded log) (hk : k ∈ log) :
    c ∈ (l.left k.id granted gate).pending log ↔ c ∈ l.pending log ∧ c.id ≠ k.id := by
  rw [mem_pending, mem_pending]
  by_cases hc : c.id = k.id
  · rw [hc, h.visit?_left hk]
    simp
  · rw [visit?_left_of_ne _ _ _ hc]
    simp [hc]

theorem Recorded.pending_left (h : l.Recorded log) (hk : k ∈ log) :
    (l.left k.id granted gate).pending log = (l.pending log).filter (·.id != k.id) := by
  rw [pending, pending, List.filter_filter]
  refine List.filter_congr fun c _ => ?_
  by_cases hc : c.id = k.id
  · rw [hc, h.visit?_left hk]
    simp
  · rw [visit?_left_of_ne _ _ _ hc]
    simp [hc]

/-- One visitor leaves the queue and the list of those in line. -/
theorem Recorded.left (h : l.Recorded log) (hk : k ∈ log)
    (hqueue : gate.queue = l.gate.queue.erase k.id) :
    (l.left k.id granted gate).Recorded log where
  keys_nodup := (congrArg List.Nodup (keys_setStage ..)).mpr h.keys_nodup
  keys_lt key hkey := h.keys_lt key ((congrArg (key ∈ ·) (keys_setStage ..)).mp hkey)
  ids_nodup := h.ids_nodup
  logged i v hv hstage := by
    by_cases hi : i = k.id
    · exact hi ▸ List.mem_map_of_mem hk
    · exact h.logged i v ((lookup_setStage_of_ne _ { l with gate } hi).symm.trans hv) hstage
  known c hc := by
    obtain ⟨stage, hlookup, hstage⟩ := h.known c hc
    by_cases hi : c.id = k.id
    · refine ⟨.gone ⟨granted, l.now⟩, ?_, nofun⟩
      refine (congrArg (List.lookup · _) hi).trans ((lookup_setStage _ { l with gate }).trans ?_)
      rw [hi] at hlookup
      exact congrArg (Option.map _) hlookup
    · exact ⟨stage, (lookup_setStage_of_ne _ { l with gate } hi).trans hlookup, hstage⟩
  moment_le := h.moment_le
  queue_eq := by
    have hnodup : ((l.pending log).map (·.id)).Nodup :=
      h.ids_nodup.sublist (List.filter_sublist.map _)
    rw [h.pending_left hk]
    refine hqueue.trans ?_
    rw [h.queue_eq, hnodup.erase_eq_filter, List.filter_map]
    rfl

theorem id_ne_of_nodup (h : ((before ++ k :: after).map (·.id)).Nodup)
    (hc : c ∈ before ++ after) : c.id ≠ k.id := by
  intro hsame
  rw [(List.perm_middle.map _).nodup_iff, List.map_cons, List.nodup_cons] at h
  exact h.1 (hsame ▸ List.mem_map_of_mem hc)

theorem Recorded.endsAs (h : l.Recorded (before ++ k :: after)) (hk : l.visit? k.id = none)
    (granted : Bool) (gate : Gate) :
    Coming.EndsAs l.visit? (l.left k.id granted gate).visit? k ⟨granted, l.now⟩
      (before ++ after) where
  before := hk
  after := h.visit?_left List.mem_append_cons_self granted gate
  others _ hd := visit?_left_of_ne _ _ _ (id_ne_of_nodup h.ids_nodup hd)

/-- Those who came before the first in line are gone. -/
theorem Recorded.ended_of_head (h : l.Recorded (before ++ k :: after))
    (hhead : l.gate.queue.head? = some k.id) : ∀ d ∈ before, (l.visit? d.id).isSome := by
  rw [h.queue_eq, pending, List.filter_append] at hhead
  cases hwaiting : before.filter fun c => (l.visit? c.id).isNone with
  | nil =>
      intro d hd
      have hended := List.filter_eq_nil_iff.mp hwaiting d hd
      simpa [Option.isSome_iff_ne_none] using hended
  | cons d rest =>
      rw [hwaiting] at hhead
      have hd : d ∈ before := List.mem_of_mem_filter (hwaiting ▸ List.mem_cons_self)
      exact absurd (Option.some.inj hhead)
        (id_ne_of_nodup h.ids_nodup (List.mem_append_left _ hd))

/-- A visit ends as foretold. -/
theorem Foretold.left (h : l.Foretold period start (before ++ k :: after))
    (hrecorded : l.Recorded (before ++ k :: after)) (hk : l.visit? k.id = none)
    (hperiod : gate.period = l.gate.period)
    (hfirst : granted = true → ∀ d ∈ before, (l.visit? d.id).isSome)
    (hforecast : forecast (l.left k.id granted gate).visit? period gate.due
          (before ++ k :: after) =
        forecast l.visit? period l.gate.due (before ++ k :: after) ∧
      dueThrough (l.left k.id granted gate).visit? period gate.due (before ++ k :: after) =
        dueThrough l.visit? period l.gate.due (before ++ k :: after)) :
    (l.left k.id granted gate).Foretold period start (before ++ k :: after) := by
  have hend := hrecorded.endsAs hk granted gate
  obtain ⟨hbefore, hafter⟩ := List.forall_mem_append.mp hend.others
  refine ⟨hperiod.trans h.period_eq, hforecast.1.trans h.forecast_eq,
    hforecast.2.trans h.due_eq, ?_, ?_⟩
  · intro c hc visit hvisit
    by_cases hi : c.id = k.id
    · rw [hi, hend.after] at hvisit
      obtain rfl := Option.some.inj hvisit
      exact Nat.le_refl _
    · rw [visit?_left_of_ne _ _ _ hi] at hvisit
      exact h.at_le c hc visit hvisit
  · have hold := h.granted_first
    rw [List.pairwise_append, List.pairwise_cons] at hold ⊢
    obtain ⟨hbb, ⟨hka, haa⟩, hba⟩ := hold
    refine ⟨hbb.imp_of_mem fun hc hd hle => ?_, ⟨?_, haa.imp_of_mem fun hc hd hle => ?_⟩, ?_⟩
    · rwa [hbefore _ hc, hbefore _ hd]
    · intro d hd _
      rw [hend.after]
      rfl
    · rwa [hafter _ hc, hafter _ hd]
    · intro c hc d hd hgranted
      rw [hbefore c hc]
      rcases List.mem_cons.mp hd with rfl | hd
      · rw [hend.after] at hgranted
        exact hfirst hgranted c hc
      · rw [hafter d hd] at hgranted
        exact hba c hc d (List.mem_cons_of_mem _ hd) hgranted

end Left

end GateLine

end MapScout
