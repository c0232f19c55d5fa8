import MapScout.Timeline

/-!
# Who is ready, and whose alarms are set

What each operation on a timeline makes of those who are ready, of the alarms and of the clock.
-/

namespace MapScout

namespace Timeline

variable {ι : Type} [BEq ι] [LawfulBEq ι]

@[simp]
theorem mem_ready_wake {i j : ι} {t : Timeline ι} : j ∈ (t.wake i).ready ↔ j ∈ t.ready ∨ j = i := by
  rw [wake]
  split
  · rename_i h
    have hi : i ∈ t.ready := by simpa using h
    constructor
    · exact Or.inl
    · rintro (hj | rfl)
      · exact hj
      · exact hi
  · simp

@[simp]
theorem mem_ready_continue {i j : ι} {t : Timeline ι} :
    j ∈ (t.continue_ i).ready ↔ j ∈ t.ready ∨ j = i := by
  by_cases h : j = i <;> simp [continue_, h]

omit [LawfulBEq ι] in
@[simp]
theorem ready_setAlarm (due : Nat) (i : ι) (t : Timeline ι) :
    (t.setAlarm due i).ready = t.ready := by
  rw [setAlarm]
  split <;> rfl

@[simp]
theorem mem_ready_forget {i j : ι} {t : Timeline ι} :
    j ∈ (t.forget i).ready ↔ j ∈ t.ready ∧ j ≠ i := by
  simp [forget]

omit [LawfulBEq ι] in
@[simp]
theorem now_wake (i : ι) (t : Timeline ι) : (t.wake i).now = t.now := by
  rw [wake]
  split <;> rfl

omit [LawfulBEq ι] in
@[simp]
theorem now_setAlarm (due : Nat) (i : ι) (t : Timeline ι) : (t.setAlarm due i).now = t.now := by
  rw [setAlarm]
  split <;> rfl

def wakeAll (owners : List ι) (t : Timeline ι) : Timeline ι := owners.foldl (fun t i => t.wake i) t

theorem mem_ready_wakeAll {owners : List ι} {j : ι} {t : Timeline ι} :
    j ∈ (t.wakeAll owners).ready ↔ j ∈ t.ready ∨ j ∈ owners := by
  induction owners generalizing t with
  | nil => simp [wakeAll]
  | cons i owners ih =>
      rw [wakeAll, List.foldl_cons, ← wakeAll, ih, mem_ready_wake, List.mem_cons, or_assoc]

omit [LawfulBEq ι] in
theorem now_wakeAll (owners : List ι) (t : Timeline ι) : (t.wakeAll owners).now = t.now := by
  induction owners generalizing t with
  | nil => rfl
  | cons i owners ih => exact (ih (t.wake i)).trans (now_wake ..)

omit [LawfulBEq ι] in
theorem foldl_wake_owner (due : List (Alarm ι)) (t : Timeline ι) :
    due.foldl (fun t a => t.wake a.owner) t = t.wakeAll (due.map (·.owner)) := by
  rw [wakeAll, List.foldl_map]

theorem mem_ready_advance {j : ι} {t : Timeline ι} (now : Nat) (h : j ∈ t.ready) :
    j ∈ (t.advance now).ready := by
  rw [advance]
  dsimp only
  rw [foldl_wake_owner]
  exact mem_ready_wakeAll.mpr (Or.inl h)

omit [LawfulBEq ι] in
theorem now_advance (now : Nat) (t : Timeline ι) : (t.advance now).now = max t.now now := by
  rw [advance]
  dsimp only
  rw [foldl_wake_owner]
  exact now_wakeAll ..

/-! ## Alarms -/

omit [LawfulBEq ι] in
theorem alarms_wake (i : ι) (t : Timeline ι) : (t.wake i).alarms = t.alarms := by
  rw [wake]
  split <;> rfl

omit [LawfulBEq ι] in
theorem alarms_wakeAll (owners : List ι) (t : Timeline ι) :
    (t.wakeAll owners).alarms = t.alarms := by
  induction owners generalizing t with
  | nil => rfl
  | cons i owners ih => exact (ih (t.wake i)).trans (alarms_wake ..)

theorem mem_alarms_setAlarm {a : Alarm ι} {due : Nat} {i : ι} {t : Timeline ι} :
    a ∈ (t.setAlarm due i).alarms ↔ a ∈ t.alarms ∨ a = ⟨due, i⟩ := by
  rw [setAlarm]
  split
  · rename_i h
    obtain ⟨a', ha', heq⟩ := List.any_eq_true.mp h
    have hmem : (⟨due, i⟩ : Alarm ι) ∈ t.alarms := by
      obtain ⟨rfl, rfl⟩ : a'.due = due ∧ a'.owner = i := by simpa using heq
      exact ha'
    constructor
    · exact Or.inl
    · rintro (ha | rfl)
      · exact ha
      · exact hmem
  · simp

/-- An alarm that is due wakes its owner. -/
theorem mem_ready_advance_of_due {a : Alarm ι} {t : Timeline ι} {now : Nat} (ha : a ∈ t.alarms)
    (hdue : a.due ≤ now) : a.owner ∈ (t.advance now).ready := by
  rw [advance]
  dsimp only
  rw [foldl_wake_owner]
  refine mem_ready_wakeAll.mpr (Or.inr (List.mem_map_of_mem ?_))
  simpa using ⟨ha, hdue⟩

omit [LawfulBEq ι] in
theorem alarms_advance (now : Nat) (t : Timeline ι) :
    (t.advance now).alarms = t.alarms.filter (now < ·.due) := by
  rw [advance]
  dsimp only
  rw [foldl_wake_owner, alarms_wakeAll, List.partition_eq_filter_filter]
  refine List.filter_congr fun a _ => ?_
  rw [Function.comp_apply, ← decide_not]
  exact decide_eq_decide.mpr Nat.not_le

omit [LawfulBEq ι] in
/-- An alarm that is not due stays set. -/
theorem mem_alarms_advance {a : Alarm ι} {t : Timeline ι} {now : Nat} (ha : a ∈ t.alarms)
    (hlater : now < a.due) : a ∈ (t.advance now).alarms := by
  rw [alarms_advance]
  exact List.mem_filter.mpr ⟨ha, decide_eq_true hlater⟩

omit [BEq ι] [LawfulBEq ι] in
theorem exists_of_nextDue? {t : Timeline ι} {due : Nat} (h : t.nextDue? = some due) :
    ∃ a ∈ t.alarms, a.due = due :=
  List.mem_map.mp (List.min?_eq_some_iff.mp h).1

omit [BEq ι] [LawfulBEq ι] in
theorem due_le_of_nextDue? {t : Timeline ι} {due : Nat} (h : t.nextDue? = some due) {a : Alarm ι}
    (ha : a ∈ t.alarms) : due ≤ a.due :=
  (List.min?_eq_some_iff.mp h).2 a.due (List.mem_map_of_mem ha)

omit [BEq ι] [LawfulBEq ι] in
theorem alarms_of_nextDue? {t : Timeline ι} (h : t.nextDue? = none) : t.alarms = [] :=
  List.map_eq_nil_iff.mp (List.min?_eq_none_iff.mp h)

/-! ## Changes that spare some -/

/-- Time stands still, and none of those with `P` is taken out of the ready ones or loses an
alarm. -/
structure Spares (P : ι → Prop) (t t' : Timeline ι) : Prop where
  now : t'.now = t.now
  ready : ∀ i, P i → i ∈ t.ready → i ∈ t'.ready
  alarms : ∀ a ∈ t.alarms, P a.owner → a ∈ t'.alarms

namespace Spares

variable {P : ι → Prop} {t t' : Timeline ι}

omit [BEq ι] [LawfulBEq ι] in
theorem refl (P : ι → Prop) (t : Timeline ι) : t.Spares P t :=
  ⟨rfl, fun _ _ h => h, fun _ h _ => h⟩

omit [BEq ι] [LawfulBEq ι] in
theorem trans {t'' : Timeline ι} (h : t.Spares P t') (h' : t'.Spares P t'') : t.Spares P t'' where
  now := h'.now.trans h.now
  ready i hi hready := h'.ready i hi (h.ready i hi hready)
  alarms a ha hi := h'.alarms a (h.alarms a ha hi) hi

omit [BEq ι] [LawfulBEq ι] in
theorem mono {Q : ι → Prop} (h : t.Spares P t') (hQ : ∀ i, Q i → P i) : t.Spares Q t' where
  now := h.now
  ready i hi := h.ready i (hQ i hi)
  alarms a ha hi := h.alarms a ha (hQ a.owner hi)

theorem wake (P : ι → Prop) (i : ι) (t : Timeline ι) : t.Spares P (t.wake i) where
  now := now_wake i t
  ready _ _ h := mem_ready_wake.mpr (Or.inl h)
  alarms a ha _ := by rwa [alarms_wake]

theorem wakeAll (P : ι → Prop) (owners : List ι) (t : Timeline ι) :
    t.Spares P (t.wakeAll owners) where
  now := now_wakeAll owners t
  ready _ _ h := mem_ready_wakeAll.mpr (Or.inl h)
  alarms a ha _ := by rwa [alarms_wakeAll]

theorem setAlarm (P : ι → Prop) (due : Nat) (i : ι) (t : Timeline ι) :
    t.Spares P (t.setAlarm due i) where
  now := now_setAlarm due i t
  ready _ _ h := by rwa [ready_setAlarm]
  alarms _ ha _ := mem_alarms_setAlarm.mpr (Or.inl ha)

theorem continue_ (P : ι → Prop) (i : ι) (t : Timeline ι) : t.Spares P (t.continue_ i) where
  now := rfl
  ready _ _ h := mem_ready_continue.mpr (Or.inl h)
  alarms _ ha _ := ha

theorem clearAlarms {i : ι} (hi : ¬ P i) (t : Timeline ι) : t.Spares P (t.clearAlarms i) where
  now := rfl
  ready _ _ h := h
  alarms a ha hP := by
    have hne : a.owner ≠ i := fun he => hi (he ▸ hP)
    simpa [Timeline.clearAlarms] using ⟨ha, hne⟩

theorem forget {i : ι} (hi : ¬ P i) (t : Timeline ι) : t.Spares P (t.forget i) where
  now := rfl
  ready j hP h := by
    have hne : j ≠ i := fun he => hi (he ▸ hP)
    exact mem_ready_forget.mpr ⟨h, hne⟩
  alarms := (clearAlarms hi t).alarms

/-- Somebody takes its turn. -/
theorem erase {i : ι} (hi : ¬ P i) (t : Timeline ι) :
    t.Spares P { t with ready := t.ready.erase i } where
  now := rfl
  ready j hP h := by
    have hne : j ≠ i := fun he => hi (he ▸ hP)
    exact (List.mem_erase_of_ne hne).mpr h
  alarms _ ha _ := ha

end Spares

/-! ## Alarms that are due -/

def late (t : Timeline ι) : List (Alarm ι) := t.alarms.filter (·.due ≤ t.now)

omit [LawfulBEq ι] in
theorem late_setAlarm {due : Nat} {t : Timeline ι} (h : t.now < due) (i : ι) :
    (t.setAlarm due i).late = t.late := by
  rw [late, now_setAlarm, setAlarm]
  split
  · rfl
  · simp [late, h]

omit [LawfulBEq ι] in
theorem late_wakeAll (owners : List ι) (t : Timeline ι) : (t.wakeAll owners).late = t.late := by
  rw [late, late, alarms_wakeAll, now_wakeAll]

omit [LawfulBEq ι] in
/-- Nobody is woken as long as no alarm is due. -/
theorem ready_advance {t : Timeline ι} {now : Nat} (h : ∀ a ∈ t.alarms, now < a.due) :
    (t.advance now).ready = t.ready := by
  have hnone : t.alarms.filter (·.due ≤ now) = [] := by
    refine List.filter_eq_nil_iff.mpr fun a ha => ?_
    simpa using h a ha
  simp [advance, hnone]

omit [LawfulBEq ι] in
/-- An alarm that is due goes off when the clock moves on. -/
theorem length_late_advance {t : Timeline ι} {now : Nat} {a : Alarm ι} (ha : a ∈ t.alarms)
    (hdue : a.due = now) (hlate : now ≤ t.now) :
    (t.advance now).late.length < t.late.length := by
  have hlate' : (t.advance now).late = t.late.filter (now < ·.due) := by
    rw [late, late, now_advance, alarms_advance, Nat.max_eq_left hlate, List.filter_filter,
      List.filter_filter]
    simp only [Bool.and_comm]
  rw [hlate']
  refine List.length_filter_lt_length_iff_exists.mpr ⟨a, ?_, ?_⟩
  · exact List.mem_filter.mpr ⟨ha, by simpa [hdue] using hlate⟩
  · simp [hdue]

end Timeline

/-! ## Runs of the timeline -/

namespace Timed

variable {σ ι : Type} [BEq ι] [Timed σ ι]

omit [BEq ι] in
theorem ready_of_step?_eq_none {s : σ} (h : step? s = none) : (time s).ready = [] := by
  rw [step?] at h
  split at h
  · assumption
  · cases h

/-- A system takes turns as long as somebody is ready.  Otherwise the clock moves, and not past an
alarm. -/
theorem runUntil_induction {R : σ → σ → Prop} (hrefl : ∀ s, R s s)
    (hturn : ∀ s s' s'', step? s = some s' → R s' s'' → R s s'')
    (hpass : ∀ s s' now, (time s).ready = [] → (∀ a ∈ (time s).alarms, now ≤ a.due) →
      R (setTime ((time s).advance now) s) s' → R s s')
    (done : σ → Bool) (limit turns : Nat) (s : σ) : R s (runUntil done limit turns s) := by
  induction turns generalizing s with
  | zero => exact hrefl s
  | succ turns ih =>
      rw [runUntil]
      split
      · rename_i s' hstep
        exact hturn s s' _ hstep (ih s')
      · rename_i hstep
        have hready := ready_of_step?_eq_none hstep
        split
        · exact hrefl s
        · split
          · rename_i due hdue
            split
            · exact hpass s _ due hready (fun a ha => Timeline.due_le_of_nextDue? hdue ha) (ih _)
            · rename_i hlimit
              refine hpass s _ limit hready (fun a ha => ?_) (hrefl _)
              exact Nat.le_trans (Nat.le_of_not_le hlimit) (Timeline.due_le_of_nextDue? hdue ha)
          · rename_i hdue
            refine hpass s _ limit hready (fun a ha => ?_) (hrefl _)
            rw [Timeline.alarms_of_nextDue? hdue] at ha
            cases ha

end Timed

end MapScout
