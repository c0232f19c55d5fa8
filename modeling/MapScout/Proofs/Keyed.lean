/-!
# Values under keys

Tasks, connections and calls are kept in lists of keys and values.  What is changed under one key is
found under it and leaves the other keys alone.
-/

namespace MapScout.Keyed

variable {α : Type} {key : Nat}

/-- Two ways to look up a key. -/
theorem find?_map_snd (entries : List (Nat × α)) :
    (entries.find? (·.1 == key)).map (·.2) = entries.lookup key := by
  rw [List.find?_eq_findSome?_guard, List.map_findSome?, List.lookup_eq_findSome?]
  congr
  funext entry
  by_cases hkey : entry.1 = key
  · simp [Option.guard, hkey]
  · simp [Option.guard, hkey, Ne.symm hkey]

/-- What is found under any key after a change under one. -/
theorem lookup_change (i : Nat) (f : α → α) (entries : List (Nat × α)) :
    (entries.map fun (i, x) => if i = key then (i, f x) else (i, x)).lookup i =
      (entries.lookup i).map fun x => if i = key then f x else x := by
  have hkeys : ((fun entry : Nat × α => entry.1 == i) ∘
      fun (i, x) => if i = key then (i, f x) else (i, x)) = fun entry => entry.1 == i := by
    funext entry
    dsimp only [Function.comp]
    split <;> rfl
  rw [← find?_map_snd, ← find?_map_snd, List.find?_map, hkeys]
  cases hfind : entries.find? (·.1 == i) with
  | none => rfl
  | some entry =>
      have hkey : entry.1 = i := by simpa using List.find?_some hfind
      subst hkey
      dsimp only [Option.map]
      split <;> rfl

theorem lookup_map (f : α → α) (entries : List (Nat × α)) :
    (entries.map fun (i, x) => if i = key then (i, f x) else (i, x)).lookup key =
      (entries.lookup key).map f := by
  simp [lookup_change]

theorem lookup_map_of_ne {i : Nat} (f : α → α) (entries : List (Nat × α)) (h : i ≠ key) :
    (entries.map fun (i, x) => if i = key then (i, f x) else (i, x)).lookup i =
      entries.lookup i := by
  simp [lookup_change, h]

/-- What a change leaves alone can be read off the old entries. -/
theorem map_map_eq {β : Type} (key : Nat) (f : α → α) (g : Nat → α → β)
    (hf : ∀ x, g key (f x) = g key x) (entries : List (Nat × α)) :
    ((entries.map fun (i, x) => if i = key then (i, f x) else (i, x)).map fun (i, x) => g i x) =
      entries.map fun (i, x) => g i x := by
  rw [List.map_map]
  apply List.map_congr_left
  intro entry _
  obtain ⟨i, x⟩ := entry
  by_cases hi : i = key
  · simp [hi, hf]
  · simp [hi]

theorem keys_map (key : Nat) (f : α → α) (entries : List (Nat × α)) :
    (entries.map fun (i, x) => if i = key then (i, f x) else (i, x)).map (·.1) =
      entries.map (·.1) :=
  map_map_eq key f (fun i _ => i) (fun _ => rfl) entries

theorem mem_of_lookup {entries : List (Nat × α)} {x : α} (h : entries.lookup key = some x) :
    (key, x) ∈ entries := by
  induction entries with
  | nil => cases h
  | cons entry entries ih =>
      obtain ⟨i, y⟩ := entry
      by_cases hi : key = i
      · subst hi
        simp only [List.lookup_cons, beq_self_eq_true] at h
        rw [Option.some.inj h]
        exact List.mem_cons_self
      · have hne : (key == i) = false := by simpa using hi
        simp only [List.lookup_cons, hne] at h
        exact List.mem_cons_of_mem _ (ih h)

/-- With no key twice, what is listed is what is found. -/
theorem lookup_of_mem {entries : List (Nat × α)} {x : α} (hnodup : (entries.map (·.1)).Nodup)
    (h : (key, x) ∈ entries) : entries.lookup key = some x := by
  induction entries with
  | nil => cases h
  | cons entry entries ih =>
      obtain ⟨i, y⟩ := entry
      obtain ⟨hi, hnodup⟩ := List.nodup_cons.mp hnodup
      rcases List.mem_cons.mp h with heq | hmem
      · obtain ⟨rfl, rfl⟩ := Prod.mk.inj heq
        simp
      · have hne : (key == i) = false := by
          apply beq_eq_false_iff_ne.mpr
          rintro rfl
          exact hi (List.mem_map.mpr ⟨_, hmem, rfl⟩)
        simp only [List.lookup_cons, hne]
        exact ih hnodup hmem

theorem lookup_eq_none {entries : List (Nat × α)} (h : key ∉ entries.map (·.1)) :
    entries.lookup key = none := by
  cases hx : entries.lookup key with
  | none => rfl
  | some x => exact absurd (List.mem_map_of_mem (mem_of_lookup hx)) h

theorem lookup_append_of_none {entries : List (Nat × α)} (h : entries.lookup key = none) (x : α) :
    (entries ++ [(key, x)]).lookup key = some x := by
  rw [List.lookup_append, h]
  simp

theorem lookup_append {entries : List (Nat × α)} (h : key ∉ entries.map (·.1)) (x : α) :
    (entries ++ [(key, x)]).lookup key = some x :=
  lookup_append_of_none (lookup_eq_none h) x

theorem lookup_append_of_ne {i : Nat} (h : i ≠ key) (entries : List (Nat × α)) (x : α) :
    (entries ++ [(key, x)]).lookup i = entries.lookup i := by
  have hne : (i == key) = false := by simpa using h
  rw [List.lookup_append]
  simp [List.lookup_cons, hne]

def others (key : Nat) (entries : List (Nat × α)) : List (Nat × α) := entries.filter (·.1 != key)

theorem others_sublist (key : Nat) (entries : List (Nat × α)) :
    (others key entries).Sublist entries := List.filter_sublist

theorem lookup_others (key : Nat) (entries : List (Nat × α)) :
    (others key entries).lookup key = none := by
  apply lookup_eq_none
  simp [others]

theorem lookup_others_of_ne {i : Nat} (h : i ≠ key) (entries : List (Nat × α)) :
    (others key entries).lookup i = entries.lookup i := by
  induction entries with
  | nil => rfl
  | cons entry entries ih =>
      obtain ⟨j, x⟩ := entry
      by_cases hj : j = key
      · have hne : (i == key) = false := by simpa using h
        subst hj
        simpa [others, List.lookup_cons, hne] using ih
      · have hcons : others key ((j, x) :: entries) = (j, x) :: others key entries :=
          List.filter_cons_of_pos (by simpa using hj)
        rw [hcons, List.lookup_cons, List.lookup_cons, ih]

theorem others_eq_self {entries : List (Nat × α)} (h : key ∉ entries.map (·.1)) :
    others key entries = entries := by
  apply List.filter_eq_self.mpr
  intro entry hentry
  have hne : entry.1 ≠ key := by
    rintro rfl
    exact h (List.mem_map_of_mem hentry)
  simpa using hne

theorem others_of_lookup {entries : List (Nat × α)} (h : entries.lookup key = none) :
    others key entries = entries := by
  apply others_eq_self
  intro hmem
  obtain ⟨entry, hentry, rfl⟩ := List.mem_map.mp hmem
  simpa using List.lookup_eq_none_iff.mp h entry hentry

theorem others_map (f : α → α) (entries : List (Nat × α)) :
    others key (entries.map fun (i, x) => if i = key then (i, f x) else (i, x)) =
      others key entries := by
  induction entries with
  | nil => rfl
  | cons entry entries ih =>
      obtain ⟨i, x⟩ := entry
      rw [List.map_cons]
      by_cases hi : i = key
      · simpa [others, hi] using ih
      · simpa [others, hi] using ih

/-- An entry and the others are all there is. -/
theorem perm_others {entries : List (Nat × α)} {x : α} (hnodup : (entries.map (·.1)).Nodup)
    (h : entries.lookup key = some x) : entries.Perm ((key, x) :: others key entries) := by
  induction entries with
  | nil => cases h
  | cons entry entries ih =>
      obtain ⟨i, y⟩ := entry
      obtain ⟨hi, hnodup⟩ := List.nodup_cons.mp hnodup
      by_cases hkey : i = key
      · subst hkey
        simp only [List.lookup_cons, beq_self_eq_true] at h
        have hothers : others i ((i, y) :: entries) = entries := by
          rw [others, List.filter_cons_of_neg (by simp)]
          exact others_eq_self hi
        rw [hothers, Option.some.inj h]
      · have hne : (key == i) = false := by simpa using fun he => hkey he.symm
        simp only [List.lookup_cons, hne] at h
        have hothers : others key ((i, y) :: entries) = (i, y) :: others key entries :=
          List.filter_cons_of_pos (by simpa using hkey)
        rw [hothers]
        exact ((ih hnodup h).cons _).trans (List.Perm.swap ..)

/-- A change at one key changes its entry and leaves the others. -/
theorem map_perm_others {entries : List (Nat × α)} {x : α} (hnodup : (entries.map (·.1)).Nodup)
    (h : entries.lookup key = some x) (f : α → α) :
    (entries.map fun (i, x) => if i = key then (i, f x) else (i, x)).Perm
      ((key, f x) :: others key entries) := by
  have hothers : ((others key entries).map fun (i, x) => if i = key then (i, f x) else (i, x)) =
      others key entries := by
    refine (List.map_congr_left fun entry hentry => ?_).trans (List.map_id _)
    have hne : entry.1 ≠ key := by simpa using (List.mem_filter.mp hentry).2
    simp [hne]
  have hperm := (perm_others hnodup h).map fun (i, x) => if i = key then (i, f x) else (i, x)
  rw [List.map_cons, hothers] at hperm
  simpa using hperm

end MapScout.Keyed
