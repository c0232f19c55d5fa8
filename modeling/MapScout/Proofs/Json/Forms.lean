import MapScout.Proofs.Json.Records

/-!
# Forms

A value is written as the text of its form, and read from the form that a text spells.  Whether a
form loses anything is settled on the level of values: the form is writable, the value is restored
from it, and whatever a form is read as could have been written.  Only numbers that are finite have
a literal.
-/

namespace MapScout.Json

def AllFinite (xs : List Binary64) : Prop := ∀ x ∈ xs, x.isFinite

theorem allFinite_append {xs ys : List Binary64} :
    AllFinite (xs ++ ys) ↔ AllFinite xs ∧ AllFinite ys :=
  List.forall_mem_append

theorem allFinite_pair {x y : Binary64} : AllFinite [x, y] ↔ x.isFinite ∧ y.isFinite := by
  simp [AllFinite]

theorem allFinite_flatMap {α : Type} {floats : α → List Binary64} {as : List α} :
    AllFinite (as.flatMap floats) ↔ ∀ a ∈ as, AllFinite (floats a) := by
  simp only [AllFinite, List.mem_flatMap, forall_exists_index, and_imp]
  exact ⟨fun h a ha x hx => h x a ha hx, fun h x a ha hx => h a ha x hx⟩

namespace Form

variable {α : Type} [Form α]

def write (a : α) : Bytes := (toJson a).render

def read? (bs : Bytes) : Option α := (ofBytes? bs).bind ofJson?

/-- Writing a value and reading it gives the value, `kept` being what is written of it at all and
`floats` the floating-point numbers in it; and a value that has been read is written so that it is
read again. -/
structure RoundTrips (α : Type) [Form α] (floats : α → List Binary64) (kept : α → α) : Prop where
  read_write : ∀ a : α, AllFinite (floats a) → read? (write a) = some (kept a)
  read_again : ∀ (bs : Bytes) (a : α), read? bs = some a → read? (write a) = some a

/-- What has to hold of a form for its texts to round-trip. -/
structure Lawful (α : Type) [Form α] (floats : α → List Binary64) (kept : α → α) : Prop where
  writable : ∀ a : α, IsWritable (toJson a)
  restored : ∀ a : α, AllFinite (floats a) → ofJson? (toJson a) = some (kept a)
  finite : ∀ (j : Json) (a : α), ofJson? j = some a → AllFinite (floats a)
  whole : ∀ (j : Json) (a : α), ofJson? j = some a → kept a = a

variable {floats : α → List Binary64} {kept : α → α}

/-- A form without floating-point numbers of which all is written. -/
theorem Lawful.plain (hwritable : ∀ a : α, IsWritable (toJson a))
    (hrestored : ∀ a : α, ofJson? (toJson a) = some a) : Lawful α (fun _ => []) (fun a => a) where
  writable := hwritable
  restored a _ := hrestored a
  finite _ _ _ _ hx := nomatch hx
  whole _ _ _ := rfl

/-- A lawful codec reads back what it has written, and writes again what it has read. -/
theorem Lawful.roundTrips (h : Lawful α floats kept) : RoundTrips α floats kept := by
  have hwritten : ∀ a : α, AllFinite (floats a) → read? (write a) = some (kept a) := by
    intro a ha
    rw [read?, write, ofBytes?_render (h.writable a), Option.bind_some, h.restored a ha]
  refine ⟨hwritten, fun bs a hread => ?_⟩
  obtain ⟨j, -, hj⟩ := Option.bind_eq_some_iff.mp hread
  rw [hwritten a (h.finite j a hj), h.whole j a hj]

/-! ## Lists and optional values -/

theorem Lawful.isWritable_list (h : Lawful α floats kept) (as : List α) :
    IsWritable (.array (as.map toJson)) := by
  refine .array fun j hj => ?_
  obtain ⟨a, -, rfl⟩ := List.mem_map.mp hj
  exact h.writable a

/-- The items of a list are restored one by one. -/
theorem Lawful.list?_array (h : Lawful α floats kept) {as : List α}
    (hfinite : AllFinite (as.flatMap floats)) :
    list? ofJson? (.array (as.map toJson)) = some (as.map kept) := by
  rw [allFinite_flatMap] at hfinite
  rw [list?]
  induction as with
  | nil => rfl
  | cons a as ih =>
      obtain ⟨ha, has⟩ := List.forall_mem_cons.mp hfinite
      rw [List.map_cons, List.mapM_cons, h.restored a ha, Option.bind_eq_bind, Option.bind_some,
        ih has]
      rfl

/-- Every item of a list that has been read has been read itself. -/
theorem exists_of_list? {as : List α} {j : Json} (h : list? ofJson? j = some as) :
    ∀ a ∈ as, ∃ i : Json, ofJson? i = some a := by
  cases j with
  | array items =>
      rw [list?] at h
      induction items generalizing as with
      | nil =>
          obtain rfl := Option.some.inj h
          simp
      | cons i items ih =>
          rw [List.mapM_cons, Option.bind_eq_bind, Option.bind_eq_some_iff] at h
          obtain ⟨a, ha, h⟩ := h
          obtain ⟨as', has', h⟩ := Option.bind_eq_some_iff.mp h
          obtain rfl := Option.some.inj h
          exact List.forall_mem_cons.mpr ⟨⟨i, ha⟩, ih has'⟩
  | _ => cases h

theorem Lawful.finite_list (h : Lawful α floats kept) {as : List α} {j : Json}
    (hj : list? ofJson? j = some as) : AllFinite (as.flatMap floats) := by
  rw [allFinite_flatMap]
  intro a ha
  obtain ⟨i, hi⟩ := exists_of_list? hj a ha
  exact h.finite i a hi

theorem Lawful.finite_optional (h : Lawful α floats kept) {r : Record} {name : String} {as : List α}
    (hr : r.optional name (list? ofJson?) [] = some as) : AllFinite (as.flatMap floats) := by
  rcases Record.exists_of_optional hr with rfl | ⟨j, hj⟩
  · exact allFinite_flatMap.mpr (by simp)
  · exact h.finite_list hj

theorem Lawful.whole_list (h : Lawful α floats kept) {as : List α} {j : Json}
    (hj : list? ofJson? j = some as) : as.map kept = as := by
  have hmap : as.map kept = as.map id := List.map_congr_left fun a ha => by
    obtain ⟨i, hi⟩ := exists_of_list? hj a ha
    exact h.whole i a hi
  rw [hmap, List.map_id]

end Form

end MapScout.Json
