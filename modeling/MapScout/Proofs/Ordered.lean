import Mathlib.Data.String.Basic
import MapScout.Dispatch.Board
import MapScout.Stock.ObjectCache

/-!
# Lists ordered by a name

The status board and the object cache are lists in the order of their names, with one entry for each
name.  A new entry takes the place of the one that has its name.
-/

namespace MapScout

namespace Ordered

variable {α : Type} (name : α → String)

def Ascends (entries : List α) : Prop := entries.Pairwise fun x y => name x < name y

/-- Puts an entry where its name belongs, in place of the one that has it. -/
def insert (x : α) : List α → List α
  | [] => [x]
  | y :: rest =>
    if name x < name y then x :: y :: rest
    else if name x = name y then x :: rest
    else y :: insert x rest

variable {name} {x y : α} {entries : List α}

theorem Ascends.names_nodup (h : Ascends name entries) : (entries.map name).Nodup :=
  List.pairwise_map.mpr (h.imp fun hlt => hlt.ne)

theorem Ascends.filter (h : Ascends name entries) (p : α → Bool) :
    Ascends name (entries.filter p) :=
  List.Pairwise.filter p h

/-- What has been inserted replaces what had its name. -/
theorem mem_insert (h : Ascends name entries) :
    y ∈ insert name x entries ↔ y = x ∨ y ∈ entries ∧ name y ≠ name x := by
  induction entries with
  | nil => simp [insert]
  | cons z rest ih =>
      obtain ⟨hz, hrest⟩ := List.pairwise_cons.mp h
      have hlater : ∀ u ∈ rest, name x ≤ name z → name u ≠ name x :=
        fun u hu hle => (hle.trans_lt (hz u hu)).ne'
      rw [insert]
      split_ifs with hlt heq
      · have hkeep : ∀ u ∈ z :: rest, name u ≠ name x := by
          rintro u (_ | ⟨_, hu⟩)
          · exact hlt.ne'
          · exact hlater u hu hlt.le
        constructor
        · rintro (_ | ⟨_, hy⟩)
          · exact Or.inl rfl
          · exact Or.inr ⟨hy, hkeep y hy⟩
        · rintro (rfl | ⟨hy, -⟩)
          · exact List.mem_cons_self
          · exact List.mem_cons_of_mem _ hy
      · constructor
        · rintro (_ | ⟨_, hy⟩)
          · exact Or.inl rfl
          · exact Or.inr ⟨List.mem_cons_of_mem _ hy, hlater y hy heq.le⟩
        · rintro (rfl | ⟨_ | ⟨_, hy⟩, hne⟩)
          · exact List.mem_cons_self
          · exact absurd heq.symm hne
          · exact List.mem_cons_of_mem _ hy
      · rw [List.mem_cons, ih hrest, List.mem_cons]
        constructor
        · rintro (rfl | rfl | ⟨hy, hne⟩)
          · exact Or.inr ⟨Or.inl rfl, fun h => heq h.symm⟩
          · exact Or.inl rfl
          · exact Or.inr ⟨Or.inr hy, hne⟩
        · rintro (rfl | ⟨rfl | hy, hne⟩)
          · exact Or.inr (Or.inl rfl)
          · exact Or.inl rfl
          · exact Or.inr (Or.inr ⟨hy, hne⟩)

theorem Ascends.insert (h : Ascends name entries) (x : α) :
    Ascends name (insert name x entries) := by
  induction entries with
  | nil => exact List.pairwise_singleton _ x
  | cons z rest ih =>
      obtain ⟨hz, hrest⟩ := List.pairwise_cons.mp h
      rw [Ordered.insert]
      split_ifs with hlt heq
      · refine List.pairwise_cons.mpr ⟨?_, h⟩
        rintro u (_ | ⟨_, hu⟩)
        · exact hlt
        · exact hlt.trans (hz u hu)
      · exact List.pairwise_cons.mpr ⟨fun u hu => heq ▸ hz u hu, hrest⟩
      · refine List.pairwise_cons.mpr ⟨fun u hu => ?_, ih hrest⟩
        rcases (mem_insert hrest).mp hu with rfl | ⟨hu, -⟩
        · exact lt_of_le_of_ne (not_lt.mp hlt) (fun h => heq h.symm)
        · exact hz u hu

/-! ## Many entries -/

variable (name) in
/-- The entry is among the others, and no later one has its name. -/
def IsLatest (x : α) (entries : List α) : Prop :=
  ∃ before after, entries = before ++ x :: after ∧ ∀ y ∈ after, name y ≠ name x

/-- The latest of a name is among the later entries, or it is the first and no later one has its
name. -/
theorem isLatest_cons :
    IsLatest name x (y :: entries) ↔
      IsLatest name x entries ∨ x = y ∧ ∀ u ∈ entries, name u ≠ name y := by
  constructor
  · rintro ⟨_ | ⟨z, before⟩, after, heq, hafter⟩
    · obtain ⟨rfl, rfl⟩ := List.cons.inj heq
      exact Or.inr ⟨rfl, hafter⟩
    · obtain ⟨-, rfl⟩ := List.cons.inj heq
      exact Or.inl ⟨before, after, rfl, hafter⟩
  · rintro (⟨before, after, rfl, hafter⟩ | ⟨rfl, hafter⟩)
    · exact ⟨y :: before, after, rfl, hafter⟩
    · exact ⟨[], entries, rfl, hafter⟩

/-- The latest are the same whatever else is known of the entries. -/
theorem isLatest_map {β : Type} {f : β → α} {ds : List β} :
    IsLatest name x (ds.map f) ↔ ∃ d, IsLatest (fun d => name (f d)) d ds ∧ f d = x := by
  constructor
  · rintro ⟨before, after, heq, hafter⟩
    obtain ⟨before, rest, rfl, rfl, hrest⟩ := List.map_eq_append_iff.mp heq
    obtain ⟨d, after, rfl, rfl, rfl⟩ := List.map_eq_cons_iff.mp hrest
    exact ⟨d, ⟨before, after, rfl, fun e he => hafter _ (List.mem_map_of_mem he)⟩, rfl⟩
  · rintro ⟨d, ⟨before, after, rfl, hafter⟩, rfl⟩
    exact ⟨before.map f, after.map f, by rw [List.map_append, List.map_cons],
      List.forall_mem_map.mpr hafter⟩

theorem IsLatest.mem (h : IsLatest name x entries) : x ∈ entries := by
  obtain ⟨before, after, rfl, -⟩ := h
  exact List.mem_append_cons_self

/-- Of entries put in one after the other the latest of each name remain. -/
theorem mem_foldl_insert (h : Ascends name entries) (xs : List α) :
    y ∈ xs.foldl (fun l x => insert name x l) entries ↔
      IsLatest name y xs ∨ y ∈ entries ∧ ∀ x ∈ xs, name x ≠ name y := by
  induction xs generalizing entries with
  | nil => simp [IsLatest]
  | cons x xs ih =>
      rw [List.foldl_cons, ih (h.insert x), mem_insert h, isLatest_cons, List.forall_mem_cons]
      constructor
      · rintro (hlatest | ⟨rfl | ⟨hy, hne⟩, hxs⟩)
        · exact Or.inl (Or.inl hlatest)
        · exact Or.inl (Or.inr ⟨rfl, hxs⟩)
        · exact Or.inr ⟨hy, hne.symm, hxs⟩
      · rintro ((hlatest | ⟨rfl, hxs⟩) | ⟨hy, hne, hxs⟩)
        · exact Or.inl hlatest
        · exact Or.inr ⟨Or.inl rfl, hxs⟩
        · exact Or.inr ⟨Or.inr ⟨hy, hne.symm⟩, hxs⟩

theorem Ascends.foldl_insert (h : Ascends name entries) (xs : List α) :
    Ascends name (xs.foldl (fun l x => Ordered.insert name x l) entries) := by
  induction xs generalizing entries with
  | nil => exact h
  | cons x xs ih => exact ih (h.insert x)

end Ordered

/-! ## The board -/

namespace Board

theorem set_eq_insert (account : String) (proxy : ProxyId) (board : Board) :
    board.set account proxy = Ordered.insert Binding.account ⟨account, proxy⟩ board := by
  induction board with
  | nil => rfl
  | cons b rest ih => rw [set, Ordered.insert, ih]

variable {account : String} {proxy : ProxyId} {board : Board} {x : Binding}

theorem mem_set (h : x ∈ set account proxy board) : x.account = account ∨ x ∈ board := by
  induction board with
  | nil => exact Or.inl (congrArg Binding.account (List.mem_singleton.mp h))
  | cons y rest ih =>
      rw [set] at h
      split at h
      · rcases List.mem_cons.mp h with rfl | h
        · exact Or.inl rfl
        · exact Or.inr h
      · split at h
        · rcases List.mem_cons.mp h with rfl | h
          · exact Or.inl rfl
          · exact Or.inr (List.mem_cons_of_mem _ h)
        · rcases List.mem_cons.mp h with rfl | h
          · exact Or.inr List.mem_cons_self
          · exact (ih h).imp_right (List.mem_cons_of_mem _)

theorem mem_remove : x ∈ board.remove account ↔ x ∈ board ∧ x.account ≠ account := by
  simp [remove]

theorem ascends_set (h : Ordered.Ascends Binding.account board) :
    Ordered.Ascends Binding.account (board.set account proxy) := by
  rw [set_eq_insert]
  exact h.insert _

theorem ascends_remove (h : Ordered.Ascends Binding.account board) :
    Ordered.Ascends Binding.account (board.remove account) :=
  h.filter _

/-- The board shows the binding that is set, and those of the other accounts as before. -/
theorem mem_set_iff (h : Ordered.Ascends Binding.account board) :
    x ∈ board.set account proxy ↔ x = ⟨account, proxy⟩ ∨ x ∈ board.remove account := by
  rw [set_eq_insert, Ordered.mem_insert h, mem_remove]

end Board

/-! ## The cache -/

namespace ObjectCache

theorem insert_eq_insert (o : MapObject) (c : ObjectCache) :
    insert o c = Ordered.insert MapObject.id o c := by
  induction c with
  | nil => rfl
  | cons p rest ih => rw [insert, Ordered.insert, ih]

theorem insertAll_eq_foldl (objects : List MapObject) (c : ObjectCache) :
    insertAll objects c = objects.foldl (fun c o => Ordered.insert MapObject.id o c) c := by
  simp only [insertAll, insert_eq_insert]

end ObjectCache

end MapScout
