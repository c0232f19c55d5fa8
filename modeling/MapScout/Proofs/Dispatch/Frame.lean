import MapScout.Proofs.Dispatch.Moves
import MapScout.Proofs.Timeline

/-!
# What turns leave alone

Most of what a task does in its turn concerns the gates, the store, the board and the counters.  It
leaves the tasks, the pool and the resting sessions as they are, and whoever is ready stays ready.
Each of the relations here is kept by every move of one kind or the other, and so by all operations
that consist of such moves.
-/

namespace MapScout

namespace World

/-- Waking tasks one after the other concerns the timeline alone. -/
theorem foldl_wake (ids : List Nat) (w : World) :
    ids.foldl (fun w id => w.wake (.task id)) w = w.onTime (·.wakeAll (ids.map .task)) := by
  induction ids generalizing w with
  | nil => rfl
  | cons id ids ih => exact ih (w.wake (.task id))

/-- `w'` has come out of `w` without anything happening to the tasks, the pool and the resting
sessions. -/
structure Frame (w w' : World) : Prop where
  tasks : w'.tasks = w.tasks
  pool : w'.pool = w.pool
  cooling : w'.cooling = w.cooling
  nextId : w'.nextId = w.nextId
  config : w'.config = w.config
  now : w'.now = w.now
  ready : ∀ o ∈ w.time.ready, o ∈ w'.time.ready
  faultless : w.store.Faultless → w'.store.Faultless

/-- And nothing has happened to the inventory either. -/
structure Still (w w' : World) : Prop extends Frame w w' where
  inventory : w'.store.inventory = w.store.inventory

theorem Frame.trans {w₁ w₂ w₃ : World} (h₁ : w₁.Frame w₂) (h₂ : w₂.Frame w₃) : w₁.Frame w₃ where
  tasks := h₂.tasks.trans h₁.tasks
  pool := h₂.pool.trans h₁.pool
  cooling := h₂.cooling.trans h₁.cooling
  nextId := h₂.nextId.trans h₁.nextId
  config := h₂.config.trans h₁.config
  now := h₂.now.trans h₁.now
  ready o h := h₂.ready o (h₁.ready o h)
  faultless h := h₂.faultless (h₁.faultless h)

namespace Still

theorem refl (w : World) : w.Still w := ⟨⟨rfl, rfl, rfl, rfl, rfl, rfl, fun _ h => h, id⟩, rfl⟩

theorem trans {w₁ w₂ w₃ : World} (h₁ : w₁.Still w₂) (h₂ : w₂.Still w₃) : w₁.Still w₃ :=
  ⟨h₁.toFrame.trans h₂.toFrame, h₂.inventory.trans h₁.inventory⟩

variable {w : World}

theorem onTime {f : Timeline Owner → Timeline Owner} (hnow : (f w.time).now = w.now)
    (hready : ∀ o ∈ w.time.ready, o ∈ (f w.time).ready) : w.Still (w.onTime f) :=
  ⟨⟨rfl, rfl, rfl, rfl, rfl, hnow, hready, id⟩, rfl⟩

theorem show_ (s : Session) : w.Still (w.show_ s) :=
  ⟨⟨rfl, rfl, rfl, rfl, rfl, rfl, fun _ h => h, id⟩, rfl⟩

theorem count (counters : Counters) : w.Still { w with counters } :=
  ⟨⟨rfl, rfl, rfl, rfl, rfl, rfl, fun _ h => h, id⟩, rfl⟩

/-- To store objects is to leave the inventory alone, whether the store refuses or not. -/
theorem addObjects (objects : List MapObject) : w.Still (w.tellStore (·.addObjects objects)) := by
  refine ⟨⟨rfl, rfl, rfl, rfl, rfl, rfl, fun _ h => h, fun h => h.addObjects objects⟩, ?_⟩
  change (w.store.addObjects objects).2.inventory = w.store.inventory
  rw [Store.addObjects, Store.guarded]
  split <;> rfl

end Still

/-! ## What shows on no board -/

/-- And nothing has happened to the board, and no session has been dropped. -/
structure Quiet (w w' : World) : Prop extends Still w w' where
  board : w'.board = w.board
  evictions : w'.counters.evictions = w.counters.evictions

namespace Quiet

variable {w w' w₁ w₂ w₃ : World}

theorem refl (w : World) : w.Quiet w := ⟨Still.refl w, rfl, rfl⟩

theorem trans (h₁ : w₁.Quiet w₂) (h₂ : w₂.Quiet w₃) : w₁.Quiet w₃ :=
  ⟨h₁.toStill.trans h₂.toStill, h₂.board.trans h₁.board, h₂.evictions.trans h₁.evictions⟩

theorem count {counters : Counters} (h : counters.evictions = w.counters.evictions) :
    w.Quiet { w with counters } :=
  ⟨Still.count counters, rfl, h⟩

theorem addObjects (objects : List MapObject) : w.Quiet (w.tellStore (·.addObjects objects)) :=
  ⟨Still.addObjects objects, rfl, rfl⟩

theorem stir (h : w.Stir w') : w.Quiet w' := by
  cases h with
  | wake o =>
      refine ⟨.onTime (Timeline.now_wake ..) fun o' ho' => ?_, rfl, rfl⟩
      simp [ho']
  | setAlarm due o =>
      refine ⟨.onTime (Timeline.now_setAlarm ..) fun o' ho' => ?_, rfl, rfl⟩
      simpa using ho'
  | syncWall => exact ⟨⟨⟨rfl, rfl, rfl, rfl, rfl, rfl, fun _ h => h, id⟩, rfl⟩, rfl, rfl⟩
  | setGate g gate =>
      cases g <;> exact ⟨⟨⟨rfl, rfl, rfl, rfl, rfl, rfl, fun _ h => h, id⟩, rfl⟩, rfl, rfl⟩
  | log log => exact ⟨⟨⟨rfl, rfl, rfl, rfl, rfl, rfl, fun _ h => h, id⟩, rfl⟩, rfl, rfl⟩

/-- Whatever is done at the clocks and the gates shows on no board. -/
theorem stirs (h : w.Stirs w') : w.Quiet w' := of_moves refl trans stir h

end Quiet

/-- Nor does it concern the inventory. -/
theorem Still.stirs {w w' : World} (h : w.Stirs w') : w.Still w' := (Quiet.stirs h).toStill

/-! ## What is not counted -/

/-- The counters are as before, and so are the tasks, the pool and the resting sessions. -/
structure Uncounted (w w' : World) : Prop extends Frame w w' where
  counters : w'.counters = w.counters

namespace Uncounted

variable {w w' : World}

theorem refl (w : World) : w.Uncounted w := ⟨(Still.refl w).toFrame, rfl⟩

theorem trans {w₁ w₂ w₃ : World} (h₁ : w₁.Uncounted w₂) (h₂ : w₂.Uncounted w₃) :
    w₁.Uncounted w₃ :=
  ⟨h₁.toFrame.trans h₂.toFrame, h₂.counters.trans h₁.counters⟩

theorem addObjects (objects : List MapObject) :
    w.Uncounted (w.tellStore (·.addObjects objects)) :=
  ⟨(Still.addObjects objects).toFrame, rfl⟩

theorem stir (h : w.Stir w') : w.Uncounted w' := by
  refine ⟨(Quiet.stir h).toFrame, ?_⟩
  cases h with
  | setGate g gate => cases g <;> rfl
  | _ => rfl

theorem stirs (h : w.Stirs w') : w.Uncounted w' := of_moves refl trans stir h

theorem deal (h : w.Deal w') : w.Uncounted w' := by
  cases h with
  | store h => exact ⟨⟨rfl, rfl, rfl, rfl, rfl, rfl, fun _ h => h, h.faultless⟩, rfl⟩
  | _ => exact ⟨⟨rfl, rfl, rfl, rfl, rfl, rfl, fun _ h => h, id⟩, rfl⟩

/-- Whatever is done in the store and on the board, apart from counting what is dropped. -/
theorem deals (h : w.Deals w') : w.Uncounted w' := of_moves refl trans deal h

end Uncounted

/-! ## Sessions -/

namespace Frame

variable {w w' : World}

theorem deals (h : w.Deals w') : w.Frame w' := (Uncounted.deals h).toFrame

theorem withStore {store : Store} (h : w.store.Faultless → store.Faultless) :
    w.Frame { w with store } :=
  ⟨rfl, rfl, rfl, rfl, rfl, rfl, fun _ h => h, h⟩

theorem tellStore {α : Type} {f : Store → α × Store}
    (h : w.store.Faultless → (f w.store).2.Faultless) : w.Frame (w.tellStore f) :=
  withStore h

/-- To drop a session concerns the store, the board and the counters. -/
theorem evict (s : Session) : w.Frame (w.evict s) :=
  (Still.count _).toFrame.trans (deals (.evict s))

end Frame

/-! ## Dropped sessions -/

variable {w : World}

/-- A dropped session is counted once. -/
theorem counters_evict (s : Session) : (w.evict s).counters = w.counters.countEviction := by
  rw [evict]
  split <;> split <;> rfl

theorem evictions_finishScan (id : Nat) (scan : Scan) (result : Except ScanError (List MapObject))
    (w : World) : (w.finishScan id scan result).counters.evictions = w.counters.evictions := by
  unfold finishScan finish
  dsimp only
  split <;> rfl

end World

end MapScout
