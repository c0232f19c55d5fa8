import MapScout.Proofs.Dispatch.Hauls
import MapScout.Proofs.Map.Sightings
import MapScout.Proofs.Ordered
import MapScout.Web.ScanDesk

/-!
# What a query of the cache shows

A query shows each object that was stored last under its id, if its kind is asked for: places always,
creatures until they vanish.  But the second zero stands for no second at all, so that a creature
that vanishes then is shown for ever.
-/

namespace MapScout

def Dated.IsSeenAt (now : Int) (d : Dated) : Prop := ∀ t ∈ d.vanishes, t = 0 ∨ now < t

instance (now : Int) (d : Dated) : Decidable (d.IsSeenAt now) :=
  inferInstanceAs (Decidable (∀ t ∈ d.vanishes, _))

/-- `shown` is what a query at second `now` shows of what was stored, for these kinds. -/
structure IsView (stored : List Dated) (kinds : List ObjectKind) (now : Int)
    (shown : List MapObject) : Prop where
  ids_nodup : (shown.map (·.id)).Nodup
  latest : ∀ o ∈ shown, ∃ d, Ordered.IsLatest (fun d => d.object.id) d stored ∧ d.object = o
  mem_iff : ∀ d, Ordered.IsLatest (fun d => d.object.id) d stored →
    (d.object ∈ shown ↔ d.object.kind ∈ kinds ∧ d.IsSeenAt now)
  /-- The creatures are the objects that vanish. -/
  vanishes_isSome : ∀ d ∈ stored, d.vanishes.isSome ↔ d.object.kind = .pokemon

theorem Dated.IsTrue.isVisibleAt {d : Dated} (h : d.IsTrue) (now : Int) :
    d.object.isVisibleAt now = true ↔ d.IsSeenAt now := by
  have hzero : d.object.expiry = 0 ↔ d.vanishes.getD 0 = 0 := by
    rw [← h.expiry, ← Int64.toInt_inj]
    rfl
  simp only [MapObject.isVisibleAt, Bool.or_eq_true, decide_eq_true_eq, hzero, h.expiry, IsSeenAt]
  cases d.vanishes <;> simp

theorem isView_visible {stored : List Dated} (htrue : ∀ d ∈ stored, d.IsTrue)
    (kinds : List ObjectKind) (now : Int) :
    IsView stored kinds now
      (ObjectCache.visible (ObjectCache.insertAll (stored.map (·.object)) []) kinds now) := by
  have hascends : Ordered.Ascends MapObject.id [] := List.Pairwise.nil
  rw [ObjectCache.insertAll_eq_foldl]
  have hmem (o : MapObject) := Ordered.mem_foldl_insert (y := o) hascends (stored.map (·.object))
  simp only [List.not_mem_nil, false_and, or_false] at hmem
  refine ⟨?_, fun o ho => ?_, fun d hd => ?_, fun d hd => (htrue d hd).vanishes_isSome⟩
  · exact ((hascends.foldl_insert _).filter _).names_nodup
  · exact Ordered.isLatest_map.mp ((hmem o).mp (List.mem_filter.mp ho).1)
  · have hlatest := (hmem d.object).mpr (Ordered.isLatest_map.mpr ⟨d, hd, rfl⟩)
    rw [ObjectCache.visible, List.mem_filter, and_iff_right hlatest, Bool.and_eq_true,
      (htrue d hd.mem).isVisibleAt]
    simp

namespace World

variable {w : World}

def stored (w : World) (events : List Event) : List Dated :=
  (w.hauls events).flatMap fun h => Sighting.dated h.payload h.moment

theorem objects_stored (events : List Event) :
    (w.stored events).map (·.object) = (w.hauls events).flatMap Haul.objects := by
  rw [stored, List.map_flatMap]
  exact congrArg (List.flatMap · _) (funext fun h => Sighting.objects_dated h.payload h.moment)

theorem receive_cache {secret : String} {r : Web.Request} {kinds : List ObjectKind}
    (hwish : Scanner.wishOf secret r = .cache kinds) (hanswers : w.store.faults .getObjects = 0) :
    (w.receive secret r).1 = .settled
      ((Scanner.cached (some (w.store.objects.visible kinds w.wallSecond))).sentFor r.method) := by
  rw [receive, hwish]
  dsimp only [onStore]
  rw [Store.getObjects, Store.guarded, if_pos hanswers]
  rfl

/-- A query after any run shows the latest of what was stored in it. -/
theorem cache_shows_latest (hempty : w.store.objects = []) (events : List Event)
    (hanswers : (w.run events).store.faults .getObjects = 0) {secret : String} {r : Web.Request}
    {kinds : List ObjectKind} (hwish : Scanner.wishOf secret r = .cache kinds) :
    ∃ shown,
      ((w.run events).receive secret r).1 =
        .settled ((Scanner.cached (some shown)).sentFor r.method) ∧
      IsView (w.stored events) kinds (w.run events).wallSecond shown := by
  have htrue : ∀ d ∈ w.stored events, d.IsTrue := by
    intro d hd
    obtain ⟨h, -, hd⟩ := List.mem_flatMap.mp hd
    exact Sighting.isTrue_of_mem_dated hd
  have hcache := objects_run (w := w) events
  rw [hempty, ← objects_stored] at hcache
  refine ⟨_, receive_cache hwish hanswers, ?_⟩
  rw [hcache]
  exact isView_visible htrue kinds _

/-- A scan whose session finds a stop and two creatures lured to it, one of which vanishes at second
zero. -/
def luredToStop : World where
  config := { cooldown := 0, loginInterval := 0, callInterval := 0 }
  store := { inventory := { proxies := [{ id := 1, inUse := true }] } }
  pool := { buffer := [{
    account := { username := "ann", password := "pw", provider := "ptc", used := true }
    proxy := { id := 1, inUse := true }
    client := .scripted true [] [{ payload := { cells := [{ forts := [
      { id := "stop", kind := .checkpoint, latitude := .zero, longitude := .zero
        lure := some { encounterId := 1, activePokemonId := 16, expiresMs := 0 } },
      { id := "stop", kind := .checkpoint, latitude := .zero, longitude := .zero
        lure := some { encounterId := 2, activePokemonId := 19, expiresMs := 7000 } }] }] } }] }] }

/-- A scan is asked for, the pool serves it, and the scan goes on to its end.  Then time passes. -/
def scanOfStop : List Event :=
  .scan default 0 :: .turn (.task 0) :: List.replicate 3 (.turn .pool) ++
    List.replicate 3 (.turn (.task 0)) ++ [.pass 5000, .readWall]

def cacheOfAll : Web.Request := { method := "GET", path := "/cache" }

theorem cache_shows_latest_luredToStop :
    luredToStop.store.objects = [] ∧
      (luredToStop.run scanOfStop).store.faults .getObjects = 0 ∧
      Scanner.wishOf "" cacheOfAll = .cache ObjectKind.all ∧
      ∃ shown,
        ((luredToStop.run scanOfStop).receive "" cacheOfAll).1 =
          .settled ((Scanner.cached (some shown)).sentFor cacheOfAll.method) ∧
        IsView (luredToStop.stored scanOfStop) ObjectKind.all
          (luredToStop.run scanOfStop).wallSecond shown := by
  have hanswers : (luredToStop.run scanOfStop).store.faults .getObjects = 0 := by decide +kernel
  have hwish : Scanner.wishOf "" cacheOfAll = .cache ObjectKind.all := by decide +kernel
  exact ⟨rfl, hanswers, hwish, cache_shows_latest rfl scanOfStop hanswers hwish⟩

/-- Five seconds after 1970 began a creature is shown that vanished when it did. -/
theorem vanished_shown_luredToStop :
    Scanner.wishOf "" cacheOfAll = .cache ObjectKind.all ∧
      (luredToStop.run scanOfStop).wallSecond = 5 ∧
      ∃ shown, ∃ d ∈ luredToStop.stored scanOfStop,
        ((luredToStop.run scanOfStop).receive "" cacheOfAll).1 =
          .settled ((Scanner.cached (some shown)).sentFor cacheOfAll.method) ∧
        d.object.kind = .pokemon ∧ d.vanishes = some 0 ∧ d.object ∈ shown := by
  have hwish : Scanner.wishOf "" cacheOfAll = .cache ObjectKind.all := by decide +kernel
  let creature : MapObject :=
    { kind := .pokemon, id := "1", pokemonId := 16, lat := .zero, lng := .zero }
  exact ⟨hwish, by decide +kernel, _, ⟨creature, some 0⟩, by decide +kernel,
    receive_cache hwish (by decide +kernel), rfl, rfl, by decide +kernel⟩

end World

end MapScout
