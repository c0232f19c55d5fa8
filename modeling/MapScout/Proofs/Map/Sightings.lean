import MapScout.Map.Sighting

/-!
# When creatures vanish

Every object made from a payload is a stop, a gym or a creature.  A creature vanishes at a second
that its sighting tells, and this very second is the expiry of its object: nothing is lost in the
64 bits of it.
-/

namespace MapScout

/-- An object and the second at which it vanishes, if it does. -/
structure Dated where
  object : MapObject
  vanishes : Option Int
  deriving DecidableEq, Repr

/-- Creatures vanish, places do not; and the expiry of a creature says when. -/
structure Dated.IsTrue (d : Dated) : Prop where
  vanishes_isSome : d.vanishes.isSome ↔ d.object.kind = .pokemon
  expiry : d.object.expiry.toInt = d.vanishes.getD 0

namespace Sighting

/-- A creature in the wild vanishes `timeTillHiddenMs` after it was seen. -/
def datedWild (now : Moment) (horizon : Int) (p : WildPokemon) : List Dated :=
  (ofWild now horizon p).map fun o => ⟨o, some (now.addMillis p.timeTillHiddenMs.toInt).second⟩

/-- A lured creature vanishes when its lure expires. -/
def datedFort (f : Fort) : List Dated :=
  match f.kind with
  | .checkpoint =>
    (f.lure.map fun l => ⟨ofLure f l, some (l.expiresMs.toInt.tdiv 1000)⟩).toList ++
      [⟨{ kind := .pokestop, id := f.id, lat := f.latitude, lng := f.longitude,
          lured := f.activeModifier }, none⟩]
  | .gym => [⟨{ kind := .gym, id := f.id, lat := f.latitude, lng := f.longitude,
                team := f.ownedByTeam }, none⟩]

def datedCell (now : Moment) (horizon : Int) (c : MapCell) : List Dated :=
  c.wildPokemon.flatMap (datedWild now horizon) ++ c.forts.flatMap datedFort

/-- The objects of a payload received at `now`, and when they vanish. -/
def dated (p : MapPayload) (now : Moment) : List Dated :=
  match horizon? now with
  | none => []
  | some horizon => p.cells.flatMap (datedCell now horizon)

/-! ## They are the objects that are made -/

theorem objects_datedWild (now : Moment) (horizon : Int) (p : WildPokemon) :
    (datedWild now horizon p).map (·.object) = ofWild now horizon p := by
  rw [datedWild, List.map_map]
  exact List.map_id _

theorem objects_datedFort (f : Fort) : (datedFort f).map (·.object) = ofFort f := by
  rw [datedFort, ofFort]
  cases f.kind with
  | checkpoint => cases f.lure <;> rfl
  | gym => rfl

theorem objects_datedCell (now : Moment) (horizon : Int) (c : MapCell) :
    (datedCell now horizon c).map (·.object) = ofCell now horizon c := by
  simp only [datedCell, ofCell, List.map_append, List.map_flatMap, objects_datedWild,
    objects_datedFort]

theorem objects_dated (p : MapPayload) (now : Moment) :
    (dated p now).map (·.object) = (ofPayload? p now).getD [] := by
  rw [dated, ofPayload?]
  cases horizon? now with
  | none => rfl
  | some horizon =>
      simp only [List.map_flatMap, objects_datedCell]
      rfl

/-! ## Their expiries are exact -/

theorem toInt_expiryAfter {now : Moment} {millis : Int64} {expiry : Int}
    (h : expiryAfter? now millis = some expiry) :
    expiry = (now.addMillis millis.toInt).second ∧ (Int64.ofInt expiry).toInt = expiry := by
  simp only [expiryAfter?] at h
  split at h
  next => cases h
  next =>
    split at h
    next hrepresentable =>
      obtain rfl := Option.some.inj h
      refine ⟨rfl, ?_⟩
      -- the calendar is far from where 64 bits end
      simp only [Moment.isRepresentable, Bool.and_eq_true, decide_eq_true_eq] at hrepresentable
      simp only [Moment.firstSecond, Moment.lastSecond] at hrepresentable
      exact Int64.toInt_ofInt_of_le (by omega) (by omega)
    next => cases h

theorem isTrue_of_mem_datedWild {now : Moment} {horizon : Int} {p : WildPokemon} {d : Dated}
    (h : d ∈ datedWild now horizon p) : d.IsTrue := by
  obtain ⟨o, ho, rfl⟩ := List.mem_map.mp h
  rw [ofWild] at ho
  split at ho
  next => cases ho
  next expiry hexpiry =>
    obtain ⟨hsecond, hexact⟩ := toInt_expiryAfter hexpiry
    split at ho
    next => cases ho
    next =>
      obtain rfl := List.mem_singleton.mp ho
      exact ⟨by simp, hexact.trans hsecond⟩

theorem isTrue_of_mem_datedFort {f : Fort} {d : Dated} (h : d ∈ datedFort f) : d.IsTrue := by
  rw [datedFort] at h
  split at h
  next =>
    rcases List.mem_append.mp h with h | h
    · obtain ⟨l, -, rfl⟩ := Option.map_eq_some_iff.mp (Option.mem_toList.mp h)
      refine ⟨by simp [ofLure], ?_⟩
      exact Int64.toInt_div_of_ne_right l.expiresMs 1000 (by decide)
    · obtain rfl := List.mem_singleton.mp h
      exact ⟨by simp, rfl⟩
  next =>
    obtain rfl := List.mem_singleton.mp h
    exact ⟨by simp, rfl⟩

/-- Every object that is made says the truth about when it vanishes. -/
theorem isTrue_of_mem_dated {p : MapPayload} {now : Moment} {d : Dated} (h : d ∈ dated p now) :
    d.IsTrue := by
  rw [dated] at h
  split at h
  next => cases h
  next horizon _ =>
    obtain ⟨c, -, h⟩ := List.mem_flatMap.mp h
    rcases List.mem_append.mp h with h | h
    · obtain ⟨p, -, h⟩ := List.mem_flatMap.mp h
      exact isTrue_of_mem_datedWild h
    · obtain ⟨f, -, h⟩ := List.mem_flatMap.mp h
      exact isTrue_of_mem_datedFort h

end Sighting

end MapScout
