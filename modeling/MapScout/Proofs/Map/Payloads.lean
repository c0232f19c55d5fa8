import Mathlib.Data.List.Forall2
import MapScout.Proofs.Map.Sightings

/-!
# What becomes of a payload

Every entry of a payload, a creature in the wild or a fort, makes objects of its own, and the
objects of a payload are those of its entries one after the other.  No entry is in the way of
another, whatever it says: a stay or a lure may be any number of milliseconds, and lead to moments
that no calendar has.
-/

namespace MapScout

inductive MapEntry where
  | wild (p : WildPokemon)
  | fort (f : Fort)

def MapCell.entries (c : MapCell) : List MapEntry :=
  c.wildPokemon.map .wild ++ c.forts.map .fort

namespace MapPayload

def entries (p : MapPayload) : List MapEntry := p.cells.flatMap MapCell.entries

def forts (p : MapPayload) : List Fort := p.cells.flatMap (·.forts)

def append (p q : MapPayload) : MapPayload := ⟨p.cells ++ q.cells⟩

end MapPayload

def Fort.place (f : Fort) : MapObject :=
  match f.kind with
  | .checkpoint => { kind := .pokestop, id := f.id, lat := f.latitude, lng := f.longitude,
                     lured := f.activeModifier }
  | .gym => { kind := .gym, id := f.id, lat := f.latitude, lng := f.longitude,
              team := f.ownedByTeam }

namespace Sighting

/-- A creature seen at `now` vanishes at a moment that the calendar has, within the next fifteen
minutes. -/
def StaysShort (now : Moment) (p : WildPokemon) : Prop :=
  (now.addMillis p.timeTillHiddenMs.toInt).isRepresentable = true ∧
    (now.addMillis p.timeTillHiddenMs.toInt).second ≤ (now.addMillis (15 * 60 * 1000)).second

/-- What an entry of a payload received at `now` is turned into. -/
inductive Makes (now : Moment) : MapEntry → List MapObject → Prop where
  | seen {p : WildPokemon} {expiry : Int64} (h : StaysShort now p)
      (hexpiry : expiry.toInt = (now.addMillis p.timeTillHiddenMs.toInt).second) :
      Makes now (.wild p)
        [{ kind := .pokemon, id := Base36.encode p.encounterId, pokemonId := p.pokemonId,
           spawnpointId := p.spawnPointId, lat := p.latitude, lng := p.longitude, expiry }]
  | bogus {p : WildPokemon} (h : ¬ StaysShort now p) : Makes now (.wild p) []
  | lured {f : Fort} {l : Lure} {expiry : Int64} (hkind : f.kind = .checkpoint)
      (hlure : f.lure = some l) (hexpiry : expiry.toInt = l.expiresMs.toInt.tdiv 1000) :
      Makes now (.fort f)
        [{ kind := .pokemon, id := Base36.encode l.encounterId, pokemonId := l.activePokemonId,
           lat := f.latitude, lng := f.longitude, expiry }, f.place]
  | stop {f : Fort} (hkind : f.kind = .checkpoint) (hlure : f.lure = none) :
      Makes now (.fort f) [f.place]
  | gym {f : Fort} (hkind : f.kind = .gym) : Makes now (.fort f) [f.place]

/-- The objects are those of the entries of the payload, in order, and the places among them are the
forts. -/
structure Portrays (now : Moment) (p : MapPayload) (objects : List MapObject) : Prop where
  entries : ∃ parts, List.Forall₂ (Makes now) p.entries parts ∧ objects = parts.flatten
  places : objects.filter (·.kind ≠ .pokemon) = p.forts.map Fort.place

/-! ## One entry -/

def ofEntry (now : Moment) (horizon : Int) : MapEntry → List MapObject
  | .wild p => ofWild now horizon p
  | .fort f => ofFort f

/-- The shortest stay of all leads out of the calendar, like any that is nearly as short. -/
theorem not_isRepresentable_of_minValue {now : Moment} {millis : Int64}
    (hnow : (now.addMillis (15 * 60 * 1000)).isRepresentable = true)
    (hmillis : millis = Int64.minValue) :
    (now.addMillis millis.toInt).isRepresentable = false := by
  have hleast : Int64.minValue.toInt = -9223372036854775808 := by decide
  have hmillion : (tenTo 6 : Int) = 1000000 := rfl
  have hbillion : (tenTo 9 : Int) = 1000000000 := rfl
  subst hmillis
  rw [hleast]
  simp only [Moment.isRepresentable, Bool.and_eq_true, decide_eq_true_eq, Bool.and_eq_false_iff,
    decide_eq_false_iff_not] at hnow ⊢
  simp only [Moment.second, Moment.addMillis, Moment.firstSecond, Moment.lastSecond, hmillion,
    hbillion] at hnow ⊢
  left
  omega

theorem expiryAfter?_eq {now : Moment} (hnow : (now.addMillis (15 * 60 * 1000)).isRepresentable = true)
    (millis : Int64) :
    expiryAfter? now millis = if (now.addMillis millis.toInt).isRepresentable = true then
      some (now.addMillis millis.toInt).second else none := by
  rw [expiryAfter?]
  split
  · rename_i hmin
    rw [not_isRepresentable_of_minValue hnow hmin]
    rfl
  · rfl

/-- A spawn makes one creature if its stay is short, and none otherwise. -/
theorem makes_ofWild {now : Moment} (hnow : (now.addMillis (15 * 60 * 1000)).isRepresentable = true)
    (p : WildPokemon) :
    Makes now (.wild p) (ofWild now (now.addMillis (15 * 60 * 1000)).second p) := by
  have hexpiry := expiryAfter?_eq hnow p.timeTillHiddenMs
  rw [ofWild]
  split
  · rename_i hnone
    rw [hnone] at hexpiry
    refine .bogus fun hshort => ?_
    rw [if_pos hshort.1] at hexpiry
    cases hexpiry
  · rename_i expiry hsome
    obtain ⟨rfl, hexact⟩ := toInt_expiryAfter hsome
    split
    · rename_i hlate
      exact .bogus fun hshort => absurd hshort.2 (by omega)
    · rename_i hearly
      rw [hsome] at hexpiry
      split at hexpiry
      · rename_i hrepresentable
        exact .seen ⟨hrepresentable, by omega⟩ hexact
      · cases hexpiry

theorem makes_ofFort (now : Moment) (f : Fort) : Makes now (.fort f) (ofFort f) := by
  rw [ofFort]
  cases hkind : f.kind with
  | gym =>
      have hgym : Makes now (.fort f) [f.place] := .gym hkind
      rwa [Fort.place, hkind] at hgym
  | checkpoint =>
      cases hlure : f.lure with
      | none =>
          have hstop : Makes now (.fort f) [f.place] := .stop hkind hlure
          rwa [Fort.place, hkind] at hstop
      | some l =>
          have hexpiry : (l.expiresMs / 1000).toInt = l.expiresMs.toInt.tdiv 1000 :=
            Int64.toInt_div_of_ne_right l.expiresMs 1000 (by decide)
          have hlured : Makes now (.fort f) [_, f.place] := .lured hkind hlure hexpiry
          rwa [Fort.place, hkind] at hlured

/-- Creatures are no places. -/
theorem places_ofWild (now : Moment) (horizon : Int) (p : WildPokemon) :
    (ofWild now horizon p).filter (·.kind ≠ .pokemon) = [] := by
  rw [ofWild]
  split
  · rfl
  · split <;> rfl

theorem places_ofFort (f : Fort) : (ofFort f).filter (·.kind ≠ .pokemon) = [f.place] := by
  rw [ofFort, Fort.place]
  cases f.kind with
  | checkpoint => cases f.lure <;> rfl
  | gym => rfl

/-! ## All entries -/

theorem ofCell_eq (now : Moment) (horizon : Int) (c : MapCell) :
    ofCell now horizon c = c.entries.flatMap (ofEntry now horizon) := by
  rw [ofCell, MapCell.entries, List.flatMap_append, List.flatMap_map, List.flatMap_map]
  rfl

/-- Nothing is lost and nothing added when cells are put together. -/
theorem ofPayload?_eq {now : Moment}
    (hnow : (now.addMillis (15 * 60 * 1000)).isRepresentable = true) (p : MapPayload) :
    ofPayload? p now =
      some (p.entries.flatMap (ofEntry now (now.addMillis (15 * 60 * 1000)).second)) := by
  have hhorizon : horizon? now = some (now.addMillis (15 * 60 * 1000)).second := if_pos hnow
  rw [ofPayload?, hhorizon, MapPayload.entries, List.flatMap_assoc]
  simp only [← ofCell_eq]
  rfl

/-- A cell has the places of its forts. -/
theorem places_ofCell (now : Moment) (horizon : Int) (c : MapCell) :
    (ofCell now horizon c).filter (·.kind ≠ .pokemon) = c.forts.map Fort.place := by
  rw [ofCell, List.filter_append, List.filter_flatMap, List.filter_flatMap, List.map_eq_flatMap]
  simp only [places_ofWild, places_ofFort]
  rw [List.flatMap_eq_nil_iff.mpr fun _ _ => rfl, List.nil_append]

/-- Parsing loses, invents and mixes nothing, as long as the calendar does not end within the next
fifteen minutes. -/
theorem portrays_ofPayload? {now : Moment}
    (hnow : (now.addMillis (15 * 60 * 1000)).isRepresentable = true) :
    (∀ p, ∃ objects, ofPayload? p now = some objects ∧ Portrays now p objects) ∧
      ∀ p q objects objects', ofPayload? p now = some objects → ofPayload? q now = some objects' →
        ofPayload? (p.append q) now = some (objects ++ objects') := by
  have hparsed := ofPayload?_eq hnow
  constructor
  · intro p
    refine ⟨_, hparsed p, ⟨p.entries.map (ofEntry now _), ?_, List.flatMap_def⟩, ?_⟩
    · rw [List.forall₂_map_right_iff, List.forall₂_same]
      intro e _
      cases e with
      | wild p => exact makes_ofWild hnow p
      | fort f => exact makes_ofFort now f
    · rw [MapPayload.entries, List.flatMap_assoc, MapPayload.forts, List.filter_flatMap,
        List.map_flatMap]
      simp only [← ofCell_eq, places_ofCell]
  · intro p q objects objects' hp hq
    rw [hparsed] at hp hq ⊢
    obtain rfl := Option.some.inj hp
    obtain rfl := Option.some.inj hq
    rw [MapPayload.entries, MapPayload.append, List.flatMap_append, List.flatMap_append]
    rfl

/-- Two creatures, one of which claims the shortest stay of all, a stop with a lure and a gym. -/
def crowdedCell : MapPayload where
  cells := [{
    wildPokemon := [
      { encounterId := 4, pokemonId := 25, latitude := .zero, longitude := .zero,
        timeTillHiddenMs := 60000 },
      { encounterId := 5, pokemonId := 26, latitude := .zero, longitude := .zero,
        timeTillHiddenMs := Int64.minValue }]
    forts := [
      { id := "stop", kind := .checkpoint, latitude := .zero, longitude := .zero,
        lure := some { encounterId := 6, activePokemonId := 16, expiresMs := 1700000900500 } },
      { id := "gym", kind := .gym, latitude := .zero, longitude := .zero, ownedByTeam := 2 }] }]

theorem portrays_ofPayload?_crowdedCell :
    ((Moment.ofSeconds 1700000000 0).addMillis (15 * 60 * 1000)).isRepresentable = true ∧
      (∃ objects, ofPayload? crowdedCell (.ofSeconds 1700000000 0) = some objects ∧
        Portrays (.ofSeconds 1700000000 0) crowdedCell objects) ∧
      (ofPayload? crowdedCell (.ofSeconds 1700000000 0)).map (·.map (·.id)) =
        some ["4", "6", "stop", "gym"] :=
  ⟨by decide, (portrays_ofPayload? (by decide)).1 crowdedCell, by decide +kernel⟩

/-- A gym with a lure on it.  Lures are of stops, and this one is not heeded. -/
def luredGym : MapPayload where
  cells := [{ forts := [
    { id := "gym", kind := .gym, latitude := .zero, longitude := .zero,
      lure := some { encounterId := 6, activePokemonId := 16, expiresMs := 1700000900500 } }] }]

/-- Not every lure makes a creature. -/
theorem lure_without_creature :
    ¬ ∀ p objects, ofPayload? p (.ofSeconds 1700000000 0) = some objects →
      (p.forts.filterMap (·.lure)).length ≤ objects.countP (·.kind = .pokemon) := by
  intro hall
  exact absurd (hall luredGym [{ kind := .gym, id := "gym", lat := .zero, lng := .zero }]
    (by decide +kernel)) (by decide +kernel)

end Sighting

end MapScout
