import MapScout.Proofs.Map.Payloads
import MapScout.Proofs.Number.Base36

/-!
# Which creature is which

Creatures are told apart by their encounters, and the id of the object that is made for a creature is
the name of its encounter.  So the objects of different encounters never share an id, be the
creatures in the wild or lured, in one payload or in several.
-/

namespace MapScout

/-- The encounter that an entry tells of.  A lure counts only at a stop. -/
def MapEntry.encounter? : MapEntry → Option UInt64
  | .wild p => some p.encounterId
  | .fort f =>
    match f.kind with
    | .checkpoint => f.lure.map (·.encounterId)
    | .gym => none

namespace Sighting

variable {now : Moment} {p : MapPayload} {e : MapEntry} {o : MapObject} {n : UInt64}
  {objects : List MapObject}

/-- The object is a creature that is made from an entry of the payload received at `now`, and the
entry tells of this encounter. -/
def Shows (now : Moment) (p : MapPayload) (o : MapObject) (n : UInt64) : Prop :=
  o.kind = .pokemon ∧ ∃ e ∈ p.entries, e.encounter? = some n ∧
    ∃ objects, Makes now e objects ∧ o ∈ objects

theorem kind_place (f : Fort) : f.place.kind ≠ .pokemon := by
  rw [Fort.place]
  cases f.kind <;> exact ObjectKind.noConfusion

/-- An entry makes a creature only if it tells of an encounter, and names it after that. -/
theorem Makes.encounter (h : Makes now e objects) (ho : o ∈ objects) (hkind : o.kind = .pokemon) :
    ∃ n, e.encounter? = some n ∧ o.id = Base36.encode n := by
  have hplace {f : Fort} (ho : o ∈ [f.place]) : False := by
    rw [List.mem_singleton.mp ho] at hkind
    exact kind_place f hkind
  cases h with
  | seen =>
      rw [List.mem_singleton.mp ho]
      exact ⟨_, rfl, rfl⟩
  | bogus => cases ho
  | @lured f l expiry hstop hlure =>
      rcases List.mem_cons.mp ho with rfl | ho
      · refine ⟨l.encounterId, ?_, rfl⟩
        rw [MapEntry.encounter?, hstop, hlure]
        rfl
      · exact (hplace ho).elim
  | stop => exact (hplace ho).elim
  | gym => exact (hplace ho).elim

theorem Shows.id_eq (h : Shows now p o n) : o.id = Base36.encode n := by
  obtain ⟨hkind, e, -, hencounter, objects, hmakes, ho⟩ := h
  obtain ⟨m, hm, hid⟩ := hmakes.encounter ho hkind
  rwa [← Option.some.inj (hencounter.symm.trans hm)] at hid

theorem makes_ofEntry (hnow : (now.addMillis (15 * 60 * 1000)).isRepresentable = true)
    (e : MapEntry) : Makes now e (ofEntry now (now.addMillis (15 * 60 * 1000)).second e) := by
  cases e with
  | wild p => exact makes_ofWild hnow p
  | fort f => exact makes_ofFort now f

/-- Every creature among the objects of a payload comes of an encounter. -/
theorem exists_shows (hparse : ofPayload? p now = some objects) (ho : o ∈ objects)
    (hkind : o.kind = .pokemon) : ∃ n, Shows now p o n := by
  have hnow : (now.addMillis (15 * 60 * 1000)).isRepresentable = true := by
    by_contra hend
    have hhorizon : horizon? now = none := if_neg hend
    rw [ofPayload?, hhorizon] at hparse
    cases hparse
  rw [ofPayload?_eq hnow] at hparse
  obtain rfl := Option.some.inj hparse
  obtain ⟨e, he, ho⟩ := List.mem_flatMap.mp ho
  have hmakes := makes_ofEntry hnow e
  obtain ⟨n, hn, -⟩ := hmakes.encounter ho hkind
  exact ⟨n, hkind, e, he, hn, _, hmakes, ho⟩

/-- A number has one name and no other number has it; every creature bears the name of its encounter,
so that creatures of different encounters have different ids. -/
theorem encounters_named :
    (∀ (s : String) (n : UInt64), Base36.Names s n ↔ s = Base36.encode n) ∧
    (∀ m n : UInt64, Base36.encode m = Base36.encode n ↔ m = n) ∧
    (∀ now p objects, ofPayload? p now = some objects → ∀ o ∈ objects, o.kind = .pokemon →
      ∃ n, Shows now p o n ∧ Base36.Names o.id n) ∧
    ∀ now p o n now' p' o' n', Shows now p o n → Shows now' p' o' n' → (o.id = o'.id ↔ n = n') := by
  refine ⟨fun s n => Base36.names_iff, fun m n => Base36.encode_injective.eq_iff, ?_, ?_⟩
  · intro now p objects hparse o ho hkind
    obtain ⟨n, hshows⟩ := exists_shows hparse ho hkind
    exact ⟨n, hshows, Base36.names_iff.mpr hshows.id_eq⟩
  · intro now p o n now' p' o' n' hshows hshows'
    rw [hshows.id_eq, hshows'.id_eq, Base36.encode_injective.eq_iff]

/-- A creature in the wild of the last of all encounters, and one of the first that is lured to a
stop. -/
def firstAndLast : MapPayload where
  cells := [{
    wildPokemon := [
      { encounterId := 0xffffffffffffffff, pokemonId := 25, latitude := .zero, longitude := .zero,
        timeTillHiddenMs := 60000 }]
    forts := [
      { id := "stop", kind := .checkpoint, latitude := .zero, longitude := .zero,
        lure := some { encounterId := 0, activePokemonId := 16, expiresMs := 1700000900500 } }] }]

theorem encounters_named_firstAndLast :
    ∃ objects, ofPayload? firstAndLast (.ofSeconds 1700000000 0) = some objects ∧
      objects.map (·.id) = ["3w5e11264sgsf", "0", "stop"] ∧
      ∀ o ∈ objects, o.kind = .pokemon → ∀ o' ∈ objects, o'.kind = .pokemon →
        ∃ n n', Shows (.ofSeconds 1700000000 0) firstAndLast o n ∧
          Shows (.ofSeconds 1700000000 0) firstAndLast o' n' ∧ (o.id = o'.id ↔ n = n') := by
  obtain ⟨-, -, hnamed, htold⟩ := encounters_named
  have hids : (ofPayload? firstAndLast (.ofSeconds 1700000000 0)).map (·.map (·.id)) =
      some ["3w5e11264sgsf", "0", "stop"] := by
    decide +kernel
  obtain ⟨objects, hparse, hobjects⟩ := Option.map_eq_some_iff.mp hids
  refine ⟨objects, hparse, hobjects, fun o ho hkind o' ho' hkind' => ?_⟩
  obtain ⟨n, hshows, -⟩ := hnamed _ _ _ hparse o ho hkind
  obtain ⟨n', hshows', -⟩ := hnamed _ _ _ hparse o' ho' hkind'
  exact ⟨n, n', hshows, hshows', htold _ _ _ _ _ _ _ _ hshows hshows'⟩

end Sighting

end MapScout
