import MapScout.Map.Object
import MapScout.Map.Payload
import MapScout.Number.Base36
import MapScout.Number.Power
/-!
# Sightings

Turns the payload of a map call into map objects.  Creatures in the wild say how long they stay, so
their expiry depends on the time of the call; a stay of more than fifteen minutes is bogus and the
creature is left out.
-/

namespace MapScout

/-- A moment of the wall clock: nanoseconds since the start of 1970, leap seconds not counted. -/
structure Moment where
  nanos : Int
  deriving DecidableEq, Repr, Inhabited

namespace Moment

def ofSeconds (seconds : Int) (nanos : Nat) : Moment := ⟨seconds * tenTo 9 + nanos⟩

def ofMillis (millis : Int) : Moment := ⟨millis * tenTo 6⟩

/-- The unix second, rounded down. -/
def second (m : Moment) : Int := m.nanos / tenTo 9

/-- The calendar ends with these seconds. -/
def firstSecond : Int := -8334601228800

def lastSecond : Int := 8210266876799

def isRepresentable (m : Moment) : Bool := firstSecond ≤ m.second && m.second ≤ lastSecond

def addMillis (m : Moment) (millis : Int) : Moment := ⟨m.nanos + millis * tenTo 6⟩

end Moment

namespace Sighting

/-- Creatures that claim to stay longer than this are left out. -/
def maxVisibleMinutes : Int := 15

/-- The last second at which a creature seen at `now` may vanish; none past the calendar's end. -/
def horizon? (now : Moment) : Option Int :=
  let last := now.addMillis (maxVisibleMinutes * 60 * 1000)
  if last.isRepresentable then some last.second else none

/-- The unix second `millis` after `now`; none outside of the calendar.  The shortest span of time
is one millisecond short of what a 64-bit number of milliseconds can express. -/
def expiryAfter? (now : Moment) (millis : Int64) : Option Int :=
  let t := now.addMillis millis.toInt
  if millis = Int64.minValue then none
  else if t.isRepresentable then some t.second else none

/-- The object for a creature in the wild. -/
def ofWild (now : Moment) (horizon : Int) (p : WildPokemon) : List MapObject :=
  match expiryAfter? now p.timeTillHiddenMs with
  | none => []
  | some expiry =>
    if expiry > horizon then []
    else [{ kind := .pokemon, id := Base36.encode p.encounterId, pokemonId := p.pokemonId,
            spawnpointId := p.spawnPointId, lat := p.latitude, lng := p.longitude,
            expiry := Int64.ofInt expiry }]

/-- The object for a creature lured to a fort.  Its expiry is cut off toward zero. -/
def ofLure (f : Fort) (l : Lure) : MapObject :=
  { kind := .pokemon, id := Base36.encode l.encounterId, pokemonId := l.activePokemonId,
    lat := f.latitude, lng := f.longitude, expiry := l.expiresMs / 1000 }

/-- The objects for a fort: a gym, or a stop after the creature lured to it. -/
def ofFort (f : Fort) : List MapObject :=
  match f.kind with
  | .checkpoint =>
    (f.lure.map (ofLure f)).toList ++
      [{ kind := .pokestop, id := f.id, lat := f.latitude, lng := f.longitude,
         lured := f.activeModifier }]
  | .gym => [{ kind := .gym, id := f.id, lat := f.latitude, lng := f.longitude,
               team := f.ownedByTeam }]

/-- The objects of one cell, creatures in the wild first. -/
def ofCell (now : Moment) (horizon : Int) (c : MapCell) : List MapObject :=
  c.wildPokemon.flatMap (ofWild now horizon) ++ c.forts.flatMap ofFort

/-- The objects of a payload received at `now`; none when the calendar ends within the next
fifteen minutes. -/
def ofPayload? (p : MapPayload) (now : Moment) : Option (List MapObject) :=
  (horizon? now).map fun horizon => p.cells.flatMap (ofCell now horizon)

end Sighting

end MapScout
