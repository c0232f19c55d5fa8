import MapScout.Json.Record
/-!
# Map payloads

The raw answer to a map call: cells, each with the creatures and the forts in it.
-/

namespace MapScout

structure WildPokemon where
  encounterId : UInt64
  pokemonId : UInt32
  spawnPointId : String := ""
  latitude : Binary64
  longitude : Binary64
  timeTillHiddenMs : Int64
  deriving DecidableEq, Repr, Inhabited

namespace WildPokemon

def fieldNames : List String :=
  ["encounter_id", "pokemon_id", "spawn_point_id", "latitude", "longitude", "time_till_hidden_ms"]

def toJson (p : WildPokemon) : Json :=
  .fields [("encounter_id", .nat p.encounterId.toNat), ("pokemon_id", .nat p.pokemonId.toNat),
    ("spawn_point_id", .text p.spawnPointId), ("latitude", .float p.latitude),
    ("longitude", .float p.longitude), ("time_till_hidden_ms", .int p.timeTillHiddenMs.toInt)]

def ofJson? (j : Json) : Option WildPokemon := do
  let r ← j.record? fieldNames
  let encounterId ← r.required "encounter_id" Json.uint64?
  let pokemonId ← r.required "pokemon_id" Json.uint32?
  let spawnPointId ← r.optional "spawn_point_id" Json.text? ""
  let latitude ← r.required "latitude" Json.float?
  let longitude ← r.required "longitude" Json.float?
  let timeTillHiddenMs ← r.required "time_till_hidden_ms" Json.int64?
  pure { encounterId, pokemonId, spawnPointId, latitude, longitude, timeTillHiddenMs }

instance : Json.Form WildPokemon := ⟨toJson, ofJson?⟩

end WildPokemon

inductive FortKind where
  | checkpoint
  | gym
  deriving DecidableEq, Repr, Inhabited

namespace FortKind

def name : FortKind → String
  | .checkpoint => "checkpoint"
  | .gym => "gym"

def ofName? (s : String) : Option FortKind :=
  if s = "checkpoint" then some .checkpoint else if s = "gym" then some .gym else none

def toJson (k : FortKind) : Json := .text k.name

/-- A kind is its name, or an object whose one member has that name and no value. -/
def ofJson? : Json → Option FortKind
  | .string (some s) => ofName? s
  | .object [(some s, .null)] => ofName? s
  | _ => none

instance : Json.Form FortKind := ⟨toJson, ofJson?⟩

end FortKind

/-- A creature attracted to a stop. -/
structure Lure where
  encounterId : UInt64
  activePokemonId : UInt32
  expiresMs : Int64
  deriving DecidableEq, Repr, Inhabited

namespace Lure

def fieldNames : List String := ["encounter_id", "active_pokemon_id", "lure_expires_timestamp_ms"]

def toJson (l : Lure) : Json :=
  .fields [("encounter_id", .nat l.encounterId.toNat),
    ("active_pokemon_id", .nat l.activePokemonId.toNat),
    ("lure_expires_timestamp_ms", .int l.expiresMs.toInt)]

def ofJson? (j : Json) : Option Lure := do
  let r ← j.record? fieldNames
  let encounterId ← r.required "encounter_id" Json.uint64?
  let activePokemonId ← r.required "active_pokemon_id" Json.uint32?
  let expiresMs ← r.required "lure_expires_timestamp_ms" Json.int64?
  pure { encounterId, activePokemonId, expiresMs }

instance : Json.Form Lure := ⟨toJson, ofJson?⟩

end Lure

structure Fort where
  id : String
  kind : FortKind
  latitude : Binary64
  longitude : Binary64
  lure : Option Lure := none
  /-- Whether a lure module is active on a checkpoint. -/
  activeModifier : Bool := false
  ownedByTeam : UInt32 := 0
  deriving DecidableEq, Repr, Inhabited

namespace Fort

def fieldNames : List String :=
  ["id", "kind", "latitude", "longitude", "lure", "active_modifier", "owned_by_team"]

def toJson (f : Fort) : Json :=
  .fields [("id", .text f.id), ("kind", f.kind.toJson), ("latitude", .float f.latitude),
    ("longitude", .float f.longitude),
    ("lure", match f.lure with | none => .null | some l => l.toJson),
    ("active_modifier", .bool f.activeModifier), ("owned_by_team", .nat f.ownedByTeam.toNat)]

def ofJson? (j : Json) : Option Fort := do
  let r ← j.record? fieldNames
  let id ← r.required "id" Json.text?
  let kind ← r.required "kind" FortKind.ofJson?
  let latitude ← r.required "latitude" Json.float?
  let longitude ← r.required "longitude" Json.float?
  let lure ← r.optional "lure" (Json.option? Lure.ofJson?) none
  let activeModifier ← r.optional "active_modifier" Json.bool? false
  let ownedByTeam ← r.optional "owned_by_team" Json.uint32? 0
  pure { id, kind, latitude, longitude, lure, activeModifier, ownedByTeam }

instance : Json.Form Fort := ⟨toJson, ofJson?⟩

end Fort

structure MapCell where
  wildPokemon : List WildPokemon := []
  forts : List Fort := []
  deriving DecidableEq, Repr, Inhabited

namespace MapCell

def fieldNames : List String := ["wild_pokemon", "forts"]

def toJson (c : MapCell) : Json :=
  .fields [("wild_pokemon", .array (c.wildPokemon.map WildPokemon.toJson)),
    ("forts", .array (c.forts.map Fort.toJson))]

def ofJson? (j : Json) : Option MapCell := do
  let r ← j.record? fieldNames
  let wildPokemon ← r.optional "wild_pokemon" (Json.list? WildPokemon.ofJson?) []
  let forts ← r.optional "forts" (Json.list? Fort.ofJson?) []
  pure { wildPokemon, forts }

instance : Json.Form MapCell := ⟨toJson, ofJson?⟩

end MapCell

structure MapPayload where
  cells : List MapCell := []
  deriving DecidableEq, Repr, Inhabited

namespace MapPayload

def fieldNames : List String := ["cells"]

def toJson (p : MapPayload) : Json := .fields [("cells", .array (p.cells.map MapCell.toJson))]

def ofJson? (j : Json) : Option MapPayload := do
  let r ← j.record? fieldNames
  let cells ← r.optional "cells" (Json.list? MapCell.ofJson?) []
  pure { cells }

instance : Json.Form MapPayload := ⟨toJson, ofJson?⟩

end MapPayload

end MapScout
