import MapScout.Json.Record
/-!
# Map objects

What a scan finds: creatures, which vanish at some second, and the two kinds of places that stay,
stops and gyms.
-/

namespace MapScout

inductive ObjectKind where
  | pokemon
  | pokestop
  | gym
  deriving DecidableEq, Repr, Inhabited

namespace ObjectKind

def all : List ObjectKind := [.pokemon, .pokestop, .gym]

/-- The number that stands for a kind on the wire. -/
def code : ObjectKind → UInt8
  | .pokemon => 1
  | .pokestop => 2
  | .gym => 3

def ofCode? (c : UInt8) : Option ObjectKind :=
  if c = 1 then some .pokemon else if c = 2 then some .pokestop else if c = 3 then some .gym
  else none

def name : ObjectKind → String
  | .pokemon => "Pokemon"
  | .pokestop => "Pokestop"
  | .gym => "Gym"

def toJson (k : ObjectKind) : Json := .nat k.code.toNat

def ofJson? (j : Json) : Option ObjectKind := j.uint8?.bind ofCode?

instance : Json.Form ObjectKind := ⟨toJson, ofJson?⟩

end ObjectKind

structure MapObject where
  kind : ObjectKind
  id : String
  pokemonId : UInt32 := 0
  /-- Where a creature appeared; never sent to callers. -/
  spawnpointId : String := ""
  lat : Binary64
  lng : Binary64
  /-- The unix second at which the object vanishes; zero when it never does. -/
  expiry : Int64 := 0
  lured : Bool := false
  team : UInt32 := 0
  deriving DecidableEq, Repr, Inhabited

namespace MapObject

def fieldNames : List String :=
  ["type", "id", "pokemonID", "lat", "lng", "expiry", "lured", "team"]

/-- The wire form leaves out the four fields that are zero or false. -/
def toJson (o : MapObject) : Json :=
  .fields <|
    [("type", o.kind.toJson), ("id", Json.text o.id)] ++
    (if o.pokemonId = 0 then [] else [("pokemonID", .nat o.pokemonId.toNat)]) ++
    [("lat", .float o.lat), ("lng", .float o.lng)] ++
    (if o.expiry = 0 then [] else [("expiry", .int o.expiry.toInt)]) ++
    (if o.lured then [("lured", .bool true)] else []) ++
    (if o.team = 0 then [] else [("team", .nat o.team.toNat)])

def ofJson? (j : Json) : Option MapObject := do
  let r ← j.record? fieldNames
  let kind ← r.required "type" ObjectKind.ofJson?
  let id ← r.required "id" Json.text?
  let pokemonId ← r.optional "pokemonID" Json.uint32? 0
  let lat ← r.required "lat" Json.float?
  let lng ← r.required "lng" Json.float?
  let expiry ← r.optional "expiry" Json.int64? 0
  let lured ← r.optional "lured" Json.bool? false
  let team ← r.optional "team" Json.uint32? 0
  pure { kind, id, pokemonId, lat, lng, expiry, lured, team }

/-- Still there at unix second `now`. -/
def isVisibleAt (o : MapObject) (now : Int) : Bool := o.expiry = 0 || now < o.expiry.toInt

instance : Json.Form MapObject := ⟨toJson, ofJson?⟩

end MapObject

/-- What the scanner answers to its callers. -/
structure ScanReply where
  ok : Bool
  error : String
  mapObjects : List MapObject
  deriving DecidableEq, Repr, Inhabited

namespace ScanReply

def success (objects : List MapObject) : ScanReply := ⟨true, "", objects⟩

def failure (error : String) : ScanReply := ⟨false, error, []⟩

def fieldNames : List String := ["ok", "error", "map_objects"]

def toJson (r : ScanReply) : Json :=
  .fields [("ok", .bool r.ok), ("error", .text r.error),
    ("map_objects", .array (r.mapObjects.map MapObject.toJson))]

def ofJson? (j : Json) : Option ScanReply := do
  let r ← j.record? fieldNames
  let ok ← r.required "ok" Json.bool?
  let error ← r.required "error" Json.text?
  let mapObjects ← r.required "map_objects" (Json.list? MapObject.ofJson?)
  pure { ok, error, mapObjects }

instance : Json.Form ScanReply := ⟨toJson, ofJson?⟩

end ScanReply

end MapScout
