import MapScout.Json.Record
import MapScout.Json.Writer
/-!
# Places

Where a scan looks, in degrees.
-/

namespace MapScout

structure Place where
  lat : Binary64
  lng : Binary64
  deriving DecidableEq, Repr, Inhabited

namespace Place

def fieldNames : List String := ["lat", "lng"]

def toJson (p : Place) : Json := .fields [("lat", .float p.lat), ("lng", .float p.lng)]

def ofJson? (j : Json) : Option Place := do
  let r ← j.record? fieldNames
  let lat ← r.required "lat" Json.float?
  let lng ← r.required "lng" Json.float?
  pure { lat, lng }

/-- The place as text. -/
def describe (p : Place) : String :=
  "Location \x7b lat: " ++ (Json.float p.lat).toText ++ ", lng: " ++ (Json.float p.lng).toText ++
    " \x7d"

instance : Json.Form Place := ⟨toJson, ofJson?⟩

end Place

end MapScout
