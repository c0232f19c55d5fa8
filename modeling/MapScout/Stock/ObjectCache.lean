import MapScout.Map.Object
/-!
# Object cache

The map objects seen so far, the latest under each id, in the order of their ids.
-/

namespace MapScout

abbrev ObjectCache := List MapObject

namespace ObjectCache

/-- Stores an object, replacing the one that has its id. -/
def insert (o : MapObject) : ObjectCache → ObjectCache
  | [] => [o]
  | p :: rest =>
    if o.id < p.id then o :: p :: rest
    else if o.id = p.id then o :: rest
    else p :: insert o rest

/-- Stores objects one after the other. -/
def insertAll (objects : List MapObject) (c : ObjectCache) : ObjectCache :=
  objects.foldl (fun c o => insert o c) c

/-- The objects of the given kinds that are still there at unix second `now`. -/
def visible (c : ObjectCache) (kinds : List ObjectKind) (now : Int) : List MapObject :=
  c.filter fun o => kinds.contains o.kind && o.isVisibleAt now

end ObjectCache

end MapScout
