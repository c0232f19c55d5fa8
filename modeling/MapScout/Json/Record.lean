import MapScout.Json.Reader
import MapScout.Json.Writer
/-!
# Records in JSON

A record is written as an object with its fields in order.  It is read from an object, in any order
and with unknown members ignored, or from an array of the field values in order.  Either way
reading first gives the list of the fields that are there, from which they are then picked.
-/

namespace MapScout.Json

/-- A type whose values have a form in JSON. -/
class Form (α : Type) where
  toJson : α → Json
  ofJson? : Json → Option α

/-- The fields of a record that a text gives, each name at most once. -/
abbrev Record := List (String × Json)

/-- The members of an object that are fields.  No key may be broken text, and no field may be given
twice. -/
def knownMembers (names : List String) : List (Option String × Json) → Option Record
  | [] => some []
  | (none, _) :: _ => none
  | (some k, v) :: rest => do
    let r ← knownMembers names rest
    if k ∈ names then
      if r.any (·.1 == k) then none else pure ((k, v) :: r)
    else pure r

/-- Reads a value as a record with the given fields.  An array may be shorter than the list of
fields but not longer. -/
def record? (names : List String) : Json → Option Record
  | .object members => knownMembers names members
  | .array items => if items.length ≤ names.length then some (names.zip items) else none
  | _ => none

/-- Like `record?`, but an object may have no other members. -/
def closedRecord? (names : List String) : Json → Option Record
  | .object members => do
    if members.all fun m => m.1.any (names.contains ·) then knownMembers names members else none
  | j => j.record? names

namespace Record

/-- The value given for a field. -/
def get? (r : Record) (name : String) : Option Json := (r.find? (·.1 == name)).map (·.2)

/-- A field that has to be given. -/
def required {α : Type} (r : Record) (name : String) (value? : Json → Option α) : Option α :=
  (r.get? name).bind value?

/-- A field with a default. -/
def optional {α : Type} (r : Record) (name : String) (value? : Json → Option α) (default : α) :
    Option α :=
  match r.get? name with
  | none => some default
  | some j => value? j

end Record

end MapScout.Json
