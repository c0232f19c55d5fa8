import MapScout.Text.Percent
/-!
# Forms and queries

The fields of a form body or of a query: pieces between ampersands, each a name and a value on the
two sides of its first equals sign.  In both a plus sign is a space and a percent sign followed by
two hexadecimal digits is a byte.
-/

namespace MapScout.Form

/-- The pieces between the bytes `separator`; empty pieces count. -/
def split (separator : UInt8) : Bytes → List Bytes
  | [] => [[]]
  | b :: rest =>
    if b = separator then [] :: split separator rest
    else match split separator rest with
      | [] => [[b]]
      | piece :: pieces => (b :: piece) :: pieces

/-- Resolves plus signs and escapes. -/
def unescape (bs : Bytes) : Bytes := Percent.decode (bs.map fun b => if b = 0x2b then 0x20 else b)

/-- The text that a name or a value stands for. -/
def textOf (bs : Bytes) : String := Utf8.decodeLossy (unescape bs)

/-- The name and the value of a piece. -/
def fieldOf (piece : Bytes) : String × String :=
  let (name, value) := piece.span (· != 0x3d)
  (textOf name, textOf (value.drop 1))

/-- The fields in order. -/
def fields (bs : Bytes) : List (String × String) :=
  ((split 0x26 bs).filter fun piece => !piece.isEmpty).map fieldOf

/-- The value of a field, if there is one. -/
def lookup (name : String) (fs : List (String × String)) : Option String :=
  (fs.find? (·.1 == name)).map (·.2)

/-- The first of the given names under which there is more than one field. -/
def repeated? (names : List String) (fs : List (String × String)) : Option String :=
  go [] fs
where
  /-- Goes through the fields with the names seen so far. -/
  go (seen : List String) : List (String × String) → Option String
    | [] => none
    | (name, _) :: rest =>
      if names.contains name then
        if seen.contains name then some name else go (name :: seen) rest
      else go seen rest

end MapScout.Form
