import MapScout.Json.Basic
/-!
# Writing JSON

No blanks, members in the order given.  Strings escape the quote, the backslash and the control
characters below the space; everything else is written as it is.
-/

namespace MapScout.Json

/-- How one byte of a string is written. -/
def escapeByte (b : UInt8) : Bytes :=
  if b = 0x22 then [0x5c, 0x22]
  else if b = 0x5c then [0x5c, 0x5c]
  else if b = 0x08 then [0x5c, 0x62]
  else if b = 0x09 then [0x5c, 0x74]
  else if b = 0x0a then [0x5c, 0x6e]
  else if b = 0x0c then [0x5c, 0x66]
  else if b = 0x0d then [0x5c, 0x72]
  else if b < 0x20 then
    [0x5c, 0x75, 0x30, 0x30] ++ (Hex.digits 2 b.toNat).map fun c => UInt8.ofNat c.toNat
  else [b]

/-- A string literal. -/
def renderString (s : String) : Bytes := 0x22 :: (bytesOf s).flatMap escapeByte ++ [0x22]

/-- The digits of a significand, at least one of them before the point. -/
def renderSignificand (significand : Nat) : Option Nat → Bytes
  | none => Decimal.encode significand
  | some places =>
    let ds := Decimal.encode significand
    let padded := List.replicate (places + 1 - ds.length) 0x30 ++ ds
    padded.take (padded.length - places) ++ 0x2e :: padded.drop (padded.length - places)

/-- An exponent, always with its sign. -/
def renderExponent : Option Int → Bytes
  | none => []
  | some e => 0x65 :: (if e < 0 then 0x2d else 0x2b) :: Decimal.encode e.natAbs

def renderNumeral (n : Numeral) : Bytes :=
  (if n.negative then [0x2d] else []) ++ renderSignificand n.significand n.places ++
    renderExponent n.exponent

mutual

/-- The text of a value.  A string that is no text has none; it is written as an empty one. -/
def render : Json → Bytes
  | .null => [0x6e, 0x75, 0x6c, 0x6c]
  | .bool true => [0x74, 0x72, 0x75, 0x65]
  | .bool false => [0x66, 0x61, 0x6c, 0x73, 0x65]
  | .number n => renderNumeral n
  | .string s => renderString (s.getD "")
  | .array items => 0x5b :: renderItems items
  | .object members => 0x7b :: renderMembers members

/-- The items of an array and its closing bracket. -/
def renderItems : List Json → Bytes
  | [] => [0x5d]
  | [v] => render v ++ [0x5d]
  | v :: w :: rest => render v ++ 0x2c :: renderItems (w :: rest)

/-- The members of an object and its closing brace. -/
def renderMembers : List (Option String × Json) → Bytes
  | [] => [0x7d]
  | [(k, v)] => renderString (k.getD "") ++ 0x3a :: render v ++ [0x7d]
  | (k, v) :: w :: rest =>
    renderString (k.getD "") ++ 0x3a :: render v ++ 0x2c :: renderMembers (w :: rest)

end

/-- The text of a value as a string. -/
def toText (j : Json) : String := (Utf8.decode? j.render).getD ""

end MapScout.Json
