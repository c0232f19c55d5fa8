import MapScout.Json.Basic
/-!
# Reading JSON

The grammar is that of RFC 8259 and nothing more: four kinds of blank, no leading zeros, no raw
control characters in strings, nothing after the value.
-/

namespace MapScout.Json

def isBlank (b : UInt8) : Bool := b = 0x20 || b = 0x09 || b = 0x0a || b = 0x0d

def skipBlanks (bs : Bytes) : Bytes := bs.dropWhile isBlank

/-! ## Strings -/

/-- What a string literal is made of: bytes that stand for themselves, and UTF-16 units that were
escaped. -/
inductive Piece where
  | byte (b : UInt8)
  | unit (u : Nat)
  deriving DecidableEq, Repr

/-- The value of four hexadecimal digits. -/
def unit? (a b c d : UInt8) : Option Nat := do
  let a ← Hex.value? a
  let b ← Hex.value? b
  let c ← Hex.value? c
  let d ← Hex.value? d
  pure (((a * 16 + b) * 16 + c) * 16 + d)

/-- The byte that a one-letter escape stands for. -/
def escaped? (b : UInt8) : Option UInt8 :=
  if b = 0x22 ∨ b = 0x5c ∨ b = 0x2f then some b
  else if b = 0x62 then some 0x08
  else if b = 0x66 then some 0x0c
  else if b = 0x6e then some 0x0a
  else if b = 0x72 then some 0x0d
  else if b = 0x74 then some 0x09
  else none

/-- Reads a string literal after its opening quote; `acc` holds the pieces so far, last first. -/
def readPieces (acc : List Piece) : Bytes → Option (List Piece × Bytes)
  | [] => none
  | 0x22 :: rest => some (acc.reverse, rest)
  | 0x5c :: 0x75 :: a :: b :: c :: d :: rest =>
    match unit? a b c d with
    | some u => readPieces (.unit u :: acc) rest
    | none => none
  | 0x5c :: e :: rest =>
    match escaped? e with
    | some b => readPieces (.byte b :: acc) rest
    | none => none
  | b :: rest => if b < 0x20 then none else readPieces (.byte b :: acc) rest

def isHighSurrogate (u : Nat) : Bool := 0xd800 ≤ u && u < 0xdc00

def isLowSurrogate (u : Nat) : Bool := 0xdc00 ≤ u && u < 0xe000

/-- The bytes that pieces spell; `acc` holds those so far, last first.  Surrogates have to come in
pairs. -/
def spell (acc : Bytes) : List Piece → Option Bytes
  | [] => some acc.reverse
  | .byte b :: rest => spell (b :: acc) rest
  | .unit u :: .unit v :: rest =>
    if isHighSurrogate u then
      if isLowSurrogate v then
        let c := Char.ofNat (0x10000 + (u - 0xd800) * 0x400 + (v - 0xdc00))
        spell ((String.utf8EncodeChar c).reverse ++ acc) rest
      else none
    else if isLowSurrogate u then none
    else spell ((String.utf8EncodeChar (Char.ofNat u)).reverse ++ acc) (.unit v :: rest)
  | .unit u :: rest =>
    if isHighSurrogate u || isLowSurrogate u then none
    else spell ((String.utf8EncodeChar (Char.ofNat u)).reverse ++ acc) rest

/-- Reads a string literal after its opening quote. -/
def readString (bs : Bytes) : Option (Option String × Bytes) := do
  let (pieces, rest) ← readPieces [] bs
  pure ((spell [] pieces).bind Utf8.decode?, rest)

/-! ## Numbers -/

/-- The leading digits and what follows them. -/
def spanDigits (bs : Bytes) : Bytes × Bytes := bs.span Decimal.isDigit

/-- A whole part: a single zero, or digits that do not start with one. -/
def readWhole (bs : Bytes) : Option (Bytes × Bytes) :=
  match spanDigits bs with
  | ([], _) => none
  | (0x30 :: _ :: _, _) => none
  | r => some r

/-- The digits after a point, if there is a point. -/
def readFraction : Bytes → Option (Option Bytes × Bytes)
  | 0x2e :: rest =>
    match spanDigits rest with
    | ([], _) => none
    | (ds, rest') => some (some ds, rest')
  | bs => some (none, bs)

/-- One or more digits of an exponent whose sign has been read. -/
def readExponentDigits (negative : Bool) (bs : Bytes) : Option (Option Int × Bytes) :=
  match spanDigits bs with
  | ([], _) => none
  | (ds, rest) =>
    let n : Int := Decimal.value ds
    some (some (if negative then -n else n), rest)

/-- The exponent, if there is one. -/
def readExponent : Bytes → Option (Option Int × Bytes)
  | b :: rest =>
    if b = 0x65 ∨ b = 0x45 then
      match rest with
      | 0x2b :: rest' => readExponentDigits false rest'
      | 0x2d :: rest' => readExponentDigits true rest'
      | rest' => readExponentDigits false rest'
    else some (none, b :: rest)
  | [] => some (none, [])

/-- The parts of a number after its sign. -/
def readUnsigned (negative : Bool) (bs : Bytes) : Option (Numeral × Bytes) := do
  let (whole, bs) ← readWhole bs
  let (fraction, bs) ← readFraction bs
  let (exponent, bs) ← readExponent bs
  pure (⟨negative, Decimal.value (whole ++ fraction.getD []), fraction.map List.length, exponent⟩, bs)

/-- Reads a number. -/
def readNumeral : Bytes → Option (Numeral × Bytes)
  | 0x2d :: rest => readUnsigned true rest
  | bs => readUnsigned false bs

/-! ## Values -/

/-- Takes the given bytes off the front. -/
def expect : Bytes → Bytes → Option Bytes
  | [], bs => some bs
  | e :: es, b :: bs => if e = b then expect es bs else none
  | _ :: _, [] => none

mutual

/-- Reads one value.  Every call made for a part of it has fewer `steps`, and each takes at least
one byte, so as many steps as there are bytes are enough. -/
def readValue (steps : Nat) (bs : Bytes) : Option (Json × Bytes) :=
  match steps, skipBlanks bs with
  | 0, _ => none
  | _, [] => none
  | steps + 1, b :: rest =>
    if b = 0x6e then (expect [0x75, 0x6c, 0x6c] rest).map (Json.null, ·)
    else if b = 0x74 then (expect [0x72, 0x75, 0x65] rest).map (Json.bool true, ·)
    else if b = 0x66 then (expect [0x61, 0x6c, 0x73, 0x65] rest).map (Json.bool false, ·)
    else if b = 0x22 then (readString rest).map fun (s, rest) => (.string s, rest)
    else if b = 0x5b then
      match skipBlanks rest with
      | 0x5d :: rest => some (.array [], rest)
      | rest => (readItems steps [] rest).map fun (items, rest) => (.array items, rest)
    else if b = 0x7b then
      match skipBlanks rest with
      | 0x7d :: rest => some (.object [], rest)
      | rest => (readMembers steps [] rest).map fun (members, rest) => (.object members, rest)
    else (readNumeral (b :: rest)).map fun (n, rest) => (.number n, rest)

/-- Reads the items of an array up to its closing bracket; `acc` holds those so far, last first. -/
def readItems (steps : Nat) (acc : List Json) (bs : Bytes) : Option (List Json × Bytes) :=
  match steps with
  | 0 => none
  | steps + 1 =>
    match readValue steps bs with
    | none => none
    | some (v, rest) =>
      match skipBlanks rest with
      | 0x2c :: rest => readItems steps (v :: acc) rest
      | 0x5d :: rest => some ((v :: acc).reverse, rest)
      | _ => none

/-- Reads the members of an object up to its closing brace; `acc` holds those so far, last first. -/
def readMembers (steps : Nat) (acc : List (Option String × Json)) (bs : Bytes) :
    Option (List (Option String × Json) × Bytes) :=
  match steps with
  | 0 => none
  | steps + 1 =>
    match skipBlanks bs with
    | 0x22 :: rest =>
      match readString rest with
      | none => none
      | some (key, rest) =>
        match skipBlanks rest with
        | 0x3a :: rest =>
          match readValue steps rest with
          | none => none
          | some (v, rest) =>
            match skipBlanks rest with
            | 0x2c :: rest => readMembers steps ((key, v) :: acc) rest
            | 0x7d :: rest => some (((key, v) :: acc).reverse, rest)
            | _ => none
        | _ => none
    | _ => none

end

/-- The value that a whole text spells. -/
def ofBytes? (bs : Bytes) : Option Json :=
  match readValue (2 * bs.length + 2) bs with
  | some (v, rest) => if (skipBlanks rest).isEmpty then some v else none
  | none => none

/-- The value that a file spells: its bytes have to be UTF-8 first. -/
def ofFile? (bs : Bytes) : Option Json :=
  if (Utf8.decode? bs).isSome then ofBytes? bs else none

end MapScout.Json
