import MapScout.Number.Decimal
import MapScout.Number.Power
import MapScout.Text.Hex
/-!
# Socket addresses

A network address and a port.  An address of the older kind is four decimal numbers between points.
One of the newer kind stands in brackets: eight hexadecimal groups between colons, of which one run
of zeros may be left out and the last two may be written as an address of the older kind, then
perhaps a zone after a percent sign.  The text of an address is its canonical one.
-/

namespace MapScout

inductive SocketAddress where
  | v4 (octets : List UInt8) (port : UInt16)
  | v6 (groups : List UInt16) (zone : UInt32) (port : UInt16)
  deriving DecidableEq, Repr, Inhabited

namespace SocketAddress

def port : SocketAddress → UInt16
  | .v4 _ port => port
  | .v6 _ _ port => port

/-! ## Reading -/

/-- A number below `bound` in front of a text: at most `most` digits, no zero in front of others
unless that is allowed. -/
def readNumber (bound : Nat) (most : Option Nat) (leadingZeros : Bool) (bs : Bytes) :
    Option (Nat × Bytes) :=
  let (ds, rest) := bs.span Decimal.isDigit
  if ds.isEmpty || most.any (· < ds.length) then none
  else if !leadingZeros && ds.head? == some 0x30 && 1 < ds.length then none
  else if Decimal.value ds < bound then some (Decimal.value ds, rest) else none

def isHexDigit (b : UInt8) : Bool := (Hex.value? b).isSome

/-- A group of one to four hexadecimal digits in front of a text. -/
def readGroup (bs : Bytes) : Option (UInt16 × Bytes) :=
  let (ds, rest) := bs.span isHexDigit
  if ds.isEmpty || 4 < ds.length then none
  else some (UInt16.ofNat ((ds.filterMap Hex.value?).foldl (fun n d => n * 16 + d) 0), rest)

/-- A given byte in front of a text. -/
def readByte (b : UInt8) : Bytes → Option Bytes
  | c :: rest => if b = c then some rest else none
  | [] => none

/-- Four numbers between points. -/
def readOctets (bs : Bytes) : Option (List UInt8 × Bytes) := do
  let octet := readNumber 256 (some 3) false
  let (a, bs) ← octet bs
  let (b, bs) ← octet (← readByte 0x2e bs)
  let (c, bs) ← octet (← readByte 0x2e bs)
  let (d, bs) ← octet (← readByte 0x2e bs)
  pure ([a, b, c, d].map UInt8.ofNat, bs)

/-- The two groups that an address of the older kind stands for. -/
def groupsOfOctets : List UInt8 → List UInt16
  | [a, b, c, d] => [a.toUInt16 * 256 + b.toUInt16, c.toUInt16 * 256 + d.toUInt16]
  | _ => []

/-- Up to `room` groups with colons between them.  The flag says whether the last two were written
as an address of the older kind. -/
def readGroups (first : Bool) : (room : Nat) → Bytes → List UInt16 × Bool × Bytes
  | 0, bs => ([], false, bs)
  | room + 1, bs =>
    match if first then some bs else readByte 0x3a bs with
    | none => ([], false, bs)
    | some after =>
      match if 0 < room then readOctets after else none with
      | some (octets, rest) => (groupsOfOctets octets, true, rest)
      | none =>
        match readGroup after with
        | none => ([], false, bs)
        | some (g, rest) =>
          let (gs, mixed, rest) := readGroups false room rest
          (g :: gs, mixed, rest)

/-- Eight groups, of which a run of at least one zero may be left out. -/
def readAddress (bs : Bytes) : Option (List UInt16 × Bytes) := do
  let (head, mixed, rest) := readGroups true 8 bs
  if head.length = 8 then some (head, rest)
  else if mixed then none
  else
    let rest ← readByte 0x3a (← readByte 0x3a rest)
    let (tail, _, rest) := readGroups true (7 - head.length) rest
    pure (head ++ List.replicate (8 - head.length - tail.length) 0 ++ tail, rest)

def readPort (bs : Bytes) : Option (UInt16 × Bytes) := do
  let (n, rest) ← readNumber (twoTo 16) none true (← readByte 0x3a bs)
  pure (UInt16.ofNat n, rest)

def readV4 (bs : Bytes) : Option (SocketAddress × Bytes) := do
  let (octets, bs) ← readOctets bs
  let (port, bs) ← readPort bs
  pure (.v4 octets port, bs)

def readZone : Bytes → Option (UInt32 × Bytes)
  | 0x25 :: bs => (readNumber (twoTo 32) none true bs).map fun (n, rest) => (UInt32.ofNat n, rest)
  | bs => some (0, bs)

def readV6 (bs : Bytes) : Option (SocketAddress × Bytes) := do
  let (groups, bs) ← readAddress (← readByte 0x5b bs)
  let (zone, bs) ← readZone bs
  let (port, bs) ← readPort (← readByte 0x5d bs)
  pure (.v6 groups zone port, bs)

/-- The address that a text spells. -/
def ofText? (s : String) : Option SocketAddress :=
  match (readV4 (bytesOf s)).orElse fun _ => readV6 (bytesOf s) with
  | some (a, []) => some a
  | _ => none

/-! ## Writing -/

def octetsText (octets : List UInt8) : String :=
  ".".intercalate (octets.map fun b => toString b.toNat)

def groupText (g : UInt16) : String := String.ofList (Nat.toDigits 16 g.toNat)

def groupsText (gs : List UInt16) : String := ":".intercalate (gs.map groupText)

/-- How many zeros stand in front. -/
def zeros (gs : List UInt16) : Nat := (gs.takeWhile (· == 0)).length

/-- Where the first of the longest runs of zeros begins, and its length. -/
def longestRun (gs : List UInt16) : Nat × Nat :=
  (List.range gs.length).foldl (fun (at_, n) i =>
    if n < zeros (gs.drop i) then (i, zeros (gs.drop i)) else (at_, n)) (0, 0)

/-- The text of an address of the newer kind, a run of two or more zeros left out. -/
def addressText (gs : List UInt16) : String :=
  match gs with
  | [0, 0, 0, 0, 0, 0xffff, a, b] =>
    "::ffff:" ++ octetsText [(a / 256).toUInt8, a.toUInt8, (b / 256).toUInt8, b.toUInt8]
  | gs =>
    let (at_, n) := longestRun gs
    if 1 < n then groupsText (gs.take at_) ++ "::" ++ groupsText (gs.drop (at_ + n))
    else groupsText gs

/-- The canonical text. -/
def toText : SocketAddress → String
  | .v4 octets port => octetsText octets ++ ":" ++ toString port.toNat
  | .v6 groups zone port =>
    "[" ++ addressText groups ++ (if zone = 0 then "" else "%" ++ toString zone.toNat) ++ "]:" ++
      toString port.toNat

end SocketAddress

end MapScout
