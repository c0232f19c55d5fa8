import MapScout.Text.Hex
/-!
# Percent escapes

A percent sign followed by two hexadecimal digits stands for a byte.
-/

namespace MapScout.Percent

/-- Resolves escapes.  A percent sign that starts no escape stands for itself. -/
def decode : Bytes → Bytes
  | 0x25 :: hi :: lo :: rest =>
    match Hex.value? hi, Hex.value? lo with
    | some h, some l => UInt8.ofNat (h * 16 + l) :: decode rest
    | _, _ => 0x25 :: decode (hi :: lo :: rest)
  | b :: rest => b :: decode rest
  | [] => []
termination_by bs => bs.length

/-- Escapes the bytes that are unsafe, which all bytes beyond ASCII have to be. -/
def encode (isUnsafe : UInt8 → Bool) (bs : Bytes) : String :=
  String.ofList <| bs.flatMap fun b =>
    if isUnsafe b then '%' :: (Hex.digits 2 b.toNat).map Char.toUpper else [Char.ofNat b.toNat]

end MapScout.Percent
