import Mathlib.Data.List.Basic
import MapScout.Text.Utf8

/-!
# Strings and their bytes

A string and its bytes determine each other: what `bytesOf` writes is what `Utf8.decode?` reads, and
it reads nothing else.  ASCII bytes are always text.
-/

namespace MapScout

theorem toList_loop (bs : ByteArray) (i : Nat) (acc : List UInt8) :
    ByteArray.toList.loop bs i acc = acc.reverse ++ bs.data.toList.drop i := by
  fun_induction ByteArray.toList.loop bs i acc with
  | case1 i acc hlt ih =>
      have hlen : i < bs.data.toList.length := by rwa [Array.length_toList]
      have hget : bs.get! i = bs.data.toList[i] := by
        rw [Array.getElem_toList]
        exact getElem!_pos bs.data i hlt
      rw [ih, List.reverse_cons, List.append_assoc, List.singleton_append, hget,
        List.drop_eq_getElem_cons hlen]
  | case2 i acc hge =>
      have hlen : bs.data.toList.length ≤ i := by
        rw [Array.length_toList]
        exact Nat.le_of_not_lt hge
      rw [List.drop_eq_nil_of_le hlen, List.append_nil]

theorem toList_data (bs : ByteArray) : bs.toList = bs.data.toList := by
  rw [ByteArray.toList, toList_loop]
  rfl

/-- The bytes of a string are those of its characters. -/
theorem bytesOf_eq_flatMap (s : String) : bytesOf s = s.toList.flatMap String.utf8EncodeChar := by
  rw [bytesOf, toList_data, String.toUTF8, ← String.utf8Encode_toList, List.utf8Encode,
    List.toList_data_toByteArray]

theorem bytesOf_ofList (cs : List Char) :
    bytesOf (String.ofList cs) = cs.flatMap String.utf8EncodeChar := by
  rw [bytesOf_eq_flatMap, String.toList_ofList]

theorem bytesOf_injective : Function.Injective bytesOf := by
  intro s t h
  rw [bytesOf, bytesOf, toList_data, toList_data] at h
  exact String.toByteArray_inj.mp (ByteArray.ext (Array.toList_inj.mp h))

namespace Utf8

theorem decode?_bytesOf (s : String) : decode? (bytesOf s) = some s := by
  have hbytes : (⟨(bytesOf s).toArray⟩ : ByteArray) = s.toByteArray := by
    rw [bytesOf, toList_data]
    rfl
  rw [decode?, hbytes, String.fromUTF8?, dif_pos s.isValidUTF8]
  rfl

theorem decode?_eq_some {bs : Bytes} {s : String} : decode? bs = some s ↔ bytesOf s = bs := by
  constructor
  · intro h
    rw [decode?, String.fromUTF8?] at h
    split at h
    · obtain rfl := Option.some.inj h
      rw [bytesOf, toList_data]
      rfl
    · cases h
  · rintro rfl
    exact decode?_bytesOf s

/-- An ASCII byte is a character of its own. -/
theorem utf8EncodeChar_ascii {b : UInt8} (h : b < 0x80) :
    String.utf8EncodeChar (Char.ofNat b.toNat) = [b] := by
  have hall : ∀ n : Fin 256, UInt8.ofFin n < 0x80 →
      String.utf8EncodeChar (Char.ofNat n) = [UInt8.ofFin n] := by
    decide +kernel
  exact hall b.toFin h

theorem bytesOf_ascii {bs : Bytes} (h : ∀ b ∈ bs, b < 0x80) :
    bytesOf (String.ofList (bs.map fun b => Char.ofNat b.toNat)) = bs := by
  rw [bytesOf_ofList]
  induction bs with
  | nil => rfl
  | cons b bs ih =>
      obtain ⟨hb, hbs⟩ := List.forall_mem_cons.mp h
      rw [List.map_cons, List.flatMap_cons, ih hbs, utf8EncodeChar_ascii hb]
      rfl

end Utf8

end MapScout
