import Mathlib.Data.List.Basic

/-!
# Prefixes of UTF-8 text

Text that is cut after a number of bytes, not of characters.  What is left of a
valid text is valid again exactly if nothing was cut off, or what was cut off
begins with the first byte of a character.
-/

namespace Utf8

/-- The bytes encode a sequence of characters. -/
def Valid (bytes : List UInt8) : Prop := bytes.toByteArray.IsValidUTF8

instance (bytes : List UInt8) : Decidable (Valid bytes) :=
  inferInstanceAs (Decidable bytes.toByteArray.IsValidUTF8)

variable {bytes : List UInt8} {n : Nat}

theorem toByteArray_take (bytes : List UInt8) (n : Nat) :
    (bytes.take n).toByteArray = bytes.toByteArray.extract 0 n := by
  apply ByteArray.ext
  simp

/-- A valid text as a string. -/
def text (h : Valid bytes) : String := ⟨bytes.toByteArray, h⟩

theorem utf8ByteSize_text (h : Valid bytes) : (text h).utf8ByteSize = bytes.length :=
  List.size_toByteArray

/-- **Cutting a text.** -/
theorem valid_take_iff (h : Valid bytes) (n : Nat) :
    Valid (bytes.take n) ↔ ∀ hn : n < bytes.length, bytes[n].IsUTF8FirstByte := by
  by_cases hn : n < bytes.length
  · have hlt : (⟨n⟩ : String.Pos.Raw) < (text h).rawEndPos := by
      rw [String.Pos.Raw.lt_iff, String.byteIdx_rawEndPos, utf8ByteSize_text]
      exact hn
    have hbyte : (text h).getUTF8Byte ⟨n⟩ hlt = bytes[n] := List.getElem_toByteArray
    calc Valid (bytes.take n)
        ↔ (⟨n⟩ : String.Pos.Raw).IsValid (text h) := by
          rw [Valid, toByteArray_take, String.Pos.Raw.isValid_iff_isValidUTF8_extract_zero]
          exact (and_iff_right (String.Pos.Raw.le_of_lt hlt)).symm
      _ ↔ ((text h).getUTF8Byte ⟨n⟩ hlt).IsUTF8FirstByte := by
          rw [String.Pos.Raw.isValid_iff_isUTF8FirstByte,
            or_iff_right (String.Pos.Raw.ne_of_lt hlt)]
          exact exists_prop_of_true hlt
      _ ↔ ∀ hn : n < bytes.length, bytes[n].IsUTF8FirstByte := by
          rw [hbyte]
          exact ⟨fun hfirst _ => hfirst, fun hfirst => hfirst hn⟩
  · rw [List.take_of_length_le (Nat.not_lt.mp hn)]
    exact iff_of_true h fun hlt => absurd hlt hn

end Utf8
