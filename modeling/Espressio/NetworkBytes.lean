import Mathlib.Data.List.Basic
import Mathlib.Data.List.TakeWhile

/-!
# Byte strings and network byte order

Byte strings are lists of `UInt8`.  A read outside a string is `none`, so a
program that reads through these functions and never returns `none` never
reads out of bounds.  `overwrite` is a copy of bytes into a buffer.
-/

namespace NetworkBytes

abbrev Bytes := List UInt8

/-- The bytes of an ASCII literal. -/
def ascii (text : String) : Bytes := text.toList.map fun c => c.toNat.toUInt8

/-- The bytes of a text up to its first NUL, as a C string function sees them. -/
def cString (text : Bytes) : Bytes := text.takeWhile (· ≠ 0)

theorem cString_eq_self_iff {text : Bytes} : cString text = text ↔ (0 : UInt8) ∉ text := by
  rw [cString, List.takeWhile_eq_self_iff]
  grind

/-- The big-endian 16-bit number of two bytes. -/
def join16 (hi lo : UInt8) : UInt16 := (hi.toUInt16 <<< 8) ||| lo.toUInt16

theorem join16_toNat (hi lo : UInt8) : (join16 hi lo).toNat = hi.toNat * 256 + lo.toNat := by
  have hhi := hi.toNat_lt
  have hlo := lo.toNat_lt
  have hor := Nat.shiftLeft_add_eq_or_of_lt (i := 8) hlo hi.toNat
  simp only [Nat.shiftLeft_eq, Nat.reducePow] at hor
  simp only [join16, UInt16.toNat_or, UInt16.toNat_shiftLeft, UInt8.toNat_toUInt16,
    Nat.shiftLeft_eq]
  rw [Nat.mod_eq_of_lt (by simp; omega)]
  simpa using hor.symm

/-- Splitting a 16-bit number into its bytes and joining them again. -/
theorem join16_split (v : UInt16) : join16 (v >>> 8).toUInt8 v.toUInt8 = v := by
  apply UInt16.toNat_inj.mp
  rw [join16_toNat]
  have := v.toNat_lt
  simp [Nat.shiftRight_eq_div_pow]
  omega

theorem join16_low (hi lo : UInt8) : (join16 hi lo).toUInt8 = lo := by
  apply UInt8.toNat_inj.mp
  have := lo.toNat_lt
  simp [join16_toNat]

theorem high_byte_zero {v : UInt16} (h : v.toNat < 256) : (v >>> 8).toUInt8 = 0 := by
  apply UInt8.toNat_inj.mp
  simp [Nat.shiftRight_eq_div_pow]
  omega

/-- The big-endian 32-bit number of four bytes. -/
def join32 (b₀ b₁ b₂ b₃ : UInt8) : UInt32 :=
  ((join16 b₀ b₁).toUInt32 <<< 16) ||| (join16 b₂ b₃).toUInt32

theorem join32_toNat (b₀ b₁ b₂ b₃ : UInt8) :
    (join32 b₀ b₁ b₂ b₃).toNat = (join16 b₀ b₁).toNat * 65536 + (join16 b₂ b₃).toNat := by
  have hhi := (join16 b₀ b₁).toNat_lt
  have hlo := (join16 b₂ b₃).toNat_lt
  have hor := Nat.shiftLeft_add_eq_or_of_lt (i := 16) hlo (join16 b₀ b₁).toNat
  simp only [Nat.shiftLeft_eq, Nat.reducePow] at hor
  simp only [join32, UInt32.toNat_or, UInt32.toNat_shiftLeft, UInt16.toNat_toUInt32,
    Nat.shiftLeft_eq]
  rw [Nat.mod_eq_of_lt (by simp; omega)]
  simpa using hor.symm

/-- Splitting a 32-bit number into its bytes and joining them again. -/
theorem join32_split (v : UInt32) :
    join32 (v >>> 24).toUInt8 (v >>> 16).toUInt8 (v >>> 8).toUInt8 v.toUInt8 = v := by
  apply UInt32.toNat_inj.mp
  rw [join32_toNat, join16_toNat, join16_toNat]
  have := v.toNat_lt
  simp [Nat.shiftRight_eq_div_pow]
  omega

/-- A property of all bytes, checked on the 256 of them. -/
theorem forall_uint8 {p : UInt8 → Prop} (h : ∀ n : Fin 256, p (UInt8.ofFin n)) (b : UInt8) :
    p b := by
  simpa using h b.toFin

/-- Checked read of `n` consecutive bytes. -/
def slice (bytes : Bytes) (offset n : Nat) : Option Bytes :=
  if offset + n ≤ bytes.length then some ((bytes.drop offset).take n) else none

theorem length_slice {bytes text : Bytes} {offset n : Nat} (h : slice bytes offset n = some text) :
    text.length = n := by
  unfold slice at h
  split at h
  · cases h
    simp only [List.length_take, List.length_drop]
    omega
  · cases h

/-- Checked big-endian read of two bytes. -/
def read16 (bytes : Bytes) (offset : Nat) : Option UInt16 :=
  match bytes[offset]?, bytes[offset + 1]? with
  | some hi, some lo => some (join16 hi lo)
  | _, _ => none

theorem read16_bytes {bytes : Bytes} {offset : Nat} {v : UInt16}
    (h : read16 bytes offset = some v) :
    ∃ hi lo, bytes[offset]? = some hi ∧ bytes[offset + 1]? = some lo ∧ join16 hi lo = v := by
  unfold read16 at h
  split at h
  · rename_i hi lo hhi hlo
    exact ⟨hi, lo, hhi, hlo, Option.some.inj h⟩
  · cases h

/-- Big-endian write of two bytes into a buffer. -/
def write16 (bytes : Bytes) (offset : Nat) (value : UInt16) : Bytes :=
  (bytes.set offset (value >>> 8).toUInt8).set (offset + 1) value.toUInt8

/-- The bytes of a 32-bit number in network order. -/
def bytes32 (value : UInt32) : Bytes :=
  [(value >>> 24).toUInt8, (value >>> 16).toUInt8, (value >>> 8).toUInt8, value.toUInt8]

/-- The bytes of a 16-bit number in network order. -/
def bytes16 (value : UInt16) : Bytes := [(value >>> 8).toUInt8, value.toUInt8]

@[simp] theorem length_write16 (bytes : Bytes) (offset : Nat) (value : UInt16) :
    (write16 bytes offset value).length = bytes.length := by
  simp [write16]

/-- A write changes the two bytes it is at and no other. -/
theorem getElem?_write16 (bytes : Bytes) (offset : Nat) (value : UInt16) (i : Nat) :
    (write16 bytes offset value)[i]? =
      if i = offset ∧ i < bytes.length then some (value >>> 8).toUInt8
      else if i = offset + 1 ∧ i < bytes.length then some value.toUInt8
      else bytes[i]? := by
  simp only [write16, List.getElem?_set, List.length_set]
  grind

/-- Copy `chunk` into a buffer from `offset` on. -/
def overwrite (buffer : Bytes) (offset : Nat) (chunk : Bytes) : Bytes :=
  buffer.take offset ++ chunk ++ buffer.drop (offset + chunk.length)

/-- Extending a written prefix: the bytes before `offset` stay, the chunk
follows them, and the untouched rest of the buffer moves up. -/
theorem overwrite_written {written rest chunk : Bytes} :
    overwrite (written ++ rest) written.length chunk =
      written ++ chunk ++ rest.drop chunk.length := by
  simp [overwrite, List.drop_append]

/-- A copy into the first part of a buffer leaves the second part alone. -/
theorem overwrite_append_left {buffer rest chunk : Bytes} {offset : Nat}
    (h : offset + chunk.length ≤ buffer.length) :
    overwrite (buffer ++ rest) offset chunk = overwrite buffer offset chunk ++ rest := by
  unfold overwrite
  rw [List.take_append_of_le_length (by omega), List.drop_append_of_le_length h]
  simp

end NetworkBytes
