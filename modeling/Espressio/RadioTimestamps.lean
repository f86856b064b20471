import Mathlib.Algebra.Group.Nat.Defs
import Espressio.Raw80211Radio

/-!
# Recovering the time of a received packet

The driver stamps a packet with the low 32 bits of its microsecond counter.
`RecoverReceiveTimestampNanoseconds` is to select the value with those low bits
that lies nearest to the clock.

`Nearest` is what is meant, for any modulus.  A value within half the modulus
of the clock is nearest, and so is one that is below the modulus and ahead of
the clock, however far.  The code always selects a value within half the
modulus.  In the first half of the first period there may be none that is not
negative, and the subtraction wraps.  The result is exact in all other cases
and in no such case: `recovers_iff`.
-/

/-! ## The nearest value of a residue -/

namespace Residues

/-- Among the natural numbers with residue `r`, `m` is nearest to `n`. -/
structure Nearest (w r n m : Nat) : Prop where
  residue : m % w = r
  nearest : ∀ k, k % w = r → ((m : Int) - n).natAbs ≤ ((k : Int) - n).natAbs

variable {w r n m : Nat}

/-- Two numbers of one residue are equal or a modulus apart. -/
theorem apart_of_residue {k : Nat} (h : m % w = k % w) : m = k ∨ m + w ≤ k ∨ k + w ≤ m := by
  have hm := Nat.div_add_mod m w
  have hk := Nat.div_add_mod k w
  rcases Nat.lt_trichotomy (m / w) (k / w) with hlt | heq | hgt
  · have hmul := Nat.mul_le_mul_left w (Nat.succ_le_of_lt hlt)
    rw [Nat.mul_succ] at hmul
    omega
  · rw [heq] at hm
    omega
  · have hmul := Nat.mul_le_mul_left w (Nat.succ_le_of_lt hgt)
    rw [Nat.mul_succ] at hmul
    omega

/-- Within half the modulus. -/
theorem nearest_of_half (hr : m % w = r) (hhalf : 2 * ((m : Int) - n).natAbs ≤ w) :
    Nearest w r n m := by
  refine ⟨hr, fun k hk => ?_⟩
  have hapart := apart_of_residue (hr.trans hk.symm)
  omega

end Residues

namespace Raw80211Radio

open Residues

/-! ## The computation, in numbers -/

/-- Masking off the low half of a 64-bit number. -/
theorem and_highMask {n : Nat} (h : n < 2 ^ 64) :
    n &&& (2 ^ 32 - 1) <<< 32 = (n >>> 32) <<< 32 := by
  apply Nat.eq_of_testBit_eq
  intro i
  rw [Nat.testBit_and, Nat.testBit_shiftLeft, Nat.testBit_shiftLeft, Nat.testBit_shiftRight,
    Nat.testBit_two_pow_sub_one]
  by_cases hlow : 32 ≤ i
  · rw [Nat.add_sub_cancel' hlow]
    by_cases hhigh : i < 64
    · simp [hlow, show i - 32 < 32 by omega]
    · have hzero : n.testBit i = false :=
        Nat.testBit_lt_two_pow (Nat.lt_of_lt_of_le h (Nat.pow_le_pow_right (by omega) (by omega)))
      simp [hzero]
  · simp [hlow]

/-- The clock with its low 32 bits replaced by the driver's. -/
theorem toNat_spliced (now : UInt64) (timestamp : UInt32) :
    ((now &&& ~~~(wifiTimestampWrapMicroseconds - 1)) ||| timestamp.toUInt64).toNat =
      now.toNat / 4294967296 * 4294967296 + timestamp.toNat := by
  have hmask : (~~~(wifiTimestampWrapMicroseconds - 1)).toNat = (2 ^ 32 - 1) <<< 32 := by decide
  rw [UInt64.toNat_or, UInt64.toNat_and, hmask, and_highMask now.toNat_lt,
    UInt32.toNat_toUInt64, ← Nat.shiftLeft_add_eq_or_of_lt timestamp.toNat_lt, Nat.shiftLeft_eq,
    Nat.shiftRight_eq_div_pow]

/-- The value that is scaled to nanoseconds, modulo `2 ^ 64`. -/
def selected (n r : Nat) : Nat :=
  let m := n / 4294967296 * 4294967296 + r
  if n + 2147483648 < m then m + 18446744073709551616 - 4294967296
  else if m + 2147483648 < n then m + 4294967296
  else m

theorem toNat_recover (now : UInt64) (timestamp : UInt32) :
    (recoverReceiveTimestampNanoseconds now timestamp).toNat =
      selected (now.toNat / 1000) timestamp.toNat * 1000 % 18446744073709551616 := by
  have hnow := now.toNat_lt
  have hr := timestamp.toNat_lt
  have hspliced := toNat_spliced (now / microsecondsToNanoseconds) timestamp
  have hmicro : (now / microsecondsToNanoseconds).toNat = now.toNat / 1000 := rfl
  have hhalf : (wifiTimestampWrapMicroseconds / 2).toNat = 2147483648 := by decide
  have hwrap : wifiTimestampWrapMicroseconds.toNat = 4294967296 := by decide
  unfold recoverReceiveTimestampNanoseconds selected
  dsimp only
  rw [hmicro] at hspliced
  rw [← hspliced]
  generalize now / microsecondsToNanoseconds = nowMicroseconds at *
  generalize nowMicroseconds &&& _ ||| _ = received at hspliced ⊢
  have hbound := received.toNat_lt
  have hahead : nowMicroseconds < received ∧
      wifiTimestampWrapMicroseconds / 2 < received - nowMicroseconds ↔
        now.toNat / 1000 + 2147483648 < received.toNat := by
    simp only [UInt64.lt_iff_toNat_lt, UInt64.toNat_sub, hhalf, hmicro]
    omega
  have hbehind : received < nowMicroseconds ∧
      wifiTimestampWrapMicroseconds / 2 < nowMicroseconds - received ↔
        received.toNat + 2147483648 < now.toNat / 1000 := by
    simp only [UInt64.lt_iff_toNat_lt, UInt64.toNat_sub, hhalf, hmicro]
    omega
  rw [UInt64.toNat_mul, show microsecondsToNanoseconds.toNat = 1000 from rfl]
  simp only [hahead, hbehind]
  split
  · rw [UInt64.toNat_sub, hwrap]
    omega
  · split
    · rw [UInt64.toNat_add, hwrap]
      omega
    · rfl

/-! ## What is returned -/

/-- The result is `1000 * m` for an `m` with the driver's low bits that is
nearest to the clock, and within half the modulus of a clock past it. -/
def Recovers (now : UInt64) (timestamp : UInt32) : Prop :=
  ∃ m, (recoverReceiveTimestampNanoseconds now timestamp).toNat = 1000 * m ∧
    Nearest 4294967296 timestamp.toNat (now.toNat / 1000) m ∧
    (2147483648 ≤ now.toNat / 1000 →
      ((m : Int) - (now.toNat / 1000 : Nat)).natAbs ≤ 2147483648)

/-- A value within half the modulus of the clock is all that is asked for. -/
theorem recovers_of_half {now : UInt64} {timestamp : UInt32} {m : Nat}
    (hresult : (recoverReceiveTimestampNanoseconds now timestamp).toNat = 1000 * m)
    (hresidue : m % 4294967296 = timestamp.toNat)
    (hhalf : ((m : Int) - (now.toNat / 1000 : Nat)).natAbs ≤ 2147483648) :
    Recovers now timestamp :=
  ⟨m, hresult, nearest_of_half hresidue (by omega), fun _ => hhalf⟩

/-- A difference that has wrapped is no longer a number of microseconds when it
is scaled. -/
theorem wrapped_ne {r : Nat} (h : r < 4294967296) (m : Nat) :
    (r + 18446744073709551616 - 4294967296) * 1000 % 18446744073709551616 ≠ 1000 * m := by
  have hscaled : (r + 18446744073709551616 - 4294967296) * 1000 =
      18446744073709551616 * 999 + (18446744073709551616 - 1000 * (4294967296 - r)) := by omega
  rw [hscaled, Nat.mul_add_mod, Nat.mod_eq_of_lt (by omega)]
  omega

theorem not_recovers_of_ahead {now : UInt64} {timestamp : UInt32}
    (h : now.toNat / 1000 + 2147483648 < timestamp.toNat) : ¬Recovers now timestamp := by
  rintro ⟨m, hresult, -⟩
  have hr := timestamp.toNat_lt
  have hfirst : now.toNat / 1000 / 4294967296 = 0 := by omega
  rw [toNat_recover, selected, hfirst, if_pos (by omega), Nat.zero_mul, Nat.zero_add] at hresult
  exact wrapped_ne hr m hresult

/-- **Recovered timestamps.**  At a clock below `2 ^ 63` ns the result is the
nearest time with the driver's low bits exactly if those bits are no more than
half a period ahead of the clock. -/
theorem recovers_iff (now : UInt64) (timestamp : UInt32) (hnow : now.toNat < 2 ^ 63) :
    Recovers now timestamp ↔ timestamp.toNat ≤ now.toNat / 1000 + 2147483648 := by
  have hr := timestamp.toNat_lt
  have hresult := toNat_recover now timestamp
  constructor
  · intro h
    by_contra hahead
    exact not_recovers_of_ahead (by omega) h
  · intro hahead
    unfold selected at hresult
    dsimp only at hresult
    split at hresult
    · -- the clock is past its first period: no wrap
      exact recovers_of_half (m := now.toNat / 1000 / 4294967296 * 4294967296 +
        timestamp.toNat - 4294967296) (by omega) (by omega) (by omega)
    · split at hresult
      · exact recovers_of_half (m := now.toNat / 1000 / 4294967296 * 4294967296 +
          timestamp.toNat + 4294967296) (by omega) (by omega) (by omega)
      · exact recovers_of_half (m := now.toNat / 1000 / 4294967296 * 4294967296 +
          timestamp.toNat) (by omega) (by omega) (by omega)

theorem recovers_after_ten_seconds : (10000000000 : UInt64).toNat < 2 ^ 63 ∧
    (Recovers 10000000000 9999990 ↔
      (9999990 : UInt32).toNat ≤ (10000000000 : UInt64).toNat / 1000 + 2147483648) :=
  ⟨by decide, recovers_iff 10000000000 9999990 (by decide)⟩

/-- A second after the clock's start, a stamp from before it. -/
theorem recovered_before_start : ¬ ∀ (now : UInt64) (timestamp : UInt32),
    now.toNat < 2 ^ 63 → Recovers now timestamp := by
  intro h
  obtain ⟨m, hresult, -⟩ := h 1000000000 4294967286 (by decide)
  have hvalue : (recoverReceiveTimestampNanoseconds 1000000000 4294967286).toNat =
      18446744073709541616 := by decide +kernel
  rw [hvalue] at hresult
  omega

end Raw80211Radio
