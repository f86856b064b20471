import Mathlib.Tactic.Common
import Espressio.Runs

/-!
# Retries held apart by a clock that wraps

A machine that may try something again marks the time of an attempt, and makes
no other until its interval has passed since the mark.  Its clock has 32 bits.
The difference of two readings is taken modulo 2^32 and never exceeds that of
the times they were taken at, so the attempts are held apart whether the clock
wraps between them or not (`Paced.spaced`).  What the wrap can do is to hold
one back for longer.

Events carry the true time they happen at.  A machine that starts with the mark
0 makes no attempt before its interval has passed since the time 0
(`Paced.late`).
-/

namespace RetryPacing

open Runs

variable {σ ε ο : Type*}

/-- What a step may do with the mark: it keeps it and makes no attempt, or it
sets it to its reading, an interval after what it was. -/
def Paces (last next interval : UInt32) (reading : Option UInt32) (attempt : Prop) : Prop :=
  (next = last ∧ ¬attempt) ∨ (reading = some next ∧ interval ≤ next - last)

theorem Paces.kept {last interval : UInt32} {reading : Option UInt32} {attempt : Prop}
    (h : ¬attempt) : Paces last last interval reading attempt :=
  Or.inl ⟨rfl, h⟩

/-- All steps of a machine pace its attempts. -/
def Paced (f : σ → ε → σ × List ο) (reading : ε → Option UInt32) (last interval : σ → UInt32)
    (attempts : σ → ε → Prop) : Prop :=
  ∀ s e, Paces (last s) (last (f s e).1) (interval s) (reading e) (attempts s e)

/-- A machine whose events carry their times. -/
def timed (f : σ → ε → σ × List ο) (s : σ) (e : Nat × ε) : σ × List ο := f s e.2

/-- Time does not go back, and the clock shows it modulo 2^32. -/
structure Clocked (reading : ε → Option UInt32) (es : List (Nat × ε)) : Prop where
  forward : es.Pairwise fun a b => a.1 ≤ b.1
  shows : ∀ e ∈ es, ∀ now, reading e.2 = some now → now = UInt32.ofNat e.1

variable {f : σ → ε → σ × List ο} {reading : ε → Option UInt32} {last interval : σ → UInt32}
  {attempts : σ → ε → Prop}

/-- A difference of readings does not exceed the time between them. -/
theorem sub_le_elapsed {mark time : Nat} (h : mark ≤ time) :
    (UInt32.ofNat time - UInt32.ofNat mark).toNat ≤ time - mark := by
  rw [UInt32.toNat_sub, UInt32.toNat_ofNat', UInt32.toNat_ofNat']
  omega

/-- If the mark is not older than some time, attempts keep their interval from
that time. -/
theorem Paced.after (h : Paced f reading last interval attempts) {es : List (Nat × ε)}
    (hclock : Clocked reading es) {s : σ} {start mark : Nat} (hstart : start ≤ mark)
    (hmark : last s = UInt32.ofNat mark) (hfirst : ∀ e ∈ es, mark ≤ e.1) :
    ∀ x ∈ trace (timed f) s es, attempts x.1 x.2.2 → start + (interval x.1).toNat ≤ x.2.1 := by
  induction es generalizing s mark with
  | nil => exact fun x hx => absurd hx List.not_mem_nil
  | cons e es ih =>
      obtain ⟨hlater, hforward⟩ := List.pairwise_cons.mp hclock.forward
      obtain ⟨hshows, hshowsRest⟩ := List.forall_mem_cons.mp hclock.shows
      obtain ⟨hhead, hrest⟩ := List.forall_mem_cons.mp hfirst
      refine List.forall_mem_cons.mpr ⟨fun hattempt => ?_, ?_⟩
      · rcases h s e.2 with ⟨-, hnone⟩ | ⟨hreading, hwaited⟩
        · exact absurd hattempt hnone
        · rw [hshows _ hreading, hmark] at hwaited
          have helapsed := sub_le_elapsed hhead
          have hnat := UInt32.le_iff_toNat_le.mp hwaited
          dsimp only
          omega
      · rcases h s e.2 with ⟨hkept, -⟩ | ⟨hreading, -⟩
        · exact ih ⟨hforward, hshowsRest⟩ hstart (hkept.trans hmark) hrest
        · exact ih ⟨hforward, hshowsRest⟩ (Nat.le_trans hstart hhead) (hshows _ hreading) hlater

/-- **Spacing.**  From one attempt to any later one at least the interval of
the later one passes. -/
theorem Paced.spaced (h : Paced f reading last interval attempts) {es : List (Nat × ε)}
    (hclock : Clocked reading es) (s : σ) :
    (trace (timed f) s es).Pairwise fun x y =>
      attempts x.1 x.2.2 → attempts y.1 y.2.2 → x.2.1 + (interval y.1).toNat ≤ y.2.1 := by
  induction es generalizing s with
  | nil => exact List.Pairwise.nil
  | cons e es ih =>
      obtain ⟨hlater, hforward⟩ := List.pairwise_cons.mp hclock.forward
      obtain ⟨hshows, hshowsRest⟩ := List.forall_mem_cons.mp hclock.shows
      refine List.pairwise_cons.mpr ⟨?_, ih ⟨hforward, hshowsRest⟩ _⟩
      intro y hy hfirst hattempt
      have hreading := (h s e.2).resolve_left fun hkept => hkept.2 hfirst
      have hmark := hshows _ hreading.1
      exact h.after ⟨hforward, hshowsRest⟩ (Nat.le_refl _) hmark hlater y hy hattempt

/-- **The first attempt.** -/
theorem Paced.late (h : Paced f reading last interval attempts) {es : List (Nat × ε)}
    (hclock : Clocked reading es) {s : σ} (hzero : last s = 0) :
    ∀ x ∈ trace (timed f) s es, attempts x.1 x.2.2 → (interval x.1).toNat ≤ x.2.1 := by
  intro x hx hattempt
  have hafter := h.after hclock (Nat.le_refl 0) hzero (fun e _ => Nat.zero_le e.1) x hx hattempt
  rwa [Nat.zero_add] at hafter

end RetryPacing
