import Espressio.Runs

/-!
# Calls in an order that is accepted

An interface that may only be called in certain orders is a partial machine:
`accept k c` is what becomes of it by a call, and `none` if the call is not to
be made.  A list of calls is accepted if each is.

`accepts_feed` is the rule for a program that makes such calls: if it stays in
step with the interface and each of its steps makes calls that are accepted,
the calls of a whole run are.
-/

namespace NativeProtocols

open Runs

variable {κ ν σ ε : Type*} {accept : κ → ν → Option κ}

/-- What becomes of the interface, if all of the calls are accepted. -/
def accepts (accept : κ → ν → Option κ) : κ → List ν → Option κ
  | k, [] => some k
  | k, c :: rest => (accept k c).bind fun k => accepts accept k rest

@[simp] theorem accepts_nil (k : κ) : accepts accept k [] = some k := rfl

theorem accepts_cons {k k' : κ} {c : ν} (h : accept k c = some k') (rest : List ν) :
    accepts accept k (c :: rest) = accepts accept k' rest := by
  rw [accepts, h, Option.bind_some]

@[simp] theorem accepts_single (k : κ) (c : ν) : accepts accept k [c] = accept k c := by
  cases h : accept k c with
  | none => simp [accepts, h]
  | some k' => rw [accepts_cons h, accepts_nil]

theorem accepts_append {k k' : κ} {cs : List ν} (h : accepts accept k cs = some k')
    (ds : List ν) : accepts accept k (cs ++ ds) = accepts accept k' ds := by
  induction cs generalizing k with
  | nil =>
      obtain rfl := Option.some.inj h
      rfl
  | cons c cs ih =>
      cases hc : accept k c with
      | none => simp [accepts, hc] at h
      | some next =>
          rw [accepts_cons hc] at h
          rw [List.cons_append, accepts_cons hc, ih h]

/-- **Accepted calls.**  A program that makes accepted calls at each step that is
allowed, and stays in step with the interface, does so over a whole run. -/
theorem accepts_along {f : σ → ε → σ × List ν} {allowed : σ → ε → Prop} {R : σ → κ → Prop}
    (hstep : ∀ s k e, allowed s e → R s k →
      ∃ k', accepts accept k (f s e).2 = some k' ∧ R (f s e).1 k')
    {s : σ} {k : κ} (hs : R s k) {es : List ε} (h : Along f allowed s es) :
    ∃ k', accepts accept k (feed f s es).2 = some k' ∧ R (feed f s es).1 k' := by
  induction es generalizing s k with
  | nil => exact ⟨k, rfl, hs⟩
  | cons e es ih =>
      obtain ⟨k₁, hcalls, hnext⟩ := hstep s k e h.1 hs
      obtain ⟨k₂, hrest, hlast⟩ := ih hnext h.2
      exact ⟨k₂, by rw [feed_cons, accepts_append hcalls, hrest], hlast⟩

theorem accepts_feed {f : σ → ε → σ × List ν} {R : σ → κ → Prop}
    (hstep : ∀ s k e, R s k → ∃ k', accepts accept k (f s e).2 = some k' ∧ R (f s e).1 k')
    {s : σ} {k : κ} (hs : R s k) (es : List ε) :
    ∃ k', accepts accept k (feed f s es).2 = some k' ∧ R (feed f s es).1 k' :=
  accepts_along (fun s k e _ => hstep s k e) hs (Along.of_always (fun _ _ => trivial) s es)

end NativeProtocols
