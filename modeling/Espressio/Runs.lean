import Mathlib.Data.List.Basic

/-!
# Labelled runs and their induction rules

A system is a relation `step s e t`: in state `s` the event `e` may lead to
`t`.  A `Run` records finitely many such steps with their events.  Most of
the systems met here are deterministic functions of the state and the event;
they enter through `fun s e t => f s e = t` or `f s e = some t`.

A machine that also emits outputs is a `feed`: it folds the events and
concatenates what each of them emits.

This file holds the rules every later result is an instance of.

* `Run.invariant`: what each step preserves, a whole run preserves.  With
  `Guarded` the same rule covers runs all of whose steps meet a condition.
* `feed_simulation`: two machines whose related states emit the same outputs
  and stay related emit the same outputs over every input.
* `trace_pairwise`: what a step establishes and all steps keep holds at every
  later step.
-/

namespace Runs

variable {σ τ ε ο : Type*} {step : σ → ε → σ → Prop}

/-- Finitely many steps of a labelled system, recorded with their events. -/
inductive Run (step : σ → ε → σ → Prop) : σ → List ε → σ → Prop
  | nil (s : σ) : Run step s [] s
  | cons {s t u : σ} {e : ε} {es : List ε}
      (head : step s e t) (tail : Run step t es u) :
      Run step s (e :: es) u

/-- A run splits wherever its event list does. -/
theorem Run.split_append {s u : σ} {es fs : List ε}
    (h : Run step s (es ++ fs) u) :
    ∃ t, Run step s es t ∧ Run step t fs u := by
  induction es generalizing s with
  | nil => exact ⟨s, Run.nil s, by simpa using h⟩
  | cons e es ih =>
      cases h with
      | cons head tail =>
          obtain ⟨t, hl, hr⟩ := ih tail
          exact ⟨t, Run.cons head hl, hr⟩

/-- The run of a machine that is a function. -/
theorem Run.of_foldl (f : σ → ε → σ) (es : List ε) (s : σ) :
    Run (fun s e t => f s e = t) s es (es.foldl f s) := by
  induction es generalizing s with
  | nil => exact Run.nil s
  | cons e es ih => exact Run.cons rfl (ih _)

/-- **Invariant rule.**  What every step preserves, every run preserves. -/
theorem Run.invariant {inv : σ → Prop}
    (hstep : ∀ s e t, inv s → step s e t → inv t)
    {s t : σ} {es : List ε} (h : Run step s es t) (hs : inv s) : inv t := by
  induction h with
  | nil => exact hs
  | cons head tail ih => exact ih (hstep _ _ _ hs head)

/-- The steps that meet a condition on the state before them and the event. -/
def Guarded (allowed : σ → ε → Prop) (step : σ → ε → σ → Prop) :
    σ → ε → σ → Prop :=
  fun s e t => allowed s e ∧ step s e t

/-- A run all of whose events meet a condition is a guarded run. -/
theorem Run.guard {p : ε → Prop} {s t : σ} {es : List ε} (h : Run step s es t)
    (hp : ∀ e ∈ es, p e) : Run (Guarded (fun _ e => p e) step) s es t := by
  induction h with
  | nil s => exact Run.nil s
  | cons head tail ih =>
      obtain ⟨hhead, htail⟩ := List.forall_mem_cons.mp hp
      exact Run.cons ⟨hhead, head⟩ (ih htail)

/-- Fold a machine over its inputs and concatenate what it emits. -/
def feed (f : σ → ε → σ × List ο) : σ → List ε → σ × List ο
  | s, [] => (s, [])
  | s, e :: es => ((feed f (f s e).1 es).1, (f s e).2 ++ (feed f (f s e).1 es).2)

@[simp] theorem feed_nil (f : σ → ε → σ × List ο) (s : σ) : feed f s [] = (s, []) := rfl

theorem feed_cons (f : σ → ε → σ × List ο) (s : σ) (e : ε) (es : List ε) :
    feed f s (e :: es) =
      ((feed f (f s e).1 es).1, (f s e).2 ++ (feed f (f s e).1 es).2) := rfl

/-- Feeding a concatenation is feeding its two halves in turn. -/
theorem feed_append (f : σ → ε → σ × List ο) (s : σ) (es fs : List ε) :
    feed f s (es ++ fs) =
      ((feed f (feed f s es).1 fs).1,
        (feed f s es).2 ++ (feed f (feed f s es).1 fs).2) := by
  induction es generalizing s with
  | nil => simp
  | cons e es ih => simp [feed_cons, ih]

/-- **Invariant rule for machines.**  What each step keeps between the state
and all that was emitted so far, a run keeps. -/
theorem feed_invariant {f : σ → ε → σ × List ο} {p : ε → Prop} {inv : σ → List ο → Prop}
    (hstep : ∀ s out e, p e → inv s out → inv (f s e).1 (out ++ (f s e).2))
    {s : σ} {out : List ο} (hs : inv s out) (es : List ε) (hp : ∀ e ∈ es, p e) :
    inv (feed f s es).1 (out ++ (feed f s es).2) := by
  induction es generalizing s out with
  | nil => simpa using hs
  | cons e es ih =>
      obtain ⟨he, hes⟩ := List.forall_mem_cons.mp hp
      rw [feed_cons, ← List.append_assoc]
      exact ih (hstep s out e he hs) hes

/-- Every step of a machine's run meets a condition on the state before it
and the event. -/
def Along (f : σ → ε → σ × List ο) (p : σ → ε → Prop) : σ → List ε → Prop
  | _, [] => True
  | s, e :: es => p s e ∧ Along f p (f s e).1 es

/-- A condition on the events alone. -/
theorem Along.of_forall {f : σ → ε → σ × List ο} {p : ε → Prop} {es : List ε}
    (h : ∀ e ∈ es, p e) (s : σ) : Along f (fun _ e => p e) s es := by
  induction es generalizing s with
  | nil => trivial
  | cons e es ih =>
      obtain ⟨he, hes⟩ := List.forall_mem_cons.mp h
      exact ⟨he, ih hes _⟩

theorem Along.of_always {f : σ → ε → σ × List ο} {p : σ → ε → Prop} (h : ∀ s e, p s e) (s : σ)
    (es : List ε) : Along f p s es := by
  induction es generalizing s with
  | nil => trivial
  | cons e es ih => exact ⟨h s e, ih _⟩

theorem Along.and {f : σ → ε → σ × List ο} {p q : σ → ε → Prop} {s : σ} {es : List ε}
    (h : Along f p s es) (k : Along f q s es) : Along f (fun s e => p s e ∧ q s e) s es := by
  induction es generalizing s with
  | nil => trivial
  | cons e es ih => exact ⟨⟨h.1, k.1⟩, ih h.2 k.2⟩

/-- What every step that meets the condition preserves, such a run preserves. -/
theorem Along.keeps {f : σ → ε → σ × List ο} {p : σ → ε → Prop} {inv : σ → Prop}
    (hstep : ∀ s e, p s e → inv s → inv (f s e).1) {s : σ} {es : List ε} (h : Along f p s es)
    (hs : inv s) : inv (feed f s es).1 := by
  induction es generalizing s with
  | nil => exact hs
  | cons e es ih => exact ih h.2 (hstep s e h.1 hs)

instance Along.decidable {f : σ → ε → σ × List ο} {p : σ → ε → Prop} [∀ s e, Decidable (p s e)] :
    ∀ s es, Decidable (Along f p s es)
  | _, [] => .isTrue trivial
  | s, e :: es =>
      have : Decidable (Along f p (f s e).1 es) := Along.decidable (f s e).1 es
      inferInstanceAs (Decidable (p s e ∧ Along f p (f s e).1 es))

/-- The run of a machine that emits nothing, all of whose steps meet a condition. -/
theorem Along.run {f : σ → ε → σ} {p : σ → ε → Prop} {s : σ} {es : List ε}
    (h : Along (fun s e => (f s e, ([] : List Unit))) p s es) :
    Run (Guarded p fun s e t => f s e = t) s es (es.foldl f s) := by
  induction es generalizing s with
  | nil => exact Run.nil s
  | cons e es ih => exact Run.cons ⟨h.1, rfl⟩ (ih h.2)

/-- The rule with all that was emitted so far. -/
theorem Along.invariant {f : σ → ε → σ × List ο} {p : σ → ε → Prop} {inv : σ → List ο → Prop}
    (hstep : ∀ s out e, p s e → inv s out → inv (f s e).1 (out ++ (f s e).2))
    {s : σ} {out : List ο} {es : List ε} (h : Along f p s es) (hs : inv s out) :
    inv (feed f s es).1 (out ++ (feed f s es).2) := by
  induction es generalizing s out with
  | nil => simpa using hs
  | cons e es ih =>
      rw [feed_cons, ← List.append_assoc]
      exact ih h.2 (hstep s out e h.1 hs)

/-- The invariant rule for the state alone. -/
theorem feed_keeps {f : σ → ε → σ × List ο} {inv : σ → Prop}
    (hstep : ∀ s e, inv s → inv (f s e).1) {s : σ} (hs : inv s) (es : List ε) :
    inv (feed f s es).1 :=
  (Along.of_forall (fun _ _ => trivial) s : Along f (fun _ _ => True) s es).keeps
    (fun s e _ => hstep s e) hs

/-- The steps of a machine's run: the state before each, and its event. -/
def trace (f : σ → ε → σ × List ο) : σ → List ε → List (σ × ε)
  | _, [] => []
  | s, e :: es => (s, e) :: trace f (f s e).1 es

theorem feed_eq_flatMap (f : σ → ε → σ × List ο) (s : σ) (es : List ε) :
    (feed f s es).2 = (trace f s es).flatMap fun x => (f x.1 x.2).2 := by
  induction es generalizing s with
  | nil => rfl
  | cons e es ih => rw [feed_cons, trace, List.flatMap_cons, ih]

/-- **Invariant rule for traces.** -/
theorem trace_invariant {f : σ → ε → σ × List ο} {inv : σ → Prop}
    (hstep : ∀ s e, inv s → inv (f s e).1) {s : σ} (hs : inv s) (es : List ε) :
    ∀ x ∈ trace f s es, inv x.1 := by
  induction es generalizing s with
  | nil => exact fun x hx => absurd hx List.not_mem_nil
  | cons e es ih => exact List.forall_mem_cons.mpr ⟨hs, ih (hstep s e hs)⟩

/-- If a step from a good state leads to a good state exactly when it is
allowed, all states of a run are good exactly when all its steps are allowed.
The events of the run may be limited to those that meet a condition. -/
theorem trace_forall_iff_of {f : σ → ε → σ × List ο} {p : ε → Prop} {inv good : σ → Prop}
    {allowed : σ → ε → Prop} (hinv : ∀ s e, p e → inv s → inv (f s e).1)
    (hstep : ∀ s e, p e → inv s → good s → (good (f s e).1 ↔ allowed s e))
    {s : σ} (hs : inv s) (hgood : good s) {es : List ε} (hp : ∀ e ∈ es, p e) :
    (∀ x ∈ trace f s es, good (f x.1 x.2).1) ↔ ∀ x ∈ trace f s es, allowed x.1 x.2 := by
  induction es generalizing s with
  | nil => simp [trace]
  | cons e es ih =>
      obtain ⟨he, hes⟩ := List.forall_mem_cons.mp hp
      rw [trace, List.forall_mem_cons, List.forall_mem_cons, ← hstep s e he hs hgood]
      exact and_congr_right fun hnext => ih (hinv s e he hs) hnext hes

/-- The same for any events. -/
theorem trace_forall_iff {f : σ → ε → σ × List ο} {inv good : σ → Prop} {allowed : σ → ε → Prop}
    (hinv : ∀ s e, inv s → inv (f s e).1)
    (hstep : ∀ s e, inv s → good s → (good (f s e).1 ↔ allowed s e))
    {s : σ} (hs : inv s) (hgood : good s) (es : List ε) :
    (∀ x ∈ trace f s es, good (f x.1 x.2).1) ↔ ∀ x ∈ trace f s es, allowed x.1 x.2 :=
  trace_forall_iff_of (p := fun _ => True) (fun s e _ => hinv s e) (fun s e _ => hstep s e) hs
    hgood fun _ _ => trivial

/-- What some steps establish and all steps keep holds from the first of them
on. -/
theorem trace_pairwise {f : σ → ε → σ × List ο} {p : σ → ε → Prop} {inv : σ → Prop}
    (hset : ∀ s e, p s e → inv (f s e).1) (hstep : ∀ s e, inv s → inv (f s e).1)
    (s : σ) (es : List ε) :
    (trace f s es).Pairwise fun x y => p x.1 x.2 → inv y.1 := by
  induction es generalizing s with
  | nil => exact List.Pairwise.nil
  | cons e es ih =>
      refine List.pairwise_cons.mpr ⟨fun y hy hp => ?_, ih (f s e).1⟩
      exact trace_invariant hstep (hset s e hp) es y hy

/-- **Simulation rule.**  Machines that agree on outputs in related states and
keep them related agree on the outputs of every run. -/
theorem feed_simulation {f : σ → ε → σ × List ο} {g : τ → ε → τ × List ο}
    {R : σ → τ → Prop}
    (hstep : ∀ s t e, R s t → (f s e).2 = (g t e).2 ∧ R (f s e).1 (g t e).1)
    {s : σ} {t : τ} (hst : R s t) (es : List ε) :
    (feed f s es).2 = (feed g t es).2 ∧ R (feed f s es).1 (feed g t es).1 := by
  induction es generalizing s t with
  | nil => exact ⟨rfl, hst⟩
  | cons e es ih =>
      obtain ⟨hout, hrel⟩ := hstep s t e hst
      obtain ⟨houts, hrels⟩ := ih hrel
      exact ⟨by rw [feed_cons, feed_cons, hout, houts], hrels⟩

/-- The simulation rule for runs all of whose steps meet a condition of the
second machine, and with the first machine's outputs seen through `view`. -/
theorem feed_simulation_along {π : Type*} {f : σ → ε → σ × List ο} {g : τ → ε → τ × List π}
    {R : σ → τ → Prop} {p : τ → ε → Prop} {view : ο → Option π}
    (hstep : ∀ s t e, R s t → p t e →
      (f s e).2.filterMap view = (g t e).2 ∧ R (f s e).1 (g t e).1)
    {s : σ} {t : τ} (hst : R s t) {es : List ε} (hp : Along g p t es) :
    (feed f s es).2.filterMap view = (feed g t es).2 ∧ R (feed f s es).1 (feed g t es).1 := by
  induction es generalizing s t with
  | nil => exact ⟨rfl, hst⟩
  | cons e es ih =>
      obtain ⟨hhead, htail⟩ := hp
      obtain ⟨hout, hrel⟩ := hstep s t e hst hhead
      obtain ⟨houts, hrels⟩ := ih hrel htail
      exact ⟨by rw [feed_cons, feed_cons, List.filterMap_append, hout, houts], hrels⟩

end Runs
