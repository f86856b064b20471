import Mathlib.Data.List.Basic
import Espressio.Runs

/-!
# Traces of a thread that takes and leaves mutexes

What one thread does, as the list of its actions: it takes a mutex, leaves one,
or does something else, an event.  `observed` gives every event of a trace with
the mutexes held at it.

A scope that takes a mutex and leaves it at its end is `guarded`.  A trace is
`Balanced` if it ends with the mutexes held that it started with, as one built
of such scopes does.  Where all steps of a machine are balanced, what is held
at an event depends on its own step alone (`observed_feed`).

`FreeAt` says that none of some mutexes is held at the events of a kind.  It
holds of every machine whose steps are `Scoped`: all such events stand outside
the scopes.
-/

namespace LockTraces

open Runs

inductive Action (μ ο : Type*)
  | lock (m : μ)
  | unlock (m : μ)
  | event (e : ο)
  deriving DecidableEq, Repr

variable {μ ο σ ε : Type*} {kind : ο → Prop} {t u : List (Action μ ο)}

/-- The events of a trace. -/
def events (trace : List (Action μ ο)) : List ο :=
  trace.filterMap fun
    | .event e => some e
    | _ => none

/-- A scope under a mutex. -/
def guarded (m : μ) (body : List (Action μ ο)) : List (Action μ ο) :=
  .lock m :: body ++ [.unlock m]

@[simp] theorem events_nil : events ([] : List (Action μ ο)) = [] := rfl

@[simp] theorem events_append (t u : List (Action μ ο)) :
    events (t ++ u) = events t ++ events u := by
  simp [events]

@[simp] theorem events_map_event (es : List ο) :
    events (es.map (Action.event (μ := μ))) = es := by
  induction es with
  | nil => rfl
  | cons e es ih => exact congrArg (e :: ·) ih

@[simp] theorem events_guarded (m : μ) (body : List (Action μ ο)) :
    events (guarded m body) = events body := by
  simp [events, guarded]

theorem mem_events {trace : List (Action μ ο)} {e : ο} :
    e ∈ events trace ↔ Action.event e ∈ trace := by
  simp only [events, List.mem_filterMap]
  constructor
  · rintro ⟨a, ha, hevent⟩
    cases a with
    | event f =>
        cases hevent
        exact ha
    | lock m => cases hevent
    | unlock m => cases hevent
  · intro h
    exact ⟨_, h, rfl⟩

/-- A trace of scopes in which nothing of the kind happens, and of events
outside them. -/
inductive Scoped (kind : ο → Prop) : List (Action μ ο) → Prop
  | nil : Scoped kind []
  | scope {m : μ} {es : List ο} (h : ∀ e ∈ es, ¬kind e) :
      Scoped kind (guarded m (es.map Action.event))
  | events (es : List ο) : Scoped kind (es.map Action.event)
  | append {t u : List (Action μ ο)} (ht : Scoped kind t) (hu : Scoped kind u) :
      Scoped kind (t ++ u)

/-- A scope in which nothing happens. -/
theorem Scoped.empty {m : μ} : Scoped kind (guarded m ([] : List (Action μ ο))) :=
  Scoped.scope fun _ he => absurd he List.not_mem_nil

theorem Scoped.single {m : μ} {e : ο} (h : ¬kind e) : Scoped kind (guarded m [Action.event e]) :=
  Scoped.scope (List.forall_mem_singleton.mpr h)

variable [DecidableEq μ]

/-- The mutexes held after an action. -/
def Action.held (held : List μ) : Action μ ο → List μ
  | .lock m => m :: held
  | .unlock m => held.erase m
  | .event _ => held

def heldAfter (held : List μ) (trace : List (Action μ ο)) : List μ := trace.foldl Action.held held

/-- The events of a trace, each with the mutexes held at it. -/
def observed (held : List μ) : List (Action μ ο) → List (List μ × ο)
  | [] => []
  | .event e :: rest => (held, e) :: observed held rest
  | .lock m :: rest => observed (m :: held) rest
  | .unlock m :: rest => observed (held.erase m) rest

/-- Whatever is held before a trace is held after it. -/
def Balanced (trace : List (Action μ ο)) : Prop := ∀ held, heldAfter held trace = held

theorem balanced_nil : Balanced ([] : List (Action μ ο)) := fun _ => rfl

theorem balanced_events (es : List ο) : Balanced (es.map (Action.event (μ := μ))) := by
  intro held
  induction es with
  | nil => rfl
  | cons e es ih => exact ih

theorem Balanced.append {t u : List (Action μ ο)} (ht : Balanced t) (hu : Balanced u) :
    Balanced (t ++ u) := by
  intro held
  rw [heldAfter, List.foldl_append]
  exact (congrArg (heldAfter · u) (ht held)).trans (hu held)

theorem Balanced.guarded {m : μ} {body : List (Action μ ο)} (h : Balanced body) :
    Balanced (guarded m body) := by
  intro held
  have hbody := h (m :: held)
  rw [heldAfter] at hbody
  simp [LockTraces.guarded, heldAfter, Action.held, List.foldl_append, hbody]

theorem balanced_flatMap {τ : Type*} {f : τ → List (Action μ ο)} {xs : List τ}
    (h : ∀ x ∈ xs, Balanced (f x)) : Balanced (xs.flatMap f) := by
  induction xs with
  | nil => exact balanced_nil
  | cons x xs ih =>
      obtain ⟨hx, hxs⟩ := List.forall_mem_cons.mp h
      rw [List.flatMap_cons]
      exact hx.append (ih hxs)

theorem observed_append (held : List μ) (t u : List (Action μ ο)) :
    observed held (t ++ u) = observed held t ++ observed (heldAfter held t) u := by
  induction t generalizing held with
  | nil => rfl
  | cons a t ih =>
      cases a with
      | event e => simp [observed, heldAfter, Action.held, ih]
      | lock m => simpa [observed, heldAfter, Action.held] using ih (m :: held)
      | unlock m => simpa [observed, heldAfter, Action.held] using ih (held.erase m)

theorem observed_events (held : List μ) (es : List ο) :
    observed held (es.map Action.event) = es.map fun e => (held, e) := by
  induction es with
  | nil => rfl
  | cons e es ih => simp [observed, ih]

/-- In a scope its mutex is held as well. -/
theorem observed_guarded (held : List μ) (m : μ) (body : List (Action μ ο)) :
    observed held (guarded m body) = observed (m :: held) body := by
  rw [guarded, List.cons_append, observed, observed_append]
  simp [observed]

/-- **Balanced machines.**  What is held at the events of a run is what is held
at the events of its steps, each on its own. -/
theorem observed_feed {f : σ → ε → σ × List (Action μ ο)} (h : ∀ s e, Balanced (f s e).2)
    (held : List μ) (s : σ) (es : List ε) :
    observed held (feed f s es).2 =
      (trace f s es).flatMap fun x => observed held (f x.1 x.2).2 := by
  induction es generalizing s with
  | nil => rfl
  | cons e es ih =>
      rw [feed_cons, observed_append, h s e held, ih, trace, List.flatMap_cons]

theorem observed_flatMap {τ : Type*} {f : τ → List (Action μ ο)} {xs : List τ}
    (h : ∀ x ∈ xs, Balanced (f x)) (held : List μ) :
    observed held (xs.flatMap f) = xs.flatMap fun x => observed held (f x) := by
  induction xs with
  | nil => rfl
  | cons x xs ih =>
      obtain ⟨hx, hxs⟩ := List.forall_mem_cons.mp h
      rw [List.flatMap_cons, List.flatMap_cons, observed_append, hx held, ih hxs]

theorem mem_events_of_observed {held : List μ} {trace : List (Action μ ο)} {x : List μ × ο}
    (h : x ∈ observed held trace) : x.2 ∈ events trace := by
  rw [mem_events]
  induction trace generalizing held with
  | nil => cases h
  | cons a rest ih =>
      cases a with
      | event e =>
          rcases List.mem_cons.mp h with rfl | hrest
          · exact List.mem_cons_self
          · exact List.mem_cons_of_mem _ (ih hrest)
      | lock m => exact List.mem_cons_of_mem _ (ih h)
      | unlock m => exact List.mem_cons_of_mem _ (ih h)

/-- None of the mutexes is held at the events of the kind. -/
def FreeAt (kind : ο → Prop) (mutexes : μ → Prop) (seen : List (List μ × ο)) : Prop :=
  ∀ x ∈ seen, kind x.2 → ∀ m ∈ x.1, ¬mutexes m

variable {mutexes : μ → Prop}

theorem freeAt_of_none (h : ∀ e ∈ events t, ¬kind e) (held : List μ) :
    FreeAt kind mutexes (observed held t) :=
  fun _ hx hkind => absurd hkind (h _ (mem_events_of_observed hx))

theorem freeAt_feed {f : σ → ε → σ × List (Action μ ο)} (h : ∀ s e, Balanced (f s e).2)
    (s : σ) (es : List ε) :
    FreeAt kind mutexes (observed [] (feed f s es).2) ↔
      ∀ x ∈ trace f s es, FreeAt kind mutexes (observed [] (f x.1 x.2).2) := by
  simp only [FreeAt, observed_feed h, List.mem_flatMap]
  constructor
  · intro hall x hx y hy
    exact hall y ⟨x, hx, hy⟩
  · rintro hall y ⟨x, hx, hy⟩
    exact hall x hx y hy

theorem Scoped.balanced (h : Scoped kind t) : Balanced t := by
  induction h with
  | nil => exact balanced_nil
  | scope _ => exact (balanced_events _).guarded
  | events es => exact balanced_events es
  | append _ _ iht ihu => exact iht.append ihu

theorem Scoped.freeAt (h : Scoped kind t) : FreeAt kind mutexes (observed [] t) := by
  induction h with
  | nil => exact fun x hx => absurd hx List.not_mem_nil
  | scope hnone => exact freeAt_of_none (by simpa using hnone) []
  | events es =>
      intro x hx _ m hm
      rw [observed_events] at hx
      obtain ⟨e, -, rfl⟩ := List.mem_map.mp hx
      cases hm
  | append ht _ iht ihu =>
      intro x hx
      rw [observed_append, ht.balanced []] at hx
      rcases List.mem_append.mp hx with hfirst | hrest
      · exact iht x hfirst
      · exact ihu x hrest

theorem freeAt_feed_of_scoped {f : σ → ε → σ × List (Action μ ο)}
    (h : ∀ s e, Scoped kind (f s e).2) (s : σ) (es : List ε) :
    FreeAt kind mutexes (observed [] (feed f s es).2) :=
  (freeAt_feed (fun s e => (h s e).balanced) s es).mpr fun _ _ => (h _ _).freeAt

end LockTraces
