import Mathlib.Logic.Function.Basic

/-!
# Semaphores of a kernel

A kernel makes semaphores; a task takes one and gives it back.  The kernel
itself is not known here (`Kernel`), only what it says of its calls.

As a lock (`Kernel.Locks`) a semaphore is free, or it is held by a task: once,
or more often where the lock is recursive.  Who takes a free lock holds it, and
it is not taken by anyone else until the last of it is given back.  Of a plain
lock that is given back by a task that does not hold it nothing is said; a
recursive one stays as it is.

As a signal (`SignalKernel.Signals`) a semaphore is set or not, and anyone may
set it.

Whoever uses a lock goes by what the calls have answered.  `record` keeps the
account of that, how often each task is inside.  The lock and the account agree
(`Agrees`) as long as a plain lock is given back by the task that holds it.
-/

namespace Semaphores

variable {σ τ δ : Type*}

/-- The calls on one kind of semaphore.  `take` has a delay, and no result
while the task waits; then it answers whether the semaphore was taken. -/
structure Kernel (σ τ δ : Type*) where
  create : Option σ
  take : τ → δ → σ → Option (σ × Bool)
  give : τ → σ → σ × Bool

/-! ## Locks -/

/-- A task holds the lock, and has taken it `nested` times more. -/
structure Holding (τ : Type*) where
  owner : τ
  nested : Nat
  deriving DecidableEq, Repr

inductive Kind
  | plain
  | recursive
  deriving DecidableEq, Repr

/-- What the kernel says of its locks. -/
structure Kernel.Locks (k : Kernel σ τ δ) (kind : Kind) (now forever : δ)
    (holding : σ → Option (Holding τ)) : Prop where
  created : ∀ s, k.create = some s → holding s = none
  returns : ∀ t s, (k.take t now s).isSome
  waits : ∀ t s s', k.take t forever s ≠ some (s', false)
  /-- A free lock is taken. -/
  free : ∀ t d s s' taken, holding s = none → k.take t d s = some (s', taken) →
    taken = true ∧ holding s' = some ⟨t, 0⟩
  /-- A recursive lock is taken again by the task that holds it. -/
  again : ∀ t n d s s' taken, kind = .recursive → holding s = some ⟨t, n⟩ →
    k.take t d s = some (s', taken) → taken = true ∧ holding s' = some ⟨t, n + 1⟩
  /-- Otherwise a lock that is held is not taken. -/
  held : ∀ t h d s s' taken, holding s = some h → (kind = .recursive → h.owner ≠ t) →
    k.take t d s = some (s', taken) → taken = false ∧ holding s' = holding s
  last : ∀ t s, holding s = some ⟨t, 0⟩ → holding (k.give t s).1 = none
  more : ∀ t n s, kind = .recursive → holding s = some ⟨t, n + 1⟩ →
    holding (k.give t s).1 = some ⟨t, n⟩
  /-- A recursive lock is not given back by anyone else. -/
  others : ∀ t s, kind = .recursive → (∀ h, holding s = some h → h.owner ≠ t) →
    holding (k.give t s).1 = holding s

/-- How a call ends, for the task that made it. -/
inductive Answer
  | entered
  | refused
  | left
  deriving DecidableEq, Repr

def answerOf (taken : Bool) : Answer := if taken then .entered else .refused

variable [DecidableEq τ]

/-- How often each task is inside, by the answers. -/
def record (inside : τ → Nat) (t : τ) : Answer → τ → Nat
  | .entered => Function.update inside t (inside t + 1)
  | .refused => inside
  | .left => Function.update inside t (inside t - 1)

/-- How often the lock says a task is inside. -/
def times (lock : Option (Holding τ)) (t : τ) : Nat :=
  match lock with
  | none => 0
  | some h => if h.owner = t then h.nested + 1 else 0

def Agrees (lock : Option (Holding τ)) (inside : τ → Nat) : Prop := ∀ t, inside t = times lock t

/-- At most one task is inside. -/
def Exclusive (inside : τ → Nat) : Prop := ∀ t u, 0 < inside t → 0 < inside u → t = u

variable {kind : Kind} {lock : Option (Holding τ)} {inside : τ → Nat} {t u : τ}

theorem agrees_free : Agrees (none : Option (Holding τ)) fun _ => 0 := fun _ => rfl

theorem Agrees.exclusive (h : Agrees lock inside) : Exclusive inside := by
  intro t u ht hu
  rw [h t] at ht
  rw [h u] at hu
  cases lock with
  | none => exact absurd ht (Nat.lt_irrefl 0)
  | some held =>
      simp only [times] at ht hu
      split at ht
      · split at hu
        · exact (‹held.owner = t›).symm.trans ‹held.owner = u›
        · exact absurd hu (Nat.lt_irrefl 0)
      · exact absurd ht (Nat.lt_irrefl 0)

/-- A plain lock is held once. -/
def Once (lock : Option (Holding τ)) : Prop := ∀ h, lock = some h → h.nested = 0

/-- One task's count goes to what the lock says of it; nothing is said of the
others before or after. -/
theorem Agrees.update {lock' : Option (Holding τ)} (h : Agrees lock inside) {count : Nat}
    (hself : count = times lock' t) (hother : ∀ u, u ≠ t → times lock' u = times lock u) :
    Agrees lock' (Function.update inside t count) := by
  intro u
  by_cases heq : u = t
  · subst heq
    rw [Function.update_self, hself]
  · rw [Function.update_of_ne heq, h u, hother u heq]

theorem times_self (n : Nat) : times (some ⟨t, n⟩) t = n + 1 := if_pos rfl

theorem times_other {n : Nat} (h : u ≠ t) : times (some ⟨t, n⟩) u = 0 := if_neg (Ne.symm h)

/-- A first entry is counted. -/
theorem Agrees.first (h : Agrees (none : Option (Holding τ)) inside) :
    Agrees (some ⟨t, 0⟩) (record inside t .entered) := by
  refine h.update ?_ fun u hu => times_other hu
  have ht : inside t = 0 := h t
  rw [times_self, ht]

theorem Agrees.again {n : Nat} (h : Agrees (some ⟨t, n⟩) inside) :
    Agrees (some ⟨t, n + 1⟩) (record inside t .entered) := by
  refine h.update ?_ fun u hu => by rw [times_other hu, times_other hu]
  rw [times_self, h t, times_self]

theorem Agrees.last (h : Agrees (some ⟨t, 0⟩) inside) :
    Agrees (none : Option (Holding τ)) (record inside t .left) := by
  refine h.update ?_ fun u hu => (times_other hu).symm
  rw [h t, times_self]
  rfl

theorem Agrees.more {n : Nat} (h : Agrees (some ⟨t, n + 1⟩) inside) :
    Agrees (some ⟨t, n⟩) (record inside t .left) := by
  refine h.update ?_ fun u hu => by rw [times_other hu, times_other hu]
  rw [h t, times_self, times_self, Nat.add_sub_cancel]

/-- Who is not inside and leaves changes nothing. -/
theorem Agrees.others (h : Agrees lock inside) (hout : ∀ held, lock = some held → held.owner ≠ t) :
    Agrees lock (record inside t .left) := by
  refine h.update ?_ fun u _ => rfl
  have hnone : times lock t = 0 := by
    cases lock with
    | none => rfl
    | some held => exact if_neg (hout held rfl)
  rw [h t, hnone]

/-! ### One call -/

variable {k : Kernel σ τ δ} {now forever : δ} {holding : σ → Option (Holding τ)} {s s' : σ}

/-- What a `take` that is over has found: a free lock, a recursive lock of the task,
or one that it may not have. -/
theorem Kernel.Locks.take_cases (hk : k.Locks kind now forever holding) {d : δ} {taken : Bool}
    (htake : k.take t d s = some (s', taken)) :
    (holding s = none ∧ taken = true ∧ holding s' = some ⟨t, 0⟩) ∨
      (∃ n, kind = .recursive ∧ holding s = some ⟨t, n⟩ ∧ taken = true ∧
        holding s' = some ⟨t, n + 1⟩) ∨
      ∃ held, holding s = some held ∧ (kind = .recursive → held.owner ≠ t) ∧ taken = false ∧
        holding s' = holding s := by
  cases hholding : holding s with
  | none => exact .inl ⟨rfl, hk.free t d s s' taken hholding htake⟩
  | some held =>
      by_cases hmine : kind = .recursive ∧ held.owner = t
      · obtain ⟨hkind, rfl⟩ := hmine
        exact .inr (.inl ⟨held.nested, hkind, rfl,
          hk.again _ held.nested d s s' taken hkind hholding htake⟩)
      · have hother : kind = .recursive → held.owner ≠ t := fun hkind howner =>
          hmine ⟨hkind, howner⟩
        obtain ⟨hmissed, hsame⟩ := hk.held t held d s s' taken hholding hother htake
        exact .inr (.inr ⟨held, rfl, hother, hmissed, hsame.trans hholding⟩)

/-- A lock that was taken was free, or it was a recursive lock of the task. -/
theorem Kernel.Locks.taken (hk : k.Locks kind now forever holding) {d : δ}
    (htake : k.take t d s = some (s', true)) :
    holding s = none ∧ holding s' = some ⟨t, 0⟩ ∨
      kind = .recursive ∧ ∃ n, holding s = some ⟨t, n⟩ ∧ holding s' = some ⟨t, n + 1⟩ := by
  obtain ⟨hfree, -, hafter⟩ | ⟨n, hkind, hbefore, -, hafter⟩ | ⟨_, -, -, hmissed, -⟩ :=
    hk.take_cases htake
  · exact .inl ⟨hfree, hafter⟩
  · exact .inr ⟨hkind, n, hbefore, hafter⟩
  · exact absurd hmissed.symm Bool.false_ne_true

/-- What was not taken is as before. -/
theorem Kernel.Locks.missed (hk : k.Locks kind now forever holding) {d : δ}
    (htake : k.take t d s = some (s', false)) : holding s' = holding s := by
  obtain ⟨-, htaken, -⟩ | ⟨_, -, -, htaken, -⟩ | ⟨_, -, -, -, hsame⟩ := hk.take_cases htake
  · exact absurd htaken Bool.false_ne_true
  · exact absurd htaken Bool.false_ne_true
  · exact hsame

/-- Nobody is inside. -/
def Empty (_ : τ) (inside : τ → Nat) : Prop := ∀ u, inside u = 0

/-- Nobody else is inside. -/
def EmptyButFor (t : τ) (inside : τ → Nat) : Prop := ∀ u, u ≠ t → inside u = 0

/-- When a task may enter a lock of a kind. -/
def Free : Kind → τ → (τ → Nat) → Prop
  | .plain => Empty
  | .recursive => EmptyButFor

/-- A lock that is held is free for nobody but a recursive lock's holder. -/
theorem Agrees.not_free {held : Holding τ} (h : Agrees (some held) inside)
    (hother : kind = .recursive → held.owner ≠ t) : ¬Free kind t inside := by
  have howner : inside held.owner = held.nested + 1 := (h held.owner).trans (if_pos rfl)
  intro hfree
  cases kind with
  | plain =>
      have hzero := hfree held.owner
      omega
  | recursive =>
      have hzero := hfree held.owner (hother rfl)
      omega

/-- A lock may be taken at once exactly if it is free for the task. -/
theorem Kernel.Locks.try_iff (hk : k.Locks kind now forever holding)
    (h : Agrees (holding s) inside) :
    (∃ s', k.take t now s = some (s', true)) ↔ Free kind t inside := by
  obtain ⟨⟨s', taken⟩, htake⟩ := Option.isSome_iff_exists.mp (hk.returns t s)
  have hresult : (∃ s', k.take t now s = some (s', true)) ↔ taken = true := by
    simp [htake]
  rw [hresult]
  obtain ⟨hfree, htaken, -⟩ | ⟨n, rfl, hmine, htaken, -⟩ | ⟨held, hheld, hother, hmissed, -⟩ :=
    hk.take_cases htake
  · rw [hfree] at h
    refine iff_of_true htaken ?_
    cases kind with
    | plain => exact h
    | recursive => exact fun u _ => h u
  · rw [hmine] at h
    exact iff_of_true htaken fun u hu => (h u).trans (times_other hu)
  · rw [hheld] at h
    refine iff_of_false ?_ (h.not_free hother)
    rw [hmissed]
    exact Bool.false_ne_true

/-! ### Steps -/

/-- A lock, and the account of who is inside. -/
structure Account (σ τ : Type*) where
  lock : σ
  inside : τ → Nat

/-- A call of a task is over.  Whoever waits as long as it takes does not look
at the answer. -/
inductive Step (k : Kernel σ τ δ) (now forever : δ) : Account σ τ → τ × Answer → Account σ τ → Prop
  | takes {s : Account σ τ} {t : τ} {lock : σ} {taken : Bool}
      (answer : k.take t forever s.lock = some (lock, taken)) :
      Step k now forever s (t, .entered) ⟨lock, record s.inside t .entered⟩
  | tries {s : Account σ τ} {t : τ} {lock : σ} {taken : Bool}
      (answer : k.take t now s.lock = some (lock, taken)) :
      Step k now forever s (t, answerOf taken) ⟨lock, record s.inside t (answerOf taken)⟩
  | leaves {s : Account σ τ} {t : τ} :
      Step k now forever s (t, .left) ⟨(k.give t s.lock).1, record s.inside t .left⟩

/-- Only who is inside leaves. -/
def Orderly (inside : τ → Nat) (call : τ × Answer) : Prop :=
  call.2 = .left → 0 < inside call.1

/-- What holds of a lock and its account. -/
structure Fair (kind : Kind) (holding : σ → Option (Holding τ)) (s : Account σ τ) : Prop where
  agrees : Agrees (holding s.lock) s.inside
  once : kind = .plain → Once (holding s.lock)

theorem Kernel.Locks.fair_created (hk : k.Locks kind now forever holding)
    (hcreated : k.create = some s) : Fair kind holding ⟨s, fun _ => 0⟩ := by
  have hfree : holding s = none := hk.created s hcreated
  refine ⟨?_, fun _ h heq => ?_⟩
  · rw [hfree]
    exact agrees_free
  · rw [hfree] at heq
    cases heq

theorem Fair.taken (hk : k.Locks kind now forever holding) {d : δ}
    (h : Fair kind holding ⟨s, inside⟩) (htake : k.take t d s = some (s', true)) :
    Fair kind holding ⟨s', record inside t .entered⟩ := by
  have hagrees : Agrees (holding s) inside := h.agrees
  obtain ⟨hbefore, hafter⟩ | ⟨hkind, n, hbefore, hafter⟩ := hk.taken htake
  · rw [hbefore] at hagrees
    refine ⟨by rw [hafter]; exact hagrees.first, fun _ held heq => ?_⟩
    rw [hafter] at heq
    obtain rfl := Option.some.inj heq
    rfl
  · rw [hbefore] at hagrees
    refine ⟨by rw [hafter]; exact hagrees.again, fun hplain => ?_⟩
    rw [hkind] at hplain
    cases hplain

theorem Fair.missed (hk : k.Locks kind now forever holding) {d : δ}
    (h : Fair kind holding ⟨s, inside⟩) (htake : k.take t d s = some (s', false)) :
    Fair kind holding ⟨s', inside⟩ := by
  have hsame : holding s' = holding s := hk.missed htake
  exact ⟨by rw [hsame]; exact h.agrees, fun hplain => by rw [hsame]; exact h.once hplain⟩

/-- A lock is given back rightly if it is a recursive one, or the task that
gives it back is inside. -/
theorem Fair.left (hk : k.Locks kind now forever holding) (h : Fair kind holding ⟨s, inside⟩)
    (hinside : kind = .plain → 0 < inside t) :
    Fair kind holding ⟨(k.give t s).1, record inside t .left⟩ := by
  have hagrees : Agrees (holding s) inside := h.agrees
  have honce : kind = .plain → Once (holding s) := h.once
  by_cases hmine : ∃ n, holding s = some ⟨t, n⟩
  · obtain ⟨n, hholding⟩ := hmine
    rw [hholding] at hagrees honce
    cases n with
    | zero =>
        have hafter : holding (k.give t s).1 = none := hk.last t s hholding
        refine ⟨by rw [hafter]; exact hagrees.last, fun _ held heq => ?_⟩
        rw [hafter] at heq
        cases heq
    | succ n =>
        cases kind with
        | plain => exact absurd (honce rfl _ rfl) (Nat.succ_ne_zero n)
        | recursive =>
            have hafter := hk.more t n s rfl hholding
            exact ⟨by rw [hafter]; exact hagrees.more, fun hplain => by cases hplain⟩
  · have hout : ∀ held, holding s = some held → held.owner ≠ t := by
      intro held hholding howner
      obtain rfl := howner
      exact hmine ⟨held.nested, hholding⟩
    cases kind with
    | plain =>
        have hpos : 0 < inside t := hinside rfl
        rw [hagrees t] at hpos
        cases hholding : holding s with
        | none =>
            rw [hholding] at hpos
            exact absurd hpos (Nat.lt_irrefl 0)
        | some held =>
            rw [hholding, times, if_neg (hout held hholding)] at hpos
            exact absurd hpos (Nat.lt_irrefl 0)
    | recursive =>
        have hafter := hk.others t s rfl hout
        exact ⟨by rw [hafter]; exact hagrees.others hout, fun hplain => by cases hplain⟩

/-- **One call** keeps the account right if it leaves a plain lock only from
inside. -/
theorem Fair.step (hk : k.Locks kind now forever holding) {s s' : Account σ τ} {call : τ × Answer}
    (h : Fair kind holding s) (horderly : kind = .plain → Orderly s.inside call)
    (hstep : Step k now forever s call s') : Fair kind holding s' := by
  cases hstep with
  | @takes t lock taken answer =>
      cases taken with
      | true => exact Fair.taken hk h answer
      | false => exact absurd answer (hk.waits t s.lock lock)
  | @tries t lock taken answer =>
      cases taken with
      | true => exact Fair.taken hk h answer
      | false => exact Fair.missed hk h answer
  | leaves => exact Fair.left hk h fun hplain => horderly hplain rfl

/-! ## Signals -/

/-- A signal may be given from an interrupt too. -/
structure SignalKernel (σ τ δ : Type*) extends Kernel σ τ δ where
  giveFromInterrupt : σ → σ × Bool

omit [DecidableEq τ] in
/-- What the kernel says of its signals: a `give` sets one, and fails if it is
set already; a `take` that finds it set clears it, and one that does not fails
after the delay. -/
structure SignalKernel.Signals (k : SignalKernel σ τ δ) (forever : δ) (isSet : σ → Bool) :
    Prop where
  created : ∀ s, k.create = some s → isSet s = false
  given : ∀ t s, (k.give t s).2 = !isSet s ∧ isSet (k.give t s).1 = true
  givenFromInterrupt : ∀ s, (k.giveFromInterrupt s).2 = !isSet s ∧
    isSet (k.giveFromInterrupt s).1 = true
  taken : ∀ t d s, isSet s = true → ∃ s', k.take t d s = some (s', true) ∧ isSet s' = false
  missed : ∀ t d s s' taken, isSet s = false → k.take t d s = some (s', taken) →
    taken = false ∧ isSet s' = false
  waits : ∀ t s s', k.take t forever s ≠ some (s', false)

omit [DecidableEq τ] in
/-- A `take` that is over says whether the signal was set, and it is not any more. -/
theorem SignalKernel.Signals.take_eq {k : SignalKernel σ τ δ} {isSet : σ → Bool}
    (hk : k.Signals forever isSet) {d : δ} {taken : Bool}
    (htake : k.take t d s = some (s', taken)) : taken = isSet s ∧ isSet s' = false := by
  cases hset : isSet s with
  | true =>
      obtain ⟨next, hnext, hunset⟩ := hk.taken t d s hset
      rw [hnext] at htake
      obtain ⟨rfl, rfl⟩ := Prod.mk.inj (Option.some.inj htake)
      exact ⟨rfl, hunset⟩
  | false => exact hk.missed t d s s' taken hset htake

/-! ## A kernel

This one does what is said of locks and of signals. -/

/-- Who holds a lock once it was taken, if it may be. -/
def take (kind : Kind) (t : τ) : Option (Holding τ) → Option (Holding τ)
  | none => some ⟨t, 0⟩
  | some h =>
      match kind with
      | .plain => none
      | .recursive => if h.owner = t then some ⟨t, h.nested + 1⟩ else none

def give (kind : Kind) (t : τ) : Option (Holding τ) → Option (Holding τ)
  | none => none
  | some h =>
      match kind with
      | .plain => none
      | .recursive =>
          if h.owner = t then
            match h.nested with
            | 0 => none
            | more + 1 => some ⟨t, more⟩
          else some h

variable [DecidableEq δ]

def lockKernel (kind : Kind) (forever : δ) : Kernel (Option (Holding τ)) τ δ where
  create := some none
  take t d lock :=
    match take kind t lock with
    | some held => some (some held, true)
    | none => if d = forever then none else some (lock, false)
  give t lock := (give kind t lock, true)

theorem lockKernel_locks (kind : Kind) {now forever : δ} (h : now ≠ forever) :
    (lockKernel kind forever : Kernel (Option (Holding τ)) τ δ).Locks kind now forever id := by
  refine ⟨?_, ?_, ?_, ?_, ?_, ?_, ?_, ?_, ?_⟩
  · intro s hs
    exact (Option.some.inj hs).symm
  · intro t s
    cases htake : take kind t s <;> simp [lockKernel, htake, h]
  · intro t s s'
    cases htake : take kind t s <;> simp [lockKernel, htake]
  · intro t d s s' taken hfree htake
    obtain rfl : s = none := hfree
    obtain ⟨rfl, rfl⟩ := Prod.mk.inj (Option.some.inj htake)
    exact ⟨rfl, rfl⟩
  · intro t n d s s' taken hkind hholding htake
    obtain rfl : s = some ⟨t, n⟩ := hholding
    subst hkind
    simp [lockKernel, take] at htake
    exact ⟨htake.2, htake.1.symm⟩
  · intro t held d s s' taken hholding hother htake
    obtain rfl : s = some held := hholding
    have hnone : take kind t (some held) = none := by
      cases kind with
      | plain => rfl
      | recursive => exact if_neg (hother rfl)
    simp [lockKernel, hnone] at htake
    exact ⟨htake.2.2, htake.2.1.symm⟩
  · intro t s hholding
    obtain rfl : s = some ⟨t, 0⟩ := hholding
    cases kind <;> simp [lockKernel, give]
  · intro t n s hkind hholding
    obtain rfl : s = some ⟨t, n + 1⟩ := hholding
    subst hkind
    simp [lockKernel, give]
  · intro t s hkind hout
    subst hkind
    cases s with
    | none => rfl
    | some held => simp [lockKernel, give, hout held rfl]

omit [DecidableEq τ] in
/-- A signal that is a flag. -/
def flagKernel (τ : Type*) (forever : δ) : SignalKernel Bool τ δ where
  create := some false
  take _ d set :=
    if set then some (false, true) else if d = forever then none else some (set, false)
  give _ set := (true, !set)
  giveFromInterrupt set := (true, !set)

omit [DecidableEq τ] in
theorem flagKernel_signals (forever : δ) : (flagKernel τ forever).Signals forever id := by
  refine ⟨?_, fun t s => ⟨rfl, rfl⟩, fun s => ⟨rfl, rfl⟩, ?_, ?_, ?_⟩
  · intro s hs
    exact (Option.some.inj hs).symm
  · intro t d s hset
    obtain rfl : s = true := hset
    exact ⟨false, rfl, rfl⟩
  · intro t d s s' taken hunset htake
    obtain rfl : s = false := hunset
    simp [flagKernel] at htake
    exact ⟨htake.2.2, htake.2.1⟩
  · intro t s s'
    cases s <;> simp [flagKernel]

end Semaphores
