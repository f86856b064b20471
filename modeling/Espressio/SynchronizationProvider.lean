import Espressio.Semaphores
import Espressio.Runs
import Espressio.TickConversion

/-!
# The synchronization provider

`Mutex`, `RecursiveMutex`, `ReadWriteLock` and `BinarySignal` each own one
semaphore of the kernel, or none if it could not be created.  A `Lock` on a
lock without a semaphore returns at once, so such an object excludes nobody.
The provider gives it to nobody (`locks_exclude`).

Calls of any tasks interleave in any order.  A call that has to wait is not
over, and is no step, until the kernel lets it go on.  A plain mutex is a lock
of the kernel that is not to be given back by a task that does not hold it; that
is asked of the callers, of a recursive mutex nothing is asked.

A signal keeps at most one `Give` (`signal_alternates`).  A `Reset` takes the
signal until it finds it unset, and other tasks and interrupts come in between.
-/

namespace Synchronization

open Runs Semaphores TickConversion
open PlatformResults (PlatformStatus)

abbrev TaskHandle := Nat

/-- The kernel's semaphores, which count delays in ticks. -/
abbrev NativeKernel (σ : Type*) := Kernel σ TaskHandle UInt32

/-! ## Locks -/

/-- The member the three lock classes have: null, or the semaphore the kernel
made. -/
structure NativeLock (σ : Type*) where
  semaphore : Option σ
  deriving DecidableEq, Repr

section Calls

variable {σ : Type*} (kernel : NativeKernel σ)

namespace NativeLock

def create : NativeLock σ := ⟨kernel.create⟩

def isAvailable (m : NativeLock σ) : Bool := m.semaphore.isSome

/-- Take with `portMAX_DELAY`, whatever comes of it: there is no result while
the task waits. -/
def acquire (t : TaskHandle) (m : NativeLock σ) : Option (NativeLock σ) :=
  match m.semaphore with
  | none => some m
  | some native => (kernel.take t portMaxDelay native).map fun answer => ⟨some answer.1⟩

/-- Take with no delay. -/
def tryAcquire (t : TaskHandle) (m : NativeLock σ) : Option (NativeLock σ × Bool) :=
  match m.semaphore with
  | none => some (m, false)
  | some native => (kernel.take t 0 native).map fun answer => (⟨some answer.1⟩, answer.2)

def release (t : TaskHandle) (m : NativeLock σ) : NativeLock σ :=
  ⟨m.semaphore.map fun native => (kernel.give t native).1⟩

end NativeLock

namespace Mutex

def create : NativeLock σ := NativeLock.create kernel
def lock : TaskHandle → NativeLock σ → Option (NativeLock σ) := NativeLock.acquire kernel
def tryLock : TaskHandle → NativeLock σ → Option (NativeLock σ × Bool) :=
  NativeLock.tryAcquire kernel
def unlock : TaskHandle → NativeLock σ → NativeLock σ := NativeLock.release kernel

end Mutex

namespace RecursiveMutex

def create : NativeLock σ := NativeLock.create kernel
def lock : TaskHandle → NativeLock σ → Option (NativeLock σ) := NativeLock.acquire kernel
def tryLock : TaskHandle → NativeLock σ → Option (NativeLock σ × Bool) :=
  NativeLock.tryAcquire kernel
def unlock : TaskHandle → NativeLock σ → NativeLock σ := NativeLock.release kernel

end RecursiveMutex

namespace ReadWriteLock

def create : NativeLock σ := NativeLock.create kernel
def lock : TaskHandle → NativeLock σ → Option (NativeLock σ) := NativeLock.acquire kernel
def tryLock : TaskHandle → NativeLock σ → Option (NativeLock σ × Bool) :=
  NativeLock.tryAcquire kernel
def unlock : TaskHandle → NativeLock σ → NativeLock σ := NativeLock.release kernel
def lockShared : TaskHandle → NativeLock σ → Option (NativeLock σ) := lock kernel
def tryLockShared : TaskHandle → NativeLock σ → Option (NativeLock σ × Bool) := tryLock kernel
def unlockShared : TaskHandle → NativeLock σ → NativeLock σ := unlock kernel

end ReadWriteLock

end Calls

inductive LockCall
  | lock
  | tryLock
  | unlock
  deriving DecidableEq, Repr

inductive ReadWriteCall
  | lock
  | tryLock
  | unlock
  | lockShared
  | tryLockShared
  | unlockShared
  deriving DecidableEq, Repr

/-- The calls of a class with what each tells the task, which of them leave, and
which return at once. -/
structure LockInterface (σ : Type*) (ω : Type) where
  call : ω → TaskHandle → NativeLock σ → Option (NativeLock σ × Answer)
  leaves : ω → Bool
  tries : ω → Bool

section Interfaces

variable {σ : Type*}

/-- `Lock` tells the task nothing: once it returns, the task is inside. -/
def entering (locked : Option (NativeLock σ)) : Option (NativeLock σ × Answer) :=
  locked.map fun m => (m, .entered)

def trying (locked : Option (NativeLock σ × Bool)) : Option (NativeLock σ × Answer) :=
  locked.map fun result => (result.1, answerOf result.2)

/-- The calls of a class with these three. -/
def LockInterface.of (lock : TaskHandle → NativeLock σ → Option (NativeLock σ))
    (tryLock : TaskHandle → NativeLock σ → Option (NativeLock σ × Bool))
    (unlock : TaskHandle → NativeLock σ → NativeLock σ) : LockInterface σ LockCall where
  call
    | .lock, t, m => entering (lock t m)
    | .tryLock, t, m => trying (tryLock t m)
    | .unlock, t, m => some (unlock t m, .left)
  leaves call := call == .unlock
  tries call := call == .tryLock

variable (kernel : NativeKernel σ)

def Mutex.interface : LockInterface σ LockCall :=
  .of (Mutex.lock kernel) (Mutex.tryLock kernel) (Mutex.unlock kernel)

def RecursiveMutex.interface : LockInterface σ LockCall :=
  .of (RecursiveMutex.lock kernel) (RecursiveMutex.tryLock kernel) (RecursiveMutex.unlock kernel)

def ReadWriteLock.interface : LockInterface σ ReadWriteCall where
  call
    | .lock, t, m => entering (ReadWriteLock.lock kernel t m)
    | .tryLock, t, m => trying (ReadWriteLock.tryLock kernel t m)
    | .unlock, t, m => some (ReadWriteLock.unlock kernel t m, .left)
    | .lockShared, t, m => entering (ReadWriteLock.lockShared kernel t m)
    | .tryLockShared, t, m => trying (ReadWriteLock.tryLockShared kernel t m)
    | .unlockShared, t, m => some (ReadWriteLock.unlockShared kernel t m, .left)
  leaves call := call == .unlock || call == .unlockShared
  tries call := call == .tryLock || call == .tryLockShared

end Interfaces

/-! ### Runs -/

/-- A lock object, and how often each task is inside by what its calls have
told it. -/
structure Watched (σ : Type*) where
  lock : NativeLock σ
  inside : TaskHandle → Nat

def Watched.start {σ : Type*} (lock : NativeLock σ) : Watched σ := ⟨lock, fun _ => 0⟩

variable {σ : Type*} {ω : Type} {i : LockInterface σ ω} {kernel : NativeKernel σ} {kind : Kind}
  {holding : σ → Option (Holding TaskHandle)}

/-- A call of a task is over. -/
def CallStep (i : LockInterface σ ω) (s : Watched σ) (call : TaskHandle × ω) (s' : Watched σ) :
    Prop :=
  ∃ m answer, i.call call.2 call.1 s.lock = some (m, answer) ∧
    s' = ⟨m, record s.inside call.1 answer⟩

/-- Only who is inside unlocks. -/
def Disciplined (i : LockInterface σ ω) (s : Watched σ) (call : TaskHandle × ω) : Prop :=
  i.leaves call.2 = true → 0 < s.inside call.1

/-- The class is one of locks of a kernel. -/
structure Performs (kernel : NativeKernel σ) (i : LockInterface σ ω) : Prop where
  leaves : ∀ op t m, i.leaves op = true → i.call op t m = some (m.release kernel t, .left)
  tries : ∀ op t m, i.tries op = true → i.call op t m = trying (m.tryAcquire kernel t)
  waits : ∀ op t m, i.leaves op = false → i.tries op = false →
    i.call op t m = entering (m.acquire kernel t)
  some_waits : ∃ op, i.leaves op = false ∧ i.tries op = false

theorem performs_of (kernel : NativeKernel σ) : Performs kernel
    (.of (NativeLock.acquire kernel) (NativeLock.tryAcquire kernel)
      (NativeLock.release kernel)) := by
  refine ⟨?_, ?_, ?_, .lock, rfl, rfl⟩
  · intro op t m h
    cases op with
    | unlock => rfl
    | lock => cases h
    | tryLock => cases h
  · intro op t m h
    cases op with
    | tryLock => rfl
    | lock => cases h
    | unlock => cases h
  · intro op t m hleaves htries
    cases op with
    | lock => rfl
    | tryLock => cases htries
    | unlock => cases hleaves

theorem readWriteLock_performs (kernel : NativeKernel σ) :
    Performs kernel (ReadWriteLock.interface kernel) := by
  refine ⟨?_, ?_, ?_, .lock, rfl, rfl⟩
  · intro op t m h
    cases op with
    | unlock | unlockShared => rfl
    | lock | tryLock | lockShared | tryLockShared => cases h
  · intro op t m h
    cases op with
    | tryLock | tryLockShared => rfl
    | lock | unlock | lockShared | unlockShared => cases h
  · intro op t m hleaves htries
    cases op with
    | lock | lockShared => rfl
    | tryLock | tryLockShared => cases htries
    | unlock | unlockShared => cases hleaves

/-- A step of a created lock object is one of its semaphore. -/
theorem Performs.step (h : Performs kernel i) {native : σ} {inside : TaskHandle → Nat}
    {call : TaskHandle × ω} {s' : Watched σ} (hstep : CallStep i ⟨⟨some native⟩, inside⟩ call s') :
    ∃ native' answer,
      Step kernel 0 portMaxDelay ⟨native, inside⟩ (call.1, answer) ⟨native', s'.inside⟩ ∧
        s'.lock = ⟨some native'⟩ ∧ (answer = .left → i.leaves call.2 = true) := by
  obtain ⟨m, answer, hcall, rfl⟩ := hstep
  cases hleaves : i.leaves call.2 with
  | true =>
      rw [h.leaves _ _ _ hleaves] at hcall
      obtain ⟨rfl, rfl⟩ := Prod.mk.inj (Option.some.inj hcall)
      exact ⟨_, .left, Step.leaves, rfl, fun _ => rfl⟩
  | false =>
      cases htries : i.tries call.2 with
      | true =>
          rw [h.tries _ _ _ htries] at hcall
          simp only [trying, NativeLock.tryAcquire, Option.map_map, Option.map_eq_some_iff] at hcall
          obtain ⟨⟨native', taken⟩, htake, hresult⟩ := hcall
          obtain ⟨rfl, rfl⟩ := Prod.mk.inj hresult
          refine ⟨native', answerOf taken, Step.tries htake, rfl, fun hleft => ?_⟩
          cases taken <;> cases hleft
      | false =>
          rw [h.waits _ _ _ hleaves htries] at hcall
          simp only [entering, NativeLock.acquire, Option.map_map, Option.map_eq_some_iff] at hcall
          obtain ⟨⟨native', taken⟩, htake, hresult⟩ := hcall
          obtain ⟨rfl, rfl⟩ := Prod.mk.inj hresult
          exact ⟨native', .entered, Step.takes htake, rfl, fun hleft => by cases hleft⟩

/-- What a run of a created lock object keeps. -/
def Kept (kind : Kind) (holding : σ → Option (Holding TaskHandle)) (s : Watched σ) : Prop :=
  ∃ native, s.lock = ⟨some native⟩ ∧ Fair kind holding ⟨native, s.inside⟩

theorem Kept.step (hk : kernel.Locks kind 0 portMaxDelay holding) (hi : Performs kernel i)
    {s s' : Watched σ} {call : TaskHandle × ω} (h : Kept kind holding s)
    (hdisciplined : kind = .plain → Disciplined i s call) (hstep : CallStep i s call s') :
    Kept kind holding s' := by
  obtain ⟨⟨semaphore⟩, inside⟩ := s
  obtain ⟨native, hlock, hfair⟩ := h
  obtain rfl := NativeLock.mk.inj hlock
  obtain ⟨native', answer, hnext, hlock', hleft⟩ := hi.step hstep
  exact ⟨native', hlock',
    hfair.step hk (fun hplain hanswer => hdisciplined hplain (hleft hanswer)) hnext⟩

/-- Whoever tries enters exactly if the kernel lets it. -/
theorem Performs.tries_iff (h : Performs kernel i) {op : ω} (htries : i.tries op = true)
    (t : TaskHandle) (native : σ) :
    (∃ m, i.call op t ⟨some native⟩ = some (m, .entered)) ↔
      ∃ native', kernel.take t 0 native = some (native', true) := by
  rw [h.tries _ _ _ htries]
  simp only [trying, NativeLock.tryAcquire, Option.map_map]
  constructor
  · intro hcall
    obtain ⟨m, hm⟩ := hcall
    obtain ⟨⟨native', taken⟩, htake, hresult⟩ := Option.map_eq_some_iff.mp hm
    cases taken with
    | true => exact ⟨native', htake⟩
    | false => cases hresult
  · intro htake
    obtain ⟨native', htake⟩ := htake
    exact ⟨⟨some native'⟩, by rw [htake]; rfl⟩

/-- In every run whose steps are allowed, at most one task is inside, and a
call that tries enters exactly if the lock is free for its task. -/
def Guards (i : LockInterface σ ω) (allowed : Watched σ → TaskHandle × ω → Prop)
    (free : TaskHandle → (TaskHandle → Nat) → Prop) (m : NativeLock σ) : Prop :=
  ∀ calls s, Run (Guarded allowed (CallStep i)) (Watched.start m) calls s →
    Exclusive s.inside ∧ ∀ op t, i.tries op = true →
      ((∃ m, i.call op t s.lock = some (m, .entered)) ↔ free t s.inside)

/-- Without a semaphore two tasks are inside at once. -/
theorem not_guards_null (hi : Performs kernel i) {allowed : Watched σ → TaskHandle × ω → Prop}
    (hallowed : ∀ s call, i.leaves call.2 = false → allowed s call)
    (free : TaskHandle → (TaskHandle → Nat) → Prop) : ¬Guards i allowed free ⟨none⟩ := by
  intro h
  obtain ⟨op, hleaves, htries⟩ := hi.some_waits
  have henter : ∀ t inside, Guarded allowed (CallStep i) ⟨⟨none⟩, inside⟩ (t, op)
      ⟨⟨none⟩, record inside t .entered⟩ := by
    intro t inside
    exact ⟨hallowed _ _ hleaves, ⟨none⟩, .entered, hi.waits _ _ _ hleaves htries, rfl⟩
  have hboth := (h _ _ (Run.cons (henter 0 _) (Run.cons (henter 1 _) (Run.nil _)))).1 0 1
  exact absurd (hboth Nat.one_pos Nat.one_pos) Nat.zero_ne_one

/-- A lock object guards exactly if it has a semaphore. -/
theorem guards_iff (hk : kernel.Locks kind 0 portMaxDelay holding) (hi : Performs kernel i)
    {allowed : Watched σ → TaskHandle × ω → Prop}
    (hallowed : ∀ s call, i.leaves call.2 = false → allowed s call)
    (hplain : kind = .plain → ∀ s call, allowed s call → Disciplined i s call) :
    Guards i allowed (Free kind) (NativeLock.create kernel) ↔ kernel.create.isSome := by
  cases hcreated : kernel.create with
  | none =>
      refine iff_of_false ?_ Bool.false_ne_true
      rw [NativeLock.create, hcreated]
      exact not_guards_null hi hallowed _
  | some native =>
      refine iff_of_true ?_ rfl
      rw [NativeLock.create, hcreated]
      intro calls s hrun
      have hkept : Kept kind holding s := hrun.invariant
        (fun _ _ _ h hstep => h.step hk hi (fun heq => hplain heq _ _ hstep.1) hstep.2)
        ⟨native, rfl, hk.fair_created hcreated⟩
      obtain ⟨⟨semaphore⟩, inside⟩ := s
      obtain ⟨native', hlock, hfair⟩ := hkept
      obtain rfl := NativeLock.mk.inj hlock
      refine ⟨hfair.agrees.exclusive, fun op t htries => ?_⟩
      exact (hi.tries_iff htries t native').trans (hk.try_iff hfair.agrees)

theorem guards_plain_iff (hk : kernel.Locks .plain 0 portMaxDelay holding)
    (hi : Performs kernel i) :
    Guards i (Disciplined i) Empty (NativeLock.create kernel) ↔ kernel.create.isSome :=
  guards_iff hk hi (fun _ _ hleaves hleft => by simp [hleaves] at hleft) fun _ _ _ h => h

theorem guards_recursive_iff (hk : kernel.Locks .recursive 0 portMaxDelay holding)
    (hi : Performs kernel i) :
    Guards i (fun _ _ => True) EmptyButFor (NativeLock.create kernel) ↔ kernel.create.isSome :=
  guards_iff hk hi (fun _ _ _ => trivial) fun hkind => by cases hkind

/-! ### What the provider gives out -/

namespace SynchronizationProvider

/-- A lock object is given out only if it is available. -/
def giveOut (lock : NativeLock σ) : Option (NativeLock σ) :=
  if lock.isAvailable then some lock else none

def createMutex (kernel : NativeKernel σ) : Option (NativeLock σ) := giveOut (Mutex.create kernel)

def createRecursiveMutex (kernel : NativeKernel σ) : Option (NativeLock σ) :=
  giveOut (RecursiveMutex.create kernel)

def createReadWriteLock (kernel : NativeKernel σ) : Option (NativeLock σ) :=
  giveOut (ReadWriteLock.create kernel)

theorem giveOut_eq_some_iff (m : NativeLock σ) :
    giveOut (NativeLock.create kernel) = some m ↔
      m = NativeLock.create kernel ∧ kernel.create.isSome := by
  cases hcreated : kernel.create with
  | none => simp [giveOut, NativeLock.create, NativeLock.isAvailable, hcreated]
  | some native => simp [giveOut, NativeLock.create, NativeLock.isAvailable, hcreated, eq_comm]

end SynchronizationProvider

open SynchronizationProvider in
/-- **The locks.**  A mutex and a read/write lock are given out exactly if they
keep all but one task out as long as only those unlock who are inside; readers
keep each other out like writers.  A recursive mutex is given out exactly if it
does so whoever unlocks it. -/
theorem locks_exclude {ρ : Type*} {recursive : NativeKernel ρ}
    {nesting : ρ → Option (Holding TaskHandle)}
    (hkernel : kernel.Locks .plain 0 portMaxDelay holding)
    (hrecursive : recursive.Locks .recursive 0 portMaxDelay nesting)
    (m : NativeLock σ) (r : NativeLock ρ) :
    (createMutex kernel = some m ↔ m = Mutex.create kernel ∧
        Guards (Mutex.interface kernel) (Disciplined (Mutex.interface kernel)) Empty m) ∧
      (createReadWriteLock kernel = some m ↔ m = ReadWriteLock.create kernel ∧
        Guards (ReadWriteLock.interface kernel) (Disciplined (ReadWriteLock.interface kernel))
          Empty m) ∧
      (createRecursiveMutex recursive = some r ↔ r = RecursiveMutex.create recursive ∧
        Guards (RecursiveMutex.interface recursive) (fun _ _ => True) EmptyButFor r) := by
  refine ⟨(giveOut_eq_some_iff m).trans (and_congr_right fun hm => ?_),
    (giveOut_eq_some_iff m).trans (and_congr_right fun hm => ?_),
    (giveOut_eq_some_iff r).trans (and_congr_right fun hr => ?_)⟩
  · subst hm
    exact (guards_plain_iff hkernel (performs_of kernel)).symm
  · subst hm
    exact (guards_plain_iff hkernel (readWriteLock_performs kernel)).symm
  · subst hr
    exact (guards_recursive_iff hrecursive (performs_of recursive)).symm

/-- The locks of a kernel that does what is said of its locks. -/
theorem locks_exclude_created :
    Guards (ReadWriteLock.interface (lockKernel .plain portMaxDelay))
        (Disciplined (ReadWriteLock.interface (lockKernel .plain portMaxDelay))) Empty
        ⟨some none⟩ ∧
      Guards (RecursiveMutex.interface (lockKernel .recursive portMaxDelay)) (fun _ _ => True)
        EmptyButFor ⟨some none⟩ := by
  have hlocks := locks_exclude (lockKernel_locks .plain (by decide))
    (lockKernel_locks .recursive (by decide)) ⟨some none⟩ ⟨some none⟩
  exact ⟨(hlocks.2.1.mp rfl).2, (hlocks.2.2.mp rfl).2⟩

/-! ## Signals -/

abbrev NativeSignals (σ : Type*) := SignalKernel σ TaskHandle UInt32

/-- Null, or a binary semaphore. -/
structure BinarySignal (σ : Type*) where
  semaphore : Option σ
  deriving DecidableEq, Repr

inductive SignalCall
  | give
  | giveFromInterrupt
  | wait (timeoutMilliseconds : UInt32)
  | reset
  deriving DecidableEq, Repr

variable {native : NativeSignals σ} {isSet : σ → Bool}

namespace BinarySignal

def create (native : NativeSignals σ) (creator : TaskHandle) (initiallySet : Bool) :
    BinarySignal σ :=
  match native.create with
  | none => ⟨none⟩
  | some semaphore => ⟨some (if initiallySet then (native.give creator semaphore).1 else semaphore)⟩

def isAvailable (s : BinarySignal σ) : Bool := s.semaphore.isSome

def give (native : NativeSignals σ) (t : TaskHandle) (s : BinarySignal σ) :
    BinarySignal σ × PlatformStatus :=
  match s.semaphore with
  | none => (s, .unavailable)
  | some semaphore =>
      let (semaphore, result) := native.give t semaphore
      (⟨some semaphore⟩, if result then .success else .busy)

def giveFromInterrupt (native : NativeSignals σ) (s : BinarySignal σ) :
    BinarySignal σ × PlatformStatus :=
  match s.semaphore with
  | none => (s, .unavailable)
  | some semaphore =>
      let (semaphore, result) := native.giveFromInterrupt semaphore
      (⟨some semaphore⟩, if result then .success else .busy)

/-- There is no result while the task waits. -/
def wait (native : NativeSignals σ) (rate waitForever : UInt32) (t : TaskHandle)
    (s : BinarySignal σ) (timeoutMilliseconds : UInt32) :
    Option (BinarySignal σ × PlatformStatus) :=
  match s.semaphore with
  | none => some (s, .unavailable)
  | some semaphore =>
      let ticks :=
        if timeoutMilliseconds ≠ waitForever then ticksOf rate timeoutMilliseconds
        else portMaxDelay
      (native.take t ticks semaphore).map fun answer =>
        (⟨some answer.1⟩, if answer.2 then .success else .timeout)

/-- One turn of the loop in `Reset`; there is no status yet if it is not the
last. -/
def reset (native : NativeSignals σ) (t : TaskHandle) (s : BinarySignal σ) :
    Option (BinarySignal σ × Option PlatformStatus) :=
  match s.semaphore with
  | none => some (s, some .unavailable)
  | some semaphore =>
      (native.take t 0 semaphore).map fun answer =>
        (⟨some answer.1⟩, if answer.2 then none else some .success)

/-- A call, or a turn of one, with its status. -/
def call (native : NativeSignals σ) (rate waitForever : UInt32) (t : TaskHandle)
    (s : BinarySignal σ) : SignalCall → Option (BinarySignal σ × Option PlatformStatus)
  | .give => some ((s.give native t).1, some (s.give native t).2)
  | .giveFromInterrupt =>
      some ((s.giveFromInterrupt native).1, some (s.giveFromInterrupt native).2)
  | .wait timeout => (s.wait native rate waitForever t timeout).map fun r => (r.1, some r.2)
  | .reset => s.reset native t

end BinarySignal

/-- A `Wait` that is over has converted its timeout, and answers, as
`waitSignal` says. -/
theorem BinarySignal.wait_status {rate waitForever timeout : UInt32} {t : TaskHandle}
    {s next : BinarySignal σ} {status : PlatformStatus}
    (h : s.wait native rate waitForever t timeout = some (next, status)) :
    status = (waitSignal s.semaphore.isSome rate waitForever timeout fun ticks =>
      ((s.semaphore.bind (native.take t ticks)).map Prod.snd).getD false).1 := by
  obtain ⟨semaphore⟩ := s
  cases semaphore with
  | none =>
      obtain ⟨-, rfl⟩ := Prod.mk.inj (Option.some.inj h)
      rfl
  | some semaphore =>
      obtain ⟨answer, htake, hresult⟩ := Option.map_eq_some_iff.mp h
      obtain ⟨-, rfl⟩ := Prod.mk.inj hresult
      simp only [waitSignal, Option.isSome_some, Option.bind_some, htake]
      rfl

/-- What a task does to a signal, or an interrupt while the task runs. -/
structure SignalEvent where
  task : TaskHandle
  call : SignalCall
  status : Option PlatformStatus
  deriving DecidableEq, Repr

/-- A signal, and the tasks in a `Reset` that goes on. -/
structure Signalling (σ : Type*) where
  signal : BinarySignal σ
  resetting : TaskHandle → Bool

def Signalling.start (signal : BinarySignal σ) : Signalling σ := ⟨signal, fun _ => false⟩

/-- A task that is in a `Reset` makes no other call; an interrupt may. -/
def SignalStep (native : NativeSignals σ) (rate waitForever : UInt32) (s : Signalling σ)
    (e : SignalEvent) (s' : Signalling σ) : Prop :=
  (s.resetting e.task = true → e.call = .reset ∨ e.call = .giveFromInterrupt) ∧
    s.signal.call native rate waitForever e.task e.call = some (s'.signal, e.status) ∧
    s'.resetting =
      if e.call = .reset then Function.update s.resetting e.task (e.status == none)
      else s.resetting

/-- A `Give` that was taken. -/
def Gives (e : SignalEvent) : Prop :=
  (e.call = .give ∨ e.call = .giveFromInterrupt) ∧ e.status = some .success

/-- A `Wait` that was woken. -/
def Wakes (e : SignalEvent) : Prop :=
  (∃ timeout, e.call = .wait timeout) ∧ e.status = some .success

/-- What ends a `Give`: a wake, or a turn of a `Reset` after which it goes on. -/
def Clears (e : SignalEvent) : Prop := Wakes e ∨ e.call = .reset ∧ e.status = none

variable {rate waitForever : UInt32} {s s' : Signalling σ} {e : SignalEvent}
  {log : List SignalEvent}

/-! ### A signal is a flag -/

/-- What may happen to a flag. -/
inductive FlagStep (waitForever : UInt32) : Bool → SignalEvent → Bool → Prop
  | set {e : SignalEvent} (gives : Gives e) : FlagStep waitForever false e true
  | cleared {e : SignalEvent} (clears : Clears e) : FlagStep waitForever true e false
  | stays {set : Bool} {e : SignalEvent} (gives : ¬Gives e) (clears : ¬Clears e)
      (bounded : e.call ≠ .wait waitForever) (unset : set = true → e.call ≠ .reset) :
      FlagStep waitForever set e set

/-- The signal has a semaphore, which is set or not. -/
def Signalling.Shows (s : Signalling σ) (isSet : σ → Bool) (set : Bool) : Prop :=
  ∃ semaphore, s.signal.semaphore = some semaphore ∧ isSet semaphore = set

theorem shows_start {creator : TaskHandle} {initiallySet : Bool}
    (hn : native.Signals portMaxDelay isSet)
    (havailable : (BinarySignal.create native creator initiallySet).isAvailable) :
    (Signalling.start (.create native creator initiallySet)).Shows isSet initiallySet := by
  cases hcreated : native.create with
  | none => simp [BinarySignal.create, BinarySignal.isAvailable, hcreated] at havailable
  | some semaphore =>
      have hstart : (BinarySignal.create native creator initiallySet).semaphore =
          some (if initiallySet then (native.give creator semaphore).1 else semaphore) := by
        simp [BinarySignal.create, hcreated]
      refine ⟨_, hstart, ?_⟩
      cases initiallySet with
      | true => exact (hn.given creator semaphore).2
      | false => exact hn.created semaphore hcreated

theorem flagStep_give {set : Bool} {t : TaskHandle} {c : SignalCall}
    (hc : c = .give ∨ c = .giveFromInterrupt) :
    FlagStep waitForever set ⟨t, c, some (if !set then .success else .busy)⟩ true := by
  have hcleared : ∀ status, ¬Clears ⟨t, c, status⟩ := by
    intro status hclears
    obtain rfl | rfl := hc <;> simp [Clears, Wakes] at hclears
  cases set with
  | false => exact .set ⟨hc, rfl⟩
  | true =>
      refine .stays (fun hgives => by cases hgives.2) (hcleared _) ?_ fun _ => ?_
      · obtain rfl | rfl := hc <;> exact fun h => by cases h
      · obtain rfl | rfl := hc <;> exact fun h => by cases h

/-- **One event** does to the signal what may happen to a flag. -/
theorem SignalStep.flag {set : Bool} (hn : native.Signals portMaxDelay isSet)
    (hs : s.Shows isSet set) (h : SignalStep native rate waitForever s e s') :
    ∃ next, s'.Shows isSet next ∧ FlagStep waitForever set e next := by
  obtain ⟨semaphore, hsemaphore, rfl⟩ := hs
  obtain ⟨t, c, status⟩ := e
  obtain ⟨-, hcall, -⟩ := h
  cases c with
  | give =>
      simp only [BinarySignal.call, BinarySignal.give, hsemaphore] at hcall
      obtain ⟨hsignal, hstatus⟩ := Prod.mk.inj (Option.some.inj hcall)
      obtain ⟨hresult, hset⟩ := hn.given t semaphore
      refine ⟨true, ⟨_, congrArg BinarySignal.semaphore hsignal.symm, hset⟩, ?_⟩
      rw [← hstatus, hresult]
      exact flagStep_give (.inl rfl)
  | giveFromInterrupt =>
      simp only [BinarySignal.call, BinarySignal.giveFromInterrupt, hsemaphore] at hcall
      obtain ⟨hsignal, hstatus⟩ := Prod.mk.inj (Option.some.inj hcall)
      obtain ⟨hresult, hset⟩ := hn.givenFromInterrupt semaphore
      refine ⟨true, ⟨_, congrArg BinarySignal.semaphore hsignal.symm, hset⟩, ?_⟩
      rw [← hstatus, hresult]
      exact flagStep_give (.inr rfl)
  | wait timeout =>
      simp only [BinarySignal.call, BinarySignal.wait, hsemaphore, Option.map_map,
        Option.map_eq_some_iff] at hcall
      obtain ⟨⟨next, taken⟩, htake, hresult⟩ := hcall
      obtain ⟨hsignal, rfl⟩ := Prod.mk.inj hresult
      have hnext : s'.signal.semaphore = some next := congrArg BinarySignal.semaphore hsignal.symm
      obtain ⟨rfl, hunset⟩ := hn.take_eq htake
      refine ⟨false, ⟨next, hnext, hunset⟩, ?_⟩
      cases hset : isSet semaphore with
      | true => exact .cleared (.inl ⟨⟨timeout, rfl⟩, rfl⟩)
      | false =>
          refine .stays ?_ ?_ ?_ fun hfalse => by cases hfalse
          · simp [Gives]
          · simp [Clears, Wakes]
          · intro hforever
            obtain rfl := SignalCall.wait.inj hforever
            rw [if_neg (not_not.mpr rfl), hset] at htake
            exact hn.waits t semaphore next htake
  | reset =>
      simp only [BinarySignal.call, BinarySignal.reset, hsemaphore, Option.map_eq_some_iff] at hcall
      obtain ⟨⟨next, taken⟩, htake, hresult⟩ := hcall
      obtain ⟨hsignal, rfl⟩ := Prod.mk.inj hresult
      have hnext : s'.signal.semaphore = some next := congrArg BinarySignal.semaphore hsignal.symm
      obtain ⟨rfl, hunset⟩ := hn.take_eq htake
      refine ⟨false, ⟨next, hnext, hunset⟩, ?_⟩
      cases isSet semaphore with
      | true => exact .cleared (.inr ⟨rfl, rfl⟩)
      | false =>
          refine .stays ?_ ?_ ?_ fun hfalse => by cases hfalse
          · simp [Gives]
          · simp [Clears, Wakes]
          · simp

/-- A run of a signal is one of a flag. -/
theorem run_flag {set : Bool} (hn : native.Signals portMaxDelay isSet)
    (h : Run (SignalStep native rate waitForever) s log s') (hs : s.Shows isSet set) :
    ∃ last, s'.Shows isSet last ∧ Run (FlagStep waitForever) set log last := by
  induction h generalizing set with
  | nil s => exact ⟨set, hs, Run.nil set⟩
  | cons head tail ih =>
      obtain ⟨next, hnext, hstep⟩ := SignalStep.flag hn hs head
      obtain ⟨last, hlast, hrest⟩ := ih hnext
      exact ⟨last, hlast, Run.cons hstep hrest⟩

/-! ### Runs of a flag -/

variable {set last : Bool}

theorem FlagStep.of_gives (h : FlagStep waitForever set e last) (hgives : Gives e) :
    set = false ∧ last = true := by
  cases h with
  | set _ => exact ⟨rfl, rfl⟩
  | cleared clears =>
      obtain ⟨hcall | hcall, -⟩ := hgives <;> simp [Clears, Wakes, hcall] at clears
  | stays gives _ _ _ => exact absurd hgives gives

theorem FlagStep.of_wakes (h : FlagStep waitForever set e last) (hwakes : Wakes e) :
    set = true := by
  cases h with
  | set gives =>
      obtain ⟨timeout, htimeout⟩ := hwakes.1
      obtain ⟨hcall | hcall, -⟩ := gives <;> rw [hcall] at htimeout <;> cases htimeout
  | cleared _ => rfl
  | stays _ clears _ _ => exact absurd (Or.inl hwakes) clears

/-- Nothing is set after a wake, or after a turn of a `Reset`. -/
theorem FlagStep.after (h : FlagStep waitForever set e last)
    (hends : Wakes e ∨ e.call = .reset) : last = false := by
  cases h with
  | set gives =>
      obtain ⟨hcall | hcall, -⟩ := gives <;> simp [Wakes, hcall] at hends
  | cleared _ => rfl
  | stays _ clears _ unset =>
      obtain hwakes | hreset := hends
      · exact absurd (Or.inl hwakes) clears
      · exact Bool.eq_false_iff.mpr fun hset => unset hset hreset

/-- Until it is given, a signal stays unset. -/
theorem run_unset (h : Run (FlagStep waitForever) false log last)
    (hgives : ∀ e ∈ log, ¬Gives e) : last = false := by
  induction log with
  | nil =>
      cases h
      rfl
  | cons e log ih =>
      cases h with
      | cons head tail =>
          obtain ⟨hhead, hrest⟩ := List.forall_mem_cons.mp hgives
          cases head with
          | set gives => exact absurd gives hhead
          | stays _ _ _ _ => exact ih tail hrest

/-- Until it is cleared, a signal stays set. -/
theorem run_set (h : Run (FlagStep waitForever) true log last)
    (hclears : ∀ e ∈ log, ¬Clears e) : last = true := by
  induction log with
  | nil =>
      cases h
      rfl
  | cons e log ih =>
      cases h with
      | cons head tail =>
          obtain ⟨hhead, hrest⟩ := List.forall_mem_cons.mp hclears
          cases head with
          | cleared clears => exact absurd clears hhead
          | stays _ _ _ _ => exact ih tail hrest

/-- What the statuses of a signal's calls say together. -/
structure Alternates (waitForever : UInt32) (initiallySet : Bool) (log : List SignalEvent) :
    Prop where
  given : ∀ before x between y after, log = before ++ x :: (between ++ y :: after) →
    Wakes x ∨ x.call = .reset → Wakes y → ∃ e ∈ between, Gives e
  first : ∀ before x after, log = before ++ x :: after → Wakes x →
    initiallySet = true ∨ ∃ e ∈ before, Gives e
  cleared : ∀ before x between y after, log = before ++ x :: (between ++ y :: after) →
    Gives x → Gives y → ∃ e ∈ between, Clears e
  forever : ∀ e ∈ log, e.call = .wait waitForever → Wakes e

theorem run_forever (h : Run (FlagStep waitForever) set log last) :
    ∀ e ∈ log, e.call = .wait waitForever → Wakes e := by
  induction h with
  | nil s => simp
  | cons head tail ih =>
      refine List.forall_mem_cons.mpr ⟨fun hwait => ?_, ih⟩
      cases head with
      | set gives => obtain ⟨hcall | hcall, -⟩ := gives <;> rw [hcall] at hwait <;> cases hwait
      | cleared clears =>
          obtain hwakes | ⟨hreset, -⟩ := clears
          · exact hwakes
          · rw [hreset] at hwait
            cases hwait
      | stays _ _ bounded _ => exact absurd hwait bounded

theorem alternates_of_flag {initiallySet : Bool}
    (h : Run (FlagStep waitForever) initiallySet log last) :
    Alternates waitForever initiallySet log := by
  refine ⟨?_, ?_, ?_, run_forever h⟩
  · intro before x between y after hlog hx hy
    subst hlog
    obtain ⟨s, -, hrest⟩ := h.split_append
    cases hrest with
    | cons head tail =>
        obtain rfl := head.after hx
        by_contra hnone
        obtain ⟨t, hbetween, hlast⟩ := tail.split_append
        obtain rfl := run_unset hbetween fun e he hgives => hnone ⟨e, he, hgives⟩
        cases hlast with
        | cons head _ => exact Bool.false_ne_true (head.of_wakes hy)
  · intro before x after hlog hx
    subst hlog
    by_contra hnone
    obtain ⟨hset, hgives⟩ := not_or.mp hnone
    obtain rfl := Bool.eq_false_iff.mpr hset
    obtain ⟨s, hbefore, hrest⟩ := h.split_append
    obtain rfl := run_unset hbefore fun e he hgive => hgives ⟨e, he, hgive⟩
    cases hrest with
    | cons head _ => exact Bool.false_ne_true (head.of_wakes hx)
  · intro before x between y after hlog hx hy
    subst hlog
    obtain ⟨s, -, hrest⟩ := h.split_append
    cases hrest with
    | cons head tail =>
        obtain ⟨-, rfl⟩ := head.of_gives hx
        by_contra hnone
        obtain ⟨t, hbetween, hlast⟩ := tail.split_append
        obtain rfl := run_set hbetween fun e he hclears => hnone ⟨e, he, hclears⟩
        cases hlast with
        | cons head _ => exact Bool.false_ne_true (head.of_gives hy).1.symm

/-- What was given and not cleared since is still there. -/
theorem run_kept (h : Run (FlagStep waitForever) set log last) {before after : List SignalEvent}
    {x : SignalEvent} (hlog : log = before ++ x :: after) (hx : Gives x)
    (hkept : ∀ e ∈ after, ¬Clears e) : last = true := by
  subst hlog
  obtain ⟨s, -, hrest⟩ := h.split_append
  cases hrest with
  | cons head tail =>
      obtain ⟨-, rfl⟩ := head.of_gives hx
      exact run_set tail hkept

theorem wait_set (hn : native.Signals portMaxDelay isSet) (hs : s.Shows isSet true)
    (t : TaskHandle) (timeout : UInt32) :
    ∃ next, s.signal.wait native rate waitForever t timeout = some (next, .success) := by
  obtain ⟨semaphore, hsemaphore, hset⟩ := hs
  obtain ⟨semaphore', htaken, -⟩ := hn.taken t
    (if timeout ≠ waitForever then ticksOf rate timeout else portMaxDelay) semaphore hset
  exact ⟨⟨some semaphore'⟩, by simp only [BinarySignal.wait, hsemaphore, htaken]; rfl⟩

def SynchronizationProvider.createBinarySignal (native : NativeSignals σ) (creator : TaskHandle)
    (initiallySet : Bool) : Option (BinarySignal σ) :=
  let signal := BinarySignal.create native creator initiallySet
  if signal.isAvailable then some signal else none

/-- **Signals.**  Between two wakes there is a `Give`, and before the first, if
the signal was not set to begin with; a `Reset` leaves no `Give` from before its
last turn, while one that falls between its turns may be cleared or kept;
between two `Give`s that are taken there is a wake or a turn of a `Reset` that
cleared the first; and a `Wait` without a timeout is woken.  A `Give` that is
not followed by either is still there for the next `Wait`, whatever its
timeout. -/
theorem signal_alternates {creator : TaskHandle} {initiallySet : Bool} {signal : BinarySignal σ}
    (hn : native.Signals portMaxDelay isSet)
    (hsignal : SynchronizationProvider.createBinarySignal native creator initiallySet = some signal)
    (h : Run (SignalStep native rate waitForever) (.start signal) log s') :
    Alternates waitForever initiallySet log ∧
      ∀ before x after, log = before ++ x :: after → Gives x → (∀ e ∈ after, ¬Clears e) →
        ∀ t timeout, ∃ next,
          s'.signal.wait native rate waitForever t timeout = some (next, .success) := by
  obtain ⟨havailable, rfl⟩ : (BinarySignal.create native creator initiallySet).isAvailable ∧
      BinarySignal.create native creator initiallySet = signal := by
    simpa [SynchronizationProvider.createBinarySignal] using hsignal
  obtain ⟨last, hlast, hrun⟩ := run_flag hn h (shows_start hn havailable)
  refine ⟨alternates_of_flag hrun, fun before x after hlog hx hkept t timeout => ?_⟩
  obtain rfl := run_kept hrun hlog hx hkept
  exact wait_set hn hlast t timeout

theorem signalStep_of {signal : BinarySignal σ}
    (hfree : s.resetting e.task = true → e.call = .reset ∨ e.call = .giveFromInterrupt)
    (hcall : s.signal.call native rate waitForever e.task e.call = some (signal, e.status)) :
    SignalStep native rate waitForever s e
      ⟨signal, if e.call = .reset then Function.update s.resetting e.task (e.status == none)
        else s.resetting⟩ :=
  ⟨hfree, hcall, rfl⟩

/-- An interrupt gives between the turns of a `Reset`, and again after the last,
which wakes a `Wait`. -/
def sampleSignals : List SignalEvent :=
  [⟨0, .give, some .success⟩, ⟨1, .reset, none⟩, ⟨1, .giveFromInterrupt, some .success⟩,
    ⟨1, .reset, none⟩, ⟨1, .reset, some .success⟩, ⟨1, .giveFromInterrupt, some .success⟩,
    ⟨2, .wait 10, some .success⟩]

/-- At 1000 Hz, with a flag for a semaphore. -/
theorem signal_given_twice : Alternates 0xFFFFFFFF false sampleSignals := by
  have hrun : Run (SignalStep (flagKernel TaskHandle portMaxDelay) 1000 0xFFFFFFFF)
      (.start ⟨some false⟩) sampleSignals _ :=
    Run.cons (signalStep_of (fun h => by cases h) rfl) <|
      Run.cons (signalStep_of (fun h => by cases h) rfl) <|
      Run.cons (signalStep_of (fun _ => .inr rfl) rfl) <|
      Run.cons (signalStep_of (fun _ => .inl rfl) rfl) <|
      Run.cons (signalStep_of (fun _ => .inl rfl) rfl) <|
      Run.cons (signalStep_of (fun h => by cases h) rfl) <|
      Run.cons (signalStep_of (fun h => by cases h) rfl) (Run.nil _)
  have hcreated : SynchronizationProvider.createBinarySignal (flagKernel TaskHandle portMaxDelay)
      0 false = some ⟨some false⟩ := rfl
  exact (signal_alternates (flagKernel_signals portMaxDelay) hcreated hrun).1

end Synchronization
