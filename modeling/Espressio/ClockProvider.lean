import Espressio.NativeProtocols
import Espressio.OwnedHandles
import Espressio.PlatformResult

/-!
# High-resolution counters

A `HighResolutionCounter` owns a general-purpose timer of the driver.  The
driver has its own states: a timer is made, enabled and started, and has to be
stopped and disabled before it can be deleted.  The counter keeps two flags for
them.

`timers_in_order` says that the flags are right, so that no counter ever makes a
call the timer's state does not allow, and that the driver holds the timers of
the live counters and no others.

The driver's answers come with the operations.  A timer that is to be deleted
is taken to be stopped, disabled and deleted when asked in that order.
-/

namespace Counters

open Runs NativeProtocols OwnedHandles PlatformResults

abbrev TimerHandle := Nat

inductive TimerState
  | init
  | enabled
  | running
  deriving DecidableEq, Repr

/-- A call of the driver, with its answer. -/
inductive NativeCall
  | newTimer (resolutionHz : Nat) (timer : TimerHandle) (answer : EspErr)
  | enable (timer : TimerHandle) (answer : EspErr)
  | start (timer : TimerHandle) (answer : EspErr)
  | stop (timer : TimerHandle) (answer : EspErr)
  | disable (timer : TimerHandle) (answer : EspErr)
  | delete (timer : TimerHandle) (answer : EspErr)
  | setRawCount (timer : TimerHandle) (count : Nat) (answer : EspErr)
  | getRawCount (timer : TimerHandle) (answer : EspErr)

structure HighResolutionCounter where
  timer : Option TimerHandle
  resolutionHz : Nat
  initializationResult : PlatformResult
  enabled : Bool
  running : Bool
  deriving DecidableEq, Repr

/-- What the driver answers while a counter is made, with the timer it makes if
it does. -/
structure CreateNatives where
  newTimer : EspErr
  timer : TimerHandle
  enable : EspErr
  delete : EspErr
  deriving DecidableEq, Repr

/-- What it answers while one ends. -/
structure DestroyNatives where
  stop : EspErr
  disable : EspErr
  delete : EspErr
  deriving DecidableEq, Repr

namespace HighResolutionCounter

/-- The constructor. -/
def construct (requestedResolutionHz : Nat) (n : CreateNatives) :
    HighResolutionCounter × List NativeCall :=
  if requestedResolutionHz = 0 ∨ 4294967295 < requestedResolutionHz then
    (⟨none, 0, .failed .invalidArgument none, false, false⟩, [])
  else
    let made := NativeCall.newTimer requestedResolutionHz n.timer n.newTimer
    if n.newTimer ≠ .ok then
      (⟨none, 0, platformResultFromEspError n.newTimer, false, false⟩, [made])
    else if n.enable ≠ .ok then
      (⟨none, 0, platformResultFromEspError n.enable, false, false⟩,
        [made, .enable n.timer n.enable, .delete n.timer n.delete])
    else
      (⟨some n.timer, requestedResolutionHz, .succeeded, true, false⟩,
        [made, .enable n.timer n.enable])

/-- The destructor. -/
def destruct (c : HighResolutionCounter) (n : DestroyNatives) : List NativeCall :=
  match c.timer with
  | none => []
  | some timer =>
      (if c.running then [.stop timer n.stop] else []) ++
        (if c.enabled then [.disable timer n.disable] else []) ++ [.delete timer n.delete]

def start (c : HighResolutionCounter) (answer : EspErr) :
    HighResolutionCounter × PlatformResult × List NativeCall :=
  match c.timer with
  | none => (c, c.initializationResult, [])
  | some timer =>
      if c.running then (c, .succeeded, [])
      else (if answer = .ok then { c with running := true } else c,
        platformResultFromEspError answer, [.start timer answer])

def stop (c : HighResolutionCounter) (answer : EspErr) :
    HighResolutionCounter × PlatformResult × List NativeCall :=
  match c.timer with
  | none => (c, c.initializationResult, [])
  | some timer =>
      if c.running = false then (c, .succeeded, [])
      else (if answer = .ok then { c with running := false } else c,
        platformResultFromEspError answer, [.stop timer answer])

def reset (c : HighResolutionCounter) (answer : EspErr) : PlatformResult × List NativeCall :=
  match c.timer with
  | none => (c.initializationResult, [])
  | some timer => (platformResultFromEspError answer, [.setRawCount timer 0 answer])

/-- The count is the driver's, or 0 without a timer. -/
def read (c : HighResolutionCounter) (answer : EspErr) (native : Nat) :
    PlatformResult × Nat × List NativeCall :=
  match c.timer with
  | none => (c.initializationResult, 0, [])
  | some timer => (platformResultFromEspError answer, native, [.getRawCount timer answer])

def isAvailable (c : HighResolutionCounter) : Bool := c.timer.isSome && c.initializationResult.ok

end HighResolutionCounter

/-- The counters that live. -/
structure Objects where
  live : Nat → Option HighResolutionCounter
  next : Nat

def Objects.none : Objects := ⟨fun _ => Option.none, 0⟩

inductive Op
  | create (requestedResolutionHz : Nat) (n : CreateNatives)
  | start (id : Nat) (answer : EspErr)
  | stop (id : Nat) (answer : EspErr)
  | reset (id : Nat) (answer : EspErr)
  | read (id : Nat) (answer : EspErr) (native : Nat)
  | destroy (id : Nat) (n : DestroyNatives)

def Objects.set (s : Objects) (id : Nat) (c : Option HighResolutionCounter) : Objects :=
  { s with live := Function.update s.live id c }

/-- One operation; `HighResolutionCounterProvider::Create` gives out the counter
whether it is available or not. -/
def step (s : Objects) : Op → Objects × List NativeCall
  | .create requestedResolutionHz n =>
      let (c, calls) := HighResolutionCounter.construct requestedResolutionHz n
      ({ s.set s.next (some c) with next := s.next + 1 }, calls)
  | .start id answer =>
      match s.live id with
      | Option.none => (s, [])
      | some c => (s.set id (some (c.start answer).1), (c.start answer).2.2)
  | .stop id answer =>
      match s.live id with
      | Option.none => (s, [])
      | some c => (s.set id (some (c.stop answer).1), (c.stop answer).2.2)
  | .reset id answer =>
      match s.live id with
      | Option.none => (s, [])
      | some c => (s, (c.reset answer).2)
  | .read id answer native =>
      match s.live id with
      | Option.none => (s, [])
      | some c => (s, (c.read answer native).2.2)
  | .destroy id n =>
      match s.live id with
      | Option.none => (s, [])
      | some c => (s.set id Option.none, c.destruct n)

/-! ## The driver -/

/-- The timers the driver holds, each in its state. -/
abbrev Driver := TimerHandle → Option TimerState

/-- A call that is allowed in one state of a timer, and leads to another if it
is granted. -/
def Driver.move (k : Driver) (timer : TimerHandle) (before : TimerState)
    (after : Option TimerState) (answer : EspErr) : Option Driver :=
  if k timer = some before then
    some (if answer = .ok then Function.update k timer after else k)
  else Option.none

def accept (k : Driver) : NativeCall → Option Driver
  | .newTimer _ timer answer =>
      if answer ≠ .ok then some k
      else if k timer = Option.none then some (Function.update k timer (some .init))
      else Option.none
  | .enable timer answer => k.move timer .init (some .enabled) answer
  | .start timer answer => k.move timer .enabled (some .running) answer
  | .stop timer answer => k.move timer .running (some .enabled) answer
  | .disable timer answer => k.move timer .enabled (some .init) answer
  | .delete timer answer => k.move timer .init Option.none answer
  | .setRawCount timer _ _ => if k timer ≠ Option.none then some k else Option.none
  | .getRawCount timer _ => if k timer ≠ Option.none then some k else Option.none

/-- The driver makes timers that are new, and takes them back when it is asked
in the right state. -/
def Granted (s : Objects) : Op → Prop
  | .create _ n =>
      (n.newTimer = .ok → ∀ id c, s.live id = some c → c.timer ≠ some n.timer) ∧ n.delete = .ok
  | .destroy _ n => n.stop = .ok ∧ n.disable = .ok ∧ n.delete = .ok
  | _ => True

/-- The state the flags of a counter say its timer is in. -/
def HighResolutionCounter.state (c : HighResolutionCounter) : TimerState :=
  if c.running then .running else if c.enabled then .enabled else .init

/-- The timer of a counter, in the state the flags say. -/
def HighResolutionCounter.owned (c : HighResolutionCounter) : Option (TimerHandle × TimerState) :=
  c.timer.map fun timer => (timer, c.state)

def Objects.owned (s : Objects) (id : Nat) : Option (TimerHandle × TimerState) :=
  (s.live id).bind HighResolutionCounter.owned

/-- A counter with a timer has enabled it, and one without has its failure to
answer with. -/
structure HighResolutionCounter.Valid (c : HighResolutionCounter) : Prop where
  enabled : c.timer.isSome = true → c.enabled = true
  result : c.initializationResult.ok = true ↔ c.timer.isSome = true

/-- The driver holds the timers of the counters, each in the state its counter
says. -/
structure Mirrors (s : Objects) (k : Driver) : Prop where
  holds : Holds k s.owned
  valid : ∀ id c, s.live id = some c → c.Valid
  fresh : ∀ id, s.next ≤ id → s.live id = Option.none

variable {s : Objects} {k : Driver} {c : HighResolutionCounter} {id : Nat}

theorem owned_update (s : Objects) (id next : Nat) (c : Option HighResolutionCounter) :
    Objects.owned ⟨Function.update s.live id c, next⟩ =
      Function.update s.owned id (c.bind HighResolutionCounter.owned) := by
  funext other
  by_cases heq : other = id
  · subst heq
    simp [Objects.owned]
  · simp [Objects.owned, heq]

theorem ok_platformResultFromEspError (error : EspErr) :
    (platformResultFromEspError error).ok = true ↔ error = .ok := by
  cases error <;> simp [platformResultFromEspError, PlatformResult.ok]

/-- A call that is made in the right state. -/
theorem accept_move {timer : TimerHandle} {before : TimerState} (hheld : k timer = some before)
    (after : Option TimerState) (answer : EspErr) :
    k.move timer before after answer =
      some (if answer = .ok then Function.update k timer after else k) := by
  rw [Driver.move, if_pos hheld]

/-- **The constructor** leaves the driver with an enabled timer for the counter,
or with what it had. -/
theorem construct_spec (requestedResolutionHz : Nat) (n : CreateNatives)
    (hfree : n.newTimer = .ok → k n.timer = Option.none) (hdelete : n.delete = .ok) :
    let r := HighResolutionCounter.construct requestedResolutionHz n
    r.1.Valid ∧
      ((r.1.owned = Option.none ∧ accepts accept k r.2 = some k) ∨
        ∃ timer state, r.1.owned = some (timer, state) ∧ k timer = Option.none ∧
          accepts accept k r.2 = some (Function.update k timer (some state))) := by
  have hfailed : ∀ error, error ≠ EspErr.ok → HighResolutionCounter.Valid
      ⟨none, 0, platformResultFromEspError error, false, false⟩ := by
    intro error herror
    refine ⟨(fun h => by cases h), ?_⟩
    rw [ok_platformResultFromEspError]
    exact iff_of_false herror Bool.false_ne_true
  simp only [HighResolutionCounter.construct]
  split
  · exact ⟨⟨(fun h => by cases h), by simp [PlatformResult.ok]⟩, Or.inl ⟨rfl, rfl⟩⟩
  · split
    · rename_i hmade
      refine ⟨hfailed _ hmade, Or.inl ⟨rfl, ?_⟩⟩
      simp [accept, hmade]
    · rename_i hmade
      rw [ne_eq, not_not] at hmade
      have hnew : accept k (.newTimer requestedResolutionHz n.timer n.newTimer) =
          some (Function.update k n.timer (some .init)) := by
        simp [accept, hmade, hfree hmade]
      split
      · rename_i henable
        refine ⟨hfailed _ henable, Or.inl ⟨rfl, ?_⟩⟩
        rw [accepts_cons hnew, accepts_cons (accept_move (Function.update_self ..) _ _),
          if_neg henable, accepts_single]
        have hback := accept_move (k := Function.update k n.timer (some .init))
          (Function.update_self ..) Option.none n.delete
        rw [if_pos hdelete, Function.update_idem] at hback
        refine hback.trans (congrArg some ?_)
        rw [← hfree hmade, Function.update_eq_self]
      · rename_i henable
        rw [ne_eq, not_not] at henable
        refine ⟨⟨fun _ => rfl, by simp [PlatformResult.ok]⟩,
          Or.inr ⟨n.timer, .enabled, rfl, hfree hmade, ?_⟩⟩
        rw [accepts_cons hnew, accepts_single]
        have hon := accept_move (k := Function.update k n.timer (some .init))
          (Function.update_self ..) (some .enabled) n.enable
        rw [if_pos henable, Function.update_idem] at hon
        exact hon

/-- The calls are accepted, and what becomes of the timer is what the counter
then says. -/
def Moves (k : Driver) (c : HighResolutionCounter) (r : HighResolutionCounter × List NativeCall) :
    Prop :=
  r.1.Valid ∧
    ((r.1.owned = c.owned ∧ accepts accept k r.2 = some k) ∨
      ∃ timer state state', c.owned = some (timer, state) ∧ r.1.owned = some (timer, state') ∧
        accepts accept k r.2 = some (Function.update k timer (some state')))

theorem owned_of_timer {timer : TimerHandle} (h : c.timer = some timer) :
    c.owned = some (timer, c.state) := by
  rw [HighResolutionCounter.owned, h, Option.map_some]

theorem start_moves (hvalid : c.Valid)
    (hheld : ∀ timer state, c.owned = some (timer, state) → k timer = some state)
    (answer : EspErr) : Moves k c ((c.start answer).1, (c.start answer).2.2) := by
  cases htimer : c.timer with
  | none =>
      simp only [HighResolutionCounter.start, htimer]
      exact ⟨hvalid, Or.inl ⟨rfl, rfl⟩⟩
  | some timer =>
      have howned := owned_of_timer htimer
      have henabled := hvalid.enabled (by rw [htimer]; rfl)
      simp only [HighResolutionCounter.start, htimer]
      cases hrunning : c.running with
      | true => exact ⟨hvalid, Or.inl ⟨rfl, rfl⟩⟩
      | false =>
          have hstate : c.state = .enabled := by
            simp [HighResolutionCounter.state, hrunning, henabled]
          have hcall := accept_move ((hheld _ _ howned).trans (congrArg some hstate))
            (some .running) answer
          simp only [Bool.false_eq_true, if_false]
          by_cases hanswer : answer = .ok
          · rw [if_pos hanswer] at hcall ⊢
            refine ⟨⟨fun _ => henabled, by simpa [htimer] using hvalid.result⟩,
              Or.inr ⟨timer, _, .running, howned, ?_, by rw [accepts_single]; exact hcall⟩⟩
            simp [HighResolutionCounter.owned, HighResolutionCounter.state]
          · rw [if_neg hanswer] at hcall ⊢
            exact ⟨hvalid, Or.inl ⟨rfl, by rw [accepts_single]; exact hcall⟩⟩

theorem stop_moves (hvalid : c.Valid)
    (hheld : ∀ timer state, c.owned = some (timer, state) → k timer = some state)
    (answer : EspErr) : Moves k c ((c.stop answer).1, (c.stop answer).2.2) := by
  cases htimer : c.timer with
  | none =>
      simp only [HighResolutionCounter.stop, htimer]
      exact ⟨hvalid, Or.inl ⟨rfl, rfl⟩⟩
  | some timer =>
      have howned := owned_of_timer htimer
      have henabled := hvalid.enabled (by rw [htimer]; rfl)
      simp only [HighResolutionCounter.stop, htimer]
      cases hrunning : c.running with
      | false => exact ⟨hvalid, Or.inl ⟨rfl, rfl⟩⟩
      | true =>
          have hstate : c.state = .running := by simp [HighResolutionCounter.state, hrunning]
          have hcall := accept_move ((hheld _ _ howned).trans (congrArg some hstate))
            (some .enabled) answer
          simp only [Bool.true_eq_false, if_false]
          by_cases hanswer : answer = .ok
          · rw [if_pos hanswer] at hcall ⊢
            refine ⟨⟨fun _ => henabled, by simpa [htimer] using hvalid.result⟩,
              Or.inr ⟨timer, _, .enabled, howned, ?_, by rw [accepts_single]; exact hcall⟩⟩
            simp [HighResolutionCounter.owned, HighResolutionCounter.state, henabled]
          · rw [if_neg hanswer] at hcall ⊢
            exact ⟨hvalid, Or.inl ⟨rfl, by rw [accepts_single]; exact hcall⟩⟩

theorem reset_accepted
    (hheld : ∀ timer state, c.owned = some (timer, state) → k timer = some state)
    (answer : EspErr) : accepts accept k (c.reset answer).2 = some k := by
  cases htimer : c.timer with
  | none => simp [HighResolutionCounter.reset, htimer]
  | some timer =>
      simp [HighResolutionCounter.reset, htimer, accept, hheld _ _ (owned_of_timer htimer)]

theorem read_accepted
    (hheld : ∀ timer state, c.owned = some (timer, state) → k timer = some state)
    (answer : EspErr) (native : Nat) :
    accepts accept k (c.read answer native).2.2 = some k := by
  cases htimer : c.timer with
  | none => simp [HighResolutionCounter.read, htimer]
  | some timer =>
      simp [HighResolutionCounter.read, htimer, accept, hheld _ _ (owned_of_timer htimer)]

/-- **The destructor** takes the timer back to where it can be deleted. -/
theorem destruct_accepted (hvalid : c.Valid) {timer : TimerHandle}
    (htimer : c.timer = some timer) (hheld : k timer = some c.state) {n : DestroyNatives}
    (hstop : n.stop = .ok) (hdisable : n.disable = .ok) (hdelete : n.delete = .ok) :
    accepts accept k (c.destruct n) = some (Function.update k timer Option.none) := by
  have henabled := hvalid.enabled (by rw [htimer]; rfl)
  have hdown : ∀ k : Driver, k timer = some .enabled →
      accepts accept k [.disable timer n.disable, .delete timer n.delete] =
        some (Function.update k timer Option.none) := by
    intro k hk
    have hfirst := accept_move hk (some .init) n.disable
    rw [if_pos hdisable] at hfirst
    have hlast := accept_move (k := Function.update k timer (some .init))
      (Function.update_self ..) Option.none n.delete
    rw [if_pos hdelete, Function.update_idem] at hlast
    refine (accepts_cons (c := NativeCall.disable timer n.disable) hfirst _).trans ?_
    rw [accepts_single]
    exact hlast
  simp only [HighResolutionCounter.destruct, htimer, henabled, if_true]
  cases hrunning : c.running with
  | false =>
      refine hdown k (hheld.trans ?_)
      simp [HighResolutionCounter.state, hrunning, henabled]
  | true =>
      have hstate : c.state = .running := by simp [HighResolutionCounter.state, hrunning]
      have hfirst := accept_move (hheld.trans (congrArg some hstate)) (some .enabled) n.stop
      rw [if_pos hstop] at hfirst
      have hrest := hdown (Function.update k timer (some .enabled)) (Function.update_self ..)
      rw [Function.update_idem] at hrest
      exact (accepts_cons (c := NativeCall.stop timer n.stop) hfirst _).trans hrest

/-! ## Runs -/

theorem owned_live (hlive : s.live id = some c) : s.owned id = c.owned := by
  rw [Objects.owned, hlive, Option.bind_some]

theorem Mirrors.held (h : Mirrors s k) (hlive : s.live id = some c) (timer : TimerHandle)
    (state : TimerState) (howned : c.owned = some (timer, state)) : k timer = some state :=
  h.holds.held_of ((owned_live hlive).trans howned)

/-- A counter that lives has moved. -/
theorem Mirrors.moves (h : Mirrors s k) (hlive : s.live id = some c)
    {r : HighResolutionCounter × List NativeCall} (hr : Moves k c r) :
    ∃ k', accepts accept k r.2 = some k' ∧ Mirrors (s.set id (some r.1)) k' := by
  obtain ⟨hvalid, hcalls⟩ := hr
  have hvalids : ∀ other d, (s.set id (some r.1)).live other = some d → d.Valid := by
    intro other d hd
    have hfound : Function.update s.live id (some r.1) other = some d := hd
    by_cases heq : other = id
    · rw [heq, Function.update_self] at hfound
      rw [← Option.some.inj hfound]
      exact hvalid
    · rw [Function.update_of_ne heq] at hfound
      exact h.valid other d hfound
  have hfresh : ∀ other, s.next ≤ other → (s.set id (some r.1)).live other = Option.none := by
    intro other hother
    have hne : other ≠ id := by
      rintro rfl
      rw [h.fresh other hother] at hlive
      cases hlive
    exact (Function.update_of_ne hne ..).trans (h.fresh other hother)
  rcases hcalls with ⟨hsame, hcalls⟩ | ⟨timer, state, state', hbefore, hafter, hcalls⟩
  · refine ⟨k, hcalls, ?_, hvalids, hfresh⟩
    rw [Objects.set, owned_update, Option.bind_some, hsame, ← owned_live hlive,
      Function.update_eq_self]
    exact h.holds
  · refine ⟨_, hcalls, ?_, hvalids, hfresh⟩
    rw [Objects.set, owned_update, Option.bind_some, hafter]
    exact h.holds.change ((owned_live hlive).trans hbefore) state'

/-- A counter is made at the next number. -/
theorem Mirrors.created (h : Mirrors s k) {k' : Driver} (hvalid : c.Valid)
    (hholds : Holds k' (Function.update s.owned s.next c.owned)) :
    Mirrors { s.set s.next (some c) with next := s.next + 1 } k' := by
  refine ⟨?_, fun other d hd => ?_, fun other hother => ?_⟩
  · rw [Objects.set, owned_update, Option.bind_some]
    exact hholds
  · have hfound : Function.update s.live s.next (some c) other = some d := hd
    by_cases heq : other = s.next
    · rw [heq, Function.update_self] at hfound
      rw [← Option.some.inj hfound]
      exact hvalid
    · rw [Function.update_of_ne heq] at hfound
      exact h.valid other d hfound
  · have hlater : s.next + 1 ≤ other := hother
    exact (Function.update_of_ne (Nat.ne_of_gt hlater) ..).trans
      (h.fresh other (Nat.le_of_succ_le hlater))

/-- A counter ends. -/
theorem Mirrors.ended (h : Mirrors s k) {k' : Driver}
    (hholds : Holds k' (Function.update s.owned id Option.none)) :
    Mirrors (s.set id Option.none) k' := by
  refine ⟨?_, fun other d hd => ?_, fun other hother => ?_⟩
  · rw [Objects.set, owned_update, Option.bind_none]
    exact hholds
  · have hfound : Function.update s.live id Option.none other = some d := hd
    by_cases heq : other = id
    · rw [heq, Function.update_self] at hfound
      cases hfound
    · rw [Function.update_of_ne heq] at hfound
      exact h.valid other d hfound
  · by_cases heq : other = id
    · subst heq
      exact Function.update_self ..
    · exact (Function.update_of_ne heq ..).trans (h.fresh other hother)

/-- **One operation.** -/
theorem Mirrors.step (h : Mirrors s k) (op : Op) (hgranted : Granted s op) :
    ∃ k', accepts accept k (step s op).2 = some k' ∧ Mirrors (step s op).1 k' := by
  cases op with
  | create requestedResolutionHz n =>
      obtain ⟨hnew, hdelete⟩ := hgranted
      have hfree : n.newTimer = .ok → k n.timer = Option.none := by
        refine fun hmade => h.holds.free fun id state howned => ?_
        obtain ⟨c, hc, howns⟩ := Option.bind_eq_some_iff.mp howned
        obtain ⟨found, hfound, hpair⟩ := Option.map_eq_some_iff.mp howns
        obtain ⟨rfl, -⟩ := Prod.mk.inj hpair
        exact hnew hmade id c hc hfound
      have hnext : s.owned s.next = Option.none := by
        rw [Objects.owned, h.fresh _ (Nat.le_refl _), Option.bind_none]
      have hspec := construct_spec requestedResolutionHz n hfree hdelete
      simp only [Counters.step]
      generalize HighResolutionCounter.construct requestedResolutionHz n = r at hspec
      obtain ⟨hvalid, ⟨hnone, hcalls⟩ | ⟨timer, state, howned, hfree, hcalls⟩⟩ := hspec
      · refine ⟨k, hcalls, h.created hvalid ?_⟩
        rw [hnone, ← hnext, Function.update_eq_self]
        exact h.holds
      · refine ⟨_, hcalls, h.created hvalid ?_⟩
        rw [howned]
        exact h.holds.gain hfree hnext state
  | start id answer =>
      cases hlive : s.live id with
      | none => exact ⟨k, by simp [Counters.step, hlive], by simpa [Counters.step, hlive] using h⟩
      | some c =>
          simp only [Counters.step, hlive]
          exact h.moves hlive (start_moves (h.valid id c hlive) (h.held hlive) answer)
  | stop id answer =>
      cases hlive : s.live id with
      | none => exact ⟨k, by simp [Counters.step, hlive], by simpa [Counters.step, hlive] using h⟩
      | some c =>
          simp only [Counters.step, hlive]
          exact h.moves hlive (stop_moves (h.valid id c hlive) (h.held hlive) answer)
  | reset id answer =>
      cases hlive : s.live id with
      | none => exact ⟨k, by simp [Counters.step, hlive], by simpa [Counters.step, hlive] using h⟩
      | some c =>
          simp only [Counters.step, hlive]
          exact ⟨k, reset_accepted (h.held hlive) answer, h⟩
  | read id answer native =>
      cases hlive : s.live id with
      | none => exact ⟨k, by simp [Counters.step, hlive], by simpa [Counters.step, hlive] using h⟩
      | some c =>
          simp only [Counters.step, hlive]
          exact ⟨k, read_accepted (h.held hlive) answer native, h⟩
  | destroy id n =>
      obtain ⟨hstop, hdisable, hdelete⟩ := hgranted
      cases hlive : s.live id with
      | none => exact ⟨k, by simp [Counters.step, hlive], by simpa [Counters.step, hlive] using h⟩
      | some c =>
          simp only [Counters.step, hlive]
          cases htimer : c.timer with
          | none =>
              refine ⟨k, by simp [HighResolutionCounter.destruct, htimer], h.ended ?_⟩
              have hnone : s.owned id = Option.none := by
                rw [owned_live hlive, HighResolutionCounter.owned, htimer, Option.map_none]
              rw [← hnone, Function.update_eq_self]
              exact h.holds
          | some timer =>
              have howned := owned_of_timer htimer
              exact ⟨_, destruct_accepted (h.valid id c hlive) htimer
                (h.held hlive _ _ howned) hstop hdisable hdelete,
                h.ended (h.holds.lose ((owned_live hlive).trans howned))⟩

/-- **Timers in order.**  In every run of operations on any number of counters,
whatever the driver answers to the making, enabling, starting, stopping,
resetting and reading of a timer, all calls are accepted: each is made on a
timer that is there and in the state that allows it, and each timer is deleted
once.  The driver then holds the timers of the live counters and no others, each
in the state its counter's flags say. -/
theorem timers_in_order (ops : List Op) (h : Along step Granted Objects.none ops) :
    ∃ k, accepts accept (fun _ => Option.none) (feed step Objects.none ops).2 = some k ∧
      Mirrors (feed step Objects.none ops).1 k := by
  refine accepts_along (fun s k op hop h => h.step op hop) ⟨?_, ?_, ?_⟩ h
  · exact holds_none
  · intro id c hc
    cases hc
  · exact fun _ _ => rfl

/-- A counter that is started and ends, and one that could not be enabled. -/
def sampleOps : List Op :=
  [.create 1000000 ⟨.ok, 0, .ok, .ok⟩, .start 0 .ok, .create 1000000 ⟨.ok, 1, .noMem, .ok⟩,
    .start 1 .ok, .destroy 0 ⟨.ok, .ok, .ok⟩]

theorem sampleOps_in_order :
    ∃ k, accepts accept (fun _ => Option.none) (feed step Objects.none sampleOps).2 = some k ∧
      Mirrors (feed step Objects.none sampleOps).1 k := by
  refine timers_in_order sampleOps
    ⟨⟨?_, rfl⟩, trivial, ⟨?_, rfl⟩, trivial, ⟨rfl, rfl, rfl⟩, trivial⟩
  · intro _ id c hc
    cases hc
  · intro _ id c hc
    by_cases heq : id = 0
    · subst heq
      cases hc
      simp [HighResolutionCounter.start]
    · simp [step, Objects.set, Objects.none, heq] at hc

end Counters
