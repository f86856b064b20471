import Espressio.PlatformResult
import Mathlib.Tactic.Common
import Mathlib.Order.Basic

/-!
# Milliseconds into ticks

`MessageQueue`, `BinarySignal` and `ExecutionProvider` take timeouts in
milliseconds and give them to the kernel in ticks.  Each has its own copy of
the conversion: `pdMS_TO_TICKS`, and one tick where that leaves none.

`pdMS_TO_TICKS` multiplies in the 32 bits of `TickType_t` before it divides.
The result is the exact one as long as the product fits, and never otherwise
(`converts_iff`): at 1000 Hz a timeout of 71 minutes and 35 seconds becomes one
tick.

`waitForever` is the core's constant, `rate` is `configTICK_RATE_HZ`.
-/

namespace TickConversion

open PlatformResults (PlatformStatus)

def portMaxDelay : UInt32 := 0xFFFFFFFF

def pdMsToTicks (rate milliseconds : UInt32) : UInt32 := milliseconds * rate / 1000

/-- The lines all copies of the conversion share. -/
def ticksOf (rate milliseconds : UInt32) : UInt32 :=
  let ticks := pdMsToTicks rate milliseconds
  if milliseconds ≠ 0 ∧ ticks = 0 then 1 else ticks

/-! ## The four waits

Each answers with its status and the ticks it has given to the kernel, whose
answer is a function of them. -/

/-- `MessageQueue::Ticks`. -/
def queueTicks (rate waitForever timeout : UInt32) : UInt32 :=
  if timeout = waitForever then portMaxDelay else ticksOf rate timeout

/-- What `Send` and `Receive` of a queue share. -/
def transfer (created given : Bool) (rate waitForever timeout : UInt32)
    (native : UInt32 → Bool) : PlatformStatus × Option UInt32 :=
  if created = false ∨ given = false then (.invalidArgument, none)
  else
    let ticks := queueTicks rate waitForever timeout
    (if native ticks then .success else if timeout = 0 then .busy else .timeout, some ticks)

/-- `MessageQueue::Send`. -/
def send (created itemGiven : Bool) (rate waitForever timeout : UInt32)
    (xQueueSend : UInt32 → Bool) : PlatformStatus × Option UInt32 :=
  transfer created itemGiven rate waitForever timeout xQueueSend

/-- `MessageQueue::Receive`. -/
def receive (created itemGiven : Bool) (rate waitForever timeout : UInt32)
    (xQueueReceive : UInt32 → Bool) : PlatformStatus × Option UInt32 :=
  transfer created itemGiven rate waitForever timeout xQueueReceive

/-- `BinarySignal::Wait`. -/
def waitSignal (created : Bool) (rate waitForever timeout : UInt32)
    (xSemaphoreTake : UInt32 → Bool) : PlatformStatus × Option UInt32 :=
  if created = false then (.unavailable, none)
  else
    let ticks := if timeout ≠ waitForever then ticksOf rate timeout else portMaxDelay
    (if xSemaphoreTake ticks then .success else .timeout, some ticks)

/-- `ExecutionProvider::SleepMilliseconds`: what `vTaskDelay` is given. -/
def sleepMilliseconds (rate milliseconds : UInt32) : UInt32 := ticksOf rate milliseconds

/-- A wait that gets as far as the kernel, with the kernel's answer. -/
inductive Wait
  | send (xQueueSend : UInt32 → Bool)
  | receive (xQueueReceive : UInt32 → Bool)
  | signal (xSemaphoreTake : UInt32 → Bool)
  | sleep

/-- The ticks the kernel is given. -/
def Wait.ticks (rate waitForever timeout : UInt32) : Wait → Option UInt32
  | .send xQueueSend => (TickConversion.send true true rate waitForever timeout xQueueSend).2
  | .receive xQueueReceive =>
      (TickConversion.receive true true rate waitForever timeout xQueueReceive).2
  | .signal xSemaphoreTake => (waitSignal true rate waitForever timeout xSemaphoreTake).2
  | .sleep => some (sleepMilliseconds rate timeout)

variable {rate waitForever timeout : UInt32}

/-- Short of forever, all four give the same ticks. -/
theorem ticks_eq (h : timeout ≠ waitForever) (wait : Wait) :
    wait.ticks rate waitForever timeout = some (ticksOf rate timeout) := by
  cases wait <;> simp [Wait.ticks, send, receive, transfer, queueTicks, waitSignal,
    sleepMilliseconds, h]

/-! ## The conversion, in numbers -/

/-- The exact number of ticks, and one for any part of a first tick. -/
def exactTicks (rate milliseconds : Nat) : Nat :=
  if milliseconds = 0 then 0 else max 1 (milliseconds * rate / 1000)

theorem toNat_ticksOf (rate milliseconds : UInt32) :
    (ticksOf rate milliseconds).toNat =
      if milliseconds.toNat = 0 then 0
      else max 1 (milliseconds.toNat * rate.toNat % 4294967296 / 1000) := by
  have hticks : (pdMsToTicks rate milliseconds).toNat =
      milliseconds.toNat * rate.toNat % 4294967296 / 1000 := by
    rw [pdMsToTicks, UInt32.toNat_div, UInt32.toNat_mul]
    rfl
  have hzero : ∀ x : UInt32, x = 0 ↔ x.toNat = 0 := fun x => by
    rw [← UInt32.toNat_inj, UInt32.toNat_zero]
  unfold ticksOf
  dsimp only
  by_cases hnone : milliseconds.toNat = 0
  · rw [if_pos hnone, if_neg fun h => h.1 ((hzero _).mpr hnone), hticks, hnone, Nat.zero_mul]
  · rw [if_neg hnone, ← hticks]
    by_cases hless : pdMsToTicks rate milliseconds = 0
    · rw [if_pos ⟨fun h => hnone ((hzero _).mp h), hless⟩, hless]
      rfl
    · have hsome : (pdMsToTicks rate milliseconds).toNat ≠ 0 := fun h => hless ((hzero _).mpr h)
      rw [if_neg fun h => hless h.2]
      omega

/-- A product that does not fit never gives the exact ticks. -/
theorem ticksOf_exact_iff (rate milliseconds : UInt32) :
    (ticksOf rate milliseconds).toNat = exactTicks rate.toNat milliseconds.toNat ↔
      milliseconds.toNat * rate.toNat < 4294967296 := by
  rw [toNat_ticksOf, exactTicks]
  by_cases hnone : milliseconds.toNat = 0
  · rw [if_pos hnone, if_pos hnone, hnone]
    simp
  · rw [if_neg hnone, if_neg hnone]
    generalize milliseconds.toNat * rate.toNat = product
    omega

theorem ticksOf_ne_forever (rate milliseconds : UInt32) :
    ticksOf rate milliseconds ≠ portMaxDelay := by
  intro h
  have hvalue := toNat_ticksOf rate milliseconds
  have hforever : portMaxDelay.toNat = 4294967295 := by decide
  rw [h, hforever] at hvalue
  split at hvalue <;> omega

theorem exactTicks_mono (rate : Nat) {shorter longer : Nat} (h : shorter ≤ longer) :
    exactTicks rate shorter ≤ exactTicks rate longer := by
  have hproduct : shorter * rate ≤ longer * rate := Nat.mul_le_mul_right rate h
  unfold exactTicks
  split
  · exact Nat.zero_le _
  · rw [if_neg (by omega)]
    omega

/-! ## Timeouts -/

/-- Each wait gives the kernel the exact ticks, never `portMAX_DELAY`, and no
shorter timeout gives it more. -/
def Converts (rate waitForever timeout : UInt32) : Prop :=
  ∀ wait : Wait, ∃ ticks, wait.ticks rate waitForever timeout = some ticks ∧
    ticks.toNat = exactTicks rate.toNat timeout.toNat ∧ ticks ≠ portMaxDelay ∧
      ∀ shorter ≤ timeout, shorter ≠ waitForever →
        ∀ fewer, wait.ticks rate waitForever shorter = some fewer → fewer ≤ ticks

/-- **The conversion of timeouts**, at any tick rate, is right exactly if the
product of the timeout and the rate fits 32 bits. -/
theorem converts_iff (hbounded : timeout ≠ waitForever) :
    Converts rate waitForever timeout ↔ timeout.toNat * rate.toNat < 4294967296 := by
  constructor
  · intro h
    obtain ⟨ticks, hticks, hexact, -⟩ := h .sleep
    obtain rfl := Option.some.inj ((ticks_eq hbounded .sleep).symm.trans hticks)
    exact (ticksOf_exact_iff _ _).mp hexact
  · intro hfits wait
    have hexact := (ticksOf_exact_iff _ _).mpr hfits
    refine ⟨_, ticks_eq hbounded wait, hexact, ticksOf_ne_forever rate timeout, ?_⟩
    intro shorter hshorter hnot fewer hfewer
    obtain rfl := Option.some.inj ((ticks_eq hnot wait).symm.trans hfewer)
    have hless : shorter.toNat ≤ timeout.toNat := UInt32.le_iff_toNat_le.mp hshorter
    have hproduct := Nat.mul_le_mul_right rate.toNat hless
    rw [UInt32.le_iff_toNat_le, hexact, (ticksOf_exact_iff _ _).mpr (by omega)]
    exact exactTicks_mono rate.toNat hless

theorem converts_ten_seconds : Converts 1000 0xFFFFFFFF 10000 ↔
    (10000 : UInt32).toNat * (1000 : UInt32).toNat < 4294967296 :=
  converts_iff (by decide)

/-- The first millisecond that does not fit at 1000 Hz. -/
theorem long_timeout_becomes_short : ¬ ∀ rate waitForever timeout : UInt32,
    1 ≤ rate ∧ rate ≤ 1000 → timeout ≠ waitForever → Converts rate waitForever timeout := by
  intro h
  obtain ⟨ticks, hticks, hexact, -⟩ := h 1000 0xFFFFFFFF 4294968 (by decide) (by decide) .sleep
  obtain rfl : 1 = ticks := Option.some.inj hticks
  revert hexact
  decide

end TickConversion
