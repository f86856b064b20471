import Espressio.IDFGPIOProvider

/-!
# The GPIO controller on Arduino

`ArduinoGPIOController` gives out interrupt handles over `attachInterruptArg`,
which keeps one handler a pin and replaces the one that is there.  The pin is
cut to a byte on the way.  An interrupt that is enabled is destroyed together
with what is attached to its pin, whosever that is.

So no handler is ever attached that is not a live, enabled interrupt of its pin,
and an edge calls nothing else (`edges_call_enabled`).  The other way round an
enabled interrupt stays attached exactly as long as no other one uses its pin
(`enabled_attached_iff`).

Operations and edges are atomic.  Whether the core attaches a handler to a pin,
which it does not if the chip has no such pin, comes with the operation.
`Build` says which of the modes the core's headers define.
-/

namespace ArduinoGPIOController

open PlatformResults Runs
open IDFGPIO (Pin InterruptTrigger Direction Pull PinConfiguration ProcessorAffinity
  InterruptConfiguration)

/-- The macros of the core that need not be there. -/
structure Build where
  inputPulldown : Bool
  outputOpenDrain : Bool
  onLow : Bool
  onHigh : Bool
  deriving DecidableEq, Repr

inductive PinMode
  | input
  | inputPullup
  | inputPulldown
  | output
  | outputOpenDrain
  deriving DecidableEq, Repr

inductive InterruptMode
  | rising
  | falling
  | change
  | onLow
  | onHigh
  deriving DecidableEq, Repr

/-- `static_cast<uint8_t>`. -/
def pinByte (pin : Pin) : Nat := pin % 256

def resolvePinMode (b : Build) (c : PinConfiguration) : Except PlatformResult PinMode :=
  match c.direction with
  | .input =>
      match c.pull with
      | .none => .ok .input
      | .up => .ok .inputPullup
      | .down =>
          if b.inputPulldown then .ok .inputPulldown else .error (.failed .unsupported none)
      | .upDown => .error (.failed .unsupported none)
  | .output => .ok .output
  | .openDrain =>
      if b.outputOpenDrain then .ok .outputOpenDrain else .error (.failed .unsupported none)

def resolveInterruptMode (b : Build) : InterruptTrigger → Except PlatformResult InterruptMode
  | .risingEdge => .ok .rising
  | .fallingEdge => .ok .falling
  | .anyEdge => .ok .change
  | .lowLevel => if b.onLow then .ok .onLow else .error (.failed .unsupported none)
  | .highLevel => if b.onHigh then .ok .onHigh else .error (.failed .unsupported none)

/-- A function and its context, by their addresses. -/
structure Callback where
  function : Nat
  context : Nat
  deriving DecidableEq, Repr

/-- `Interrupt`; its function may be null. -/
structure Interrupt where
  pin : Pin
  callback : Option Callback
  mode : InterruptMode
  enabled : Bool
  deriving DecidableEq, Repr

/-- What the core and the application see of an operation. -/
inductive Effect
  | pinMode (pin : Nat) (mode : PinMode)
  | digitalWrite (pin : Nat) (high : Bool)
  | attachInterruptArg (pin id : Nat) (mode : InterruptMode)
  | detachInterrupt (pin : Nat)
  | call (id : Nat) (callback : Callback)
  deriving DecidableEq, Repr

/-- The handlers of the core, by pin, and the interrupts that live. -/
structure Controller where
  attached : Nat → Option Nat
  interrupts : Nat → Option Interrupt
  next : Nat

def Controller.fresh : Controller := ⟨fun _ => none, fun _ => none, 0⟩

def Controller.attach (s : Controller) (pin : Nat) (id : Nat) (taken : Bool) : Controller :=
  if taken then { s with attached := Function.update s.attached pin (some id) } else s

def Controller.detach (s : Controller) (pin : Nat) : Controller :=
  { s with attached := Function.update s.attached pin none }

def Controller.setInterrupt (s : Controller) (id : Nat) (i : Option Interrupt) : Controller :=
  { s with interrupts := Function.update s.interrupts id i }

/-- `Interrupt::Enable`. -/
def Controller.enable (s : Controller) (id : Nat) (i : Interrupt) (taken : Bool) :
    Controller × PlatformResult × List Effect :=
  match i.callback with
  | none => (s, .failed .invalidArgument none, [])
  | some _ =>
      ((s.attach (pinByte i.pin) id taken).setInterrupt id (some { i with enabled := true }),
        .succeeded, [.attachInterruptArg (pinByte i.pin) id i.mode])

/-- `Interrupt::Disable`. -/
def Controller.disable (s : Controller) (id : Nat) (i : Interrupt) :
    Controller × PlatformResult × List Effect :=
  ((s.detach (pinByte i.pin)).setInterrupt id (some { i with enabled := false }), .succeeded,
    [.detachInterrupt (pinByte i.pin)])

/-- `Interrupt::~Interrupt`. -/
def Controller.destroy (s : Controller) (id : Nat) (i : Interrupt) : Controller × List Effect :=
  if i.enabled then
    ((s.detach (pinByte i.pin)).setInterrupt id none, [.detachInterrupt (pinByte i.pin)])
  else (s.setInterrupt id none, [])

/-- `CreateInterrupt`.  The interrupt is at the next number, and its owner gets
it unless it could not be enabled. -/
def Controller.createInterrupt (b : Build) (s : Controller) (pin : Pin) (c : InterruptConfiguration)
    (callback : Option Callback) (taken : Bool) : Controller × PlatformResult × List Effect :=
  if callback.isNone then (s, .failed .invalidArgument none, [])
  else if c.affinity ≠ .any then (s, .failed .unsupported none, [])
  else
    match resolveInterruptMode b c.trigger with
    | .error result => (s, result, [])
    | .ok mode =>
        let i : Interrupt := ⟨pin, callback, mode, false⟩
        let made := { s.setInterrupt s.next (some i) with next := s.next + 1 }
        if c.startEnabled then
          let (enabled, result, effects) := made.enable s.next i taken
          if result.ok then (enabled, .succeeded, effects)
          else
            let (gone, more) := enabled.destroy s.next i
            (gone, result, effects ++ more)
        else (made, .succeeded, [])

/-- `Configure`. -/
def configure (b : Build) (pin : Pin) (c : PinConfiguration) : PlatformResult × List Effect :=
  match resolvePinMode b c with
  | .error result => (result, [])
  | .ok mode =>
      (.succeeded, .pinMode (pinByte pin) mode ::
        if c.direction ≠ .input then [.digitalWrite (pinByte pin) c.initialState] else [])

/-- `Write`. -/
def write (pin : Pin) (high : Bool) : PlatformResult × List Effect :=
  (.succeeded, [.digitalWrite (pinByte pin) high])

/-- `Dispatch`, of the interrupt at an address. -/
def Controller.dispatch (s : Controller) (id : Nat) : List Effect :=
  match s.interrupts id with
  | none => []
  | some i =>
      match i.callback with
      | none => []
      | some callback => [.call id callback]

inductive Op
  | createInterrupt (pin : Pin) (c : InterruptConfiguration) (callback : Option Callback)
      (taken : Bool)
  | enable (id : Nat) (taken : Bool)
  | disable (id : Nat)
  | destroy (id : Nat)
  | configure (pin : Pin) (c : PinConfiguration)
  | write (pin : Pin) (high : Bool)
  /-- An interrupt of the pin occurs. -/
  | edge (pin : Nat)
  deriving DecidableEq, Repr

def step (b : Build) (s : Controller) : Op → Controller × List Effect
  | .createInterrupt pin c callback taken =>
      let (s, _, effects) := s.createInterrupt b pin c callback taken
      (s, effects)
  | .enable id taken =>
      match s.interrupts id with
      | none => (s, [])
      | some i =>
          let (s, _, effects) := s.enable id i taken
          (s, effects)
  | .disable id =>
      match s.interrupts id with
      | none => (s, [])
      | some i =>
          let (s, _, effects) := s.disable id i
          (s, effects)
  | .destroy id =>
      match s.interrupts id with
      | none => (s, [])
      | some i => s.destroy id i
  | .configure pin c => (s, (configure b pin c).2)
  | .write pin high => (s, (write pin high).2)
  | .edge pin =>
      match s.attached pin with
      | none => (s, [])
      | some id => (s, s.dispatch id)

/-! ## What an operation does -/

/-- An interrupt is enabled, on a pin. -/
def Controller.EnabledAt (s : Controller) (id pin : Nat) : Prop :=
  ∃ i, s.interrupts id = some i ∧ i.enabled = true ∧ pinByte i.pin = pin

/-- A creation whose interrupt is enabled at once. -/
def Starts (b : Build) (c : InterruptConfiguration) (callback : Option Callback) : Prop :=
  callback.isSome = true ∧ c.affinity = .any ∧ (resolveInterruptMode b c.trigger).isOk = true ∧
    c.startEnabled = true

variable {b : Build} {s : Controller} {id other pin : Nat} {i : Interrupt}

theorem attached_attach (s : Controller) (pin id : Nat) (taken : Bool) (at' : Nat) :
    (s.attach pin id taken).attached at' =
      if taken = true ∧ at' = pin then some id else s.attached at' := by
  cases taken with
  | false => simp [Controller.attach]
  | true => simp [Controller.attach, Function.update_apply]

theorem attached_detach (s : Controller) (pin at' : Nat) :
    (s.detach pin).attached at' = if at' = pin then none else s.attached at' := by
  simp [Controller.detach, Function.update_apply]

theorem enable_fst (s : Controller) (id : Nat) (taken : Bool)
    (hcallback : i.callback.isSome = true) :
    (s.enable id i taken).1 = (s.attach (pinByte i.pin) id taken).setInterrupt id
      (some { i with enabled := true }) := by
  cases h : i.callback with
  | none =>
      rw [h] at hcallback
      cases hcallback
  | some callback => simp only [Controller.enable, h]

/-- **Creation.**  What there is besides, if anything, is the next interrupt: on,
and attached if the core takes it, or off. -/
theorem createInterrupt_cases (s : Controller) (pin : Pin) (c : InterruptConfiguration)
    (callback : Option Callback) (taken : Bool) :
    let r := (s.createInterrupt b pin c callback taken).1
    (Starts b c callback ∧ ∃ i : Interrupt, i.enabled = true ∧ i.pin = pin ∧
        i.callback.isSome = true ∧
        r = { (s.attach (pinByte pin) s.next taken).setInterrupt s.next (some i) with
          next := s.next + 1 }) ∨
      (¬Starts b c callback ∧ (r = s ∨ ∃ i : Interrupt, i.enabled = false ∧
        i.callback.isSome = true ∧
        r = { s.setInterrupt s.next (some i) with next := s.next + 1 })) := by
  cases callback with
  | none =>
      refine Or.inr ⟨fun hstarts => Bool.false_ne_true hstarts.1, Or.inl ?_⟩
      simp [Controller.createInterrupt]
  | some callback =>
      by_cases haffinity : c.affinity = .any
      · cases hmode : resolveInterruptMode b c.trigger with
        | error result =>
            refine Or.inr ⟨fun hstarts => ?_, Or.inl ?_⟩
            · have hok := hstarts.2.2.1
              rw [hmode] at hok
              cases hok
            · simp [Controller.createInterrupt, haffinity, hmode]
        | ok mode =>
            cases hstart : c.startEnabled with
            | false =>
                refine Or.inr ⟨fun hstarts => ?_, Or.inr ⟨⟨pin, some callback, mode, false⟩, rfl,
                  rfl, ?_⟩⟩
                · have hon := hstarts.2.2.2
                  rw [hstart] at hon
                  cases hon
                · simp [Controller.createInterrupt, haffinity, hmode, hstart]
            | true =>
                refine Or.inl ⟨⟨rfl, haffinity, by rw [hmode]; rfl, hstart⟩,
                  ⟨pin, some callback, mode, true⟩, rfl, rfl, rfl, ?_⟩
                cases taken <;> simp [Controller.createInterrupt, haffinity, hmode, hstart,
                  Controller.enable, Controller.attach, Controller.setInterrupt, PlatformResult.ok]
      · refine Or.inr ⟨fun hstarts => haffinity hstarts.2.1, Or.inl ?_⟩
        simp [Controller.createInterrupt, haffinity]

/-! ## The handlers that are attached -/

/-- What is attached to a pin is a live interrupt of it that is enabled. -/
structure Controller.Inv (s : Controller) : Prop where
  attached : ∀ pin id, s.attached pin = some id → s.EnabledAt id pin
  callback : ∀ id i, s.interrupts id = some i → i.callback.isSome = true
  fresh : ∀ id, s.next ≤ id → s.interrupts id = none

theorem inv_fresh : Controller.fresh.Inv :=
  ⟨fun _ _ h => by simp [Controller.fresh] at h, fun _ _ h => by simp [Controller.fresh] at h,
    fun _ _ => rfl⟩

/-- One interrupt is made, changed or ended, and no handler but its own is
attached that was not. -/
theorem Controller.Inv.replace {t : Controller} (h : s.Inv) (id : Nat)
    (after : Option Interrupt)
    (hinterrupts : t.interrupts = Function.update s.interrupts id after)
    (hmine : ∀ pin, t.attached pin = some id →
      ∃ i, after = some i ∧ i.enabled = true ∧ pinByte i.pin = pin)
    (hothers : ∀ pin other, other ≠ id → t.attached pin = some other →
      s.attached pin = some other)
    (hcallback : ∀ i, after = some i → i.callback.isSome = true)
    (hnext : s.next ≤ t.next) (hid : id < t.next) : t.Inv := by
  refine ⟨fun pin other hattached => ?_, fun other i hi => ?_, fun other hother => ?_⟩
  · by_cases heq : other = id
    · subst heq
      obtain ⟨i, rfl, hon, hpin⟩ := hmine pin hattached
      exact ⟨i, by rw [hinterrupts, Function.update_self], hon, hpin⟩
    · obtain ⟨i, hi, hon, hpin⟩ := h.attached pin other (hothers pin other heq hattached)
      exact ⟨i, by rw [hinterrupts, Function.update_of_ne heq, hi], hon, hpin⟩
  · rw [hinterrupts] at hi
    by_cases heq : other = id
    · rw [heq, Function.update_self] at hi
      exact hcallback i hi
    · rw [Function.update_of_ne heq] at hi
      exact h.callback other i hi
  · rw [hinterrupts, Function.update_of_ne (by omega)]
    exact h.fresh other (by omega)

theorem Controller.Inv.lt_next (h : s.Inv) (hlive : s.interrupts id = some i) : id < s.next := by
  by_contra hle
  rw [h.fresh id (Nat.not_lt.mp hle)] at hlive
  cases hlive

/-- An interrupt that is not there, or is off, is attached nowhere. -/
theorem Controller.Inv.not_attached (h : s.Inv)
    (hoff : ∀ i, s.interrupts id = some i → i.enabled = false) (pin : Nat) :
    s.attached pin ≠ some id := by
  intro hattached
  obtain ⟨i, hi, hon, -⟩ := h.attached pin id hattached
  rw [hoff i hi] at hon
  cases hon

/-- An interrupt is made or enabled, and attached if the core takes it. -/
theorem Controller.Inv.attach {t : Controller} (h : s.Inv) (id : Nat) (after : Interrupt)
    (taken : Bool) (hinterrupts : t.interrupts = Function.update s.interrupts id (some after))
    (hattach : t.attached = (s.attach (pinByte after.pin) id taken).attached)
    (hold : ∀ i, s.interrupts id = some i → i.pin = after.pin)
    (hon : after.enabled = true) (hcallback : after.callback.isSome = true)
    (hnext : s.next ≤ t.next) (hid : id < t.next) : t.Inv := by
  refine h.replace id (some after) hinterrupts ?_ ?_ ?_ hnext hid
  · intro pin hattached
    rw [hattach, attached_attach] at hattached
    split at hattached
    · rename_i htaken
      exact ⟨after, rfl, hon, htaken.2.symm⟩
    · obtain ⟨i, hi, -, hpin⟩ := h.attached pin id hattached
      exact ⟨after, rfl, hon, by rw [← hold i hi, hpin]⟩
  · intro pin other hne hattached
    rw [hattach, attached_attach] at hattached
    split at hattached
    · exact absurd (Option.some.inj hattached).symm hne
    · exact hattached
  · intro i hi
    obtain rfl := Option.some.inj hi
    exact hcallback

/-- An interrupt is disabled or ended, and what is attached to its pin with it. -/
theorem Controller.Inv.detach (h : s.Inv) (hlive : s.interrupts id = some i)
    {after : Option Interrupt} (hcallback : ∀ j, after = some j → j.callback.isSome = true) :
    ((s.detach (pinByte i.pin)).setInterrupt id after).Inv := by
  have hwhere : ∀ pin other, (s.detach (pinByte i.pin)).attached pin = some other →
      pin ≠ pinByte i.pin ∧ s.attached pin = some other := by
    intro pin other hattached
    rw [attached_detach] at hattached
    split at hattached
    · cases hattached
    · exact ⟨‹_›, hattached⟩
  refine h.replace id after rfl ?_ ?_ hcallback (Nat.le_refl _) (h.lt_next hlive)
  · intro pin hattached
    obtain ⟨hne, hold⟩ := hwhere pin id hattached
    obtain ⟨j, hj, -, hpin⟩ := h.attached pin id hold
    obtain rfl := Option.some.inj (hlive.symm.trans hj)
    exact absurd hpin.symm hne
  · intro pin other _ hattached
    exact (hwhere pin other hattached).2

/-- **One operation** keeps it. -/
theorem Controller.Inv.step (h : s.Inv) (op : Op) : (step b s op).1.Inv := by
  cases op with
  | createInterrupt pin c callback taken =>
      have hnone : s.interrupts s.next = none := h.fresh _ (Nat.le_refl _)
      rcases createInterrupt_cases (b := b) s pin c callback taken with
        ⟨-, i, hon, rfl, hcallback, hr⟩ | ⟨-, hr | ⟨i, hoff, hcallback, hr⟩⟩
      · simp only [ArduinoGPIOController.step]
        rw [hr]
        refine h.attach s.next i taken ?_ rfl (fun j hj => ?_) hon hcallback (Nat.le_succ _)
          (Nat.lt_succ_self _)
        · cases taken <;> rfl
        rw [hnone] at hj
        cases hj
      · simp only [ArduinoGPIOController.step]
        rw [hr]
        exact h
      · simp only [ArduinoGPIOController.step]
        rw [hr]
        have hunattached := h.not_attached fun j hj => by rw [hnone] at hj; cases hj
        refine h.replace s.next (some i) rfl
          (fun pin hattached => absurd hattached (hunattached pin))
          (fun pin other _ hattached => hattached) ?_ (Nat.le_succ _) (Nat.lt_succ_self _)
        intro j hj
        obtain rfl := Option.some.inj hj
        exact hcallback
  | enable id taken =>
      simp only [ArduinoGPIOController.step]
      cases hlive : s.interrupts id with
      | none => exact h
      | some i =>
          dsimp only
          rw [enable_fst s id taken (h.callback id i hlive)]
          refine h.attach id { i with enabled := true } taken ?_ rfl (fun j hj => ?_) rfl
            (h.callback id i hlive) ?_ ?_
          · cases taken <;> rfl
          · rw [Option.some.inj (hj.symm.trans hlive)]
          · cases taken <;> exact Nat.le_refl _
          · cases taken <;> exact h.lt_next hlive
  | disable id =>
      simp only [ArduinoGPIOController.step]
      cases hlive : s.interrupts id with
      | none => exact h
      | some i =>
          refine h.detach hlive fun j hj => ?_
          obtain rfl := Option.some.inj hj
          exact h.callback id i hlive
  | destroy id =>
      simp only [ArduinoGPIOController.step]
      cases hlive : s.interrupts id with
      | none => exact h
      | some i =>
          simp only [Controller.destroy]
          split
          · exact h.detach hlive fun j hj => by cases hj
          · rename_i hoff
            have hunattached := h.not_attached fun j hj => by
              rw [Option.some.inj (hj.symm.trans hlive)]
              exact Bool.eq_false_iff.mpr hoff
            exact h.replace id none rfl
              (fun pin hattached => absurd hattached (hunattached pin))
              (fun pin other _ hattached => hattached) (fun j hj => by cases hj) (Nat.le_refl _)
              (h.lt_next hlive)
  | configure pin c => exact h
  | write pin high => exact h
  | edge pin =>
      simp only [ArduinoGPIOController.step]
      split <;> exact h

/-- The calls into the application that an operation makes: an edge makes that
of the interrupt attached to its pin. -/
theorem call_mem_step (h : s.Inv) {op : Op} {callback : Callback}
    (hcall : Effect.call id callback ∈ (step b s op).2) :
    ∃ pin i, op = .edge pin ∧ s.attached pin = some id ∧ s.interrupts id = some i ∧
      i.enabled = true ∧ pinByte i.pin = pin ∧ i.callback = some callback := by
  cases op with
  | edge pin =>
      simp only [ArduinoGPIOController.step] at hcall
      split at hcall
      · cases hcall
      · rename_i found hattached
        obtain ⟨i, hi, hon, hpin⟩ := h.attached pin found hattached
        simp only [Controller.dispatch, hi] at hcall
        split at hcall
        · cases hcall
        · rename_i function hfunction
          obtain ⟨rfl, rfl⟩ := Effect.call.inj (List.mem_singleton.mp hcall)
          exact ⟨pin, i, rfl, hattached, hi, hon, hpin, hfunction⟩
  | createInterrupt pin c callback taken =>
      simp only [ArduinoGPIOController.step] at hcall
      cases callback with
      | none => simp [Controller.createInterrupt] at hcall
      | some callback =>
          by_cases haffinity : c.affinity = .any
          · cases hmode : resolveInterruptMode b c.trigger with
            | error result => simp [Controller.createInterrupt, haffinity, hmode] at hcall
            | ok mode =>
                cases hstart : c.startEnabled with
                | false =>
                    simp [Controller.createInterrupt, haffinity, hmode, hstart] at hcall
                | true =>
                    simp [Controller.createInterrupt, haffinity, hmode, hstart, Controller.enable,
                      PlatformResult.ok] at hcall
          · simp [Controller.createInterrupt, haffinity] at hcall
  | enable id taken =>
      simp only [ArduinoGPIOController.step] at hcall
      split at hcall
      · cases hcall
      · simp only [Controller.enable] at hcall
        split at hcall <;> simp at hcall
  | disable id =>
      simp only [ArduinoGPIOController.step] at hcall
      split at hcall <;> simp [Controller.disable] at hcall
  | destroy id =>
      simp only [ArduinoGPIOController.step] at hcall
      split at hcall
      · cases hcall
      · simp only [Controller.destroy] at hcall
        split at hcall <;> simp at hcall
  | configure pin c =>
      simp only [ArduinoGPIOController.step, configure] at hcall
      split at hcall
      · cases hcall
      · simp only [ne_eq, ite_not, List.mem_cons, reduceCtorEq, false_or] at hcall
        split at hcall <;> simp at hcall
  | write pin high => simp [ArduinoGPIOController.step, ArduinoGPIOController.write] at hcall

/-- **Handlers.**  In every run of operations on any number of interrupts, what
is attached to a pin is, after every step, a live interrupt of that pin that is
enabled, and nothing else is ever called: no interrupt after its end or after
it was disabled. -/
theorem edges_call_enabled (b : Build) (ops : List Op) :
    let run := trace (step b) Controller.fresh ops
    ∀ x ∈ run,
      (∀ pin id, (step b x.1 x.2).1.attached pin = some id →
        (step b x.1 x.2).1.EnabledAt id pin) ∧
      ∀ id callback, Effect.call id callback ∈ (step b x.1 x.2).2 →
        ∃ pin i, x.2 = .edge pin ∧ x.1.interrupts id = some i ∧ i.enabled = true ∧
          pinByte i.pin = pin ∧ i.callback = some callback := by
  intro run x hx
  have hinv : x.1.Inv := trace_invariant (fun s op h => h.step op) inv_fresh ops x hx
  refine ⟨(hinv.step x.2).attached, fun id callback hcall => ?_⟩
  obtain ⟨pin, i, hop, -, hi, hon, hpin, hcallback⟩ := call_mem_step hinv hcall
  exact ⟨pin, i, hop, hi, hon, hpin, hcallback⟩

/-! ## The interrupts that are enabled -/

/-- Every enabled interrupt is attached to its pin. -/
def Controller.Served (s : Controller) : Prop :=
  ∀ id pin, s.EnabledAt id pin → s.attached pin = some id

/-- The operation enables or disables no interrupt on a pin where another one is
enabled, and the core takes what it is given. -/
def Undisturbed (b : Build) (s : Controller) : Op → Prop
  | .createInterrupt pin c callback taken =>
      Starts b c callback → taken = true ∧ ∀ other, ¬s.EnabledAt other (pinByte pin)
  | .enable id taken =>
      ∀ i, s.interrupts id = some i →
        (taken = true ∨ s.attached (pinByte i.pin) = some id) ∧
          ∀ other, s.EnabledAt other (pinByte i.pin) → other = id
  | .disable id =>
      ∀ i, s.interrupts id = some i → ∀ other, s.EnabledAt other (pinByte i.pin) → other = id
  | _ => True

/-- An interrupt is enabled on a pin: all are attached then exactly if it is, and
no other is enabled there. -/
theorem served_attach_iff (t : Controller) (id : Nat) (after : Interrupt) (taken : Bool)
    (hs : s.Served)
    (hinterrupts : t.interrupts = Function.update s.interrupts id (some after))
    (hattach : t.attached = (s.attach (pinByte after.pin) id taken).attached)
    (hold : ∀ i, s.interrupts id = some i → i.pin = after.pin) (hon : after.enabled = true) :
    t.Served ↔ (taken = true ∨ s.attached (pinByte after.pin) = some id) ∧
      ∀ other, s.EnabledAt other (pinByte after.pin) → other = id := by
  have henabled : ∀ other pin, t.EnabledAt other pin ↔
      if other = id then pinByte after.pin = pin else s.EnabledAt other pin := by
    intro other pin
    by_cases heq : other = id
    · subst heq
      simp [Controller.EnabledAt, hinterrupts, hon]
    · simp [Controller.EnabledAt, hinterrupts, heq]
  have hattached : ∀ pin, t.attached pin =
      if taken = true ∧ pin = pinByte after.pin then some id else s.attached pin := by
    intro pin
    rw [hattach, attached_attach]
  constructor
  · intro hserved
    have hown := hserved id (pinByte after.pin) ((henabled _ _).mpr (by rw [if_pos rfl]))
    rw [hattached] at hown
    refine ⟨?_, fun other hother => ?_⟩
    · cases taken with
      | true => exact Or.inl rfl
      | false => exact Or.inr (by simpa using hown)
    · by_contra hne
      have htheirs := hserved other (pinByte after.pin) ((henabled _ _).mpr (by rwa [if_neg hne]))
      rw [hattached, hown] at htheirs
      exact hne (Option.some.inj htheirs).symm
  · rintro ⟨htaken, halone⟩ other pin hother
    rw [henabled] at hother
    rw [hattached]
    by_cases heq : other = id
    · subst heq
      rw [if_pos rfl] at hother
      subst hother
      rcases htaken with rfl | hold
      · rw [if_pos ⟨rfl, rfl⟩]
      · split
        · rfl
        · exact hold
    · rw [if_neg heq] at hother
      rw [if_neg, hs other pin hother]
      rintro ⟨-, rfl⟩
      exact heq (halone other hother)

/-- An interrupt is disabled or ended, and its pin detached. -/
theorem served_detach_iff (t : Controller) (id pin : Nat) (after : Option Interrupt)
    (hs : s.Served)
    (hinterrupts : t.interrupts = Function.update s.interrupts id after)
    (hoff : ∀ i, after = some i → i.enabled = false)
    (hdetach : t.attached = (s.detach pin).attached) :
    t.Served ↔ ∀ other, s.EnabledAt other pin → other = id := by
  have henabled : ∀ other pin, t.EnabledAt other pin ↔ other ≠ id ∧ s.EnabledAt other pin := by
    intro other pin
    by_cases heq : other = id
    · subst heq
      refine iff_of_false ?_ fun h => h.1 rfl
      rintro ⟨i, hi, hon, -⟩
      rw [hinterrupts, Function.update_self] at hi
      rw [hoff i hi] at hon
      cases hon
    · simp [Controller.EnabledAt, hinterrupts, heq]
  have hattached : ∀ at', t.attached at' = if at' = pin then none else s.attached at' := by
    intro at'
    rw [hdetach, attached_detach]
  constructor
  · intro hserved other hother
    by_contra hne
    have htheirs := hserved other pin ((henabled other pin).mpr ⟨hne, hother⟩)
    rw [hattached, if_pos rfl] at htheirs
    cases htheirs
  · intro halone other at' hother
    obtain ⟨hne, hold⟩ := (henabled other at').mp hother
    rw [hattached, if_neg, hs other at' hold]
    rintro rfl
    exact hne (halone other hold)

theorem served_createInterrupt_iff (pin : Pin) (c : InterruptConfiguration)
    (callback : Option Callback) (taken : Bool) (h : s.Inv) (hs : s.Served) :
    (step b s (.createInterrupt pin c callback taken)).1.Served ↔
      Undisturbed b s (.createInterrupt pin c callback taken) := by
  have hnone : s.interrupts s.next = none := h.fresh _ (Nat.le_refl _)
  have hunattached := h.not_attached fun j hj => by rw [hnone] at hj; cases hj
  have hnew : ∀ other at', s.EnabledAt other at' → other ≠ s.next := by
    rintro other at' ⟨j, hj, -⟩ rfl
    rw [hnone] at hj
    cases hj
  simp only [ArduinoGPIOController.step, Undisturbed]
  rcases createInterrupt_cases (b := b) s pin c callback taken with
    ⟨hstarts, i, hon, rfl, -, hr⟩ | ⟨hstarts, hr | ⟨i, hoff, -, hr⟩⟩
  · rw [hr]
    refine (served_attach_iff _ s.next i taken hs ?_ ?_ ?_ hon).trans ⟨?_, ?_⟩
    · cases taken <;> rfl
    · rfl
    · intro j hj
      rw [hnone] at hj
      cases hj
    · rintro ⟨htaken, halone⟩ -
      exact ⟨htaken.resolve_right (hunattached _),
        fun other hother => hnew other _ hother (halone other hother)⟩
    · intro hallowed
      obtain ⟨htaken, hnobody⟩ := hallowed hstarts
      exact ⟨Or.inl htaken, fun other hother => absurd hother (hnobody other)⟩
  · rw [hr]
    exact iff_of_true hs fun hstart => absurd hstart hstarts
  · rw [hr]
    refine iff_of_true ?_ fun hstart => absurd hstart hstarts
    rintro other at' ⟨j, hj, hjon, hjpin⟩
    by_cases heq : other = s.next
    · subst heq
      have hj' : Function.update s.interrupts s.next (some i) s.next = some j := hj
      rw [Function.update_self] at hj'
      rw [Option.some.inj hj', hjon] at hoff
      cases hoff
    · have hj' : Function.update s.interrupts s.next (some i) other = some j := hj
      rw [Function.update_of_ne heq] at hj'
      exact hs other at' ⟨j, hj', hjon, hjpin⟩

theorem served_enable_iff (id : Nat) (taken : Bool) (h : s.Inv) (hs : s.Served) :
    (step b s (.enable id taken)).1.Served ↔ Undisturbed b s (.enable id taken) := by
  simp only [ArduinoGPIOController.step, Undisturbed]
  cases hlive : s.interrupts id with
  | none => exact iff_of_true hs fun i hi => by cases hi
  | some i =>
      dsimp only
      rw [enable_fst s id taken (h.callback id i hlive)]
      refine (served_attach_iff _ id { i with enabled := true } taken hs ?_ ?_ ?_ rfl).trans
        ⟨?_, ?_⟩
      · cases taken <;> rfl
      · rfl
      · intro j hj
        rw [Option.some.inj (hj.symm.trans hlive)]
      · intro hallowed j hj
        obtain rfl := Option.some.inj hj
        exact hallowed
      · intro hallowed
        exact hallowed i rfl

theorem served_disable_iff (id : Nat) (hs : s.Served) :
    (step b s (.disable id)).1.Served ↔ Undisturbed b s (.disable id) := by
  simp only [ArduinoGPIOController.step, Undisturbed]
  cases hlive : s.interrupts id with
  | none => exact iff_of_true hs fun i hi => by cases hi
  | some i =>
      dsimp only [Controller.disable]
      refine (served_detach_iff _ id (pinByte i.pin) (some { i with enabled := false }) hs ?_ ?_
        ?_).trans ⟨?_, ?_⟩
      · rfl
      · intro j hj
        rw [← Option.some.inj hj]
      · rfl
      · intro hallowed j hj
        obtain rfl := Option.some.inj hj
        exact hallowed
      · intro hallowed
        exact hallowed i rfl

/-- The end of an interrupt does no harm. -/
theorem served_destroy (id : Nat) (hs : s.Served) : (step b s (.destroy id)).1.Served := by
  simp only [ArduinoGPIOController.step]
  cases hlive : s.interrupts id with
  | none => exact hs
  | some i =>
      simp only [Controller.destroy]
      split
      · rename_i hon
        have hmine := hs id (pinByte i.pin) ⟨i, hlive, hon, rfl⟩
        refine (served_detach_iff _ id (pinByte i.pin) none hs ?_ ?_ ?_).mpr
          fun other hother => Option.some.inj ((hs other _ hother).symm.trans hmine)
        · rfl
        · intro j hj
          cases hj
        · rfl
      · rintro other at' ⟨j, hj, hon, hpin⟩
        have hj' : Function.update s.interrupts id none other = some j := hj
        by_cases heq : other = id
        · rw [heq, Function.update_self] at hj'
          cases hj'
        · rw [Function.update_of_ne heq] at hj'
          exact hs other at' ⟨j, hj', hon, hpin⟩

/-- **One operation.** -/
theorem served_step_iff (op : Op) (h : s.Inv) (hs : s.Served) :
    (step b s op).1.Served ↔ Undisturbed b s op := by
  cases op with
  | createInterrupt pin c callback taken =>
      exact served_createInterrupt_iff pin c callback taken h hs
  | enable id taken => exact served_enable_iff id taken h hs
  | disable id => exact served_disable_iff id hs
  | destroy id => exact iff_of_true (served_destroy id hs) trivial
  | configure pin c => exact iff_of_true hs trivial
  | write pin high => exact iff_of_true hs trivial
  | edge pin =>
      refine iff_of_true ?_ trivial
      simp only [ArduinoGPIOController.step]
      split <;> exact hs

/-- **Enabled interrupts.**  Every interrupt that says it is enabled is attached
to its pin, after every step of a run, exactly if no step enables or disables
one on a pin where another one is enabled and the core takes each handler that
is not attached already.  Their ends do no harm. -/
theorem enabled_attached_iff (b : Build) (ops : List Op) :
    let run := trace (step b) Controller.fresh ops
    (∀ x ∈ run, (step b x.1 x.2).1.Served) ↔ ∀ x ∈ run, Undisturbed b x.1 x.2 := by
  have hserved : Controller.fresh.Served := by
    rintro id pin ⟨i, hi, -⟩
    cases hi
  have hinv : ∀ s op, Controller.Inv s → Controller.Inv (step b s op).1 := fun _ op h => h.step op
  have hstep : ∀ s op, Controller.Inv s → Controller.Served s →
      ((step b s op).1.Served ↔ Undisturbed b s op) := fun _ op h hs => served_step_iff op h hs
  exact trace_forall_iff hinv hstep inv_fresh hserved ops

end ArduinoGPIOController
