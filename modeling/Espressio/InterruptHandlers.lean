import Espressio.InterruptService

/-!
# The handlers of the pins

The driver has one handler for a pin, and one bit that says whether the pin's
interrupt is enabled.  The controller gives out as many handles for a pin as it
is asked for, and each of them keeps a flag of its own for what it takes to be
enabled.  Nothing compares the two, so a handle whose flag is set is `Sound`
only as long as no other operation gets to the pin: `Undisturbed` says which
operations do, and `handlers_sound_iff` that there are no others.
-/

namespace IDFGPIO

open PlatformResults Runs

variable (board : Board) {s : Controller}

/-! ## Pins and handles -/

@[simp] theorem setPin_pins_self (s : Controller) (pin : Pin) (native : NativePin) :
    (s.setPin pin native).pins pin = native := by simp [Controller.setPin]

@[simp] theorem setPin_pins_ne {pin other : Pin} (h : other ≠ pin) (native : NativePin) :
    (s.setPin pin native).pins other = s.pins other := by simp [Controller.setPin, h]

@[simp] theorem setHandle_handles_self (s : Controller) (id : Nat) (handle : Option Interrupt) :
    (s.setHandle id handle).handles id = handle := by simp [Controller.setHandle]

@[simp] theorem setHandle_handles_ne {id other : Nat} (h : other ≠ id)
    (handle : Option Interrupt) :
    (s.setHandle id handle).handles other = s.handles other := by simp [Controller.setHandle, h]

@[simp] theorem setPin_handles (s : Controller) (pin : Pin) (native : NativePin) :
    (s.setPin pin native).handles = s.handles := rfl

@[simp] theorem setHandle_pins (s : Controller) (id : Nat) (handle : Option Interrupt) :
    (s.setHandle id handle).pins = s.pins := rfl

/-- A handle that is alive and takes itself to be enabled. -/
def Controller.EnabledAt (s : Controller) (id : Nat) (pin : Pin) : Prop :=
  ∃ handle, s.handles id = some handle ∧ handle.enabled = true ∧ handle.pin = pin

/-- What an enabled handle stands for. -/
def NativePin.Serves (native : NativePin) (id : Nat) : Prop :=
  native.handler = some id ∧ native.interruptEnabled = true

/-- Every enabled handle is the handler of its pin, and the pin's interrupt is
enabled. -/
def Controller.Sound (s : Controller) : Prop :=
  ∀ id pin, s.EnabledAt id pin → (s.pins pin).Serves id

/-- Numbers of handles are not used twice, and only a registered handle is
given out. -/
structure Controller.HandlesInv (s : Controller) : Prop where
  fresh : ∀ id, s.next ≤ id → s.handles id = none
  registered : ∀ id handle, s.handles id = some handle → handle.registered = true

/-- The handles of a controller in which one of them has been changed. -/
theorem enabledAt_setHandle (s : Controller) (id other : Nat) (handle : Option Interrupt)
    (pin : Pin) :
    (s.setHandle id handle).EnabledAt other pin ↔
      if other = id then ∃ h, handle = some h ∧ h.enabled = true ∧ h.pin = pin
      else s.EnabledAt other pin := by
  unfold Controller.EnabledAt
  split
  · rename_i heq
    rw [heq, setHandle_handles_self]
  · rename_i hne
    rw [setHandle_handles_ne hne]

theorem enabledAt_congr {t : Controller} (h : t.handles = s.handles) (id : Nat) (pin : Pin) :
    t.EnabledAt id pin ↔ s.EnabledAt id pin := by
  unfold Controller.EnabledAt
  rw [h]

/-- What is done to one pin and its handles leaves the others as they are. -/
structure Touches (s t : Controller) (pin : Pin) : Prop where
  pins : ∀ other, other ≠ pin → t.pins other = s.pins other
  handles : ∀ id other, other ≠ pin → (t.EnabledAt id other ↔ s.EnabledAt id other)

theorem Touches.refl (s : Controller) (pin : Pin) : Touches s s pin :=
  ⟨fun _ _ => rfl, fun _ _ _ => Iff.rfl⟩

theorem Touches.trans {t u : Controller} {pin : Pin} (h : Touches s t pin)
    (k : Touches t u pin) : Touches s u pin :=
  ⟨fun other hne => (k.pins other hne).trans (h.pins other hne),
    fun id other hne => (k.handles id other hne).trans (h.handles id other hne)⟩

theorem touches_setPin (s : Controller) (pin : Pin) (native : NativePin) :
    Touches s (s.setPin pin native) pin :=
  ⟨fun _ hne => setPin_pins_ne hne native, fun id other _ => enabledAt_congr rfl id other⟩

/-- A handle of the pin may come, go or change. -/
theorem touches_setHandle {id : Nat} {pin : Pin} (handle : Option Interrupt)
    (hold : ∀ h, s.handles id = some h → h.pin = pin)
    (hnew : ∀ h, handle = some h → h.pin = pin) : Touches s (s.setHandle id handle) pin := by
  refine ⟨fun _ _ => rfl, ?_⟩
  intro other at' hne
  rw [enabledAt_setHandle]
  split
  · rename_i heq
    subst heq
    constructor
    · rintro ⟨h, hh, -, hpin⟩
      exact absurd (hpin.symm.trans (hnew h hh)) hne
    · rintro ⟨h, hh, -, hpin⟩
      exact absurd (hpin.symm.trans (hold h hh)) hne
  · exact Iff.rfl

/-- A handle of the pin is enabled or disabled. -/
theorem touches_setOwn {id : Nat} {handle : Interrupt} (hhandle : s.handles id = some handle)
    (enabled : Bool) :
    Touches s (s.setHandle id (some { handle with enabled := enabled })) handle.pin := by
  apply touches_setHandle
  · intro h hh
    rw [hhandle] at hh
    exact congrArg Interrupt.pin (Option.some.inj hh).symm
  · intro h hh
    cases hh
    rfl

/-- So whether the result is sound is decided at that pin. -/
theorem Touches.sound_iff {t : Controller} {pin : Pin} (h : Touches s t pin) (hs : s.Sound) :
    t.Sound ↔ ∀ id, t.EnabledAt id pin → (t.pins pin).Serves id := by
  constructor
  · exact fun ht id => ht id pin
  · intro hpin id other henabled
    by_cases heq : other = pin
    · subst heq
      exact hpin id henabled
    · rw [h.pins other heq]
      exact hs id other ((h.handles id other heq).mp henabled)

/-! ## The calls of the driver -/

theorem intrDisable_spec (s : Controller) (pin : Pin) (answer : EspErr) :
    Touches s (s.intrDisable pin answer) pin ∧
      (s.intrDisable pin answer).handles = s.handles ∧
      ((s.intrDisable pin answer).pins pin).handler = (s.pins pin).handler ∧
      ((s.intrDisable pin answer).pins pin).interruptEnabled =
        if answer = .ok then false else (s.pins pin).interruptEnabled := by
  unfold Controller.intrDisable
  split
  · exact ⟨touches_setPin s pin _, rfl, by simp, by simp⟩
  · exact ⟨Touches.refl s pin, rfl, rfl, rfl⟩

theorem isrHandlerRemove_spec (s : Controller) (pin : Pin) (answer : EspErr) :
    Touches s (s.isrHandlerRemove pin answer) pin ∧
      (s.isrHandlerRemove pin answer).handles = s.handles ∧
      ((s.isrHandlerRemove pin answer).pins pin).handler =
        (if answer = .ok then none else (s.pins pin).handler) ∧
      ((s.isrHandlerRemove pin answer).pins pin).interruptEnabled =
        (s.pins pin).interruptEnabled := by
  unfold Controller.isrHandlerRemove
  split
  · exact ⟨touches_setPin s pin _, rfl, by simp, by simp⟩
  · exact ⟨Touches.refl s pin, rfl, rfl, rfl⟩

/-! ## Handles -/

/-- An enabled handle is sound only as the handler of its pin. -/
theorem sound_enable_iff (hs : s.Sound) {id : Nat} {handle : Interrupt}
    (hhandle : s.handles id = some handle) (hregistered : handle.registered = true)
    (answer : EspErr) :
    (s.enable id handle answer).1.Sound ↔
      (answer = .ok → (s.pins handle.pin).handler = some id) := by
  unfold Controller.enable Controller.intrEnable
  rw [if_neg (by simp [hregistered])]
  by_cases hok : answer = .ok
  · have hown : (s.setPin handle.pin
        { s.pins handle.pin with interruptEnabled := true }).handles id = some handle := hhandle
    have htouches := (touches_setPin s handle.pin _).trans (touches_setOwn hown true)
    simp only [hok, if_true, forall_const]
    rw [htouches.sound_iff hs]
    simp only [setHandle_pins, setPin_pins_self, NativePin.Serves, and_true]
    constructor
    · intro hserves
      exact hserves id ((enabledAt_setHandle _ _ _ _ _).mpr (by simp))
    · intro hhandler other hother
      by_cases heq : other = id
      · exact heq ▸ hhandler
      · rw [enabledAt_setHandle, if_neg heq] at hother
        exact (hs other handle.pin hother).1
  · rw [if_neg hok]
    dsimp only
    rw [if_neg hok]
    exact iff_of_true hs fun h => absurd h hok

/-- Nobody else can be enabled at a pin whose interrupt is disabled. -/
theorem sound_disable_iff (hs : s.Sound) {id : Nat} {handle : Interrupt}
    (hhandle : s.handles id = some handle) (hregistered : handle.registered = true)
    (answer : EspErr) :
    (s.disable id handle answer).1.Sound ↔
      (answer = .ok → ∀ other, s.EnabledAt other handle.pin → other = id) := by
  unfold Controller.disable
  rw [if_neg (by simp [hregistered])]
  dsimp only
  obtain ⟨htouched, hhandles, -, hbit⟩ := intrDisable_spec s handle.pin answer
  by_cases hok : answer = .ok
  · rw [if_pos hok] at hbit ⊢
    have hown : (s.intrDisable handle.pin answer).handles id = some handle := by
      rw [hhandles, hhandle]
    have htouches := htouched.trans (touches_setOwn hown false)
    simp only [hok, forall_const]
    rw [← hok, htouches.sound_iff hs]
    simp only [setHandle_pins, NativePin.Serves, hbit, Bool.false_eq_true, and_false]
    constructor
    · intro hnone other hother
      by_contra hne
      refine hnone other ((enabledAt_setHandle _ _ _ _ _).mpr ?_)
      rw [if_neg hne]
      exact (enabledAt_congr hhandles other handle.pin).mpr hother
    · intro honly other hother
      rw [enabledAt_setHandle] at hother
      split at hother
      · obtain ⟨h, hh, henabled, -⟩ := hother
        cases hh
        cases henabled
      · rename_i hne
        exact hne (honly other ((enabledAt_congr hhandles other handle.pin).mp hother))
  · rw [if_neg hok, Controller.intrDisable, if_neg hok]
    exact iff_of_true hs fun h => absurd h hok

/-- Nor at one whose interrupt is disabled or whose handler is removed because
a handle is destroyed. -/
theorem sound_destroy_iff (hs : s.Sound) {id : Nat} {handle : Interrupt}
    (hhandle : s.handles id = some handle) (hregistered : handle.registered = true)
    (n : DestroyNatives) :
    (s.destroy id handle n).Sound ↔
      (n.disable = .ok ∨ n.remove = .ok →
        ∀ other, s.EnabledAt other handle.pin → other = id) := by
  unfold Controller.destroy
  rw [if_pos hregistered]
  dsimp only
  obtain ⟨hdisabled, hhandles, hhandler, hbit⟩ := intrDisable_spec s handle.pin n.disable
  obtain ⟨hremoved, hhandles', hhandler', hbit'⟩ :=
    isrHandlerRemove_spec (s.intrDisable handle.pin n.disable) handle.pin n.remove
  rw [hhandles] at hhandles'
  rw [hhandler] at hhandler'
  rw [hbit] at hbit'
  have hown : ((s.intrDisable handle.pin n.disable).isrHandlerRemove handle.pin
      n.remove).handles id = some handle := by
    rw [hhandles', hhandle]
  have htouches := (hdisabled.trans hremoved).trans (touches_setHandle none
    (fun h hh => congrArg Interrupt.pin (Option.some.inj (hown.symm.trans hh)).symm)
    (fun h hh => by cases hh))
  rw [htouches.sound_iff hs]
  simp only [setHandle_pins, NativePin.Serves, hhandler', hbit', enabledAt_setHandle,
    enabledAt_congr hhandles']
  constructor
  · intro hserves htouched other hother
    by_contra hne
    obtain ⟨hhandler, hbit⟩ := hserves other (by rwa [if_neg hne])
    rcases htouched with hok | hok
    · rw [if_pos hok] at hbit
      cases hbit
    · rw [if_pos hok] at hhandler
      cases hhandler
  · intro honly other hother
    split at hother
    · obtain ⟨h, hh, -⟩ := hother
      cases hh
    · rename_i hne
      have huntouched : ¬(n.disable = .ok ∨ n.remove = .ok) :=
        fun htouched => hne (honly htouched other hother)
      rw [not_or] at huntouched
      rw [if_neg huntouched.1, if_neg huntouched.2]
      exact hs other handle.pin hother

/-! ## Configuration -/

/-- A level that is written is nothing to the handles. -/
theorem sound_write_iff (s : Controller) (pin : Pin) (state : Bool) (answer : EspErr) :
    (s.write board pin state answer).1.Sound ↔ s.Sound := by
  unfold Controller.write
  split
  · exact Iff.rfl
  · dsimp only
    split
    · have hpins : ∀ other id,
          ((s.setPin pin { s.pins pin with level := state }).pins other).Serves id ↔
            (s.pins other).Serves id := by
        intro other id
        by_cases heq : other = pin
        · simp [heq, NativePin.Serves]
        · simp [heq]
      exact forall₂_congr fun id other =>
        imp_congr (enabledAt_congr rfl id other) (hpins other id)
    · exact Iff.rfl

/-- No handle is enabled at a pin that has been configured. -/
theorem sound_configure_iff (hs : s.Sound) (pin : Pin) (c : PinConfiguration)
    (config level : EspErr) :
    (s.configure board pin c config level).1.Sound ↔
      (board.admits pin c = true → config = .ok → ∀ id, ¬s.EnabledAt id pin) := by
  unfold Controller.configure
  by_cases hadmits : board.admits pin c = true
  · rw [if_neg (by simp [hadmits])]
    dsimp only
    by_cases hok : config = .ok
    · rw [if_neg (not_not.mpr hok)]
      have hsound : (s.gpioConfig pin c.native config).Sound ↔ ∀ id, ¬s.EnabledAt id pin := by
        rw [Controller.gpioConfig, if_pos hok, (touches_setPin s pin _).sound_iff hs]
        simp [NativePin.Serves, PinConfiguration.native, enabledAt_congr (setPin_handles s pin _)]
      simp only [hadmits, hok, forall_const]
      rw [← hok]
      split
      · rw [sound_write_iff, hsound]
      · rw [hsound]
    · rw [if_pos hok, Controller.gpioConfig, if_neg hok]
      exact iff_of_true hs fun _ h => absurd h hok
  · rw [if_pos (Bool.not_eq_true _ ▸ hadmits)]
    exact iff_of_true hs fun h => absurd h hadmits

/-! ## Creation -/

/-- What a registration comes to, whether it succeeds or the handle is
destroyed again: the pin keeps its handler, or has the new one, or none. -/
structure Registered (s t : Controller) (id : Nat) (pin : Pin) (add : EspErr) : Prop where
  touches : Touches s t pin
  next : t.next = s.next
  others : ∀ other, other ≠ id → t.handles other = s.handles other
  registered : ∀ handle, t.handles id = some handle → handle.registered = true
  refused : add ≠ .ok → t.handles id = none ∧ t.pins = s.pins
  added : add = .ok → ((t.pins pin).handler = some id ∨ (t.pins pin).handler = none) ∧
    (t.EnabledAt id pin → (t.pins pin).Serves id)

theorem destroy_handles (s : Controller) (id : Nat) (handle : Interrupt) (n : DestroyNatives) :
    (s.destroy id handle n).handles = Function.update s.handles id none := by
  unfold Controller.destroy
  split
  · have hhandles : ((s.intrDisable handle.pin n.disable).isrHandlerRemove handle.pin
        n.remove).handles = s.handles :=
      (isrHandlerRemove_spec _ handle.pin n.remove).2.1.trans
        (intrDisable_spec s handle.pin n.disable).2.1
    exact congrArg (Function.update · id none) hhandles
  · rfl

/-- The handler has been added for the handle. -/
structure Added (s t : Controller) (id : Nat) (handle : Interrupt) : Prop where
  touches : Touches s t handle.pin
  next : t.next = s.next
  others : ∀ other, other ≠ id → t.handles other = s.handles other
  own : t.handles id = some handle
  handler : (t.pins handle.pin).handler = some id

theorem added_isrHandlerAdd {id : Nat} {handle : Interrupt} (hown : s.handles id = some handle)
    (enables : Bool) :
    Added s ((s.isrHandlerAdd handle.pin id .ok enables).setHandle id
      (some { handle with registered := true })) id { handle with registered := true } := by
  rw [Controller.isrHandlerAdd, if_pos rfl]
  refine ⟨(touches_setPin s handle.pin _).trans (touches_setHandle _ ?_ ?_), rfl, ?_, ?_, ?_⟩
  · intro h hh
    rw [setPin_handles, hown] at hh
    exact congrArg Interrupt.pin (Option.some.inj hh).symm
  · intro h hh
    cases hh
    rfl
  · intro other hne
    rw [setHandle_handles_ne hne]
    rfl
  · exact setHandle_handles_self _ id _
  · simp

/-- It is enabled. -/
theorem Added.enabled {t : Controller} {id : Nat} {handle : Interrupt} (h : Added s t id handle)
    (hregistered : handle.registered = true) :
    Registered s (t.enable id handle .ok).1 id handle.pin .ok := by
  have hownPin : (t.intrEnable handle.pin .ok).handles id = some handle := h.own
  rw [Controller.enable, if_neg (by simp [hregistered])]
  simp only [if_true]
  refine ⟨?_, h.next, ?_, ?_, fun hne => absurd rfl hne, fun _ => ⟨Or.inl ?_, fun _ => ⟨?_, ?_⟩⟩⟩
  · exact (h.touches.trans (touches_setPin t handle.pin _)).trans (touches_setOwn hownPin true)
  · intro other hne
    rw [setHandle_handles_ne hne]
    exact h.others other hne
  · intro other hother
    rw [setHandle_handles_self] at hother
    cases hother
    exact hregistered
  all_goals simp [Controller.intrEnable, h.handler]

/-- It is left disabled. -/
theorem Added.disabled {t : Controller} {id : Nat} {handle : Interrupt} (h : Added s t id handle)
    (hregistered : handle.registered = true) (hdisabled : handle.enabled = false)
    (answer : EspErr) : Registered s (t.intrDisable handle.pin answer) id handle.pin .ok := by
  obtain ⟨htouched, hhandles, hhandler, -⟩ := intrDisable_spec t handle.pin answer
  refine ⟨h.touches.trans htouched, ?_, ?_, ?_, fun hne => absurd rfl hne, fun _ => ⟨?_, ?_⟩⟩
  · rw [← h.next]
    unfold Controller.intrDisable
    split <;> rfl
  · rw [hhandles]
    exact h.others
  · rw [hhandles, h.own]
    intro other hother
    cases hother
    exact hregistered
  · exact Or.inl (hhandler.trans h.handler)
  · rintro ⟨other, hother, henabled, -⟩
    rw [hhandles, h.own] at hother
    cases hother
    rw [hdisabled] at henabled
    cases henabled

/-- Or it could not be enabled, and is destroyed. -/
theorem Added.destroyed {t : Controller} {id : Nat} {handle : Interrupt} (h : Added s t id handle)
    (hregistered : handle.registered = true) (n : DestroyNatives) :
    Registered s (t.destroy id handle n) id handle.pin .ok := by
  have hhandles := destroy_handles t id handle n
  have hgone : (t.destroy id handle n).handles id = none := by
    rw [hhandles, Function.update_self]
  obtain ⟨hdisabled, hsame, hhandler, -⟩ := intrDisable_spec t handle.pin n.disable
  obtain ⟨hremoved, hsame', hhandler', -⟩ :=
    isrHandlerRemove_spec (t.intrDisable handle.pin n.disable) handle.pin n.remove
  have hdestroy : t.destroy id handle n =
      ((t.intrDisable handle.pin n.disable).isrHandlerRemove handle.pin n.remove).setHandle id
        none := by
    rw [Controller.destroy, if_pos hregistered]
  refine ⟨?_, ?_, ?_, ?_, fun hne => absurd rfl hne, fun _ => ⟨?_, ?_⟩⟩
  · rw [hdestroy]
    refine ((h.touches.trans hdisabled).trans hremoved).trans (touches_setHandle none ?_ ?_)
    · intro other hother
      rw [hsame', hsame, h.own] at hother
      exact congrArg Interrupt.pin (Option.some.inj hother).symm
    · intro other hother
      cases hother
  · rw [hdestroy, ← h.next]
    unfold Controller.isrHandlerRemove Controller.intrDisable
    split_ifs <;> rfl
  · intro other hne
    rw [hhandles, Function.update_of_ne hne]
    exact h.others other hne
  · intro other hother
    rw [hgone] at hother
    cases hother
  · rw [hdestroy, setHandle_pins, hhandler', hhandler, h.handler]
    split
    · exact Or.inr rfl
    · exact Or.inl rfl
  · rintro ⟨other, hother, -⟩
    rw [hgone] at hother
    cases hother

/-- **A registration**, or what is left of it. -/
theorem register_spec {id : Nat} {handle : Interrupt} (hown : s.handles id = some handle)
    (hunregistered : handle.registered = false) (hdisabled : handle.enabled = false)
    (startEnabled : Bool) (n : RegisterNatives) (nd : DestroyNatives) :
    Registered s
      (if (s.register id handle startEnabled n).2.2.ok = false then
        (s.register id handle startEnabled n).1.destroy id
          (s.register id handle startEnabled n).2.1 nd
      else (s.register id handle startEnabled n).1) id handle.pin n.add := by
  by_cases hadd : n.add = .ok
  · have hadded := added_isrHandlerAdd hown n.addEnables
    rw [Controller.register, if_neg (not_not.mpr hadd), hadd]
    dsimp only
    cases startEnabled with
    | true =>
        by_cases henable : n.enable = .ok
        · rw [henable]
          exact hadded.enabled rfl
        · have hfailed : (platformResultFromEspError n.enable).ok = false := by
            cases herror : n.enable with
            | ok => exact absurd herror henable
            | _ => rfl
          have hsame : ∀ t : Controller, t.enable id { handle with registered := true } n.enable =
              (t, platformResultFromEspError n.enable) := by
            intro t
            simp [Controller.enable, Controller.intrEnable, henable]
          simp only [if_true, hsame, hfailed, if_neg henable]
          exact hadded.destroyed rfl nd
    | false => exact hadded.disabled rfl hdisabled n.disable
  · have hfailed : (platformResultFromEspError n.add).ok = false := by
      cases herror : n.add with
      | ok => exact absurd herror hadd
      | _ => rfl
    rw [Controller.register, if_pos hadd]
    simp only [hfailed, if_true]
    rw [Controller.destroy, if_neg (by simp [hunregistered])]
    refine ⟨?_, rfl, ?_, ?_, fun _ => ⟨?_, rfl⟩, fun hok => absurd hok hadd⟩
    · refine touches_setHandle none ?_ fun h hh => by cases hh
      intro h hh
      rw [hown] at hh
      exact congrArg Interrupt.pin (Option.some.inj hh).symm
    · exact fun other hne => setHandle_handles_ne hne none
    · intro h hh
      rw [setHandle_handles_self] at hh
      cases hh
    · exact setHandle_handles_self _ id none

theorem next_intrDisable (s : Controller) (pin : Pin) (answer : EspErr) :
    (s.intrDisable pin answer).next = s.next := by
  unfold Controller.intrDisable
  split <;> rfl

/-- A create past the type of the interrupt disables the pin, gives the handle
its number and registers it. -/
theorem createHandle_spec (hfresh : s.handles s.next = none) (pin : Pin)
    (c : InterruptConfiguration) {n : CreateNatives} (htype : n.setType = .ok) :
    ∃ t : Controller, Touches s t pin ∧ t.next = s.next + 1 ∧
      (∀ other, other ≠ s.next → t.handles other = s.handles other) ∧
      (t.pins pin).handler = (s.pins pin).handler ∧
      (t.pins pin).interruptEnabled =
        (if n.disable = .ok then false else (s.pins pin).interruptEnabled) ∧
      Registered t (s.createHandle pin c n).1 s.next pin n.register.add := by
  obtain ⟨htouched, hhandles, hhandler, hbit⟩ := intrDisable_spec
    (s.setPin pin { s.pins pin with interruptType := nativeInterruptType c.trigger }) pin n.disable
  have hnext := next_intrDisable
    (s.setPin pin { s.pins pin with interruptType := nativeInterruptType c.trigger }) pin n.disable
  have htype' := touches_setPin s pin
    { s.pins pin with interruptType := nativeInterruptType c.trigger }
  rw [Controller.createHandle, if_neg (not_not.mpr htype)]
  dsimp only
  generalize (s.setPin pin { s.pins pin with
    interruptType := nativeInterruptType c.trigger }).intrDisable pin n.disable = prepared at *
  rw [setPin_pins_self] at hhandler hbit
  have hnext' : prepared.next = s.next := hnext
  rw [hnext']
  refine ⟨{ prepared with next := s.next + 1 }.setHandle s.next
      (some ⟨pin, c.affinity, false, false⟩), ?_, rfl, ?_, hhandler, hbit, ?_⟩
  · have hcounted : Touches prepared { prepared with next := s.next + 1 } pin :=
      ⟨fun _ _ => rfl, fun id other _ => enabledAt_congr rfl id other⟩
    refine ((htype'.trans htouched).trans hcounted).trans (touches_setHandle _ ?_ ?_)
    · intro h hh
      have hnone : prepared.handles s.next = none := by
        rw [hhandles]
        exact hfresh
      rw [hnone] at hh
      cases hh
    · intro h hh
      cases hh
      rfl
  · intro other hne
    rw [setHandle_handles_ne hne, hhandles]
    rfl
  · have hregistered := register_spec (setHandle_handles_self { prepared with next := s.next + 1 }
      s.next (some ⟨pin, c.affinity, false, false⟩)) rfl rfl c.startEnabled n.register n.destroy
    split
    · rename_i hfailed
      rw [if_pos hfailed] at hregistered
      exact hregistered
    · rename_i hok
      rw [if_neg hok] at hregistered
      exact hregistered

/-- A create that gets to the pin spoils whoever is enabled there, unless the
driver refuses both to disable the interrupt and to add the handler. -/
theorem sound_createHandle_iff (hs : s.Sound) (hinv : s.HandlesInv) (pin : Pin)
    (c : InterruptConfiguration) {n : CreateNatives} (htype : n.setType = .ok) :
    (s.createHandle pin c n).1.Sound ↔
      (n.disable = .ok ∨ n.register.add = .ok → ∀ id, ¬s.EnabledAt id pin) := by
  have hfresh := hinv.fresh s.next (Nat.le_refl _)
  obtain ⟨t, htouches, -, hothers, hhandler, hbit, hregistered⟩ :=
    createHandle_spec hfresh pin c htype
  have hold : ∀ id, id ≠ s.next →
      ((s.createHandle pin c n).1.EnabledAt id pin ↔ s.EnabledAt id pin) := by
    intro id hne
    unfold Controller.EnabledAt
    rw [hregistered.others id hne, hothers id hne]
  rw [(htouches.trans hregistered.touches).sound_iff hs]
  constructor
  · intro hserves htouched id hid
    have hne : id ≠ s.next := by
      rintro rfl
      obtain ⟨handle, hhandle, -⟩ := hid
      rw [hfresh] at hhandle
      cases hhandle
    obtain ⟨hmine, henabled⟩ := hserves id ((hold id hne).mpr hid)
    by_cases hadd : n.register.add = .ok
    · rcases (hregistered.added hadd).1 with hnew | hnone
      · exact hne (Option.some.inj (hmine.symm.trans hnew))
      · rw [hnone] at hmine
        cases hmine
    · have hdisable := htouched.resolve_right hadd
      rw [(hregistered.refused hadd).2, hbit, if_pos hdisable] at henabled
      cases henabled
  · intro hnone id hid
    by_cases hnew : id = s.next
    · subst hnew
      by_cases hadd : n.register.add = .ok
      · exact (hregistered.added hadd).2 hid
      · obtain ⟨handle, hhandle, -⟩ := hid
        rw [(hregistered.refused hadd).1] at hhandle
        cases hhandle
    · have henabled := (hold id hnew).mp hid
      have huntouched : ¬(n.disable = .ok ∨ n.register.add = .ok) :=
        fun htouched => hnone htouched id henabled
      rw [not_or] at huntouched
      obtain ⟨hmine, hon⟩ := hs id pin henabled
      rw [(hregistered.refused huntouched.2).2]
      exact ⟨hhandler.trans hmine, by rw [hbit, if_neg huntouched.1, hon]⟩

/-! ## Runs -/

/-- The arguments, the service and the type of the interrupt let a create get
to the pin. -/
def Reaches (s : Controller) (pin : Pin) (c : InterruptConfiguration) (callback : Bool)
    (n : CreateNatives) : Prop :=
  (board.validGpio pin = true ∧ callback = true) ∧
    (s.service.ensure c.affinity n.service).2.ok = true ∧ n.setType = .ok

/-- The operation leaves the pins of enabled handles alone, but for a handle's
own, and enables none but the handler of its pin. -/
def Undisturbed (s : Controller) : Op → Prop
  | .createInterrupt pin c callback n =>
      Reaches board s pin c callback n → n.disable = .ok ∨ n.register.add = .ok →
        ∀ id, ¬s.EnabledAt id pin
  | .enable id answer =>
      ∀ handle, s.handles id = some handle → answer = .ok →
        (s.pins handle.pin).handler = some id
  | .disable id answer =>
      ∀ handle, s.handles id = some handle → answer = .ok →
        ∀ other, s.EnabledAt other handle.pin → other = id
  | .destroy id n =>
      ∀ handle, s.handles id = some handle → n.disable = .ok ∨ n.remove = .ok →
        ∀ other, s.EnabledAt other handle.pin → other = id
  | .configure pin c config _ =>
      board.admits pin c = true → config = .ok → ∀ id, ¬s.EnabledAt id pin
  | _ => True

theorem createInterrupt_cases (s : Controller) (pin : Pin) (c : InterruptConfiguration)
    (callback : Bool) (n : CreateNatives) :
    (Reaches board s pin c callback n ∧ (s.createInterrupt board pin c callback n).1 =
        (Controller.createHandle
          { s with service := (s.service.ensure c.affinity n.service).1 } pin c n).1) ∨
      (¬Reaches board s pin c callback n ∧
        (s.createInterrupt board pin c callback n).1.pins = s.pins ∧
        (s.createInterrupt board pin c callback n).1.handles = s.handles ∧
        (s.createInterrupt board pin c callback n).1.next = s.next) := by
  unfold Controller.createInterrupt
  split
  · rename_i hguard
    refine Or.inr ⟨fun hreaches => ?_, rfl, rfl, rfl⟩
    have hvalid := hreaches.1
    simp [hvalid.1, hvalid.2] at hguard
  · rename_i hguard
    have hvalid : board.validGpio pin = true ∧ callback = true := by
      simpa using hguard
    dsimp only
    split
    · rename_i hfailed
      refine Or.inr ⟨fun hreaches => ?_, rfl, rfl, rfl⟩
      rw [hreaches.2.1] at hfailed
      cases hfailed
    · rename_i hok
      rw [Bool.not_eq_false] at hok
      by_cases htype : n.setType = .ok
      · exact Or.inl ⟨⟨hvalid, hok, htype⟩, rfl⟩
      · refine Or.inr ⟨fun hreaches => htype hreaches.2.2, ?_⟩
        rw [Controller.createHandle, if_pos htype]
        exact ⟨rfl, rfl, rfl⟩

/-- Only the handlers, the bits and the handles decide. -/
theorem sound_congr {t : Controller} (hpins : t.pins = s.pins) (hhandles : t.handles = s.handles) :
    t.Sound ↔ s.Sound := by
  unfold Controller.Sound
  rw [hpins]
  exact forall₂_congr fun id pin => imp_congr_left (enabledAt_congr hhandles id pin)

theorem Controller.HandlesInv.congr {t : Controller} (h : s.HandlesInv)
    (hhandles : t.handles = s.handles) (hnext : t.next = s.next) : t.HandlesInv := by
  obtain ⟨hfresh, hregistered⟩ := h
  exact ⟨by rwa [hhandles, hnext], by rwa [hhandles]⟩

/-- A handle that is alive is changed, or gone. -/
theorem Controller.HandlesInv.update {t : Controller} (h : s.HandlesInv) {id : Nat}
    {handle : Interrupt} (hhandle : s.handles id = some handle) {after : Option Interrupt}
    (hregistered : ∀ other, after = some other → other.registered = true)
    (hhandles : t.handles = Function.update s.handles id after) (hnext : t.next = s.next) :
    t.HandlesInv := by
  constructor
  · intro other hother
    rw [hnext] at hother
    have hne : other ≠ id := by
      rintro rfl
      rw [h.fresh other hother] at hhandle
      cases hhandle
    rw [hhandles, Function.update_of_ne hne]
    exact h.fresh other hother
  · intro other found hfound
    rw [hhandles] at hfound
    by_cases heq : other = id
    · rw [heq, Function.update_self] at hfound
      exact hregistered found hfound
    · rw [Function.update_of_ne heq] at hfound
      exact h.registered other found hfound

theorem handlesInv_createHandle (h : s.HandlesInv) (pin : Pin) (c : InterruptConfiguration)
    {n : CreateNatives} (htype : n.setType = .ok) : (s.createHandle pin c n).1.HandlesInv := by
  obtain ⟨t, -, hnext, hothers, -, -, hregistered⟩ :=
    createHandle_spec (h.fresh s.next (Nat.le_refl _)) pin c htype
  constructor
  · intro id hid
    rw [hregistered.next, hnext] at hid
    have hne : id ≠ s.next := by omega
    rw [hregistered.others id hne, hothers id hne]
    exact h.fresh id (by omega)
  · intro id handle hhandle
    by_cases heq : id = s.next
    · exact hregistered.registered handle (heq ▸ hhandle)
    · rw [hregistered.others id heq, hothers id heq] at hhandle
      exact h.registered id handle hhandle

theorem handlesInv_step (s : Controller) (op : Op) (h : s.HandlesInv) :
    (step board s op).1.HandlesInv := by
  cases op with
  | createInterrupt pin c callback n =>
      rcases createInterrupt_cases board s pin c callback n with
        ⟨hreaches, heq⟩ | ⟨-, -, hhandles, hnext⟩
      · have hserved : Controller.HandlesInv
            { s with service := (s.service.ensure c.affinity n.service).1 } := h.congr rfl rfl
        simp only [step, heq]
        exact handlesInv_createHandle hserved pin c hreaches.2.2
      · exact h.congr hhandles hnext
  | enable id answer =>
      simp only [step]
      split
      · exact h
      · rename_i handle hhandle
        unfold Controller.enable Controller.intrEnable
        split_ifs
        · exact h
        · exact h.update hhandle
            (fun other hother => by cases hother; exact h.registered id handle hhandle) rfl rfl
        · exact h
  | disable id answer =>
      simp only [step]
      split
      · exact h
      · rename_i handle hhandle
        unfold Controller.disable Controller.intrDisable
        split_ifs
        · exact h
        · exact h.update hhandle
            (fun other hother => by cases hother; exact h.registered id handle hhandle) rfl rfl
        · exact h
  | destroy id n =>
      simp only [step]
      split
      · exact h
      · rename_i handle hhandle
        refine h.update hhandle (fun other hother => by cases hother)
          (destroy_handles s id handle n) ?_
        unfold Controller.destroy Controller.isrHandlerRemove Controller.intrDisable
        split_ifs <;> rfl
  | configure pin c config level =>
      simp only [step, Controller.configure, Controller.write, Controller.gpioConfig]
      split_ifs <;> exact h.congr rfl rfl
  | write pin state answer =>
      simp only [step, Controller.write]
      split_ifs <;> exact h.congr rfl rfl
  | installElsewhere core => exact h.congr rfl rfl

/-- **One operation.** -/
theorem sound_step_iff (s : Controller) (op : Op) (hinv : s.HandlesInv) (hs : s.Sound) :
    (step board s op).1.Sound ↔ Undisturbed board s op := by
  cases op with
  | createInterrupt pin c callback n =>
      simp only [step, Undisturbed]
      rcases createInterrupt_cases board s pin c callback n with
        ⟨hreaches, heq⟩ | ⟨hreaches, hpins, hhandles, -⟩
      · have hserved : Controller.HandlesInv
            { s with service := (s.service.ensure c.affinity n.service).1 } := hinv.congr rfl rfl
        have hsound : Controller.Sound
            { s with service := (s.service.ensure c.affinity n.service).1 } := hs
        rw [heq, sound_createHandle_iff hsound hserved pin c hreaches.2.2]
        exact ⟨fun h _ => h, fun h => h hreaches⟩
      · exact iff_of_true ((sound_congr hpins hhandles).mpr hs) fun h => absurd h hreaches
  | enable id answer =>
      simp only [step, Undisturbed]
      split
      · rename_i hnone
        exact iff_of_true hs fun handle hhandle => by rw [hnone] at hhandle; cases hhandle
      · rename_i handle hhandle
        rw [sound_enable_iff hs hhandle (hinv.registered id handle hhandle)]
        simp [hhandle]
  | disable id answer =>
      simp only [step, Undisturbed]
      split
      · rename_i hnone
        exact iff_of_true hs fun handle hhandle => by rw [hnone] at hhandle; cases hhandle
      · rename_i handle hhandle
        rw [sound_disable_iff hs hhandle (hinv.registered id handle hhandle)]
        simp [hhandle]
  | destroy id n =>
      simp only [step, Undisturbed]
      split
      · rename_i hnone
        exact iff_of_true hs fun handle hhandle => by rw [hnone] at hhandle; cases hhandle
      · rename_i handle hhandle
        rw [sound_destroy_iff hs hhandle (hinv.registered id handle hhandle)]
        simp [hhandle]
  | configure pin c config level => exact sound_configure_iff board hs pin c config level
  | write pin state answer =>
      exact iff_of_true ((sound_write_iff board s pin state answer).mpr hs) trivial
  | installElsewhere core => exact iff_of_true hs trivial

/-- **The handles.**  After every step of a run each enabled handle is the
handler of its pin, and the pin's interrupt is enabled, exactly if no step of
it disturbs one. -/
theorem handlers_sound_iff (ops : List Op) :
    let run := trace (step board) Controller.fresh ops
    (∀ x ∈ run, (step board x.1 x.2).1.Sound) ↔ ∀ x ∈ run, Undisturbed board x.1 x.2 := by
  have hinv : Controller.fresh.HandlesInv :=
    ⟨fun _ _ => rfl, fun id handle h => by cases h⟩
  have hsound : Controller.fresh.Sound := by
    rintro id pin ⟨handle, hhandle, -⟩
    cases hhandle
  exact trace_forall_iff (handlesInv_step board) (sound_step_iff board) hinv hsound ops

/-- Two handles for pin 4: the second replaces the handler of the first, which
still takes itself to be enabled. -/
theorem handler_replaced : ¬ ∀ (board : Board) (ops : List Op),
    ∀ x ∈ trace (step board) Controller.fresh ops, (step board x.1 x.2).1.Sound := by
  intro h
  let create := Op.createInterrupt 4 ⟨.risingEdge, .any, true⟩ true smoothNatives
  have hsound := h sampleBoard [create, create] _ (List.mem_cons_of_mem _ List.mem_cons_self)
  have hserves := hsound 0 4 ⟨⟨4, .any, true, true⟩, by decide, rfl, rfl⟩
  have hhandler := hserves.1
  revert hhandler
  decide

end IDFGPIO
