import Espressio.PlatformResult
import Espressio.Runs
import Mathlib.Logic.Function.Basic

/-!
# The GPIO controller on ESP-IDF

`IDFGPIOController`: pins, the GPIO interrupt service and the interrupt handles
it gives out, next to what the driver holds of them.  A handle is an object at
an address of its own; here it has a number that is never used again.

The driver's answers come with each operation.  The installation of the
interrupt service is the one call whose answer the driver's own state decides:
it refuses a second one, with `ESP_ERR_INVALID_STATE`, and no other.
-/

namespace IDFGPIO

open PlatformResults

abbrev Pin := Nat

abbrev Core := Nat

inductive ProcessorAffinity
  | any
  | specific (processor : Core)
  deriving DecidableEq, Repr

/-! ## The interrupt service -/

/-- An installation may fail in any way but the one that says there is a
service already. -/
structure InstallError where
  error : EspErr
  failed : error ≠ .ok
  other : error ≠ .invalidState

/-- What decides how an installation ends: the core the caller runs on before
it, during it and after it, whether there is memory for the semaphore and the
task, whether the semaphore is taken, and the answer of a driver without a
service.  A task that has not signalled may have got to its installation. -/
structure ServiceNatives where
  core : Core
  installCore : Core
  coreAfter : Core
  semaphore : Bool
  task : Bool
  taken : Bool
  ranUntaken : Bool
  install : Option InstallError

/-- The GPIO interrupt service: the core the driver runs it on, and what the
controller takes it to be. -/
structure Service where
  isrCore : Option Core
  serviceInstalled : Bool
  serviceCore : Int
  deriving DecidableEq, Repr

/-- `gpio_install_isr_service`, called on a core. -/
def Service.install (s : Service) (core : Core) (failure : Option InstallError) :
    Service × EspErr :=
  match s.isrCore, failure with
  | some _, _ => (s, .invalidState)
  | none, some failure => (s, failure.error)
  | none, none => ({ s with isrCore := some core }, .ok)

/-- The end of `EnsureInterruptService`. -/
def Service.conclude (s : Service) (result : EspErr) (installedCore : Core) :
    Service × PlatformResult :=
  if result = .ok ∨ result = .invalidState then
    ({ s with serviceInstalled := true, serviceCore := installedCore }, .succeeded)
  else (s, platformResultFromEspError result)

/-- The installation on the core of the caller. -/
def Service.installHere (s : Service) (n : ServiceNatives) : Service × PlatformResult :=
  let (s, result) := s.install n.installCore n.install
  s.conclude result n.coreAfter

/-- The installation by a task that is pinned to the processor. -/
def Service.installPinned (s : Service) (processor : Core) (n : ServiceNatives) :
    Service × PlatformResult :=
  if n.semaphore = false then (s, .failed .outOfMemory none)
  else if n.task = false then (s, .failed .outOfMemory none)
  else if n.taken = false then
    (if n.ranUntaken then (s.install processor n.install).1 else s, .failed .timeout none)
  else
    let (s, result) := s.install processor n.install
    s.conclude result processor

/-- `EnsureInterruptService`. -/
def Service.ensure (s : Service) (affinity : ProcessorAffinity) (n : ServiceNatives) :
    Service × PlatformResult :=
  match affinity with
  | .any => if s.serviceInstalled then (s, .succeeded) else s.installHere n
  | .specific processor =>
      if s.serviceInstalled then
        if s.serviceCore ≠ processor then (s, .failed .conflict none) else (s, .succeeded)
      else if processor = n.core then s.installHere n
      else s.installPinned processor n

/-! ## Pins -/

inductive InterruptTrigger
  | risingEdge
  | fallingEdge
  | anyEdge
  | lowLevel
  | highLevel
  deriving DecidableEq, Repr

/-- `gpio_int_type_t`. -/
inductive NativeInterruptType
  | disable
  | posEdge
  | negEdge
  | anyEdge
  | lowLevel
  | highLevel
  deriving DecidableEq, Repr

def nativeInterruptType : InterruptTrigger → NativeInterruptType
  | .risingEdge => .posEdge
  | .fallingEdge => .negEdge
  | .anyEdge => .anyEdge
  | .lowLevel => .lowLevel
  | .highLevel => .highLevel

inductive Direction
  | input
  | output
  | openDrain
  deriving DecidableEq, Repr

inductive Pull
  | none
  | up
  | down
  | upDown
  deriving DecidableEq, Repr

structure PinConfiguration where
  direction : Direction
  pull : Pull
  initialState : Bool
  deriving DecidableEq, Repr

/-- `gpio_config_t`, for the one pin it is made for. -/
structure NativeConfiguration where
  direction : Direction
  pullUp : Bool
  pullDown : Bool
  interruptType : NativeInterruptType
  deriving DecidableEq, Repr

/-- What the driver holds of a pin: its configuration, the type of its
interrupt, whether the interrupt is enabled, and the handle its handler is
called with. -/
structure NativePin where
  configuration : Option NativeConfiguration
  level : Bool
  interruptType : NativeInterruptType
  interruptEnabled : Bool
  handler : Option Nat
  deriving DecidableEq, Repr

/-- The pins of the chip. -/
structure Board where
  validGpio : Pin → Bool
  validOutputGpio : Pin → Bool

/-! ## Handles and the controller -/

/-- `Interrupt`, but for the callback and its context. -/
structure Interrupt where
  pin : Pin
  affinity : ProcessorAffinity
  enabled : Bool
  registered : Bool
  deriving DecidableEq, Repr

structure InterruptConfiguration where
  trigger : InterruptTrigger
  affinity : ProcessorAffinity
  startEnabled : Bool
  deriving DecidableEq, Repr

/-- The service, the driver's pins, and the handles that are alive. -/
structure Controller where
  service : Service
  pins : Pin → NativePin
  handles : Nat → Option Interrupt
  next : Nat

def Controller.fresh : Controller :=
  ⟨⟨none, false, -1⟩, fun _ => ⟨none, false, .disable, false, none⟩, fun _ => none, 0⟩

def Controller.setPin (s : Controller) (pin : Pin) (native : NativePin) : Controller :=
  { s with pins := Function.update s.pins pin native }

def Controller.setHandle (s : Controller) (id : Nat) (handle : Option Interrupt) : Controller :=
  { s with handles := Function.update s.handles id handle }

/-- `gpio_intr_disable`. -/
def Controller.intrDisable (s : Controller) (pin : Pin) (answer : EspErr) : Controller :=
  if answer = .ok then s.setPin pin { s.pins pin with interruptEnabled := false } else s

/-- `gpio_intr_enable`. -/
def Controller.intrEnable (s : Controller) (pin : Pin) (answer : EspErr) : Controller :=
  if answer = .ok then s.setPin pin { s.pins pin with interruptEnabled := true } else s

/-- `gpio_isr_handler_add`.  Whether it enables the interrupt as well is left
to the driver. -/
def Controller.isrHandlerAdd (s : Controller) (pin : Pin) (id : Nat) (answer : EspErr)
    (enables : Bool) : Controller :=
  if answer = .ok then
    s.setPin pin { s.pins pin with handler := some id, interruptEnabled := enables }
  else s

/-- `gpio_isr_handler_remove`. -/
def Controller.isrHandlerRemove (s : Controller) (pin : Pin) (answer : EspErr) : Controller :=
  if answer = .ok then s.setPin pin { s.pins pin with handler := none } else s

/-- `Interrupt::Enable`. -/
def Controller.enable (s : Controller) (id : Nat) (handle : Interrupt) (answer : EspErr) :
    Controller × PlatformResult :=
  if handle.registered = false then (s, .failed .unavailable none)
  else
    let s := s.intrEnable handle.pin answer
    (if answer = .ok then s.setHandle id (some { handle with enabled := true }) else s,
      platformResultFromEspError answer)

/-- `Interrupt::Disable`. -/
def Controller.disable (s : Controller) (id : Nat) (handle : Interrupt) (answer : EspErr) :
    Controller × PlatformResult :=
  if handle.registered = false then (s, .failed .unavailable none)
  else
    let s := s.intrDisable handle.pin answer
    (if answer = .ok then s.setHandle id (some { handle with enabled := false }) else s,
      platformResultFromEspError answer)

/-- The driver's answers to the two calls of the destructor. -/
structure DestroyNatives where
  disable : EspErr
  remove : EspErr
  deriving DecidableEq, Repr

/-- `Interrupt::~Interrupt`, and the end of the handle. -/
def Controller.destroy (s : Controller) (id : Nat) (handle : Interrupt) (n : DestroyNatives) :
    Controller :=
  let s :=
    if handle.registered then
      (s.intrDisable handle.pin n.disable).isrHandlerRemove handle.pin n.remove
    else s
  s.setHandle id none

/-- The driver's answers while a handle is registered. -/
structure RegisterNatives where
  add : EspErr
  addEnables : Bool
  enable : EspErr
  disable : EspErr
  deriving DecidableEq, Repr

/-- `Interrupt::Register`.  It returns the handle as it is then. -/
def Controller.register (s : Controller) (id : Nat) (handle : Interrupt) (startEnabled : Bool)
    (n : RegisterNatives) : Controller × Interrupt × PlatformResult :=
  if n.add ≠ .ok then (s, handle, platformResultFromEspError n.add)
  else
    let handle := { handle with registered := true }
    let s := (s.isrHandlerAdd handle.pin id n.add n.addEnables).setHandle id (some handle)
    if startEnabled then
      let (s, result) := s.enable id handle n.enable
      (s, if n.enable = .ok then { handle with enabled := true } else handle, result)
    else (s.intrDisable handle.pin n.disable, handle, .succeeded)

structure CreateNatives where
  service : ServiceNatives
  setType : EspErr
  disable : EspErr
  register : RegisterNatives
  destroy : DestroyNatives

/-- The rest of `CreateInterrupt`, once the service is there.  A handle that
could not be registered is destroyed before it returns. -/
def Controller.createHandle (s : Controller) (pin : Pin) (c : InterruptConfiguration)
    (n : CreateNatives) : Controller × PlatformResult :=
  if n.setType ≠ .ok then (s, platformResultFromEspError n.setType)
  else
    let s := s.setPin pin { s.pins pin with interruptType := nativeInterruptType c.trigger }
    let s := s.intrDisable pin n.disable
    let id := s.next
    let handle : Interrupt := ⟨pin, c.affinity, false, false⟩
    let s := { s with next := id + 1 }.setHandle id (some handle)
    let (s, handle, registration) := s.register id handle c.startEnabled n.register
    if registration.ok = false then (s.destroy id handle n.destroy, registration)
    else (s, .succeeded)

/-- `CreateInterrupt`. -/
def Controller.createInterrupt (board : Board) (s : Controller) (pin : Pin)
    (c : InterruptConfiguration) (callback : Bool) (n : CreateNatives) :
    Controller × PlatformResult :=
  if board.validGpio pin = false ∨ callback = false then
    (s, .failed .invalidArgument none)
  else
    let (service, result) := s.service.ensure c.affinity n.service
    let s := { s with service := service }
    if result.ok = false then (s, result) else s.createHandle pin c n

/-! ## Configuration -/

/-- The driver's configuration `Configure` asks for: the interrupt of the pin
is off in it. -/
def PinConfiguration.native (c : PinConfiguration) : NativeConfiguration where
  direction := c.direction
  pullUp := c.pull == .up || c.pull == .upDown
  pullDown := c.pull == .down || c.pull == .upDown
  interruptType := .disable

/-- `gpio_config`. -/
def Controller.gpioConfig (s : Controller) (pin : Pin) (native : NativeConfiguration)
    (answer : EspErr) : Controller :=
  if answer = .ok then
    s.setPin pin { s.pins pin with
      configuration := some native
      interruptType := native.interruptType
      interruptEnabled := native.interruptType != .disable }
  else s

/-- `Write`. -/
def Controller.write (board : Board) (s : Controller) (pin : Pin) (state : Bool)
    (answer : EspErr) : Controller × PlatformResult :=
  if board.validOutputGpio pin = false then (s, .failed .invalidArgument none)
  else
    (if answer = .ok then s.setPin pin { s.pins pin with level := state } else s,
      platformResultFromEspError answer)

/-- The pin can be configured so. -/
def Board.admits (board : Board) (pin : Pin) (c : PinConfiguration) : Bool :=
  board.validGpio pin && (c.direction == .input || board.validOutputGpio pin)

/-- `Configure`, with the driver's answers to `gpio_config` and
`gpio_set_level`. -/
def Controller.configure (board : Board) (s : Controller) (pin : Pin) (c : PinConfiguration)
    (config level : EspErr) : Controller × PlatformResult :=
  if board.admits pin c = false then (s, .failed .invalidArgument none)
  else
    let s := s.gpioConfig pin c.native config
    if config ≠ .ok then (s, platformResultFromEspError config)
    else if c.direction ≠ .input then s.write board pin c.initialState level
    else (s, .succeeded)

/-! ## Operations -/

/-- What may be done to the controller, and other code that installs the
interrupt service. -/
inductive Op
  | createInterrupt (pin : Pin) (configuration : InterruptConfiguration) (callback : Bool)
      (natives : CreateNatives)
  | enable (id : Nat) (answer : EspErr)
  | disable (id : Nat) (answer : EspErr)
  | destroy (id : Nat) (natives : DestroyNatives)
  | configure (pin : Pin) (configuration : PinConfiguration) (config level : EspErr)
  | write (pin : Pin) (state : Bool) (answer : EspErr)
  | installElsewhere (core : Core)

/-- One operation, with its result.  A handle that is no longer alive has no
operations. -/
def step (board : Board) (s : Controller) : Op → Controller × List PlatformResult
  | .createInterrupt pin configuration callback natives =>
      let done := s.createInterrupt board pin configuration callback natives
      (done.1, [done.2])
  | .enable id answer =>
      match s.handles id with
      | none => (s, [])
      | some handle => ((s.enable id handle answer).1, [(s.enable id handle answer).2])
  | .disable id answer =>
      match s.handles id with
      | none => (s, [])
      | some handle => ((s.disable id handle answer).1, [(s.disable id handle answer).2])
  | .destroy id natives =>
      match s.handles id with
      | none => (s, [])
      | some handle => (s.destroy id handle natives, [])
  | .configure pin configuration config level =>
      let done := s.configure board pin configuration config level
      (done.1, [done.2])
  | .write pin state answer =>
      let done := s.write board pin state answer
      (done.1, [done.2])
  | .installElsewhere core => ({ s with service := (s.service.install core none).1 }, [])

end IDFGPIO
