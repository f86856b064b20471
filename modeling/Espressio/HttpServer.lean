import Espressio.NetworkBytes
import Espressio.WebResult

/-!
# The locked sections of the HTTP server platform

`ESP32HttpServerPlatform` keeps its members under one mutex and calls the
native server outside it.  This file embeds each locked section as a function
on the members, and the native arguments computed between two of them.  A
whole operation is a chain of these sections with native calls in between;
whether anything runs in the gaps is decided where the sections are used.

Bindings are named by numbers.  What the server asks a binding, whether it is
active and its path, is read from a table that is passed in.
-/

namespace HttpServer

open NetworkBytes Web
open PlatformResults (EspErr)

inductive TransportMode
  | plain
  | secure
  deriving DecidableEq, Repr

/-- `HttpServerConfiguration`, as far as the platform reads it. -/
structure Configuration where
  transportMode : TransportMode
  port : UInt16
  maximumConnections : Nat
  keepAlive : Bool
  deriving DecidableEq, Repr

/-- What the server reads of a binding: `IsActive` and `PathCString`. -/
structure BindingInfo where
  active : Bool
  path : Bytes
  deriving DecidableEq, Repr

/-- The members behind the mutex. -/
structure Server where
  server : Option Nat
  starting : Bool
  dispatcher : Option Nat
  configuration : Configuration
  webSocketBindings : List Nat
  deriving DecidableEq, Repr

/-- A server platform as it is constructed.  `defaults` is a value-initialised
configuration. -/
def Server.fresh (defaults : Configuration) : Server := ⟨none, false, none, defaults, []⟩

/-- `Detail::ESP32HttpResult`. -/
def httpResult : EspErr → WebResult
  | .ok => .success
  | .invalidArg => .failure .invalidConfiguration (.esp .invalidArg)
  | .noMem => .failure .resourceExhausted (.esp .noMem)
  | .httpdAllocMem => .failure .resourceExhausted (.esp .httpdAllocMem)
  | .httpdHandlersFull => .failure .resourceExhausted (.esp .httpdHandlersFull)
  | .notFound => .failure .notFound (.esp .notFound)
  | .httpdInvalidReq => .failure .closed (.esp .httpdInvalidReq)
  | .httpdRespSend => .failure .connectionFailure (.esp .httpdRespSend)
  | .httpdRespHdr => .failure .protocolError (.esp .httpdRespHdr)
  | .httpdResultTrunc => .failure .protocolError (.esp .httpdResultTrunc)
  | e => .failure .platformFailure (.esp e)

theorem httpResult_success {e : EspErr} : httpResult e = .success ↔ e = .ok := by
  cases e <;> simp [httpResult]

/-- Nothing is running and nothing is being started. -/
def Server.idle (s : Server) : Bool := s.server.isNone && !s.starting

/-- `Initialize`. -/
def initializeServer (s : Server) (configuration : Configuration) (dispatcher : Nat) :
    Server × WebResult :=
  if s.idle = false then (s, .failure .invalidState .none)
  else if configuration.transportMode ≠ .plain then (s, .failure .unsupported .none)
  else
    ({ s with configuration := configuration, dispatcher := some dispatcher }, .success)

/-- The loop of `AddWebSocketBinding` over the bindings already held: an
active one that is this binding, or has its path, decides the result. -/
def existingBinding (info : Nat → BindingInfo) (binding : Nat) : List Nat → Option WebResult
  | [] => none
  | existing :: rest =>
      if (info existing).active = false then existingBinding info binding rest
      else if existing = binding then some .success
      else if cString (info existing).path = cString (info binding).path then
        some (.failure .invalidConfiguration .none)
      else existingBinding info binding rest

/-- The checks `AddWebSocketBinding` makes before it takes the mutex. -/
def bindable (info : BindingInfo) : Bool := info.active && info.path.head? == some 47

/-- The locked section of `AddWebSocketBinding`. -/
def addLocked (info : Nat → BindingInfo) (s : Server) (binding : Nat) : Server × WebResult :=
  if s.idle = false then (s, .failure .invalidState .none)
  else
    match existingBinding info binding s.webSocketBindings with
    | some result => (s, result)
    | none => ({ s with webSocketBindings := s.webSocketBindings ++ [binding] }, .success)

def addWebSocketBinding (info : Nat → BindingInfo) (s : Server) (binding : Nat) :
    Server × WebResult :=
  if bindable (info binding) = false then (s, .failure .invalidConfiguration .none)
  else addLocked info s binding

/-- The `erase(remove_if(…))` of `Start`, `Stop` and `Reset`. -/
def purgeInactive (info : Nat → BindingInfo) (s : Server) : Server :=
  { s with webSocketBindings := s.webSocketBindings.filter fun b => (info b).active }

def releaseWebSocketBinding (info : Nat → BindingInfo) (s : Server) (binding : Nat) : Server :=
  if s.idle = false then s
  else
    { s with
      webSocketBindings :=
        s.webSocketBindings.filter fun b => !(b == binding) && (info b).active }

/-- The fields of `httpd_config_t` that `Start` sets from the configuration. -/
structure NativeConfiguration where
  serverPort : UInt16
  maxOpenSockets : Nat
  maxUriHandlers : UInt16
  deriving DecidableEq, Repr

/-- The nine methods of `SupportedMethods`. -/
def supportedMethodCount : Nat := 9

def nativeConfiguration (c : Configuration) (bindings : List Nat) : NativeConfiguration where
  serverPort := c.port
  maxOpenSockets := min (c.maximumConnections + 3) 0xffff
  maxUriHandlers := UInt16.ofNat (supportedMethodCount + bindings.length)

/-- The first section of `Start`: refuse, or take a snapshot of the bindings
and the configuration and mark the start as under way. -/
def beginStart (info : Nat → BindingInfo) (s : Server) :
    Server × Except WebResult (List Nat × NativeConfiguration) :=
  if s.idle = false then (s, .error (.failure .alreadyRunning .none))
  else if s.dispatcher = none then (s, .error (.failure .invalidState .none))
  else
    let purged := purgeInactive info s
    ({ purged with starting := true },
      .ok (purged.webSocketBindings,
        nativeConfiguration s.configuration purged.webSocketBindings))

/-- The section of a `Start` whose native calls failed. -/
def abortStart (s : Server) : Server := { s with starting := false }

/-- The last section of a `Start` that succeeded. -/
def publishStart (s : Server) (handle : Nat) : Server :=
  { s with server := some handle, starting := false }

/-- The first section of `Stop`: return at once, or take the handle. -/
def beginStop (s : Server) : Server × Except WebResult Nat :=
  if s.starting then (s, .error (.failure .invalidState .none))
  else
    match s.server with
    | none => (s, .error .success)
    | some handle => ({ s with server := none }, .ok handle)

/-- The section of `Reset` after its `Stop`. -/
def finishReset (info : Nat → BindingInfo) (defaults : Configuration) (s : Server) : Server :=
  if s.starting then s
  else purgeInactive info { s with dispatcher := none, configuration := defaults }

@[simp] theorem idle_iff (s : Server) :
    s.idle = true ↔ s.server = none ∧ s.starting = false := by
  simp [Server.idle]

@[simp] theorem mem_purgeInactive {info : Nat → BindingInfo} {s : Server} {b : Nat} :
    b ∈ (purgeInactive info s).webSocketBindings ↔
      b ∈ s.webSocketBindings ∧ (info b).active = true := by
  simp [purgeInactive]

theorem initializeServer_keeps (s : Server) (configuration : Configuration) (dispatcher : Nat) :
    (initializeServer s configuration dispatcher).1.server = s.server ∧
      (initializeServer s configuration dispatcher).1.starting = s.starting ∧
      (initializeServer s configuration dispatcher).1.webSocketBindings =
        s.webSocketBindings := by
  unfold initializeServer
  split
  · exact ⟨rfl, rfl, rfl⟩
  · split <;> exact ⟨rfl, rfl, rfl⟩

theorem beginStop_stopped {s : Server} (hs : s.starting = false) (h : s.server = none) :
    beginStop s = (s, .error .success) := by
  simp [beginStop, hs, h]

theorem beginStop_running {s : Server} {handle : Nat} (hs : s.starting = false)
    (h : s.server = some handle) : beginStop s = ({ s with server := none }, .ok handle) := by
  simp [beginStop, hs, h]

theorem mem_of_mem_finishReset {info : Nat → BindingInfo} {defaults : Configuration}
    {s : Server} {b : Nat} (h : b ∈ (finishReset info defaults s).webSocketBindings) :
    b ∈ s.webSocketBindings := by
  unfold finishReset at h
  split at h
  · exact h
  · exact (mem_purgeInactive.mp h).1

@[simp] theorem finishReset_server (info : Nat → BindingInfo) (defaults : Configuration)
    (s : Server) : (finishReset info defaults s).server = s.server := by
  unfold finishReset; split <;> rfl

@[simp] theorem finishReset_starting (info : Nat → BindingInfo) (defaults : Configuration)
    (s : Server) : (finishReset info defaults s).starting = s.starting := by
  unfold finishReset; split <;> rfl

end HttpServer
