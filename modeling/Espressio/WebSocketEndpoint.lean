import Espressio.HttpServer
import Espressio.WebSocketBinding

/-!
# Endpoints on one HTTP server

Any number of `ESP32WebSocketEndpointPlatform`s share one
`ESP32HttpServerPlatform`.  Every endpoint owns a current `BindingState`; an
`unbind` of a bound endpoint retires it and makes a fresh one, while a
running server keeps the retired one as a handler context.  Binding states
therefore live in a heap here and are named by their position in it.

An event is one whole operation or one HTTPD callback.  Operations on an
endpoint that does not exist, or that has been destroyed, and callbacks that
HTTPD cannot make do nothing.
-/

namespace WebSocketEndpoint

open NetworkBytes Web HttpServer
open PlatformResults (EspErr)

/-- The members of an endpoint. -/
structure Endpoint where
  alive : Bool
  sink : Option Nat
  state : Nat
  deriving DecidableEq, Repr

/-- The server, the bindings that its native server has for handler contexts, and
those that native servers have which `httpd_stop` failed to stop; the endpoints
and the heap of binding states. -/
structure System where
  server : Server
  defaults : HttpServer.Configuration
  registered : List Nat
  abandoned : List Nat
  endpoints : List Endpoint
  states : List BindingState
  deriving DecidableEq, Repr

def System.fresh (defaults : HttpServer.Configuration) : System :=
  ⟨.fresh defaults, defaults, [], [], [], []⟩

/-- The handler contexts of all native servers that run. -/
def System.contexts (σ : System) : List Nat := σ.registered ++ σ.abandoned

/-- The server holds the binding state `r`. -/
def System.Held (σ : System) (r : Nat) : Prop := r ∈ σ.server.webSocketBindings

/-- A binding state that is not in the heap is one that was never made. -/
def System.state (σ : System) (r : Nat) : BindingState := σ.states.getD r (.make none)

def System.setState (σ : System) (r : Nat) (b : BindingState) : System :=
  { σ with states := σ.states.set r b }

/-- What the server reads of the binding states. -/
def System.info (σ : System) (r : Nat) : BindingInfo := ⟨(σ.state r).active, (σ.state r).path⟩

def System.setEndpoint (σ : System) (i : Nat) (e : Endpoint) : System :=
  { σ with endpoints := σ.endpoints.set i e }

/-- `MakeBindingState` in the heap. -/
def System.makeState (σ : System) (sink : Option Nat) : System × Nat :=
  ({ σ with states := σ.states ++ [.make sink] }, σ.states.length)

/-- The native answers while the server starts: `httpd_start`; the first
registration that fails, if one does, with the number of bindings registered
before it and the result of `httpd_stop` after it; and the handle. -/
structure StartNatives where
  started : EspErr
  registration : EspErr
  handlers : Nat
  stopped : EspErr
  handle : Nat
  deriving DecidableEq, Repr

/-- What `httpd_stop` does: the sessions it closes, and its result. -/
structure StopNatives where
  sessions : List Nat
  stopped : EspErr
  deriving DecidableEq, Repr

/-- An operation, or a callback of HTTPD. -/
inductive Event
  | construct
  | destroy (endpoint : Nat) (natives : Nat → SendNatives)
  | setSink (endpoint : Nat) (sink : Option Nat)
  | bind (endpoint : Nat) (configuration : Configuration)
  | unbind (endpoint : Nat) (natives : Nat → SendNatives)
  | initializeServer (configuration : HttpServer.Configuration) (dispatcher : Nat)
  | startServer (natives : StartNatives)
  | stopServer (natives : StopNatives)
  | resetServer (natives : StopNatives)
  | request (binding : Nat) (natives : RequestNatives) (request : Request)
  | sessionClosed (socket : Nat)
  | sendCompleted (socket : Nat) (closeAfterSend : Bool)

/-- The constructor of an endpoint. -/
def System.construct (σ : System) : System :=
  let (σ', r) := σ.makeState none
  { σ' with endpoints := σ'.endpoints ++ [⟨true, none, r⟩] }

/-- The endpoint's own `NotifyActivity`. -/
def Endpoint.notifyActivity (e : Endpoint) (a : Activity) : List Effect :=
  notify e.sink (.activity a)

def System.setSink (σ : System) (i : Nat) (e : Endpoint) (sink : Option Nat) : System :=
  (σ.setState e.state ((σ.state e.state).setSink sink)).setEndpoint i { e with sink := sink }

def System.bind (σ : System) (e : Endpoint) (configuration : Configuration) :
    System × WebResult × List Effect :=
  let b := σ.state e.state
  if b.active then (σ, .failure .alreadyRunning .none, [])
  else
    let requested := e.notifyActivity ⟨.bindRequested, 0, .text, 0, .success, 0,
      .given configuration.path⟩
    match b.prepare configuration with
    | (b', .failure error native) =>
        (σ.setState e.state b', .failure error native,
          requested ++ e.notifyActivity ⟨.protocolError, 0, .text, 0, .failure error native, 0,
            .literal "websocket endpoint prepare failed"⟩)
    | (b', .success) =>
        let σ' := σ.setState e.state b'.activate
        match addWebSocketBinding σ'.info σ'.server e.state with
        | (_, .failure error native) =>
            (σ'.setState e.state b'.deactivate, .failure error native,
              requested ++ e.notifyActivity ⟨.protocolError, 0, .text, 0,
                .failure error native, 0,
                .literal "HTTPD websocket binding registration failed"⟩)
        | (server, .success) =>
            ({ σ' with server := server }, .success,
              requested ++ e.notifyActivity ⟨.bound, 0, .text, 0, .success, 0,
                .given configuration.path⟩)

def System.unbind (σ : System) (i : Nat) (e : Endpoint) (natives : Nat → SendNatives) :
    System × WebResult × List Effect :=
  let b := σ.state e.state
  if b.active = false then
    ({ σ with server := releaseWebSocketBinding σ.info σ.server e.state }, .success, [])
  else
    let (closed, result, effects) := b.closeAll natives 1001 (ascii "endpoint unbound")
    let retired := σ.setState e.state closed.deactivate
    let released :=
      { retired with server := releaseWebSocketBinding retired.info retired.server e.state }
    let (σ', r) := released.makeState e.sink
    (σ'.setEndpoint i { e with state := r }, result,
      effects ++ e.notifyActivity ⟨.unbound, 0, .close, 0, result, 1001,
        .literal "websocket endpoint unbound"⟩)

/-- The destructor: `Unbind`, and then the sink of the state that is current
after it is cleared. -/
def System.destroy (σ : System) (i : Nat) (e : Endpoint) (natives : Nat → SendNatives) :
    System × List Effect :=
  let (σ', _, effects) := σ.unbind i e natives
  let current := (σ'.endpoints.getD i e).state
  ((σ'.setState current ((σ'.state current).setSink none)).setEndpoint i
      ⟨false, e.sink, current⟩, effects)

/-- `NotifySessionClosed` over the bindings of the server. -/
def System.notifySessionClosed (σ : System) (socket : Nat) : List Nat → System × List Effect
  | [] => (σ, [])
  | r :: rest =>
      let (b, effects) := (σ.state r).onHttpSessionClosed socket
      let (σ', more) := (σ.setState r b).notifySessionClosed socket rest
      (σ', effects ++ more)

def System.sessionClosed (σ : System) (socket : Nat) : System × List Effect :=
  σ.notifySessionClosed socket σ.server.webSocketBindings

/-- The sessions that `httpd_stop` closes, one after the other. -/
def System.closeSessions (σ : System) : List Nat → System × List Effect
  | [] => (σ, [])
  | socket :: rest =>
      let (σ', effects) := σ.sessionClosed socket
      let (σ'', more) := σ'.closeSessions rest
      (σ'', effects ++ more)

/-- What `httpd_stop` leaves of a native server with these handler contexts: one
that it fails to stop runs on. -/
def leftRunning (stopped : EspErr) (contexts : List Nat) : List Nat :=
  if stopped = .ok then [] else contexts

def System.startServer (σ : System) (n : StartNatives) : System × WebResult :=
  match beginStart σ.info σ.server with
  | (server, .error result) => ({ σ with server := server }, result)
  | (server, .ok (bindings, _)) =>
      if n.started ≠ .ok then ({ σ with server := abortStart server }, httpResult n.started)
      else if n.registration ≠ .ok then
        ({ σ with
            server := abortStart server
            abandoned := σ.abandoned ++ leftRunning n.stopped (bindings.take n.handlers) },
          httpResult n.registration)
      else ({ σ with server := publishStart server n.handle, registered := bindings }, .success)

/-- `Stop`.  The sessions that HTTPD closes before `httpd_stop` returns still find
the bindings that are purged afterwards.  The purge does not ask whether the
native server has been stopped. -/
def System.stopServer (σ : System) (n : StopNatives) : System × WebResult × List Effect :=
  match beginStop σ.server with
  | (_, .error result) => (σ, result, [])
  | (server, .ok _) =>
      let (σ', effects) := ({ σ with server := server }).closeSessions n.sessions
      ({ σ' with
          server := purgeInactive σ'.info σ'.server
          registered := []
          abandoned := σ'.abandoned ++ leftRunning n.stopped σ'.registered },
        httpResult n.stopped, effects)

def System.resetServer (σ : System) (n : StopNatives) : System × List Effect :=
  let (σ', _, effects) := σ.stopServer n
  ({ σ' with server := finishReset σ'.info σ'.defaults σ'.server }, effects)

/-- `DispatchWebSocketRequest` for a handler of a native server that runs. -/
def System.dispatchRequest (σ : System) (r : Nat) (n : RequestNatives) (q : Request) :
    System × List Effect :=
  if r ∈ σ.contexts ∧ (σ.state r).active then
    let (b, _, effects) := (σ.state r).handleWebSocketRequest n q
    (σ.setState r b, effects)
  else (σ, [])

/-- `SendCompleted`: it calls no sink. -/
def sendCompleted (socket : Nat) (closeAfterSend : Bool) : List Effect :=
  if closeAfterSend then [.triggerClose socket] else []

/-- What an event comes to: the next state, the result of the operation, its
own effects, and those of the HTTPD callbacks made in it. -/
structure Outcome where
  next : System
  result : WebResult
  effects : List Effect
  callbacks : List Effect

/-- An operation on a live endpoint. -/
def System.onEndpoint (σ : System) (i : Nat)
    (op : Endpoint → System × WebResult × List Effect) : Outcome :=
  match σ.endpoints[i]? with
  | none => ⟨σ, .success, [], []⟩
  | some e =>
      if e.alive then
        let (σ', result, effects) := op e
        ⟨σ', result, effects, []⟩
      else ⟨σ, .success, [], []⟩

def System.step (σ : System) : Event → Outcome
  | .construct => ⟨σ.construct, .success, [], []⟩
  | .destroy i natives => σ.onEndpoint i fun e =>
      ((σ.destroy i e natives).1, .success, (σ.destroy i e natives).2)
  | .setSink i sink => σ.onEndpoint i fun e => (σ.setSink i e sink, .success, [])
  | .bind i configuration => σ.onEndpoint i fun e => σ.bind e configuration
  | .unbind i natives => σ.onEndpoint i fun e => σ.unbind i e natives
  | .initializeServer configuration dispatcher =>
      let (server, result) := HttpServer.initializeServer σ.server configuration dispatcher
      ⟨{ σ with server := server }, result, [], []⟩
  | .startServer natives =>
      let (σ', result) := σ.startServer natives
      ⟨σ', result, [], []⟩
  | .stopServer natives =>
      let (σ', result, callbacks) := σ.stopServer natives
      ⟨σ', result, [], callbacks⟩
  | .resetServer natives =>
      let (σ', callbacks) := σ.resetServer natives
      ⟨σ', .success, [], callbacks⟩
  | .request r natives q =>
      let (σ', callbacks) := σ.dispatchRequest r natives q
      ⟨σ', .success, [], callbacks⟩
  | .sessionClosed socket =>
      let (σ', callbacks) := σ.sessionClosed socket
      ⟨σ', .success, [], callbacks⟩
  | .sendCompleted socket closeAfterSend =>
      ⟨σ, .success, [], sendCompleted socket closeAfterSend⟩

/-- The system as a labelled transition relation. -/
def System.Steps (σ : System) (e : Event) (τ : System) : Prop := (σ.step e).next = τ

theorem System.state_setState (σ : System) (r q : Nat) (b : BindingState) :
    (σ.setState r b).state q = if r = q ∧ r < σ.states.length then b else σ.state q := by
  unfold System.state System.setState
  simp only [List.getD_eq_getElem?_getD, List.getElem?_set]
  by_cases hq : r = q
  · subst hq
    by_cases hr : r < σ.states.length <;> simp [hr]
  · simp [hq]

theorem System.state_makeState (σ : System) (sink : Option Nat) (q : Nat) :
    (σ.makeState sink).1.state q = if q = σ.states.length then .make sink else σ.state q := by
  unfold System.state System.makeState
  simp only [List.getD_eq_getElem?_getD, List.getElem?_append, List.getElem?_singleton]
  split
  · rw [if_neg (by omega)]
  · rename_i h
    by_cases hq : q = σ.states.length
    · simp [hq]
    · rw [if_neg hq, if_neg (by omega), List.getElem?_eq_none (by omega)]

end WebSocketEndpoint
