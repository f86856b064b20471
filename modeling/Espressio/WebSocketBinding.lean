import Espressio.WebSocketConnection

/-!
# A binding's state and its HTTPD callbacks

`BindingState` is what the endpoint shares with the HTTP server: the route, a
sink and the connections that HTTPD has shown it.  HTTPD calls
`handleWebSocketRequest` for the upgrade and for every frame, and
`onHttpSessionClosed` when a session ends.

The native calls made on the way answer as `RequestNatives` says.  The
payload buffer of a frame within the limit is taken to be allocated.
-/

namespace WebSocketEndpoint

open NetworkBytes Web
open PlatformResults (EspErr)

structure BindingState where
  active : Bool
  sink : Option Nat
  path : Bytes
  protocol : Bytes
  connections : List Connection
  deriving DecidableEq, Repr

/-- `WebSocketEndpointConfiguration`. -/
structure Configuration where
  path : Bytes
  protocol : Bytes
  deriving DecidableEq, Repr

/-- `MakeBindingState`. -/
def BindingState.make (sink : Option Nat) : BindingState := ⟨false, sink, [], [], []⟩

def Connection.setActivitySink (c : Connection) (sink : Option Nat) : Connection :=
  { c with activitySink := sink }

def BindingState.setSink (b : BindingState) (sink : Option Nat) : BindingState :=
  { b with sink := sink, connections := b.connections.map (·.setActivitySink sink) }

def BindingState.prepare (b : BindingState) (configuration : Configuration) :
    BindingState × WebResult :=
  if configuration.path.head? ≠ some 47 then (b, .failure .invalidConfiguration .none)
  else if b.active then (b, .failure .alreadyRunning .none)
  else
    ({ b with path := configuration.path, protocol := configuration.protocol }, .success)

def BindingState.activate (b : BindingState) : BindingState := { b with active := true }
def BindingState.deactivate (b : BindingState) : BindingState := { b with active := false }

/-- The loop of `CloseAll`.  The last failure is its result. -/
def closeConnections (natives : Nat → SendNatives) (code : UInt16) (reason : Bytes) :
    List Connection → List Connection × WebResult × List Effect
  | [] => ([], .success, [])
  | c :: rest =>
      let (closed, result, effects) := c.close (natives c.socket) code reason
      let (others, final, more) := closeConnections natives code reason rest
      (closed :: others, if final = .success then result else final, effects ++ more)

def BindingState.closeAll (b : BindingState) (natives : Nat → SendNatives) (code : UInt16)
    (reason : Bytes) : BindingState × WebResult × List Effect :=
  let (connections, result, effects) := closeConnections natives code reason b.connections
  ({ b with connections := connections }, result, effects)

/-- A frame as HTTPD hands it over. -/
structure WsFrame where
  type : FrameType
  final : Bool
  payload : Bytes
  deriving DecidableEq, Repr

/-- What `HandleWebSocketRequest` reads of a request: the method of the
upgrade is GET, any other request carries a frame. -/
structure Request where
  isGet : Bool
  handle : Option Nat
  socket : Int
  frame : WsFrame
  deriving DecidableEq, Repr

/-- The native answers during one request: whether HTTPD takes the socket for
a WebSocket, the allocation of a connection, the two reads of the frame, the
answer to a Ping or Close, and the calls made while a Close is queued. -/
structure RequestNatives where
  isWebSocket : Bool
  creation : Allocation
  header : EspErr
  payload : EspErr
  reply : EspErr
  close : SendNatives
  deriving DecidableEq, Repr

/-- A request all of whose native calls succeed. -/
def RequestNatives.allOk : RequestNatives :=
  ⟨true, .succeeded, .ok, .ok, .ok, ⟨true, .succeeded, .ok⟩⟩

def BindingState.notifyActivity (b : BindingState) (a : Activity) : List Effect :=
  notify b.sink (.activity a)

def BindingState.findConnection (b : BindingState) (socket : Nat) : Option Connection :=
  b.connections.find? (·.socket = socket)

/-- Write a connection back in the place it was found at. -/
def replaceConnection (c : Connection) : List Connection → List Connection
  | [] => []
  | d :: rest => if d.socket = c.socket then c :: rest else d :: replaceConnection c rest

def BindingState.storeConnection (b : BindingState) (c : Connection) : BindingState :=
  { b with connections := replaceConnection c b.connections }

def BindingState.ensureConnection (b : BindingState) (n : RequestNatives) (handle : Option Nat)
    (socket : Nat) (detail : String) : BindingState × Option Connection × List Effect :=
  match b.findConnection socket with
  | some c => (b, some c, [])
  | none =>
      match n.creation with
      | .outOfMemory =>
          (b, none, b.notifyActivity ⟨.receiveFailed, socket, .binary, 0,
            .failure .resourceExhausted .none, 0,
            .literal "websocket connection allocation failed"⟩)
      | .threw =>
          (b, none, b.notifyActivity ⟨.receiveFailed, socket, .binary, 0,
            .failure .platformFailure .none, 0,
            .literal "websocket connection construction failed"⟩)
      | .succeeded =>
          let c := Connection.create handle socket b.sink
          ({ b with connections := b.connections ++ [c] }, some c,
            b.notifyActivity ⟨.connectionCreated, socket, .text, 0, .success, 0,
              .literal detail⟩ ++
            notify b.sink (.connected socket))

/-- The GET branch of `HandleWebSocketRequest`. -/
def BindingState.handleUpgrade (b : BindingState) (n : RequestNatives) (handle : Option Nat)
    (socket : Nat) : BindingState × EspErr × List Effect :=
  let requested := b.notifyActivity ⟨.upgradeRequested, socket, .text, 0, .success, 0,
    .literal "HTTPD websocket upgrade request"⟩
  let (b', connection, effects) := b.ensureConnection n handle socket
    "ESP32 websocket connection object created"
  (b', if connection.isSome then .ok else .fail, requested ++ effects)

/-- The connection a frame belongs to.  A socket that HTTPD takes for a
WebSocket but that is not tracked yet is recovered. -/
def BindingState.trackedConnection (b : BindingState) (n : RequestNatives) (handle : Option Nat)
    (socket : Nat) : BindingState × Option Connection × List Effect :=
  match b.findConnection socket with
  | some c => (b, some c, [])
  | none =>
      if handle.isSome ∧ n.isWebSocket then
        b.ensureConnection n handle socket
          "ESP32 websocket connection recovered from first frame"
      else (b, none, [])

/-- Hand a message to the sink. -/
def BindingState.deliver (b : BindingState) (id : Nat) (type : FrameType) (payload : Bytes) :
    List Effect :=
  match type with
  | .text => notify b.sink (.text id payload)
  | .binary => notify b.sink (.binary id payload)
  | _ => []

/-- A frame that belongs to a message: everything `HandleWebSocketRequest`
does after the control frames. -/
def BindingState.handleDataFrame (b : BindingState) (n : RequestNatives) (c : Connection)
    (f : WsFrame) : BindingState × EspErr × List Effect :=
  let started :=
    if f.final = false ∧ (f.type = .text ∨ f.type = .binary) then
      b.notifyActivity ⟨.fragmentStarted, c.socket, webSocketFrameType f.type,
        f.payload.length, .success, 0, .literal "fragmented websocket message started"⟩
    else []
  match c.accumulateFragment f.type f.final f.payload with
  | (c', .failure error native, _) =>
      let code : UInt16 := if error = .resourceExhausted then 1009 else 1002
      let (closed, _, effects) := c'.close n.close code (ascii "invalid websocket message")
      (b.storeConnection closed, .ok,
        started ++ b.notifyActivity ⟨.protocolError, c.socket, webSocketFrameType f.type,
          f.payload.length, .failure error native, code,
          .literal "invalid websocket fragmentation sequence"⟩ ++ effects)
  | (c', .success, none) => (b.storeConnection c', .ok, started)
  | (c', .success, some (type, payload)) =>
      let completed :=
        if f.type = .continuation ∨ f.final = false then
          b.notifyActivity ⟨.fragmentCompleted, c.socket, webSocketFrameType type,
            payload.length, .success, 0, .literal "fragmented websocket message completed"⟩
        else []
      (b.storeConnection c', .ok, started ++ completed ++ b.deliver c.socket type payload)

/-- A frame whose payload has been read. -/
def BindingState.handleFrame (b : BindingState) (n : RequestNatives) (c : Connection)
    (f : WsFrame) : BindingState × EspErr × List Effect :=
  match f.type with
  | .ping =>
      (b, n.reply,
        b.notifyActivity ⟨.pingReceived, c.socket, .ping, f.payload.length, .success, 0,
          .literal "ping received; replying pong"⟩ ++
        [.sendFrame c.socket .pong f.payload])
  | .pong =>
      (b, .ok, b.notifyActivity ⟨.pongReceived, c.socket, .pong, f.payload.length, .success, 0,
        .literal "pong received"⟩)
  | .close =>
      let code : UInt16 := match f.payload with
        | hi :: lo :: _ => readNetworkUInt16 hi lo
        | _ => 1000
      (b.storeConnection (c.rememberPeerClose f.payload), .ok,
        b.notifyActivity ⟨.peerCloseReceived, c.socket, .close, f.payload.length, .success,
          code, .literal "peer close frame received"⟩ ++
        [.sendFrame c.socket .close f.payload, .triggerClose c.socket])
  | _ => b.handleDataFrame n c f

/-- Read a frame for a tracked connection and handle it. -/
def BindingState.receiveFrame (b : BindingState) (n : RequestNatives) (c : Connection)
    (f : WsFrame) : BindingState × EspErr × List Effect :=
  if n.header ≠ .ok then
    (b, n.header, b.notifyActivity ⟨.receiveFailed, c.socket, .binary, 0,
      webSocketResult n.header, 0, .literal "failed reading websocket frame header"⟩)
  else
    let header := b.notifyActivity ⟨.frameHeaderReceived, c.socket, webSocketFrameType f.type,
      f.payload.length, .success, 0,
      .literal (if f.final then "final frame header" else "fragmented frame header")⟩
    if maxMessageBytes < f.payload.length then
      let (closed, _, effects) := c.close n.close 1009 (ascii "message too large")
      (b.storeConnection closed, .ok,
        header ++ b.notifyActivity ⟨.protocolError, c.socket, webSocketFrameType f.type,
          f.payload.length, .failure .resourceExhausted .none, 1009,
          .literal "websocket message exceeds configured maximum"⟩ ++ effects)
    else if n.payload ≠ .ok then
      (b, n.payload,
        header ++ b.notifyActivity ⟨.receiveFailed, c.socket, webSocketFrameType f.type,
          f.payload.length, webSocketResult n.payload, 0,
          .literal "failed reading websocket frame payload"⟩)
    else
      let received := b.notifyActivity ⟨.framePayloadReceived, c.socket,
        webSocketFrameType f.type, f.payload.length, .success, 0,
        .literal "websocket frame payload received"⟩
      let (b', result, effects) := b.handleFrame n c f
      (b', result, header ++ received ++ effects)

def BindingState.handleWebSocketRequest (b : BindingState) (n : RequestNatives) (r : Request) :
    BindingState × EspErr × List Effect :=
  if b.active = false ∨ r.socket < 0 then (b, .fail, [])
  else if r.isGet then b.handleUpgrade n r.handle r.socket.toNat
  else
    let (b', connection, created) := b.trackedConnection n r.handle r.socket.toNat
    match connection with
    | none =>
        (b', .fail, created ++ b'.notifyActivity ⟨.receiveFailed, r.socket.toNat, .binary, 0,
          .failure .notFound .none, 0,
          .literal "frame arrived without tracked websocket connection"⟩)
    | some c =>
        let (b'', result, effects) := b'.receiveFrame n c r.frame
        (b'', result, created ++ effects)

/-- `OnHttpSessionClosed`: the connection is dropped, marked closed, and the
sink is told. -/
def BindingState.onHttpSessionClosed (b : BindingState) (socket : Nat) :
    BindingState × List Effect :=
  match b.findConnection socket with
  | none => (b, [])
  | some c =>
      ({ b with connections := b.connections.eraseP (·.socket = socket) },
        b.notifyActivity ⟨.sessionClosed, c.socket, .close, c.closeReason.length, .success,
          c.closeCode, .literal "HTTPD websocket session closed"⟩ ++
        notify b.sink (.disconnected c.socket c.closeCode c.closeReason))

end WebSocketEndpoint
