import Espressio.NetworkBytes
import Espressio.WebResult

/-!
# One endpoint connection

`ESP32WebSocketConnection` as its operations compute it.  An operation takes
the connection and the answers of the native calls it makes, and returns the
connection it leaves, its result, and what it did to the outside world: calls
of a sink, and frames and close requests handed to HTTPD.

Each operation is atomic here.  Sinks, servers and sockets are named by
numbers; `none` is a null pointer.
-/

namespace WebSocketEndpoint

open NetworkBytes Web
open PlatformResults (EspErr)

def maxMessageBytes : Nat := 65536

/-- `httpd_ws_type_t`; a value outside the enumeration keeps its opcode. -/
inductive FrameType
  | continuation
  | text
  | binary
  | close
  | ping
  | pong
  | other (opcode : Nat)
  deriving DecidableEq, Repr

/-- The frame types an activity can name. -/
inductive ActivityFrameType
  | text
  | binary
  | ping
  | pong
  | close
  deriving DecidableEq, Repr

/-- `Detail::ESP32WebSocketFrameType`. -/
def webSocketFrameType : FrameType → ActivityFrameType
  | .text => .text
  | .binary => .binary
  | .ping => .ping
  | .pong => .pong
  | .close => .close
  | .continuation | .other _ => .binary

/-- `Detail::ESP32WebSocketResult`. -/
def webSocketResult : EspErr → WebResult
  | .ok => .success
  | .invalidArg => .failure .invalidConfiguration (.esp .invalidArg)
  | .noMem => .failure .resourceExhausted (.esp .noMem)
  | .invalidState => .failure .invalidState (.esp .invalidState)
  | .notFound => .failure .closed (.esp .notFound)
  | e => .failure .connectionFailure (.esp e)

inductive ActivityKind
  | bindRequested
  | bound
  | unbound
  | upgradeRequested
  | connectionCreated
  | frameHeaderReceived
  | framePayloadReceived
  | fragmentStarted
  | fragmentCompleted
  | pingReceived
  | pongReceived
  | peerCloseReceived
  | closeRequested
  | sendQueued
  | sendFailed
  | receiveFailed
  | protocolError
  | sessionClosed
  deriving DecidableEq, Repr

/-- The text of an activity: a literal of the platform, or bytes it was
given. -/
inductive Detail
  | literal (text : String)
  | given (bytes : Bytes)
  deriving DecidableEq, Repr

structure Activity where
  kind : ActivityKind
  id : Nat
  frameType : ActivityFrameType
  size : Nat
  result : WebResult
  code : UInt16
  detail : Detail
  deriving DecidableEq, Repr

/-- A method of `IWebSocketEndpointPlatformSink`. -/
inductive SinkCall
  | activity (a : Activity)
  | connected (id : Nat)
  | text (id : Nat) (payload : Bytes)
  | binary (id : Nat) (payload : Bytes)
  | disconnected (id : Nat) (code : UInt16) (reason : Bytes)
  deriving DecidableEq, Repr

/-- What an operation does outside the objects it owns. -/
inductive Effect
  | sinkCall (sink : Nat) (call : SinkCall)
  | sendFrame (socket : Nat) (type : FrameType) (payload : Bytes)
  | queueFrame (socket : Nat) (type : FrameType) (payload : Bytes) (closeAfterSend : Bool)
  | triggerClose (socket : Nat)
  deriving DecidableEq, Repr

/-- Tell a sink, if there is one. -/
def notify (sink : Option Nat) (call : SinkCall) : List Effect :=
  match sink with
  | some s => [.sinkCall s call]
  | none => []

structure Connection where
  server : Option Nat
  socket : Nat
  isOpen : Bool
  activitySink : Option Nat
  closeCode : UInt16
  closeReason : Bytes
  fragmenting : Bool
  fragmentType : FrameType
  fragmentBuffer : Bytes
  deriving DecidableEq, Repr

/-- The constructor of `ESP32WebSocketConnection`. -/
def Connection.create (server : Option Nat) (socket : Nat) (activitySink : Option Nat) :
    Connection where
  server := server
  socket := socket
  isOpen := true
  activitySink := activitySink
  closeCode := 1006
  closeReason := []
  fragmenting := false
  fragmentType := .binary
  fragmentBuffer := []

/-- How an allocation ended: it succeeded, threw `bad_alloc`, or threw
something else. -/
inductive Allocation
  | succeeded
  | outOfMemory
  | threw
  deriving DecidableEq, Repr

/-- The native answers while a frame is queued: whether the descriptor is
still a WebSocket, the allocation of the send operation, and the verdict of
`httpd_ws_send_data_async`. -/
structure SendNatives where
  isWebSocket : Bool
  allocation : Allocation
  queued : EspErr
  deriving DecidableEq, Repr

/-- `ESP32WebSocketConnection::NotifyActivity`. -/
def Connection.notifyActivity (c : Connection) (a : Activity) : List Effect :=
  notify c.activitySink (.activity a)

def Connection.sendFailed (c : Connection) (type : FrameType) (size : Nat) (result : WebResult)
    (detail : String) : WebResult × List Effect :=
  (result, c.notifyActivity
    ⟨.sendFailed, c.socket, webSocketFrameType type, size, result, 0, .literal detail⟩)

def Connection.queueOwnedFrame (c : Connection) (n : SendNatives) (type : FrameType)
    (payload : Bytes) (closeAfterSend allowClosed : Bool) : WebResult × List Effect :=
  if (allowClosed = false ∧ c.isOpen = false) ∨ c.server = none then
    c.sendFailed type payload.length (.failure .closed .none) "connection unavailable"
  else if n.isWebSocket = false then
    c.sendFailed type payload.length (.failure .closed .none)
      "HTTPD session is not a websocket"
  else
    match n.allocation with
    | .outOfMemory =>
        c.sendFailed type payload.length (.failure .resourceExhausted .none)
          "send operation allocation failed"
    | .threw =>
        c.sendFailed type payload.length (.failure .platformFailure .none)
          "send operation construction failed"
    | .succeeded =>
        if n.queued ≠ .ok then
          c.sendFailed type payload.length (webSocketResult n.queued)
            "httpd_ws_send_data_async rejected frame"
        else
          (.success, .queueFrame c.socket type payload closeAfterSend :: c.notifyActivity
            ⟨.sendQueued, c.socket, webSocketFrameType type, payload.length, .success, 0,
              .literal "frame queued to HTTPD"⟩)

/-- `QueueFrame`; a null data pointer with a positive size is `none`. -/
def Connection.queueFrame (c : Connection) (n : SendNatives) (type : FrameType)
    (data : Option Bytes) (size : Nat) (closeAfterSend : Bool) : WebResult × List Effect :=
  if c.isOpen = false ∨ c.server = none then
    c.sendFailed type size (.failure .closed .none) "connection closed before send"
  else if size ≠ 0 then
    match data with
    | none => (.failure .invalidConfiguration .none, [])
    | some bytes => c.queueOwnedFrame n type (bytes.take size) closeAfterSend false
  else c.queueOwnedFrame n type [] closeAfterSend false

def Connection.sendBinary (c : Connection) (n : SendNatives) (data : Option Bytes)
    (size : Nat) : WebResult × List Effect :=
  if data = none ∨ size = 0 then (.failure .invalidConfiguration .none, [])
  else c.queueFrame n .binary data size false

def Connection.sendText (c : Connection) (n : SendNatives) (text : Bytes) :
    WebResult × List Effect :=
  c.queueFrame n .text (some text) text.length false

/-- The payload of a Close frame: the code in network order and at most 123
bytes of the reason. -/
def closePayload (code : UInt16) (reason : Bytes) : Bytes :=
  [(code >>> 8).toUInt8, code.toUInt8] ++ reason.take 123

/-- `ESP32WebSocketConnection::Close`: nothing happens to a connection that is
no longer open. -/
def Connection.close (c : Connection) (n : SendNatives) (code : UInt16) (reason : Bytes) :
    Connection × WebResult × List Effect :=
  if c.isOpen = false then (c, .success, [])
  else
    let closing := { c with isOpen := false, closeCode := code, closeReason := reason }
    let requested := closing.notifyActivity
      ⟨.closeRequested, c.socket, .close, reason.length, .success, code, .given reason⟩
    let (result, queued) :=
      closing.queueOwnedFrame n .close (closePayload code reason) true true
    let trigger :=
      if result ≠ .success ∧ c.server ≠ none then [Effect.triggerClose c.socket] else []
    (closing, result, requested ++ queued ++ trigger)

/-- `Detail::ReadNetworkUInt16` on the first two bytes of a payload. -/
def readNetworkUInt16 (hi lo : UInt8) : UInt16 := join16 hi lo

def Connection.rememberPeerClose (c : Connection) (payload : Bytes) : Connection :=
  match payload with
  | hi :: lo :: reason =>
      { c with isOpen := false, closeCode := readNetworkUInt16 hi lo, closeReason := reason }
  | _ => { c with isOpen := false, closeCode := 1000, closeReason := [] }

/-- `AccumulateFragment`: the connection, the result, and the message that the
frame completes. -/
def Connection.accumulateFragment (c : Connection) (type : FrameType) (final : Bool)
    (payload : Bytes) : Connection × WebResult × Option (FrameType × Bytes) :=
  if type = .text ∨ type = .binary then
    if c.fragmenting then (c, .failure .protocolError .none, none)
    else if final then (c, .success, some (type, payload))
    else if maxMessageBytes < payload.length then (c, .failure .resourceExhausted .none, none)
    else
      ({ c with fragmenting := true, fragmentType := type, fragmentBuffer := payload },
        .success, none)
  else if type ≠ .continuation ∨ c.fragmenting = false then
    (c, .failure .protocolError .none, none)
  else if maxMessageBytes < c.fragmentBuffer.length + payload.length then
    ({ c with fragmenting := false, fragmentBuffer := [] },
      .failure .resourceExhausted .none, none)
  else if final then
    ({ c with fragmentBuffer := [], fragmenting := false }, .success,
      some (c.fragmentType, c.fragmentBuffer ++ payload))
  else ({ c with fragmentBuffer := c.fragmentBuffer ++ payload }, .success, none)

end WebSocketEndpoint
