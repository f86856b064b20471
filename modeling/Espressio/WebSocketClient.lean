import Espressio.Fragments
import Espressio.NetworkBytes

/-!
# The WebSocket client's event side

The native client runs in its own task and raises events.  This file embeds
what `ESP32WebSocketClientPlatform` does with them: `handleConnected`,
`handleDisconnected` and `handleData` with the reassembly of a frame that
arrives in several DATA events.  `establish` is the part of `Connect` that
resets the session before the native client is started.

A DATA event names the frame's opcode, its payload length and the offset of
this chunk.  It does not carry the FIN bit, so a fragment and a whole message
look the same to `handleData`.
-/

namespace WebSocketClient

open NetworkBytes

def maxMessageBytes : Nat := 65536

def opcodeContinuation : UInt8 := 0x0
def opcodeText : UInt8 := 0x1
def opcodeBinary : UInt8 := 0x2
def opcodeClose : UInt8 := 0x8
def opcodePing : UInt8 := 0x9
def opcodePong : UInt8 := 0xA

/-- The fields of `esp_websocket_event_data_t` that `HandleData` reads.
A null `data_ptr` only comes with length zero. -/
structure DataEvent where
  opCode : UInt8
  payloadLen : Int
  payloadOffset : Int
  dataPtr : Option Bytes
  dataLen : Int
  deriving DecidableEq, Repr

/-- What the platform reports to its sink. -/
inductive SinkCall
  | connected (id : Nat)
  | disconnected (code : UInt16) (reason : Bytes)
  | text (id : Nat) (payload : Bytes)
  | binary (id : Nat) (payload : Bytes)
  deriving DecidableEq, Repr

/-- The members of the platform that the event handlers use.  Handles,
connections and sinks are named by numbers; `none` is a null pointer. -/
structure ClientState where
  client : Option Nat
  sink : Option Nat
  connection : Option Nat
  connectionOpen : Bool
  connected : Bool
  disconnectNotified : Bool
  incomingFrame : Bytes
  incomingOpcode : UInt8
  requestedCloseCode : UInt16
  requestedCloseReason : Bytes
  peerCloseCode : UInt16
  peerCloseReason : Bytes
  deriving DecidableEq, Repr

/-- A platform as it is constructed, with its sink set. -/
def initial (sink : Option Nat) : ClientState where
  client := none
  sink := sink
  connection := none
  connectionOpen := false
  connected := false
  disconnectNotified := true
  incomingFrame := []
  incomingOpcode := 0
  requestedCloseCode := 1000
  requestedCloseReason := []
  peerCloseCode := 1000
  peerCloseReason := []

/-- `Connect` once the native client exists: the members it resets. -/
def establish (s : ClientState) (client id : Nat) : ClientState :=
  { s with
    client := some client
    connection := some id
    connectionOpen := false
    connected := false
    disconnectNotified := true
    incomingFrame := []
    incomingOpcode := 0
    requestedCloseCode := 1000
    requestedCloseReason := []
    peerCloseCode := 1000
    peerCloseReason := [] }

def handleConnected (s : ClientState) : ClientState × List SinkCall :=
  match s.client, s.connection with
  | some _, some id =>
      ({ s with
          connected := true
          disconnectNotified := false
          connectionOpen := true
          peerCloseCode := 1000
          peerCloseReason := [] },
        if s.sink.isSome then [.connected id] else [])
  | _, _ => (s, [])

/-- The text of the reason for an unclean disconnect. -/
def connectionLost : Bytes := ascii "connection lost"

def handleDisconnected (s : ClientState) (clean : Bool) : ClientState × List SinkCall :=
  let down := { s with connected := false, connectionOpen := false }
  if s.disconnectNotified then (down, [])
  else
    let notified := { down with disconnectNotified := true }
    let (code, reason) :=
      if clean then
        if s.peerCloseReason ≠ [] ∨ s.peerCloseCode ≠ 1000 then
          (s.peerCloseCode, s.peerCloseReason)
        else (s.requestedCloseCode, s.requestedCloseReason)
      else (1006, connectionLost)
    (notified, if s.sink.isSome then [.disconnected code reason] else [])

/-- `Detail::ESP32ReadNetworkUInt16` on the first two bytes of a payload. -/
def readNetworkUInt16 (hi lo : UInt8) : UInt16 := join16 hi lo

def rememberPeerClose (s : ClientState) (payload : Bytes) : ClientState :=
  match payload with
  | hi :: lo :: reason =>
      { s with peerCloseCode := readNetworkUInt16 hi lo, peerCloseReason := reason }
  | _ => { s with peerCloseCode := 1000, peerCloseReason := [] }

def dispatchPayload (s : ClientState) (opcode : UInt8) (payload : Bytes) : List SinkCall :=
  match s.connection with
  | some id =>
      if s.connected ∧ s.sink.isSome then
        if opcode = opcodeText then [.text id payload] else [.binary id payload]
      else []
  | none => []

/-- What happens to a frame whose bytes are all there. -/
def completeFrame (s : ClientState) (opcode : UInt8) (payload : Bytes) :
    ClientState × List SinkCall :=
  if opcode = opcodeClose then (rememberPeerClose s payload, [])
  else if opcode = opcodeText ∨ opcode = opcodeBinary then
    (s, dispatchPayload s opcode payload)
  else (s, [])

/-- The locked section of `HandleData`: add one chunk to the frame being
collected, and hand the frame out when this was its last chunk. -/
def assembleChunk (s : ClientState) (opcode : UInt8) (payloadLength offset dataLength : Nat)
    (dataPtr : Option Bytes) : ClientState × Option (UInt8 × Bytes) :=
  let s := if offset = 0 then
      { s with
        incomingFrame := List.replicate payloadLength 0
        incomingOpcode := opcode }
    else s
  if s.incomingFrame.length ≠ payloadLength ∨ s.incomingOpcode ≠ opcode ∨
      (dataLength ≠ 0 ∧ dataPtr = none) then
    ({ s with incomingFrame := [], incomingOpcode := 0 }, none)
  else
    let frame := if dataLength ≠ 0 then
        overwrite s.incomingFrame offset ((dataPtr.getD []).take dataLength)
      else s.incomingFrame
    if offset + dataLength = payloadLength then
      ({ s with incomingFrame := [], incomingOpcode := 0 }, some (s.incomingOpcode, frame))
    else ({ s with incomingFrame := frame }, none)

/-- The end of `HandleData`, after the locked section. -/
def finishChunk : ClientState × Option (UInt8 × Bytes) → ClientState × List SinkCall
  | (s, none) => (s, [])
  | (s, some (opcode, payload)) =>
      if opcode = 0 then (s, []) else completeFrame s opcode payload

def handleData (s : ClientState) (event : DataEvent) : ClientState × List SinkCall :=
  if event.payloadLen < 0 ∨ event.payloadOffset < 0 ∨ event.dataLen < 0 then (s, [])
  else
    let payloadLength := event.payloadLen.toNat
    let offset := event.payloadOffset.toNat
    let dataLength := event.dataLen.toNat
    if maxMessageBytes < payloadLength ∨ payloadLength < offset ∨
        payloadLength - offset < dataLength then (s, [])
    else if event.opCode = opcodePing ∨ event.opCode = opcodePong then (s, [])
    -- FIN is not visible here, so continuations are dropped.
    else if event.opCode = opcodeContinuation then (s, [])
    else if offset = 0 ∧ dataLength = payloadLength then
      completeFrame s event.opCode ((event.dataPtr.getD []).take dataLength)
    else
      finishChunk
        (assembleChunk s event.opCode payloadLength offset dataLength event.dataPtr)

end WebSocketClient
