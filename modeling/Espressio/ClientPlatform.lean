import Espressio.WebResult
import Espressio.WebSocketClient

/-!
# The WebSocket client's operations

`ESP32WebSocketClientPlatform` as an application sees it: `Connect`,
`Disconnect`, the sends, and `Close` of its connection.  `Connect` holds the
platform's mutex from beginning to end.  The other operations take what they
need inside a locked section and make their native calls after it, so each of
them is split here where the mutex is released; `Disconnect` has one locked
section before its native calls and one behind them.

`ConnectNatives` has the answers of the native calls, and the verdict of the
checks of the configuration that come before any native client exists.
-/

namespace WebSocketClient

open NetworkBytes Web
open PlatformResults (EspErr)

/-- `Detail::ESP32WebSocketClientResult`. -/
def webSocketClientResult : EspErr → WebResult
  | .ok => .success
  | .invalidArg => .failure .invalidConfiguration (.esp .invalidArg)
  | .noMem => .failure .resourceExhausted (.esp .noMem)
  | .invalidState => .failure .invalidState (.esp .invalidState)
  | e => .failure .connectionFailure (.esp e)

/-- The members of the platform: those the event handlers use, and those that
only its operations do.  Tasks are named by numbers. -/
structure Platform where
  state : ClientState
  disconnecting : Bool
  eventTask : Option Nat
  deriving DecidableEq, Repr

/-- A platform as it is constructed, with its sink set. -/
def Platform.initial (sink : Option Nat) : Platform :=
  ⟨WebSocketClient.initial sink, false, none⟩

def Platform.setSink (p : Platform) (sink : Option Nat) : Platform :=
  { p with state := { p.state with sink := sink } }

/-- A call of the native client. -/
inductive NativeCall
  | init (client : Option Nat)
  | registerEvents (client : Nat)
  | start (client : Nat)
  | isConnected (client : Nat)
  | closeWithCode (client : Nat) (code : UInt16) (reason : Bytes)
  | stop (client : Nat)
  | destroy (client : Nat)
  | sendBinary (client : Nat) (payload : Bytes)
  | sendText (client : Nat) (payload : Bytes)
  deriving DecidableEq, Repr

/-- The handle a call is made on, if it is made on one. -/
def NativeCall.handle : NativeCall → Option Nat
  | .init _ => none
  | .registerEvents client => some client
  | .start client => some client
  | .isConnected client => some client
  | .closeWithCode client _ _ => some client
  | .stop client => some client
  | .destroy client => some client
  | .sendBinary client _ => some client
  | .sendText client _ => some client

structure ConnectNatives where
  prepared : WebResult
  client : Option Nat
  registered : EspErr
  started : EspErr
  deriving DecidableEq, Repr

/-- `Connect`, with the id for its connection. -/
def Platform.connect (p : Platform) (n : ConnectNatives) (id : Nat) :
    Platform × WebResult × List NativeCall :=
  if p.state.client ≠ none ∨ p.disconnecting then (p, .failure .invalidState .none, [])
  else
    match n.prepared, n.client with
    | .failure error native, _ => (p, .failure error native, [])
    | .success, none => (p, .failure .platformFailure .none, [.init none])
    | .success, some client =>
        if n.registered ≠ .ok then
          (p, webSocketClientResult n.registered,
            [.init client, .registerEvents client, .destroy client])
        else
          let established := establish p.state client id
          if n.started ≠ .ok then
            ({ p with
                state := { established with client := none, connection := none }
                eventTask := none },
              webSocketClientResult n.started,
              [.init client, .registerEvents client, .start client, .destroy client])
          else
            ({ p with state := established, eventTask := none }, .success,
              [.init client, .registerEvents client, .start client])

/-- What `Disconnect` takes along from its first locked section. -/
structure Closing where
  client : Nat
  wasConnected : Bool
  code : UInt16
  reason : Bytes
  deriving DecidableEq, Repr

/-- The first locked section of `Disconnect`, called by a task. -/
def Platform.beginDisconnect (p : Platform) (task : Nat) (code : UInt16) (reason : Bytes) :
    Platform × Except WebResult Closing :=
  match p.state.client with
  | none => (p, .error .success)
  | some client =>
      if p.disconnecting then (p, .error (.failure .invalidState .none))
      -- Not from within an event handler.
      else if p.eventTask = some task then (p, .error (.failure .invalidState .none))
      else
        ({ p with
            disconnecting := true
            state := { p.state with requestedCloseCode := code, requestedCloseReason := reason } },
          .ok ⟨client, p.state.connected, code, reason⟩)

/-- The native call by which `Disconnect` closes the client, once it knows
whether the client is connected. -/
def Closing.stopCall (c : Closing) (connected : Bool) : NativeCall :=
  if connected then .closeWithCode c.client c.code (c.reason.take 123) else .stop c.client

/-- The second locked section of `Disconnect`, and the notification that the
sink is still owed. -/
def Platform.finishDisconnect (p : Platform) (c : Closing) : Platform × Option SinkCall :=
  let down :=
    { p.state with
      client := if p.state.client = some c.client then none else p.state.client
      connected := false
      connectionOpen := false
      incomingFrame := []
      incomingOpcode := 0 }
  let finished : Platform := { p with state := down, disconnecting := false, eventTask := none }
  if c.wasConnected ∧ p.state.disconnectNotified = false then
    ({ finished with state := { down with disconnectNotified := true } },
      if p.state.sink.isSome then some (.disconnected c.code p.state.requestedCloseReason)
      else none)
  else (finished, none)

/-- What `Disconnect` returns in the end. -/
def Closing.result (c : Closing) (stopped destroyed : EspErr) : WebResult :=
  if destroyed ≠ .ok then webSocketClientResult destroyed
  else if stopped ≠ .ok ∧ c.wasConnected then webSocketClientResult stopped
  else .success

/-- `INT_MAX` -/
def intMax : Nat := 2147483647

/-- The locked section of `SendBinary` and `SendText`: the handle to send
with, if the connection is the current one and connected. -/
def Platform.sendHandle (p : Platform) (connection : Nat) : Option Nat :=
  if p.state.connected ∧ p.state.connection = some connection then p.state.client else none

/-- A send once its handle is known. -/
inductive Send
  | binary (payload : Bytes)
  | text (payload : Bytes)
  deriving DecidableEq, Repr

def Send.call (client : Nat) : Send → NativeCall
  | .binary payload => .sendBinary client payload
  | .text payload => .sendText client payload

def Send.size : Send → Nat
  | .binary payload => payload.length
  | .text payload => payload.length

/-- `SendBinary` up to the end of its locked section. -/
def Platform.beginSendBinary (p : Platform) (connection : Nat) (data : Option Bytes)
    (size : Nat) : Except WebResult (Nat × Send) :=
  match data with
  | none => .error (.failure .invalidConfiguration .none)
  | some bytes =>
      if size = 0 ∨ intMax < size then .error (.failure .invalidConfiguration .none)
      else
        match p.sendHandle connection with
        | none => .error (.failure .closed .none)
        | some client => .ok (client, .binary (bytes.take size))

/-- `SendText` up to the end of its locked section. -/
def Platform.beginSendText (p : Platform) (connection : Nat) (text : Bytes) :
    Except WebResult (Nat × Send) :=
  if text = [] then .error (.failure .unsupported .none)
  else if intMax < text.length then .error (.failure .invalidConfiguration .none)
  else
    match p.sendHandle connection with
    | none => .error (.failure .closed .none)
    | some client => .ok (client, .text text)

/-- The result of a send, from the number of bytes the native client took. -/
def Send.result (s : Send) (sent : Int) : WebResult :=
  if sent = s.size then .success else .failure .connectionFailure (.number sent)

/-- The locked section of `CloseConnection`: the connection is the current
one. -/
def Platform.mayClose (p : Platform) (connection : Nat) : Bool :=
  p.state.connection = some connection

/-- `HandleNativeEvent` notes the task it runs in. -/
def Platform.noteEventTask (p : Platform) (task : Nat) : Platform :=
  { p with eventTask := if p.eventTask = none then some task else p.eventTask }

def Platform.withState (p : Platform) : ClientState × List SinkCall → Platform × List SinkCall
  | (state, calls) => ({ p with state := state }, calls)

/-- The events that tell of the connection. -/
inductive LinkEvent
  | connected
  | disconnected
  | closed
  deriving DecidableEq, Repr

/-- `HandleNativeEvent` for CONNECTED, DISCONNECTED and CLOSED. -/
def Platform.handleLinkEvent (p : Platform) (task : Nat) (e : LinkEvent) :
    Platform × List SinkCall :=
  let noted := p.noteEventTask task
  match e with
  | .connected => noted.withState (handleConnected noted.state)
  | .disconnected => noted.withState (handleDisconnected noted.state false)
  | .closed => noted.withState (handleDisconnected noted.state true)

/-- `HandleNativeEvent` for DATA. -/
def Platform.handleDataEvent (p : Platform) (task : Nat) (e : DataEvent) :
    Platform × List SinkCall :=
  let noted := p.noteEventTask task
  noted.withState (handleData noted.state e)

/-! ## What the event handlers leave alone -/

@[simp] theorem handleConnected_client (s : ClientState) :
    (handleConnected s).1.client = s.client := by
  unfold handleConnected
  split <;> rfl

/-- A platform that has been notified stays as it is but for the link. -/
theorem handleDisconnected_state (s : ClientState) (clean : Bool) :
    (handleDisconnected s clean).1 =
      { s with connected := false, connectionOpen := false, disconnectNotified := true } := by
  unfold handleDisconnected
  cases hnotified : s.disconnectNotified <;> rfl

/-- What `Disconnect` takes along is what it was called with. -/
theorem closing_of_beginDisconnect {p : Platform} {task : Nat} {code : UInt16} {reason : Bytes}
    {c : Closing} (h : (p.beginDisconnect task code reason).2 = .ok c) :
    c.code = code ∧ c.reason = reason := by
  unfold Platform.beginDisconnect at h
  cases hclient : p.state.client with
  | none => simp [hclient] at h
  | some client =>
      simp only [hclient] at h
      split_ifs at h
      obtain rfl := Except.ok.inj h
      exact ⟨rfl, rfl⟩

/-- A link event changes neither the client nor who may disconnect. -/
theorem handleLinkEvent_frame (p : Platform) (task : Nat) (e : LinkEvent) :
    (p.handleLinkEvent task e).1.state.client = p.state.client ∧
      (p.handleLinkEvent task e).1.disconnecting = p.disconnecting := by
  have hdown : ∀ clean, (handleDisconnected p.state clean).1.client = p.state.client := by
    intro clean
    rw [handleDisconnected_state]
  cases e with
  | connected => exact ⟨handleConnected_client p.state, rfl⟩
  | disconnected => exact ⟨hdown false, rfl⟩
  | closed => exact ⟨hdown true, rfl⟩

/-- A frame that is complete changes no more than the peer's reason. -/
theorem completeFrame_frame (s : ClientState) (opcode : UInt8) (payload : Bytes) :
    ∃ code reason, (completeFrame s opcode payload).1 =
      { s with peerCloseCode := code, peerCloseReason := reason } := by
  unfold completeFrame
  split
  · unfold rememberPeerClose
    split
    · exact ⟨_, _, rfl⟩
    · exact ⟨_, _, rfl⟩
  · split
    · exact ⟨_, _, rfl⟩
    · exact ⟨_, _, rfl⟩

/-- A chunk changes no more than the buffer. -/
theorem assembleChunk_frame (s : ClientState) (opcode : UInt8) (total offset length : Nat)
    (data : Option Bytes) :
    ∃ frame frameOpcode, (assembleChunk s opcode total offset length data).1 =
      { s with incomingFrame := frame, incomingOpcode := frameOpcode } := by
  have hbegun : ∃ frame frameOpcode,
      (if offset = 0 then
        { s with
          incomingFrame := List.replicate total 0
          incomingOpcode := opcode }
      else s) = { s with incomingFrame := frame, incomingOpcode := frameOpcode } := by
    split
    · exact ⟨_, _, rfl⟩
    · exact ⟨_, _, rfl⟩
  obtain ⟨frame, frameOpcode, hbegun⟩ := hbegun
  simp only [assembleChunk, hbegun]
  split
  · exact ⟨_, _, rfl⟩
  · split
    · exact ⟨_, _, rfl⟩
    · exact ⟨_, _, rfl⟩

/-- A data event changes no more than both. -/
theorem handleData_frame (s : ClientState) (e : DataEvent) :
    ∃ frame frameOpcode code reason, (handleData s e).1 =
      { s with
        incomingFrame := frame
        incomingOpcode := frameOpcode
        peerCloseCode := code
        peerCloseReason := reason } := by
  unfold handleData
  split
  · exact ⟨_, _, _, _, rfl⟩
  · dsimp only
    split
    · exact ⟨_, _, _, _, rfl⟩
    · split
      · exact ⟨_, _, _, _, rfl⟩
      · split
        · exact ⟨_, _, _, _, rfl⟩
        · split
          · obtain ⟨code, reason, heq⟩ := completeFrame_frame s e.opCode
              ((e.dataPtr.getD []).take e.dataLen.toNat)
            exact ⟨_, _, code, reason, heq⟩
          · obtain ⟨frame, frameOpcode, hassembled⟩ := assembleChunk_frame s e.opCode
              e.payloadLen.toNat e.payloadOffset.toNat e.dataLen.toNat e.dataPtr
            generalize assembleChunk s e.opCode e.payloadLen.toNat e.payloadOffset.toNat
              e.dataLen.toNat e.dataPtr = out at hassembled
            obtain ⟨assembled, complete⟩ := out
            obtain rfl := hassembled
            cases complete with
            | none => exact ⟨frame, frameOpcode, _, _, rfl⟩
            | some message =>
                unfold finishChunk
                dsimp only
                split
                · exact ⟨frame, frameOpcode, _, _, rfl⟩
                · obtain ⟨code, reason, heq⟩ := completeFrame_frame
                    { s with incomingFrame := frame, incomingOpcode := frameOpcode }
                    message.1 message.2
                  exact ⟨frame, frameOpcode, code, reason, heq⟩

end WebSocketClient
