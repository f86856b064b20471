import Espressio.LockTraces
import Espressio.StreamTransports

/-!
# The transport over a broker

`MQTTEventTransport`.  Connecting takes two steps, the connect and the
subscription to the inbound topic.  `session` says what became of them: there
is no session with the broker, or one that is subscribed or is not.  It is not
in the source, which asks `connected` alone.

The worker holds the mutex of the client while it runs the client's loop, and
the loop calls back with the messages received.
-/

namespace Sockets

open NetworkBytes LockTraces

inductive MqttMutex
  | mqtt
  | receiver
  deriving DecidableEq, Repr

inductive MqttEvent
  | configure (call : SecurityCall)
  | connect (clientId : Bytes) (credentials : Option (Bytes × Bytes)) (connected : Bool)
  | subscribe (topic : Bytes) (qos : UInt8) (subscribed : Bool)
  | loop
  | publish (topic data : Bytes) (retain : Bool) (published : Bool)
  | disconnect
  | deliver (receiver : Nat) (packet : Bytes)
  deriving DecidableEq, Repr

abbrev MqttAction := Action MqttMutex MqttEvent

structure MqttConfig where
  host : Bytes
  port : UInt16
  clientId : Bytes
  username : Bytes
  password : Bytes
  outboundTopic : Bytes
  inboundTopic : Bytes
  subscribeQoS : UInt8
  retainOutbound : Bool
  secure : Bool
  insecure : Bool
  caCertificate : Option Bytes
  clientCertificate : Option Bytes
  clientPrivateKey : Option Bytes
  bufferSize : UInt16
  reconnectIntervalMilliseconds : UInt32

/-- The members; `mqtt` is whether there is a client, `running` the worker's
state, and `session` that of the broker's: none, or whether it is subscribed. -/
structure MqttTransport where
  config : MqttConfig
  mqtt : Bool
  receiver : Option Nat
  lastConnectAttempt : UInt32
  initialized : Bool
  running : Bool
  session : Option Bool

/-- What `connected` answers if there is a session, the clock, and the answers
of `connect` and `subscribe`. -/
structure MqttNatives where
  alive : Bool
  now : UInt32
  connects : Bool
  subscribes : Bool

/-- What the client's loop calls back with; `none` are null pointers. -/
structure MqttMessage where
  topic : Option Bytes
  payload : Option Bytes

namespace MqttTransport

/-- A transport as it is constructed. -/
def fresh (config : MqttConfig) : MqttTransport := ⟨config, false, none, 0, false, false, none⟩

/-- `ConfigureTLS`. -/
def configureTLS (config : MqttConfig) : List SecurityCall :=
  if !config.secure then []
  else if config.insecure then [.setInsecure]
  else
    config.caCertificate.toList.map SecurityCall.setCACert ++
      match config.clientCertificate, config.clientPrivateKey with
      | some certificate, some key => [.setCertificate certificate, .setPrivateKey key]
      | _, _ => []

/-- `ReceiveMQTT`. -/
def receiveMQTT (maximumPacketSize : Nat) (s : MqttTransport) (message : MqttMessage) :
    List MqttAction :=
  match message.topic, message.payload with
  | some topic, some payload =>
      if payload = [] || s.config.inboundTopic ≠ topic || payload.length > maximumPacketSize then []
      else
        guarded .receiver [] ++
          (s.receiver.toList.map fun r => MqttEvent.deliver r payload).map Action.event
  | _, _ => []

/-- `EnsureConnectedLocked`.  A session is over when `connected` says so. -/
def ensureConnectedLocked (s : MqttTransport) (n : MqttNatives) :
    MqttTransport × Bool × List MqttEvent :=
  if s.mqtt && s.session.isSome && n.alive then (s, true, [])
  else
    let s := { s with session := none }
    if n.now - s.lastConnectAttempt < s.config.reconnectIntervalMilliseconds then (s, false, [])
    else
      let s := { s with lastConnectAttempt := n.now }
      if !s.mqtt then (s, false, [])
      else
        let credentials :=
          if s.config.username ≠ [] then some (s.config.username, s.config.password) else none
        let connect := MqttEvent.connect s.config.clientId credentials n.connects
        if !n.connects then (s, false, [connect])
        else if s.config.inboundTopic = [] then
          ({ s with session := some false }, true, [connect])
        else
          ({ s with session := some n.subscribes }, n.subscribes,
            [connect, .subscribe s.config.inboundTopic s.config.subscribeQoS n.subscribes])

/-- `OnWorkerIteration`. -/
def iterate (maximumPacketSize : Nat) (s : MqttTransport) (n : MqttNatives)
    (messages : List MqttMessage) : MqttTransport × List MqttAction :=
  if !s.running then (s, [])
  else
    let (s, connected, events) := s.ensureConnectedLocked n
    (s, guarded .mqtt (events.map Action.event ++
      if connected && s.mqtt then
        .event .loop :: messages.flatMap (s.receiveMQTT maximumPacketSize)
      else []))

/-- `Initialize`.  `started` is the answer of `StartWorker`. -/
def initializeTransport (s : MqttTransport) (config : MqttConfig) (started : Bool) :
    MqttTransport × Bool × List MqttAction :=
  if s.initialized then (s, true, [])
  else if config.host = [] || config.port = 0 || config.clientId = [] ||
      config.outboundTopic = [] || config.inboundTopic = [] then (s, false, [])
  else
    let configured := (configureTLS config).map fun call => Action.event (.configure call)
    if !started then
      ({ s with config := config, mqtt := false, session := none }, false, configured)
    else
      ({ s with
          config := config
          mqtt := true
          session := none
          running := true
          initialized := true }, true, configured)

/-- `Shutdown`. -/
def shutdown (s : MqttTransport) : MqttTransport × List MqttAction :=
  if !s.initialized then (s, [])
  else
    ({ s with
        running := false
        mqtt := false
        session := none
        receiver := none
        initialized := false },
      guarded .mqtt (if s.mqtt then [.event .disconnect] else []) ++ guarded .receiver [])

/-- `GetIsConnected`. -/
def getIsConnected (s : MqttTransport) (alive : Bool) :
    MqttTransport × Bool × List MqttAction :=
  let connected := s.mqtt && s.session.isSome && alive
  ({ s with session := if connected then s.session else none }, connected, guarded .mqtt [])

/-- The data of a packet `Send` does not refuse. -/
def accepted (maximumPacketSize : Nat) (s : MqttTransport) (packet : Option Bytes) :
    Option Bytes :=
  if s.initialized then
    (sendable maximumPacketSize packet).filter fun data =>
      data.length ≤ s.config.bufferSize.toNat
  else none

/-- `Send`.  `published` is the answer of `publish`. -/
def send (maximumPacketSize : Nat) (s : MqttTransport) (packet : Option Bytes) (n : MqttNatives)
    (published : Bool) : MqttTransport × Bool × List MqttAction :=
  match s.accepted maximumPacketSize packet with
  | none => (s, false, [])
  | some data =>
      let (s, connected, events) := s.ensureConnectedLocked n
      if !connected || !s.mqtt then (s, false, guarded .mqtt (events.map Action.event))
      else
        let publish :=
          MqttEvent.publish s.config.outboundTopic data s.config.retainOutbound published
        (s, published, guarded .mqtt ((events ++ [publish]).map Action.event))

/-- `SetReceiver`. -/
def setReceiver (s : MqttTransport) (receiver : Option Nat) : MqttTransport × List MqttAction :=
  ({ s with receiver := receiver }, guarded .receiver [])

/-- What is done with the transport, by any task. -/
inductive Op
  | initializeTransport (config : MqttConfig) (started : Bool)
  | shutdown
  | iterate (natives : MqttNatives) (messages : List MqttMessage)
  | send (packet : Option Bytes) (natives : MqttNatives) (published : Bool)
  | setReceiver (receiver : Option Nat)
  | getIsConnected (alive : Bool)

def step (maximumPacketSize : Nat) (s : MqttTransport) : Op → MqttTransport × List MqttAction
  | .initializeTransport config started =>
      let done := s.initializeTransport config started
      (done.1, done.2.2)
  | .shutdown => s.shutdown
  | .iterate natives messages => s.iterate maximumPacketSize natives messages
  | .send packet natives published =>
      let sent := s.send maximumPacketSize packet natives published
      (sent.1, sent.2.2)
  | .setReceiver receiver => s.setReceiver receiver
  | .getIsConnected alive =>
      let asked := s.getIsConnected alive
      (asked.1, asked.2.2)

end MqttTransport
end Sockets
