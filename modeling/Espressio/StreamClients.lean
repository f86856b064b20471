import Espressio.StreamTransports

/-!
# The transports with one client

`TCPClientEventTransport` and `TLSEventTransport` are the same but for the
calls that set up the client's security before it connects.  Those calls are
the parameter `configureSecurity`; the members at the end of the file fill it
in.

The worker reads and decodes under the client's mutex and dispatches what it
has decoded after leaving it, so other tasks may come between: `iterate` is the
part under the mutex, `dispatch` hands out one decoded packet.
-/

namespace Sockets

open NetworkBytes LockTraces

variable {κ δ : Type*}

/-- The configuration of a client; `security` is what only TLS has. -/
structure ClientConfig (κ : Type*) where
  host : Bytes
  port : UInt16
  reconnectIntervalMilliseconds : UInt32
  security : κ

/-- The members of a transport.  `connection` is the one `_client` stands for
and `connections` the number of connections made; `running` is the worker's,
and `completed` holds the packets it has decoded and not yet dispatched, each
with the connection it was read from. -/
structure StreamClient (κ δ : Type*) where
  config : ClientConfig κ
  decoder : δ
  receiver : Option Nat
  lastConnectAttempt : UInt32
  initialized : Bool
  running : Bool
  connection : Option Nat
  connections : Nat
  completed : List (Nat × Bytes)

/-- What `connected` answers if there is a connection, the clock, and the
answer of `connect`. -/
structure ConnectNatives where
  alive : Bool
  now : UInt32
  connects : Bool

namespace StreamClient

/-- A transport as it is constructed. -/
def fresh (lib : Library δ) (config : ClientConfig κ) : StreamClient κ δ :=
  ⟨config, lib.decoder.initial, none, 0, false, false, none, 0, []⟩

/-- `EnsureConnectedLocked`. -/
def ensureConnectedLocked (configureSecurity : κ → List SecurityCall) (lib : Library δ)
    (s : StreamClient κ δ) (n : ConnectNatives) : StreamClient κ δ × Bool × List StreamEvent :=
  if s.connection.isSome && n.alive then (s, true, [])
  else if n.now - s.lastConnectAttempt < s.config.reconnectIntervalMilliseconds then
    (s, false, [])
  else
    let stopped := { s with
      lastConnectAttempt := n.now
      connection := none
      decoder := lib.decoder.initial }
    let prepared := .stop s.connection ::
      (configureSecurity s.config.security).map StreamEvent.configure
    if n.connects then
      ({ stopped with connection := some s.connections, connections := s.connections + 1 }, true,
        prepared ++ [.connect s.config.host s.config.port (some s.connections)])
    else (stopped, false, prepared ++ [.connect s.config.host s.config.port none])

/-- The part of `OnWorkerIteration` under the mutex. -/
def readClientLocked (configureSecurity : κ → List SecurityCall) (lib : Library δ)
    (s : StreamClient κ δ) (n : ConnectNatives) (reads : List Chunk) :
    StreamClient κ δ × List StreamEvent :=
  let (s, connected, events) := s.ensureConnectedLocked configureSecurity lib n
  match connected, s.connection with
  | true, some connection =>
      let outcome := readLoop lib.decoder connection s.decoder reads
      ({ s with
          decoder := outcome.decoder
          connection := if outcome.stopped then none else some connection
          completed := s.completed ++ outcome.completed.map fun packet => (connection, packet) },
        events ++ outcome.events)
  | _, _ => (s, events)

/-- `OnWorkerIteration` up to its dispatches.  The worker begins an iteration
when it has dispatched what the one before completed. -/
def iterate (configureSecurity : κ → List SecurityCall) (lib : Library δ) (s : StreamClient κ δ)
    (n : ConnectNatives) (reads : List Chunk) : StreamClient κ δ × List StreamAction :=
  if !s.running || s.completed ≠ [] then (s, [])
  else
    let after := s.readClientLocked configureSecurity lib n reads
    (after.1, underClient after.2)

/-- One round of the loop at the end of `OnWorkerIteration`. -/
def dispatch (s : StreamClient κ δ) : StreamClient κ δ × List StreamAction :=
  match s.completed with
  | [] => (s, [])
  | (connection, packet) :: rest =>
      ({ s with completed := rest }, dispatchPacket s.receiver connection packet)

/-- `Initialize`.  `started` is the answer of `StartWorker`. -/
def initializeTransport (s : StreamClient κ δ) (config : ClientConfig κ) (started : Bool) :
    StreamClient κ δ × Bool :=
  if s.initialized then (s, true)
  else if config.host = [] || config.port = 0 then (s, false)
  else if !started then ({ s with config := config }, false)
  else ({ s with config := config, running := true, initialized := true }, true)

/-- `Shutdown`. -/
def shutdown (lib : Library δ) (s : StreamClient κ δ) : StreamClient κ δ × List StreamAction :=
  if !s.initialized then (s, [])
  else
    ({ s with
        running := false
        connection := none
        decoder := lib.decoder.initial
        receiver := none
        initialized := false },
      underClient [.stop s.connection] ++ guarded .receiver [])

/-- `Send`.  `whole` is the answer of `WriteAll`. -/
def send (configureSecurity : κ → List SecurityCall) (lib : Library δ) (s : StreamClient κ δ)
    (packet : Option Bytes) (n : ConnectNatives) (whole : Bool) :
    StreamClient κ δ × Bool × List StreamAction :=
  match s.initialized, sendable lib.maximumPacketSize packet with
  | true, some data =>
      let frame := lib.buildFrame data
      if frame = [] then (s, false, [])
      else
        let (s, connected, events) := s.ensureConnectedLocked configureSecurity lib n
        match connected, s.connection with
        | true, some connection =>
            if whole then
              (s, true, underClient (events ++ [.write connection frame true]))
            else
              ({ s with connection := none }, false,
                underClient (events ++ [.write connection frame false, .stop (some connection)]))
        | _, _ => (s, false, underClient events)
  | _, _ => (s, false, [])

/-- `SetReceiver`. -/
def setReceiver (s : StreamClient κ δ) (receiver : Option Nat) :
    StreamClient κ δ × List StreamAction :=
  ({ s with receiver := receiver }, guarded .receiver [])

/-- `GetIsConnected`. -/
def getIsConnected (s : StreamClient κ δ) (alive : Bool) : Bool × List StreamAction :=
  (s.connection.isSome && alive, underClient [])

/-- What is done with a transport, by any task. -/
inductive Op (κ : Type*)
  | initializeTransport (config : ClientConfig κ) (started : Bool)
  | shutdown
  | iterate (natives : ConnectNatives) (reads : List Chunk)
  | dispatch
  | send (packet : Option Bytes) (natives : ConnectNatives) (whole : Bool)
  | setReceiver (receiver : Option Nat)
  | getIsConnected (alive : Bool)

def step (configureSecurity : κ → List SecurityCall) (lib : Library δ) (s : StreamClient κ δ) :
    Op κ → StreamClient κ δ × List StreamAction
  | .initializeTransport config started => ((s.initializeTransport config started).1, [])
  | .shutdown => s.shutdown lib
  | .iterate natives reads => s.iterate configureSecurity lib natives reads
  | .dispatch => s.dispatch
  | .send packet natives whole =>
      let sent := s.send configureSecurity lib packet natives whole
      (sent.1, sent.2.2)
  | .setReceiver receiver => s.setReceiver receiver
  | .getIsConnected alive => (s, (s.getIsConnected alive).2)

end StreamClient

/-! ### The members -/

/-- What `TLSEventTransportConfig` has besides. -/
structure TlsSecurity where
  caCertificate : Option Bytes
  clientCertificate : Option Bytes
  clientPrivateKey : Option Bytes
  insecure : Bool

/-- `TLSEventTransport::ConfigureSecurityLocked`. -/
def configureSecurityLocked (security : TlsSecurity) : List SecurityCall :=
  if security.insecure then [.setInsecure]
  else
    security.caCertificate.toList.map SecurityCall.setCACert ++
      match security.clientCertificate, security.clientPrivateKey with
      | some certificate, some key => [.setCertificate certificate, .setPrivateKey key]
      | _, _ => []

/-- `TCPClientEventTransport`. -/
def tcpClientStep (lib : Library δ) :
    StreamClient Unit δ → StreamClient.Op Unit → StreamClient Unit δ × List StreamAction :=
  StreamClient.step (fun _ => []) lib

/-- `TLSEventTransport`. -/
def tlsStep (lib : Library δ) :
    StreamClient TlsSecurity δ → StreamClient.Op TlsSecurity →
      StreamClient TlsSecurity δ × List StreamAction :=
  StreamClient.step configureSecurityLocked lib

end Sockets
