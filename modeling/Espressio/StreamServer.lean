import Espressio.StreamTransports

/-!
# The transport that serves clients

`TCPServerEventTransport`.  The clients stand in an array of slots, each with a
decoder of its own.  An accepted connection goes to the first slot that is free
or whose client is gone; slots outside the configured limit are not used.

The native calls made for a slot are the functions of its index in the natives:
`connected` is asked in several places and may answer differently each time.
-/

namespace Sockets

open NetworkBytes LockTraces

variable {δ : Type*}

/-- A slot.  `connection` is the one `Client` stands for. -/
structure ClientState (δ : Type*) where
  connection : Option Nat
  decoder : δ
  active : Bool

structure ServerConfig where
  port : UInt16
  maximumClients : Nat

structure StreamServer (δ : Type*) where
  listening : Bool
  clients : List (ClientState δ)
  config : ServerConfig
  receiver : Option Nat
  initialized : Bool
  running : Bool
  connections : Nat
  completed : List (Nat × Bytes)

/-- The native answers in one iteration: whether there is an incoming client,
and for each slot whether its client is connected, when a place for the incoming
one is looked for and when it is served, and what is read from it. -/
structure ServerNatives where
  incoming : Bool
  occupied : Nat → Bool
  alive : Nat → Bool
  reads : Nat → List Chunk

/-- `connected` of a slot's client. -/
def ClientState.connected (c : ClientState δ) (alive : Bool) : Bool := c.connection.isSome && alive

namespace StreamServer

/-- A transport as it is constructed, with `slots` slots. -/
def fresh (lib : Library δ) (slots : Nat) (config : ServerConfig) : StreamServer δ :=
  ⟨false, List.replicate slots ⟨none, lib.decoder.initial, false⟩, config, none, false, false, 0,
    []⟩

/-- The first slots, as many as may be used. -/
def limit (s : StreamServer δ) : Nat := min s.config.maximumClients s.clients.length

/-- The search of `AcceptClientsLocked` for a place, from the slot at `index`
on.  Without one the incoming client is stopped. -/
def place (lib : Library δ) (occupied : Nat → Bool) (limit connection : Nat) :
    Nat → List (ClientState δ) → List (ClientState δ) × List StreamEvent
  | _, [] => ([], [.stop (some connection)])
  | index, c :: rest =>
      if limit ≤ index then (c :: rest, [.stop (some connection)])
      else if !c.active || !c.connected (occupied index) then
        (⟨some connection, lib.decoder.initial, true⟩ :: rest, [.stop c.connection])
      else
        let placed := place lib occupied limit connection (index + 1) rest
        (c :: placed.1, placed.2)

/-- `AcceptClientsLocked`. -/
def acceptClientsLocked (lib : Library δ) (s : StreamServer δ) (n : ServerNatives) :
    StreamServer δ × List StreamEvent :=
  if !s.listening || !n.incoming then (s, [])
  else
    let placed := place lib n.occupied s.limit s.connections 0 s.clients
    ({ s with clients := placed.1, connections := s.connections + 1 },
      .accept s.connections :: placed.2)

/-- What serving the slots comes to. -/
structure Served (δ : Type*) where
  clients : List (ClientState δ)
  events : List StreamEvent
  completed : List (Nat × Bytes)

/-- One round of the loop over the slots. -/
def serveClient (lib : Library δ) (c : ClientState δ) (alive : Bool) (reads : List Chunk) :
    Served δ :=
  if !c.active then ⟨[c], [], []⟩
  else
    match c.connection, alive with
    | some connection, true =>
        let outcome := readLoop lib.decoder connection c.decoder reads
        ⟨[⟨if outcome.stopped then none else some connection, outcome.decoder,
            !outcome.stopped⟩],
          outcome.events, outcome.completed.map fun packet => (connection, packet)⟩
    | connection, _ => ⟨[⟨none, lib.decoder.initial, false⟩], [.stop connection], []⟩

/-- The loop of `OnWorkerIteration` over the slots from `index` on. -/
def serveClients (lib : Library δ) (n : ServerNatives) (limit : Nat) :
    Nat → List (ClientState δ) → Served δ
  | _, [] => ⟨[], [], []⟩
  | index, c :: rest =>
      if limit ≤ index then ⟨c :: rest, [], []⟩
      else
        let one := serveClient lib c (n.alive index) (n.reads index)
        let others := serveClients lib n limit (index + 1) rest
        ⟨one.clients ++ others.clients, one.events ++ others.events,
          one.completed ++ others.completed⟩

/-- `OnWorkerIteration` up to its dispatches.  The worker begins an iteration
when it has dispatched what the one before completed. -/
def iterate (lib : Library δ) (s : StreamServer δ) (n : ServerNatives) :
    StreamServer δ × List StreamAction :=
  if !s.running || s.completed ≠ [] then (s, [])
  else
    let accepted := s.acceptClientsLocked lib n
    let served := serveClients lib n accepted.1.limit 0 accepted.1.clients
    ({ accepted.1 with
        clients := served.clients
        completed := accepted.1.completed ++ served.completed },
      underClient (accepted.2 ++ served.events))

/-- One round of the loop at the end of `OnWorkerIteration`. -/
def dispatch (s : StreamServer δ) : StreamServer δ × List StreamAction :=
  match s.completed with
  | [] => (s, [])
  | (connection, packet) :: rest =>
      ({ s with completed := rest }, dispatchPacket s.receiver connection packet)

/-- `Initialize`.  `started` is the answer of `StartWorker`. -/
def initializeTransport (s : StreamServer δ) (config : ServerConfig) (started : Bool) :
    StreamServer δ × Bool :=
  if s.initialized then (s, true)
  else if config.port = 0 || config.maximumClients = 0 then (s, false)
  else if !started then ({ s with config := config, listening := false }, false)
  else ({ s with config := config, listening := true, running := true, initialized := true }, true)

/-- `Shutdown`. -/
def shutdown (lib : Library δ) (s : StreamServer δ) : StreamServer δ × List StreamAction :=
  if !s.initialized then (s, [])
  else
    ({ s with
        running := false
        clients := s.clients.map fun _ => ⟨none, lib.decoder.initial, false⟩
        listening := false
        receiver := none
        initialized := false },
      underClient (s.clients.map fun c => .stop c.connection) ++ guarded .receiver [])

/-- `GetConnectedClientCount`. -/
def getConnectedClientCount (s : StreamServer δ) (alive : Nat → Bool) :
    Nat × List StreamAction :=
  ((s.clients.zipIdx.countP fun (c, index) => c.active && c.connected (alive index)),
    underClient [])

/-- The loop of `Send` over the slots from `index` on: the slots after it, the
writes, whether there was a client and whether all writes succeeded. -/
def sendAll (frame : Bytes) (alive whole : Nat → Bool) :
    Nat → List (ClientState δ) → List (ClientState δ) × List StreamEvent × Bool × Bool
  | _, [] => ([], [], false, true)
  | index, c :: rest =>
      let (clients, events, hadClient, success) := sendAll frame alive whole (index + 1) rest
      match c.active && alive index, c.connection with
      | true, some connection =>
          if whole index then
            (c :: clients, .write connection frame true :: events, true, success)
          else
            ({ c with connection := none, active := false } :: clients,
              .write connection frame false :: .stop (some connection) :: events, true, false)
      | _, _ => (c :: clients, events, hadClient, success)

/-- `Send`.  `alive` are the answers of `connected`, `whole` those of
`WriteAll`. -/
def send (lib : Library δ) (s : StreamServer δ) (packet : Option Bytes)
    (alive whole : Nat → Bool) : StreamServer δ × Bool × List StreamAction :=
  match s.initialized, sendable lib.maximumPacketSize packet with
  | true, some data =>
      let frame := lib.buildFrame data
      if frame = [] then (s, false, [])
      else
        let (clients, events, hadClient, success) := sendAll frame alive whole 0 s.clients
        ({ s with clients := clients }, hadClient && success, underClient events)
  | _, _ => (s, false, [])

/-- `SetReceiver`. -/
def setReceiver (s : StreamServer δ) (receiver : Option Nat) :
    StreamServer δ × List StreamAction :=
  ({ s with receiver := receiver }, guarded .receiver [])

/-- What is done with the transport, by any task. -/
inductive Op
  | initializeTransport (config : ServerConfig) (started : Bool)
  | shutdown
  | iterate (natives : ServerNatives)
  | dispatch
  | send (packet : Option Bytes) (alive whole : Nat → Bool)
  | setReceiver (receiver : Option Nat)
  | getConnectedClientCount (alive : Nat → Bool)

def step (lib : Library δ) (s : StreamServer δ) : Op → StreamServer δ × List StreamAction
  | .initializeTransport config started => ((s.initializeTransport config started).1, [])
  | .shutdown => s.shutdown lib
  | .iterate natives => s.iterate lib natives
  | .dispatch => s.dispatch
  | .send packet alive whole =>
      let sent := s.send lib packet alive whole
      (sent.1, sent.2.2)
  | .setReceiver receiver => s.setReceiver receiver
  | .getConnectedClientCount alive => (s, (s.getConnectedClientCount alive).2)

end StreamServer
end Sockets
