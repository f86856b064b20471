import Espressio.LockTraces
import Espressio.StreamTransports

/-!
# The transport over datagrams

`UDPEventTransport`.  The destinations stand in an array, of which the first
`destinationCount` entries are in use.  The worker takes one datagram under the
socket's mutex and dispatches it after leaving it: `iterate` and `dispatch`.

The type `ι` is that of endpoints; which of them are valid is a parameter.
-/

namespace Sockets

open NetworkBytes LockTraces

variable {ι : Type*} [DecidableEq ι]

inductive UdpMutex
  | udp
  | state
  deriving DecidableEq, Repr

inductive UdpEvent (ι : Type*)
  | discard
  | stop
  | beginPacket (endpoint : ι)
  | write (data : Bytes)
  | endPacket
  | deliver (receiver : Nat) (packet : Bytes)
  deriving DecidableEq, Repr

abbrev UdpAction (ι : Type*) := Action UdpMutex (UdpEvent ι)

/-- The members; `running` is the worker's, and `received` the datagram it has
taken and not yet dispatched. -/
structure UdpTransport (ι : Type*) where
  localPort : UInt16
  destinations : List ι
  destinationCount : Nat
  receiver : Option Nat
  initialized : Bool
  running : Bool
  received : Option Bytes

/-- The answers while one datagram is taken.  No bytes read stand for a count
that is not positive. -/
structure UdpNatives where
  packetSize : Int
  read : Bytes

/-- The answers while one datagram is sent. -/
structure DatagramNatives where
  begun : Bool
  written : Nat
  ended : Bool

namespace UdpTransport

/-- A transport as it is constructed, with room for `capacity` destinations. -/
def fresh (capacity : Nat) (none : ι) : UdpTransport ι :=
  ⟨0, List.replicate capacity none, 0, .none, false, false, .none⟩

/-- `OnWorkerIteration` up to its dispatch.  The worker begins an iteration when
it has dispatched what it took in the one before. -/
def iterate (maximumPacketSize : Nat) (s : UdpTransport ι) (n : UdpNatives) :
    UdpTransport ι × List (UdpAction ι) :=
  if !s.running || s.received.isSome then (s, [])
  else if n.packetSize ≤ 0 then (s, guarded .udp [])
  else if maximumPacketSize < n.packetSize.toNat then (s, guarded .udp [.event .discard])
  else if n.read = [] || n.read.length ≠ n.packetSize.toNat then (s, guarded .udp [])
  else ({ s with received := some n.read }, guarded .udp [])

/-- The end of `OnWorkerIteration`. -/
def dispatch (s : UdpTransport ι) : UdpTransport ι × List (UdpAction ι) :=
  match s.received with
  | none => (s, [])
  | some packet =>
      ({ s with received := none },
        guarded .state [] ++
          (s.receiver.toList.map fun r => UdpEvent.deliver r packet).map Action.event)

/-- `Initialize`.  `begun` and `started` are the answers of `begin` and
`StartWorker`. -/
def initializeTransport (s : UdpTransport ι) (localPort : UInt16) (begun started : Bool) :
    UdpTransport ι × Bool :=
  if s.initialized then (s, true)
  else if localPort = 0 || !begun then (s, false)
  else if !started then ({ s with localPort := localPort }, false)
  else ({ s with localPort := localPort, running := true, initialized := true }, true)

/-- `InitializeMulticast`, which differs in the native call it makes. -/
def initializeMulticast (s : UdpTransport ι) (port : UInt16) (joined started : Bool) :
    UdpTransport ι × Bool :=
  s.initializeTransport port joined started

/-- `Shutdown`. -/
def shutdown (s : UdpTransport ι) : UdpTransport ι × List (UdpAction ι) :=
  if !s.initialized then (s, [])
  else
    ({ s with
        running := false
        receiver := none
        destinationCount := 0
        initialized := false },
      guarded .udp [.event .stop] ++ guarded .state [])

/-- The entries in use. -/
def inUse (s : UdpTransport ι) : List ι := s.destinations.take s.destinationCount

/-- `AddDestination`. -/
def addDestination (valid : ι → Bool) (s : UdpTransport ι) (endpoint : ι) :
    UdpTransport ι × Bool × List (UdpAction ι) :=
  if !valid endpoint then (s, false, [])
  else if endpoint ∈ s.inUse then (s, true, guarded .state [])
  else if s.destinationCount ≥ s.destinations.length then (s, false, guarded .state [])
  else
    ({ s with
        destinations := s.destinations.set s.destinationCount endpoint
        destinationCount := s.destinationCount + 1 }, true, guarded .state [])

/-- The loop of `RemoveDestination` that moves the entries from `index` on, as
many as `count`, one place down. -/
def moveDown (destinations : List ι) (index : Nat) : Nat → List ι
  | 0 => destinations
  | count + 1 =>
      match destinations[index]? with
      | none => destinations
      | some endpoint => moveDown (destinations.set (index - 1) endpoint) (index + 1) count

/-- `RemoveDestination`. -/
def removeDestination (s : UdpTransport ι) (endpoint : ι) :
    UdpTransport ι × Bool × List (UdpAction ι) :=
  match s.inUse.findIdx? (· = endpoint) with
  | none => (s, false, guarded .state [])
  | some i =>
      ({ s with
          destinations := moveDown s.destinations (i + 1) (s.destinationCount - (i + 1))
          destinationCount := s.destinationCount - 1 }, true, guarded .state [])

/-- `ClearDestinations`. -/
def clearDestinations (s : UdpTransport ι) : UdpTransport ι × List (UdpAction ι) :=
  ({ s with destinationCount := 0 }, guarded .state [])

/-- One attempt of `Send`. -/
def sendDatagram (endpoint : ι) (data : Bytes) (n : DatagramNatives) :
    Bool × List (UdpEvent ι) :=
  if !n.begun then (false, [.beginPacket endpoint])
  else if n.written ≠ data.length then (false, [.beginPacket endpoint, .write data])
  else (n.ended, [.beginPacket endpoint, .write data, .endPacket])

/-- The loop of `Send` over the destinations from `index` on. -/
def sendAll (data : Bytes) (natives : Nat → DatagramNatives) :
    Nat → List ι → Bool × List (UdpEvent ι)
  | _, [] => (true, [])
  | index, endpoint :: rest =>
      let one := sendDatagram endpoint data (natives index)
      let others := sendAll data natives (index + 1) rest
      (one.1 && others.1, one.2 ++ others.2)

/-- `Send`.  The destinations are copied in a scope of their own. -/
def send (maximumPacketSize : Nat) (s : UdpTransport ι) (packet : Option Bytes)
    (natives : Nat → DatagramNatives) : Bool × List (UdpAction ι) :=
  match s.initialized, sendable maximumPacketSize packet with
  | true, some data =>
      if s.destinationCount = 0 then (false, guarded .state [])
      else
        let sent := sendAll data natives 0 s.inUse
        (sent.1, guarded .state [] ++ guarded .udp (sent.2.map Action.event))
  | _, _ => (false, [])

/-- `SetReceiver`. -/
def setReceiver (s : UdpTransport ι) (receiver : Option Nat) :
    UdpTransport ι × List (UdpAction ι) :=
  ({ s with receiver := receiver }, guarded .state [])

/-- What is done with the transport, by any task. -/
inductive Op (ι : Type*)
  | initializeTransport (localPort : UInt16) (begun started : Bool)
  | initializeMulticast (port : UInt16) (joined started : Bool)
  | shutdown
  | iterate (natives : UdpNatives)
  | dispatch
  | addDestination (endpoint : ι)
  | removeDestination (endpoint : ι)
  | clearDestinations
  | send (packet : Option Bytes) (natives : Nat → DatagramNatives)
  | setReceiver (receiver : Option Nat)

def step (maximumPacketSize : Nat) (valid : ι → Bool) (s : UdpTransport ι) :
    Op ι → UdpTransport ι × List (UdpAction ι)
  | .initializeTransport localPort begun started =>
      ((s.initializeTransport localPort begun started).1, [])
  | .initializeMulticast port joined started =>
      ((s.initializeMulticast port joined started).1, [])
  | .shutdown => s.shutdown
  | .iterate natives => s.iterate maximumPacketSize natives
  | .dispatch => s.dispatch
  | .addDestination endpoint =>
      let added := s.addDestination valid endpoint
      (added.1, added.2.2)
  | .removeDestination endpoint =>
      let removed := s.removeDestination endpoint
      (removed.1, removed.2.2)
  | .clearDestinations => s.clearDestinations
  | .send packet natives => (s, (s.send maximumPacketSize packet natives).2)
  | .setReceiver receiver => s.setReceiver receiver

end UdpTransport
end Sockets
