import Espressio.NetworkBytes
import Espressio.RingQueue

/-!
# The receive queue of the raw 802.11 radio

`Raw80211Radio`.  The Wi-Fi driver calls `PromiscuousReceive` for every frame
on the channel.  It copies the frames addressed to this radio into a ring of
`ReceivedPacket`s, from which `DrainInbound`, in the radio's worker, hands them
to the receiver.  The two share the ring's slots and two atomic indices.

Here each of them is a program counter and each of its accesses to the shared
state is a step of its own, so that a list of events is an interleaving of the
two.  `published`, `released` and `handed` are not in the program.  They record
what was published by a store of the write index, how much of it was released
by a store of the read index, and what the receiver was given.

The radio's addresses are opaque: `fromBytes` makes one of six bytes.
-/

namespace Raw80211Radio

open NetworkBytes

def macBytes : Nat := 6
def dot11HeaderBytes : Nat := 24
def encapsulationBytes : Nat := 10
def maximumPayloadBytes : Nat := 270
def llcSnap : Bytes := [0xAA, 0xAA, 0x03, 0x00, 0x00, 0x00, 0x88, 0xB5]
def radioBssid : Bytes := [0x02, 0x45, 0x53, 0x50, 0x52, 0x01]
def microsecondsToNanoseconds : UInt64 := 1000
def wifiTimestampWrapMicroseconds : UInt64 := 4294967296

/-- `memcmp` finds `text` at `offset`. -/
def bytesAt (data : Bytes) (offset : Nat) (text : Bytes) : Bool :=
  (data.drop offset).take text.length == text

def byteAt (data : Bytes) (offset : Nat) : UInt8 := data.getD offset 0

/-- `IsOurFrame`, for a buffer that is not null. -/
def isOurFrame (data : Bytes) : Bool :=
  if data.length < dot11HeaderBytes + encapsulationBytes then false
  else if join16 (byteAt data 1) (byteAt data 0) &&& 0x00FC ≠ 0x0008 then false
  else if bytesAt data 16 radioBssid = false then false
  else bytesAt data dot11HeaderBytes llcSnap

/-- `IsBroadcastMac`. -/
def isBroadcastMac (address : Bytes) : Bool := (address.take macBytes).all (· = 0xFF)

/-- `RecoverReceiveTimestampNanoseconds`, at a reading of the monotonic clock. -/
def recoverReceiveTimestampNanoseconds (nowNanoseconds : UInt64)
    (receiveTimestampMicroseconds : UInt32) : UInt64 :=
  let nowMicroseconds := nowNanoseconds / microsecondsToNanoseconds
  let wrapBase := nowMicroseconds &&& ~~~(wifiTimestampWrapMicroseconds - 1)
  let receiveMicroseconds := wrapBase ||| receiveTimestampMicroseconds.toUInt64
  let halfWrap := wifiTimestampWrapMicroseconds / 2
  let nearest :=
    if nowMicroseconds < receiveMicroseconds ∧
        halfWrap < receiveMicroseconds - nowMicroseconds then
      receiveMicroseconds - wifiTimestampWrapMicroseconds
    else if receiveMicroseconds < nowMicroseconds ∧
        halfWrap < nowMicroseconds - receiveMicroseconds then
      receiveMicroseconds + wifiTimestampWrapMicroseconds
    else receiveMicroseconds
  nearest * microsecondsToNanoseconds

/-- What the driver passes to the callback: `sig_len` bytes of frame, and the
fields of `rx_ctrl` that are read. -/
structure PromiscuousPacket where
  isData : Bool
  frame : Bytes
  rssi : Int
  timestamp : UInt32
  deriving DecidableEq, Repr

/-- The queue's size, as the two static assertions bound it. -/
structure QueueDepth where
  size : Nat
  atLeastTwo : 2 ≤ size
  fitsIndex : size ≤ 255

/-- What stays the same in a started session. -/
structure Session (Address : Type*) where
  depth : QueueDepth
  localAddress : Bytes
  fromBytes : Bytes → Address
  isBroadcast : Address → Bool
  hasReceiver : Bool

structure ReceivedPacket (Address : Type*) where
  source : Address
  destination : Address
  length : UInt16
  rssiDbm : Int
  timestampNanoseconds : UInt64
  payload : Bytes

/-- `RadioPacketView`.  The payload is a pointer to the one in a slot. -/
structure PacketView (Address : Type*) where
  source : Address
  destination : Address
  payload : Option Nat
  payloadSize : UInt16
  rssiDbm : Int
  receiveTimestampNanoseconds : UInt64
  broadcast : Bool

/-- What the receiver can see through a view while it has it. -/
structure Delivery (Address : Type*) where
  source : Address
  destination : Address
  payload : Bytes
  payloadSize : UInt16
  rssiDbm : Int
  receiveTimestampNanoseconds : UInt64
  broadcast : Bool
  deriving DecidableEq, Repr

def payloadLength (frame : Bytes) : UInt16 :=
  join16 (byteAt frame (dot11HeaderBytes + llcSnap.length + 1))
    (byteAt frame (dot11HeaderBytes + llcSnap.length))

def frameDestination (frame : Bytes) : Bytes := (frame.drop 4).take macBytes
def frameSource (frame : Bytes) : Bytes := (frame.drop 10).take macBytes

def framePayload (frame : Bytes) : Bytes :=
  (frame.drop (dot11HeaderBytes + encapsulationBytes)).take (payloadLength frame).toNat

variable {Address : Type*}

/-- The checks of `PromiscuousReceive` before it touches the queue.  In a
started session those of the instance, of `_started` and of the queue having
been allocated pass. -/
def accepts (ρ : Session Address) (packet : PromiscuousPacket) : Bool :=
  packet.isData && isOurFrame packet.frame &&
    (frameDestination packet.frame == ρ.localAddress.take macBytes ||
      isBroadcastMac (packet.frame.drop 4)) &&
    decide ((payloadLength packet.frame).toNat ≤ maximumPayloadBytes) &&
    decide (dot11HeaderBytes + encapsulationBytes + (payloadLength packet.frame).toNat ≤
      packet.frame.length)

/-- Where `PromiscuousReceive` is: before which access to shared state. -/
inductive Producer
  | idle
  | loadWrite (packet : PromiscuousPacket)
  | loadRead (packet : PromiscuousPacket) (write : UInt8)
  | storeSource (packet : PromiscuousPacket) (write next : UInt8)
  | storeDestination (packet : PromiscuousPacket) (write next : UInt8)
  | storeLength (packet : PromiscuousPacket) (write next : UInt8)
  | storeRssi (packet : PromiscuousPacket) (write next : UInt8)
  | storeTimestamp (packet : PromiscuousPacket) (write next : UInt8)
  | storePayload (packet : PromiscuousPacket) (write next : UInt8) (now : UInt64)
  | storeWrite (packet : PromiscuousPacket) (write next : UInt8) (now : UInt64)

/-- Where `DrainInbound` is. -/
inductive Consumer (Address : Type*)
  | idle
  | loadRead
  | loadWrite (read : UInt8)
  | readSource (read : UInt8)
  | readDestination (read : UInt8) (source : Address)
  | readLength (read : UInt8) (source destination : Address)
  | readRssi (read : UInt8) (source destination : Address) (length : UInt16)
  | readTimestamp (read : UInt8) (source destination : Address) (length : UInt16) (rssi : Int)
  | readFlags (read : UInt8) (source destination : Address) (length : UInt16) (rssi : Int)
      (timestamp : UInt64)
  | deliver (read : UInt8) (view : PacketView Address)
  | storeRead (read : UInt8)

/-- A packet published, with the clock reading its timestamp was made from. -/
structure Reception where
  packet : PromiscuousPacket
  now : UInt64

structure State (Address : Type*) where
  slots : Nat → ReceivedPacket Address
  writeIndex : UInt8
  readIndex : UInt8
  producer : Producer
  consumer : Consumer Address
  published : List Reception
  released : Nat
  handed : List (Delivery Address)

/-- A session as `Start` leaves it.  The slots hold whatever earlier sessions
left in them. -/
def State.started (slots : Nat → ReceivedPacket Address) : State Address :=
  ⟨slots, 0, 0, .idle, .idle, [], 0, []⟩

/-- The index after `index`, as both sides compute it. -/
def Session.next (ρ : Session Address) (index : UInt8) : UInt8 :=
  UInt8.ofNat ((index.toNat + 1) % ρ.depth.size)

/-- Change the slot at `index`. -/
def State.modifySlot (s : State Address) (index : UInt8)
    (f : ReceivedPacket Address → ReceivedPacket Address) : State Address :=
  { s with slots := fun i => if i = index.toNat then f (s.slots i) else s.slots i }

/-- The next access of `PromiscuousReceive`.  `now` is what the monotonic
clock reads if this step asks for it. -/
def produce (ρ : Session Address) (s : State Address) (now : UInt64) : State Address :=
  match s.producer with
  | .idle => s
  | .loadWrite packet => { s with producer := .loadRead packet s.writeIndex }
  | .loadRead packet write =>
      -- A full queue drops the frame.
      if ρ.next write = s.readIndex then { s with producer := .idle }
      else { s with producer := .storeSource packet write (ρ.next write) }
  | .storeSource packet write next =>
      { s.modifySlot write fun queued =>
          { queued with source := ρ.fromBytes (frameSource packet.frame) } with
        producer := .storeDestination packet write next }
  | .storeDestination packet write next =>
      { s.modifySlot write fun queued =>
          { queued with destination := ρ.fromBytes (frameDestination packet.frame) } with
        producer := .storeLength packet write next }
  | .storeLength packet write next =>
      { s.modifySlot write fun queued =>
          { queued with length := payloadLength packet.frame } with
        producer := .storeRssi packet write next }
  | .storeRssi packet write next =>
      { s.modifySlot write fun queued => { queued with rssiDbm := packet.rssi } with
        producer := .storeTimestamp packet write next }
  | .storeTimestamp packet write next =>
      { s.modifySlot write fun queued =>
          { queued with
            timestampNanoseconds :=
              recoverReceiveTimestampNanoseconds now packet.timestamp } with
        producer := .storePayload packet write next now }
  | .storePayload packet write next stamp =>
      { s.modifySlot write fun queued =>
          if payloadLength packet.frame = 0 then queued
          else { queued with payload := overwrite queued.payload 0 (framePayload packet.frame) }
        with producer := .storeWrite packet write next stamp }
  | .storeWrite packet _ next stamp =>
      { s with
        writeIndex := next
        producer := .idle
        published := s.published ++ [⟨packet, stamp⟩] }

/-- What the receiver sees through `view`. -/
def State.seen (s : State Address) (view : PacketView Address) : Delivery Address where
  source := view.source
  destination := view.destination
  payload :=
    match view.payload with
    | none => []
    | some slot => (s.slots slot).payload.take view.payloadSize.toNat
  payloadSize := view.payloadSize
  rssiDbm := view.rssiDbm
  receiveTimestampNanoseconds := view.receiveTimestampNanoseconds
  broadcast := view.broadcast

/-- The next access of `DrainInbound`. -/
def consume (ρ : Session Address) (s : State Address) : State Address :=
  match s.consumer with
  | .idle => s
  | .loadRead => { s with consumer := .loadWrite s.readIndex }
  | .loadWrite read =>
      if read = s.writeIndex then { s with consumer := .idle }
      else { s with consumer := .readSource read }
  | .readSource read =>
      { s with consumer := .readDestination read (s.slots read.toNat).source }
  | .readDestination read source =>
      { s with consumer := .readLength read source (s.slots read.toNat).destination }
  | .readLength read source destination =>
      { s with consumer := .readRssi read source destination (s.slots read.toNat).length }
  | .readRssi read source destination length =>
      { s with
        consumer := .readTimestamp read source destination length (s.slots read.toNat).rssiDbm }
  | .readTimestamp read source destination length rssi =>
      { s with
        consumer := .readFlags read source destination length rssi
          (s.slots read.toNat).timestampNanoseconds }
  | .readFlags read source destination length rssi timestamp =>
      { s with
        consumer := .deliver read {
          source := source
          destination := destination
          payload := if length = 0 then none else some read.toNat
          payloadSize := length
          rssiDbm := rssi
          receiveTimestampNanoseconds := timestamp
          broadcast := ρ.isBroadcast (s.slots read.toNat).destination } }
  | .deliver read view =>
      { s with
        consumer := .storeRead read
        handed := if ρ.hasReceiver then s.handed ++ [s.seen view] else s.handed }
  | .storeRead read =>
      { s with
        readIndex := ρ.next read
        consumer := .loadRead
        released := s.released + 1 }

/-- A call of the callback, a call of `DrainInbound`, and their steps. -/
inductive Event
  | receive (packet : Option PromiscuousPacket)
  | produce (now : UInt64)
  | drainInbound
  | consume

/-- One step of an interleaving.  The driver does not call the callback, nor
the worker `DrainInbound`, again while the last call is still under way. -/
def step (ρ : Session Address) (s : State Address) : Event → State Address
  | .receive packet =>
      match s.producer, packet with
      | .idle, some packet =>
          if accepts ρ packet then { s with producer := .loadWrite packet } else s
      | _, _ => s
  | .produce now => produce ρ s now
  | .drainInbound =>
      match s.consumer with
      | .idle => { s with consumer := .loadRead }
      | _ => s
  | .consume => consume ρ s

end Raw80211Radio
