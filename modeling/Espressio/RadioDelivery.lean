import Espressio.Runs
import Espressio.Raw80211Radio

/-!
# Packets between the callback and the receiver

The slots from the read index up to the write index hold, in order, the
packets that were published and not yet released: the ring represents the
queue `outstanding`.  Everything the two sides do keeps this, whichever of
them moves next, because the callback only ever writes to the slot at the
write index, which is not in use, and `DrainInbound` reads only from the slot
at the read index, which is.

So what the receiver is handed are the packets published, in order and
unchanged, and a frame is dropped only when all slots but one are in use.
-/

namespace Raw80211Radio

open NetworkBytes RingQueue

variable {Address : Type*} {ρ : Session Address} {s : State Address}

/-- What the receiver is to be given for a published packet. -/
def Reception.delivery (ρ : Session Address) (r : Reception) : Delivery Address where
  source := ρ.fromBytes (frameSource r.packet.frame)
  destination := ρ.fromBytes (frameDestination r.packet.frame)
  payload := framePayload r.packet.frame
  payloadSize := payloadLength r.packet.frame
  rssiDbm := r.packet.rssi
  receiveTimestampNanoseconds := recoverReceiveTimestampNanoseconds r.now r.packet.timestamp
  broadcast := ρ.isBroadcast (ρ.fromBytes (frameDestination r.packet.frame))

/-- A slot holds a packet.  Its payload array may go on after the packet's. -/
structure Holds (ρ : Session Address) (slot : ReceivedPacket Address) (r : Reception) :
    Prop where
  source : slot.source = ρ.fromBytes (frameSource r.packet.frame)
  destination : slot.destination = ρ.fromBytes (frameDestination r.packet.frame)
  length : slot.length = payloadLength r.packet.frame
  rssi : slot.rssiDbm = r.packet.rssi
  timestamp : slot.timestampNanoseconds =
    recoverReceiveTimestampNanoseconds r.now r.packet.timestamp
  payload : slot.payload.take slot.length.toNat = framePayload r.packet.frame

/-- The packets published and not yet released. -/
def State.outstanding (s : State Address) : List Reception := s.published.drop s.released

/-- How many packets have been through the receiver's hands. -/
def State.handedOver (s : State Address) : Nat :=
  match s.consumer with
  | .storeRead _ => s.released + 1
  | _ => s.released

/-- The view `DrainInbound` makes of the packet in a slot. -/
def viewOf (ρ : Session Address) (slot : ReceivedPacket Address) (read : UInt8) :
    PacketView Address where
  source := slot.source
  destination := slot.destination
  payload := if slot.length = 0 then none else some read.toNat
  payloadSize := slot.length
  rssiDbm := slot.rssiDbm
  receiveTimestampNanoseconds := slot.timestampNanoseconds
  broadcast := ρ.isBroadcast slot.destination

/-- The callback is about to fill the slot at the write index, and there is
room for it. -/
def Filling (ρ : Session Address) (s : State Address) (packet : PromiscuousPacket)
    (write next : UInt8) : Prop :=
  accepts ρ packet = true ∧ write = s.writeIndex ∧ next = ρ.next write ∧
    s.outstanding.length + 1 < ρ.depth.size

/-- What is true of the callback wherever it is: the fields stored so far are
in the slot. -/
def ProducerOk (ρ : Session Address) (s : State Address) : Prop :=
  let slot := s.slots s.writeIndex.toNat
  match s.producer with
  | .idle => True
  | .loadWrite packet => accepts ρ packet = true
  | .loadRead packet write => accepts ρ packet = true ∧ write = s.writeIndex
  | .storeSource packet write next => Filling ρ s packet write next
  | .storeDestination packet write next =>
      Filling ρ s packet write next ∧ slot.source = ρ.fromBytes (frameSource packet.frame)
  | .storeLength packet write next =>
      Filling ρ s packet write next ∧ slot.source = ρ.fromBytes (frameSource packet.frame) ∧
        slot.destination = ρ.fromBytes (frameDestination packet.frame)
  | .storeRssi packet write next =>
      Filling ρ s packet write next ∧ slot.source = ρ.fromBytes (frameSource packet.frame) ∧
        slot.destination = ρ.fromBytes (frameDestination packet.frame) ∧
        slot.length = payloadLength packet.frame
  | .storeTimestamp packet write next =>
      Filling ρ s packet write next ∧ slot.source = ρ.fromBytes (frameSource packet.frame) ∧
        slot.destination = ρ.fromBytes (frameDestination packet.frame) ∧
        slot.length = payloadLength packet.frame ∧ slot.rssiDbm = packet.rssi
  | .storePayload packet write next now =>
      Filling ρ s packet write next ∧ slot.source = ρ.fromBytes (frameSource packet.frame) ∧
        slot.destination = ρ.fromBytes (frameDestination packet.frame) ∧
        slot.length = payloadLength packet.frame ∧ slot.rssiDbm = packet.rssi ∧
        slot.timestampNanoseconds = recoverReceiveTimestampNanoseconds now packet.timestamp
  | .storeWrite packet write next now =>
      Filling ρ s packet write next ∧ Holds ρ slot ⟨packet, now⟩

/-- `DrainInbound` is reading the front of the queue. -/
def Reading (s : State Address) (read : UInt8) : Prop :=
  read = s.readIndex ∧ s.outstanding ≠ []

/-- What is true of `DrainInbound` wherever it is: the fields read so far are
those of the slot. -/
def ConsumerOk (ρ : Session Address) (s : State Address) : Prop :=
  let slot := s.slots s.readIndex.toNat
  match s.consumer with
  | .idle => True
  | .loadRead => True
  | .loadWrite read => read = s.readIndex
  | .readSource read => Reading s read
  | .readDestination read source => Reading s read ∧ source = slot.source
  | .readLength read source destination =>
      Reading s read ∧ source = slot.source ∧ destination = slot.destination
  | .readRssi read source destination length =>
      Reading s read ∧ source = slot.source ∧ destination = slot.destination ∧
        length = slot.length
  | .readTimestamp read source destination length rssi =>
      Reading s read ∧ source = slot.source ∧ destination = slot.destination ∧
        length = slot.length ∧ rssi = slot.rssiDbm
  | .readFlags read source destination length rssi timestamp =>
      Reading s read ∧ source = slot.source ∧ destination = slot.destination ∧
        length = slot.length ∧ rssi = slot.rssiDbm ∧ timestamp = slot.timestampNanoseconds
  | .deliver read view => Reading s read ∧ view = viewOf ρ slot read
  | .storeRead read => Reading s read

/-- The slot the callback is writing to. -/
def Producer.writing : Producer → Option UInt8
  | .storeSource _ write _ => some write
  | .storeDestination _ write _ => some write
  | .storeLength _ write _ => some write
  | .storeRssi _ write _ => some write
  | .storeTimestamp _ write _ => some write
  | .storePayload _ write _ _ => some write
  | _ => none

/-- The slot `DrainInbound`, or the receiver in its callback, is reading. -/
def Consumer.reading : Consumer Address → Option UInt8
  | .readSource read => some read
  | .readDestination read _ => some read
  | .readLength read _ _ => some read
  | .readRssi read _ _ _ => some read
  | .readTimestamp read _ _ _ _ => some read
  | .readFlags read _ _ _ _ _ => some read
  | .deliver read _ => some read
  | _ => none

/-- The frame the callback is dealing with. -/
def Producer.packet : Producer → Option PromiscuousPacket
  | .idle => none
  | .loadWrite packet => some packet
  | .loadRead packet _ => some packet
  | .storeSource packet _ _ => some packet
  | .storeDestination packet _ _ => some packet
  | .storeLength packet _ _ => some packet
  | .storeRssi packet _ _ => some packet
  | .storeTimestamp packet _ _ => some packet
  | .storePayload packet _ _ _ => some packet
  | .storeWrite packet _ _ _ => some packet

/-- **The invariant.** -/
structure Inv (ρ : Session Address) (s : State Address) : Prop where
  ring : Represents ρ.depth.size (Holds ρ) s.slots s.readIndex.toNat s.writeIndex.toNat
    s.outstanding
  released_le : s.released ≤ s.published.length
  producer : ProducerOk ρ s
  consumer : ConsumerOk ρ s
  handed : s.handed = if ρ.hasReceiver then
      (s.published.take s.handedOver).map (Reception.delivery ρ) else []

theorem next_toNat (ρ : Session Address) (index : UInt8) :
    (ρ.next index).toNat = RingQueue.next ρ.depth.size index.toNat := by
  have hlt : (index.toNat + 1) % ρ.depth.size < ρ.depth.size :=
    Nat.mod_lt _ (by have := ρ.depth.atLeastTwo; omega)
  have hfits := ρ.depth.fitsIndex
  rw [Session.next, RingQueue.next, UInt8.toNat_ofNat', Nat.mod_eq_of_lt (by omega)]

theorem inv_started (ρ : Session Address) (slots : Nat → ReceivedPacket Address) :
    Inv ρ (State.started slots) where
  ring := represents_nil (by have := ρ.depth.atLeastTwo; omega)
  released_le := Nat.le_refl 0
  producer := trivial
  consumer := trivial
  handed := by simp [State.started]

/-- The slot being read stays as it is while the callback writes. -/
theorem Inv.reading_ne (h : Inv ρ s) (hne : s.outstanding ≠ []) :
    s.readIndex.toNat ≠ s.writeIndex.toNat := by
  intro heq
  exact hne (h.ring.empty_iff.mp heq)

/-- `ConsumerOk` depends on what `DrainInbound` can see only. -/
theorem ConsumerOk.congr {t : State Address} (h : ConsumerOk ρ s)
    (hpc : t.consumer = s.consumer) (hread : t.readIndex = s.readIndex)
    (hqueue : s.outstanding ≠ [] → t.outstanding ≠ [] ∧
      t.slots s.readIndex.toNat = s.slots s.readIndex.toNat) : ConsumerOk ρ t := by
  unfold ConsumerOk at h ⊢
  rw [hpc, hread]
  cases hc : s.consumer <;> simp only [hc] at h ⊢
  case loadWrite => exact h
  case readSource => exact ⟨h.1.trans hread.symm, (hqueue h.2).1⟩
  case storeRead => exact ⟨h.1.trans hread.symm, (hqueue h.2).1⟩
  all_goals
    rw [(hqueue h.1.2).2]
    exact ⟨⟨h.1.1.trans hread.symm, (hqueue h.1.2).1⟩, h.2⟩

/-- `ProducerOk` depends on the callback's slot, and on there being room. -/
theorem ProducerOk.congr {t : State Address} (h : ProducerOk ρ s)
    (hpc : t.producer = s.producer) (hslots : t.slots = s.slots)
    (hwrite : t.writeIndex = s.writeIndex)
    (hroom : t.outstanding.length ≤ s.outstanding.length) : ProducerOk ρ t := by
  have hfilling : ∀ packet write next, Filling ρ s packet write next →
      Filling ρ t packet write next := by
    intro packet write next hparts
    obtain ⟨haccepts, hw, hn, hlt⟩ := hparts
    exact ⟨haccepts, by rw [hwrite, hw], hn, by omega⟩
  unfold ProducerOk at h ⊢
  rw [hpc, hslots, hwrite]
  cases hp : s.producer <;> simp only [hp] at h ⊢
  case loadWrite => exact h
  case loadRead => exact h
  case storeSource => exact hfilling _ _ _ h
  all_goals exact ⟨hfilling _ _ _ h.1, h.2⟩

/-! ## Steps of `DrainInbound` -/

/-- A step that only moves `DrainInbound` on. -/
theorem Inv.advanceConsumer (h : Inv ρ s) {c : Consumer Address}
    (hok : ConsumerOk ρ { s with consumer := c })
    (hover : ({ s with consumer := c } : State Address).handedOver = s.handedOver) :
    Inv ρ { s with consumer := c } where
  ring := h.ring
  released_le := h.released_le
  producer := h.producer.congr rfl rfl rfl (Nat.le_refl _)
  consumer := hok
  handed := by rw [hover]; exact h.handed

/-- The front of the queue, as the receiver sees it through the view. -/
theorem seen_front {x : Reception} {rest : List Reception} (h : Inv ρ s)
    (hqueue : s.outstanding = x :: rest) :
    s.seen (viewOf ρ (s.slots s.readIndex.toNat) s.readIndex) = x.delivery ρ := by
  have hring := h.ring
  rw [hqueue] at hring
  have hfront := hring.front
  have hpayload : (s.seen (viewOf ρ (s.slots s.readIndex.toNat) s.readIndex)).payload =
      framePayload x.packet.frame := by
    rw [← hfront.payload]
    by_cases hzero : (s.slots s.readIndex.toNat).length = 0
    · simp [State.seen, viewOf, hzero]
    · simp [State.seen, viewOf, hzero]
  unfold Reception.delivery
  rw [← hpayload, ← hfront.source, ← hfront.destination, ← hfront.length, ← hfront.rssi,
    ← hfront.timestamp]
  rfl

/-- The queue's front is the next packet of those published. -/
theorem take_published {x : Reception} {rest : List Reception}
    (hqueue : s.outstanding = x :: rest) :
    s.published.take (s.released + 1) = s.published.take s.released ++ [x] := by
  have hget : s.published[s.released]? = some x := by
    rw [← Nat.add_zero s.released, ← List.getElem?_drop]
    exact congrArg (·[0]?) hqueue
  rw [List.take_add_one, hget]
  rfl

theorem Inv.deliver (h : Inv ρ s) {read : UInt8} {view : PacketView Address}
    (hc : s.consumer = .deliver read view) : Inv ρ (consume ρ s) := by
  have hok := h.consumer
  simp only [ConsumerOk, hc] at hok
  obtain ⟨⟨rfl, hne⟩, rfl⟩ := hok
  obtain ⟨x, rest, hqueue⟩ := List.exists_cons_of_ne_nil hne
  have hover : s.handedOver = s.released := by simp [State.handedOver, hc]
  have hhanded := h.handed
  rw [hover] at hhanded
  simp only [consume, hc]
  refine ⟨h.ring, h.released_le, h.producer.congr rfl rfl rfl (Nat.le_refl _), ⟨rfl, hne⟩, ?_⟩
  simp only [State.handedOver, seen_front h hqueue]
  cases hreceiver : ρ.hasReceiver with
  | true => simp [take_published hqueue, hhanded, hreceiver]
  | false => simp [hhanded, hreceiver]

theorem Inv.storeRead (h : Inv ρ s) {read : UInt8} (hc : s.consumer = .storeRead read) :
    Inv ρ (consume ρ s) := by
  have hok := h.consumer
  simp only [ConsumerOk, hc] at hok
  obtain ⟨rfl, hne⟩ := hok
  obtain ⟨x, rest, hqueue⟩ := List.exists_cons_of_ne_nil hne
  have hlt : s.released < s.published.length := by
    by_contra hge
    exact hne (List.drop_eq_nil_of_le (by omega))
  have hrest : s.published.drop (s.released + 1) = rest := by
    rw [← List.drop_drop]
    exact congrArg (List.drop 1) hqueue
  have hring := h.ring
  rw [hqueue] at hring
  simp only [consume, hc]
  refine ⟨?_, hlt, h.producer.congr rfl rfl rfl ?_, trivial, ?_⟩
  · simp only [State.outstanding, hrest, next_toNat]
    exact hring.release
  · simp only [State.outstanding, List.length_drop]
    omega
  · simpa [State.handedOver, hc] using h.handed

/-- Every step of `DrainInbound` keeps the invariant. -/
theorem Inv.consume (h : Inv ρ s) : Inv ρ (consume ρ s) := by
  have hok := h.consumer
  cases hc : s.consumer with
  | deliver read view => exact h.deliver hc
  | storeRead read => exact h.storeRead hc
  | idle => simpa [Raw80211Radio.consume, hc] using h
  | loadWrite read =>
      simp only [ConsumerOk, hc] at hok
      simp only [Raw80211Radio.consume, hc]
      split
      · exact h.advanceConsumer trivial (by simp [State.handedOver, hc])
      · rename_i hindex
        refine h.advanceConsumer ⟨hok, ?_⟩ (by simp [State.handedOver, hc])
        intro hnil
        apply hindex
        rw [hok]
        exact UInt8.toNat_inj.mp (h.ring.empty_iff.mpr hnil)
  | loadRead =>
      simp only [Raw80211Radio.consume, hc]
      exact h.advanceConsumer rfl (by simp [State.handedOver, hc])
  | readSource read =>
      simp only [ConsumerOk, hc] at hok
      simp only [Raw80211Radio.consume, hc]
      exact h.advanceConsumer ⟨hok, by rw [hok.1]⟩ (by simp [State.handedOver, hc])
  | readDestination read source =>
      simp only [ConsumerOk, hc] at hok
      simp only [Raw80211Radio.consume, hc]
      obtain ⟨hreading, hsource⟩ := hok
      exact h.advanceConsumer ⟨hreading, hsource, by rw [hreading.1]⟩
        (by simp [State.handedOver, hc])
  | readLength read source destination =>
      simp only [ConsumerOk, hc] at hok
      simp only [Raw80211Radio.consume, hc]
      obtain ⟨hreading, hsource, hdestination⟩ := hok
      exact h.advanceConsumer ⟨hreading, hsource, hdestination, by rw [hreading.1]⟩
        (by simp [State.handedOver, hc])
  | readRssi read source destination length =>
      simp only [ConsumerOk, hc] at hok
      simp only [Raw80211Radio.consume, hc]
      obtain ⟨hreading, hsource, hdestination, hlength⟩ := hok
      exact h.advanceConsumer ⟨hreading, hsource, hdestination, hlength, by rw [hreading.1]⟩
        (by simp [State.handedOver, hc])
  | readTimestamp read source destination length rssi =>
      simp only [ConsumerOk, hc] at hok
      simp only [Raw80211Radio.consume, hc]
      obtain ⟨hreading, hsource, hdestination, hlength, hrssi⟩ := hok
      exact h.advanceConsumer
        ⟨hreading, hsource, hdestination, hlength, hrssi, by rw [hreading.1]⟩
        (by simp [State.handedOver, hc])
  | readFlags read source destination length rssi timestamp =>
      simp only [ConsumerOk, hc] at hok
      simp only [Raw80211Radio.consume, hc]
      obtain ⟨hreading, rfl, rfl, rfl, rfl, rfl⟩ := hok
      exact h.advanceConsumer ⟨hreading, by rw [hreading.1]; rfl⟩
        (by simp [State.handedOver, hc])

/-! ## Steps of the callback -/

/-- A step that only moves the callback on. -/
theorem Inv.advanceProducer (h : Inv ρ s) {p : Producer}
    (hok : ProducerOk ρ { s with producer := p }) : Inv ρ { s with producer := p } where
  ring := h.ring
  released_le := h.released_le
  producer := hok
  consumer := h.consumer.congr rfl rfl (fun hne => ⟨hne, rfl⟩)
  handed := h.handed

/-- A step that stores a field of the slot at the write index. -/
theorem Inv.fill (h : Inv ρ s) {p : Producer}
    {f : ReceivedPacket Address → ReceivedPacket Address}
    (hok : ProducerOk ρ { s.modifySlot s.writeIndex f with producer := p }) :
    Inv ρ { s.modifySlot s.writeIndex f with producer := p } where
  ring := h.ring.update (fun _ hj => if_neg hj)
  released_le := h.released_le
  producer := hok
  consumer := h.consumer.congr rfl rfl (fun hne => ⟨hne, if_neg (h.reading_ne hne)⟩)
  handed := h.handed

/-- An accepted frame has all of the payload its length field announces. -/
theorem length_framePayload {packet : PromiscuousPacket} (h : accepts ρ packet = true) :
    (framePayload packet.frame).length = (payloadLength packet.frame).toNat := by
  simp only [accepts, Bool.and_eq_true, decide_eq_true_eq] at h
  have hfits := h.2
  simp only [framePayload, List.length_take, List.length_drop]
  omega

/-- Copying the payload completes the packet in the slot. -/
theorem holds_payload {slot : ReceivedPacket Address} {packet : PromiscuousPacket}
    {now : UInt64} (haccepts : accepts ρ packet = true)
    (hsource : slot.source = ρ.fromBytes (frameSource packet.frame))
    (hdestination : slot.destination = ρ.fromBytes (frameDestination packet.frame))
    (hlength : slot.length = payloadLength packet.frame) (hrssi : slot.rssiDbm = packet.rssi)
    (htimestamp : slot.timestampNanoseconds =
      recoverReceiveTimestampNanoseconds now packet.timestamp) :
    Holds ρ
      (if payloadLength packet.frame = 0 then slot
        else { slot with payload := overwrite slot.payload 0 (framePayload packet.frame) })
      ⟨packet, now⟩ := by
  have hlen := length_framePayload haccepts
  split
  · rename_i hzero
    refine ⟨hsource, hdestination, hlength, hrssi, htimestamp, ?_⟩
    have hnil : framePayload packet.frame = [] := by
      rw [← List.length_eq_zero_iff, hlen, hzero]
      rfl
    simp [hlength, hzero, hnil]
  · refine ⟨hsource, hdestination, hlength, hrssi, htimestamp, ?_⟩
    have hcopy := @overwrite_written [] slot.payload (framePayload packet.frame)
    simp only [List.nil_append, List.length_nil] at hcopy
    simp only [hlength, hcopy, ← hlen]
    exact List.take_left

/-- The store of the write index publishes the packet in the slot. -/
theorem Inv.storeWrite (h : Inv ρ s) {packet : PromiscuousPacket} {write next : UInt8}
    {stamp : UInt64} (hp : s.producer = .storeWrite packet write next stamp) (now : UInt64) :
    Inv ρ (produce ρ s now) := by
  have hok := h.producer
  simp only [ProducerOk, hp] at hok
  obtain ⟨⟨-, rfl, rfl, hroom⟩, hholds⟩ := hok
  simp only [produce, hp]
  have hqueue : (s.published ++ [Reception.mk packet stamp]).drop s.released =
      s.outstanding ++ [Reception.mk packet stamp] := List.drop_append_of_le_length h.released_le
  have hpublished :
      (s.published ++ [Reception.mk packet stamp]).length = s.published.length + 1 := by
    simp
  have hle := h.released_le
  refine ⟨?_, ?_, trivial, h.consumer.congr rfl rfl ?_, ?_⟩
  · simp only [State.outstanding, hqueue, next_toNat]
    exact h.ring.publish hholds hroom
  · show s.released ≤ (s.published ++ [Reception.mk packet stamp]).length
    omega
  · intro _
    refine ⟨?_, rfl⟩
    simp [State.outstanding, hqueue]
  · -- The packets already handed over are among those published before.
    have hover : s.handedOver ≤ s.published.length := by
      have hconsumer := h.consumer
      unfold State.handedOver
      split
      · rename_i hc
        simp only [ConsumerOk, hc] at hconsumer
        have := List.length_pos_of_ne_nil hconsumer.2
        simp only [State.outstanding, List.length_drop] at this
        omega
      · exact hle
    have htake : (s.published ++ [Reception.mk packet stamp]).take s.handedOver =
        s.published.take s.handedOver := List.take_append_of_le_length hover
    rw [← show s.handedOver = State.handedOver { s with
      writeIndex := ρ.next s.writeIndex
      producer := .idle
      published := s.published ++ [Reception.mk packet stamp] } from rfl, htake]
    exact h.handed

/-- Every step of the callback keeps the invariant. -/
theorem Inv.produce (h : Inv ρ s) (now : UInt64) : Inv ρ (produce ρ s now) := by
  have hok := h.producer
  cases hp : s.producer with
  | idle => simpa [Raw80211Radio.produce, hp] using h
  | storeWrite packet write next stamp => exact h.storeWrite hp now
  | loadWrite packet =>
      simp only [ProducerOk, hp] at hok
      simp only [Raw80211Radio.produce, hp]
      exact h.advanceProducer ⟨hok, rfl⟩
  | loadRead packet write =>
      simp only [ProducerOk, hp] at hok
      obtain ⟨haccepts, rfl⟩ := hok
      simp only [Raw80211Radio.produce, hp]
      split
      · exact h.advanceProducer trivial
      · rename_i hfull
        refine h.advanceProducer ⟨haccepts, rfl, rfl, ?_⟩
        have hroom := h.ring.room
        have hspare : s.outstanding.length + 1 ≠ ρ.depth.size := by
          intro hlength
          apply hfull
          apply UInt8.toNat_inj.mp
          rw [next_toNat]
          exact h.ring.full_iff.mpr hlength
        show s.outstanding.length + 1 < ρ.depth.size
        omega
  | storeSource packet write next =>
      simp only [ProducerOk, hp] at hok
      obtain ⟨haccepts, rfl, hnext, hroom⟩ := hok
      simp only [Raw80211Radio.produce, hp]
      refine h.fill ⟨⟨haccepts, rfl, hnext, hroom⟩, ?_⟩
      dsimp only [State.modifySlot]
      rw [if_pos rfl]
  | storeDestination packet write next =>
      simp only [ProducerOk, hp] at hok
      obtain ⟨⟨haccepts, rfl, hnext, hroom⟩, hsource⟩ := hok
      simp only [Raw80211Radio.produce, hp]
      refine h.fill ⟨⟨haccepts, rfl, hnext, hroom⟩, ?_⟩
      dsimp only [State.modifySlot]
      rw [if_pos rfl]
      exact ⟨hsource, rfl⟩
  | storeLength packet write next =>
      simp only [ProducerOk, hp] at hok
      obtain ⟨⟨haccepts, rfl, hnext, hroom⟩, hsource, hdestination⟩ := hok
      simp only [Raw80211Radio.produce, hp]
      refine h.fill ⟨⟨haccepts, rfl, hnext, hroom⟩, ?_⟩
      dsimp only [State.modifySlot]
      rw [if_pos rfl]
      exact ⟨hsource, hdestination, rfl⟩
  | storeRssi packet write next =>
      simp only [ProducerOk, hp] at hok
      obtain ⟨⟨haccepts, rfl, hnext, hroom⟩, hsource, hdestination, hlength⟩ := hok
      simp only [Raw80211Radio.produce, hp]
      refine h.fill ⟨⟨haccepts, rfl, hnext, hroom⟩, ?_⟩
      dsimp only [State.modifySlot]
      rw [if_pos rfl]
      exact ⟨hsource, hdestination, hlength, rfl⟩
  | storeTimestamp packet write next =>
      simp only [ProducerOk, hp] at hok
      obtain ⟨⟨haccepts, rfl, hnext, hroom⟩, hsource, hdestination, hlength, hrssi⟩ := hok
      simp only [Raw80211Radio.produce, hp]
      refine h.fill ⟨⟨haccepts, rfl, hnext, hroom⟩, ?_⟩
      dsimp only [State.modifySlot]
      rw [if_pos rfl]
      exact ⟨hsource, hdestination, hlength, hrssi, rfl⟩
  | storePayload packet write next stamp =>
      simp only [ProducerOk, hp] at hok
      obtain ⟨⟨haccepts, rfl, hnext, hroom⟩, hsource, hdestination, hlength, hrssi, hstamp⟩ := hok
      simp only [Raw80211Radio.produce, hp]
      refine h.fill ⟨⟨haccepts, rfl, hnext, hroom⟩, ?_⟩
      dsimp only [State.modifySlot]
      rw [if_pos rfl]
      exact holds_payload haccepts hsource hdestination hlength hrssi hstamp

/-! ## Whole interleavings -/

/-- Every event keeps the invariant. -/
theorem Inv.step (h : Inv ρ s) (event : Event) : Inv ρ (step ρ s event) := by
  cases event with
  | produce now => exact h.produce now
  | consume => exact h.consume
  | receive packet =>
      simp only [Raw80211Radio.step]
      split
      · split
        · rename_i haccepts
          exact h.advanceProducer haccepts
        · exact h
      · exact h
  | drainInbound =>
      simp only [Raw80211Radio.step]
      split
      · rename_i hc
        exact h.advanceConsumer trivial (by simp [State.handedOver, hc])
      · exact h

/-- Every interleaving keeps the invariant. -/
theorem Inv.run (h : Inv ρ s) (events : List Event) :
    Inv ρ (events.foldl (Raw80211Radio.step ρ) s) := by
  have hrun := Runs.Run.of_foldl (Raw80211Radio.step ρ) events s
  refine hrun.invariant ?_ h
  intro s event t hs hstep
  rw [← hstep]
  exact hs.step event

/-- The slot the callback writes to is the one at the write index, which is
not in use. -/
theorem ProducerOk.writing (h : ProducerOk ρ s) {write : UInt8}
    (hw : s.producer.writing = some write) : write = s.writeIndex := by
  unfold ProducerOk at h
  cases hp : s.producer <;> simp only [hp, Producer.writing] at h hw
  all_goals first
    | cases hw
      first
        | exact h.2.1
        | exact h.1.2.1
    | contradiction

/-- The slot `DrainInbound` reads is the one at the read index, and is in
use. -/
theorem ConsumerOk.reading (h : ConsumerOk ρ s) {read : UInt8}
    (hr : s.consumer.reading = some read) : Reading s read := by
  unfold ConsumerOk at h
  cases hc : s.consumer <;> simp only [hc, Consumer.reading] at h hr
  all_goals first
    | cases hr
      first
        | exact h
        | exact h.1
    | contradiction

/-- The receiver has been handed the packets published, in order, each of them
once and as it was stored; nothing is written to a slot that is being read;
and a frame the callback accepted is published, or else dropped while all
slots but one are in use. -/
structure Sound (ρ : Session Address) (s : State Address) : Prop where
  in_order : s.handed <+: s.published.map (Reception.delivery ρ)
  apart : ∀ write read, s.producer.writing = some write → s.consumer.reading = some read →
    write ≠ read
  inside : s.readIndex.toNat < ρ.depth.size ∧ s.writeIndex.toNat < ρ.depth.size
  kept : ∀ packet now, s.producer.packet = some packet → (produce ρ s now).producer = .idle →
    (∃ stamp, (produce ρ s now).published = s.published ++ [⟨packet, stamp⟩]) ∨
      s.outstanding.length = ρ.depth.size - 1

/-- A frame the callback is done with was published or found the queue full. -/
theorem Inv.kept (h : Inv ρ s) {packet : PromiscuousPacket} {now : UInt64}
    (hpacket : s.producer.packet = some packet)
    (hidle : (Raw80211Radio.produce ρ s now).producer = .idle) :
    (∃ stamp, (Raw80211Radio.produce ρ s now).published = s.published ++ [⟨packet, stamp⟩]) ∨
      s.outstanding.length = ρ.depth.size - 1 := by
  have hok := h.producer
  cases hp : s.producer <;> simp only [hp, Producer.packet] at hpacket <;>
    simp only [Raw80211Radio.produce, hp] at hidle ⊢
  case idle => contradiction
  case storeWrite =>
    cases hpacket
    exact Or.inl ⟨_, rfl⟩
  case loadRead packet write =>
    cases hpacket
    simp only [ProducerOk, hp] at hok
    obtain ⟨-, rfl⟩ := hok
    split at hidle
    · rename_i hfull
      right
      have hnext := congrArg UInt8.toNat hfull
      rw [next_toNat] at hnext
      have := h.ring.full_iff.mp hnext
      omega
    · cases hidle
  all_goals cases hidle

theorem Inv.sound (h : Inv ρ s) : Sound ρ s where
  in_order := by
    rw [h.handed]
    split
    · exact (List.take_prefix _ _).map _
    · exact List.nil_prefix
  apart := by
    intro write read hw hr heq
    obtain ⟨hread, hne⟩ := h.consumer.reading hr
    have hwrite := h.producer.writing hw
    apply h.reading_ne hne
    rw [← hread, ← hwrite, heq]
  inside := ⟨h.ring.read_lt, h.ring.write_lt⟩
  kept := fun _ _ hpacket hidle => h.kept hpacket hidle

/-- **Packets in order, once and unharmed**, for every queue depth, in every
interleaving of the callback with `DrainInbound`. -/
theorem delivered_in_order (ρ : Session Address) (slots : Nat → ReceivedPacket Address)
    (events : List Event) : Sound ρ (events.foldl (step ρ) (State.started slots)) :=
  ((inv_started ρ slots).run events).sound

/-- A broadcast frame with a payload of two bytes. -/
def broadcastPacket : PromiscuousPacket where
  isData := true
  frame := [8, 0, 0, 0] ++ List.replicate 6 255 ++ [1, 2, 3, 4, 5, 6] ++ radioBssid ++ [0, 0] ++
    llcSnap ++ [2, 0, 7, 9]
  rssi := -40
  timestamp := 5

/-- Slots that no packet has been in yet. -/
def unusedSlots : Nat → ReceivedPacket Bytes :=
  fun _ => ⟨[], [], 0, 0, 0, List.replicate maximumPayloadBytes 0⟩

/-- In the smallest queue there is room for one packet: of two frames that
come before the worker drains the queue the second is dropped. -/
example :
    let ρ : Session Bytes :=
      ⟨⟨2, by decide, by decide⟩, List.replicate 6 1, id, fun _ => true, true⟩
    let receive := Event.receive (some broadcastPacket) :: List.replicate 9 (.produce 6000)
    let events := receive ++ receive ++ .drainInbound :: List.replicate 20 .consume
    (events.foldl (step ρ) (State.started unusedSlots)).handed.map Delivery.payload = [[7, 9]] := by
  decide +kernel

end Raw80211Radio
