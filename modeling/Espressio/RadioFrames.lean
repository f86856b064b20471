import Espressio.RadioDelivery
import Espressio.WebResult

/-!
# A frame from one radio to another

`Raw80211Radio::Send` builds the frame that `PromiscuousReceive` takes apart.
The driver fills in the duration and the sequence control, may change the
second byte of the frame control, and hands the frame over with a check
sequence behind it.

`buildFrame_eq` is the layout of what is sent; `accepts_sent_iff` says which
radios keep it, and `send_received` what their receivers are given.
-/

namespace Raw80211Radio

open NetworkBytes Web
open PlatformResults (EspErr)

def maximumFrameBytes : Nat := dot11HeaderBytes + encapsulationBytes + maximumPayloadBytes

/-- What `Send` asks of a `Radio::RadioAddress`. -/
structure Addressing (Address : Type*) where
  isValid : Address → Bool
  length : Address → Nat
  bytes : Address → Bytes

inductive SendStatus
  | notStarted
  | invalidAddress
  | payloadTooLarge
  | accepted
  | noMemory
  | nativeFailure
  deriving DecidableEq, Repr

/-- The result, which the observers are told too, and the frame that was
passed to `esp_wifi_80211_tx`. -/
structure SendOutcome where
  status : SendStatus
  native : Option EspErr
  transmitted : Option Bytes
  deriving DecidableEq, Repr

/-- The frame that `Send` builds, as far as it is passed on. -/
def buildFrame (destination localAddress payload : Bytes) : Bytes :=
  let frame : Bytes := List.replicate maximumFrameBytes 0
  let frame := (frame.set 0 0x08).set 1 0x00
  let frame := overwrite frame 4 (destination.take macBytes)
  let frame := overwrite frame 10 (localAddress.take macBytes)
  let frame := overwrite frame 16 radioBssid
  let frame := overwrite frame dot11HeaderBytes llcSnap
  let lengthOffset := dot11HeaderBytes + llcSnap.length
  let frame := frame.set lengthOffset (payload.length &&& 0xFF).toUInt8
  let frame := frame.set (lengthOffset + 1) ((payload.length >>> 8) &&& 0xFF).toUInt8
  let frame := overwrite frame (dot11HeaderBytes + encapsulationBytes) payload
  frame.take (dot11HeaderBytes + encapsulationBytes + payload.length)

variable {Address : Type*} {ρ : Session Address} {s : State Address}

/-- `Send`.  A null payload is `none`; `native` is the answer of
`esp_wifi_80211_tx`. -/
def send (a : Addressing Address) (started : Bool) (localAddress destination : Address)
    (payload : Option Bytes) (payloadSize : Nat) (native : EspErr) : SendOutcome :=
  if started = false then ⟨.notStarted, none, none⟩
  else if a.isValid destination = false ∨ a.length destination ≠ macBytes then
    ⟨.invalidAddress, none, none⟩
  else if (payload = none ∧ payloadSize ≠ 0) ∨ maximumPayloadBytes < payloadSize then
    ⟨.payloadTooLarge, none, none⟩
  else
    let frame := buildFrame (a.bytes destination) (a.bytes localAddress)
      ((payload.getD []).take payloadSize)
    match native with
    | .ok => ⟨.accepted, none, some frame⟩
    | .noMem => ⟨.noMemory, some .noMem, some frame⟩
    | e => ⟨.nativeFailure, some e, some frame⟩

/-! ## The layout of a frame -/

/-- The bytes of a header that are the driver's: the second byte of the frame
control, the duration, and the sequence control. -/
structure DriverFields where
  control : UInt8
  duration₀ : UInt8
  duration₁ : UInt8
  sequence₀ : UInt8
  sequence₁ : UInt8

/-- The 802.11 header and the encapsulation. -/
def header (v : DriverFields) (destination source : Bytes) (length : Nat) : Bytes :=
  [8, v.control, v.duration₀, v.duration₁] ++ destination ++ source ++ radioBssid ++
    [v.sequence₀, v.sequence₁] ++ llcSnap ++
    [(length &&& 0xFF).toUInt8, ((length >>> 8) &&& 0xFF).toUInt8]

/-- As `Send` leaves them. -/
def DriverFields.sent : DriverFields := ⟨0, 0, 0, 0, 0⟩

theorem six_bytes {bytes : Bytes} (h : bytes.length = macBytes) :
    ∃ a b c d e f, bytes = [a, b, c, d, e, f] := by
  match bytes, h with
  | [a, b, c, d, e, f], _ => exact ⟨a, b, c, d, e, f, rfl⟩

theorem buildFrame_eq {destination source payload : Bytes}
    (hdestination : macBytes ≤ destination.length) (hsource : macBytes ≤ source.length) :
    buildFrame destination source payload =
      header .sent (destination.take macBytes) (source.take macBytes) payload.length ++
        payload := by
  have htake : ∀ {bytes : Bytes}, macBytes ≤ bytes.length →
      ∃ a b c d e f, bytes.take macBytes = [a, b, c, d, e, f] :=
    fun h => six_bytes (by rw [List.length_take, Nat.min_eq_left h])
  obtain ⟨d₀, d₁, d₂, d₃, d₄, d₅, hd⟩ := htake hdestination
  obtain ⟨s₀, s₁, s₂, s₃, s₄, s₅, hs⟩ := htake hsource
  have hbuffer : List.replicate maximumFrameBytes (0 : UInt8) =
      List.replicate (dot11HeaderBytes + encapsulationBytes) 0 ++
        List.replicate maximumPayloadBytes 0 := by
    rw [List.replicate_append_replicate]
    rfl
  unfold buildFrame
  rw [hd, hs, hbuffer]
  dsimp only
  -- Everything but the payload goes into the first part of the buffer.
  have hle : ∀ {m n : Nat}, Nat.ble m n = true → m ≤ n := Nat.le_of_ble_eq_true
  rw [List.set_append_left _ _ (hle rfl), List.set_append_left _ _ (hle rfl),
    overwrite_append_left (hle rfl), overwrite_append_left (hle rfl),
    overwrite_append_left (hle rfl), overwrite_append_left (hle rfl),
    List.set_append_left _ _ (hle rfl), List.set_append_left _ _ (hle rfl)]
  let head := header .sent [d₀, d₁, d₂, d₃, d₄, d₅] [s₀, s₁, s₂, s₃, s₄, s₅] payload.length
  have hwritten : overwrite (head ++ List.replicate maximumPayloadBytes 0) head.length
      payload = head ++ payload ++
        (List.replicate maximumPayloadBytes 0).drop payload.length := overwrite_written
  calc _ = (overwrite (head ++ List.replicate maximumPayloadBytes 0) head.length
        payload).take (head.length + payload.length) := rfl
    _ = head ++ payload := by
        rw [hwritten, ← List.length_append, List.take_left]

/-- What the driver may change of a frame, and what it may not. -/
structure DriverChange (sent heard : Bytes) : Prop where
  length : heard.length = sent.length
  kept : ∀ i, i ≠ 1 → i ≠ 2 → i ≠ 3 → i ≠ 22 → i ≠ 23 → heard[i]? = sent[i]?

theorem DriverChange.eq {destination source payload heard : Bytes} {length : Nat}
    (hdestination : destination.length = macBytes) (hsource : source.length = macBytes)
    (h : DriverChange (header .sent destination source length ++ payload) heard) :
    ∃ v, heard = header v destination source length ++ payload := by
  obtain ⟨d₀, d₁, d₂, d₃, d₄, d₅, rfl⟩ := six_bytes hdestination
  obtain ⟨s₀, s₁, s₂, s₃, s₄, s₅, rfl⟩ := six_bytes hsource
  obtain ⟨hlength, hkept⟩ := h
  let v : DriverFields :=
    ⟨heard.getD 1 0, heard.getD 2 0, heard.getD 3 0, heard.getD 22 0, heard.getD 23 0⟩
  refine ⟨v, ?_⟩
  have hchanged : ∀ k, k < 24 → heard[k]? = some (heard.getD k 0) := by
    intro k hk
    have hlt : k < heard.length := by
      rw [hlength]
      simp only [header, llcSnap, radioBssid, List.length_append, List.length_cons]
      omega
    rw [List.getD_eq_getElem?_getD, List.getElem?_eq_getElem hlt]
    rfl
  have hset : header v [d₀, d₁, d₂, d₃, d₄, d₅] [s₀, s₁, s₂, s₃, s₄, s₅] length ++ payload =
      (((((header .sent [d₀, d₁, d₂, d₃, d₄, d₅] [s₀, s₁, s₂, s₃, s₄, s₅] length ++
        payload).set 1 v.control).set 2 v.duration₀).set 3 v.duration₁).set 22
        v.sequence₀).set 23 v.sequence₁ := rfl
  apply List.ext_getElem?
  intro i
  rw [hset]
  simp only [List.getElem?_set, List.length_set, ← hlength]
  have hlong : 24 ≤ heard.length := by
    by_contra hshort
    have := hchanged 23 (by omega)
    have := (List.getElem?_eq_some_iff.mp this).1
    omega
  have hsame := hkept i
  have hthere := hchanged i
  grind

/-! ## What the callback makes of it -/

section Heard

variable {destination source payload trailing : Bytes} {v : DriverFields}

theorem payloadLength_heard (hdestination : destination.length = macBytes)
    (hsource : source.length = macBytes) (hpayload : payload.length ≤ maximumPayloadBytes) :
    (payloadLength (header v destination source payload.length ++ payload ++ trailing)).toNat =
      payload.length := by
  obtain ⟨d₀, d₁, d₂, d₃, d₄, d₅, rfl⟩ := six_bytes hdestination
  obtain ⟨s₀, s₁, s₂, s₃, s₄, s₅, rfl⟩ := six_bytes hsource
  have hbytes : payloadLength (header v [d₀, d₁, d₂, d₃, d₄, d₅] [s₀, s₁, s₂, s₃, s₄, s₅]
      payload.length ++ payload ++ trailing) =
      join16 ((payload.length >>> 8) &&& 0xFF).toUInt8 (payload.length &&& 0xFF).toUInt8 := rfl
  have hmax : payload.length < 65536 := by
    simp only [maximumPayloadBytes] at hpayload
    omega
  rw [hbytes, join16_toNat, Nat.shiftRight_eq_div_pow]
  have hand : ∀ n : Nat, n &&& 0xFF = n % 256 := fun n => Nat.and_two_pow_sub_one_eq_mod n 8
  rw [hand, hand]
  simp only [Nat.toUInt8, UInt8.toNat_ofNat']
  omega

theorem framePayload_heard (hdestination : destination.length = macBytes)
    (hsource : source.length = macBytes) (hpayload : payload.length ≤ maximumPayloadBytes) :
    framePayload (header v destination source payload.length ++ payload ++ trailing) =
      payload := by
  rw [framePayload, payloadLength_heard hdestination hsource hpayload]
  obtain ⟨d₀, d₁, d₂, d₃, d₄, d₅, rfl⟩ := six_bytes hdestination
  obtain ⟨s₀, s₁, s₂, s₃, s₄, s₅, rfl⟩ := six_bytes hsource
  show (payload ++ trailing).take payload.length = payload
  rw [List.take_left]

theorem isOurFrame_heard (hdestination : destination.length = macBytes)
    (hsource : source.length = macBytes) :
    isOurFrame (header v destination source payload.length ++ payload ++ trailing) = true := by
  obtain ⟨d₀, d₁, d₂, d₃, d₄, d₅, rfl⟩ := six_bytes hdestination
  obtain ⟨s₀, s₁, s₂, s₃, s₄, s₅, rfl⟩ := six_bytes hsource
  have hcontrol : ∀ control : UInt8, join16 control 8 &&& 0x00FC = 0x0008 :=
    forall_uint8 (by decide +kernel)
  unfold isOurFrame
  rw [if_neg, if_neg, if_neg]
  · rfl
  · exact nofun
  · exact fun hne => hne (hcontrol v.control)
  · simp only [header, llcSnap, radioBssid, dot11HeaderBytes, encapsulationBytes,
      List.length_append, List.length_cons]
    omega

theorem frameDestination_heard (hdestination : destination.length = macBytes)
    (hsource : source.length = macBytes) {length : Nat} :
    frameDestination (header v destination source length ++ payload ++ trailing) =
      destination := by
  obtain ⟨d₀, d₁, d₂, d₃, d₄, d₅, rfl⟩ := six_bytes hdestination
  obtain ⟨s₀, s₁, s₂, s₃, s₄, s₅, rfl⟩ := six_bytes hsource
  rfl

theorem frameSource_heard (hdestination : destination.length = macBytes)
    (hsource : source.length = macBytes) {length : Nat} :
    frameSource (header v destination source length ++ payload ++ trailing) = source := by
  obtain ⟨d₀, d₁, d₂, d₃, d₄, d₅, rfl⟩ := six_bytes hdestination
  obtain ⟨s₀, s₁, s₂, s₃, s₄, s₅, rfl⟩ := six_bytes hsource
  rfl

theorem isBroadcastMac_iff {data : Bytes} (h : (data.take macBytes).length = macBytes) :
    isBroadcastMac data = true ↔ data.take macBytes = List.replicate macBytes 0xFF := by
  rw [isBroadcastMac, List.eq_replicate_iff]
  simp [h]

/-- **Who keeps a frame**: the radio it is addressed to, and everybody if it
is broadcast. -/
theorem accepts_heard_iff (hdestination : destination.length = macBytes)
    (hsource : source.length = macBytes) (hpayload : payload.length ≤ maximumPayloadBytes)
    (rssi : Int) (timestamp : UInt32) :
    accepts ρ ⟨true, header v destination source payload.length ++ payload ++ trailing, rssi,
        timestamp⟩ = true ↔
      ρ.localAddress.take macBytes = destination ∨
        destination = List.replicate macBytes 0xFF := by
  have hto : frameDestination
      (header v destination source payload.length ++ payload ++ trailing) = destination :=
    frameDestination_heard hdestination hsource
  have hlength : (payloadLength
      (header v destination source payload.length ++ payload ++ trailing)).toNat =
      payload.length := payloadLength_heard hdestination hsource hpayload
  have hours : isOurFrame
      (header v destination source payload.length ++ payload ++ trailing) = true :=
    isOurFrame_heard hdestination hsource
  have hbroadcast : isBroadcastMac
      ((header v destination source payload.length ++ payload ++ trailing).drop 4) = true ↔
      destination = List.replicate macBytes 0xFF := by
    rw [isBroadcastMac_iff] <;> rw [← frameDestination, hto]
    exact hdestination
  have hfits : dot11HeaderBytes + encapsulationBytes + payload.length ≤
      (header v destination source payload.length ++ payload ++ trailing).length := by
    simp only [header, llcSnap, radioBssid, dot11HeaderBytes, encapsulationBytes, hdestination,
      hsource, macBytes, List.length_append, List.length_cons]
    omega
  simp only [accepts, hours, hto, hlength, Bool.and_eq_true, Bool.or_eq_true, beq_iff_eq,
    decide_eq_true_eq, hbroadcast]
  constructor
  · intro h
    exact h.1.1.2.imp_left Eq.symm
  · intro h
    exact ⟨⟨⟨⟨trivial, trivial⟩, h.imp_left Eq.symm⟩, hpayload⟩, hfits⟩

end Heard

/-! ## A whole call of the callback, and a whole call of `DrainInbound` -/

/-- The callback from beginning to end, for one frame. -/
def promiscuousReceive (ρ : Session Address) (s : State Address) (packet : PromiscuousPacket)
    (now : UInt64) : State Address :=
  (.receive (some packet) :: List.replicate 9 (.produce now)).foldl (step ρ) s

theorem promiscuousReceive_refused (hproducer : s.producer = .idle) {packet : PromiscuousPacket}
    (h : accepts ρ packet = false) (now : UInt64) : promiscuousReceive ρ s packet now = s := by
  simp [promiscuousReceive, List.replicate, step, produce, hproducer, h]

/-- What a call of the callback does to everything but the slots. -/
theorem promiscuousReceive_accepted (hproducer : s.producer = .idle)
    {packet : PromiscuousPacket} (h : accepts ρ packet = true)
    (hroom : ρ.next s.writeIndex ≠ s.readIndex) (now : UInt64) :
    let t := promiscuousReceive ρ s packet now
    t.published = s.published ++ [⟨packet, now⟩] ∧ t.producer = .idle ∧
      t.consumer = s.consumer ∧ t.released = s.released := by
  simp [promiscuousReceive, List.replicate, step, produce, State.modifySlot, hproducer, h, hroom]

/-- One round of `DrainInbound` hands over the front of the queue. -/
theorem drain_round (h : Inv ρ s) (hconsumer : s.consumer = .loadRead)
    (hqueue : s.outstanding ≠ []) :
    let t := (List.replicate 10 Event.consume).foldl (step ρ) s
    t.consumer = .loadRead ∧ t.published = s.published ∧ t.released = s.released + 1 := by
  have hindex : s.readIndex ≠ s.writeIndex := fun heq =>
    hqueue (h.ring.empty_iff.mp (congrArg UInt8.toNat heq))
  simp [List.replicate, step, consume, hconsumer, hindex]

/-- `DrainInbound` returns, and then the queue is empty. -/
theorem drain_returns (h : Inv ρ s) (hconsumer : s.consumer = .loadRead) :
    ∃ n, let t := (List.replicate n Event.consume).foldl (step ρ) s
      t.consumer = .idle ∧ t.published = s.published ∧ t.outstanding = [] := by
  induction hlength : s.outstanding.length generalizing s with
  | zero =>
      have hqueue : s.outstanding = [] := List.eq_nil_of_length_eq_zero hlength
      have hindex : s.readIndex = s.writeIndex :=
        UInt8.toNat_inj.mp (h.ring.empty_iff.mpr hqueue)
      refine ⟨2, ?_⟩
      have hstay : (List.replicate 2 Event.consume).foldl (step ρ) s =
          { s with consumer := .idle } := by
        simp [List.replicate, step, consume, hconsumer, hindex]
      rw [hstay]
      exact ⟨rfl, rfl, hqueue⟩
  | succ k ih =>
      have hqueue : s.outstanding ≠ [] := by
        intro hnil
        rw [hnil] at hlength
        cases hlength
      obtain ⟨hnext, hpublished, hreleased⟩ := drain_round h hconsumer hqueue
      have hshorter : ((List.replicate 10 Event.consume).foldl (step ρ) s).outstanding.length =
          k := by
        simp only [State.outstanding, List.length_drop] at hlength ⊢
        rw [hpublished, hreleased]
        omega
      obtain ⟨n, hidle, hsame, hempty⟩ := ih (h.run _) hnext hshorter
      refine ⟨10 + n, ?_⟩
      rw [← List.replicate_append_replicate, List.foldl_append]
      exact ⟨hidle, hsame.trans hpublished, hempty⟩

/-- What the receiver has been given once `DrainInbound` is through. -/
theorem Inv.handed_all (h : Inv ρ s) (hconsumer : s.consumer = .idle)
    (hreceiver : ρ.hasReceiver = true) :
    s.handed ++ s.outstanding.map (Reception.delivery ρ) =
      s.published.map (Reception.delivery ρ) := by
  have hhanded := h.handed
  rw [hreceiver, if_pos rfl] at hhanded
  have hover : s.handedOver = s.released := by simp [State.handedOver, hconsumer]
  rw [hhanded, hover, ← List.map_append, State.outstanding, List.take_append_drop]

/-- A call of `DrainInbound` returns, and has then handed the receiver all that
was in the queue. -/
theorem drain_hands_over (h : Inv ρ s) (hconsumer : s.consumer = .idle)
    (hreceiver : ρ.hasReceiver = true) :
    ∃ n, let u := (.drainInbound :: List.replicate n .consume).foldl (step ρ) s
      u.consumer = .idle ∧ u.handed = s.published.map (Reception.delivery ρ) := by
  have hload : (step ρ s .drainInbound).consumer = .loadRead := by
    simp [step, hconsumer]
  have hsame : (step ρ s .drainInbound).published = s.published := by
    simp only [step]
    split <;> rfl
  obtain ⟨n, hdone, hkeep, hempty⟩ := drain_returns (h.step .drainInbound) hload
  have hinv := (h.step .drainInbound).run (List.replicate n Event.consume)
  refine ⟨n, hdone, ?_⟩
  have hall := hinv.handed_all hdone hreceiver
  rw [hempty, List.map_nil, List.append_nil, hkeep, hsame] at hall
  exact hall

/-- `RadioAddress::FromBytes` stores the bytes it is given. -/
structure StoresBytes (a : Addressing Address) (fromBytes : Bytes → Address) : Prop where
  bytes : ∀ b : Bytes, b.length = macBytes → (a.bytes (fromBytes b)).take macBytes = b
  length : ∀ b : Bytes, b.length = macBytes → a.length (fromBytes b) = macBytes

/-- The address has these six bytes. -/
def Addressing.Is (a : Addressing Address) (address : Address) (bytes : Bytes) : Prop :=
  a.length address = macBytes ∧ (a.bytes address).take macBytes = bytes

/-- A started radio passes on, to every valid six-byte address, what is within the
limit.  The rest is up to `esp_wifi_80211_tx`. -/
theorem send_transmitted {a : Addressing Address} (localAddress : Address) {destination : Address}
    {payload : Option Bytes} {size : Nat} (hvalid : a.isValid destination = true)
    (hlength : a.length destination = macBytes) (hreadable : size ≤ (payload.getD []).length)
    (hsize : size ≤ maximumPayloadBytes) (native : EspErr) :
    let sent := send a true localAddress destination payload size native
    sent.transmitted = some (buildFrame (a.bytes destination) (a.bytes localAddress)
        ((payload.getD []).take size)) ∧
      (sent.status = .accepted ↔ native = .ok) := by
  intro sent
  have haddress : ¬(a.isValid destination = false ∨ a.length destination ≠ macBytes) := by
    simp [hvalid, hlength]
  have hpayload : ¬((payload = none ∧ size ≠ 0) ∨ maximumPayloadBytes < size) := by
    intro hrefused
    rcases hrefused with ⟨rfl, hne⟩ | hlarge
    · exact hne (Nat.le_zero.mp hreadable)
    · omega
  simp only [sent, send, if_neg haddress, if_neg hpayload, Bool.true_eq_false, if_false]
  cases native <;> simp

/-- **From `Send` to the receiver.**  A started radio sends a frame for every valid
destination and every payload within the limit.  With the driver's changes and
whatever comes after it, the frame is kept by another radio exactly if it is
addressed to it or broadcast; then `DrainInbound` presents the sender's address, the
destination and the payload.  A radio that does not keep it is left as it was. -/
theorem send_received (a : Addressing Address) (ρ : Session Address)
    (hstores : StoresBytes a ρ.fromBytes) (hreceiver : ρ.hasReceiver = true)
    (slots : Nat → ReceivedPacket Address) (events : List Event)
    (hs : s = events.foldl (step ρ) (State.started slots)) (hproducer : s.producer = .idle)
    (hconsumer : s.consumer = .idle) (hroom : ρ.next s.writeIndex ≠ s.readIndex)
    (localAddress destination : Address) (payload : Option Bytes) (size : Nat)
    (hlocal : macBytes ≤ (a.bytes localAddress).length)
    (hdestination : macBytes ≤ (a.bytes destination).length)
    (hvalid : a.isValid destination = true) (hlength : a.length destination = macBytes)
    (hreadable : size ≤ (payload.getD []).length) (hsize : size ≤ maximumPayloadBytes) :
    ∃ frame,
      (∀ native,
        let sent := send a true localAddress destination payload size native
        sent.transmitted = some frame ∧ (sent.status = .accepted ↔ native = .ok)) ∧
      ∀ heard, DriverChange frame heard →
      ∀ (trailing : Bytes) (rssi : Int) (timestamp : UInt32) (now : UInt64),
        let packet : PromiscuousPacket := ⟨true, heard ++ trailing, rssi, timestamp⟩
        let t := promiscuousReceive ρ s packet now
        let addressed := ρ.localAddress.take macBytes = (a.bytes destination).take macBytes ∨
          (a.bytes destination).take macBytes = List.replicate macBytes 0xFF
        (t.published = s.published ++ [⟨packet, now⟩] ↔ addressed) ∧
        (¬ addressed → t = s) ∧
        (addressed → ∃ n d,
          let u := (.drainInbound :: List.replicate n .consume).foldl (step ρ) t
          u.consumer = .idle ∧
            u.handed = s.handed ++ s.outstanding.map (Reception.delivery ρ) ++ [d] ∧
            a.Is d.source ((a.bytes localAddress).take macBytes) ∧
            a.Is d.destination ((a.bytes destination).take macBytes) ∧
            d.payload = (payload.getD []).take size ∧ d.payloadSize.toNat = size) := by
  refine ⟨_, send_transmitted localAddress hvalid hlength hreadable hsize, ?_⟩
  intro heard hchange trailing rssi timestamp now packet t addressed
  have hdata : ((payload.getD []).take size).length = size := by
    rw [List.length_take, Nat.min_eq_left hreadable]
  have hlimit : ((payload.getD []).take size).length ≤ maximumPayloadBytes := by omega
  have hto : ((a.bytes destination).take macBytes).length = macBytes := by
    rw [List.length_take, Nat.min_eq_left hdestination]
  have hfrom : ((a.bytes localAddress).take macBytes).length = macBytes := by
    rw [List.length_take, Nat.min_eq_left hlocal]
  rw [buildFrame_eq hdestination hlocal] at hchange
  obtain ⟨v, rfl⟩ := hchange.eq hto hfrom
  have haccepts : accepts ρ packet = true ↔ addressed :=
    accepts_heard_iff hto hfrom hlimit rssi timestamp
  have hinv : Inv ρ s := hs ▸ (inv_started ρ slots).run events
  have hrefused : ¬ addressed → t = s := fun hnot =>
    promiscuousReceive_refused hproducer (by rw [← haccepts] at hnot; simpa using hnot) now
  refine ⟨⟨?_, ?_⟩, hrefused, ?_⟩
  · intro hpublished
    by_contra hnot
    rw [hrefused hnot] at hpublished
    simpa using congrArg List.length hpublished
  · intro hkept
    exact (promiscuousReceive_accepted hproducer (haccepts.mpr hkept) hroom now).1
  · intro hkept
    obtain ⟨hpublished, -, hidle, -⟩ :=
      promiscuousReceive_accepted hproducer (haccepts.mpr hkept) hroom now
    have hinvT : Inv ρ t := hinv.run _
    obtain ⟨n, hdone, hhanded⟩ := drain_hands_over hinvT (hidle.trans hconsumer) hreceiver
    refine ⟨n, Reception.delivery ρ ⟨packet, now⟩, hdone, ?_, ?_, ?_, ?_, ?_⟩
    · rw [hinv.handed_all hconsumer hreceiver]
      refine hhanded.trans ?_
      simp [t, hpublished]
    · have hsource : frameSource packet.frame = (a.bytes localAddress).take macBytes :=
        frameSource_heard hto hfrom
      show a.Is (ρ.fromBytes (frameSource packet.frame)) _
      rw [hsource]
      exact ⟨hstores.length _ hfrom, hstores.bytes _ hfrom⟩
    · have hdest : frameDestination packet.frame = (a.bytes destination).take macBytes :=
        frameDestination_heard hto hfrom
      show a.Is (ρ.fromBytes (frameDestination packet.frame)) _
      rw [hdest]
      exact ⟨hstores.length _ hto, hstores.bytes _ hto⟩
    · exact framePayload_heard hto hfrom hlimit
    · rw [← hdata]
      exact payloadLength_heard hto hfrom hlimit

/-- Addresses that are their six bytes. -/
def byteAddressing : Addressing Bytes := ⟨fun _ => true, List.length, id⟩

def neighbour : Session Bytes :=
  ⟨⟨3, by decide, by decide⟩, List.replicate macBytes 9, id, fun _ => false, true⟩

/-- One byte, sent to a neighbour that has room for a packet. -/
theorem send_received_neighbour :
    ∃ frame, (send byteAddressing true (List.replicate macBytes 1) (List.replicate macBytes 9)
        (some [7]) 1 .ok).transmitted = some frame ∧
      (promiscuousReceive neighbour (State.started unusedSlots)
        ⟨true, frame ++ [0, 0, 0, 0], -40, 5⟩ 6000).published =
          [⟨⟨true, frame ++ [0, 0, 0, 0], -40, 5⟩, 6000⟩] := by
  have hstores : StoresBytes byteAddressing neighbour.fromBytes :=
    ⟨fun _ h => List.take_of_length_le (Nat.le_of_eq h), fun _ h => h⟩
  obtain ⟨frame, hsent, hreceived⟩ := send_received byteAddressing neighbour hstores rfl
    unusedSlots [] rfl rfl rfl (by decide) (List.replicate macBytes 1) (List.replicate macBytes 9)
    (some [7]) 1 (by decide) (by decide) rfl rfl (by decide) (by decide)
  have hkept := hreceived frame ⟨rfl, fun _ _ _ _ _ _ => rfl⟩ [0, 0, 0, 0] (-40) 5 6000
  exact ⟨frame, (hsent .ok).1, hkept.1.mpr (Or.inl (by decide))⟩

end Raw80211Radio
