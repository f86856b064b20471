import Espressio.RadioDelivery

/-!
# Stopping and restarting the radio

`Raw80211Radio::Start` and `Stop` around the receive queue.  Both set the
queue's two indices to zero and leave its slots as they are.  They run on the
consumer's side: between two calls of `DrainInbound`, or inside the receiver's
`OnRadioPacket`, where `DrainInbound` has read its index and not yet stored
the next one.

`accepted`, `staleDrain` and `staleCallback` are not in the program.
`accepted` are the frames that passed the callback's checks since the last
`Start`.  The other two say that a `Stop` took effect while a call of
`DrainInbound`, or of the callback, was under way, and that this call goes on
with what it read before.  `published`, `released` and `handed` of the queue
count from the last `Start` or `Stop`.

The index that such a call of `DrainInbound` stores belongs to the session
before.  `isolated_of_undisturbed` says when this does no harm, and
`stop_inside_callback_delivers_again` what happens when it does.
-/

namespace Raw80211Radio

open NetworkBytes RingQueue

/-- `wifi_mode_t` -/
inductive WiFiMode
  | null
  | sta
  | ap
  | apsta
  deriving DecidableEq, Repr

/-- `wifi_interface_t` -/
inductive WiFiInterface
  | sta
  | ap
  deriving DecidableEq, Repr

/-- `Raw80211RadioConfiguration` -/
structure Configuration where
  interface : WiFiInterface
  channel : UInt8
  initializeStationModeWhenNeeded : Bool
  deriving DecidableEq, Repr

/-- The native answers during `Start`: whether another radio has the driver's
callback, whether the queue could be allocated, `esp_wifi_get_mode`, the switch
to station mode, `esp_wifi_set_channel`, `esp_wifi_get_mac`, and the three
calls for promiscuous mode. -/
structure StartNatives where
  otherRadio : Bool
  resized : Bool
  mode : Option WiFiMode
  stationMode : Bool
  channelSet : Bool
  mac : Option Bytes
  promiscuous : Option Bool
  callbackSet : Bool
  promiscuousSet : Bool
  deriving DecidableEq, Repr

structure Radio (Address : Type*) where
  started : Bool
  registered : Bool
  allocated : Bool
  localAddress : Bytes
  promiscuousWasEnabled : Bool
  shared : State Address
  accepted : List PromiscuousPacket
  staleDrain : Bool
  staleCallback : Bool

variable {Address : Type*} {ρ : Session Address} {r : Radio Address}

/-- A radio as it is constructed, with an empty local address. -/
def Radio.constructed (slots : Nat → ReceivedPacket Address) : Radio Address where
  started := false
  registered := false
  allocated := false
  localAddress := List.replicate macBytes 0
  promiscuousWasEnabled := false
  shared := State.started slots
  accepted := []
  staleDrain := false
  staleCallback := false

/-- What the callback and `DrainInbound` go by: the local address is the one
that the last `Start` resolved. -/
def Radio.session (ρ : Session Address) (r : Radio Address) : Session Address :=
  { ρ with localAddress := r.localAddress }

/-- Both indices are stored as zero. -/
def State.reset (s : State Address) : State Address :=
  { s with readIndex := 0, writeIndex := 0, published := [], released := 0, handed := [] }

/-- The mode `Start` goes on with, if it goes on. -/
def StartNatives.modeAfter (c : Configuration) (n : StartNatives) : Option WiFiMode :=
  if n.mode.getD .null = .null ∧ c.initializeStationModeWhenNeeded then
    if n.stationMode then some .sta else none
  else some (n.mode.getD .null)

/-- The mode serves the interface. -/
def Configuration.fits (c : Configuration) : WiFiMode → Bool
  | .null => false
  | .sta => c.interface ≠ .ap
  | .ap => c.interface ≠ .sta
  | .apsta => true

def Radio.start (c : Configuration) (r : Radio Address) (n : StartNatives) :
    Radio Address × Bool :=
  if r.started then (r, true)
  else if r.registered = false ∧ n.otherRadio then (r, false)
  else if r.allocated = false ∧ n.resized = false then (r, false)
  else
    let sized := { r with allocated := true }
    match n.modeAfter c with
    | none => (sized, false)
    | some mode =>
        if c.fits mode = false then (sized, false)
        else if c.channel ≠ 0 ∧ n.channelSet = false then (sized, false)
        else
          match n.mac with
          | none => (sized, false)
          | some mac =>
              let resolved := { sized with
                localAddress := mac
                promiscuousWasEnabled := n.promiscuous.getD r.promiscuousWasEnabled }
              if n.callbackSet = false ∨ n.promiscuousSet = false then
                ({ resolved with registered := false }, false)
              else
                ({ resolved with
                    registered := true
                    started := true
                    shared := r.shared.reset
                    accepted := [] }, true)

def Producer.isIdle : Producer → Bool
  | .idle => true
  | _ => false

def Consumer.isIdle : Consumer Address → Bool
  | .idle => true
  | _ => false

def Radio.stop (r : Radio Address) : Radio Address :=
  if r.started = false then r
  else
    { r with
      started := false
      registered := false
      shared := r.shared.reset
      accepted := []
      staleDrain := !r.shared.consumer.isIdle
      staleCallback := !r.shared.producer.isIdle }

/-- The driver calls `PromiscuousReceive`. -/
def Radio.receive (ρ : Session Address) (r : Radio Address) (packet : Option PromiscuousPacket) :
    Radio Address :=
  match r.shared.producer, packet with
  | .idle, some packet =>
      if r.registered ∧ r.started ∧ r.allocated ∧ accepts (r.session ρ) packet then
        { r with
          shared := { r.shared with producer := .loadWrite packet }
          accepted := r.accepted ++ [packet]
          staleCallback := false }
      else r
  | _, _ => r

/-- The next access of the callback.  A frame from before a `Stop` is not one
of those published since. -/
def Radio.produce (ρ : Session Address) (r : Radio Address) (now : UInt64) : Radio Address :=
  let s := Raw80211Radio.produce (r.session ρ) r.shared now
  if r.staleCallback then
    { r with
      shared := { s with published := r.shared.published }
      staleCallback := !s.producer.isIdle }
  else { r with shared := s }

/-- The next access of `DrainInbound`.  When it stores an index from before a
`Stop`, the packets in the slots before that index are lost. -/
def Radio.consume (ρ : Session Address) (r : Radio Address) : Radio Address :=
  let s := Raw80211Radio.consume (r.session ρ) r.shared
  if r.staleDrain then
    { r with
      shared := { s with published := s.published.drop s.readIndex.toNat, released := 0 }
      staleDrain := false }
  else { r with shared := s }

inductive SessionEvent
  | start (natives : StartNatives)
  | stop
  | queue (event : Event)

/-- Where the consumer's side can call `Start` and `Stop`: outside of
`DrainInbound`, or in the receiver's callback. -/
def Radio.callable (ρ : Session Address) (r : Radio Address) : Bool :=
  match r.shared.consumer with
  | .idle => true
  | .storeRead _ => ρ.hasReceiver
  | _ => false

def Radio.step (ρ : Session Address) (c : Configuration) (r : Radio Address) :
    SessionEvent → Radio Address
  | .start natives => if r.callable ρ then (r.start c natives).1 else r
  | .stop => if r.callable ρ then r.stop else r
  | .queue (.receive packet) => r.receive ρ packet
  | .queue (.produce now) => r.produce ρ now
  | .queue .drainInbound =>
      { r with shared := Raw80211Radio.step (r.session ρ) r.shared .drainInbound }
  | .queue .consume => r.consume ρ

/-- **Sessions are kept apart.**  What the receiver has been handed since the
last `Start` or `Stop` are frames accepted since then, each at most once, and
nothing while the radio is stopped. -/
structure Isolated (ρ : Session Address) (r : Radio Address) : Prop where
  current : ∃ rs : List Reception, r.shared.handed = rs.map (Reception.delivery ρ) ∧
    (rs.map Reception.packet).Sublist r.accepted
  stopped : r.started = false → r.shared.handed = []

/-- An index stored by a call that a `Stop` overtook points into the packets
of the new session, or leaves the queue empty. -/
def Undisturbed (ρ : Session Address) (r : Radio Address) : SessionEvent → Prop
  | .queue .consume => r.staleDrain = true → ∀ read, r.shared.consumer = .storeRead read →
      ρ.next read ≤ r.shared.writeIndex
  | .queue (.produce _) => r.staleCallback = true → ∀ packet write next now,
      r.shared.producer = .storeWrite packet write next now → next = r.shared.readIndex
  | _ => True

/-- The index the callback is about to store. -/
def Producer.storing : Producer → Option UInt8
  | .storeWrite _ _ next _ => some next
  | _ => none

/-- The index `DrainInbound` goes on from. -/
def Consumer.storing : Consumer Address → Option UInt8
  | .storeRead read => some read
  | _ => none

theorem undisturbed_consume_iff {ρ : Session Address} {r : Radio Address} :
    Undisturbed ρ r (.queue .consume) ↔ (r.staleDrain = true →
      r.shared.consumer.storing.all (fun read => ρ.next read ≤ r.shared.writeIndex) = true) := by
  unfold Undisturbed
  cases r.shared.consumer <;> simp [Consumer.storing]

theorem undisturbed_produce_iff {ρ : Session Address} {r : Radio Address} {now : UInt64} :
    Undisturbed ρ r (.queue (.produce now)) ↔ (r.staleCallback = true →
      r.shared.producer.storing.all (· == r.shared.readIndex) = true) := by
  unfold Undisturbed
  cases r.shared.producer with
  | storeWrite packet write next stamp =>
      simp only [Producer.storing, Option.all_some, beq_iff_eq]
      constructor
      · intro h hstale
        exact h hstale packet write next stamp rfl
      · intro h hstale packet' write' next' stamp' heq
        cases heq
        exact h hstale
  | _ => simp [Producer.storing]

instance (ρ : Session Address) (r : Radio Address) : ∀ event, Decidable (Undisturbed ρ r event)
  | .start _ => .isTrue trivial
  | .stop => .isTrue trivial
  | .queue (.receive _) => .isTrue trivial
  | .queue .drainInbound => .isTrue trivial
  | .queue .consume => decidable_of_iff' _ undisturbed_consume_iff
  | .queue (.produce _) => decidable_of_iff' _ undisturbed_produce_iff

/-! ## The queue without the calls that were overtaken -/

/-- The queue as the current session knows it. -/
def Radio.current (r : Radio Address) : State Address :=
  { r.shared with
    producer := if r.staleCallback then .idle else r.shared.producer
    consumer := if r.staleDrain then .idle else r.shared.consumer }

/-- The frame the callback is dealing with, if it is one of this session. -/
def Radio.inHand (r : Radio Address) : List PromiscuousPacket :=
  if r.staleCallback then [] else r.shared.producer.packet.toList

/-- **The invariant.** -/
structure SessionInv (ρ : Session Address) (r : Radio Address) : Prop where
  queue : Inv (r.session ρ) r.current
  stopped : r.started = false → r.accepted = [] ∧ r.shared.published = [] ∧
    (r.staleCallback = true ∨ r.shared.producer = .idle)
  callback : r.staleCallback = true → r.shared.published = []
  drain : r.staleDrain = true → (∃ read, r.shared.consumer = .storeRead read) ∧
    r.shared.readIndex = 0 ∧ r.shared.released = 0
  fresh : (r.shared.published.map Reception.packet ++ r.inHand).Sublist r.accepted

theorem produce_consumer (s : State Address) (now : UInt64) (c : Consumer Address) :
    produce ρ { s with consumer := c } now = { produce ρ s now with consumer := c } := by
  cases hp : s.producer <;> simp only [produce, hp, State.modifySlot]
  split <;> rfl

theorem consume_producer (s : State Address) (p : Producer) :
    consume ρ { s with producer := p } = { consume ρ s with producer := p } := by
  cases hc : s.consumer <;> simp only [consume, hc, State.seen]
  split <;> rfl

/-- What a step of the callback leaves alone. -/
theorem produce_frame (s : State Address) (now : UInt64) :
    (produce ρ s now).consumer = s.consumer ∧ (produce ρ s now).readIndex = s.readIndex ∧
      (produce ρ s now).released = s.released := by
  cases hp : s.producer <;> simp only [produce, hp, State.modifySlot]
  case loadRead => split <;> simp
  all_goals simp

/-- What a step of `DrainInbound` leaves alone. -/
theorem consume_frame (s : State Address) :
    (consume ρ s).producer = s.producer ∧ (consume ρ s).published = s.published := by
  cases hc : s.consumer <;> simp only [consume, hc]
  case loadWrite => split <;> simp
  all_goals simp

/-- The frame in hand is published, dropped, or stays in hand. -/
theorem produce_packets (s : State Address) (now : UInt64) :
    ((produce ρ s now).published.map Reception.packet ++
        (produce ρ s now).producer.packet.toList).Sublist
      (s.published.map Reception.packet ++ s.producer.packet.toList) := by
  cases hp : s.producer <;> simp only [produce, hp, State.modifySlot]
  case loadRead packet write =>
    split
    · exact (List.Sublist.refl _).append (List.nil_sublist _)
    · exact List.Sublist.refl _
  case storeWrite packet write next stamp => simp [Producer.packet]
  all_goals simp [Producer.packet]

/-- A step of a callback that a `Stop` overtook writes to some slot.  Storing
an index that is already there changes nothing. -/
theorem produce_overtaken {s : State Address} (now : UInt64)
    (hindex : ∀ packet write next stamp, s.producer = .storeWrite packet write next stamp →
      next = s.writeIndex) :
    ∃ slots p, { produce ρ s now with published := s.published } =
      { s with slots := slots, producer := p } := by
  cases hp : s.producer <;> simp only [produce, hp]
  case loadRead =>
    split
    · exact ⟨s.slots, .idle, rfl⟩
    · exact ⟨s.slots, _, rfl⟩
  case storeWrite packet write next stamp =>
    rw [hindex packet write next stamp hp]
    exact ⟨s.slots, .idle, rfl⟩
  case idle => exact ⟨s.slots, .idle, by rw [← hp]⟩
  case loadWrite => exact ⟨s.slots, _, rfl⟩
  all_goals exact ⟨_, _, rfl⟩

/-- A queue in which nothing is under way and nothing is outstanding. -/
theorem inv_idle {s : State Address} (hread : s.readIndex.toNat < ρ.depth.size)
    (hindex : s.writeIndex = s.readIndex) (hpublished : s.published = [])
    (hreleased : s.released = 0) (hhanded : s.handed = []) (hproducer : s.producer = .idle)
    (hconsumer : s.consumer = .idle) : Inv ρ s where
  ring := by
    rw [hindex, State.outstanding, hpublished, List.drop_nil]
    exact represents_empty hread
  released_le := by rw [hreleased]; exact Nat.zero_le _
  producer := by simp only [ProducerOk, hproducer]
  consumer := by simp only [ConsumerOk, hconsumer]
  handed := by simp [hhanded, hpublished]

/-- With nothing outstanding the slots may hold anything. -/
theorem Inv.reslot {s : State Address} (h : Inv ρ s) (hproducer : s.producer = .idle)
    (hpublished : s.published = []) (slots : Nat → ReceivedPacket Address) :
    Inv ρ { s with slots := slots } := by
  have hqueue : s.outstanding = [] := by rw [State.outstanding, hpublished, List.drop_nil]
  have hring := h.ring
  rw [hqueue] at hring
  refine ⟨?_, h.released_le, ?_, h.consumer.congr rfl rfl fun hne => absurd hqueue hne, h.handed⟩
  · have houtstanding :
        ({ s with slots := slots } : State Address).outstanding = [] := hqueue
    rw [houtstanding]
    show Represents ρ.depth.size (Holds ρ) slots s.readIndex.toNat s.writeIndex.toNat []
    rw [← hring.empty_iff.mpr rfl]
    exact represents_empty hring.read_lt
  · simp only [ProducerOk, hproducer]

/-! ## Steps of a session -/

theorem Radio.inHand_idle (hp : r.shared.producer = .idle) : r.inHand = [] := by
  simp [Radio.inHand, hp, Producer.packet]

theorem Producer.eq_idle {p : Producer} (h : p.isIdle = true) : p = .idle := by
  cases p <;> first | rfl | simp [Producer.isIdle] at h

/-- Both indices at zero and nothing handed over: every call that is still
under way has been overtaken. -/
theorem sessionInv_reset (hidle : r.shared.producer = .idle ∨ r.staleCallback = true)
    (hdrain : r.shared.consumer = .idle ∨
      r.staleDrain = true ∧ ∃ read, r.shared.consumer = .storeRead read)
    (hstale : r.staleDrain = true → ∃ read, r.shared.consumer = .storeRead read)
    (haccepted : r.accepted = []) : SessionInv ρ { r with shared := r.shared.reset } where
  queue := by
    refine inv_idle ?_ rfl rfl rfl rfl ?_ ?_
    · show (0 : UInt8).toNat < ρ.depth.size
      have := ρ.depth.atLeastTwo
      simp only [UInt8.toNat_zero]
      omega
    · rcases hidle with hp | hp <;> simp [Radio.current, State.reset, hp]
    · rcases hdrain with hc | ⟨hc, -⟩ <;> simp [Radio.current, State.reset, hc]
  stopped := fun _ => ⟨haccepted, rfl, hidle.symm⟩
  callback := fun _ => rfl
  drain := fun hs => ⟨hstale hs, rfl, rfl⟩
  fresh := by
    have hhand : ({ r with shared := r.shared.reset } : Radio Address).inHand = [] := by
      rcases hidle with hp | hp
      · exact Radio.inHand_idle hp
      · simp [Radio.inHand, hp]
    rw [hhand, haccepted]
    exact List.Sublist.refl _

/-- The consumer's side calls only where `DrainInbound` is idle, or waits for
the receiver. -/
theorem Radio.callable_cases (h : r.callable ρ = true) :
    r.shared.consumer = .idle ∨ ∃ read, r.shared.consumer = .storeRead read := by
  unfold Radio.callable at h
  split at h
  · exact Or.inl ‹_›
  · exact Or.inr ⟨_, ‹_›⟩
  · cases h

theorem SessionInv.stop (h : SessionInv ρ r) (hcall : r.callable ρ = true) :
    SessionInv ρ r.stop := by
  unfold Radio.stop
  split
  · exact h
  · have hconsumer := Radio.callable_cases hcall
    refine sessionInv_reset (r := { r with
      started := false
      registered := false
      accepted := []
      staleDrain := !r.shared.consumer.isIdle
      staleCallback := !r.shared.producer.isIdle }) ?_ ?_ ?_ rfl
    · cases hp : r.shared.producer.isIdle with
      | true => exact Or.inl (Producer.eq_idle hp)
      | false => exact Or.inr rfl
    · rcases hconsumer with hc | ⟨read, hc⟩
      · exact Or.inl hc
      · exact Or.inr ⟨by simp [hc, Consumer.isIdle], read, hc⟩
    · intro hstale
      rcases hconsumer with hc | hc
      · simp [hc, Consumer.isIdle] at hstale
      · exact hc

/-- While the radio is stopped nothing is outstanding, so `DrainInbound` is
not inside the receiver unless a `Stop` overtook it there. -/
theorem SessionInv.drain_stopped (h : SessionInv ρ r) (hstopped : r.started = false)
    {read : UInt8} (hc : r.shared.consumer = .storeRead read) : r.staleDrain = true := by
  by_contra hfresh
  have hconsumer := h.queue.consumer
  simp only [ConsumerOk, Radio.current, hfresh, hc] at hconsumer
  apply hconsumer.2
  show r.shared.published.drop r.shared.released = []
  rw [(h.stopped hstopped).2.1, List.drop_nil]

/-- Nothing of a stopped radio depends on its address. -/
theorem SessionInv.idle_of_stopped (h : SessionInv ρ r) (hcall : r.callable ρ = true)
    (hstopped : r.started = false) :
    (r.shared.producer = .idle ∨ r.staleCallback = true) ∧
      (r.shared.consumer = .idle ∨
        r.staleDrain = true ∧ ∃ read, r.shared.consumer = .storeRead read) := by
  refine ⟨(h.stopped hstopped).2.2.symm, ?_⟩
  rcases Radio.callable_cases hcall with hc | ⟨read, hc⟩
  · exact Or.inl hc
  · exact Or.inr ⟨h.drain_stopped hstopped hc, read, hc⟩

/-- A `Start` that fails may have changed the address, and no more. -/
theorem SessionInv.readdress (h : SessionInv ρ r) (hcall : r.callable ρ = true)
    (hstopped : r.started = false) (allocated registered was : Bool) (mac : Bytes) :
    SessionInv ρ { r with
      allocated := allocated
      registered := registered
      localAddress := mac
      promiscuousWasEnabled := was } := by
  obtain ⟨hproducer, hconsumer⟩ := h.idle_of_stopped hcall hstopped
  have hpublished := (h.stopped hstopped).2.1
  have hreleased : r.shared.released = 0 := by
    have hle : r.shared.released ≤ r.shared.published.length := h.queue.released_le
    rw [hpublished] at hle
    exact Nat.le_zero.mp hle
  have hring := h.queue.ring
  have hqueue : r.current.outstanding = [] := by
    show r.shared.published.drop r.shared.released = []
    rw [hpublished, List.drop_nil]
  rw [hqueue] at hring
  have hhanded : r.shared.handed = [] := by
    have := h.queue.handed
    simpa [Radio.current, hpublished] using this
  refine ⟨inv_idle hring.read_lt (UInt8.toNat_inj.mp (hring.empty_iff.mpr rfl)).symm hpublished
    hreleased hhanded ?_ ?_, h.stopped, h.callback, h.drain, h.fresh⟩
  · rcases hproducer with hp | hp <;> simp [Radio.current, hp]
  · rcases hconsumer with hc | ⟨hc, -⟩ <;> simp [Radio.current, hc]

theorem SessionInv.start (h : SessionInv ρ r) (hcall : r.callable ρ = true) (c : Configuration)
    (n : StartNatives) : SessionInv ρ (r.start c n).1 := by
  unfold Radio.start
  split
  · exact h
  · rename_i hstarted
    have hstopped : r.started = false := by simpa using hstarted
    have hfail := h.readdress hcall hstopped
    obtain ⟨hproducer, hconsumer⟩ := h.idle_of_stopped hcall hstopped
    split
    · exact h
    · split
      · exact h
      · dsimp only
        split
        · exact hfail true r.registered r.promiscuousWasEnabled r.localAddress
        · split
          · exact hfail true r.registered r.promiscuousWasEnabled r.localAddress
          · split
            · exact hfail true r.registered r.promiscuousWasEnabled r.localAddress
            · split
              · exact hfail true r.registered r.promiscuousWasEnabled r.localAddress
              · rename_i mac _
                split
                · exact hfail true false _ mac
                · exact sessionInv_reset (r := { r with
                    started := true
                    registered := true
                    allocated := true
                    localAddress := mac
                    promiscuousWasEnabled := n.promiscuous.getD r.promiscuousWasEnabled
                    accepted := [] }) hproducer hconsumer (fun hs => (h.drain hs).1) rfl

theorem SessionInv.receive (h : SessionInv ρ r) (packet : Option PromiscuousPacket) :
    SessionInv ρ (r.receive ρ packet) := by
  unfold Radio.receive
  split
  · rename_i packet hp
    split
    · rename_i haccepts
      obtain ⟨-, hstarted, -, haccepts⟩ := haccepts
      have hhand := Radio.inHand_idle hp
      have hfresh := h.fresh
      rw [hhand, List.append_nil] at hfresh
      refine ⟨?_, fun hs => absurd hs (by simp [hstarted]), nofun, h.drain, ?_⟩
      · have := h.queue.advanceProducer (p := .loadWrite packet) haccepts
        simpa [Radio.current, Radio.session] using this
      · simpa [Radio.inHand, Producer.packet] using hfresh.append (List.Sublist.refl [packet])
    · exact h
  · exact h

/-- A call of the callback that a `Stop` overtook: it may write to a slot, but
no index changes. -/
theorem SessionInv.produce_stale (h : SessionInv ρ r) (hstale : r.staleCallback = true)
    (now : UInt64) (hallowed : Undisturbed ρ r (.queue (.produce now))) :
    SessionInv ρ (r.produce ρ now) := by
  have hpublished := h.callback hstale
  have hindex : r.shared.readIndex = r.shared.writeIndex := by
    have hring := h.queue.ring
    have hqueue : r.current.outstanding = [] := by
      show r.shared.published.drop r.shared.released = []
      rw [hpublished, List.drop_nil]
    exact UInt8.toNat_inj.mp (hring.empty_iff.mpr hqueue)
  obtain ⟨slots, p, heq⟩ := produce_overtaken (ρ := r.session ρ) (s := r.shared) now
    fun packet write next stamp hp => (hallowed hstale packet write next stamp hp).trans hindex
  have hnext : r.produce ρ now =
      { r with
        shared := { r.shared with slots := slots, producer := p }
        staleCallback := !p.isIdle } := by
    unfold Radio.produce
    rw [if_pos hstale]
    exact congrArg
      (fun s => { r with shared := s, staleCallback := !s.producer.isIdle }) heq
  have hidle : (!p.isIdle) = true ∨ p = .idle := by
    cases hp : p.isIdle with
    | true => exact Or.inr (Producer.eq_idle hp)
    | false => exact Or.inl rfl
  rw [hnext]
  refine ⟨?_, fun hs => ⟨(h.stopped hs).1, hpublished, hidle⟩, fun _ => hpublished, h.drain, ?_⟩
  · have := h.queue.reslot (by simp [Radio.current, hstale]) hpublished slots
    rcases hidle with hp | rfl
    · simpa [Radio.current, Radio.session, hstale, hp] using this
    · simpa [Radio.current, Radio.session, hstale] using this
  · have hhand : Radio.inHand { r with
        shared := { r.shared with slots := slots, producer := p }
        staleCallback := !p.isIdle } = [] := by
      rcases hidle with hp | rfl
      · simp [Radio.inHand, hp]
      · exact Radio.inHand_idle rfl
    rw [hhand, List.append_nil]
    show (r.shared.published.map Reception.packet).Sublist r.accepted
    rw [hpublished]
    exact List.nil_sublist _

/-- A call of the callback in its own session. -/
theorem SessionInv.produce_fresh (h : SessionInv ρ r) (hfresh : r.staleCallback = false)
    (now : UInt64) : SessionInv ρ (r.produce ρ now) := by
  have hnext : r.produce ρ now =
      { r with shared := Raw80211Radio.produce (r.session ρ) r.shared now } := by
    simp [Radio.produce, hfresh]
  obtain ⟨hconsumer, hread, hreleased⟩ := produce_frame (ρ := r.session ρ) r.shared now
  have hmask : r.current =
      { r.shared with consumer := if r.staleDrain then .idle else r.shared.consumer } := by
    simp [Radio.current, hfresh]
  have hcurrent : ({ r with
        shared := Raw80211Radio.produce (r.session ρ) r.shared now } : Radio Address).current =
      Raw80211Radio.produce (r.session ρ) r.current now := by
    rw [hmask]
    refine Eq.trans ?_ (produce_consumer r.shared now _).symm
    simp [Radio.current, hfresh, hconsumer]
  rw [hnext]
  refine ⟨?_, ?_, fun hs => absurd (hfresh.symm.trans hs) (by simp), ?_, ?_⟩
  · rw [hcurrent]
    exact h.queue.produce now
  · intro hs
    obtain ⟨haccepted, hpublished, hidle⟩ := h.stopped hs
    have hp : r.shared.producer = .idle := hidle.resolve_left (by simp [hfresh])
    refine ⟨haccepted, ?_, Or.inr ?_⟩
    · simp [Raw80211Radio.produce, hp, hpublished]
    · simp [Raw80211Radio.produce, hp]
  · intro hs
    rw [hconsumer, hread, hreleased]
    exact h.drain hs
  · have hpackets := produce_packets (ρ := r.session ρ) r.shared now
    have := h.fresh
    simp only [Radio.inHand, hfresh] at this ⊢
    exact hpackets.trans this

/-- `DrainInbound` in its own session. -/
theorem SessionInv.consume_fresh (h : SessionInv ρ r) (hfresh : r.staleDrain = false) :
    SessionInv ρ (r.consume ρ) := by
  have hnext : r.consume ρ =
      { r with shared := Raw80211Radio.consume (r.session ρ) r.shared } := by
    simp [Radio.consume, hfresh]
  obtain ⟨hproducer, hpublished⟩ := consume_frame (ρ := r.session ρ) r.shared
  have hmask : r.current =
      { r.shared with producer := if r.staleCallback then .idle else r.shared.producer } := by
    simp [Radio.current, hfresh]
  have hcurrent : ({ r with
        shared := Raw80211Radio.consume (r.session ρ) r.shared } : Radio Address).current =
      Raw80211Radio.consume (r.session ρ) r.current := by
    rw [hmask]
    refine Eq.trans ?_ (consume_producer r.shared _).symm
    simp [Radio.current, hfresh, hproducer]
  rw [hnext]
  refine ⟨?_, ?_, ?_, fun hs => absurd (hfresh.symm.trans hs) (by simp), ?_⟩
  · rw [hcurrent]
    exact h.queue.consume
  · rw [hproducer, hpublished]
    exact h.stopped
  · rw [hpublished]
    exact h.callback
  · simp only [Radio.inHand, hproducer, hpublished]
    exact h.fresh

/-- A call of `DrainInbound` that a `Stop` overtook stores an index inside the
queue of the new session: the packets before it are lost. -/
theorem SessionInv.consume_stale (h : SessionInv ρ r) (hstale : r.staleDrain = true)
    (hallowed : Undisturbed ρ r (.queue .consume)) : SessionInv ρ (r.consume ρ) := by
  obtain ⟨⟨read, hc⟩, hread, hreleased⟩ := h.drain hstale
  have hle : (ρ.next read).toNat ≤ r.shared.writeIndex.toNat := hallowed hstale read hc
  have hring := h.queue.ring
  have hqueue : r.current.outstanding = r.shared.published := by
    show r.shared.published.drop r.shared.released = r.shared.published
    rw [hreleased, List.drop_zero]
  have hzero : r.current.readIndex.toNat = 0 := congrArg UInt8.toNat hread
  rw [hqueue, hzero] at hring
  have hlength : r.shared.writeIndex.toNat = r.shared.published.length := by
    have := hring.write_eq
    rwa [Nat.zero_add, Nat.mod_eq_of_lt hring.room] at this
  have hlt : (ρ.next read).toNat < (r.session ρ).depth.size :=
    Nat.lt_of_le_of_lt hle h.queue.ring.write_lt
  have hskip := hring.skip (k := (ρ.next read).toNat) (by omega)
  rw [Nat.zero_add, Nat.mod_eq_of_lt hlt] at hskip
  have hhanded : r.shared.handed = [] := by
    have := h.queue.handed
    simpa [Radio.current, State.handedOver, hstale, hreleased] using this
  have hnext : r.consume ρ =
      { r with
        shared := { r.shared with
          readIndex := ρ.next read
          consumer := .loadRead
          published := r.shared.published.drop (ρ.next read).toNat
          released := 0 }
        staleDrain := false } := by
    simp only [Radio.consume, hstale, if_true, Raw80211Radio.consume, hc]
    rfl
  have hsublist := List.drop_sublist (ρ.next read).toNat r.shared.published
  rw [hnext]
  refine ⟨⟨hskip, Nat.zero_le _, ?_, trivial, ?_⟩, ?_, ?_,
    fun hs => absurd hs Bool.false_ne_true, ?_⟩
  · refine h.queue.producer.congr rfl rfl rfl ?_
    show (r.shared.published.drop _).length ≤ r.current.outstanding.length
    rw [hqueue]
    exact hsublist.length_le
  · simp [Radio.current, State.handedOver, hhanded]
  · intro hs
    obtain ⟨haccepted, hpublished, hidle⟩ := h.stopped hs
    exact ⟨haccepted, by simp [hpublished], hidle⟩
  · intro hs
    simp [h.callback hs]
  · exact ((hsublist.map _).append (List.Sublist.refl _)).trans h.fresh

theorem SessionInv.drainInbound (h : SessionInv ρ r) :
    SessionInv ρ
      { r with shared := Raw80211Radio.step (r.session ρ) r.shared .drainInbound } := by
  simp only [Raw80211Radio.step]
  split
  · rename_i hc
    have hfresh : r.staleDrain = false := by
      by_contra hstale
      obtain ⟨⟨read, hread⟩, -⟩ := h.drain (by simpa using hstale)
      rw [hc] at hread
      cases hread
    have := h.queue.advanceConsumer (c := .loadRead) trivial
      (by simp [State.handedOver, Radio.current, hc])
    refine ⟨?_, h.stopped, h.callback, fun hs => absurd (hfresh.symm.trans hs) (by simp), h.fresh⟩
    simpa [Radio.current, Radio.session, hfresh] using this
  · exact h

theorem SessionInv.step (h : SessionInv ρ r) (c : Configuration) (event : SessionEvent)
    (hallowed : Undisturbed ρ r event) : SessionInv ρ (r.step ρ c event) := by
  cases event with
  | start natives =>
      simp only [Radio.step]
      split
      · exact h.start ‹_› c natives
      · exact h
  | stop =>
      simp only [Radio.step]
      split
      · exact h.stop ‹_›
      · exact h
  | queue event =>
      cases event with
      | receive packet => exact h.receive packet
      | produce now =>
          cases hs : r.staleCallback with
          | true => exact h.produce_stale hs now hallowed
          | false => exact h.produce_fresh hs now
      | drainInbound => exact h.drainInbound
      | consume =>
          cases hs : r.staleDrain with
          | true => exact h.consume_stale hs hallowed
          | false => exact h.consume_fresh hs

theorem sessionInv_constructed (ρ : Session Address) (slots : Nat → ReceivedPacket Address) :
    SessionInv ρ (Radio.constructed slots) :=
  sessionInv_reset (r := Radio.constructed slots) (Or.inl rfl) (Or.inl rfl) nofun rfl

theorem SessionInv.isolated (h : SessionInv ρ r) : Isolated ρ r where
  current := by
    have hhanded : r.shared.handed = if ρ.hasReceiver then
        (r.shared.published.take r.current.handedOver).map (Reception.delivery ρ) else [] :=
      h.queue.handed
    cases hreceiver : ρ.hasReceiver with
    | false => exact ⟨[], by simpa [hreceiver] using hhanded, List.nil_sublist _⟩
    | true =>
        rw [hreceiver, if_pos rfl] at hhanded
        refine ⟨_, hhanded, ?_⟩
        exact ((List.take_sublist _ _).map _).trans
          ((List.sublist_append_left _ _).trans h.fresh)
  stopped := by
    intro hs
    have hhanded := h.queue.handed
    simpa [Radio.current, (h.stopped hs).2.1] using hhanded

/-- **Sessions.**  In every run of `Start`, `Stop`, received frames and
`DrainInbound` in which no overtaken call stores an index beyond the new
session's packets, the receiver is only ever handed frames of the current
session. -/
theorem isolated_of_undisturbed (ρ : Session Address) (c : Configuration)
    (slots : Nat → ReceivedPacket Address) {events : List SessionEvent} {r : Radio Address}
    (h : Runs.Run (Runs.Guarded (Undisturbed ρ) fun r e t => Radio.step ρ c r e = t)
      (Radio.constructed slots) events r) : Isolated ρ r := by
  have hinv : SessionInv ρ r := by
    refine h.invariant ?_ (sessionInv_constructed ρ slots)
    intro s event t hs hstep
    obtain ⟨hallowed, rfl⟩ := hstep
    exact hs.step c event hallowed
  exact hinv.isolated

/-- A radio with a queue of four slots, as the source defines it by default. -/
def defaultSession : Session Bytes :=
  ⟨⟨4, by decide, by decide⟩, [], id, fun _ => true, true⟩

def stationConfiguration : Configuration := ⟨.sta, 0, true⟩

/-- All native calls of a `Start` succeed. -/
def startSucceeds : StartNatives :=
  ⟨false, true, some .sta, true, true, some (List.replicate macBytes 1), some false, true, true⟩

/-- The smallest queue there may be. -/
def smallSession : Session Bytes := ⟨⟨2, by decide, by decide⟩, [], id, fun _ => true, true⟩

def receiveOne : List SessionEvent :=
  .queue (.receive (some broadcastPacket)) :: List.replicate 9 (.queue (.produce 6000))

def drainOne : List SessionEvent := .queue .drainInbound :: List.replicate 12 (.queue .consume)

/-- A frame is received and delivered; a `Stop` overtakes the callback with the
second, and the radio is started again.  The callback comes to its end, a third
frame is received, and delivered. -/
def restartRun : List SessionEvent :=
  [.start startSucceeds] ++ receiveOne ++ drainOne ++ receiveOne.take 3 ++
    [.stop, .start startSucceeds] ++ List.replicate 8 (.queue (.produce 6000)) ++ receiveOne ++
    drainOne

theorem isolated_of_restart :
    let r := restartRun.foldl (Radio.step smallSession stationConfiguration)
      (Radio.constructed unusedSlots)
    Isolated smallSession r ∧ r.shared.handed.length = 1 := by
  have halong : Runs.Along
      (fun r e => (Radio.step smallSession stationConfiguration r e, ([] : List Unit)))
      (Undisturbed smallSession) (Radio.constructed unusedSlots) restartRun := by decide +kernel
  exact ⟨isolated_of_undisturbed smallSession stationConfiguration unusedSlots halong.run,
    by decide +kernel⟩

/-- Two frames are received, and the receiver stops the radio when it is
handed the first of them. -/
def overtakingRun : List SessionEvent :=
  let receive := .queue (.receive (some broadcastPacket)) ::
    List.replicate 9 (SessionEvent.queue (.produce 6000))
  [.start startSucceeds] ++ receive ++ receive ++ [.queue .drainInbound] ++
    List.replicate 9 (.queue .consume) ++ [.stop] ++ List.replicate 10 (.queue .consume)

/-- `DrainInbound` hands it the second one all the same. -/
theorem stop_inside_callback_delivers_again :
    ¬ Isolated defaultSession
      (overtakingRun.foldl (Radio.step defaultSession stationConfiguration)
        (Radio.constructed unusedSlots)) := by
  intro h
  have hnone := congrArg List.length (h.stopped (by decide +kernel))
  revert hnone
  decide +kernel

end Raw80211Radio
