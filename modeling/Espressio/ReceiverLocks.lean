import Espressio.ConnectionPackets
import Espressio.UdpTransport
import Espressio.MqttSubscription

/-!
# Mutexes at the receiver

A receiver may answer a packet by sending on the same transport.  If the
transport calls it while it holds a mutex `Send` takes, the call waits for
itself.

Four of the transports copy what they received and call the receiver after
leaving the scope: nothing is held.  The fifth calls it from the client's loop,
inside the scope of the client's mutex.  `ReceivesInLoop` says of one operation
whether it comes to that, by the state before it and the native answers.
-/

namespace Sockets

open NetworkBytes LockTraces Runs

/-! ### Datagrams -/

section Udp

variable {ι : Type*}

def UdpEvent.IsDelivery : UdpEvent ι → Prop
  | .deliver _ _ => True
  | _ => False

namespace UdpTransport

variable [DecidableEq ι] {maximumPacketSize : Nat} {valid : ι → Bool}

/-- The mutexes `Send` or `SetReceiver` may take. -/
def Acquired (ι : Type*) (maximumPacketSize : Nat) (m : UdpMutex) : Prop :=
  (∃ (s : UdpTransport ι) (packet : Option Bytes) (natives : Nat → DatagramNatives),
      Action.lock m ∈ (s.send maximumPacketSize packet natives).2) ∨
    ∃ (s : UdpTransport ι) (receiver : Option Nat), Action.lock m ∈ (s.setReceiver receiver).2

omit [DecidableEq ι] in
theorem sendAll_notDelivery (data : Bytes) (natives : Nat → DatagramNatives) (index : Nat)
    (endpoints : List ι) :
    ∀ e ∈ (sendAll data natives index endpoints).2, ¬e.IsDelivery := by
  induction endpoints generalizing index with
  | nil => exact fun e he => absurd he List.not_mem_nil
  | cons endpoint rest ih =>
      intro e he
      rcases List.mem_append.mp he with hone | hothers
      · unfold sendDatagram at hone
        split_ifs at hone <;> simp at hone <;> grind [UdpEvent.IsDelivery]
      · exact ih _ e hothers

/-- A datagram is dispatched outside every scope. -/
theorem scoped_step (s : UdpTransport ι) (op : Op ι) :
    Scoped UdpEvent.IsDelivery (step maximumPacketSize valid s op).2 := by
  cases op with
  | initializeTransport localPort begun started => exact Scoped.nil
  | initializeMulticast port joined started => exact Scoped.nil
  | shutdown =>
      rw [step, shutdown]
      split
      · exact Scoped.nil
      · exact (Scoped.single id).append Scoped.empty
  | iterate natives =>
      simp only [step, iterate]
      split_ifs
      · exact Scoped.nil
      · exact Scoped.empty
      · exact Scoped.single id
      · exact Scoped.empty
      · exact Scoped.empty
  | dispatch =>
      rw [step, dispatch]
      split
      · exact Scoped.nil
      · exact Scoped.empty.append (Scoped.events _)
  | addDestination endpoint =>
      simp only [step, addDestination]
      split_ifs
      · exact Scoped.nil
      all_goals exact Scoped.empty
  | removeDestination endpoint =>
      simp only [step, removeDestination]
      split <;> exact Scoped.empty
  | clearDestinations => exact Scoped.empty
  | send packet natives =>
      simp only [step, send]
      split
      · split
        · exact Scoped.empty
        · exact Scoped.empty.append
            (Scoped.scope (sendAll_notDelivery _ natives 0 s.inUse))
      · exact Scoped.nil
  | setReceiver receiver => exact Scoped.empty

end UdpTransport
end Udp

/-! ### Streams -/

section Streams

variable {κ δ : Type*}

def StreamEvent.IsDelivery : StreamEvent → Prop
  | .deliver _ _ _ => True
  | _ => False

theorem scoped_underClient {es : List StreamEvent} (h : Undelivered es) :
    Scoped StreamEvent.IsDelivery (underClient es) := by
  refine Scoped.scope fun e he => ?_
  cases e with
  | deliver r c p => exact fun _ => h r c p he
  | _ => exact id

theorem scoped_dispatchPacket (receiver : Option Nat) (connection : Nat) (packet : Bytes) :
    Scoped StreamEvent.IsDelivery (dispatchPacket receiver connection packet) :=
  Scoped.empty.append (Scoped.events _)

namespace StreamClient

variable {configureSecurity : κ → List SecurityCall} {lib : Library δ}

/-- The mutexes `Send` or `SetReceiver` may take. -/
def Acquired (configureSecurity : κ → List SecurityCall) (lib : Library δ) (m : StreamMutex) :
    Prop :=
  (∃ (s : StreamClient κ δ) (packet : Option Bytes) (n : ConnectNatives) (whole : Bool),
      Action.lock m ∈ (s.send configureSecurity lib packet n whole).2.2) ∨
    ∃ (s : StreamClient κ δ) (receiver : Option Nat), Action.lock m ∈ (s.setReceiver receiver).2

theorem ensureConnectedLocked_undelivered (configureSecurity : κ → List SecurityCall)
    (lib : Library δ) (s : StreamClient κ δ) (n : ConnectNatives) :
    Undelivered (s.ensureConnectedLocked configureSecurity lib n).2.2 := by
  obtain ⟨after, connected, es, heq, hquiet, -⟩ :=
    ensureConnectedLocked_cases configureSecurity lib s n
  rw [heq]
  exact hquiet.undelivered

/-- Packets are dispatched outside every scope. -/
theorem scoped_step (s : StreamClient κ δ) (op : Op κ) :
    Scoped StreamEvent.IsDelivery (step configureSecurity lib s op).2 := by
  cases op with
  | initializeTransport config started => exact Scoped.nil
  | shutdown =>
      rw [step, shutdown]
      split
      · exact Scoped.nil
      · exact (scoped_underClient (by simp [Undelivered])).append Scoped.empty
  | iterate natives reads =>
      rw [step, iterate]
      split
      · exact Scoped.nil
      · apply scoped_underClient
        have hensured := ensureConnectedLocked_undelivered configureSecurity lib s natives
        rw [readClientLocked]
        dsimp only
        split
        · exact hensured.append (readLoop_undelivered _ _ _)
        · exact hensured
  | dispatch =>
      rw [step, dispatch]
      split
      · exact Scoped.nil
      · exact scoped_dispatchPacket _ _ _
  | send packet natives whole =>
      simp only [step, send]
      split
      · have hensured := ensureConnectedLocked_undelivered configureSecurity lib s natives
        split
        · exact Scoped.nil
        · split
          · cases whole with
            | true => exact scoped_underClient (hensured.append (by simp [Undelivered]))
            | false => exact scoped_underClient (hensured.append (by simp [Undelivered]))
          · exact scoped_underClient hensured
      · exact Scoped.nil
  | setReceiver receiver => exact Scoped.empty
  | getIsConnected alive => exact Scoped.empty

end StreamClient

namespace StreamServer

variable {lib : Library δ}

/-- The mutexes `Send` or `SetReceiver` may take. -/
def Acquired (lib : Library δ) (m : StreamMutex) : Prop :=
  (∃ (s : StreamServer δ) (packet : Option Bytes) (alive whole : Nat → Bool),
      Action.lock m ∈ (s.send lib packet alive whole).2.2) ∨
    ∃ (s : StreamServer δ) (receiver : Option Nat), Action.lock m ∈ (s.setReceiver receiver).2

theorem acceptClientsLocked_undelivered (lib : Library δ) (s : StreamServer δ)
    (n : ServerNatives) : Undelivered (s.acceptClientsLocked lib n).2 := by
  unfold acceptClientsLocked
  split
  · exact quiet_nil.undelivered
  · exact (Quiet.cons (fun _ _ => by simp) (fun _ _ _ => by simp)
      (quiet_place _ _ _ _ _)).undelivered

/-- Packets are dispatched outside every scope. -/
theorem scoped_step (s : StreamServer δ) (op : Op) :
    Scoped StreamEvent.IsDelivery (step lib s op).2 := by
  cases op with
  | initializeTransport config started => exact Scoped.nil
  | shutdown =>
      rw [step, shutdown]
      split
      · exact Scoped.nil
      · exact (scoped_underClient (by simp [Undelivered])).append Scoped.empty
  | iterate natives =>
      rw [step, iterate]
      split
      · exact Scoped.nil
      · exact scoped_underClient ((acceptClientsLocked_undelivered lib s natives).append
          (serveClients_undelivered natives _ 0 _))
  | dispatch =>
      rw [step, dispatch]
      split
      · exact Scoped.nil
      · exact scoped_dispatchPacket _ _ _
  | send packet alive whole =>
      simp only [step, send]
      split
      · split
        · exact Scoped.nil
        · exact scoped_underClient (sendAll_spec _ alive whole 0 s.clients).2.undelivered
      · exact Scoped.nil
  | setReceiver receiver => exact Scoped.empty
  | getConnectedClientCount alive => exact Scoped.empty

end StreamServer
end Streams

/-! ### Messages of a broker -/

def MqttEvent.IsDelivery : MqttEvent → Prop
  | .deliver _ _ => True
  | _ => False

namespace MqttTransport

variable {maximumPacketSize : Nat} {s : MqttTransport} {n : MqttNatives} {message : MqttMessage}
  {op : Op}

/-- The mutexes `Send` or `SetReceiver` may take. -/
def Acquired (maximumPacketSize : Nat) (m : MqttMutex) : Prop :=
  (∃ (s : MqttTransport) (packet : Option Bytes) (n : MqttNatives) (published : Bool),
      Action.lock m ∈ (s.send maximumPacketSize packet n published).2.2) ∨
    ∃ (s : MqttTransport) (receiver : Option Nat), Action.lock m ∈ (s.setReceiver receiver).2

/-- There is a connection, or one is made. -/
def Connects (s : MqttTransport) (n : MqttNatives) : Prop :=
  s.mqtt = true ∧
    ((s.session.isSome = true ∧ n.alive = true) ∨
      (s.config.reconnectIntervalMilliseconds ≤ n.now - s.lastConnectAttempt ∧
        n.connects = true ∧ (s.config.inboundTopic = [] ∨ n.subscribes = true)))

/-- A message `ReceiveMQTT` passes on. -/
def Receivable (maximumPacketSize : Nat) (s : MqttTransport) (message : MqttMessage) : Prop :=
  message.topic = some s.config.inboundTopic ∧
    ∃ payload, message.payload = some payload ∧ payload ≠ [] ∧
      payload.length ≤ maximumPacketSize

/-- A worker iteration that has a connection receives a message for the
receiver. -/
def ReceivesInLoop (maximumPacketSize : Nat) (s : MqttTransport) : Op → Prop
  | .iterate natives messages =>
      s.running = true ∧ s.receiver.isSome = true ∧ Connects s natives ∧
        ∃ message ∈ messages, Receivable maximumPacketSize s message
  | _ => False

theorem ensureConnectedLocked_eq_true_iff (s : MqttTransport) (n : MqttNatives) :
    (s.ensureConnectedLocked n).2.1 = true ↔ Connects s n := by
  unfold ensureConnectedLocked Connects
  split_ifs <;> grind [UInt32.not_lt]

theorem ensureConnectedLocked_notDelivery (s : MqttTransport) (n : MqttNatives) :
    ∀ e ∈ (s.ensureConnectedLocked n).2.2, ¬e.IsDelivery := by
  simp only [ensureConnectedLocked]
  split_ifs <;> simp [MqttEvent.IsDelivery]

/-- What `ReceiveMQTT` does with a message, by whether it passes it on. -/
theorem receiveMQTT_cases (maximumPacketSize : Nat) (s : MqttTransport)
    (message : MqttMessage) :
    (¬Receivable maximumPacketSize s message ∧ s.receiveMQTT maximumPacketSize message = []) ∨
      ∃ payload, Receivable maximumPacketSize s message ∧
        s.receiveMQTT maximumPacketSize message = guarded .receiver [] ++
          (s.receiver.toList.map fun r => MqttEvent.deliver r payload).map Action.event := by
  obtain ⟨topic, payload⟩ := message
  unfold receiveMQTT Receivable
  cases topic with
  | none =>
      refine Or.inl ⟨?_, rfl⟩
      rintro ⟨htopic, -⟩
      cases htopic
  | some topic =>
      cases payload with
      | none =>
          refine Or.inl ⟨?_, rfl⟩
          rintro ⟨-, payload, hpayload, -⟩
          cases hpayload
      | some payload =>
          dsimp only
          split_ifs with hchecks
          · left
            grind
          · right
            refine ⟨payload, ?_, rfl⟩
            grind

theorem balanced_receiveMQTT (s : MqttTransport) (message : MqttMessage) :
    Balanced (s.receiveMQTT maximumPacketSize message) := by
  rcases receiveMQTT_cases maximumPacketSize s message with ⟨-, heq⟩ | ⟨payload, -, heq⟩
  · rw [heq]
    exact balanced_nil
  · rw [heq]
    exact balanced_nil.guarded.append (balanced_events _)

/-- Only the worker's iteration calls into the client's loop. -/
theorem scoped_step (s : MqttTransport) (h : ∀ natives messages, op ≠ .iterate natives messages) :
    Scoped MqttEvent.IsDelivery (step maximumPacketSize s op).2 := by
  have hconfigured : ∀ config, Scoped (μ := MqttMutex) MqttEvent.IsDelivery
      ((configureTLS config).map fun call => Action.event (.configure call)) := by
    intro config
    have hevents : Scoped MqttEvent.IsDelivery
        (((configureTLS config).map MqttEvent.configure).map (Action.event (μ := MqttMutex))) :=
      Scoped.events _
    rw [List.map_map] at hevents
    exact hevents
  cases op with
  | initializeTransport config started =>
      simp only [step, initializeTransport]
      split_ifs
      · exact Scoped.nil
      · exact Scoped.nil
      · exact hconfigured config
      · exact hconfigured config
  | shutdown =>
      rw [step, shutdown]
      split
      · exact Scoped.nil
      · refine Scoped.append ?_ Scoped.empty
        split
        · exact Scoped.single id
        · exact Scoped.empty
  | iterate natives messages => exact absurd rfl (h natives messages)
  | send packet natives published =>
      have hensured := ensureConnectedLocked_notDelivery s natives
      simp only [step, send]
      split
      · exact Scoped.nil
      · split
        · exact Scoped.scope hensured
        · apply Scoped.scope
          intro e he
          rcases List.mem_append.mp he with hensure | hpublish
          · exact hensured e hensure
          · rw [List.mem_singleton.mp hpublish]
            exact id
  | setReceiver receiver => exact Scoped.empty
  | getIsConnected alive => exact Scoped.empty

theorem balanced_step (s : MqttTransport) (op : Op) :
    Balanced (step maximumPacketSize s op).2 := by
  cases op with
  | iterate natives messages =>
      rw [step, iterate]
      split
      · exact balanced_nil
      · refine Balanced.guarded ((balanced_events _).append ?_)
        split
        · exact (balanced_events [.loop]).append
            (balanced_flatMap fun message _ => balanced_receiveMQTT _ message)
        · exact balanced_nil
  | _ => exact (scoped_step s (by simp)).balanced

/-- `Send` takes the client's mutex, if there are packets it does not refuse. -/
theorem acquired_mqtt (h : 1 ≤ maximumPacketSize) : Acquired maximumPacketSize .mqtt := by
  let s : MqttTransport := ⟨plainConfig, true, none, 0, true, true, some true⟩
  refine Or.inl ⟨s, some [0], ⟨true, 0, true, true⟩, true, ?_⟩
  have haccepted : s.accepted maximumPacketSize (some [0]) = some [0] := by
    simp [accepted, sendable, s, plainConfig, h]
  simp [send, haccepted, guarded, ensureConnectedLocked, s]

theorem receivable_ensureConnectedLocked :
    Receivable maximumPacketSize (s.ensureConnectedLocked n).1 message ↔
      Receivable maximumPacketSize s message := by
  obtain ⟨last, session, hframe⟩ := ensureConnectedLocked_frame s n
  rw [hframe]
  rfl

/-- A message that is passed on is dispatched with what was held before. -/
theorem observed_receiveMQTT {r : Nat} (hr : s.receiver = some r)
    (h : Receivable maximumPacketSize s message) (held : List MqttMutex) :
    ∃ payload, (held, MqttEvent.deliver r payload) ∈
      observed held (s.receiveMQTT maximumPacketSize message) := by
  rcases receiveMQTT_cases maximumPacketSize s message with ⟨hno, -⟩ | ⟨payload, -, heq⟩
  · exact absurd h hno
  · refine ⟨payload, ?_⟩
    rw [heq, observed_append, balanced_nil.guarded held, observed_events, hr]
    simp

/-- Only a message that is passed on is dispatched. -/
theorem receivable_of_delivery {e : MqttEvent}
    (h : e ∈ events (s.receiveMQTT maximumPacketSize message)) :
    s.receiver.isSome = true ∧ Receivable maximumPacketSize s message := by
  rcases receiveMQTT_cases maximumPacketSize s message with ⟨-, heq⟩ | ⟨payload, hreceivable, heq⟩
  · rw [heq] at h
    cases h
  · refine ⟨?_, hreceivable⟩
    rw [heq, events_append, events_guarded, events_map_event, events_nil, List.nil_append,
      List.mem_map] at h
    obtain ⟨r, hr, -⟩ := h
    exact Option.isSome_of_mem (Option.mem_toList.mp hr)

/-- Nothing is dispatched unless a message is received in the loop. -/
theorem receivesInLoop_of_delivery {messages : List MqttMessage} {e : MqttEvent}
    (hkind : e.IsDelivery) (h : e ∈ events (s.iterate maximumPacketSize n messages).2) :
    ReceivesInLoop maximumPacketSize s (.iterate n messages) := by
  obtain ⟨last, session, hframe⟩ := ensureConnectedLocked_frame s n
  rw [iterate] at h
  split at h
  · cases h
  · rename_i hrunning
    rw [events_guarded, events_append, events_map_event] at h
    rcases List.mem_append.mp h with hensure | hloop
    · exact absurd hkind (ensureConnectedLocked_notDelivery s n e hensure)
    · split at hloop
      · rename_i hconnected
        rw [mem_events, List.mem_cons, List.mem_flatMap] at hloop
        rcases hloop with hevent | ⟨message, hmem, hreceived⟩
        · cases hevent
          exact absurd hkind id
        · obtain ⟨hsome, hreceivable⟩ := receivable_of_delivery (mem_events.mpr hreceived)
          rw [hframe] at hsome
          refine ⟨by simpa using hrunning, hsome, ?_, message, hmem,
            receivable_ensureConnectedLocked.mp hreceivable⟩
          exact (ensureConnectedLocked_eq_true_iff s n).mp (Bool.and_eq_true_iff.mp hconnected).1
      · cases hloop

/-- A message received in the loop is dispatched under the client's mutex. -/
theorem observed_iterate {messages : List MqttMessage}
    (h : ReceivesInLoop maximumPacketSize s (.iterate n messages)) :
    ∃ r payload, ([MqttMutex.mqtt], MqttEvent.deliver r payload) ∈
      observed [] (s.iterate maximumPacketSize n messages).2 := by
  obtain ⟨hrunning, hsome, hconnects, message, hmem, hreceivable⟩ := h
  obtain ⟨last, session, hframe⟩ := ensureConnectedLocked_frame s n
  obtain ⟨r, hr⟩ := Option.isSome_iff_exists.mp hsome
  have hreceiver : (s.ensureConnectedLocked n).1.receiver = some r := by
    rw [hframe]
    exact hr
  have hmqtt : (s.ensureConnectedLocked n).1.mqtt = true := by
    rw [hframe]
    exact hconnects.1
  obtain ⟨payload, hdelivered⟩ :=
    observed_receiveMQTT hreceiver (receivable_ensureConnectedLocked.mpr hreceivable) [.mqtt]
  refine ⟨r, payload, ?_⟩
  rw [iterate, hrunning]
  simp only [Bool.not_true, Bool.false_eq_true, ↓reduceIte,
    (ensureConnectedLocked_eq_true_iff s n).mpr hconnects, hmqtt, Bool.and_self]
  rw [observed_guarded, observed_append]
  apply List.mem_append_right
  rw [balanced_events]
  apply List.mem_cons_of_mem
  rw [observed_flatMap fun message _ => balanced_receiveMQTT _ message, List.mem_flatMap]
  exact ⟨message, hmem, hdelivered⟩

/-- **One operation.** -/
theorem freeAt_step_iff (s : MqttTransport) (op : Op) :
    FreeAt MqttEvent.IsDelivery (Acquired maximumPacketSize)
        (observed [] (step maximumPacketSize s op).2) ↔
      ¬ReceivesInLoop maximumPacketSize s op := by
  cases op with
  | iterate natives messages =>
      constructor
      · intro hfree hreceives
        obtain ⟨r, payload, hmem⟩ := observed_iterate hreceives
        obtain ⟨-, -, -, message, -, -, content, -, hne, hlength⟩ := hreceives
        have hpositive : 1 ≤ content.length := List.length_pos_iff.mpr hne
        exact hfree _ hmem trivial .mqtt List.mem_cons_self (acquired_mqtt (by omega))
      · intro hno
        exact freeAt_of_none (fun e he hkind => hno (receivesInLoop_of_delivery hkind he)) []
  | _ => exact iff_of_true (scoped_step s (by simp)).freeAt id

theorem freeAt_run_iff (maximumPacketSize : Nat) (config : MqttConfig) (ops : List Op) :
    FreeAt MqttEvent.IsDelivery (Acquired maximumPacketSize)
        (observed [] (feed (step maximumPacketSize) (fresh config) ops).2) ↔
      ∀ x ∈ trace (step maximumPacketSize) (fresh config) ops,
        ¬ReceivesInLoop maximumPacketSize x.1 x.2 := by
  rw [freeAt_feed balanced_step]
  exact forall₂_congr fun x _ => freeAt_step_iff x.1 x.2

end MqttTransport

/-! ### All five -/

/-- **No mutex at the receiver.**  In every run of the transports over datagrams
and streams the receiver is called with none of the mutexes held that `Send` or
`SetReceiver` takes; in a run of the transport over a broker, exactly if no
message is received in the loop of a connected client. -/
theorem receiver_freeOfLocks {ι δ : Type*} [DecidableEq ι] (maximumPacketSize : Nat)
    (lib : Library δ) :
    (∀ (valid : ι → Bool) (capacity : Nat) (unset : ι) (ops : List (UdpTransport.Op ι)),
        FreeAt UdpEvent.IsDelivery (UdpTransport.Acquired ι maximumPacketSize)
          (observed [] (feed (UdpTransport.step maximumPacketSize valid)
            (UdpTransport.fresh capacity unset) ops).2)) ∧
      (∀ (config : ClientConfig Unit) (ops : List (StreamClient.Op Unit)),
        FreeAt StreamEvent.IsDelivery (StreamClient.Acquired (fun _ : Unit => []) lib)
          (observed [] (feed (tcpClientStep lib) (StreamClient.fresh lib config) ops).2)) ∧
      (∀ (slots : Nat) (config : ServerConfig) (ops : List StreamServer.Op),
        FreeAt StreamEvent.IsDelivery (StreamServer.Acquired lib)
          (observed [] (feed (StreamServer.step lib)
            (StreamServer.fresh lib slots config) ops).2)) ∧
      (∀ (config : ClientConfig TlsSecurity) (ops : List (StreamClient.Op TlsSecurity)),
        FreeAt StreamEvent.IsDelivery (StreamClient.Acquired configureSecurityLocked lib)
          (observed [] (feed (tlsStep lib) (StreamClient.fresh lib config) ops).2)) ∧
      ∀ (config : MqttConfig) (ops : List MqttTransport.Op),
        FreeAt MqttEvent.IsDelivery (MqttTransport.Acquired maximumPacketSize)
            (observed [] (feed (MqttTransport.step maximumPacketSize)
              (MqttTransport.fresh config) ops).2) ↔
          ∀ x ∈ trace (MqttTransport.step maximumPacketSize) (MqttTransport.fresh config) ops,
            ¬MqttTransport.ReceivesInLoop maximumPacketSize x.1 x.2 :=
  ⟨fun _ _ _ ops => freeAt_feed_of_scoped UdpTransport.scoped_step _ ops,
    fun _ ops => freeAt_feed_of_scoped StreamClient.scoped_step _ ops,
    fun _ _ ops => freeAt_feed_of_scoped StreamServer.scoped_step _ ops,
    fun _ ops => freeAt_feed_of_scoped StreamClient.scoped_step _ ops,
    MqttTransport.freeAt_run_iff maximumPacketSize⟩

/-- A message on the inbound topic: the worker calls the receiver while it holds
the mutex of the client. -/
theorem receiver_lockedInLoop :
    ¬∀ (maximumPacketSize : Nat) (config : MqttConfig) (ops : List MqttTransport.Op),
      FreeAt MqttEvent.IsDelivery (MqttTransport.Acquired maximumPacketSize)
        (observed [] (feed (MqttTransport.step maximumPacketSize)
          (MqttTransport.fresh config) ops).2) := by
  intro h
  let ops : List MqttTransport.Op :=
    [.initializeTransport MqttTransport.plainConfig true, .setReceiver (some 7),
      .iterate ⟨false, 5000, true, true⟩ [⟨some [105], some [1]⟩]]
  have hdelivered : ([MqttMutex.mqtt], MqttEvent.deliver 7 [1]) ∈
      observed [] (feed (MqttTransport.step 256)
        (MqttTransport.fresh MqttTransport.plainConfig) ops).2 := by
    decide +kernel
  exact h 256 MqttTransport.plainConfig ops _ hdelivered trivial .mqtt List.mem_cons_self
    (MqttTransport.acquired_mqtt (by omega))

end Sockets
