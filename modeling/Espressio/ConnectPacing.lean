import Espressio.ConnectionPackets
import Espressio.MqttTransport
import Espressio.RetryPacing

/-!
# How often the transports connect

`EnsureConnectedLocked` is asked for by the worker in every iteration and by
every `Send`.  In three transports it keeps to the reconnect interval of the
configuration in force, and compares readings of a millisecond clock of 32
bits: the two stream clients, and the client of a broker.

The broker's client also marks the time when it has no client object to connect
with, so its mark may be newer than its last attempt.
-/

namespace Sockets

open NetworkBytes LockTraces Runs RetryPacing

variable {κ δ : Type*}

/-- There is a call of `connect` among the events. -/
def Connecting (es : List StreamEvent) : Prop :=
  ∃ host port connection, StreamEvent.connect host port connection ∈ es

theorem Connecting.append {es fs : List StreamEvent} (h : ¬Connecting es) (hf : ¬Connecting fs) :
    ¬Connecting (es ++ fs) := by
  intro hconnect
  obtain ⟨host, port, connection, hmem⟩ := hconnect
  rcases List.mem_append.mp hmem with hfirst | hrest
  · exact h ⟨host, port, connection, hfirst⟩
  · exact hf ⟨host, port, connection, hrest⟩

theorem readLoop_unconnecting (d : FrameDecoder δ) (c : Nat) (decoder : δ) (chunks : List Chunk) :
    ¬Connecting (readLoop d c decoder chunks).events := by
  intro hconnect
  obtain ⟨host, port, connection, hmem⟩ := hconnect
  rcases readLoop_events decoder chunks hmem with ⟨chunk, hread⟩ | hstop
  · cases hread
  · cases hstop

namespace StreamClient

/-- The reading `EnsureConnectedLocked` takes in an operation. -/
def Op.reading : Op κ → Option UInt32
  | .iterate natives _ => some natives.now
  | .send _ natives _ => some natives.now
  | _ => none

variable {configureSecurity : κ → List SecurityCall} {lib : Library δ}

/-- **`EnsureConnectedLocked`** leaves the mark and does not connect, or it
connects at a reading an interval away from the mark, and marks it. -/
theorem ensureConnectedLocked_paces (configureSecurity : κ → List SecurityCall) (lib : Library δ)
    (s : StreamClient κ δ) (n : ConnectNatives) :
    Paces s.lastConnectAttempt
      (s.ensureConnectedLocked configureSecurity lib n).1.lastConnectAttempt
      s.config.reconnectIntervalMilliseconds (some n.now)
      (Connecting (s.ensureConnectedLocked configureSecurity lib n).2.2) := by
  unfold ensureConnectedLocked
  split_ifs with halive hsoon hconnects
  · exact Paces.kept (by simp [Connecting])
  · exact Paces.kept (by simp [Connecting])
  · exact Or.inr ⟨rfl, UInt32.not_lt.mp hsoon⟩
  · exact Or.inr ⟨rfl, UInt32.not_lt.mp hsoon⟩

theorem iterate_paces (s : StreamClient κ δ) (n : ConnectNatives) (reads : List Chunk) :
    Paces s.lastConnectAttempt (s.iterate configureSecurity lib n reads).1.lastConnectAttempt
      s.config.reconnectIntervalMilliseconds (some n.now)
      (Connecting (events (s.iterate configureSecurity lib n reads).2)) := by
  have hpaces := ensureConnectedLocked_paces configureSecurity lib s n
  unfold iterate
  split
  · exact Paces.kept (by simp [Connecting])
  · rw [events_underClient, readClientLocked]
    generalize s.ensureConnectedLocked configureSecurity lib n = outcome at hpaces
    obtain ⟨t, connected, fs⟩ := outcome
    dsimp only at hpaces ⊢
    split
    · rcases hpaces with ⟨hmark, hnone⟩ | hattempt
      · exact Or.inl ⟨hmark, Connecting.append hnone (readLoop_unconnecting _ _ _ _)⟩
      · exact Or.inr hattempt
    · exact hpaces

theorem send_paces (s : StreamClient κ δ) (packet : Option Bytes) (n : ConnectNatives)
    (whole : Bool) :
    Paces s.lastConnectAttempt
      (s.send configureSecurity lib packet n whole).1.lastConnectAttempt
      s.config.reconnectIntervalMilliseconds (some n.now)
      (Connecting (events (s.send configureSecurity lib packet n whole).2.2)) := by
  have hpaces := ensureConnectedLocked_paces configureSecurity lib s n
  unfold send
  split
  · dsimp only
    split
    · exact Paces.kept (by simp [Connecting])
    · generalize s.ensureConnectedLocked configureSecurity lib n = outcome at hpaces
      obtain ⟨t, connected, fs⟩ := outcome
      dsimp only at hpaces ⊢
      split
      · split
        · rw [events_underClient]
          rcases hpaces with ⟨hmark, hnone⟩ | hattempt
          · exact Or.inl ⟨hmark, Connecting.append hnone (by simp [Connecting])⟩
          · exact Or.inr hattempt
        · rw [events_underClient]
          rcases hpaces with ⟨hmark, hnone⟩ | hattempt
          · exact Or.inl ⟨hmark, Connecting.append hnone (by simp [Connecting])⟩
          · exact Or.inr hattempt
      · rwa [events_underClient]
  · exact Paces.kept (by simp [Connecting])

/-- **One operation** of a stream client. -/
theorem paced (configureSecurity : κ → List SecurityCall) (lib : Library δ) :
    Paced (step configureSecurity lib) Op.reading lastConnectAttempt
      (fun s => s.config.reconnectIntervalMilliseconds)
      (fun s op => Connecting (events (step configureSecurity lib s op).2)) := by
  intro s op
  cases op with
  | initializeTransport config started =>
      simp only [step, initializeTransport]
      split_ifs <;> exact Paces.kept (by simp [Connecting])
  | shutdown =>
      simp only [step, shutdown]
      split
      · exact Paces.kept (by simp [Connecting])
      · refine Paces.kept ?_
        rw [events_append, events_underClient, events_guarded]
        simp [Connecting]
  | iterate natives reads => exact iterate_paces s natives reads
  | dispatch =>
      simp only [step, dispatch]
      split
      · exact Paces.kept (by simp [Connecting])
      · refine Paces.kept ?_
        rw [events_dispatchPacket]
        simp [Connecting]
  | send packet natives whole => exact send_paces s packet natives whole
  | setReceiver receiver => exact Paces.kept (by simp [step, setReceiver, Connecting])
  | getIsConnected alive =>
      simp only [step, getIsConnected, events_underClient]
      exact Paces.kept (by simp [Connecting])

end StreamClient

namespace MqttTransport

/-- There is a call of `connect` among the events. -/
def Connecting (es : List MqttEvent) : Prop :=
  ∃ clientId credentials connected, MqttEvent.connect clientId credentials connected ∈ es

/-- The reading `EnsureConnectedLocked` takes in an operation. -/
def Op.reading : Op → Option UInt32
  | .iterate natives _ => some natives.now
  | .send _ natives _ => some natives.now
  | _ => none

variable {maximumPacketSize : Nat}

theorem ensureConnectedLocked_paces (s : MqttTransport) (n : MqttNatives) :
    Paces s.lastConnectAttempt (s.ensureConnectedLocked n).1.lastConnectAttempt
      s.config.reconnectIntervalMilliseconds (some n.now)
      (Connecting (s.ensureConnectedLocked n).2.2) := by
  simp only [ensureConnectedLocked]
  split_ifs with hresumed hsoon
  · exact Paces.kept (by simp [Connecting])
  · exact Paces.kept (by simp [Connecting])
  all_goals exact Or.inr ⟨rfl, UInt32.not_lt.mp hsoon⟩

/-- What the loop calls back with connects nothing. -/
theorem receiveMQTT_unconnecting (s : MqttTransport) (messages : List MqttMessage) :
    ¬Connecting (events (messages.flatMap (s.receiveMQTT maximumPacketSize))) := by
  intro hconnect
  obtain ⟨clientId, credentials, connected, hmem⟩ := hconnect
  induction messages with
  | nil => simp at hmem
  | cons message messages ih =>
      rw [List.flatMap_cons, events_append, List.mem_append] at hmem
      rcases hmem with hfirst | hrest
      · unfold receiveMQTT at hfirst
        split at hfirst
        · split_ifs at hfirst
          · cases hfirst
          · rw [events_append, events_guarded, events_map_event] at hfirst
            simp at hfirst
        · cases hfirst
      · exact ih hrest

theorem iterate_paces (s : MqttTransport) (n : MqttNatives) (messages : List MqttMessage) :
    Paces s.lastConnectAttempt (s.iterate maximumPacketSize n messages).1.lastConnectAttempt
      s.config.reconnectIntervalMilliseconds (some n.now)
      (Connecting (events (s.iterate maximumPacketSize n messages).2)) := by
  have hpaces := ensureConnectedLocked_paces s n
  unfold iterate
  split
  · exact Paces.kept (by simp [Connecting])
  · generalize s.ensureConnectedLocked n = outcome at hpaces
    obtain ⟨t, connected, fs⟩ := outcome
    dsimp only at hpaces ⊢
    refine hpaces.imp_left fun ⟨hmark, hnone⟩ => ⟨hmark, ?_⟩
    rw [events_guarded, events_append, events_map_event]
    intro hconnect
    obtain ⟨clientId, credentials, answer, hmem⟩ := hconnect
    rcases List.mem_append.mp hmem with hfirst | hrest
    · exact hnone ⟨clientId, credentials, answer, hfirst⟩
    · split at hrest
      · rw [mem_events, List.mem_cons, ← mem_events] at hrest
        rcases hrest with hloop | hmessage
        · cases hloop
        · exact receiveMQTT_unconnecting t messages ⟨clientId, credentials, answer, hmessage⟩
      · cases hrest

theorem send_paces (s : MqttTransport) (packet : Option Bytes) (n : MqttNatives)
    (published : Bool) :
    Paces s.lastConnectAttempt (s.send maximumPacketSize packet n published).1.lastConnectAttempt
      s.config.reconnectIntervalMilliseconds (some n.now)
      (Connecting (events (s.send maximumPacketSize packet n published).2.2)) := by
  have hpaces := ensureConnectedLocked_paces s n
  unfold send
  split
  · exact Paces.kept (by simp [Connecting])
  · generalize s.ensureConnectedLocked n = outcome at hpaces
    obtain ⟨t, connected, fs⟩ := outcome
    dsimp only at hpaces ⊢
    split
    · rwa [events_guarded, events_map_event]
    · refine hpaces.imp_left fun ⟨hmark, hnone⟩ => ⟨hmark, ?_⟩
      rw [events_guarded, events_map_event]
      intro hconnect
      obtain ⟨clientId, credentials, answer, hmem⟩ := hconnect
      rcases List.mem_append.mp hmem with hfirst | hrest
      · exact hnone ⟨clientId, credentials, answer, hfirst⟩
      · cases List.mem_singleton.mp hrest

/-- **One operation** of the client of a broker. -/
theorem paced (maximumPacketSize : Nat) :
    Paced (step maximumPacketSize) Op.reading lastConnectAttempt
      (fun s => s.config.reconnectIntervalMilliseconds)
      (fun s op => Connecting (events (step maximumPacketSize s op).2)) := by
  have hconfigured : ∀ config : MqttConfig, ¬Connecting (events ((configureTLS config).map
      fun call => (Action.event (.configure call) : MqttAction))) := by
    intro config hconnect
    obtain ⟨clientId, credentials, connected, hmem⟩ := hconnect
    rw [mem_events] at hmem
    obtain ⟨call, -, hcall⟩ := List.mem_map.mp hmem
    cases hcall
  intro s op
  cases op with
  | initializeTransport config started =>
      simp only [step, initializeTransport]
      split_ifs
      · exact Paces.kept (by simp [Connecting])
      · exact Paces.kept (by simp [Connecting])
      · exact Paces.kept (hconfigured config)
      · exact Paces.kept (hconfigured config)
  | shutdown =>
      simp only [step, shutdown]
      split
      · exact Paces.kept (by simp [Connecting])
      · refine Paces.kept ?_
        rw [events_append, events_guarded, events_guarded]
        split <;> simp [Connecting, events]
  | iterate natives messages => exact iterate_paces s natives messages
  | send packet natives published => exact send_paces s packet natives published
  | setReceiver receiver => exact Paces.kept (by simp [step, setReceiver, Connecting])
  | getIsConnected alive => exact Paces.kept (by simp [step, getIsConnected, Connecting])

end MqttTransport

/-! ### Every run -/

/-- The connects of a run with true times: from one to any later one the
interval of the configuration in force at the later passes, and no connect
comes before that interval has passed since the clock's start. -/
def ConnectsApart {σ ε ο : Type*} (f : σ → ε → σ × List ο) (interval : σ → UInt32)
    (connects : σ → ε → Prop) (s : σ) (ops : List (Nat × ε)) : Prop :=
  ((trace (timed f) s ops).Pairwise fun x y =>
      connects x.1 x.2.2 → connects y.1 y.2.2 → x.2.1 + (interval y.1).toNat ≤ y.2.1) ∧
    ∀ x ∈ trace (timed f) s ops, connects x.1 x.2.2 → (interval x.1).toNat ≤ x.2.1

/-- **Pacing.**  In every run of a stream client, or of the client of a broker,
the worker's and all senders' connects are held apart, however often the clock
wraps. -/
theorem connects_apart (lib : Library δ) (maximumPacketSize : Nat) :
    (∀ config ops, Clocked StreamClient.Op.reading ops →
      ConnectsApart (tcpClientStep lib) (fun s => s.config.reconnectIntervalMilliseconds)
        (fun s op => Connecting (events (tcpClientStep lib s op).2))
        (StreamClient.fresh lib config) ops) ∧
    (∀ config ops, Clocked StreamClient.Op.reading ops →
      ConnectsApart (tlsStep lib) (fun s => s.config.reconnectIntervalMilliseconds)
        (fun s op => Connecting (events (tlsStep lib s op).2))
        (StreamClient.fresh lib config) ops) ∧
    ∀ config ops, Clocked MqttTransport.Op.reading ops →
      ConnectsApart (MqttTransport.step maximumPacketSize)
        (fun s => s.config.reconnectIntervalMilliseconds)
        (fun s op =>
          MqttTransport.Connecting (events (MqttTransport.step maximumPacketSize s op).2))
        (MqttTransport.fresh config) ops := by
  refine ⟨fun config ops hclock => ?_, fun config ops hclock => ?_, fun config ops hclock => ?_⟩
  · have hpaced := StreamClient.paced (fun _ : Unit => []) lib
    exact ⟨hpaced.spaced hclock _, hpaced.late hclock rfl⟩
  · have hpaced := StreamClient.paced configureSecurityLocked lib
    exact ⟨hpaced.spaced hclock _, hpaced.late hclock rfl⟩
  · have hpaced := MqttTransport.paced maximumPacketSize
    exact ⟨hpaced.spaced hclock _, hpaced.late hclock rfl⟩

/-- A client that finds no server, 2500 ms after the clock's start and again
just after the clock has wrapped. -/
def sampleAttempts : List (Nat × StreamClient.Op Unit) :=
  [(0, .initializeTransport ⟨[104], 80, 2000, ()⟩ true), (2500, .iterate ⟨false, 2500, false⟩ []),
    (4294967300, .iterate ⟨false, 4, false⟩ [])]

theorem sampleAttempts_apart (lib : Library Unit) :
    ConnectsApart (tcpClientStep lib) (fun s => s.config.reconnectIntervalMilliseconds)
      (fun s op => Connecting (events (tcpClientStep lib s op).2))
      (StreamClient.fresh lib ⟨[], 0, 0, ()⟩) sampleAttempts :=
  (connects_apart lib 256).1 _ _
    ⟨by simp [sampleAttempts], by simp [sampleAttempts, StreamClient.Op.reading]⟩

end Sockets
