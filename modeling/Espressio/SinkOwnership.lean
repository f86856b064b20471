import Espressio.ConnectionEffects

/-!
# The sink pointers of one binding state

A binding state keeps its sink pointer once for itself and once in every
connection.  `Uniform` says that all copies agree.  Every callback of HTTPD
keeps it and calls no other sink, and `setSink` establishes it whatever the
copies were before.

A `Harmless` state calls nobody.  That is all one can ask of a state that its
endpoint has let go, because `setSink` no longer reaches it.
-/

namespace WebSocketEndpoint

open NetworkBytes Web

/-- Every sink pointer in the binding state is `sink`. -/
structure Uniform (b : BindingState) (sink : Option Nat) : Prop where
  own : b.sink = sink
  connections : ∀ c ∈ b.connections, c.activitySink = sink

/-- No sink but `sink` is called. -/
def CallsOnly (sink : Option Nat) (es : List Effect) : Prop :=
  ∀ s call, Effect.sinkCall s call ∈ es → sink = some s

@[simp] theorem callsOnly_nil (sink : Option Nat) : CallsOnly sink [] := by
  simp [CallsOnly]

@[simp] theorem callsOnly_append {sink : Option Nat} {es fs : List Effect} :
    CallsOnly sink (es ++ fs) ↔ CallsOnly sink es ∧ CallsOnly sink fs := by
  simp only [CallsOnly, List.mem_append]
  constructor
  · exact fun h => ⟨fun s c hc => h s c (Or.inl hc), fun s c hc => h s c (Or.inr hc)⟩
  · rintro ⟨h, k⟩ s c (hc | hc)
    · exact h s c hc
    · exact k s c hc

@[simp] theorem callsOnly_notify (sink : Option Nat) (call : SinkCall) :
    CallsOnly sink (notify sink call) := by
  cases sink <;> simp [CallsOnly, notify]

/-- Effects on sockets call no sink. -/
theorem callsOnly_of_native {sink : Option Nat} {es : List Effect}
    (h : ∀ e ∈ es, ∀ s call, e ≠ .sinkCall s call) : CallsOnly sink es :=
  fun s call hc => absurd rfl (h _ hc s call)

section Connection

variable {c : Connection} {sink : Option Nat} (h : c.activitySink = sink)

include h

theorem notifyActivity_callsOnly (a : Activity) : CallsOnly sink (c.notifyActivity a) := by
  unfold Connection.notifyActivity
  rw [h]
  exact callsOnly_notify _ _

theorem close_callsOnly (n : SendNatives) (code : UInt16) (reason : Bytes) :
    CallsOnly sink (c.close n code reason).2.2 ∧
      (c.close n code reason).1.activitySink = sink := by
  cases hopen : c.isOpen with
  | false =>
      rw [close_of_closed hopen]
      exact ⟨callsOnly_nil _, h⟩
  | true =>
      obtain ⟨requested, queued, trigger, -, -, htrigger, heffects⟩ :=
        close_effects hopen n code reason
      have hframe : CallsOnly sink (if c.Takes n then
          [.queueFrame c.socket .close (closePayload code reason) true] else []) := by
        apply callsOnly_of_native
        split <;> simp
      have htrigger' : CallsOnly sink trigger := by
        apply callsOnly_of_native
        rcases htrigger with rfl | rfl <;> simp
      refine ⟨?_, (close_activitySink c n code reason).trans h⟩
      simp only [heffects, callsOnly_append]
      exact ⟨⟨⟨notifyActivity_callsOnly h _, hframe⟩, notifyActivity_callsOnly h _⟩, htrigger'⟩

end Connection

section Binding

variable {b : BindingState} {sink : Option Nat}

theorem Uniform.make (sink : Option Nat) : Uniform (.make sink) sink :=
  ⟨rfl, by simp [BindingState.make]⟩

/-- `setSink` reaches every copy, whatever they were. -/
theorem Uniform.setSink (b : BindingState) (sink : Option Nat) : Uniform (b.setSink sink) sink :=
  ⟨rfl, by simp [BindingState.setSink, Connection.setActivitySink]⟩

theorem Uniform.congr {b' : BindingState} (h : Uniform b sink) (hs : b'.sink = b.sink)
    (hc : b'.connections = b.connections) : Uniform b' sink :=
  ⟨hs.trans h.own, hc ▸ h.connections⟩

theorem Uniform.notifyActivity (h : Uniform b sink) (a : Activity) :
    CallsOnly sink (b.notifyActivity a) := by
  unfold BindingState.notifyActivity
  rw [h.own]
  exact callsOnly_notify _ _

theorem mem_replaceConnection {c d : Connection} {cs : List Connection}
    (hd : d ∈ replaceConnection c cs) : d = c ∨ d ∈ cs := by
  induction cs with
  | nil => simp [replaceConnection] at hd
  | cons e rest ih =>
      unfold replaceConnection at hd
      split at hd
      · rcases List.mem_cons.mp hd with hd | hd
        · exact Or.inl hd
        · exact Or.inr (List.mem_cons_of_mem e hd)
      · rcases List.mem_cons.mp hd with hd | hd
        · exact Or.inr (hd ▸ List.mem_cons_self)
        · exact (ih hd).imp_right (List.mem_cons_of_mem e)

theorem Uniform.store (h : Uniform b sink) {c : Connection} (hc : c.activitySink = sink) :
    Uniform (b.storeConnection c) sink := by
  refine ⟨h.own, fun d hd => ?_⟩
  rcases mem_replaceConnection hd with rfl | hd
  · exact hc
  · exact h.connections d hd

theorem Uniform.found (h : Uniform b sink) {socket : Nat} {c : Connection}
    (hc : b.findConnection socket = some c) : c.activitySink = sink :=
  h.connections c (List.mem_of_find?_eq_some hc)

/-- What a callback of a binding state leaves behind: all its sink pointers
still agree, and it called no other sink. -/
def Keeps (sink : Option Nat) (b : BindingState) (es : List Effect) : Prop :=
  Uniform b sink ∧ CallsOnly sink es

theorem ensureConnection_keeps (h : Uniform b sink) (n : RequestNatives) (handle : Option Nat)
    (socket : Nat) (detail : String) :
    let r := b.ensureConnection n handle socket detail
    Keeps sink r.1 r.2.2 ∧ ∀ c, r.2.1 = some c → c.activitySink = sink := by
  unfold BindingState.ensureConnection
  split
  · rename_i c hc
    refine ⟨⟨h, callsOnly_nil _⟩, ?_⟩
    rintro _ ⟨⟩
    exact h.found hc
  · split
    · exact ⟨⟨h, h.notifyActivity _⟩, by simp⟩
    · exact ⟨⟨h, h.notifyActivity _⟩, by simp⟩
    · refine ⟨⟨⟨h.own, ?_⟩, ?_⟩, ?_⟩
      · intro c hc
        rcases List.mem_append.mp hc with hc | hc
        · exact h.connections c hc
        · rw [List.mem_singleton.mp hc]
          exact h.own
      · rw [callsOnly_append]
        refine ⟨h.notifyActivity _, ?_⟩
        rw [h.own]
        exact callsOnly_notify _ _
      · rintro _ ⟨⟩
        exact h.own

theorem handleUpgrade_keeps (h : Uniform b sink) (n : RequestNatives) (handle : Option Nat)
    (socket : Nat) :
    Keeps sink (b.handleUpgrade n handle socket).1 (b.handleUpgrade n handle socket).2.2 := by
  obtain ⟨⟨hu, hc⟩, -⟩ := ensureConnection_keeps h n handle socket
    "ESP32 websocket connection object created"
  exact ⟨hu, callsOnly_append.mpr ⟨h.notifyActivity _, hc⟩⟩

theorem trackedConnection_keeps (h : Uniform b sink) (n : RequestNatives) (handle : Option Nat)
    (socket : Nat) :
    let r := b.trackedConnection n handle socket
    Keeps sink r.1 r.2.2 ∧ ∀ c, r.2.1 = some c → c.activitySink = sink := by
  unfold BindingState.trackedConnection
  split
  · rename_i c hc
    refine ⟨⟨h, callsOnly_nil _⟩, ?_⟩
    rintro _ ⟨⟩
    exact h.found hc
  · split
    · exact ensureConnection_keeps h n handle socket _
    · exact ⟨⟨h, callsOnly_nil _⟩, by simp⟩

theorem deliver_callsOnly (h : Uniform b sink) (id : Nat) (type : FrameType) (payload : Bytes) :
    CallsOnly sink (b.deliver id type payload) := by
  unfold BindingState.deliver
  rw [h.own]
  split
  · exact callsOnly_notify _ _
  · exact callsOnly_notify _ _
  · exact callsOnly_nil _

theorem handleDataFrame_keeps (h : Uniform b sink) {c : Connection}
    (hc : c.activitySink = sink) (n : RequestNatives) (f : WsFrame) :
    Keeps sink (b.handleDataFrame n c f).1 (b.handleDataFrame n c f).2.2 := by
  have hmaybe : ∀ (P : Prop) [Decidable P] (a : Activity),
      CallsOnly sink (if P then b.notifyActivity a else []) := by
    intro P _ a
    split
    · exact h.notifyActivity a
    · exact callsOnly_nil _
  have hacc := (accumulateFragment_line c f.type f.final f.payload).activitySink.trans hc
  unfold BindingState.handleDataFrame
  generalize c.accumulateFragment f.type f.final f.payload = r at hacc ⊢
  obtain ⟨c', result, completed⟩ := r
  cases result with
  | failure error native =>
      have hclose := close_callsOnly hacc n.close
        (if error = .resourceExhausted then 1009 else 1002) (ascii "invalid websocket message")
      exact ⟨h.store hclose.2, callsOnly_append.mpr
        ⟨callsOnly_append.mpr ⟨hmaybe _ _, h.notifyActivity _⟩, hclose.1⟩⟩
  | success =>
      cases completed with
      | none => exact ⟨h.store hacc, hmaybe _ _⟩
      | some message =>
          exact ⟨h.store hacc, callsOnly_append.mpr
            ⟨callsOnly_append.mpr ⟨hmaybe _ _, hmaybe _ _⟩, deliver_callsOnly h _ _ _⟩⟩

theorem handleFrame_keeps (h : Uniform b sink) {c : Connection}
    (hc : c.activitySink = sink) (n : RequestNatives) (f : WsFrame) :
    Keeps sink (b.handleFrame n c f).1 (b.handleFrame n c f).2.2 := by
  unfold BindingState.handleFrame
  split
  · exact ⟨h, callsOnly_append.mpr ⟨h.notifyActivity _, callsOnly_of_native (by simp)⟩⟩
  · exact ⟨h, h.notifyActivity _⟩
  · refine ⟨h.store ?_, callsOnly_append.mpr ⟨h.notifyActivity _, callsOnly_of_native (by simp)⟩⟩
    unfold Connection.rememberPeerClose
    split <;> exact hc
  · exact handleDataFrame_keeps h hc n f

theorem receiveFrame_keeps (h : Uniform b sink) {c : Connection}
    (hc : c.activitySink = sink) (n : RequestNatives) (f : WsFrame) :
    Keeps sink (b.receiveFrame n c f).1 (b.receiveFrame n c f).2.2 := by
  unfold BindingState.receiveFrame
  by_cases hheader : n.header ≠ .ok
  · rw [if_pos hheader]
    exact ⟨h, h.notifyActivity _⟩
  · rw [if_neg hheader]
    by_cases hlen : maxMessageBytes < f.payload.length
    · simp only [if_pos hlen]
      obtain ⟨hclose, hsink⟩ := close_callsOnly hc n.close 1009 (ascii "message too large")
      exact ⟨h.store hsink, callsOnly_append.mpr
        ⟨callsOnly_append.mpr ⟨h.notifyActivity _, h.notifyActivity _⟩, hclose⟩⟩
    · simp only [if_neg hlen]
      by_cases hpayload : n.payload ≠ .ok
      · rw [if_pos hpayload]
        exact ⟨h, callsOnly_append.mpr ⟨h.notifyActivity _, h.notifyActivity _⟩⟩
      · rw [if_neg hpayload]
        obtain ⟨hu, hcalls⟩ := handleFrame_keeps h hc n f
        exact ⟨hu, callsOnly_append.mpr
          ⟨callsOnly_append.mpr ⟨h.notifyActivity _, h.notifyActivity _⟩, hcalls⟩⟩

/-- **Requests keep the sink pointers together.** -/
theorem handleWebSocketRequest_keeps (h : Uniform b sink) (n : RequestNatives) (q : Request) :
    Keeps sink (b.handleWebSocketRequest n q).1 (b.handleWebSocketRequest n q).2.2 := by
  unfold BindingState.handleWebSocketRequest
  split
  · exact ⟨h, callsOnly_nil _⟩
  · split
    · exact handleUpgrade_keeps h n q.handle _
    · have htracked := trackedConnection_keeps h n q.handle q.socket.toNat
      generalize b.trackedConnection n q.handle q.socket.toNat = t at htracked ⊢
      obtain ⟨b', connection, created⟩ := t
      obtain ⟨⟨hu, hcalls⟩, hfound⟩ := htracked
      cases connection with
      | none => exact ⟨hu, callsOnly_append.mpr ⟨hcalls, hu.notifyActivity _⟩⟩
      | some c =>
          obtain ⟨hu', hcalls'⟩ := receiveFrame_keeps hu (hfound c rfl) n q.frame
          exact ⟨hu', callsOnly_append.mpr ⟨hcalls, hcalls'⟩⟩

/-- **So do session closes.** -/
theorem onHttpSessionClosed_keeps (h : Uniform b sink) (socket : Nat) :
    Keeps sink (b.onHttpSessionClosed socket).1 (b.onHttpSessionClosed socket).2 := by
  unfold BindingState.onHttpSessionClosed
  split
  · exact ⟨h, callsOnly_nil _⟩
  · refine ⟨⟨h.own, fun c hc => h.connections c (List.mem_of_mem_eraseP hc)⟩, ?_⟩
    rw [callsOnly_append]
    refine ⟨h.notifyActivity _, ?_⟩
    rw [h.own]
    exact callsOnly_notify _ _

theorem closeConnections_uniform {cs : List Connection}
    (h : ∀ c ∈ cs, c.activitySink = sink) (natives : Nat → SendNatives) (code : UInt16)
    (reason : Bytes) :
    ∀ c ∈ (closeConnections natives code reason cs).1, c.activitySink = sink := by
  induction cs with
  | nil => simp [closeConnections]
  | cons c rest ih =>
      obtain ⟨hc, hrest⟩ := List.forall_mem_cons.mp h
      exact List.forall_mem_cons.mpr ⟨(close_callsOnly hc ..).2, ih hrest⟩

theorem Uniform.closeAll (h : Uniform b sink) (natives : Nat → SendNatives) (code : UInt16)
    (reason : Bytes) : Uniform (b.closeAll natives code reason).1 sink :=
  ⟨h.own, closeConnections_uniform h.connections natives code reason⟩

end Binding

/-- A state no callback of which calls a sink: it takes no requests, and has
no connection to close or no sink to tell. -/
def Harmless (b : BindingState) : Prop :=
  b.active = false ∧ (b.connections = [] ∨ Uniform b none)

theorem Harmless.onHttpSessionClosed {b : BindingState} (h : Harmless b) (socket : Nat) :
    Harmless (b.onHttpSessionClosed socket).1 ∧
      CallsOnly none (b.onHttpSessionClosed socket).2 := by
  obtain ⟨hactive, hquiet⟩ := h
  have hstill : (b.onHttpSessionClosed socket).1.active = false := by
    unfold BindingState.onHttpSessionClosed
    split <;> exact hactive
  rcases hquiet with hnone | hnull
  · have hsame : b.onHttpSessionClosed socket = (b, []) := by
      simp [BindingState.onHttpSessionClosed, BindingState.findConnection, hnone]
    rw [hsame]
    exact ⟨⟨hactive, Or.inl hnone⟩, callsOnly_nil _⟩
  · obtain ⟨hu, hcalls⟩ := onHttpSessionClosed_keeps hnull socket
    exact ⟨⟨hstill, Or.inr hu⟩, hcalls⟩

end WebSocketEndpoint
