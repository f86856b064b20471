import Espressio.BindingTracking
import Espressio.Fragments

/-!
# The endpoint reassembles like the reference

One tracked connection of an active binding receives frames.  Per frame, two
things can be observed of the binding: the messages it hands to the sink, and
the frames it refuses as protocol errors.  `reassembles_like_reference` says
that these are, frame by frame, those of `Fragments.reassemble`.

The connection stores the open message in three members; `Holds` relates them
to the state of the reference.  Each call of `accumulateFragment` keeps that
relation, refused frames included, so the agreement does not end at the first
refusal.
-/

namespace WebSocketEndpoint

open NetworkBytes Web Fragments

def frameKind : FrameType → Kind MessageType
  | .text => .data .text
  | .binary => .data .binary
  | .continuation => .continuation
  | .close | .ping | .pong => .control
  | .other _ => .unknown

def WsFrame.toFrame (f : WsFrame) : Frame MessageType UInt8 :=
  ⟨frameKind f.type, f.final, f.payload⟩

/-- A frame that HTTPD reads without an error: any frame within the limit
that is not a Close, with any answers to the other native calls. -/
structure Arrival where
  frame : WsFrame
  handle : Option Nat
  natives : RequestNatives
  notClose : frame.type ≠ .close
  withinLimit : frame.payload.length ≤ maxMessageBytes
  headerRead : natives.header = .ok
  payloadRead : natives.payload = .ok

/-- What one frame comes to: the messages delivered and the refusals. -/
structure Observation where
  messages : List (MessageType × Bytes)
  refusals : List WebError
  deriving DecidableEq, Repr

/-- A message for sink `s` from connection `id`. -/
def messageTo (s id : Nat) : Effect → Option (MessageType × Bytes)
  | .sinkCall t (.text i payload) =>
      if t = s ∧ i = id then some (.text, payload) else none
  | .sinkCall t (.binary i payload) =>
      if t = s ∧ i = id then some (.binary, payload) else none
  | _ => none

/-- A protocol error reported to any sink. -/
def refusal : Effect → Option WebError
  | .sinkCall _ (.activity a) =>
      match a.kind, a.result with
      | .protocolError, .failure error _ => some error
      | _, _ => none
  | _ => none

def observe (s id : Nat) (effects : List Effect) : Observation :=
  ⟨effects.filterMap (messageTo s id), effects.filterMap refusal⟩

/-- One frame on `socket`, and what is observed of it. -/
def receive (s socket : Nat) (b : BindingState) (a : Arrival) :
    BindingState × List Observation :=
  let r := b.handleWebSocketRequest a.natives ⟨false, a.handle, socket, a.frame⟩
  (r.1, [observe s socket r.2.2])

/-- How the platform reports the reasons of the reference. -/
def reported : Rejection → WebError
  | .tooLong => .resourceExhausted
  | .noOpenMessage | .messageOpen | .unknownOpcode => .protocolError

def expected : Verdict MessageType UInt8 → Observation
  | .pending => ⟨[], []⟩
  | .delivered type payload => ⟨[(type, payload)], []⟩
  | .rejected why => ⟨[], [reported why]⟩

/-- One frame of the reference reassembler. -/
def reference (open? : Option (MessageType × Bytes)) (a : Arrival) :
    Option (MessageType × Bytes) × List Observation :=
  let r := reassemble maxMessageBytes open? a.frame.toFrame
  (r.1, [expected r.2])

def frameTypeOf : MessageType → FrameType
  | .text => .text
  | .binary => .binary

/-- The connection's members hold this open message. -/
def Holds (c : Connection) : Option (MessageType × Bytes) → Prop
  | none => c.fragmenting = false ∧ c.fragmentBuffer = []
  | some (type, received) =>
      c.fragmenting = true ∧ c.fragmentType = frameTypeOf type ∧
        c.fragmentBuffer = received ∧ received.length ≤ maxMessageBytes

/-- The result `accumulateFragment` gives for a verdict. -/
def verdictResult : Verdict MessageType UInt8 → WebResult
  | .rejected why => .failure (reported why) .none
  | _ => .success

/-- The message `accumulateFragment` completes for a verdict. -/
def verdictMessage : Verdict MessageType UInt8 → Option (FrameType × Bytes)
  | .delivered type payload => some (frameTypeOf type, payload)
  | _ => none

/-- **Step lemma.**  On a frame that is no control frame the connection
answers as the reference does, and holds the reference's next state. -/
theorem accumulateFragment_reassemble {c : Connection} {open? : Option (MessageType × Bytes)}
    {f : WsFrame} (h : Holds c open?) (hf : ¬ IsControl f.type)
    (hlen : f.payload.length ≤ maxMessageBytes) :
    let v := reassemble maxMessageBytes open? f.toFrame
    ∃ c', c.accumulateFragment f.type f.final f.payload =
        (c', verdictResult v.2, verdictMessage v.2) ∧
      Holds c' v.1 ∧ c'.socket = c.socket := by
  obtain ⟨type, final, payload⟩ := f
  have hfits : ¬ maxMessageBytes < payload.length := Nat.not_lt.mpr hlen
  simp only [WsFrame.toFrame]
  cases open? with
  | none =>
      obtain ⟨hfrag, hbuf⟩ := h
      cases type with
      | text | binary =>
          cases final <;>
            simp [Connection.accumulateFragment, reassemble, frameKind, verdictResult,
              verdictMessage, Holds, frameTypeOf, hfrag, hbuf, hfits, Nat.not_lt.mp hfits]
      | continuation | other =>
          simp [Connection.accumulateFragment, reassemble, frameKind, verdictResult,
            verdictMessage, reported, Holds, hfrag, hbuf]
      | close | ping | pong => simp [IsControl] at hf
  | some m =>
      obtain ⟨mtype, received⟩ := m
      obtain ⟨hfrag, htype, hbuf, hmax⟩ := h
      cases type with
      | text | binary | other =>
          simp [Connection.accumulateFragment, reassemble, frameKind, verdictResult,
            verdictMessage, reported, Holds, hfrag, htype, hbuf, hmax]
      | continuation =>
          by_cases hlong : maxMessageBytes < received.length + payload.length
          · simp [Connection.accumulateFragment, reassemble, frameKind, verdictResult,
              verdictMessage, reported, Holds, hfrag, hbuf, hlong]
          · cases final <;>
              simp [Connection.accumulateFragment, reassemble, frameKind, verdictResult,
                verdictMessage, Holds, hfrag, htype, hbuf, hlong, Nat.not_lt.mp hlong]
      | close | ping | pong => simp [IsControl] at hf

/-- An effect that is neither a message nor a refusal. -/
def Unremarkable (s id : Nat) (e : Effect) : Prop := messageTo s id e = none ∧ refusal e = none

theorem observe_append (s id : Nat) (es fs : List Effect) :
    observe s id (es ++ fs) =
      ⟨(observe s id es).messages ++ (observe s id fs).messages,
        (observe s id es).refusals ++ (observe s id fs).refusals⟩ := by
  simp [observe]

theorem observe_of_unremarkable {s id : Nat} {es : List Effect}
    (h : ∀ e ∈ es, Unremarkable s id e) : observe s id es = ⟨[], []⟩ := by
  simp only [observe, Observation.mk.injEq, List.filterMap_eq_nil_iff]
  exact ⟨fun e he => (h e he).1, fun e he => (h e he).2⟩

theorem notify_activity_unremarkable {sink : Option Nat} {a : Activity} (s id : Nat)
    (h : a.kind ≠ .protocolError) : ∀ e ∈ notify sink (.activity a), Unremarkable s id e := by
  intro e he
  cases sink with
  | none => simp [notify] at he
  | some t =>
      obtain rfl : e = .sinkCall t (.activity a) := by simpa [notify] using he
      obtain ⟨kind, _, _, _, result, _, _⟩ := a
      refine ⟨rfl, ?_⟩
      cases kind <;> cases result <;> first | rfl | exact absurd rfl h

/-- Activities other than a protocol error are observed as nothing. -/
theorem observe_activity {sink : Option Nat} {a : Activity} (s id : Nat)
    (h : a.kind ≠ .protocolError) : observe s id (notify sink (.activity a)) = ⟨[], []⟩ :=
  observe_of_unremarkable (notify_activity_unremarkable s id h)

/-- Closing a connection delivers nothing and reports no protocol error. -/
theorem observe_close (c : Connection) (n : SendNatives) (code : UInt16) (reason : Bytes)
    (s id : Nat) : observe s id (c.close n code reason).2.2 = ⟨[], []⟩ := by
  cases hopen : c.isOpen with
  | false =>
      rw [close_of_closed hopen]
      rfl
  | true =>
      obtain ⟨requested, queued, trigger, hrequested, hqueued, htrigger, heffects⟩ :=
        close_effects hopen n code reason
      have hframe : observe s id (if c.Takes n then
          [.queueFrame c.socket .close (closePayload code reason) true] else []) = ⟨[], []⟩ := by
        split <;> rfl
      have htrigger' : observe s id trigger = ⟨[], []⟩ := by
        rcases htrigger with rfl | rfl <;> rfl
      simp only [heffects, observe_append, hframe, htrigger', Connection.notifyActivity,
        observe_activity s id hrequested, observe_activity s id hqueued, List.append_nil]

theorem Holds.close {c : Connection} {open? : Option (MessageType × Bytes)} (h : Holds c open?)
    (n : SendNatives) (code : UInt16) (reason : Bytes) :
    Holds (c.close n code reason).1 open? := by
  unfold Connection.close
  split
  · exact h
  · cases open? <;> exact h

/-- The binding tracks `socket`, reports to `s`, and holds this open message
for it. -/
def Serving (s socket : Nat) (b : BindingState) (open? : Option (MessageType × Bytes)) : Prop :=
  b.active = true ∧ b.sink = some s ∧
    ∃ c, b.findConnection socket = some c ∧ Holds c open?

theorem Serving.store {s socket : Nat} {b : BindingState} {c d : Connection}
    {open? : Option (MessageType × Bytes)} (hactive : b.active = true)
    (hsink : b.sink = some s) (hd : b.findConnection socket = some d)
    (hc : c.socket = socket) (hholds : Holds c open?) :
    Serving s socket (b.storeConnection c) open? :=
  ⟨hactive, hsink, c, findConnection_store hd hc, hholds⟩

theorem observe_deliver {s socket : Nat} {b : BindingState} (hsink : b.sink = some s)
    (type : MessageType) (payload : Bytes) :
    observe s socket (b.deliver socket (frameTypeOf type) payload) =
      ⟨[(type, payload)], []⟩ := by
  cases type <;> simp [BindingState.deliver, frameTypeOf, hsink, notify, observe, messageTo,
    refusal]

theorem observe_protocolError {s socket : Nat} {b : BindingState} (hsink : b.sink = some s)
    (type : ActivityFrameType) (size : Nat) (error : WebError) (native : NativeCode)
    (code : UInt16) (detail : Detail) :
    observe s socket (b.notifyActivity
      ⟨.protocolError, socket, type, size, .failure error native, code, detail⟩) =
        ⟨[], [error]⟩ := by
  simp [BindingState.notifyActivity, notify, hsink, observe, messageTo, refusal]

/-- A frame of a message, observed. -/
theorem handleDataFrame_reassemble {s socket : Nat} {b : BindingState} {c : Connection}
    {open? : Option (MessageType × Bytes)} {f : WsFrame} (n : RequestNatives)
    (hactive : b.active = true) (hsink : b.sink = some s)
    (hc : b.findConnection socket = some c) (hholds : Holds c open?)
    (hf : ¬ IsControl f.type) (hlen : f.payload.length ≤ maxMessageBytes) :
    let v := reassemble maxMessageBytes open? f.toFrame
    observe s socket (b.handleDataFrame n c f).2.2 = expected v.2 ∧
      Serving s socket (b.handleDataFrame n c f).1 v.1 := by
  obtain ⟨c', hacc, hholds', hsocket'⟩ := accumulateFragment_reassemble hholds hf hlen
  have hsocket : c.socket = socket := findConnection_socket hc
  have hquiet : ∀ (P : Prop) [Decidable P] (a : Activity), a.kind ≠ .protocolError →
      observe s socket (if P then b.notifyActivity a else []) = ⟨[], []⟩ := by
    intro P _ a ha
    split
    · exact observe_activity s socket ha
    · rfl
  unfold BindingState.handleDataFrame
  rw [hacc]
  generalize reassemble maxMessageBytes open? f.toFrame = v at hholds' ⊢
  obtain ⟨next, verdict⟩ := v
  cases verdict with
  | pending =>
      refine ⟨hquiet _ _ (by simp), ?_⟩
      exact Serving.store hactive hsink hc (hsocket'.trans hsocket) hholds'
  | delivered type payload =>
      refine ⟨?_, Serving.store hactive hsink hc (hsocket'.trans hsocket) hholds'⟩
      simp only [verdictResult, verdictMessage, observe_append, hsocket,
        observe_deliver hsink, expected]
      rw [hquiet _ _ (by simp), hquiet _ _ (by simp)]
      rfl
  | rejected why =>
      refine ⟨?_, Serving.store hactive hsink hc
        ((close_socket ..).trans (hsocket'.trans hsocket)) (hholds'.close ..)⟩
      simp only [verdictResult, observe_append, observe_close, hsocket,
        observe_protocolError hsink, expected]
      rw [hquiet _ _ (by simp)]
      rfl

/-- A frame whose payload has been read, observed: a Ping or Pong comes to
nothing, as in the reference. -/
theorem handleFrame_reassemble {s socket : Nat} {b : BindingState} {c : Connection}
    {open? : Option (MessageType × Bytes)} {f : WsFrame} (n : RequestNatives)
    (hactive : b.active = true) (hsink : b.sink = some s)
    (hc : b.findConnection socket = some c) (hholds : Holds c open?)
    (hf : f.type ≠ .close) (hlen : f.payload.length ≤ maxMessageBytes) :
    let v := reassemble maxMessageBytes open? f.toFrame
    observe s socket (b.handleFrame n c f).2.2 = expected v.2 ∧
      Serving s socket (b.handleFrame n c f).1 v.1 := by
  obtain ⟨type, final, payload⟩ := f
  have hserving : Serving s socket b open? := ⟨hactive, hsink, c, hc, hholds⟩
  cases type with
  | ping =>
      simp only [BindingState.handleFrame, observe_append, BindingState.notifyActivity]
      rw [observe_activity s socket (by simp)]
      exact ⟨rfl, hserving⟩
  | pong =>
      simp only [BindingState.handleFrame, BindingState.notifyActivity]
      rw [observe_activity s socket (by simp)]
      exact ⟨rfl, hserving⟩
  | close => exact absurd rfl hf
  | text | binary | continuation | other =>
      exact handleDataFrame_reassemble n hactive hsink hc hholds (by simp [IsControl]) hlen

/-- **One frame.**  What the sink sees of a frame is the reference's verdict,
and the binding goes on serving the reference's next state. -/
theorem receive_reference {s socket : Nat} {b : BindingState}
    {open? : Option (MessageType × Bytes)} (a : Arrival) (h : Serving s socket b open?) :
    (receive s socket b a).2 = (reference open? a).2 ∧
      Serving s socket (receive s socket b a).1 (reference open? a).1 := by
  obtain ⟨hactive, hsink, c, hc, hholds⟩ := h
  have hopen : ¬ (socket : Int) < 0 := Int.not_lt.mpr (Int.natCast_nonneg socket)
  have hframe : b.handleWebSocketRequest a.natives ⟨false, a.handle, socket, a.frame⟩ =
      b.receiveFrame a.natives c a.frame := by
    simp [BindingState.handleWebSocketRequest, BindingState.trackedConnection, hactive, hc,
      hopen]
  have hread : (b.receiveFrame a.natives c a.frame).1 =
        (b.handleFrame a.natives c a.frame).1 ∧
      observe s socket (b.receiveFrame a.natives c a.frame).2.2 =
        observe s socket (b.handleFrame a.natives c a.frame).2.2 := by
    simp only [BindingState.receiveFrame, a.headerRead, a.payloadRead,
      Nat.not_lt.mpr a.withinLimit, ne_eq, not_true_eq_false, if_false, observe_append,
      BindingState.notifyActivity]
    rw [observe_activity s socket (by simp), observe_activity s socket (by simp)]
    exact ⟨trivial, rfl⟩
  obtain ⟨hobs, hserving⟩ := handleFrame_reassemble a.natives hactive hsink hc hholds
    a.notClose a.withinLimit
  simp only [receive, reference, hframe, hread.1, hread.2]
  exact ⟨by rw [hobs], hserving⟩

/-- A binding that serves a socket between two messages, as it does from the
creation of the connection on. -/
def BetweenMessages (s socket : Nat) (b : BindingState) : Prop :=
  Serving s socket b none

/-- The fragment buffer of a connection is within the limit, and empty while
no message is open. -/
def BufferSound (c : Connection) : Prop :=
  c.fragmentBuffer.length ≤ maxMessageBytes ∧ (c.fragmenting = false → c.fragmentBuffer = [])

theorem Holds.bufferSound {c : Connection} {open? : Option (MessageType × Bytes)}
    (h : Holds c open?) : BufferSound c := by
  cases open? with
  | none => exact ⟨by simp [h.2], fun _ => h.2⟩
  | some m =>
      obtain ⟨hfrag, -, hbuf, hmax⟩ := h
      exact ⟨hbuf ▸ hmax, fun hno => by simp [hfrag] at hno⟩

/-- **The endpoint reassembles like the reference.**  Over every run of
frames on one connection the messages handed to the sink and the refusals
are, frame by frame, those of the reference reassembler for messages of at
most `maxMessageBytes` bytes, up to the first refusal and past it; and after
every run the fragment buffer is within the limit, and empty while no message
is open. -/
theorem reassembles_like_reference {s socket : Nat} {b : BindingState}
    (h : BetweenMessages s socket b) (arrivals : List Arrival) :
    (Runs.feed (receive s socket) b arrivals).2 = (Runs.feed reference none arrivals).2 ∧
      ∃ c, (Runs.feed (receive s socket) b arrivals).1.findConnection socket = some c ∧
        BufferSound c := by
  obtain ⟨hout, -, -, c, hc, hholds⟩ := Runs.feed_simulation
    (R := Serving s socket) (fun _ _ a hs => receive_reference a hs) h arrivals
  exact ⟨hout, c, hc, hholds.bufferSound⟩

/-- A text message in two fragments around a Ping, on the connection that an
upgrade has just created. -/
theorem fragmented_text_reassembled :
    let upgraded := ((BindingState.make (some 0)).activate.handleUpgrade .allOk (some 1) 7).1
    let arrivals : List Arrival :=
      [⟨⟨.text, false, [72]⟩, some 1, .allOk, by decide, by decide, rfl, rfl⟩,
        ⟨⟨.ping, true, []⟩, some 1, .allOk, by decide, by decide, rfl, rfl⟩,
        ⟨⟨.continuation, true, [105]⟩, some 1, .allOk, by decide, by decide, rfl, rfl⟩]
    (Runs.feed (receive 0 7) upgraded arrivals).2 =
        [⟨[], []⟩, ⟨[], []⟩, ⟨[(.text, [72, 105])], []⟩] ∧
      ∃ c, (Runs.feed (receive 0 7) upgraded arrivals).1.findConnection 7 = some c ∧
        BufferSound c := by
  intro upgraded arrivals
  have h : BetweenMessages 0 7 upgraded :=
    ⟨rfl, rfl, .create (some 1) 7 (some 0), by decide, rfl, rfl⟩
  obtain ⟨hout, hbuffer⟩ := reassembles_like_reference h arrivals
  exact ⟨hout.trans (by decide), hbuffer⟩

end WebSocketEndpoint
