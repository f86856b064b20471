import Espressio.LockTraces
import Espressio.NetworkBytes

/-!
# Event transports over a byte stream

What `TCPClientEventTransport`, `TLSEventTransport` and
`TCPServerEventTransport` share.  Packets travel as frames; a decoder is fed
the chunks read from a connection, of any lengths up to the buffer's, and hands
out the packets they complete.

Every connection made has a number of its own.  The numbers are not in the
source: they say which connection a client object stands for at the moment, and
with it where a chunk was read and from which connection's bytes a packet came.
-/

namespace Sockets

open NetworkBytes LockTraces Runs

/-- `SocketEventFrameDecoder`: its state after `Reset`, what `Push` does to it
and the packets it hands out, and the answer of `Push`. -/
structure FrameDecoder (δ : Type*) where
  initial : δ
  push : δ → Bytes → δ × List Bytes
  valid : δ → Bytes → Bool

/-- What the socket library provides. -/
structure Library (δ : Type*) where
  maximumPacketSize : Nat
  buildFrame : Bytes → Bytes
  decoder : FrameDecoder δ

/-- The data of a packet `Send` does not refuse.  `none` is a null pointer. -/
def sendable (maximumPacketSize : Nat) (packet : Option Bytes) : Option Bytes :=
  packet.filter fun data => data ≠ [] && data.length ≤ maximumPacketSize

/-- Calls that set up the security of a client. -/
inductive SecurityCall
  | setInsecure
  | setCACert (certificate : Bytes)
  | setCertificate (certificate : Bytes)
  | setPrivateKey (key : Bytes)
  deriving DecidableEq, Repr

/-- What a transport does besides taking and leaving its mutexes. -/
inductive StreamEvent
  | configure (call : SecurityCall)
  | connect (host : Bytes) (port : UInt16) (connection : Option Nat)
  | accept (connection : Nat)
  | stop (connection : Option Nat)
  | read (connection : Nat) (chunk : Bytes)
  | write (connection : Nat) (frame : Bytes) (whole : Bool)
  | deliver (receiver : Nat) (connection : Nat) (packet : Bytes)
  deriving DecidableEq, Repr

/-- The two mutexes of a stream transport: that of its client or clients, and
that of its receiver. -/
inductive StreamMutex
  | client
  | receiver
  deriving DecidableEq, Repr

abbrev StreamAction := Action StreamMutex StreamEvent

/-- A scope under the mutex of the client or clients. -/
def underClient (es : List StreamEvent) : List StreamAction :=
  guarded .client (es.map Action.event)

/-- The bytes one `read` returned; the buffer holds 512.  No bytes stand for a
count that is not positive. -/
structure Chunk where
  bytes : Bytes
  fits : bytes.length ≤ 512

/-- What reading a client leaves behind. -/
structure ReadOutcome (δ : Type*) where
  decoder : δ
  events : List StreamEvent
  completed : List Bytes
  stopped : Bool

variable {δ : Type*}

/-- The loop that reads a client as long as there is something available. -/
def readLoop (d : FrameDecoder δ) (connection : Nat) : δ → List Chunk → ReadOutcome δ
  | decoder, [] => ⟨decoder, [], [], false⟩
  | decoder, chunk :: rest =>
      if chunk.bytes = [] then ⟨decoder, [], [], false⟩
      else
        let pushed := d.push decoder chunk.bytes
        if !d.valid decoder chunk.bytes then
          ⟨pushed.1, [.read connection chunk.bytes, .stop (some connection)], pushed.2, true⟩
        else
          let outcome := readLoop d connection pushed.1 rest
          ⟨outcome.decoder, .read connection chunk.bytes :: outcome.events,
            pushed.2 ++ outcome.completed, outcome.stopped⟩

/-- `DispatchPacket`.  The receiver is called outside the scope. -/
def dispatchPacket (receiver : Option Nat) (connection : Nat) (packet : Bytes) :
    List StreamAction :=
  guarded .receiver [] ++
    (receiver.toList.map fun r => StreamEvent.deliver r connection packet).map Action.event

/-! ### The bytes of one connection -/

/-- The chunks read from one connection, in order. -/
def chunksOf (connection : Nat) (es : List StreamEvent) : List Bytes :=
  es.filterMap fun
    | .read c chunk => if c = connection then some chunk else none
    | _ => none

/-- A fresh decoder fed the chunks of one connection: its state and the packets
it hands out. -/
def decoded (d : FrameDecoder δ) (connection : Nat) (es : List StreamEvent) : δ × List Bytes :=
  feed d.push d.initial (chunksOf connection es)

variable {d : FrameDecoder δ} {c : Nat} {es fs : List StreamEvent}

@[simp] theorem chunksOf_append : chunksOf c (es ++ fs) = chunksOf c es ++ chunksOf c fs := by
  simp [chunksOf]

theorem chunksOf_eq_nil (h : ∀ e ∈ es, ∀ chunk, e ≠ .read c chunk) : chunksOf c es = [] := by
  rw [chunksOf, List.filterMap_eq_nil_iff]
  intro e he
  cases e with
  | read other chunk =>
      have hne : other ≠ c := by
        rintro rfl
        exact h _ he chunk rfl
      simp [hne]
  | _ => rfl

/-- Reading on only adds packets. -/
theorem decoded_packets_mono {p : Bytes} (h : p ∈ (decoded d c es).2) :
    p ∈ (decoded d c (es ++ fs)).2 := by
  rw [decoded, chunksOf_append, feed_append]
  exact List.mem_append_left _ h

/-- The events of a read loop are the chunks it fed to the decoder. -/
theorem readLoop_events (decoder : δ) (chunks : List Chunk) {e : StreamEvent}
    (h : e ∈ (readLoop d c decoder chunks).events) :
    (∃ chunk, e = .read c chunk) ∨ e = .stop (some c) := by
  induction chunks generalizing decoder with
  | nil => cases h
  | cons chunk rest ih =>
      simp only [readLoop] at h
      split_ifs at h
      · cases h
      · rcases List.mem_cons.mp h with rfl | hstop
        · exact Or.inl ⟨_, rfl⟩
        · exact Or.inr (List.mem_singleton.mp hstop)
      · rcases List.mem_cons.mp h with rfl | hrest
        · exact Or.inl ⟨_, rfl⟩
        · exact ih _ hrest

/-- Nothing is dispatched. -/
def Undelivered (es : List StreamEvent) : Prop := ∀ r c p, StreamEvent.deliver r c p ∉ es

theorem Undelivered.append (h : Undelivered es) (hf : Undelivered fs) : Undelivered (es ++ fs) := by
  intro r c p hmem
  rcases List.mem_append.mp hmem with hfirst | hrest
  · exact h r c p hfirst
  · exact hf r c p hrest

theorem readLoop_undelivered (c : Nat) (decoder : δ) (chunks : List Chunk) :
    Undelivered (readLoop d c decoder chunks).events := by
  intro r other p hmem
  rcases readLoop_events decoder chunks hmem with ⟨chunk, hread⟩ | hstop
  · cases hread
  · cases hstop

/-- The read loop feeds the decoder what it reads, and nothing else. -/
theorem readLoop_feed (decoder : δ) (chunks : List Chunk) :
    feed d.push decoder (chunksOf c (readLoop d c decoder chunks).events) =
      ((readLoop d c decoder chunks).decoder, (readLoop d c decoder chunks).completed) := by
  induction chunks generalizing decoder with
  | nil => rfl
  | cons chunk rest ih =>
      simp only [readLoop]
      split_ifs
      · rfl
      · simp [chunksOf, feed_cons]
      · have hrest := ih (d.push decoder chunk.bytes).1
        simp only [chunksOf, List.filterMap_cons, ↓reduceIte] at hrest ⊢
        rw [feed_cons, hrest]

/-- **Reading one connection.**  If the decoder has been fed what was read from
the connection so far, it still has after the loop, and the packets completed
are packets of that connection. -/
theorem readLoop_decoded {decoder : δ} (h : decoder = (decoded d c es).1) (chunks : List Chunk) :
    (readLoop d c decoder chunks).decoder =
        (decoded d c (es ++ (readLoop d c decoder chunks).events)).1 ∧
      ∀ p ∈ (readLoop d c decoder chunks).completed,
        p ∈ (decoded d c (es ++ (readLoop d c decoder chunks).events)).2 := by
  have hall : decoded d c (es ++ (readLoop d c decoder chunks).events) =
      ((readLoop d c decoder chunks).decoder,
        (decoded d c es).2 ++ (readLoop d c decoder chunks).completed) := by
    have hfeed : feed d.push (decoded d c es).1
        (chunksOf c (readLoop d c decoder chunks).events) =
          ((readLoop d c decoder chunks).decoder, (readLoop d c decoder chunks).completed) :=
      h ▸ readLoop_feed decoder chunks
    rw [decoded] at hfeed ⊢
    rw [chunksOf_append, feed_append, hfeed]
    rfl
  rw [hall]
  exact ⟨rfl, fun p hp => List.mem_append_right _ hp⟩

/-- Reading one connection leaves the others alone. -/
theorem chunksOf_readLoop_other {other : Nat} (hne : other ≠ c) (decoder : δ)
    (chunks : List Chunk) : chunksOf other (readLoop d c decoder chunks).events = [] := by
  apply chunksOf_eq_nil
  rintro e he chunk rfl
  rcases readLoop_events decoder chunks he with ⟨_, hread⟩ | hstop
  · cases hread
    exact hne rfl
  · cases hstop

end Sockets
