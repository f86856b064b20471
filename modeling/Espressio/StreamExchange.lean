import Espressio.StreamDelivery

/-!
# From one transport to another

What `Send` of one transport was given reaches the receiver of the other.  The
sender and the receiver are runs of any two of the three stream transports; the
stream between them carries what the sender wrote to a connection, and the
receiver has read a beginning of it, in chunks of its own.

Three facts are put together: what is written to a connection is intact, what
is decoded is handed on in order, and the socket library's decoder decodes its
frames in whatever chunks it is fed them.
-/

namespace Sockets

open NetworkBytes LockTraces Runs FramedStreams

variable {κ δ : Type*} {lib : Library δ} {es fs : List StreamEvent} {complete : Bool}

/-- A run of one of the three transports: what it did, what it was given for
each connection, and the packets it left waiting.  It is `complete` if it never
dispatches a packet while it has no receiver. -/
inductive Performed (lib : Library δ) (complete : Bool) :
    List StreamEvent → (Nat → List (Bytes × Bool)) → List (Nat × Bytes) → Prop
  | tcpClient (config : ClientConfig Unit) (ops : List (StreamClient.Op Unit))
      (h : Along (tcpClientStep lib) (fun s op => complete = true → s.Receiving op)
        (StreamClient.fresh lib config) ops) :
      Performed lib complete
        (events (feed (tcpClientStep lib) (StreamClient.fresh lib config) ops).2)
        (offered (tcpClientStep lib) StreamClient.Op.packet (StreamClient.fresh lib config) ops)
        (feed (tcpClientStep lib) (StreamClient.fresh lib config) ops).1.completed
  | tls (config : ClientConfig TlsSecurity) (ops : List (StreamClient.Op TlsSecurity))
      (h : Along (tlsStep lib) (fun s op => complete = true → s.Receiving op)
        (StreamClient.fresh lib config) ops) :
      Performed lib complete
        (events (feed (tlsStep lib) (StreamClient.fresh lib config) ops).2)
        (offered (tlsStep lib) StreamClient.Op.packet (StreamClient.fresh lib config) ops)
        (feed (tlsStep lib) (StreamClient.fresh lib config) ops).1.completed
  | tcpServer (slots : Nat) (config : ServerConfig) (ops : List StreamServer.Op)
      (h : Along (StreamServer.step lib) (fun s op => complete = true → s.Receiving op)
        (StreamServer.fresh lib slots config) ops) :
      Performed lib complete
        (events (feed (StreamServer.step lib) (StreamServer.fresh lib slots config) ops).2)
        (offered (StreamServer.step lib) StreamServer.Op.packet
          (StreamServer.fresh lib slots config) ops)
        (feed (StreamServer.step lib) (StreamServer.fresh lib slots config) ops).1.completed

variable {offers returns : Nat → List (Bytes × Bool)} {waiting pending : List (Nat × Bytes)}
  {ignored : Bool}

theorem Performed.accounted (h : Performed lib complete es offers pending) :
    Accounted lib complete es offers pending := by
  cases h with
  | tcpClient config ops h => exact client_accounted _ lib config ops h
  | tls config ops h => exact client_accounted _ lib config ops h
  | tcpServer slots config ops h => exact server_accounted lib slots config ops h

/-! ### A client and a server -/

/-- Frames that begin with the length of their packet. -/
def lengthFrame (packet : Bytes) : Bytes := packet.length.toUInt8 :: packet

/-- The state is what of a frame is missing and what of it there is. -/
def lengthNext : Option (Nat × Bytes) → UInt8 → Option (Nat × Bytes) × List Bytes
  | none, length => (some (length.toNat, []), [])
  | some (missing, got), byte =>
      if missing ≤ 1 then (none, [got ++ [byte]]) else (some (missing - 1, got ++ [byte]), [])

def lengthLibrary : Library (Option (Nat × Bytes)) :=
  ⟨255, lengthFrame, ⟨none, feed lengthNext, fun _ _ => true⟩⟩

theorem feed_lengthNext (got : Bytes) (byte : UInt8) (bytes : Bytes) :
    feed lengthNext (some (bytes.length + 1, got)) (byte :: bytes) =
      (none, [got ++ byte :: bytes]) := by
  induction bytes generalizing got byte with
  | nil => rfl
  | cons next bytes ih =>
      rw [feed_cons]
      have hmore : lengthNext (some ((next :: bytes).length + 1, got)) byte =
          (some (bytes.length + 1, got ++ [byte]), []) := by
        simp [lengthNext]
      rw [hmore, ih]
      simp

theorem lengthLibrary_decodes : Decodes lengthLibrary.buildFrame (Sendable lengthLibrary)
    lengthLibrary.decoder.push lengthLibrary.decoder.initial := by
  apply decodes_of_elementwise
  intro packet hpacket
  obtain ⟨-, hlength⟩ := Option.filter_eq_some_iff.mp hpacket
  simp only [ne_eq, Bool.and_eq_true, decide_eq_true_eq] at hlength
  obtain ⟨hnonempty, hshort⟩ := hlength
  cases packet with
  | nil => exact absurd rfl hnonempty
  | cons byte bytes =>
      have hcount : ((byte :: bytes).length.toUInt8).toNat = bytes.length + 1 := by
        have hmax : bytes.length + 1 ≤ 255 := hshort
        simp
        omega
      change feed lengthNext none (_ :: byte :: bytes) = _
      rw [feed_cons, lengthNext, hcount, feed_lengthNext]
      rfl

/-- A client that connects and sends two packets. -/
def sampleClientOps : List (StreamClient.Op Unit) :=
  [.initializeTransport ⟨[104], 80, 0, ()⟩ true, .send (some [7]) ⟨true, 0, true⟩ true,
    .send (some [8, 9]) ⟨true, 0, true⟩ true]

/-- A server that accepts it and reads their frames in two chunks. -/
def sampleServerOps : List StreamServer.Op :=
  [.initializeTransport ⟨80, 1⟩ true, .setReceiver (some 5),
    .iterate ⟨true, fun _ => false, fun _ => true,
      fun _ => [⟨[1, 7, 2], by decide⟩, ⟨[8, 9], by decide⟩]⟩, .dispatch]

def sampleClient : StreamClient Unit (Option (Nat × Bytes)) :=
  StreamClient.fresh lengthLibrary ⟨[], 0, 0, ()⟩

def sampleServer : StreamServer (Option (Nat × Bytes)) :=
  StreamServer.fresh lengthLibrary 4 ⟨0, 0⟩

def sampleClientRan := feed (tcpClientStep lengthLibrary) sampleClient sampleClientOps

def sampleServerRan := feed (StreamServer.step lengthLibrary) sampleServer sampleServerOps

/-- What the client was given for each connection. -/
def sampleOffers : Nat → List (Bytes × Bool) :=
  offered (tcpClientStep lengthLibrary) StreamClient.Op.packet sampleClient sampleClientOps

theorem sampleClient_performed : Performed lengthLibrary true (events sampleClientRan.2)
    sampleOffers sampleClientRan.1.completed :=
  Performed.tcpClient ⟨[], 0, 0, ()⟩ sampleClientOps
    (by simp [sampleClientOps, Along, StreamClient.Receiving])

theorem sampleServer_performed : Performed lengthLibrary true (events sampleServerRan.2)
    (offered (StreamServer.step lengthLibrary) StreamServer.Op.packet sampleServer sampleServerOps)
    sampleServerRan.1.completed :=
  Performed.tcpServer 4 ⟨0, 0⟩ sampleServerOps (by
    refine ⟨?_, ?_, ?_, fun _ _ => ?_, trivial⟩
    · simp [StreamServer.Receiving]
    · simp [StreamServer.Receiving]
    · simp [StreamServer.Receiving]
    · decide)

theorem sampleOffers_first : sampleOffers 0 = [([7], true), ([8, 9], true)] := by decide

theorem sampleWire : OnWire lengthLibrary.buildFrame (sampleOffers 0) [1, 7, 2, 8, 9] := by
  rw [sampleOffers_first]
  exact OnWire.whole (OnWire.whole OnWire.nil)

theorem sampleRead :
    (chunksOf 0 (events sampleServerRan.2)).flatten <+: ([1, 7, 2, 8, 9] : Bytes) := by decide

/-! ### Results -/

/-- **Streams stay in step.**  In every run of each of the transports what is
written to a connection is frames of packets `Send` was given, and no frame
follows one that did not go out whole. -/
theorem writes_stay_in_step (h : Performed lib complete es offers pending) (c : Nat) :
    writesTo c es = ((offers c).map fun x => (lib.buildFrame x.1, x.2)) ∧
      (∀ x ∈ offers c, Sendable lib x.1) ∧
      ∀ (i j : Nat) (x y : Bytes × Bool), i < j → (offers c)[i]? = some x →
        (offers c)[j]? = some y → x.2 = true := by
  obtain ⟨hwrites, hsendable, hintact, -⟩ := h.accounted
  refine ⟨hwrites c, hsendable c, ?_⟩
  intro i j x y hij hx hy
  obtain ⟨hi, rfl⟩ := List.getElem?_eq_some_iff.mp hx
  obtain ⟨hj, -⟩ := List.getElem?_eq_some_iff.mp hy
  exact List.pairwise_iff_getElem.mp (hintact c) i j hi hj hij

theorem sample_writes_stay_in_step :
    writesTo 0 (events sampleClientRan.2) =
        ((sampleOffers 0).map fun x => (lengthLibrary.buildFrame x.1, x.2)) ∧
      (∀ x ∈ sampleOffers 0, Sendable lengthLibrary x.1) ∧
      ∀ (i j : Nat) (x y : Bytes × Bool), i < j → (sampleOffers 0)[i]? = some x →
        (sampleOffers 0)[j]? = some y → x.2 = true :=
  writes_stay_in_step sampleClient_performed 0

/-- **In order, and at most once.**  Let any transport write to a connection
`a`, and let another have read, in whatever chunks, a beginning of that stream
as its connection `b`.  What was dispatched from `b` are packets `Send` was
given for `a`, in their order and each at most once; and so it is with those
that wait for their dispatch behind them. -/
theorem exchange_in_order
    (hlib : Decodes lib.buildFrame (Sendable lib) lib.decoder.push lib.decoder.initial)
    (hsender : Performed lib ignored es offers waiting)
    (hreceiver : Performed lib complete fs returns pending) {a b : Nat} {wire : Bytes}
    (hwire : OnWire lib.buildFrame (offers a) wire) (hread : (chunksOf b fs).flatten <+: wire) :
    (deliveredFrom b fs ++ pendingFrom b pending).Sublist ((offers a).map Prod.fst) := by
  obtain ⟨-, hsendable, hintact, -⟩ := hsender.accounted
  have hdecoded : (decoded lib.decoder b fs).2 <+: (offers a).map Prod.fst :=
    hlib.of_wire (hsendable a) (hintact a) hwire hread
  exact (hreceiver.accounted.inOrder b).sublist.trans hdecoded.sublist

theorem sample_exchange_in_order :
    (deliveredFrom 0 (events sampleServerRan.2) ++
      pendingFrom 0 sampleServerRan.1.completed).Sublist ((sampleOffers 0).map Prod.fst) :=
  exchange_in_order lengthLibrary_decodes sampleClient_performed sampleServer_performed sampleWire
    sampleRead

/-- **Nothing is lost on the way.**  If the receiving transport had a receiver
whenever it dispatched a packet, the packets dispatched and those waiting are
the first ones given to `Send`; and they are all of them once a stream of whole
frames has been read to its end. -/
theorem exchange_complete
    (hlib : Decodes lib.buildFrame (Sendable lib) lib.decoder.push lib.decoder.initial)
    (hsender : Performed lib ignored es offers waiting)
    (hreceiver : Performed lib true fs returns pending) {a b : Nat} {wire : Bytes}
    (hwire : OnWire lib.buildFrame (offers a) wire) (hread : (chunksOf b fs).flatten <+: wire) :
    deliveredFrom b fs ++ pendingFrom b pending <+: (offers a).map Prod.fst ∧
      ((∀ x ∈ offers a, x.2 = true) → (chunksOf b fs).flatten = wire →
        deliveredFrom b fs ++ pendingFrom b pending = (offers a).map Prod.fst) := by
  obtain ⟨-, hsendable, hintact, -⟩ := hsender.accounted
  have hhanded : deliveredFrom b fs ++ pendingFrom b pending = (decoded lib.decoder b fs).2 :=
    hreceiver.accounted.inOrder b
  rw [hhanded]
  refine ⟨hlib.of_wire (hsendable a) (hintact a) hwire hread, fun hwhole hall => ?_⟩
  exact hlib.of_whole_wire (hsendable a) hwhole hwire hall

theorem sample_exchange_complete :
    deliveredFrom 0 (events sampleServerRan.2) ++ pendingFrom 0 sampleServerRan.1.completed <+:
        (sampleOffers 0).map Prod.fst ∧
      ((∀ x ∈ sampleOffers 0, x.2 = true) →
        (chunksOf 0 (events sampleServerRan.2)).flatten = ([1, 7, 2, 8, 9] : Bytes) →
        deliveredFrom 0 (events sampleServerRan.2) ++ pendingFrom 0 sampleServerRan.1.completed =
          (sampleOffers 0).map Prod.fst) :=
  exchange_complete lengthLibrary_decodes sampleClient_performed sampleServer_performed sampleWire
    sampleRead

/-! ### Broadcasts -/

/-- What comes of one packet the server sends: the answer, and slot by slot what
is written and what is left. -/
def Broadcasts (s : StreamServer δ) (frame : Bytes) (alive whole : Nat → Bool)
    (sent : StreamServer δ × Bool × List StreamAction) : Prop :=
  (sent.2.1 = true ↔
    (∃ (i : Nat) (a : ClientState δ), s.clients[i]? = some a ∧ a.reached (alive i) = true) ∧
      ∀ (i : Nat) (a : ClientState δ), s.clients[i]? = some a → a.reached (alive i) = true →
        whole i = true) ∧
  (∀ (i : Nat) (a : ClientState δ), s.clients[i]? = some a →
    sent.1.clients[i]? = some (a.afterSend (alive i) (whole i)) ∧
      ∀ c, a.connection = some c → writesTo c (events sent.2.2) =
        if a.reached (alive i) then [(frame, whole i)] else []) ∧
  ∀ c, (∀ a ∈ s.clients, a.connection ≠ some c) → writesTo c (events sent.2.2) = []

/-- A transport that is not initialized does not listen, and has no client. -/
def Unused (s : StreamServer δ) : Prop :=
  s.initialized = false → s.listening = false ∧ s.running = false ∧
    ∀ a ∈ s.clients, a.connection = none

theorem Unused.step {s : StreamServer δ} (h : Unused s) (op : StreamServer.Op) :
    Unused (s.step lib op).1 := by
  cases op with
  | initializeTransport config started =>
      simp only [StreamServer.step, StreamServer.initializeTransport]
      split
      · exact h
      · rename_i hno
        obtain ⟨-, hrunning, hnone⟩ := h (by simpa using hno)
        split
        · exact h
        · split
          · exact fun _ => ⟨rfl, hrunning, hnone⟩
          · exact fun hno => absurd hno.symm Bool.false_ne_true
  | shutdown =>
      simp only [StreamServer.step, StreamServer.shutdown]
      split
      · exact h
      · refine fun _ => ⟨rfl, rfl, fun a ha => ?_⟩
        obtain ⟨c, -, rfl⟩ := List.mem_map.mp ha
        rfl
  | iterate natives =>
      simp only [StreamServer.step, StreamServer.iterate]
      split
      · exact h
      · rename_i hruns
        intro hno
        have hunused : s.initialized = false := by
          revert hno
          unfold StreamServer.acceptClientsLocked
          split <;> exact id
        obtain ⟨-, hrunning, -⟩ := h hunused
        rw [hrunning] at hruns
        simp at hruns
  | dispatch =>
      simp only [StreamServer.step, StreamServer.dispatch]
      split <;> exact h
  | send packet alive whole =>
      simp only [StreamServer.step, StreamServer.send]
      split
      · rename_i hinitialized _
        split
        · exact h
        · exact fun hno => absurd hinitialized (by simpa using hno)
      · exact h
  | setReceiver receiver => exact h
  | getConnectedClientCount alive => exact h

/-- **A broadcast**, from any state a run leads to.  The frame is written once
to every slot whose client is connected, however the writes before it went, and
to no other connection; a client it was not written whole to is dropped, and the
other slots are as they were.  The answer is true if there was a client and all
writes were whole. -/
theorem server_broadcasts (lib : Library δ) (slots : Nat) (config : ServerConfig)
    (ops : List StreamServer.Op) {packet : Option Bytes} {data : Bytes}
    (hpacket : sendable lib.maximumPacketSize packet = some data)
    (hframe : lib.buildFrame data ≠ []) (alive whole : Nat → Bool) :
    let s := (feed (StreamServer.step lib) (StreamServer.fresh lib slots config) ops).1
    Broadcasts s (lib.buildFrame data) alive whole (s.send lib packet alive whole) := by
  intro s
  have halways : Along (StreamServer.step lib) (fun s op => false = true → s.Receiving op)
      (StreamServer.fresh lib slots config) ops :=
    Along.of_always (fun _ _ h => absurd h Bool.false_ne_true) _ _
  have hapart : s.clients.Pairwise Apart := (server_run lib slots config ops halways).1.apart
  have hfresh : Unused (StreamServer.fresh lib slots config) := by
    refine fun _ => ⟨rfl, rfl, fun a ha => ?_⟩
    rw [List.eq_of_mem_replicate ha]
  have hstep : ∀ (t : StreamServer δ) op, Unused t → Unused (t.step lib op).1 :=
    fun _ op ht => ht.step op
  have hunused : Unused s := feed_keeps hstep hfresh ops
  cases hinitialized : s.initialized with
  | false =>
      obtain ⟨-, -, hnone⟩ := hunused hinitialized
      have hreached : ∀ (i : Nat) (a : ClientState δ), s.clients[i]? = some a →
          a.reached (alive i) = false := by
        intro i a ha
        simp [ClientState.reached, ClientState.connected, hnone a (List.mem_of_getElem? ha)]
      have hsent : s.send lib packet alive whole = (s, false, []) := by
        rw [StreamServer.send, hinitialized]
      rw [hsent]
      refine ⟨iff_of_false Bool.false_ne_true ?_, fun i a ha => ⟨?_, fun c hc => ?_⟩,
        fun _ _ => rfl⟩
      · intro hclient
        obtain ⟨⟨i, a, ha, hyes⟩, -⟩ := hclient
        rw [hreached i a ha] at hyes
        cases hyes
      · simp [ClientState.afterSend, hreached i a ha, ha]
      · rw [hnone a (List.mem_of_getElem? ha)] at hc
        cases hc
  | true =>
      have hsent : s.send lib packet alive whole =
          let all := StreamServer.sendAll (lib.buildFrame data) alive whole 0 s.clients
          ({ s with clients := all.1 }, all.2.2.1 && all.2.2.2, underClient all.2.1) := by
        rw [StreamServer.send, hpacket, hinitialized]
        exact if_neg hframe
      rw [hsent]
      obtain ⟨hhad, hall⟩ := sendAll_answer (lib.buildFrame data) alive whole 0 s.clients
      refine ⟨?_, ?_, ?_⟩
      · dsimp only
        rw [Bool.and_eq_true, hhad, hall]
        simp only [List.mem_zipIdx_iff_getElem?, Prod.exists, Prod.forall]
        exact and_congr exists_comm forall_comm
      · intro i a hi
        dsimp only
        refine ⟨?_, fun c hc => ?_⟩
        · rw [sendAll_clients, List.getElem?_map, List.getElem?_zipIdx, hi]
          simp
        · rw [events_underClient, sendAll_writes_slot _ alive whole 0 hapart hi hc, Nat.zero_add]
      · intro c hc
        dsimp only
        rw [events_underClient, sendAll_writes_none _ alive whole 0 hc]

theorem sample_broadcasts :
    Broadcasts sampleServerRan.1 (lengthLibrary.buildFrame [3]) (fun _ => true) (fun _ => false)
      (sampleServerRan.1.send lengthLibrary (some [3]) (fun _ => true) fun _ => false) :=
  server_broadcasts lengthLibrary 4 ⟨0, 0⟩ sampleServerOps (by decide) (by decide) _ _

end Sockets
