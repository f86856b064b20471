import Espressio.StreamWrites

/-!
# What a transport hands on

`writesTo_feed` says what is written to a connection in terms of the packets
`Send` was given: their frames, in order.

On the other side the decoder of a connection has been fed that connection's
bytes, and the packets it hands out are queued and dispatched in their order.
`InOrder` keeps account of them, from the decoder to the receiver: a packet is
lost on the way only if there is no receiver at its dispatch.  `complete` says
that this does not happen.

Both are shown of each transport operation by operation, and put together for
whole runs in `Accounted`.
-/

namespace Sockets

open NetworkBytes LockTraces Runs FramedStreams

variable {κ δ : Type*} {lib : Library δ} {d : FrameDecoder δ} {es fs : List StreamEvent}
  {completed : List (Nat × Bytes)} {complete : Bool}

/-! ### What was given to a connection -/

/-- The packets `Send` does not refuse. -/
def Sendable (lib : Library δ) (data : Bytes) : Prop :=
  sendable lib.maximumPacketSize (some data) = some data

section Offers

variable {σ ε : Type*}

/-- The packet a step wrote to a connection, with whether it went out whole. -/
def offersTo (f : σ → ε → σ × List StreamAction) (packetOf : ε → Option Bytes) (c : Nat)
    (x : σ × ε) : List (Bytes × Bool) :=
  match packetOf x.2 with
  | some data => (writesTo c (events (f x.1 x.2).2)).map fun w => (data, w.2)
  | none => []

/-- The packets a run wrote to a connection. -/
def offered (f : σ → ε → σ × List StreamAction) (packetOf : ε → Option Bytes) (s : σ)
    (ops : List ε) (c : Nat) : List (Bytes × Bool) :=
  (trace f s ops).flatMap (offersTo f packetOf c)

/-- What a step writes is the frame of the packet it was given. -/
def WritesFrames (lib : Library δ) (f : σ → ε → σ × List StreamAction)
    (packetOf : ε → Option Bytes) : Prop :=
  ∀ s e c, ∀ w ∈ writesTo c (events (f s e).2),
    ∃ data, packetOf e = some data ∧ Sendable lib data ∧ w.1 = lib.buildFrame data

variable {f : σ → ε → σ × List StreamAction} {packetOf : ε → Option Bytes}

theorem offered_cons (s : σ) (e : ε) (ops : List ε) (c : Nat) :
    offered f packetOf s (e :: ops) c =
      offersTo f packetOf c (s, e) ++ offered f packetOf (f s e).1 ops c := rfl

/-- The frames written to a connection are those of the packets given to it. -/
theorem writesTo_feed (h : WritesFrames lib f packetOf) (s : σ) (ops : List ε) (c : Nat) :
    writesTo c (events (feed f s ops).2) =
      (offered f packetOf s ops c).map fun x => (lib.buildFrame x.1, x.2) := by
  induction ops generalizing s with
  | nil => rfl
  | cons e ops ih =>
      rw [feed_cons, events_append, writesTo_append, ih, offered_cons, List.map_append]
      congr 1
      cases hpacket : packetOf e with
      | none =>
          have hnone : writesTo c (events (f s e).2) = [] := by
            rw [List.eq_nil_iff_forall_not_mem]
            intro w hw
            obtain ⟨data, hdata, -⟩ := h s e c w hw
            simp [hpacket] at hdata
          simp [offersTo, hpacket, hnone]
      | some data =>
          simp only [offersTo, hpacket, List.map_map]
          refine (List.map_id _).symm.trans (List.map_congr_left fun w hw => ?_)
          obtain ⟨data', hdata, -, hframe⟩ := h s e c w hw
          rw [hpacket] at hdata
          cases hdata
          exact Prod.ext hframe rfl

theorem offered_sendable (h : WritesFrames lib f packetOf) (s : σ) (ops : List ε) (c : Nat) :
    ∀ x ∈ offered f packetOf s ops c, Sendable lib x.1 := by
  intro x hx
  obtain ⟨y, -, hy⟩ := List.mem_flatMap.mp hx
  unfold offersTo at hy
  split at hy
  · rename_i data hpacket
    obtain ⟨w, hw, rfl⟩ := List.mem_map.mp hy
    obtain ⟨data', hdata, hsendable, -⟩ := h y.1 y.2 c w hw
    rw [hpacket] at hdata
    cases hdata
    exact hsendable
  · cases hy

/-- If the frames were written intact the packets were. -/
theorem offered_intact (h : WritesFrames lib f packetOf) (s : σ) (ops : List ε) (c : Nat)
    (hintact : Intact (writesTo c (events (feed f s ops).2))) :
    Intact (offered f packetOf s ops c) := by
  rw [writesTo_feed h, Intact, List.pairwise_map] at hintact
  exact hintact

end Offers

/-- The packet a client's operation is to send. -/
def StreamClient.Op.packet : StreamClient.Op κ → Option Bytes
  | .send packet _ _ => packet
  | _ => none

/-- The packet a server's operation is to send. -/
def StreamServer.Op.packet : StreamServer.Op → Option Bytes
  | .send packet _ _ => packet
  | _ => none

theorem eq_of_sendable {packet : Option Bytes} {data : Bytes}
    (h : sendable lib.maximumPacketSize packet = some data) :
    packet = some data ∧ Sendable lib data := by
  obtain ⟨hpacket, hkept⟩ := Option.filter_eq_some_iff.mp h
  exact ⟨hpacket, Option.filter_eq_some_iff.mpr ⟨rfl, hkept⟩⟩

theorem Unwriting.forall_writes (h : Unwriting es) (c : Nat) {P : Bytes × Bool → Prop} :
    ∀ w ∈ Sockets.writesTo c es, P w := by
  intro w hw
  rw [h.writesTo] at hw
  cases hw

theorem client_writesFrames (configureSecurity : κ → List SecurityCall) (lib : Library δ) :
    WritesFrames lib (StreamClient.step configureSecurity lib) StreamClient.Op.packet := by
  intro s op
  cases op with
  | initializeTransport config started => exact fun c => Unwriting.forall_writes unwriting_nil c
  | shutdown =>
      refine fun c => Unwriting.forall_writes ?_ c
      simp only [StreamClient.step, StreamClient.shutdown]
      split_ifs
      · exact unwriting_nil
      · simp [Unwriting]
  | iterate natives reads =>
      refine fun c => Unwriting.forall_writes ?_ c
      simp only [StreamClient.step, StreamClient.iterate]
      split_ifs
      · exact unwriting_nil
      · rw [events_underClient, StreamClient.readClientLocked]
        have hquiet := unwriting_ensureConnectedLocked configureSecurity lib s natives
        generalize s.ensureConnectedLocked configureSecurity lib natives = outcome at hquiet
        obtain ⟨t, connected, fs⟩ := outcome
        dsimp only at hquiet ⊢
        split
        · exact hquiet.append (readLoop_unwriting _ _ _ _)
        · exact hquiet
  | dispatch =>
      refine fun c => Unwriting.forall_writes ?_ c
      simp only [StreamClient.step, StreamClient.dispatch]
      split
      · exact unwriting_nil
      · rw [events_dispatchPacket]
        simp [Unwriting]
  | send packet natives whole =>
      intro c w hw
      simp only [StreamClient.step, StreamClient.send] at hw
      split at hw
      · rename_i data _ hdata
        obtain ⟨hpacket, hsendable⟩ := eq_of_sendable hdata
        refine ⟨data, hpacket, hsendable, ?_⟩
        have hquiet := unwriting_ensureConnectedLocked configureSecurity lib s natives
        generalize s.ensureConnectedLocked configureSecurity lib natives = outcome at hquiet hw
        obtain ⟨t, connected, fs⟩ := outcome
        dsimp only at hquiet hw
        split at hw
        · cases hw
        · split at hw
          · split at hw
            · rw [events_underClient, writesTo_append, hquiet.writesTo] at hw
              grind [writesTo]
            · rw [events_underClient, writesTo_append, hquiet.writesTo] at hw
              grind [writesTo]
          · rw [events_underClient, hquiet.writesTo] at hw
            cases hw
      · cases hw
  | setReceiver receiver =>
      refine fun c => Unwriting.forall_writes ?_ c
      simp [StreamClient.step, StreamClient.setReceiver, Unwriting]
  | getIsConnected alive =>
      refine fun c => Unwriting.forall_writes ?_ c
      simp [StreamClient.step, StreamClient.getIsConnected, Unwriting]

theorem server_writesFrames (lib : Library δ) :
    WritesFrames lib (StreamServer.step lib) StreamServer.Op.packet := by
  intro s op
  cases op with
  | initializeTransport config started => exact fun c => Unwriting.forall_writes unwriting_nil c
  | shutdown =>
      refine fun c => Unwriting.forall_writes ?_ c
      simp only [StreamServer.step, StreamServer.shutdown]
      split_ifs
      · exact unwriting_nil
      · simp [Unwriting]
  | iterate natives =>
      refine fun c => Unwriting.forall_writes ?_ c
      simp only [StreamServer.step, StreamServer.iterate]
      split_ifs
      · exact unwriting_nil
      · rw [events_underClient]
        refine Unwriting.append ?_ (serveClients_unwriting natives _ 0 _)
        unfold StreamServer.acceptClientsLocked
        split_ifs
        · exact unwriting_nil
        · have haccept : Unwriting [StreamEvent.accept s.connections] := by simp [Unwriting]
          exact haccept.append (place_unwriting _ _ _ _ _)
  | dispatch =>
      refine fun c => Unwriting.forall_writes ?_ c
      simp only [StreamServer.step, StreamServer.dispatch]
      split
      · exact unwriting_nil
      · rw [events_dispatchPacket]
        simp [Unwriting]
  | send packet alive whole =>
      intro c w hw
      simp only [StreamServer.step, StreamServer.send] at hw
      split at hw
      · rename_i data _ hdata
        obtain ⟨hpacket, hsendable⟩ := eq_of_sendable hdata
        refine ⟨data, hpacket, hsendable, ?_⟩
        split at hw
        · cases hw
        · rw [events_underClient, sendAll_writes] at hw
          obtain ⟨x, -, hx⟩ := List.mem_filterMap.mp hw
          split_ifs at hx
          cases hx
          rfl
      · cases hw
  | setReceiver receiver =>
      refine fun c => Unwriting.forall_writes ?_ c
      simp [StreamServer.step, StreamServer.setReceiver, Unwriting]
  | getConnectedClientCount alive =>
      refine fun c => Unwriting.forall_writes ?_ c
      simp [StreamServer.step, StreamServer.getConnectedClientCount, Unwriting]

/-! ### What the receiver is given -/

/-- The packets dispatched from a connection. -/
def deliveredFrom (c : Nat) (es : List StreamEvent) : List Bytes :=
  es.filterMap fun
    | .deliver _ connection packet => if connection = c then some packet else none
    | _ => none

/-- The packets of a connection that are waiting for their dispatch. -/
def pendingFrom (c : Nat) (completed : List (Nat × Bytes)) : List Bytes :=
  completed.filterMap fun x => if x.1 = c then some x.2 else none

@[simp] theorem deliveredFrom_append (c : Nat) (es fs : List StreamEvent) :
    deliveredFrom c (es ++ fs) = deliveredFrom c es ++ deliveredFrom c fs := by
  simp [deliveredFrom]

@[simp] theorem pendingFrom_append (c : Nat) (completed more : List (Nat × Bytes)) :
    pendingFrom c (completed ++ more) = pendingFrom c completed ++ pendingFrom c more := by
  simp [pendingFrom]

theorem Undelivered.deliveredFrom (h : Undelivered es) (c : Nat) : deliveredFrom c es = [] := by
  rw [Sockets.deliveredFrom, List.filterMap_eq_nil_iff]
  intro e he
  cases e with
  | deliver r other packet => exact absurd he (h r other packet)
  | _ => rfl

/-- How what was handed on stands to what was decoded: it is all of it if
nothing was lost, and otherwise what is left when some are struck out. -/
def Handed (complete : Bool) (handed decoded : List Bytes) : Prop :=
  if complete then handed = decoded else handed.Sublist decoded

theorem Handed.append {handed decoded : List Bytes} (h : Handed complete handed decoded)
    (more : List Bytes) : Handed complete (handed ++ more) (decoded ++ more) := by
  cases complete with
  | true => exact congrArg (· ++ more) h
  | false => exact List.Sublist.append_right h more

theorem Handed.sublist {handed decoded : List Bytes} (h : Handed complete handed decoded) :
    handed.Sublist decoded := by
  cases complete with
  | true => exact (h : handed = decoded) ▸ List.Sublist.refl _
  | false => exact h

/-- What was dispatched from a connection, and then what is waiting, against
what its bytes decode to. -/
def InOrder (d : FrameDecoder δ) (complete : Bool) (completed : List (Nat × Bytes))
    (es : List StreamEvent) : Prop :=
  ∀ c, Handed complete (deliveredFrom c es ++ pendingFrom c completed) (decoded d c es).2

theorem inOrder_nil (d : FrameDecoder δ) (complete : Bool) : InOrder d complete [] [] := by
  intro c
  cases complete with
  | true => rfl
  | false => exact List.Sublist.refl _

/-- Packets that are decoded and queued. -/
theorem InOrder.queue (h : InOrder d complete completed es) (hundelivered : Undelivered fs)
    {more : List (Nat × Bytes)}
    (hmore : ∀ c, (decoded d c (es ++ fs)).2 = (decoded d c es).2 ++ pendingFrom c more) :
    InOrder d complete (completed ++ more) (es ++ fs) := by
  intro c
  rw [hmore, deliveredFrom_append, hundelivered.deliveredFrom, List.append_nil,
    pendingFrom_append, ← List.append_assoc]
  exact (h c).append _

theorem InOrder.quiet (h : InOrder d complete completed es) (hquiet : Quiet fs) :
    InOrder d complete completed (es ++ fs) := by
  have hmore : ∀ c, (decoded d c (es ++ fs)).2 = (decoded d c es).2 ++ pendingFrom c [] := by
    intro c
    rw [decoded_append_of_unread (hquiet.chunksOf c)]
    exact (List.append_nil _).symm
  have hqueue := h.queue hquiet.undelivered hmore
  rwa [List.append_nil] at hqueue

/-- The dispatch of the first packet of the queue, which is lost if there is no
receiver. -/
theorem InOrder.dispatch {c : Nat} {packet : Bytes}
    (h : InOrder d complete ((c, packet) :: completed) es) {receiver : Option Nat}
    (hreceiver : complete = true → receiver.isSome = true) :
    InOrder d complete completed (es ++ events (dispatchPacket receiver c packet)) := by
  intro other
  have hbefore := h other
  rw [events_dispatchPacket, deliveredFrom_append,
    decoded_append_of_unread (chunksOf_dispatch other receiver c packet)]
  cases receiver with
  | some r =>
      by_cases hother : c = other
      · simpa [deliveredFrom, pendingFrom, hother] using hbefore
      · simpa [deliveredFrom, pendingFrom, hother] using hbefore
  | none =>
      cases complete with
      | true => exact absurd (hreceiver rfl) Bool.false_ne_true
      | false =>
          refine List.Sublist.trans ?_ hbefore.sublist
          by_cases hother : c = other <;> simp [deliveredFrom, pendingFrom, hother]

/-- What a read loop hands out is what the bytes it read decode to. -/
theorem decoded_readLoop {c : Nat} {decoder : δ} (h : decoder = (decoded d c es).1)
    (chunks : List Chunk) (other : Nat) :
    (decoded d other (es ++ (readLoop d c decoder chunks).events)).2 =
      (decoded d other es).2 ++
        pendingFrom other ((readLoop d c decoder chunks).completed.map fun p => (c, p)) := by
  by_cases hother : other = c
  · subst hother
    have hpending : pendingFrom other ((readLoop d other decoder chunks).completed.map
        fun p => (other, p)) = (readLoop d other decoder chunks).completed := by
      simp [pendingFrom, List.filterMap_map]
    have hfeed := readLoop_feed (d := d) (c := other) decoder chunks
    rw [hpending, decoded, chunksOf_append, feed_append]
    change _ ++ (feed d.push (decoded d other es).1 _).2 = _
    rw [← h, hfeed]
    rfl
  · have hpending : pendingFrom other ((readLoop d c decoder chunks).completed.map
        fun p => (c, p)) = [] := by
      simp [pendingFrom, Ne.symm hother]
    rw [decoded_append_of_unread (chunksOf_readLoop_other hother decoder chunks), hpending,
      List.append_nil]

/-! ### The transports with one client -/

section Client

variable {configureSecurity : κ → List SecurityCall} {s : StreamClient κ δ}

/-- Whatever is dispatched finds a receiver. -/
def StreamClient.Receiving (s : StreamClient κ δ) (op : StreamClient.Op κ) : Prop :=
  op = .dispatch → s.receiver.isSome = true

theorem InOrder.clientIterate (h : InOrder lib.decoder complete s.completed es)
    (hinv : ClientInv lib.decoder s es) (n : ConnectNatives) (reads : List Chunk) :
    InOrder lib.decoder complete (s.iterate configureSecurity lib n reads).1.completed
      (es ++ events (s.iterate configureSecurity lib n reads).2) := by
  unfold StreamClient.iterate
  split_ifs
  · simpa using h
  · obtain ⟨hquiet, hconnected⟩ := hinv.ensureConnected configureSecurity n
    obtain ⟨after, connected, fs, heq, -, hsame, -⟩ :=
      ensureConnectedLocked_cases configureSecurity lib s n
    rw [events_underClient, StreamClient.readClientLocked, heq]
    rw [heq] at hquiet hconnected
    have hbefore : InOrder lib.decoder complete after.completed (es ++ fs) :=
      hsame ▸ h.quiet hquiet
    dsimp only
    split
    · rename_i c hc
      rw [← List.append_assoc]
      exact hbefore.queue (readLoop_undelivered _ _ _)
        (decoded_readLoop (hconnected.fed c hc).2 reads)
    · exact hbefore

theorem InOrder.clientStep (h : InOrder lib.decoder complete s.completed es)
    (hinv : ClientInv lib.decoder s es) (op : StreamClient.Op κ)
    (hreceiving : complete = true → s.Receiving op) :
    InOrder lib.decoder complete (StreamClient.step configureSecurity lib s op).1.completed
      (es ++ events (StreamClient.step configureSecurity lib s op).2) := by
  cases op with
  | initializeTransport config started =>
      simp only [StreamClient.step, events_nil, List.append_nil, StreamClient.initializeTransport]
      split_ifs <;> exact h
  | shutdown =>
      simp only [StreamClient.step, StreamClient.shutdown]
      split_ifs
      · simpa using h
      · rw [events_append, events_underClient, events_guarded, events_nil, List.append_nil]
        exact h.quiet (by simp [Quiet])
  | iterate natives reads => exact h.clientIterate hinv natives reads
  | dispatch =>
      simp only [StreamClient.step, StreamClient.dispatch]
      cases hcompleted : s.completed with
      | nil => simpa [hcompleted] using h
      | cons first rest =>
          rw [hcompleted] at h
          exact h.dispatch fun hcomplete => hreceiving hcomplete rfl
  | send packet natives whole =>
      obtain ⟨after, connected, fs, heq, hquiet, hsame, -⟩ :=
        ensureConnectedLocked_cases configureSecurity lib s natives
      simp only [StreamClient.step, StreamClient.send]
      split
      · split
        · simpa using h
        · rw [heq]
          dsimp only
          have hbefore : InOrder lib.decoder complete after.completed (es ++ fs) :=
            hsame ▸ h.quiet hquiet
          split
          · split
            · rw [events_underClient, ← List.append_assoc]
              exact hbefore.quiet (by simp [Quiet])
            · rw [events_underClient, ← List.append_assoc]
              exact hbefore.quiet (by simp [Quiet])
          · rw [events_underClient]
            exact hbefore
      · simpa using h
  | setReceiver receiver =>
      simp only [StreamClient.step, StreamClient.setReceiver, events_guarded, events_nil,
        List.append_nil]
      exact h
  | getIsConnected alive => simpa [StreamClient.step, StreamClient.getIsConnected] using h

end Client

/-! ### The transport that serves clients -/

section Server

variable {s : StreamServer δ} {slots : List (ClientState δ)}

/-- Whatever is dispatched finds a receiver. -/
def StreamServer.Receiving (s : StreamServer δ) (op : StreamServer.Op) : Prop :=
  op = .dispatch → s.receiver.isSome = true

/-- Serving the slots queues what is decoded. -/
theorem decoded_serveClients (n : ServerNatives) (limit index : Nat)
    (hfed : ∀ a ∈ slots, Fed lib.decoder es a) (hapart : slots.Pairwise Apart) (c : Nat) :
    (decoded lib.decoder c
        (es ++ (StreamServer.serveClients lib n limit index slots).events)).2 =
      (decoded lib.decoder c es).2 ++
        pendingFrom c (StreamServer.serveClients lib n limit index slots).completed := by
  induction slots generalizing es index with
  | nil => simp [StreamServer.serveClients, pendingFrom]
  | cons a slots ih =>
      obtain ⟨hfirst, hrest⟩ := List.forall_mem_cons.mp hfed
      obtain ⟨hapartFirst, hapartRest⟩ := List.pairwise_cons.mp hapart
      unfold StreamServer.serveClients
      split
      · simp [pendingFrom]
      · have hserves := serves_serveClient hfirst (n.alive index) (n.reads index)
        have hone : (decoded lib.decoder c (es ++ (StreamServer.serveClient lib a (n.alive index)
              (n.reads index)).events)).2 = (decoded lib.decoder c es).2 ++
            pendingFrom c (StreamServer.serveClient lib a (n.alive index)
              (n.reads index)).completed := by
          unfold StreamServer.serveClient
          split
          · simp [pendingFrom]
          · split
            · rename_i connection hconnection _
              exact decoded_readLoop (hfirst connection hconnection) _ c
            · rw [decoded_append_of_unread rfl]
              exact (List.append_nil _).symm
        have hfedRest : ∀ b ∈ slots, Fed lib.decoder
            (es ++ (StreamServer.serveClient lib a (n.alive index) (n.reads index)).events) b := by
          intro b hb
          apply (hrest b hb).append
          intro other hother
          apply hserves.unread other
          simpa using fun ha => hapartFirst b hb other ha hother
        have hothers := ih (index + 1) hfedRest hapartRest
        dsimp only
        rw [← List.append_assoc, hothers, hone, pendingFrom_append, List.append_assoc]

theorem InOrder.serverIterate (h : InOrder lib.decoder complete s.completed es)
    (hinv : ServerInv lib.decoder s es) (n : ServerNatives) :
    InOrder lib.decoder complete (s.iterate lib n).1.completed
      (es ++ events (s.iterate lib n).2) := by
  unfold StreamServer.iterate
  split_ifs
  · simpa using h
  · have haccepted := hinv.accept n
    have hbefore : InOrder lib.decoder complete (s.acceptClientsLocked lib n).1.completed
        (es ++ (s.acceptClientsLocked lib n).2) := by
      unfold StreamServer.acceptClientsLocked
      split_ifs
      · simpa using h
      · exact h.quiet (Quiet.cons (fun _ _ => by simp) (fun _ _ _ => by simp)
          (quiet_place _ _ _ _ _))
    rw [events_underClient, ← List.append_assoc]
    exact hbefore.queue (serveClients_undelivered n _ 0 _)
      (decoded_serveClients n _ 0 haccepted.fed haccepted.apart)

theorem InOrder.serverStep (h : InOrder lib.decoder complete s.completed es)
    (hinv : ServerInv lib.decoder s es) (op : StreamServer.Op)
    (hreceiving : complete = true → s.Receiving op) :
    InOrder lib.decoder complete (StreamServer.step lib s op).1.completed
      (es ++ events (StreamServer.step lib s op).2) := by
  cases op with
  | initializeTransport config started =>
      simp only [StreamServer.step, events_nil, List.append_nil, StreamServer.initializeTransport]
      split_ifs <;> exact h
  | shutdown =>
      simp only [StreamServer.step, StreamServer.shutdown]
      split_ifs
      · simpa using h
      · rw [events_append, events_underClient, events_guarded, events_nil, List.append_nil]
        exact h.quiet (by simp [Quiet])
  | iterate natives => exact h.serverIterate hinv natives
  | dispatch =>
      simp only [StreamServer.step, StreamServer.dispatch]
      cases hcompleted : s.completed with
      | nil => simpa [hcompleted] using h
      | cons first rest =>
          rw [hcompleted] at h
          exact h.dispatch fun hcomplete => hreceiving hcomplete rfl
  | send packet alive whole =>
      simp only [StreamServer.step, StreamServer.send]
      split
      · split
        · simpa using h
        · rw [events_underClient]
          exact h.quiet (sendAll_spec _ alive whole 0 s.clients).2
      · simpa using h
  | setReceiver receiver =>
      simp only [StreamServer.step, StreamServer.setReceiver, events_guarded, events_nil,
        List.append_nil]
      exact h
  | getConnectedClientCount alive =>
      simpa [StreamServer.step, StreamServer.getConnectedClientCount] using h

end Server

/-! ### Every run -/

/-- What a run did, `offers` of it to each connection, and what it left
`pending`. -/
structure Accounted (lib : Library δ) (complete : Bool) (es : List StreamEvent)
    (offers : Nat → List (Bytes × Bool)) (pending : List (Nat × Bytes)) : Prop where
  writes : ∀ c, writesTo c es = (offers c).map fun x => (lib.buildFrame x.1, x.2)
  sendable : ∀ c, ∀ x ∈ offers c, Sendable lib x.1
  intact : ∀ c, Intact (offers c)
  inOrder : InOrder lib.decoder complete pending es

theorem client_accounted (configureSecurity : κ → List SecurityCall) (lib : Library δ)
    (config : ClientConfig κ) (ops : List (StreamClient.Op κ))
    (h : Along (StreamClient.step configureSecurity lib)
      (fun s op => complete = true → s.Receiving op) (StreamClient.fresh lib config) ops) :
    let ran := feed (StreamClient.step configureSecurity lib) (StreamClient.fresh lib config) ops
    Accounted lib complete (events ran.2)
      (offered (StreamClient.step configureSecurity lib) StreamClient.Op.packet
        (StreamClient.fresh lib config) ops) ran.1.completed := by
  have hframes := client_writesFrames configureSecurity lib
  have hstep : ∀ (s : StreamClient κ δ) (out : List StreamAction) (op : StreamClient.Op κ),
      (complete = true → s.Receiving op) →
      (ClientInv lib.decoder s (events out) ∧ ClientWrites s (events out) ∧
        InOrder lib.decoder complete s.completed (events out)) →
      let done := StreamClient.step configureSecurity lib s op
      ClientInv lib.decoder done.1 (events (out ++ done.2)) ∧
        ClientWrites done.1 (events (out ++ done.2)) ∧
        InOrder lib.decoder complete done.1.completed (events (out ++ done.2)) := by
    rintro s out op hreceiving ⟨hinv, hwrites, horder⟩
    dsimp only
    rw [events_append]
    exact ⟨hinv.step op, hwrites.step op, horder.clientStep hinv op hreceiving⟩
  have hfresh : ClientInv lib.decoder (StreamClient.fresh lib config)
        (events ([] : List StreamAction)) ∧
      ClientWrites (StreamClient.fresh lib config) (events ([] : List StreamAction)) ∧
      InOrder lib.decoder complete (StreamClient.fresh lib config).completed
        (events ([] : List StreamAction)) :=
    ⟨⟨packetInv_nil lib.decoder, fun c hc => by cases hc⟩,
      ⟨fun c hc => (by cases hc), fun _ _ => rfl, fun c hc => (by cases hc),
        fun _ => List.Pairwise.nil⟩, inOrder_nil lib.decoder complete⟩
  have hrun := h.invariant hstep hfresh
  rw [List.nil_append] at hrun
  exact ⟨writesTo_feed hframes _ ops, offered_sendable hframes _ ops,
    fun c => offered_intact hframes _ ops c (hrun.2.1.intact c), hrun.2.2⟩

/-- The invariants of a server's run. -/
theorem server_run (lib : Library δ) (slots : Nat) (config : ServerConfig)
    (ops : List StreamServer.Op)
    (h : Along (StreamServer.step lib) (fun s op => complete = true → s.Receiving op)
      (StreamServer.fresh lib slots config) ops) :
    let ran := feed (StreamServer.step lib) (StreamServer.fresh lib slots config) ops
    ServerInv lib.decoder ran.1 (events ran.2) ∧ ServerWrites ran.1 (events ran.2) ∧
      InOrder lib.decoder complete ran.1.completed (events ran.2) := by
  have hnone : ∀ a ∈ (StreamServer.fresh lib slots config).clients, a.connection = none := by
    intro a ha
    rw [List.eq_of_mem_replicate ha]
  have hwrites : ServerWrites (StreamServer.fresh lib slots config) [] := by
    refine ⟨?_, fun _ _ => rfl, ?_, fun _ => List.Pairwise.nil⟩ <;> rintro c ⟨a, ha, hc⟩ <;>
      exact absurd hc (by simp [hnone a ha])
  have hstep : ∀ (s : StreamServer δ) (out : List StreamAction) (op : StreamServer.Op),
      (complete = true → s.Receiving op) →
      (ServerInv lib.decoder s (events out) ∧ ServerWrites s (events out) ∧
        InOrder lib.decoder complete s.completed (events out)) →
      let done := StreamServer.step lib s op
      ServerInv lib.decoder done.1 (events (out ++ done.2)) ∧
        ServerWrites done.1 (events (out ++ done.2)) ∧
        InOrder lib.decoder complete done.1.completed (events (out ++ done.2)) := by
    rintro s out op hreceiving ⟨hinv, hwrites, horder⟩
    dsimp only
    rw [events_append]
    exact ⟨hinv.step op, hwrites.step hinv op, horder.serverStep hinv op hreceiving⟩
  have hfresh : ServerInv lib.decoder (StreamServer.fresh lib slots config)
        (events ([] : List StreamAction)) ∧
      ServerWrites (StreamServer.fresh lib slots config) (events ([] : List StreamAction)) ∧
      InOrder lib.decoder complete (StreamServer.fresh lib slots config).completed
        (events ([] : List StreamAction)) :=
    ⟨serverInv_of_unconnected (packetInv_nil lib.decoder) hnone, hwrites,
      inOrder_nil lib.decoder complete⟩
  have hrun := h.invariant hstep hfresh
  rwa [List.nil_append] at hrun

theorem server_accounted (lib : Library δ) (slots : Nat) (config : ServerConfig)
    (ops : List StreamServer.Op)
    (h : Along (StreamServer.step lib) (fun s op => complete = true → s.Receiving op)
      (StreamServer.fresh lib slots config) ops) :
    let ran := feed (StreamServer.step lib) (StreamServer.fresh lib slots config) ops
    Accounted lib complete (events ran.2)
      (offered (StreamServer.step lib) StreamServer.Op.packet
        (StreamServer.fresh lib slots config) ops) ran.1.completed := by
  have hframes := server_writesFrames lib
  obtain ⟨-, hwrites, horder⟩ := server_run lib slots config ops h
  exact ⟨writesTo_feed hframes _ ops, offered_sendable hframes _ ops,
    fun c => offered_intact hframes _ ops c (hwrites.intact c), horder⟩

end Sockets
