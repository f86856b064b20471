import Espressio.ClientDelivery
import Espressio.CloseFrames

/-!
# Close reasons, from one side to the other

A connection between the client and the endpoint can be closed by either of
them with a code and a reason.  Each writes the payload of a Close frame, the
endpoint itself and the client through its native client, and each reads the
other's.  Here the two formats meet: what is told to the sink of the side that
did not close is the code, and the first 123 bytes of the reason.

The client does not know whether a Close frame came.  It takes the peer's
reason unless that is empty with code 1000, and its own otherwise; as long as
nobody has called `Disconnect` its own is empty with code 1000 as well.
-/

namespace WebSocketClient

open NetworkBytes Runs Web
open PlatformResults (EspErr)

/-! ## The client is told -/

/-- The chunks that bring the frame from `offset` on, to its end. -/
def Spells (f : WireFrame) : Nat → List DataEvent → Prop
  | offset, [] => offset = f.payload.length
  | offset, e :: events =>
      offset < f.payload.length ∧ Cursor.Next ⟨f, offset⟩ e ∧
        Spells f (offset + e.dataLen.toNat) events

def Item.Disconnects : Item → Prop
  | .beginDisconnect _ _ _ => True
  | .finishDisconnect _ => True
  | _ => False

/-- A platform that is connected and has a sink, after any run in which
`Disconnect` was not called since the `Connect` that made its session. -/
def Established (p : Platform) : Prop :=
  ∃ sink before natives id during,
    ((feed Platform.step (Platform.initial sink) before).1.connect natives id).2.1 = .success ∧
      (∀ item ∈ during, ¬ item.Disconnects) ∧
      p = (feed Platform.step (Platform.initial sink) (before ++ .connect natives id :: during)).1 ∧
      p.state.connected = true ∧ p.state.sink ≠ none

/-- What `HandleDisconnected` reads but for the peer's reason. -/
structure SameStanding (s t : ClientState) : Prop where
  connected : t.connected = s.connected
  notified : t.disconnectNotified = s.disconnectNotified
  code : t.requestedCloseCode = s.requestedCloseCode
  reason : t.requestedCloseReason = s.requestedCloseReason

theorem Rebuffered.standing {s t : ClientState} (h : Rebuffered s t) : SameStanding s t := by
  rw [h]
  exact ⟨rfl, rfl, rfl, rfl⟩

/-- DATA events leave the standing of the session alone. -/
theorem handleData_standing (s : ClientState) (e : DataEvent) :
    SameStanding s (handleData s e).1 := by
  obtain ⟨frame, frameOpcode, code, reason, heq⟩ := handleData_frame s e
  rw [heq]
  exact ⟨rfl, rfl, rfl, rfl⟩

/-- No `Disconnect` has left its reason. -/
def Unrequested (s : ClientState) : Prop :=
  s.requestedCloseCode = 1000 ∧ s.requestedCloseReason = []

/-- **`Connect`** leaves the state as it is, or resets the session. -/
theorem connect_cases (p : Platform) (n : ConnectNatives) (id : Nat) :
    ((p.connect n id).1 = p ∧ (p.connect n id).2.1 ≠ .success) ∨
      ((p.connect n id).1.state.connected = false ∧
        Unrequested (p.connect n id).1.state) := by
  have hfailed : ∀ e : EspErr, e ≠ .ok → webSocketClientResult e ≠ .success := by
    intro e he
    cases e <;> first | exact absurd rfl he | exact nofun
  unfold Platform.connect
  split
  · exact Or.inl ⟨rfl, nofun⟩
  · split
    · exact Or.inl ⟨rfl, nofun⟩
    · exact Or.inl ⟨rfl, nofun⟩
    · split
      · rename_i hregistered
        exact Or.inl ⟨rfl, hfailed _ hregistered⟩
      · dsimp only
        split <;> exact Or.inr ⟨rfl, rfl, rfl⟩

theorem step_unrequested {p : Platform} {item : Item} (hitem : ¬ item.Disconnects)
    (h : Unrequested p.state) : Unrequested (p.step item).1.state := by
  have hdown : ∀ clean, Unrequested (handleDisconnected p.state clean).1 := by
    intro clean
    rw [handleDisconnected_state]
    exact h
  cases item with
  | frame f => exact h
  | setSink sink => exact h
  | beginDisconnect task code reason => exact absurd trivial hitem
  | finishDisconnect closing => exact absurd trivial hitem
  | chunk task e =>
      have hstanding := handleData_standing p.state e
      exact ⟨hstanding.code.trans h.1, hstanding.reason.trans h.2⟩
  | connect n id =>
      rcases connect_cases p n id with ⟨hsame, -⟩ | ⟨-, hreset⟩
      · exact (congrArg (fun q : Platform => Unrequested q.state) hsame).mpr h
      · exact hreset
  | link task e =>
      cases e with
      | connected =>
          change Unrequested (handleConnected p.state).1
          unfold handleConnected
          split <;> exact h
      | disconnected => exact hdown false
      | closed => exact hdown true

theorem feed_unrequested {p : Platform} {items : List Item}
    (hitems : ∀ item ∈ items, ¬ item.Disconnects) (h : Unrequested p.state) :
    Unrequested (feed Platform.step p items).1.state := by
  have hstep : ∀ (p : Platform) (item : Item), ¬ item.Disconnects → Unrequested p.state →
      Unrequested (p.step item).1.state := fun _ _ hitem hp => step_unrequested hitem hp
  exact (Along.of_forall hitems p).keeps hstep h

/-- A platform that is connected owes its sink a notice. -/
def Owing (s : ClientState) : Prop := s.connected = true → s.disconnectNotified = false

theorem step_owing {p : Platform} (item : Item) (h : Owing p.state) :
    Owing (p.step item).1.state := by
  have hdown : ∀ clean, Owing (handleDisconnected p.state clean).1 := by
    intro clean
    rw [handleDisconnected_state]
    exact nofun
  cases item with
  | frame f => exact h
  | setSink sink => exact h
  | beginDisconnect task code reason =>
      change Owing (p.beginDisconnect task code reason).1.state
      unfold Platform.beginDisconnect
      split
      · exact h
      · split
        · exact h
        · split <;> exact h
  | finishDisconnect closing =>
      change Owing (p.finishDisconnect closing).1.state
      unfold Platform.finishDisconnect
      dsimp only
      split <;> exact nofun
  | chunk task e =>
      have hstanding := handleData_standing p.state e
      exact fun hup => hstanding.notified.trans (h (hstanding.connected ▸ hup))
  | connect n id =>
      rcases connect_cases p n id with ⟨hsame, -⟩ | ⟨hdown, -⟩
      · exact (congrArg (fun q : Platform => Owing q.state) hsame).mpr h
      · exact fun hup => absurd (hdown.symm.trans hup) nofun
  | link task e =>
      cases e with
      | connected =>
          change Owing (handleConnected p.state).1
          unfold handleConnected
          split
          · exact fun _ => rfl
          · exact h
      | disconnected => exact hdown false
      | closed => exact hdown true

theorem feed_owing {p : Platform} (items : List Item) (h : Owing p.state) :
    Owing (feed Platform.step p items).1.state := by
  have hstep : ∀ (p : Platform) (item : Item), True → Owing p.state →
      Owing (p.step item).1.state := fun _ item _ hp => step_owing item hp
  exact (Along.of_forall (fun _ _ => trivial) p).keeps hstep h

/-- What an established session comes to. -/
theorem Established.up {p : Platform} (h : Established p) :
    p.state.connected = true ∧ p.state.sink ≠ none ∧ p.state.disconnectNotified = false ∧
      Unrequested p.state := by
  obtain ⟨sink, before, natives, id, during, hconnect, hduring, rfl, hup, hsink⟩ := h
  refine ⟨hup, hsink, feed_owing _ nofun hup, ?_⟩
  rw [feed_append, feed_cons]
  apply feed_unrequested hduring
  rcases connect_cases (feed Platform.step (Platform.initial sink) before).1 natives id with
    ⟨-, hfailed⟩ | ⟨-, hreset⟩
  · exact absurd hconnect hfailed
  · exact hreset

/-- Chunks with the bytes of a frame are those of a frame in pieces. -/
theorem Spells.pieces {f : WireFrame} {offset : Nat} {events : List DataEvent}
    (h : Spells f offset events) :
    ∃ chunks : List Bytes, chunks.flatten = f.payload.drop offset ∧
      (offset < f.payload.length → chunks ≠ []) ∧
      (∀ before chunk after, chunks = before ++ chunk :: after →
        offset + before.flatten.length < f.payload.length) ∧
      ∀ s, feed handleData s events =
        feed handleData s (dataEvents f.opcode f.payload.length offset chunks) := by
  induction events generalizing offset with
  | nil =>
      obtain rfl : offset = f.payload.length := h
      refine ⟨[], by simp, fun hlt => absurd hlt (Nat.lt_irrefl _), ?_, fun s => rfl⟩
      intro before chunk after heq
      simp at heq
  | cons e events ih =>
      obtain ⟨hstart, hnext, hrest⟩ := h
      obtain ⟨chunks, hcovers, -, hcontiguous, hfeed⟩ := ih hrest
      have hlength : (Cursor.bytes ⟨f, offset⟩ e).length = e.dataLen.toNat := by
        have hfits : offset + e.dataLen.toNat ≤ f.payload.length := hnext.fits
        rw [Cursor.bytes, List.length_take, List.length_drop]
        dsimp only
        omega
      refine ⟨Cursor.bytes ⟨f, offset⟩ e :: chunks, ?_, fun _ => by simp, ?_, fun s => ?_⟩
      · rw [List.flatten_cons, hcovers, Cursor.bytes, ← List.drop_drop]
        exact List.take_append_drop ..
      · intro before chunk after heq
        cases before with
        | nil => simpa using hstart
        | cons first rest =>
            obtain ⟨rfl, htail⟩ := List.cons.inj heq
            have hlt := hcontiguous rest chunk after htail
            rw [List.flatten_cons, List.length_append, hlength]
            omega
      · rw [dataEvents, feed_cons, feed_cons, hnext.handleData_eq s, hlength, hfeed]

theorem Spells.handleFrame_eq {f : WireFrame} {events : List DataEvent} (h : Spells f 0 events)
    (hne : f.payload ≠ []) (hop : Handled f.opcode) (hmax : f.payload.length ≤ maxMessageBytes)
    (s : ClientState) :
    ∃ t, Rebuffered s t ∧ feed handleData s events = completeFrame t f.opcode f.payload := by
  obtain ⟨chunks, hcovers, hsome, hcontiguous, hfeed⟩ := h.pieces
  obtain ⟨t, hsame, heq⟩ := feed_chunks hop hmax chunks s [] (hsome (List.length_pos_iff.mpr hne))
    (by simpa using hcovers)
    (fun before chunk after heq _ => by simpa using hcontiguous before chunk after heq)
    (Or.inl rfl)
  exact ⟨t, hsame, (hfeed s).trans heq⟩

/-- DATA events change nothing of the platform but the state that `handleData`
works on. -/
theorem feed_dataEvents (p : Platform) (task : Nat) (events : List DataEvent) :
    let r := feed Platform.step p (events.map (.chunk task))
    r.1.state = (feed handleData p.state events).1 ∧
      r.2 = (feed handleData p.state events).2 := by
  induction events generalizing p with
  | nil => exact ⟨rfl, rfl⟩
  | cons e events ih =>
      obtain ⟨hstate, hcalls⟩ := ih (p.step (.chunk task e)).1
      refine ⟨hstate, ?_⟩
      rw [List.map_cons, feed_cons, feed_cons, hcalls]
      rfl

/-- Where nothing was requested the peer's reason is told, even the one that
looks like none. -/
theorem handleDisconnected_peer {s : ClientState} (hsink : s.sink ≠ none)
    (hnotified : s.disconnectNotified = false) (hrequest : Unrequested s) :
    (handleDisconnected s true).2 = [.disconnected s.peerCloseCode s.peerCloseReason] := by
  obtain ⟨hcode, hreason⟩ := hrequest
  have hsome : s.sink.isSome = true := Option.isSome_iff_ne_none.mpr hsink
  unfold handleDisconnected
  simp only [hnotified, Bool.false_eq_true, if_false, if_true, hsome]
  by_cases hpeer : s.peerCloseReason ≠ [] ∨ s.peerCloseCode ≠ 1000
  · rw [if_pos hpeer]
  · obtain ⟨hempty, hdefault⟩ : s.peerCloseReason = [] ∧ s.peerCloseCode = 1000 := by
      simpa using hpeer
    rw [if_neg hpeer, hempty, hdefault, hcode, hreason]

/-- **A Close frame and CLOSED.**  An established client tells its sink the
code and the reason of the frame, in whatever chunks it came. -/
theorem Established.closed {p : Platform} (h : Established p) {code : UInt16} {reason : Bytes}
    (hshort : reason.length ≤ 123) {events : List DataEvent}
    (hspells : Spells ⟨true, opcodeClose,
      [(code >>> 8).toUInt8, code.toUInt8] ++ reason⟩ 0 events) (task : Nat) :
    (feed Platform.step p (events.map (.chunk task) ++ [.link task .closed])).2 =
      [.disconnected code reason] := by
  obtain ⟨-, hsink, hnotified, hcode, hreason⟩ := h.up
  have hfits : ([(code >>> 8).toUInt8, code.toUInt8] ++ reason).length ≤ maxMessageBytes := by
    simp only [List.length_append, List.length_cons, List.length_nil, maxMessageBytes]
    omega
  have hop : Handled opcodeClose := by decide
  obtain ⟨t, hsame, hfeed⟩ := hspells.handleFrame_eq (by simp) hop hfits p.state
  obtain ⟨hstate, hcalls⟩ := feed_dataEvents p task events
  have hremembered : completeFrame t opcodeClose
      ([(code >>> 8).toUInt8, code.toUInt8] ++ reason) =
        ({ t with peerCloseCode := code, peerCloseReason := reason }, []) := by
    simp [completeFrame, rememberPeerClose, readNetworkUInt16, join16_split]
  rw [hfeed, hremembered] at hstate hcalls
  rw [feed_append, hcalls, List.nil_append]
  have hstanding := hsame.standing
  have hsink' : t.sink ≠ none := by
    rw [hsame.session.1]
    exact hsink
  change (handleDisconnected (feed Platform.step p (events.map (.chunk task))).1.state true).2 ++ []
    = _
  rw [hstate, List.append_nil]
  exact handleDisconnected_peer hsink' (hstanding.notified.trans hnotified)
    ⟨hstanding.code.trans hcode, hstanding.reason.trans hreason⟩

end WebSocketClient

namespace WebSocketEndpoint

open NetworkBytes Runs Web

/-! ## The endpoint is told -/

/-- A connection that was closed with this code and reason, at a binding with
this sink. -/
def ClosedWith (socket : Nat) (sink : Option Nat) (code : UInt16) (reason : Bytes)
    (b : BindingState) : Prop :=
  b.sink = sink ∧ ∃ c, b.findConnection socket = some c ∧ c.isOpen = false ∧
    c.closeCode = code ∧ c.closeReason = reason

section

variable {socket : Nat} {sink : Option Nat} {code : UInt16} {reason : Bytes} {b : BindingState}

theorem closedWith_store {c d : Connection} (hsink : b.sink = sink)
    (hd : b.findConnection socket = some d) (hc : c.socket = d.socket) (hshut : c.isOpen = false)
    (hcode : c.closeCode = code) (hreason : c.closeReason = reason) :
    ClosedWith socket sink code reason (b.storeConnection c) :=
  ⟨hsink, c, findConnection_store hd (hc.trans (findConnection_socket hd)), hshut, hcode,
    hreason⟩

/-- A call that leaves a closed connection as it is. -/
theorem ClosedWith.onConnection (h : ClosedWith socket sink code reason b)
    {op : Connection → Connection × WebResult × List Effect}
    (hop : ∀ c, c.isOpen = false → (op c).1 = c) :
    ClosedWith socket sink code reason (b.onConnection socket op).1 := by
  obtain ⟨hsink, c, hc, hshut, hcode, hreason⟩ := h
  unfold BindingState.onConnection
  rw [hc]
  dsimp only
  rw [hop c hshut]
  exact closedWith_store hsink hc rfl hshut hcode hreason

/-- **Step lemma.**  Nothing but another Close of the peer changes what a
connection was closed with. -/
theorem ClosedWith.step (h : ClosedWith socket sink code reason b) {e : ConnectionEvent}
    (hpeer : ¬ PeerCloses socket b e) :
    ClosedWith socket sink code reason (connectionStep socket b e).1 := by
  cases e with
  | sendBinary n data size => exact h.onConnection fun c _ => rfl
  | sendText n text => exact h.onConnection fun c _ => rfl
  | close n code' reason' =>
      exact h.onConnection fun c hshut => congrArg Prod.fst (close_of_closed hshut n code' reason')
  | frame n handle f =>
      cases hreceiver : b.receiver socket n handle with
      | none =>
          obtain ⟨hsame, -, -⟩ := frame_unreceived hreceiver f
          rw [hsame]
          exact h
      | some c =>
          obtain ⟨hsink, d, hd, hshut, hcode, hreason⟩ := h
          obtain rfl := receiver_tracked hreceiver hd
          obtain ⟨b', before, calls, hfind, hsink', -, -, hreceives⟩ := frame_received hreceiver f
          rw [hsink] at hsink'
          have hsame : ClosedWith socket sink code reason b' :=
            ⟨hsink', d, hfind, hshut, hcode, hreason⟩
          generalize (connectionStep socket b (.frame n handle f)).1 = next at hreceives ⊢
          generalize sent (connectionStep socket b (.frame n handle f)).2 = frames at hreceives
          cases hreceives with
          | unread => exact hsame
          | ping => exact hsame
          | pong => exact hsame
          | closed read type => exact absurd ⟨by simp [hreceiver], read, type⟩ hpeer
          | failed fails c' line code' reason' =>
              rw [close_of_closed (line.kept.trans hshut)]
              exact closedWith_store hsink' hfind line.socket (line.kept.trans hshut)
                (line.code.trans hcode) (line.reason.trans hreason)
          | taken read message accepted c' line =>
              exact closedWith_store hsink' hfind line.socket (line.kept.trans hshut)
                (line.code.trans hcode) (line.reason.trans hreason)

/-- The peer's Close, as `RememberPeerClose` takes it. -/
theorem closedWith_of_peer {n : RequestNatives} {handle : Option Nat} {hi lo : UInt8}
    (hpeer : PeerCloses socket b (.frame n handle ⟨.close, true, hi :: lo :: reason⟩)) :
    ClosedWith socket b.sink (join16 hi lo) reason
      (connectionStep socket b (.frame n handle ⟨.close, true, hi :: lo :: reason⟩)).1 := by
  obtain ⟨hreceiver, read, type⟩ := hpeer
  obtain ⟨c, hc⟩ := Option.ne_none_iff_exists'.mp hreceiver
  obtain ⟨b', before, calls, hfind, hsink, -, -, hreceives⟩ :=
    frame_received hc ⟨.close, true, hi :: lo :: reason⟩
  generalize connectionStep socket b
    (.frame n handle ⟨.close, true, hi :: lo :: reason⟩) = r at hreceives ⊢
  generalize r.1 = next at hreceives ⊢
  generalize sent r.2 = frames at hreceives
  cases hreceives with
  | unread unreadable => exact absurd read unreadable
  | failed fails => exact absurd (.inr (.inr rfl)) (fails.notControl read)
  | ping _ type => cases type
  | pong _ type => cases type
  | taken _ message => exact absurd (.inr (.inr rfl)) message
  | closed => exact closedWith_store hsink hfind rfl rfl rfl rfl

/-- When HTTPD closes the session the sink is told what the connection was
closed with. -/
theorem ClosedWith.told (h : ClosedWith socket sink code reason b) (hsink : sink ≠ none) :
    told (b.onHttpSessionClosed socket).2 = [.disconnected socket code reason] := by
  obtain ⟨rfl, c, hc, -, rfl, rfl⟩ := h
  obtain ⟨s, hs⟩ := Option.ne_none_iff_exists'.mp hsink
  obtain rfl := findConnection_socket hc
  unfold BindingState.onHttpSessionClosed
  rw [hc]
  dsimp only
  rw [told_append, told_notifyActivity, hs]
  rfl

end

end WebSocketEndpoint

/-! ## Both ways -/

namespace WebSocketPair

open NetworkBytes Runs WebSocketEndpoint WebSocketClient

/-- The payload of the Close frame that `esp_websocket_client_close_with_code`
sends: the code in network order, and the data. -/
def nativeClosePayload (code : UInt16) (data : Bytes) : Bytes :=
  [(code >>> 8).toUInt8, code.toUInt8] ++ data

/-- **Close reasons.**  The Close frame that the endpoint's `Close` hands to
HTTPD makes an established client tell its sink the code and the first 123
bytes of the reason, in whatever chunks the frame arrives; and the one that
`Disconnect` has the native client send makes the endpoint tell its sink the
same when the session is closed, whatever else happens on the connection until
then. -/
theorem close_reasons_agree (code : UInt16) (reason : Bytes) :
    (∀ (b : BindingState) (socket : Nat) (n : SendNatives),
      OwnCloses socket b (.close n code reason) →
        .queueFrame socket .close (closePayload code reason) true ∈
            (connectionStep socket b (.close n code reason)).2 ∧
          ∀ p, Established p →
            ∀ events, Spells ⟨true, opcodeClose, closePayload code reason⟩ 0 events → ∀ task,
              (feed Platform.step p (events.map (.chunk task) ++ [.link task .closed])).2 =
                [.disconnected code (reason.take 123)]) ∧
    (∀ (p p' : Platform) (task : Nat) (closing : Closing),
      p.beginDisconnect task code reason = (p', .ok closing) →
        closing.stopCall true = .closeWithCode closing.client code (reason.take 123) ∧
          ∀ (b : BindingState) (socket : Nat) (n : RequestNatives) (handle : Option Nat)
            (later : List ConnectionEvent), b.sink ≠ none →
            let closed := ConnectionEvent.frame n handle
              ⟨.close, true, nativeClosePayload code (reason.take 123)⟩
            PeerCloses socket b closed →
            Along (connectionStep socket) (fun b e => ¬ PeerCloses socket b e)
              (connectionStep socket b closed).1 later →
            told ((feed (connectionStep socket) b (closed :: later)).1.onHttpSessionClosed
              socket).2 = [.disconnected socket code (reason.take 123)]) := by
  have hshort : (reason.take 123).length ≤ 123 := by
    rw [List.length_take]
    omega
  refine ⟨fun b socket n hown => ⟨?_, ?_⟩, fun p p' task closing hbegin => ⟨?_, ?_⟩⟩
  · obtain ⟨c, hc, hopen, htakes⟩ := hown
    obtain rfl := findConnection_socket hc
    have hqueued := queueFrame_mem_close hopen htakes code reason
    simpa [connectionStep, BindingState.onConnection, hc] using hqueued
  · intro p hp events hspells task
    exact hp.closed hshort hspells task
  · obtain ⟨hcode, hreason⟩ := closing_of_beginDisconnect (congrArg Prod.snd hbegin)
    rw [Closing.stopCall, if_pos rfl, hcode, hreason]
  · intro b socket n handle later hsink closed hpeer hlater
    have hclosed := closedWith_of_peer hpeer
    rw [join16_split] at hclosed
    exact (hlater.keeps (fun _ _ hquiet h => h.step hquiet) hclosed).told hsink

/-- A client that is connected. -/
def connectedClient : Platform :=
  (feed Platform.step (Platform.initial (some 0))
    [.connect ⟨.success, some 0, .ok, .ok⟩ 1, .link 7 .connected]).1

theorem established_connectedClient : Established connectedClient :=
  ⟨some 0, [], ⟨.success, some 0, .ok, .ok⟩, 1, [.link 7 .connected], rfl,
    by simp [Item.Disconnects], rfl, rfl, nofun⟩

/-- One of them closes with code 1000 and `bye`.  The endpoint's frame arrives
in two chunks. -/
theorem close_reasons_agree_bye :
    let upgraded := ((BindingState.make (some 0)).activate.handleUpgrade .allOk (some 1) 7).1
    (feed Platform.step connectedClient
        [.chunk 7 ⟨8, 5, 0, some [3, 232], 2⟩, .chunk 7 ⟨8, 5, 2, some [98, 121, 101], 3⟩,
          .link 7 .closed]).2 = [.disconnected 1000 [98, 121, 101]] ∧
      told ((feed (connectionStep 7) upgraded
        [.frame .allOk (some 1) ⟨.close, true, [3, 232, 98, 121, 101]⟩]).1.onHttpSessionClosed
          7).2 = [.disconnected 7 1000 [98, 121, 101]] := by
  intro upgraded
  obtain ⟨hclient, hendpoint⟩ := close_reasons_agree 1000 [98, 121, 101]
  constructor
  · obtain ⟨-, htold⟩ := hclient upgraded 7 ⟨true, .succeeded, .ok⟩
      ⟨.create (some 1) 7 (some 0), by decide, rfl, by decide⟩
    exact htold _ established_connectedClient
      [⟨8, 5, 0, some [3, 232], 2⟩, ⟨8, 5, 2, some [98, 121, 101], 3⟩]
      ⟨by decide, ⟨rfl, rfl, rfl, by decide, by decide, rfl⟩,
        by decide, ⟨rfl, rfl, rfl, by decide, by decide, rfl⟩, rfl⟩ 7
  · obtain ⟨-, htold⟩ := hendpoint connectedClient _ 3 ⟨0, true, 1000, [98, 121, 101]⟩ rfl
    exact htold upgraded 7 .allOk (some 1) [] (by decide)
      ⟨by decide, ⟨rfl, by decide, rfl⟩, rfl⟩ trivial

end WebSocketPair
