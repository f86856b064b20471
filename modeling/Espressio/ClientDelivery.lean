import Espressio.ClientFrames
import Espressio.ClientPlatform

/-!
# Frames across disconnects

Whole frames arrive as consecutive DATA chunks, and a frame can be cut short
anywhere: the peer or the link goes away, the application disconnects, another
frame begins.  What is left of a frame in `_incomingFrame` survives that.

`Reference` is the receiver that has no buffer.  It knows which frame is
arriving and how much of it has arrived, and reports a frame with its last
chunk.  `delivers_exactly` says that the platform reports the same payloads:
all that a leftover can do is to be thrown away by the next frame.
-/

namespace WebSocketClient

open NetworkBytes Fragments Runs Web

/-- What happens to the platform.  `frame` does nothing to it: it marks that
the chunks that follow are those of a new frame. -/
inductive Item
  | frame (f : WireFrame)
  | chunk (task : Nat) (e : DataEvent)
  | link (task : Nat) (e : LinkEvent)
  | setSink (sink : Option Nat)
  | connect (natives : ConnectNatives) (id : Nat)
  | beginDisconnect (task : Nat) (code : UInt16) (reason : Bytes)
  | finishDisconnect (closing : Closing)

def Platform.step (p : Platform) : Item → Platform × List SinkCall
  | .frame _ => (p, [])
  | .chunk task e => p.handleDataEvent task e
  | .link task e => p.handleLinkEvent task e
  | .setSink sink => (p.setSink sink, [])
  | .connect natives id => ((p.connect natives id).1, [])
  | .beginDisconnect task code reason => ((p.beginDisconnect task code reason).1, [])
  | .finishDisconnect closing =>
      ((p.finishDisconnect closing).1, (p.finishDisconnect closing).2.toList)

/-- The frame that is arriving, with the length of what has arrived. -/
structure Cursor where
  frame : WireFrame
  offset : Nat
  deriving DecidableEq, Repr

/-- The receiver without a buffer. -/
structure Reference where
  client : Option Nat
  connected : Bool
  hasSink : Bool
  cursor : Option Cursor
  deriving DecidableEq, Repr

def Reference.initial (sink : Option Nat) : Reference :=
  ⟨none, false, sink.isSome, none⟩

/-- The native client that `Connect` leaves, if it makes one. -/
def ConnectNatives.created (n : ConnectNatives) : Option Nat :=
  match n.prepared, n.client with
  | .success, some client =>
      if n.registered = .ok ∧ n.started = .ok then some client else none
  | _, _ => none

/-- The message that a frame is, if it is one that can be reported. -/
def WireFrame.message (f : WireFrame) : Option (MessageType × Bytes) :=
  if maxMessageBytes < f.payload.length then none
  else if f.opcode = opcodeText then some (.text, f.payload)
  else if f.opcode = opcodeBinary then some (.binary, f.payload)
  else none

def Reference.step (σ : Reference) : Item → Reference × List (MessageType × Bytes)
  | .frame f => ({ σ with cursor := some ⟨f, 0⟩ }, [])
  | .chunk _ e =>
      match σ.cursor with
      | none => (σ, [])
      | some c =>
          let offset := c.offset + e.dataLen.toNat
          if offset = c.frame.payload.length then
            ({ σ with cursor := none },
              if σ.connected ∧ σ.hasSink then c.frame.message.toList else [])
          else ({ σ with cursor := some { c with offset := offset } }, [])
  | .link _ .connected => ({ σ with connected := σ.client.isSome }, [])
  | .link _ .disconnected => ({ σ with connected := false }, [])
  | .link _ .closed => ({ σ with connected := false }, [])
  | .setSink sink => ({ σ with hasSink := sink.isSome }, [])
  | .connect natives _ =>
      if σ.client ≠ none then (σ, [])
      else ({ σ with client := natives.created, connected := false, cursor := none }, [])
  | .beginDisconnect _ _ _ => (σ, [])
  | .finishDisconnect closing =>
      ({ σ with
          client := if σ.client = some closing.client then none else σ.client
          connected := false
          cursor := none }, [])

/-- The bytes of the frame that a chunk has. -/
def Cursor.bytes (c : Cursor) (e : DataEvent) : Bytes :=
  (c.frame.payload.drop c.offset).take e.dataLen.toNat

/-- The chunk continues the frame where it stands.  It may be empty. -/
structure Cursor.Next (c : Cursor) (e : DataEvent) : Prop where
  opCode : e.opCode = c.frame.opcode
  payloadLen : e.payloadLen = c.frame.payload.length
  payloadOffset : e.payloadOffset = c.offset
  dataLen : 0 ≤ e.dataLen
  fits : c.offset + e.dataLen.toNat ≤ c.frame.payload.length
  data : (e.dataPtr.getD []).take e.dataLen.toNat = c.bytes e

/-- What the native client does: it hands over frames that are not fragments,
chunk by chunk in order, and may abandon a frame for the next one. -/
def Presented (σ : Reference) : Item → Prop
  | .frame f => f.fin = true ∧ f.opcode ∈ [opcodeText, opcodeBinary, opcodePing, opcodePong,
      opcodeClose]
  | .chunk _ e => ∃ c, σ.cursor = some c ∧ c.Next e
  | _ => True

/-- The platform is in step with the receiver without a buffer: what has
arrived of the frame is in the buffer, or nothing has. -/
structure Follows (p : Platform) (σ : Reference) : Prop where
  client : σ.client = p.state.client
  connected : σ.connected = p.state.connected
  sink : σ.hasSink = p.state.sink.isSome
  connection : p.state.client.isSome → p.state.connection.isSome
  live : p.state.connected = true → p.state.client.isSome
  closing : p.disconnecting = true → p.state.client.isSome
  cursor : ∀ c, σ.cursor = some c → Handled c.frame.opcode →
    c.frame.payload.length ≤ maxMessageBytes → c.offset = 0 ∨
      Collecting p.state c.frame.opcode c.frame.payload.length (c.frame.payload.take c.offset)

instance (s : ClientState) : Decidable (Reporting s) := by
  unfold Reporting; infer_instance

theorem follows_initial (sink : Option Nat) :
    Follows (Platform.initial sink) (Reference.initial sink) :=
  ⟨rfl, rfl, rfl, nofun, nofun, nofun, nofun⟩

theorem Follows.reporting_iff {p : Platform} {σ : Reference} (h : Follows p σ) :
    Reporting p.state ↔ σ.connected = true ∧ σ.hasSink = true := by
  rw [h.connected, h.sink]
  constructor
  · intro hr
    exact ⟨hr.1, hr.2.1⟩
  · intro hboth
    exact ⟨hboth.1, hboth.2, h.connection (h.live hboth.1)⟩

/-! ## Chunks -/

theorem Cursor.Next.length_bytes {c : Cursor} {e : DataEvent} (h : c.Next e) :
    (c.bytes e).length = e.dataLen.toNat := by
  have hfits := h.fits
  rw [Cursor.bytes, List.length_take, List.length_drop]
  omega

/-- An empty chunk may come without a pointer. -/
theorem Cursor.Next.handleData_eq {c : Cursor} {e : DataEvent} (h : c.Next e) (s : ClientState) :
    handleData s e =
      handleData s ⟨c.frame.opcode, c.frame.payload.length, c.offset, some (c.bytes e),
        (c.bytes e).length⟩ := by
  have hbytes := h.length_bytes
  obtain ⟨hop, hlen, hoff, hnonneg, hfits, hdata⟩ := h
  obtain ⟨op, total, offset, dataPtr, dataLen⟩ := e
  subst hop hlen hoff
  have hdataLen : dataLen = ((c.bytes ⟨c.frame.opcode, c.frame.payload.length, c.offset, dataPtr,
      dataLen⟩).length : Int) := by
    rw [hbytes]
    exact (Int.toNat_of_nonneg hnonneg).symm
  cases dataPtr with
  | none =>
      have hnone : c.bytes ⟨c.frame.opcode, c.frame.payload.length, c.offset, none, dataLen⟩ =
          [] := by
        rw [← hdata]
        exact List.take_nil
      rw [hnone] at hdataLen ⊢
      subst hdataLen
      simp [handleData, assembleChunk]
  | some bytes =>
      have hsome : bytes.take dataLen.toNat = c.bytes ⟨c.frame.opcode, c.frame.payload.length,
          c.offset, some bytes, dataLen⟩ := hdata
      rw [← hdataLen, ← hsome]
      simp [handleData, assembleChunk, List.take_take]

theorem completeFrame_client (s : ClientState) (opcode : UInt8) (payload : Bytes) :
    (completeFrame s opcode payload).1.client = s.client := by
  unfold completeFrame rememberPeerClose
  split
  · split <;> rfl
  · split <;> rfl

/-- A frame that is reported is a message, and the sink is told so if it can
be. -/
theorem completeFrame_message {s : ClientState} {f : WireFrame}
    (hlimit : f.payload.length ≤ maxMessageBytes) :
    (completeFrame s f.opcode f.payload).2.filterMap SinkCall.message =
      if Reporting s then f.message.toList else [] := by
  rw [completeFrame_calls]
  by_cases hdata : f.opcode = opcodeText ∨ f.opcode = opcodeBinary
  · rw [if_pos hdata]
    by_cases hs : Reporting s
    · obtain ⟨id, hid⟩ := Option.isSome_iff_exists.mp hs.2.2
      rw [if_pos hs]
      rcases hdata with hop | hop
      · simp [dispatchPayload, hid, hs.1, hs.2.1, hop, WireFrame.message, SinkCall.message,
          Nat.not_lt.mpr hlimit]
      · simp [dispatchPayload, hid, hs.1, hs.2.1, hop, WireFrame.message, SinkCall.message,
          Nat.not_lt.mpr hlimit, opcodeBinary, opcodeText]
    · rw [if_neg hs, dispatchPayload_silent hs]
      rfl
  · have hnone : f.message = none := by
      unfold WireFrame.message
      rw [if_neg (Nat.not_lt.mpr hlimit), if_neg (fun h => hdata (Or.inl h)),
        if_neg (fun h => hdata (Or.inr h))]
    rw [if_neg hdata, hnone]
    simp

theorem message_of_ignored {f : WireFrame}
    (h : ¬ (Handled f.opcode ∧ f.payload.length ≤ maxMessageBytes)) : f.message = none := by
  unfold WireFrame.message
  split
  · rfl
  · rename_i hlimit
    have hkind : ¬ (f.opcode = opcodeText ∨ f.opcode = opcodeBinary) :=
      fun hdata => h ⟨handled_of_data hdata, Nat.not_lt.mp hlimit⟩
    rw [if_neg (fun hop => hkind (Or.inl hop)), if_neg (fun hop => hkind (Or.inr hop))]

theorem Cursor.take_bytes (c : Cursor) (e : DataEvent) :
    c.frame.payload.take c.offset ++ c.bytes e =
      c.frame.payload.take (c.offset + e.dataLen.toNat) := by
  rw [Cursor.bytes, ← List.take_add]

/-- A chunk of a frame that is handled, by what the frame has so far. -/
theorem Cursor.Next.handled {c : Cursor} {e : DataEvent} (h : c.Next e) {s : ClientState}
    (hop : Handled c.frame.opcode) (hmax : c.frame.payload.length ≤ maxMessageBytes)
    (hs : c.offset = 0 ∨
      Collecting s c.frame.opcode c.frame.payload.length (c.frame.payload.take c.offset)) :
    handleData s e =
      if c.offset = 0 ∧ e.dataLen.toNat = c.frame.payload.length then
        completeFrame s c.frame.opcode (c.bytes e)
      else finishChunk (if c.offset + e.dataLen.toNat = c.frame.payload.length then
        ({ s with incomingFrame := [], incomingOpcode := 0 },
          some (c.frame.opcode, c.frame.payload.take (c.offset + e.dataLen.toNat)))
      else
        ({ s with
            incomingFrame := c.frame.payload.take (c.offset + e.dataLen.toNat) ++
              List.replicate (c.frame.payload.length -
                (c.frame.payload.take (c.offset + e.dataLen.toNat)).length) 0
            incomingOpcode := c.frame.opcode }, none)) := by
  have hbytes := h.length_bytes
  have hwritten : (c.frame.payload.take c.offset).length = c.offset := by
    rw [List.length_take, Nat.min_eq_left]
    exact Nat.le_trans (Nat.le_add_right _ _) h.fits
  have hbuffer : c.frame.payload.take c.offset = [] ∨
      Collecting s c.frame.opcode c.frame.payload.length (c.frame.payload.take c.offset) :=
    hs.imp_left fun hzero => by rw [hzero, List.take_zero]
  have hfit : c.offset + (c.bytes e).length ≤ c.frame.payload.length := by
    rw [hbytes]
    exact h.fits
  have hmore : (c.frame.payload.take c.offset).length + (c.bytes e).length ≤
      c.frame.payload.length := by
    rw [hwritten]
    exact hfit
  have hassemble := assembleChunk_eq hbuffer hmore
  rw [hwritten, c.take_bytes, hbytes] at hassemble
  rw [h.handleData_eq s, handleData_chunk hop hmax hfit, hbytes, hassemble]

/-- The last chunk, of a frame in one piece or of one that was collected. -/
theorem Cursor.Next.last {c : Cursor} {e : DataEvent} (h : c.Next e) {s : ClientState}
    (hop : Handled c.frame.opcode) (hmax : c.frame.payload.length ≤ maxMessageBytes)
    (hs : c.offset = 0 ∨
      Collecting s c.frame.opcode c.frame.payload.length (c.frame.payload.take c.offset))
    (hlast : c.offset + e.dataLen.toNat = c.frame.payload.length) :
    ∃ u, SameSession s u ∧ u.client = s.client ∧
      handleData s e = completeFrame u c.frame.opcode c.frame.payload := by
  have hpayload : c.frame.payload.take (c.offset + e.dataLen.toNat) = c.frame.payload := by
    rw [hlast, List.take_length]
  rw [h.handled hop hmax hs, if_pos hlast, hpayload]
  split
  · rename_i hwhole
    refine ⟨s, SameSession.refl s, rfl, ?_⟩
    have htake := c.take_bytes e
    rw [hpayload, hwhole.1, List.take_zero, List.nil_append] at htake
    rw [htake]
  · refine ⟨{ s with incomingFrame := [], incomingOpcode := 0 }, SameSession.refl s, rfl, ?_⟩
    have hzero : c.frame.opcode ≠ 0 := hop.2.2
    rw [finishChunk, if_neg hzero]

/-- A chunk before the last one stays in the buffer. -/
theorem Cursor.Next.more {c : Cursor} {e : DataEvent} (h : c.Next e) {s : ClientState}
    (hop : Handled c.frame.opcode) (hmax : c.frame.payload.length ≤ maxMessageBytes)
    (hs : c.offset = 0 ∨
      Collecting s c.frame.opcode c.frame.payload.length (c.frame.payload.take c.offset))
    (hmore : c.offset + e.dataLen.toNat ≠ c.frame.payload.length) :
    SameSession s (handleData s e).1 ∧ (handleData s e).1.client = s.client ∧
      (handleData s e).2 = [] ∧
      Collecting (handleData s e).1 c.frame.opcode c.frame.payload.length
        (c.frame.payload.take (c.offset + e.dataLen.toNat)) := by
  have hwhole : ¬ (c.offset = 0 ∧ e.dataLen.toNat = c.frame.payload.length) := by
    intro hboth
    rw [hboth.1, hboth.2, Nat.zero_add] at hmore
    exact hmore rfl
  rw [h.handled hop hmax hs, if_neg hwhole, if_neg hmore, finishChunk]
  exact ⟨SameSession.refl s, rfl, rfl, rfl, rfl⟩

/-- What one chunk does: it completes the frame, or it leaves more of it in
the buffer; a frame that is not looked at changes nothing. -/
theorem Cursor.Next.spec {c : Cursor} {e : DataEvent} (h : c.Next e) {s : ClientState}
    (hs : Handled c.frame.opcode → c.frame.payload.length ≤ maxMessageBytes → c.offset = 0 ∨
      Collecting s c.frame.opcode c.frame.payload.length (c.frame.payload.take c.offset)) :
    let t := (handleData s e).1
    let offset := c.offset + e.dataLen.toNat
    SameSession s t ∧ t.client = s.client ∧
      (handleData s e).2.filterMap SinkCall.message =
        (if offset = c.frame.payload.length ∧ Reporting s then c.frame.message.toList
          else []) ∧
      (offset ≠ c.frame.payload.length → Handled c.frame.opcode →
        c.frame.payload.length ≤ maxMessageBytes →
        Collecting t c.frame.opcode c.frame.payload.length (c.frame.payload.take offset)) := by
  intro t offset
  by_cases hhandled : Handled c.frame.opcode ∧ c.frame.payload.length ≤ maxMessageBytes
  · obtain ⟨hop, hmax⟩ := hhandled
    by_cases hlast : offset = c.frame.payload.length
    · obtain ⟨u, hsession, hclient, hu⟩ := h.last hop hmax (hs hop hmax) hlast
      have ht : t = (completeFrame u c.frame.opcode c.frame.payload).1 := congrArg Prod.fst hu
      refine ⟨?_, ?_, ?_, fun hne => absurd hlast hne⟩
      · rw [ht]
        exact hsession.trans (completeFrame_session u _ _)
      · rw [ht, completeFrame_client, hclient]
      · rw [hu, completeFrame_message hmax]
        have hreporting := Reporting.congr hsession
        by_cases hr : Reporting s
        · rw [if_pos (hreporting.mpr hr), if_pos ⟨hlast, hr⟩]
        · rw [if_neg (fun hu => hr (hreporting.mp hu)), if_neg (fun hb => hr hb.2)]
    · obtain ⟨hsession, hclient, hcalls, hcollecting⟩ := h.more hop hmax (hs hop hmax) hlast
      refine ⟨hsession, hclient, ?_, fun _ _ _ => hcollecting⟩
      rw [hcalls, if_neg (fun hb => hlast hb.1)]
      rfl
  · have heq := h.handleData_eq s
    rw [handleData_ignored hhandled] at heq
    have ht : t = s := congrArg Prod.fst heq
    rw [ht, heq, message_of_ignored hhandled]
    refine ⟨SameSession.refl s, rfl, ?_, fun _ hop hmax => absurd ⟨hop, hmax⟩ hhandled⟩
    simp

/-! ## Runs -/

theorem Follows.chunk {p : Platform} {σ : Reference} (h : Follows p σ) {task : Nat}
    {e : DataEvent} (hp : Presented σ (.chunk task e)) :
    (p.step (.chunk task e)).2.filterMap SinkCall.message = (σ.step (.chunk task e)).2 ∧
      Follows (p.step (.chunk task e)).1 (σ.step (.chunk task e)).1 := by
  obtain ⟨c, hc, hnext⟩ := hp
  obtain ⟨hsession, hclient, hcalls, hmore⟩ := hnext.spec (s := p.state) (h.cursor c hc)
  obtain ⟨hsink, hconnection, hconnected⟩ := hsession
  have hkeep : ∀ cursor, (∀ c', cursor = some c' → Handled c'.frame.opcode →
      c'.frame.payload.length ≤ maxMessageBytes → c'.offset = 0 ∨
        Collecting (handleData p.state e).1 c'.frame.opcode c'.frame.payload.length
          (c'.frame.payload.take c'.offset)) →
      Follows (p.step (.chunk task e)).1 { σ with cursor := cursor } := by
    intro cursor hcursor
    refine ⟨h.client.trans hclient.symm, h.connected.trans hconnected.symm, ?_, ?_, ?_, ?_,
      hcursor⟩
    · exact h.sink.trans (congrArg Option.isSome hsink).symm
    · intro hsome
      have := h.connection (hclient ▸ hsome)
      exact (congrArg Option.isSome hconnection).trans this
    · intro hlive
      have := h.live (hconnected.symm.trans hlive)
      exact (congrArg Option.isSome hclient).trans this
    · intro hclosing
      exact (congrArg Option.isSome hclient).trans (h.closing hclosing)
  have hout : (p.step (.chunk task e)).2 = (handleData p.state e).2 := rfl
  rw [hout, hcalls]
  simp only [Reference.step, hc]
  by_cases hlast : c.offset + e.dataLen.toNat = c.frame.payload.length
  · rw [if_pos hlast]
    refine ⟨?_, hkeep none nofun⟩
    by_cases hr : Reporting p.state
    · rw [if_pos ⟨hlast, hr⟩, if_pos (h.reporting_iff.mp hr)]
    · rw [if_neg (fun hb => hr hb.2), if_neg (fun hb => hr (h.reporting_iff.mpr hb))]
  · rw [if_neg hlast, if_neg (fun hb => hlast hb.1)]
    refine ⟨rfl, hkeep _ ?_⟩
    intro c' hc'
    obtain rfl := Option.some.inj hc'
    exact fun hop hmax => Or.inr (hmore hlast hop hmax)

theorem Follows.link {p : Platform} {σ : Reference} (h : Follows p σ) (task : Nat)
    (e : LinkEvent) :
    (p.step (.link task e)).2.filterMap SinkCall.message = (σ.step (.link task e)).2 ∧
      Follows (p.step (.link task e)).1 (σ.step (.link task e)).1 := by
  have hsilent : ∀ clean,
      (handleDisconnected p.state clean).2.filterMap SinkCall.message = [] := by
    intro clean
    unfold handleDisconnected
    dsimp only
    split
    · rfl
    · dsimp only
      split <;> rfl
  have hlost : ∀ clean, Follows ((p.noteEventTask task).withState
      (handleDisconnected p.state clean)).1 { σ with connected := false } := by
    intro clean
    simp only [Platform.withState, Platform.noteEventTask, handleDisconnected_state]
    exact ⟨h.client, rfl, h.sink, h.connection, nofun, h.closing, h.cursor⟩
  cases e with
  | disconnected => exact ⟨hsilent false, hlost false⟩
  | closed => exact ⟨hsilent true, hlost true⟩
  | connected =>
      simp only [Platform.step, Platform.handleLinkEvent, Platform.withState,
        Platform.noteEventTask, Reference.step]
      cases hclient : p.state.client with
      | none =>
          have hoff : p.state.connected = false := by
            by_contra hon
            have := h.live (by simpa using hon)
            simp [hclient] at this
          have hstay : handleConnected p.state = (p.state, []) := by
            simp [handleConnected, hclient]
          have hsame : σ.client.isSome = p.state.connected := by
            rw [h.client, hclient, hoff]
            rfl
          rw [hstay]
          exact ⟨rfl, h.client, hsame, h.sink, h.connection, h.live, h.closing, h.cursor⟩
      | some client =>
          obtain ⟨id, hid⟩ := Option.isSome_iff_exists.mp (h.connection (by rw [hclient]; rfl))
          simp only [handleConnected, hclient, hid, h.client]
          refine ⟨?_, ⟨rfl, rfl, h.sink, fun _ => by simp, fun _ => rfl, fun _ => rfl, ?_⟩⟩
          · split <;> rfl
          · exact h.cursor

theorem Follows.connect {p : Platform} {σ : Reference} (h : Follows p σ) (n : ConnectNatives)
    (id : Nat) : Follows (p.step (.connect n id)).1 (σ.step (.connect n id)).1 := by
  simp only [Platform.step, Platform.connect, Reference.step]
  by_cases hclient : p.state.client = none
  · have hopen : ¬ (p.state.client ≠ none ∨ p.disconnecting = true) := by
      rintro (hne | hclosing)
      · exact hne hclient
      · have := h.closing hclosing
        simp [hclient] at this
    have hoff : p.state.connected = false := by
      by_contra hon
      have := h.live (by simpa using hon)
      simp [hclient] at this
    rw [if_neg hopen, if_neg (fun hne => hne (h.client.trans hclient))]
    have hrefused : Follows p { σ with client := none, connected := false, cursor := none } :=
      ⟨hclient.symm, hoff.symm, h.sink, h.connection, h.live, h.closing, nofun⟩
    have hnone : n.created = none → Follows p
        { σ with client := n.created, connected := false, cursor := none } := fun hc => by
      rw [hc]
      exact hrefused
    cases hprepared : n.prepared with
    | failure error native => exact hnone (by simp [ConnectNatives.created, hprepared])
    | success =>
        cases hcreated : n.client with
        | none => exact hnone (by simp [ConnectNatives.created, hcreated])
        | some client =>
            by_cases hregistered : n.registered = .ok
            · by_cases hstarted : n.started = .ok
              · have hc : n.created = some client := by
                  simp [ConnectNatives.created, hprepared, hcreated, hregistered, hstarted]
                simp only [hregistered, hstarted, hc, ne_eq, not_true_eq_false, if_false]
                exact ⟨rfl, rfl, h.sink, fun _ => rfl, nofun, fun _ => rfl, nofun⟩
              · have hc : n.created = none := by
                  simp [ConnectNatives.created, hprepared, hcreated, hstarted]
                simp only [hregistered, hstarted, hc, ne_eq, not_true_eq_false, not_false_eq_true,
                  if_false, if_true]
                exact ⟨rfl, rfl, h.sink, nofun, nofun, fun hb => absurd hb fun k => hopen (.inr k),
                  nofun⟩
            · simp only [hregistered, ne_eq, not_false_eq_true, if_true]
              exact hnone (by simp [ConnectNatives.created, hprepared, hcreated, hregistered])
  · rw [if_pos (Or.inl hclient), if_pos (fun hnone => hclient (h.client.symm.trans hnone))]
    exact h

theorem Follows.finishDisconnect {p : Platform} {σ : Reference} (h : Follows p σ)
    (closing : Closing) :
    (p.step (.finishDisconnect closing)).2.filterMap SinkCall.message =
        (σ.step (.finishDisconnect closing)).2 ∧
      Follows (p.step (.finishDisconnect closing)).1 (σ.step (.finishDisconnect closing)).1 := by
  have hclient : (if σ.client = some closing.client then none else σ.client) =
      if p.state.client = some closing.client then none else p.state.client := by
    rw [h.client]
  have hconnection : (if p.state.client = some closing.client then none
      else p.state.client).isSome → p.state.connection.isSome := by
    split
    · exact nofun
    · exact h.connection
  simp only [Platform.step, Platform.finishDisconnect, Reference.step]
  split
  · refine ⟨?_, hclient, rfl, h.sink, hconnection, nofun, nofun, nofun⟩
    dsimp only
    cases p.state.sink.isSome <;> rfl
  · exact ⟨rfl, hclient, rfl, h.sink, hconnection, nofun, nofun, nofun⟩

/-- Every step keeps the platform in step, and reports the same payloads. -/
theorem Follows.step {p : Platform} {σ : Reference} {item : Item} (h : Follows p σ)
    (hp : Presented σ item) :
    (p.step item).2.filterMap SinkCall.message = (σ.step item).2 ∧
      Follows (p.step item).1 (σ.step item).1 := by
  cases item with
  | chunk task e => exact h.chunk hp
  | link task e => exact h.link task e
  | connect natives id =>
      refine ⟨?_, h.connect natives id⟩
      simp only [Platform.step, Reference.step]
      split <;> rfl
  | finishDisconnect closing => exact h.finishDisconnect closing
  | setSink sink =>
      exact ⟨rfl, h.client, h.connected, rfl, h.connection, h.live, h.closing, h.cursor⟩
  | frame f =>
      refine ⟨rfl, h.client, h.connected, h.sink, h.connection, h.live, h.closing, ?_⟩
      intro c hc _ _
      obtain rfl := Option.some.inj hc
      exact Or.inl rfl
  | beginDisconnect task code reason =>
      refine ⟨rfl, ?_⟩
      simp only [Platform.step, Platform.beginDisconnect, Reference.step]
      split
      · exact h
      · split
        · exact h
        · split
          · exact h
          · rename_i client hclient _ _
            exact ⟨h.client, h.connected, h.sink, h.connection, h.live, fun _ => by simp [hclient],
              h.cursor⟩

/-! ## Writes into the buffer -/

/-- A copy into `_incomingFrame`. -/
structure BufferWrite where
  size : Nat
  offset : Nat
  length : Nat
  deriving DecidableEq, Repr

/-- The `memcpy` of `HandleData`, if it gets that far: the size of
`_incomingFrame` at that point, and what is written. -/
def incomingWrite (s : ClientState) (event : DataEvent) : Option BufferWrite :=
  let payloadLength := event.payloadLen.toNat
  let offset := event.payloadOffset.toNat
  let dataLength := event.dataLen.toNat
  if event.payloadLen < 0 ∨ event.payloadOffset < 0 ∨ event.dataLen < 0 then none
  else if maxMessageBytes < payloadLength ∨ payloadLength < offset ∨
      payloadLength - offset < dataLength then none
  else if event.opCode = opcodePing ∨ event.opCode = opcodePong ∨
      event.opCode = opcodeContinuation then none
  else if offset = 0 ∧ dataLength = payloadLength then none
  else
    let size := if offset = 0 then payloadLength else s.incomingFrame.length
    let opcode := if offset = 0 then event.opCode else s.incomingOpcode
    if size ≠ payloadLength ∨ opcode ≠ event.opCode ∨
        (dataLength ≠ 0 ∧ event.dataPtr = none) then none
    else if dataLength ≠ 0 then some ⟨size, offset, dataLength⟩
    else none

theorem incomingWrite_inside {s : ClientState} {event : DataEvent} {w : BufferWrite}
    (h : incomingWrite s event = some w) : w.offset + w.length ≤ w.size := by
  simp only [incomingWrite, Option.ite_none_left_eq_some, Option.ite_none_right_eq_some] at h
  obtain ⟨-, hfits, -, -, hsize, -, hw⟩ := h
  cases hw
  dsimp only
  omega

/-- What `HandleData` makes of a chunk that it writes to the buffer. -/
theorem handleData_of_write {s : ClientState} {event : DataEvent} {w : BufferWrite}
    (h : incomingWrite s event = some w) :
    ∃ frame : Bytes, frame.length = w.size ∧
      let written := overwrite frame w.offset ((event.dataPtr.getD []).take w.length)
      handleData s event = finishChunk
        (if w.offset + w.length = w.size then
          ({ s with incomingFrame := [], incomingOpcode := 0 }, some (event.opCode, written))
        else ({ s with incomingFrame := written, incomingOpcode := event.opCode }, none)) := by
  simp only [incomingWrite, Option.ite_none_left_eq_some, Option.ite_none_right_eq_some] at h
  obtain ⟨hsigns, hfits, hkind, hpartial, hmatches, hbytes, hw⟩ := h
  obtain rfl := Option.some.inj hw
  obtain ⟨hping, hpong, hcontinuation⟩ : event.opCode ≠ opcodePing ∧ event.opCode ≠ opcodePong ∧
      event.opCode ≠ opcodeContinuation := by simpa only [not_or] using hkind
  have hreaches : handleData s event = finishChunk (assembleChunk s event.opCode
      event.payloadLen.toNat event.payloadOffset.toNat event.dataLen.toNat event.dataPtr) := by
    simp only [handleData, if_neg hsigns, if_neg hfits, hping, hpong, hcontinuation, or_self,
      if_false, if_neg hpartial]
  rw [hreaches]
  by_cases hfirst : event.payloadOffset.toNat = 0
  · simp only [if_pos hfirst, not_or, not_and] at hmatches
    have hdata : event.dataPtr ≠ none := hmatches.2.2 hbytes
    refine ⟨List.replicate event.payloadLen.toNat 0, by simp [hfirst], ?_⟩
    simp [assembleChunk, hfirst, hdata, hbytes]
  · simp only [if_neg hfirst, not_or, not_not, not_and] at hmatches ⊢
    obtain ⟨hlength, hopcode, hdata⟩ := hmatches
    refine ⟨s.incomingFrame, rfl, ?_⟩
    simp [assembleChunk, hfirst, hlength, hopcode, hdata hbytes, hbytes]

theorem finishChunk_incomingFrame (s : ClientState) (complete : Option (UInt8 × Bytes)) :
    (finishChunk (s, complete)).1.incomingFrame = s.incomingFrame := by
  cases complete with
  | none => rfl
  | some message =>
      unfold finishChunk
      dsimp only
      split
      · rfl
      · obtain ⟨code, reason, heq⟩ := completeFrame_frame s message.1 message.2
        rw [heq]

/-- Otherwise the buffer stays as it is, or is emptied or made anew. -/
theorem handleData_of_no_write {s : ClientState} {event : DataEvent}
    (h : incomingWrite s event = none) :
    (handleData s event).1.incomingFrame = s.incomingFrame ∨
      (handleData s event).1.incomingFrame = [] ∨
      (handleData s event).1.incomingFrame = List.replicate event.payloadLen.toNat 0 := by
  simp only [incomingWrite] at h
  simp only [handleData]
  by_cases hsigns : event.payloadLen < 0 ∨ event.payloadOffset < 0 ∨ event.dataLen < 0
  · exact .inl (by rw [if_pos hsigns])
  by_cases hfits : maxMessageBytes < event.payloadLen.toNat ∨
      event.payloadLen.toNat < event.payloadOffset.toNat ∨
        event.payloadLen.toNat - event.payloadOffset.toNat < event.dataLen.toNat
  · exact .inl (by rw [if_neg hsigns, if_pos hfits])
  by_cases hcontrol : event.opCode = opcodePing ∨ event.opCode = opcodePong
  · exact .inl (by rw [if_neg hsigns, if_neg hfits, if_pos hcontrol])
  by_cases hcontinuation : event.opCode = opcodeContinuation
  · exact .inl (by rw [if_neg hsigns, if_neg hfits, if_neg hcontrol, if_pos hcontinuation])
  by_cases hwhole : event.payloadOffset.toNat = 0 ∧ event.dataLen.toNat = event.payloadLen.toNat
  · obtain ⟨code, reason, heq⟩ := completeFrame_frame s event.opCode
      ((event.dataPtr.getD []).take event.dataLen.toNat)
    exact .inl (by
      rw [if_neg hsigns, if_neg hfits, if_neg hcontrol, if_neg hcontinuation, if_pos hwhole, heq])
  have hkind : ¬(event.opCode = opcodePing ∨ event.opCode = opcodePong ∨
      event.opCode = opcodeContinuation) := by tauto
  rw [if_neg hsigns, if_neg hfits, if_neg hkind, if_neg hwhole] at h
  rw [if_neg hsigns, if_neg hfits, if_neg hcontrol, if_neg hcontinuation, if_neg hwhole,
    finishChunk_incomingFrame]
  -- The chunk does not fit what is being collected, or it has no bytes.
  unfold assembleChunk
  by_cases hfirst : event.payloadOffset.toNat = 0
  · simp only [if_pos hfirst] at h ⊢
    rw [List.length_replicate]
    split
    · exact .inr (.inl rfl)
    · rename_i hmatches
      rw [if_neg hmatches] at h
      have hempty : ¬event.dataLen.toNat ≠ 0 := fun hbytes => by
        rw [if_pos hbytes] at h
        cases h
      rw [if_neg hempty]
      split
      · exact .inr (.inl rfl)
      · exact .inr (.inr rfl)
  · simp only [if_neg hfirst] at h ⊢
    split
    · exact .inr (.inl rfl)
    · rename_i hmatches
      rw [if_neg hmatches] at h
      have hempty : ¬event.dataLen.toNat ≠ 0 := fun hbytes => by
        rw [if_pos hbytes] at h
        cases h
      rw [if_neg hempty]
      split
      · exact .inr (.inl rfl)
      · exact .inl rfl

/-- **Every frame that is complete, once and unharmed.**  Whatever is cut
short, and whenever the platform is connected or not, its sink is given the
payloads that a receiver without a buffer reports, in the same order; and
nothing is written outside of the buffer. -/
theorem delivers_exactly (sink : Option Nat) {items : List Item}
    (h : Along Reference.step Presented (Reference.initial sink) items) :
    (feed Platform.step (Platform.initial sink) items).2.filterMap SinkCall.message =
        (feed Reference.step (Reference.initial sink) items).2 ∧
      ∀ before task e after, items = before ++ .chunk task e :: after → ∀ w,
        incomingWrite (feed Platform.step (Platform.initial sink) before).1.state e = some w →
          w.offset + w.length ≤ w.size :=
  ⟨(feed_simulation_along (f := Platform.step) (g := Reference.step) (R := Follows)
      (fun _ _ _ hr hp => hr.step hp) (follows_initial sink) h).1,
    fun _ _ _ _ _ _ hw => incomingWrite_inside hw⟩

/-- The link is lost one byte into the text `AB`; then comes the text `Hi`,
with an empty chunk before its second byte. -/
def cutRun : List Item :=
  [.connect ⟨.success, some 0, .ok, .ok⟩ 1, .link 7 .connected,
    .frame ⟨true, opcodeText, [65, 66]⟩, .chunk 7 ⟨opcodeText, 2, 0, some [65], 1⟩,
    .link 7 .disconnected, .link 7 .connected,
    .frame ⟨true, opcodeText, [72, 105]⟩, .chunk 7 ⟨opcodeText, 2, 0, some [72], 1⟩,
    .chunk 7 ⟨opcodeText, 2, 1, none, 0⟩, .chunk 7 ⟨opcodeText, 2, 1, some [105], 1⟩]

theorem delivers_exactly_cut :
    (feed Platform.step (Platform.initial (some 0)) cutRun).2.filterMap SinkCall.message =
      [(.text, [72, 105])] := by
  have hcut : Along Reference.step Presented (Reference.initial (some 0)) cutRun := by
    refine ⟨trivial, trivial, ⟨rfl, by decide⟩, ⟨_, rfl, ?_⟩, trivial, trivial, ⟨rfl, by decide⟩,
      ⟨_, rfl, ?_⟩, ⟨_, rfl, ?_⟩, ⟨_, rfl, ?_⟩, trivial⟩ <;>
      exact ⟨rfl, rfl, rfl, by decide, by decide, rfl⟩
  exact (delivers_exactly (some 0) hcut).1.trans (by decide)

end WebSocketClient
