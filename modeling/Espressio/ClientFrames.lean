import Espressio.WebSocketClient

/-!
# Whole frames through `handleData`

The native client hands a frame over as one or more consecutive DATA events.
`handleFrame` feeds them to `handleData`; `handleFrame_calls` and
`handleFrame_session` say what comes of it, for every chunking: a Text or
Binary frame within the limit is dispatched once, with its whole payload, and
any other frame reaches the sink not at all.

FIN does not occur in that statement.  So the first fragment of a fragmented
message is dispatched as if it were the message, and the continuations that
follow are dropped: `deliversWhole_iff` says exactly which frame sequences
still come through unharmed.
-/

namespace WebSocketClient

open NetworkBytes Fragments

/-- A frame as the peer sends it. -/
structure WireFrame where
  fin : Bool
  opcode : UInt8
  payload : Bytes
  deriving DecidableEq, Repr

def frameKind (opcode : UInt8) : Kind MessageType :=
  if opcode = opcodeText then .data .text
  else if opcode = opcodeBinary then .data .binary
  else if opcode = opcodeContinuation then .continuation
  else if opcode = opcodeClose ∨ opcode = opcodePing ∨ opcode = opcodePong then .control
  else .unknown

def WireFrame.toFrame (f : WireFrame) : Frame MessageType UInt8 :=
  ⟨frameKind f.opcode, f.fin, f.payload⟩

/-- A frame with the pieces in which the native client hands it over.  The
pieces follow one another without gaps, and each of them but the only piece
of an empty frame starts before the payload's end. -/
structure ChunkedFrame where
  frame : WireFrame
  chunks : List Bytes
  nonempty : chunks ≠ []
  covers : chunks.flatten = frame.payload
  contiguous : ∀ before chunk after, chunks = before ++ chunk :: after →
    before ≠ [] → before.flatten.length < frame.payload.length

/-- A frame that arrives in one event. -/
def ChunkedFrame.whole (f : WireFrame) : ChunkedFrame where
  frame := f
  chunks := [f.payload]
  nonempty := by simp
  covers := by simp
  contiguous := by
    intro before chunk after heq hne
    obtain ⟨first, rest, rfl⟩ := List.exists_cons_of_ne_nil hne
    simp at heq

/-- The DATA events of consecutive chunks, the first of them at `offset`. -/
def dataEvents (opcode : UInt8) (total offset : Nat) : List Bytes → List DataEvent
  | [] => []
  | chunk :: rest =>
      ⟨opcode, total, offset, some chunk, chunk.length⟩ ::
        dataEvents opcode total (offset + chunk.length) rest

def handleFrame (s : ClientState) (f : ChunkedFrame) : ClientState × List SinkCall :=
  Runs.feed handleData s (dataEvents f.frame.opcode f.frame.payload.length 0 f.chunks)

/-- Two states report payloads to the same sink on the same connection. -/
def SameSession (s t : ClientState) : Prop :=
  t.sink = s.sink ∧ t.connection = s.connection ∧ t.connected = s.connected

theorem SameSession.refl (s : ClientState) : SameSession s s := ⟨rfl, rfl, rfl⟩

theorem SameSession.trans {s t u : ClientState} (h : SameSession s t) (k : SameSession t u) :
    SameSession s u :=
  ⟨k.1.trans h.1, k.2.1.trans h.2.1, k.2.2.trans h.2.2⟩

/-- A state that differs in what is in the buffer, at most. -/
def Rebuffered (s t : ClientState) : Prop :=
  t = { s with incomingFrame := t.incomingFrame, incomingOpcode := t.incomingOpcode }

theorem Rebuffered.refl (s : ClientState) : Rebuffered s s := rfl

theorem Rebuffered.session {s t : ClientState} (h : Rebuffered s t) : SameSession s t := by
  rw [h]
  exact SameSession.refl s

theorem dispatchPayload_congr {s t : ClientState} (h : SameSession s t)
    (opcode : UInt8) (payload : Bytes) :
    dispatchPayload t opcode payload = dispatchPayload s opcode payload := by
  simp only [dispatchPayload, h.1, h.2.1, h.2.2]

theorem completeFrame_session (s : ClientState) (opcode : UInt8) (payload : Bytes) :
    SameSession s (completeFrame s opcode payload).1 := by
  unfold completeFrame rememberPeerClose
  split
  · split <;> exact SameSession.refl s
  · split <;> exact SameSession.refl s

theorem completeFrame_calls (s : ClientState) (opcode : UInt8) (payload : Bytes) :
    (completeFrame s opcode payload).2 =
      if opcode = opcodeText ∨ opcode = opcodeBinary then dispatchPayload s opcode payload
      else [] := by
  unfold completeFrame
  by_cases hclose : opcode = opcodeClose
  · subst hclose
    simp [opcodeClose, opcodeText, opcodeBinary]
  · rw [if_neg hclose]
    split <;> rfl

/-- The opcodes whose frames `handleData` looks at all. -/
def Handled (opcode : UInt8) : Prop :=
  opcode ≠ opcodePing ∧ opcode ≠ opcodePong ∧ opcode ≠ opcodeContinuation

instance (opcode : UInt8) : Decidable (Handled opcode) := by
  unfold Handled; infer_instance

/-- The chunks before `written.length` are in the buffer, for this opcode. -/
def Collecting (s : ClientState) (opcode : UInt8) (total : Nat) (written : Bytes) : Prop :=
  s.incomingOpcode = opcode ∧
  s.incomingFrame = written ++ List.replicate (total - written.length) 0

/-- A frame of another kind, or above the limit, is ignored chunk by chunk. -/
theorem handleData_ignored {s : ClientState} {opcode : UInt8} {total offset : Nat}
    {chunk : Bytes} (h : ¬ (Handled opcode ∧ total ≤ maxMessageBytes)) :
    handleData s ⟨opcode, total, offset, some chunk, chunk.length⟩ = (s, []) := by
  simp only [handleData, Int.toNat_natCast]
  split
  · rfl
  · split
    · rfl
    · rename_i hlimit
      have hop : ¬ Handled opcode := fun hop => h ⟨hop, by omega⟩
      unfold Handled at hop
      split
      · rfl
      · split
        · rfl
        · rename_i hcontrol hcont
          exact (hop ⟨fun e => hcontrol (Or.inl e), fun e => hcontrol (Or.inr e), hcont⟩).elim

/-- A chunk inside a frame that is handled. -/
theorem handleData_chunk {s : ClientState} {opcode : UInt8} {total offset : Nat}
    {chunk : Bytes} (hop : Handled opcode) (hmax : total ≤ maxMessageBytes)
    (hfit : offset + chunk.length ≤ total) :
    handleData s ⟨opcode, total, offset, some chunk, chunk.length⟩ =
      if offset = 0 ∧ chunk.length = total then completeFrame s opcode chunk
      else finishChunk (assembleChunk s opcode total offset chunk.length (some chunk)) := by
  obtain ⟨hping, hpong, hcont⟩ := hop
  have hneg : ¬ ((total : Int) < 0 ∨ (offset : Int) < 0 ∨ (chunk.length : Int) < 0) := by omega
  have hlimit : ¬ (maxMessageBytes < total ∨ total < offset ∨ total - offset < chunk.length) := by
    omega
  simp [handleData, hneg, hlimit, hping, hpong, hcont]

/-- The bytes in the buffer once a collected frame has got one more chunk. -/
theorem overwrite_collecting (total : Nat) (written chunk : Bytes) :
    overwrite (written ++ List.replicate (total - written.length) 0) written.length chunk =
      (written ++ chunk) ++ List.replicate (total - (written ++ chunk).length) 0 := by
  rw [overwrite_written, List.drop_replicate, List.length_append, Nat.sub_sub]

/-- One chunk of a frame that is collected: the last one hands the whole frame
out, any other one extends what is there.  At offset zero the buffer is set
up afresh, so nothing is asked of it there. -/
theorem assembleChunk_eq {s : ClientState} {opcode : UInt8} {total : Nat}
    {written chunk : Bytes} (hs : written = [] ∨ Collecting s opcode total written)
    (hfit : written.length + chunk.length ≤ total) :
    assembleChunk s opcode total written.length chunk.length (some chunk) =
      if written.length + chunk.length = total then
        ({ s with incomingFrame := [], incomingOpcode := 0 }, some (opcode, written ++ chunk))
      else
        ({ s with
            incomingFrame := (written ++ chunk) ++
              List.replicate (total - (written ++ chunk).length) 0
            incomingOpcode := opcode }, none) := by
  have hreset : (if written.length = 0 then
        { s with incomingFrame := List.replicate total 0, incomingOpcode := opcode } else s) =
      { s with
        incomingFrame := written ++ List.replicate (total - written.length) 0
        incomingOpcode := opcode } := by
    by_cases hw : written = []
    · subst hw; simp
    · obtain ⟨hopcode, hframe⟩ := hs.resolve_left hw
      have hlen : written.length ≠ 0 := by simpa using hw
      rw [if_neg hlen, ← hopcode, ← hframe]
  have hlength :
      (written ++ List.replicate (total - written.length) (0 : UInt8)).length = total := by
    simp only [List.length_append, List.length_replicate]; omega
  have hframe : (if chunk.length ≠ 0 then
        overwrite (written ++ List.replicate (total - written.length) 0) written.length
          (chunk.take chunk.length)
      else written ++ List.replicate (total - written.length) 0) =
      (written ++ chunk) ++ List.replicate (total - (written ++ chunk).length) 0 := by
    by_cases hc : chunk = []
    · subst hc; simp
    · have : chunk.length ≠ 0 := by simpa using hc
      rw [if_pos this, List.take_length, overwrite_collecting]
  unfold assembleChunk
  simp only [hreset, hlength, Option.getD_some, hframe]
  by_cases hlast : written.length + chunk.length = total
  · simp [hlast]
  · simp [hlast]

/-- From any point inside a handled frame, the remaining chunks complete it
exactly once. -/
theorem feed_chunks {opcode : UInt8} {payload : Bytes} (hop : Handled opcode)
    (hmax : payload.length ≤ maxMessageBytes) (chunks : List Bytes) :
    ∀ (s : ClientState) (written : Bytes),
      chunks ≠ [] → written ++ chunks.flatten = payload →
      (∀ before chunk after, chunks = before ++ chunk :: after → before ≠ [] →
        (written ++ before.flatten).length < payload.length) →
      (written = [] ∨ (Collecting s opcode payload.length written ∧
        written.length < payload.length)) →
      ∃ t, Rebuffered s t ∧
        Runs.feed handleData s (dataEvents opcode payload.length written.length chunks) =
          completeFrame t opcode payload := by
  have hzero : opcode ≠ 0 := hop.2.2
  induction chunks with
  | nil => intro s written hne; exact absurd rfl hne
  | cons chunk rest ih =>
      intro s written _ hcovers hcontiguous hs
      have hbuffer : written = [] ∨ Collecting s opcode payload.length written :=
        hs.imp_right And.left
      cases rest with
      | nil =>
          have hpayload : written ++ chunk = payload := by simpa using hcovers
          have hlen : written.length + chunk.length = payload.length := by
            rw [← hpayload, List.length_append]
          simp only [dataEvents, Runs.feed_cons, Runs.feed_nil, List.append_nil,
            handleData_chunk hop hmax (Nat.le_of_eq hlen)]
          by_cases hwhole : written.length = 0 ∧ chunk.length = payload.length
          · have hnil : written = [] := List.eq_nil_of_length_eq_zero hwhole.1
            refine ⟨s, Rebuffered.refl s, ?_⟩
            rw [if_pos hwhole, ← hpayload, hnil, List.nil_append]
          · refine ⟨{ s with incomingFrame := [], incomingOpcode := 0 }, rfl, ?_⟩
            rw [if_neg hwhole, assembleChunk_eq hbuffer (Nat.le_of_eq hlen), if_pos hlen,
              finishChunk,
              if_neg hzero, hpayload]
      | cons next rest =>
          have hlt : written.length + chunk.length < payload.length := by
            simpa using hcontiguous [chunk] next rest rfl (by simp)
          have hnot : ¬ (written.length = 0 ∧ chunk.length = payload.length) := by omega
          obtain ⟨t, hsame, hfeed⟩ := ih
            { s with
              incomingFrame := (written ++ chunk) ++
                List.replicate (payload.length - (written ++ chunk).length) 0
              incomingOpcode := opcode }
            (written ++ chunk) (by simp) (by simpa using hcovers)
            (fun before c after heq hne => by
              simpa using hcontiguous (chunk :: before) c after (by rw [heq]; rfl) (by simp))
            (Or.inr ⟨⟨rfl, rfl⟩, by simpa using hlt⟩)
          refine ⟨t, hsame, ?_⟩
          rw [dataEvents, Runs.feed_cons, handleData_chunk hop hmax (Nat.le_of_lt hlt), if_neg hnot,
            assembleChunk_eq hbuffer (Nat.le_of_lt hlt), if_neg (Nat.ne_of_lt hlt), finishChunk,
            ← List.length_append,
            hfeed]
          simp

theorem feed_ignored {opcode : UInt8} {total : Nat}
    (h : ¬ (Handled opcode ∧ total ≤ maxMessageBytes)) (s : ClientState)
    (chunks : List Bytes) (offset : Nat) :
    Runs.feed handleData s (dataEvents opcode total offset chunks) = (s, []) := by
  induction chunks generalizing offset with
  | nil => rfl
  | cons chunk rest ih =>
      rw [dataEvents, Runs.feed_cons, handleData_ignored h]
      simp [ih]

/-- **One frame, however it is chunked.**  A handled frame within the limit is
completed once, with nothing but the buffer touched; any other is ignored. -/
theorem handleFrame_eq (s : ClientState) (f : ChunkedFrame) :
    ∃ t, Rebuffered s t ∧
      handleFrame s f =
        if Handled f.frame.opcode ∧ f.frame.payload.length ≤ maxMessageBytes then
          completeFrame t f.frame.opcode f.frame.payload
        else (s, []) := by
  by_cases h : Handled f.frame.opcode ∧ f.frame.payload.length ≤ maxMessageBytes
  · obtain ⟨t, hsame, hfeed⟩ := feed_chunks h.1 h.2 f.chunks s [] f.nonempty
      (by simpa using f.covers) (by simpa using f.contiguous) (Or.inl rfl)
    refine ⟨t, hsame, ?_⟩
    rw [if_pos h]
    exact hfeed
  · refine ⟨s, Rebuffered.refl s, ?_⟩
    rw [if_neg h]
    exact feed_ignored h s f.chunks 0

theorem handleFrame_session (s : ClientState) (f : ChunkedFrame) :
    SameSession s (handleFrame s f).1 := by
  obtain ⟨t, hsame, heq⟩ := handleFrame_eq s f
  rw [heq]
  split
  · exact hsame.session.trans (completeFrame_session t _ _)
  · exact SameSession.refl s

/-- The frames `handleData` passes on to the sink. -/
def Dispatched (f : WireFrame) : Prop :=
  (f.opcode = opcodeText ∨ f.opcode = opcodeBinary) ∧ f.payload.length ≤ maxMessageBytes

instance (f : WireFrame) : Decidable (Dispatched f) := by
  unfold Dispatched; infer_instance

theorem handled_of_data {opcode : UInt8} (h : opcode = opcodeText ∨ opcode = opcodeBinary) :
    Handled opcode := by
  rcases h with rfl | rfl <;> decide

theorem handleFrame_calls (s : ClientState) (f : ChunkedFrame) :
    (handleFrame s f).2 =
      if Dispatched f.frame then dispatchPayload s f.frame.opcode f.frame.payload else [] := by
  obtain ⟨t, hsame, heq⟩ := handleFrame_eq s f
  rw [heq]
  by_cases hdata : f.frame.opcode = opcodeText ∨ f.frame.opcode = opcodeBinary
  · by_cases hmax : f.frame.payload.length ≤ maxMessageBytes
    · rw [if_pos ⟨handled_of_data hdata, hmax⟩, if_pos ⟨hdata, hmax⟩, completeFrame_calls,
        if_pos hdata, dispatchPayload_congr hsame.session]
    · rw [if_neg (fun h => hmax h.2), if_neg (fun h => hmax h.2)]
  · have hnot : ¬ Dispatched f.frame := fun h => hdata h.1
    rw [if_neg hnot]
    split
    · rw [completeFrame_calls, if_neg hdata]
    · rfl

/-- A run of whole frames stays in its session. -/
theorem feed_session (s : ClientState) (frames : List ChunkedFrame) :
    SameSession s (Runs.feed handleFrame s frames).1 := by
  induction frames generalizing s with
  | nil => exact SameSession.refl s
  | cons f frames ih => exact (handleFrame_session s f).trans (ih _)

/-- The message a sink call reports. -/
def SinkCall.message : SinkCall → Option (MessageType × Bytes)
  | .text _ payload => some (.text, payload)
  | .binary _ payload => some (.binary, payload)
  | _ => none

/-- The platform reports payloads to a sink. -/
def Reporting (s : ClientState) : Prop :=
  s.connected = true ∧ s.sink.isSome ∧ s.connection.isSome

theorem dispatchPayload_message {s : ClientState} {f : WireFrame} (hs : Reporting s)
    (hf : Dispatched f) :
    ∃ type, frameKind f.opcode = .data type ∧
      (dispatchPayload s f.opcode f.payload).map SinkCall.message =
        [some (type, f.payload)] := by
  obtain ⟨hconnected, hsink, hconnection⟩ := hs
  obtain ⟨id, hid⟩ := Option.isSome_iff_exists.mp hconnection
  rcases hf.1 with hop | hop
  · exact ⟨.text, by simp [frameKind, hop],
      by simp [dispatchPayload, hid, hconnected, hsink, hop, SinkCall.message]⟩
  · exact ⟨.binary, by simp [frameKind, hop, opcodeBinary, opcodeText],
      by simp [dispatchPayload, hid, hconnected, hsink, hop, opcodeBinary, opcodeText,
        SinkCall.message]⟩

theorem dispatchPayload_silent {s : ClientState} (hs : ¬ Reporting s) (opcode : UInt8)
    (payload : Bytes) : dispatchPayload s opcode payload = [] := by
  unfold dispatchPayload
  split
  · rename_i id hid
    rw [if_neg (fun h => hs ⟨h.1, h.2, by simp [hid]⟩)]
  · rfl

theorem Reporting.congr {s t : ClientState} (h : SameSession s t) :
    Reporting t ↔ Reporting s := by
  unfold Reporting
  rw [h.1, h.2.1, h.2.2]

theorem messageFrom_data {f : WireFrame} {type : MessageType}
    (h : frameKind f.opcode = .data type) (rest : List (Frame MessageType UInt8)) :
    messageFrom (f.toFrame :: rest) =
      if f.fin then some (type, f.payload)
      else (restOfMessage rest).map fun tail => (type, f.payload ++ tail) := by
  simp [messageFrom, WireFrame.toFrame, h]

/-- Every payload passed to the sink is the whole message that the frame being
handled opens.  A fragmented message is thus reported whole or not at all. -/
def DeliversWhole (s : ClientState) (frames : List ChunkedFrame) : Prop :=
  ∀ before f after, frames = before ++ f :: after →
    ∀ call ∈ (handleFrame (Runs.feed handleFrame s before).1 f).2,
      ∀ message, call.message = some message →
        messageFrom ((f :: after).map fun g => g.frame.toFrame) = some message

/-- Every fragmented message that is small enough at its start carries all of
its bytes in its first fragment: what follows are empty continuations, up to a
final one. -/
def FirstFragmentsWhole (frames : List ChunkedFrame) : Prop :=
  ∀ before f after, frames = before ++ f :: after →
    Dispatched f.frame → f.frame.fin = false →
      restOfMessage (after.map fun g => g.frame.toFrame) = some []

/-- **Fragmented messages.**  Payloads come through whole exactly when no
message of the sequence has bytes beyond its first fragment. -/
theorem deliversWhole_iff (s : ClientState) (frames : List ChunkedFrame) :
    DeliversWhole s frames ↔ (Reporting s → FirstFragmentsWhole frames) := by
  constructor
  · intro hwhole hs before f after heq hf hfin
    have hsession := feed_session s before
    obtain ⟨type, hkind, hcalls⟩ := dispatchPayload_message ((Reporting.congr hsession).mpr hs) hf
    obtain ⟨call, hcall, hmessage⟩ := List.mem_map.mp
      (hcalls ▸ List.mem_singleton_self (some (type, f.frame.payload)))
    have hfrom := hwhole before f after heq call
      (by rw [handleFrame_calls, if_pos hf]; exact hcall) _ hmessage
    rw [List.map_cons, messageFrom_data hkind, hfin] at hfrom
    obtain ⟨tail, htail, happend⟩ := Option.map_eq_some_iff.mp hfrom
    have : f.frame.payload ++ tail = f.frame.payload := congrArg Prod.snd happend
    rw [htail, List.self_eq_append_right.mp this.symm]
  · intro hlossless before f after heq call hcall message hmessage
    rw [handleFrame_calls] at hcall
    by_cases hf : Dispatched f.frame
    · rw [if_pos hf] at hcall
      by_cases hs : Reporting (Runs.feed handleFrame s before).1
      · obtain ⟨type, hkind, hcalls⟩ := dispatchPayload_message hs hf
        have hmem := List.mem_map_of_mem (f := SinkCall.message) hcall
        rw [hcalls, hmessage, List.mem_singleton] at hmem
        rw [List.map_cons, messageFrom_data hkind, hmem]
        cases hfin : f.frame.fin with
        | true => rfl
        | false =>
            have hsession := feed_session s before
            rw [hlossless ((Reporting.congr hsession).mp hs) before f after heq hf hfin]
            simp
      · rw [dispatchPayload_silent hs] at hcall
        cases hcall
    · rw [if_neg hf] at hcall
      cases hcall

/-- The text `Hi` in two fragments: the sink is given the text `H`. -/
theorem first_fragment_delivered_as_message :
    ¬ DeliversWhole (handleConnected (establish (initial (some 0)) 0 1)).1
      [ChunkedFrame.whole ⟨false, opcodeText, [72]⟩,
        ChunkedFrame.whole ⟨true, opcodeContinuation, [105]⟩] := by
  intro h
  have hfrom := h [] _ _ rfl (.text 1 [72]) (by decide) (.text, [72]) rfl
  revert hfrom
  decide

end WebSocketClient
