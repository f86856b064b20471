import Espressio.ConnectionEffects

/-!
# What a frame comes to

`Receives` is all that a frame can come to at the connection it is for: it is
not read, it fails the connection, it is a control frame, or it is taken into a
message.  Which of these happens is a matter of the frame and of the native
answers, and for the frames of a message of what the connection has
accumulated.  Whether the connection is still open does not matter to it.
-/

namespace WebSocketEndpoint

open NetworkBytes Web

def IsControl (type : FrameType) : Prop := type = .ping ∨ type = .pong ∨ type = .close

theorem findConnection_socket {b : BindingState} {socket : Nat} {c : Connection}
    (h : b.findConnection socket = some c) : c.socket = socket := by
  simpa using List.find?_some h

/-- What is written back is what is found. -/
theorem findConnection_store {b : BindingState} {c d : Connection} {socket : Nat}
    (hd : b.findConnection socket = some d) (hc : c.socket = socket) :
    (b.storeConnection c).findConnection socket = some c := by
  unfold BindingState.findConnection BindingState.storeConnection at *
  generalize b.connections = cs at hd
  induction cs with
  | nil => simp at hd
  | cons e rest ih =>
      by_cases he : e.socket = socket
      · simp [replaceConnection, he, hc]
      · rw [List.find?_cons_of_neg (by simpa using he)] at hd
        simp [replaceConnection, he, hc]
        exact ih hd

/-- A frame is read from end to end: its header, a payload within the limit. -/
structure ReadWhole (n : RequestNatives) (f : WsFrame) : Prop where
  header : n.header = .ok
  fits : f.payload.length ≤ maxMessageBytes
  payload : n.payload = .ok

/-- A frame that does not belong where it comes, or that makes its message too
long. -/
def Connection.Refuses (c : Connection) (f : WsFrame) : Prop :=
  match f.type with
  | .text | .binary => c.fragmenting = true
  | .continuation =>
      c.fragmenting = false ∨ maxMessageBytes < c.fragmentBuffer.length + f.payload.length
  | .other _ => True
  | _ => False

/-- A frame that ends a message that it does not make too long. -/
def Connection.Completes (c : Connection) (f : WsFrame) : Prop :=
  match f.type with
  | .text | .binary => c.fragmenting = false ∧ f.final = true
  | .continuation =>
      c.fragmenting = true ∧ c.fragmentBuffer.length + f.payload.length ≤ maxMessageBytes ∧
        f.final = true ∧ (c.fragmentType = .text ∨ c.fragmentType = .binary)
  | _ => False

/-- A frame above the maximum, a fragmentation error, or a message that gets
above the maximum. -/
def Connection.Fails (c : Connection) (n : RequestNatives) (f : WsFrame) : Prop :=
  n.header = .ok ∧ maxMessageBytes < f.payload.length ∨ ReadWhole n f ∧ c.Refuses f

/-- A frame that ends its connection: it fails it, or it is the peer's Close. -/
def Connection.Ends (c : Connection) (n : RequestNatives) (f : WsFrame) : Prop :=
  c.Fails n f ∨ ReadWhole n f ∧ f.type = .close

/-- The connection of the socket is no longer open. -/
def Closed (socket : Nat) (b : BindingState) : Prop :=
  ∃ c, b.findConnection socket = some c ∧ c.isOpen = false

/-- A control frame that is read fails nothing. -/
theorem Connection.Fails.notControl {c : Connection} {n : RequestNatives} {f : WsFrame}
    (h : c.Fails n f) (read : ReadWhole n f) : ¬ IsControl f.type := by
  rcases h with ⟨-, hlong⟩ | ⟨-, hrefuses⟩
  · exact absurd read.fits (Nat.not_le.mpr hlong)
  · intro hcontrol
    unfold Connection.Refuses at hrefuses
    rcases hcontrol with h | h | h <;> simp [h] at hrefuses

/-- A frame that fails its connection completes nothing. -/
theorem Connection.Fails.incomplete {c : Connection} {n : RequestNatives} {f : WsFrame}
    (h : c.Fails n f) (read : ReadWhole n f) : ¬ c.Completes f := by
  rcases h with ⟨-, hlong⟩ | ⟨-, hrefuses⟩
  · exact absurd read.fits (Nat.not_le.mpr hlong)
  · unfold Connection.Refuses at hrefuses
    unfold Connection.Completes
    split at hrefuses
    · simp_all
    · simp_all
    · rename_i htype
      rw [htype]
      refine fun hcompletes => hrefuses.elim (fun h => ?_) fun h => ?_
      · simp [h] at hcompletes
      · exact absurd hcompletes.2.1 (Nat.not_le.mpr h)
    · simp_all
    · exact hrefuses.elim

/-- What a frame comes to at connection `c`: the binding state after it, what
it hands to HTTPD, and what it tells the sink. -/
inductive Receives (b : BindingState) (c : Connection) (n : RequestNatives) (f : WsFrame) :
    BindingState → List FrameType → List SinkCall → Prop
  | unread (unreadable : ¬ ReadWhole n f) (unfailed : ¬ c.Fails n f) : Receives b c n f b [] []
  | failed (fails : c.Fails n f) (c' : Connection) (line : SameLine c c') (code : UInt16)
      (reason : Bytes) :
      Receives b c n f (b.storeConnection (c'.close n.close code reason).1)
        (sent (c'.close n.close code reason).2.2) []
  | ping (read : ReadWhole n f) (type : f.type = .ping) : Receives b c n f b [.pong] []
  | pong (read : ReadWhole n f) (type : f.type = .pong) : Receives b c n f b [] []
  | closed (read : ReadWhole n f) (type : f.type = .close) :
      Receives b c n f (b.storeConnection (c.rememberPeerClose f.payload)) [.close] []
  | taken (read : ReadWhole n f) (message : ¬ IsControl f.type) (accepted : ¬ c.Refuses f)
      (c' : Connection) (line : SameLine c c') (calls : List SinkCall)
      (told : calls ≠ [] ↔ c.Completes f ∧ b.sink ≠ none)
      (messages : ∀ call ∈ calls, IsMessage c.socket call) :
      Receives b c n f (b.storeConnection c') [] calls

/-- **`AccumulateFragment`** on a frame of a message. -/
theorem accumulateFragment_cases {c : Connection} {f : WsFrame} (hmessage : ¬ IsControl f.type)
    (hfits : f.payload.length ≤ maxMessageBytes) :
    (c.Refuses f ∧ ∃ error native,
      (c.accumulateFragment f.type f.final f.payload).2 = (.failure error native, none)) ∨
    (¬ c.Refuses f ∧ ∃ message,
      (c.accumulateFragment f.type f.final f.payload).2 = (.success, message) ∧
        ((∃ type payload, message = some (type, payload) ∧ (type = .text ∨ type = .binary)) ↔
          c.Completes f)) := by
  obtain ⟨type, final, payload⟩ := f
  have hshort : ¬ maxMessageBytes < payload.length := Nat.not_lt.mpr hfits
  cases type with
  | close | ping | pong => simp [IsControl] at hmessage
  | other opcode =>
      exact Or.inl ⟨trivial, .protocolError, .none, by simp [Connection.accumulateFragment]⟩
  | text | binary =>
      by_cases hfragmenting : c.fragmenting = true
      · exact Or.inl ⟨hfragmenting, .protocolError, .none,
          by simp [Connection.accumulateFragment, hfragmenting]⟩
      · refine Or.inr ⟨hfragmenting, ?_⟩
        cases final <;>
          simp [Connection.accumulateFragment, Connection.Completes, hfragmenting, hshort]
  | continuation =>
      by_cases hfragmenting : c.fragmenting = true
      · by_cases hlong : maxMessageBytes < c.fragmentBuffer.length + payload.length
        · exact Or.inl ⟨Or.inr hlong, .resourceExhausted, .none,
            by simp [Connection.accumulateFragment, hfragmenting, hlong]⟩
        · refine Or.inr ⟨fun h => h.elim (by simp [hfragmenting]) hlong, ?_⟩
          cases final <;>
            simp [Connection.accumulateFragment, Connection.Completes, hfragmenting, hlong,
              Nat.not_lt.mp hlong]
      · have hidle : c.fragmenting = false := by simpa using hfragmenting
        exact Or.inl ⟨Or.inl hidle, .protocolError, .none,
          by simp [Connection.accumulateFragment, hidle]⟩

/-- A frame of a message, once it is read. -/
theorem handleDataFrame_receives (b : BindingState) {c : Connection} {n : RequestNatives}
    {f : WsFrame} (read : ReadWhole n f) (hmessage : ¬ IsControl f.type) :
    let r := b.handleDataFrame n c f
    Receives b c n f r.1 (sent r.2.2) (told r.2.2) := by
  have hquiet : ∀ (P : Prop) [Decidable P] (a : Activity),
      told (if P then b.notifyActivity a else []) = [] ∧
        sent (if P then b.notifyActivity a else []) = [] := by
    intro P _ a
    split
    · exact ⟨told_notifyActivity b a, sent_notifyActivity b a⟩
    · exact ⟨rfl, rfl⟩
  unfold BindingState.handleDataFrame
  have hline := accumulateFragment_line c f.type f.final f.payload
  have hcases := accumulateFragment_cases (c := c) hmessage read.fits
  generalize c.accumulateFragment f.type f.final f.payload = r at hline hcases ⊢
  obtain ⟨c', result, message⟩ := r
  rcases hcases with ⟨hrefuses, error, native, hacc⟩ | ⟨haccepts, message, hacc, hcompletes⟩
  · cases hacc
    simp only [told_append, sent_append, hquiet, told_notifyActivity, sent_notifyActivity,
      told_close, List.nil_append]
    exact .failed (.inr ⟨read, hrefuses⟩) c' hline _ _
  · cases hacc
    cases message with
    | none =>
        simp only [hquiet]
        refine .taken read hmessage haccepts c' hline [] ?_ (by simp)
        simp [← hcompletes]
    | some message =>
        obtain ⟨type, payload⟩ := message
        have hsent : sent (b.deliver c.socket type payload) = [] := by
          unfold BindingState.deliver
          split <;> simp
        simp only [told_append, sent_append, hquiet, hsent, List.nil_append]
        refine .taken read hmessage haccepts c' hline _ ?_ (told_deliver b c.socket type payload)
        rw [told_deliver_ne_nil, ← hcompletes]
        simp

theorem receiveFrame_receives (b : BindingState) (c : Connection) (n : RequestNatives)
    (f : WsFrame) :
    let r := b.receiveFrame n c f
    Receives b c n f r.1 (sent r.2.2) (told r.2.2) := by
  unfold BindingState.receiveFrame
  by_cases hheader : n.header = .ok
  · rw [if_neg (not_not.mpr hheader)]
    dsimp only
    by_cases hlong : maxMessageBytes < f.payload.length
    · rw [if_pos hlong]
      simp only [told_append, sent_append, told_notifyActivity, sent_notifyActivity, told_close,
        List.nil_append]
      exact .failed (.inl ⟨hheader, hlong⟩) c (.refl c) _ _
    · rw [if_neg hlong]
      by_cases hpayload : n.payload = .ok
      · rw [if_neg (not_not.mpr hpayload)]
        have read : ReadWhole n f := ⟨hheader, Nat.not_lt.mp hlong, hpayload⟩
        simp only [told_append, sent_append, told_notifyActivity, sent_notifyActivity,
          List.nil_append]
        unfold BindingState.handleFrame
        split
        · rename_i htype
          simpa using Receives.ping read htype
        · rename_i htype
          simpa using Receives.pong read htype
        · rename_i htype
          simpa using Receives.closed read htype
        · rename_i hping hpong hclose
          exact handleDataFrame_receives b read fun h => h.elim hping fun h => h.elim hpong hclose
      · rw [if_pos hpayload]
        simp only [told_append, sent_append, told_notifyActivity, sent_notifyActivity,
          List.nil_append]
        refine .unread (fun read => hpayload read.payload) ?_
        intro hfails
        exact hfails.elim (fun h => hlong h.2) fun h => hpayload h.1.payload
  · rw [if_pos hheader]
    simp only [told_notifyActivity, sent_notifyActivity]
    refine .unread (fun read => hheader read.header) ?_
    intro hfails
    exact hfails.elim (fun h => hheader h.1) fun h => hheader h.1.header

theorem closed_store {b : BindingState} {socket : Nat} {c d : Connection}
    (hd : b.findConnection socket = some d) (hc : c.socket = d.socket) (hshut : c.isOpen = false) :
    Closed socket (b.storeConnection c) :=
  ⟨c, findConnection_store hd (hc.trans (findConnection_socket hd)), hshut⟩

section Outcome

variable {b b' : BindingState} {c : Connection} {n : RequestNatives} {f : WsFrame}
  {frames : List FrameType} {calls : List SinkCall} {socket : Nat}

/-- A frame that ends its connection leaves it closed, and a Close frame of the
peer is echoed whatever the connection was. -/
theorem Receives.ended (h : Receives b c n f b' frames calls) (hends : c.Ends n f)
    (hfind : b.findConnection socket = some c) :
    Closed socket b' ∧
      (c.Fails n f ∧ frames = (if c.isOpen = true ∧ c.Takes n.close then [.close] else []) ∨
        (ReadWhole n f ∧ f.type = .close) ∧ frames = [.close]) := by
  cases h with
  | unread unreadable unfailed =>
      exact (hends.elim unfailed fun h => unreadable h.1).elim
  | failed fails c' line code reason =>
      refine ⟨closed_store hfind ((close_socket ..).trans line.socket) (isOpen_close ..),
        Or.inl ⟨fails, ?_⟩⟩
      rw [sent_close]
      exact if_congr (by simp [line.kept, Connection.Takes, line.server]) rfl rfl
  | ping read type =>
      exact (hends.elim (fun h => h.notControl read (.inl type)) fun h => by simp [type] at h).elim
  | pong read type =>
      refine (hends.elim (fun h => h.notControl read (.inr (.inl type))) fun h => ?_).elim
      simp [type] at h
  | closed read type =>
      exact ⟨closed_store hfind (socket_rememberPeerClose ..) (isOpen_rememberPeerClose ..),
        Or.inr ⟨⟨read, type⟩, rfl⟩⟩
  | taken read message accepted c' line calls told messages =>
      refine (hends.elim (fun h => ?_) fun h => message (.inr (.inr h.2))).elim
      rcases h with ⟨-, hlong⟩ | ⟨-, hrefuses⟩
      · exact absurd read.fits (Nat.not_le.mpr hlong)
      · exact accepted hrefuses

/-- Any other frame leaves the connection as open as it was, and nothing is
sent for it but a Pong. -/
theorem Receives.lives (h : Receives b c n f b' frames calls) (hends : ¬ c.Ends n f)
    (hfind : b.findConnection socket = some c) :
    (frames = [] ∨ frames = [.pong]) ∧ (c.isOpen = false → Closed socket b') := by
  cases h with
  | unread => exact ⟨Or.inl rfl, fun hshut => ⟨c, hfind, hshut⟩⟩
  | failed fails => exact absurd (Or.inl fails) hends
  | ping => exact ⟨Or.inr rfl, fun hshut => ⟨c, hfind, hshut⟩⟩
  | pong => exact ⟨Or.inl rfl, fun hshut => ⟨c, hfind, hshut⟩⟩
  | closed read type => exact absurd (Or.inr ⟨read, type⟩) hends
  | taken read message accepted c' line =>
      exact ⟨Or.inl rfl, fun hshut => closed_store hfind line.socket (line.kept.trans hshut)⟩

/-- **Messages.**  A frame delivers a message exactly when it completes one
for a binding with a sink. -/
theorem Receives.delivers (h : Receives b c n f b' frames calls) :
    (∃ call ∈ calls, IsMessage c.socket call) ↔
      ReadWhole n f ∧ c.Completes f ∧ b.sink ≠ none := by
  cases h with
  | unread unreadable => simp [unreadable]
  | failed fails =>
      simp only [List.not_mem_nil, false_and, exists_false, false_iff]
      exact fun h => fails.incomplete h.1 h.2.1
  | ping read type => simp [Connection.Completes, type]
  | pong read type => simp [Connection.Completes, type]
  | closed read type => simp [Connection.Completes, type]
  | taken read message accepted c' line calls told messages =>
      rw [← told]
      refine ⟨fun h => ⟨read, ?_⟩, fun h => ?_⟩
      · obtain ⟨call, hcall, -⟩ := h
        exact List.ne_nil_of_mem hcall
      · obtain ⟨call, hcall⟩ := List.exists_mem_of_ne_nil calls h.2
        exact ⟨call, hcall, messages call hcall⟩

end Outcome

end WebSocketEndpoint
