import Espressio.WebSocketBinding

/-!
# What the operations of a connection do outside it

An operation queues a frame or does not, and tells of activities besides.
There is one lemma about the effects of each, and one about what it changes of
the connection; whoever looks at effects in his own way takes it from there.

Two ways of looking are common.  `told` is what the sink of a session is told:
that it is connected, its messages, and that it is gone.  `sent` are the frames
handed to HTTPD.
-/

namespace WebSocketEndpoint

open NetworkBytes Web

/-- HTTPD takes what the connection queues. -/
def Connection.Takes (c : Connection) (n : SendNatives) : Prop :=
  c.server ≠ none ∧ n.isWebSocket = true ∧ n.allocation = .succeeded ∧ n.queued = .ok

instance (c : Connection) (n : SendNatives) : Decidable (c.Takes n) :=
  inferInstanceAs (Decidable (_ ∧ _))

/-- **`QueueOwnedFrame`** queues its frame, if the connection may and HTTPD
takes it, and tells of that. -/
theorem queueOwnedFrame_effects (c : Connection) (n : SendNatives) (type : FrameType)
    (payload : Bytes) (closeAfter allowClosed : Bool) :
    ∃ a : Activity, a.kind ≠ .protocolError ∧
      (c.queueOwnedFrame n type payload closeAfter allowClosed).2 =
        (if (allowClosed = true ∨ c.isOpen = true) ∧ c.Takes n then
          [.queueFrame c.socket type payload closeAfter] else []) ++ c.notifyActivity a := by
  obtain ⟨isWebSocket, allocation, queued⟩ := n
  have hfailed : ∀ (result : WebResult) (detail : String),
      ∃ a : Activity, a.kind ≠ .protocolError ∧
        (c.sendFailed type payload.length result detail).2 = [] ++ c.notifyActivity a :=
    fun result detail => ⟨_, by simp, rfl⟩
  unfold Connection.queueOwnedFrame Connection.Takes
  dsimp only
  by_cases hopen : allowClosed = true ∨ c.isOpen = true
  · by_cases hserver : c.server = none
    · simpa [hserver] using hfailed (.failure .closed .none) "connection unavailable"
    · have hpass : ¬ ((allowClosed = false ∧ c.isOpen = false) ∨ c.server = none) := by
        rcases hopen with h | h <;> simp [h, hserver]
      rw [if_neg hpass]
      cases isWebSocket with
      | false => simpa using hfailed (.failure .closed .none) "HTTPD session is not a websocket"
      | true =>
          cases allocation with
          | outOfMemory =>
              simpa using hfailed (.failure .resourceExhausted .none)
                "send operation allocation failed"
          | threw =>
              simpa using hfailed (.failure .platformFailure .none)
                "send operation construction failed"
          | succeeded =>
              by_cases hqueued : queued = .ok
              · refine ⟨⟨.sendQueued, c.socket, webSocketFrameType type, payload.length,
                  .success, 0, .literal "frame queued to HTTPD"⟩, by simp, ?_⟩
                simp [hqueued, hopen, hserver]
              · simpa [hqueued] using hfailed (webSocketResult queued)
                  "httpd_ws_send_data_async rejected frame"
  · have hrefused : (allowClosed = false ∧ c.isOpen = false) ∨ c.server = none :=
      Or.inl (by simpa using hopen)
    rw [if_pos hrefused, if_neg fun h => hopen h.1]
    exact hfailed _ _

/-- **`QueueFrame`** hands its frame on, and only if the connection is open. -/
theorem queueFrame_effects (c : Connection) (n : SendNatives) (type : FrameType)
    (data : Option Bytes) (size : Nat) (closeAfter : Bool) :
    ∃ frames notices : List Effect,
      (c.queueFrame n type data size closeAfter).2 = frames ++ notices ∧
        (frames = [] ∨ c.isOpen = true ∧ ∃ payload,
          frames = [.queueFrame c.socket type payload closeAfter]) ∧
        (notices = [] ∨ ∃ a, notices = c.notifyActivity a) := by
  have hqueued : ∀ payload, ∃ frames notices : List Effect,
      (c.queueOwnedFrame n type payload closeAfter false).2 = frames ++ notices ∧
        (frames = [] ∨ c.isOpen = true ∧ ∃ payload,
          frames = [.queueFrame c.socket type payload closeAfter]) ∧
        (notices = [] ∨ ∃ a, notices = c.notifyActivity a) := by
    intro payload
    obtain ⟨a, -, heffects⟩ := queueOwnedFrame_effects c n type payload closeAfter false
    refine ⟨_, _, heffects, ?_, Or.inr ⟨a, rfl⟩⟩
    split
    · rename_i hopen
      exact Or.inr ⟨by simpa using hopen.1, payload, rfl⟩
    · exact Or.inl rfl
  unfold Connection.queueFrame
  split
  · exact ⟨[], _, rfl, Or.inl rfl, Or.inr ⟨_, rfl⟩⟩
  · split
    · cases data with
      | none => exact ⟨[], [], rfl, Or.inl rfl, Or.inl rfl⟩
      | some bytes => exact hqueued _
    · exact hqueued _

/-- A second `Close` does nothing. -/
theorem close_of_closed {c : Connection} (h : c.isOpen = false) (n : SendNatives) (code : UInt16)
    (reason : Bytes) : c.close n code reason = (c, .success, []) := by
  unfold Connection.close
  rw [if_pos h]

/-- **`Close`** queues one Close frame, if HTTPD takes it. -/
theorem close_effects {c : Connection} (h : c.isOpen = true) (n : SendNatives) (code : UInt16)
    (reason : Bytes) :
    ∃ (requested queued : Activity) (trigger : List Effect),
      requested.kind ≠ .protocolError ∧ queued.kind ≠ .protocolError ∧
        (trigger = [] ∨ trigger = [.triggerClose c.socket]) ∧
        (c.close n code reason).2.2 = c.notifyActivity requested ++
          (if c.Takes n then
            [.queueFrame c.socket .close (closePayload code reason) true] else []) ++
          c.notifyActivity queued ++ trigger := by
  obtain ⟨queued, hkind, heffects⟩ := queueOwnedFrame_effects
    { c with isOpen := false, closeCode := code, closeReason := reason } n .close
    (closePayload code reason) true true
  have htrigger : ∀ result : WebResult,
      (if result ≠ .success ∧ c.server ≠ none then [Effect.triggerClose c.socket] else []) = [] ∨
        (if result ≠ .success ∧ c.server ≠ none then [Effect.triggerClose c.socket] else []) =
          [.triggerClose c.socket] := by
    intro result
    split
    · exact Or.inr rfl
    · exact Or.inl rfl
  unfold Connection.close
  rw [if_neg (by simp [h])]
  dsimp only
  generalize Connection.queueOwnedFrame
    { c with isOpen := false, closeCode := code, closeReason := reason } n .close
    (closePayload code reason) true true = r at heffects ⊢
  obtain ⟨result, effects⟩ := r
  refine ⟨⟨.closeRequested, c.socket, .close, reason.length, .success, code, .given reason⟩,
    queued, _, by simp, hkind, htrigger result, ?_⟩
  obtain rfl := heffects
  simp only [true_or, true_and, List.append_assoc]
  rfl

/-- What a frame of a message leaves of a connection as it was. -/
structure SameLine (c c' : Connection) : Prop where
  server : c'.server = c.server
  socket : c'.socket = c.socket
  kept : c'.isOpen = c.isOpen
  activitySink : c'.activitySink = c.activitySink
  code : c'.closeCode = c.closeCode
  reason : c'.closeReason = c.closeReason

theorem SameLine.refl (c : Connection) : SameLine c c := ⟨rfl, rfl, rfl, rfl, rfl, rfl⟩

/-- **`AccumulateFragment`** changes nothing but the open message. -/
theorem accumulateFragment_line (c : Connection) (type : FrameType) (final : Bool)
    (payload : Bytes) : SameLine c (c.accumulateFragment type final payload).1 := by
  unfold Connection.accumulateFragment
  split
  · split
    · exact .refl c
    · split
      · exact .refl c
      · split
        · exact .refl c
        · exact ⟨rfl, rfl, rfl, rfl, rfl, rfl⟩
  · split
    · exact .refl c
    · split
      · exact ⟨rfl, rfl, rfl, rfl, rfl, rfl⟩
      · split <;> exact ⟨rfl, rfl, rfl, rfl, rfl, rfl⟩

theorem close_activitySink (c : Connection) (n : SendNatives) (code : UInt16) (reason : Bytes) :
    (c.close n code reason).1.activitySink = c.activitySink := by
  unfold Connection.close
  split <;> rfl

theorem close_socket (c : Connection) (n : SendNatives) (code : UInt16) (reason : Bytes) :
    (c.close n code reason).1.socket = c.socket := by
  unfold Connection.close
  split <;> rfl

theorem socket_rememberPeerClose (c : Connection) (payload : Bytes) :
    (c.rememberPeerClose payload).socket = c.socket := by
  unfold Connection.rememberPeerClose
  split <;> rfl

theorem isOpen_close (c : Connection) (n : SendNatives) (code : UInt16) (reason : Bytes) :
    (c.close n code reason).1.isOpen = false := by
  unfold Connection.close
  split
  · assumption
  · rfl

theorem isOpen_rememberPeerClose (c : Connection) (payload : Bytes) :
    (c.rememberPeerClose payload).isOpen = false := by
  unfold Connection.rememberPeerClose
  split <;> rfl

/-! ## What the sink is told -/

def SinkCall.isActivity : SinkCall → Bool
  | .activity _ => true
  | _ => false

/-- The calls to any sink that are no activities. -/
def told (effects : List Effect) : List SinkCall :=
  effects.filterMap fun
    | .sinkCall _ call => if call.isActivity then none else some call
    | _ => none

/-- A message of the session of `socket`. -/
def IsMessage (socket : Nat) : SinkCall → Prop
  | .text id _ => id = socket
  | .binary id _ => id = socket
  | _ => False

/-- What `OnPlatformWebSocketConnected` is told, if there is a sink. -/
def connectedCall (sink : Option Nat) (socket : Nat) : List SinkCall :=
  if sink.isSome then [.connected socket] else []

@[simp] theorem told_append (es fs : List Effect) : told (es ++ fs) = told es ++ told fs :=
  List.filterMap_append

@[simp] theorem told_nil : told [] = [] := rfl

@[simp] theorem told_sendFrame (socket : Nat) (type : FrameType) (payload : Bytes)
    (es : List Effect) : told (.sendFrame socket type payload :: es) = told es := rfl

@[simp] theorem told_triggerClose (socket : Nat) (es : List Effect) :
    told (.triggerClose socket :: es) = told es := rfl

@[simp] theorem told_activity (sink : Option Nat) (a : Activity) :
    told (notify sink (.activity a)) = [] := by
  cases sink <;> rfl

@[simp] theorem told_connected (sink : Option Nat) (socket : Nat) :
    told (notify sink (.connected socket)) = connectedCall sink socket := by
  cases sink <;> rfl

@[simp] theorem told_notifyActivity (b : BindingState) (a : Activity) :
    told (b.notifyActivity a) = [] := told_activity _ _

/-- A send tells the sink nothing but activities. -/
theorem told_queueFrame (c : Connection) (n : SendNatives) (type : FrameType)
    (data : Option Bytes) (size : Nat) (closeAfter : Bool) :
    told (c.queueFrame n type data size closeAfter).2 = [] := by
  obtain ⟨frames, notices, heffects, hframes, hnotices⟩ :=
    queueFrame_effects c n type data size closeAfter
  have hframes' : told frames = [] := by
    rcases hframes with rfl | ⟨-, payload, rfl⟩ <;> rfl
  have hnotices' : told notices = [] := by
    rcases hnotices with rfl | ⟨a, rfl⟩
    · rfl
    · exact told_activity c.activitySink a
  rw [heffects, told_append, hframes', hnotices']
  rfl

theorem told_sendBinary (c : Connection) (n : SendNatives) (data : Option Bytes) (size : Nat) :
    told (c.sendBinary n data size).2 = [] := by
  unfold Connection.sendBinary
  split
  · rfl
  · exact told_queueFrame ..

/-- Closing a connection tells the sink nothing but activities. -/
theorem told_close (c : Connection) (n : SendNatives) (code : UInt16) (reason : Bytes) :
    told (c.close n code reason).2.2 = [] := by
  cases hopen : c.isOpen with
  | false =>
      rw [close_of_closed hopen]
      rfl
  | true =>
      obtain ⟨requested, queued, trigger, -, -, htrigger, heffects⟩ :=
        close_effects hopen n code reason
      have htrigger' : told trigger = [] := by
        rcases htrigger with rfl | rfl <;> rfl
      have hframe : told (if c.Takes n then
          [.queueFrame c.socket .close (closePayload code reason) true] else []) = [] := by
        split <;> rfl
      simp only [heffects, told_append, htrigger', hframe, Connection.notifyActivity,
        told_activity, List.append_nil]

theorem told_deliver (b : BindingState) (socket : Nat) (type : FrameType) (payload : Bytes) :
    ∀ call ∈ told (b.deliver socket type payload), IsMessage socket call := by
  unfold BindingState.deliver
  cases b.sink <;> split <;> simp [notify, told, SinkCall.isActivity, IsMessage]

theorem told_deliver_ne_nil (b : BindingState) (id : Nat) (type : FrameType) (payload : Bytes) :
    told (b.deliver id type payload) ≠ [] ↔
      (type = .text ∨ type = .binary) ∧ b.sink ≠ none := by
  unfold BindingState.deliver
  cases b.sink <;> cases type <;> simp [notify, told, SinkCall.isActivity]

/-! ## What HTTPD is handed -/

/-- The types of the frames handed to HTTPD, queued or sent at once. -/
def sent (effects : List Effect) : List FrameType :=
  effects.filterMap fun
    | .queueFrame _ type _ _ => some type
    | .sendFrame _ type _ => some type
    | _ => none

@[simp] theorem sent_append (es fs : List Effect) : sent (es ++ fs) = sent es ++ sent fs :=
  List.filterMap_append

@[simp] theorem sent_nil : sent [] = [] := rfl

@[simp] theorem sent_sendFrame (socket : Nat) (type : FrameType) (payload : Bytes)
    (es : List Effect) : sent (.sendFrame socket type payload :: es) = type :: sent es := rfl

@[simp] theorem sent_triggerClose (socket : Nat) (es : List Effect) :
    sent (.triggerClose socket :: es) = sent es := rfl

@[simp] theorem sent_notify (sink : Option Nat) (call : SinkCall) :
    sent (notify sink call) = [] := by
  cases sink <;> rfl

@[simp] theorem sent_notifyActivity (b : BindingState) (a : Activity) :
    sent (b.notifyActivity a) = [] := sent_notify _ _

/-- A send hands out its frame or nothing, and nothing on a closed
connection. -/
theorem sent_queueFrame (c : Connection) (n : SendNatives) (type : FrameType)
    (data : Option Bytes) (size : Nat) (closeAfter : Bool) :
    sent (c.queueFrame n type data size closeAfter).2 = [] ∨
      c.isOpen = true ∧ sent (c.queueFrame n type data size closeAfter).2 = [type] := by
  obtain ⟨frames, notices, heffects, hframes, hnotices⟩ :=
    queueFrame_effects c n type data size closeAfter
  have hnotices' : sent notices = [] := by
    rcases hnotices with rfl | ⟨a, rfl⟩
    · rfl
    · exact sent_notify c.activitySink _
  rw [heffects, sent_append, hnotices', List.append_nil]
  rcases hframes with rfl | ⟨hopen, payload, rfl⟩
  · exact Or.inl rfl
  · exact Or.inr ⟨hopen, rfl⟩

theorem sent_sendBinary (c : Connection) (n : SendNatives) (data : Option Bytes) (size : Nat) :
    sent (c.sendBinary n data size).2 = [] ∨
      c.isOpen = true ∧ sent (c.sendBinary n data size).2 = [.binary] := by
  unfold Connection.sendBinary
  split
  · exact Or.inl rfl
  · exact sent_queueFrame ..

/-- **`Close`** hands out one Close frame, if the connection was open and
HTTPD takes it. -/
theorem sent_close (c : Connection) (n : SendNatives) (code : UInt16) (reason : Bytes) :
    sent (c.close n code reason).2.2 =
      if c.isOpen = true ∧ c.Takes n then [.close] else [] := by
  cases hopen : c.isOpen with
  | false =>
      rw [close_of_closed hopen]
      simp
  | true =>
      obtain ⟨requested, queued, trigger, -, -, htrigger, heffects⟩ :=
        close_effects hopen n code reason
      have htrigger' : sent trigger = [] := by
        rcases htrigger with rfl | rfl <;> rfl
      have hframe : sent (if c.Takes n then
          [.queueFrame c.socket .close (closePayload code reason) true] else []) =
            if c.Takes n then [.close] else [] := by
        split <;> rfl
      simp only [heffects, sent_append, htrigger', hframe, Connection.notifyActivity,
        sent_notify, List.nil_append, List.append_nil, true_and]

/-- The Close frame itself. -/
theorem queueFrame_mem_close {c : Connection} {n : SendNatives} (hopen : c.isOpen = true)
    (htakes : c.Takes n) (code : UInt16) (reason : Bytes) :
    Effect.queueFrame c.socket .close (closePayload code reason) true ∈
      (c.close n code reason).2.2 := by
  obtain ⟨requested, queued, trigger, -, -, -, heffects⟩ := close_effects hopen n code reason
  rw [heffects, if_pos htakes]
  simp

end WebSocketEndpoint
