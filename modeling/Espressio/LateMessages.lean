import Espressio.ConnectionTraffic

/-!
# Messages after the end

A frame ends its connection when it fails it, and when it is the peer's
Close.  The connection is no longer open then, but HTTPD closes the session
only later, and until it does more frames may come.  `handleWebSocketRequest`
takes them as before.  It never asks whether the connection is open, as a send
and `close` do, and as the client does before it hands over a message.  So a
frame that completes a message is still delivered.
-/

namespace WebSocketEndpoint

open NetworkBytes Web

/-- A frame that ends its connection. -/
def Ends (socket : Nat) (b : BindingState) : ConnectionEvent → Prop
  | .frame n handle f => ∃ c, b.receiver socket n handle = some c ∧ c.Ends n f
  | _ => False

/-- A frame that completes a message, at a binding with a sink. -/
def CompletesMessage (socket : Nat) (b : BindingState) : ConnectionEvent → Prop
  | .frame n handle f => ∃ c, b.receiver socket n handle = some c ∧ ReadWhole n f ∧
      c.Completes f ∧ b.sink ≠ none
  | _ => False

/-- The sink is handed a message of the session. -/
def Delivers (socket : Nat) (effects : List Effect) : Prop :=
  ∃ call ∈ told effects, IsMessage socket call

/-- A call of the application delivers nothing. -/
theorem told_onConnection {b : BindingState} {socket : Nat}
    {op : Connection → Connection × WebResult × List Effect}
    (h : ∀ c, told (op c).2.2 = []) : told (b.onConnection socket op).2 = [] := by
  unfold BindingState.onConnection
  cases b.findConnection socket with
  | none => rfl
  | some c => exact h c

/-- The end of a connection leaves it closed. -/
theorem Ends.closed {socket : Nat} {b : BindingState} {e : ConnectionEvent}
    (h : Ends socket b e) : Closed socket (connectionStep socket b e).1 := by
  cases e with
  | sendBinary | sendText | close => exact h.elim
  | frame n handle f =>
      obtain ⟨c, hc, hends⟩ := h
      obtain ⟨b', before, calls, hfind, -, -, -, hreceives⟩ := frame_received hc f
      exact (hreceives.ended hends hfind).1

/-- **Step lemma.**  An event delivers a message exactly when it is a frame
that completes one, on an open connection or not. -/
theorem delivers_iff (socket : Nat) (b : BindingState) (e : ConnectionEvent) :
    Delivers socket (connectionStep socket b e).2 ↔ CompletesMessage socket b e := by
  have hquiet : ∀ effects, told effects = [] → ¬ Delivers socket effects := by
    intro effects htold hdelivers
    obtain ⟨call, hcall, -⟩ := hdelivers
    rw [htold] at hcall
    cases hcall
  cases e with
  | sendBinary n data size =>
      exact iff_of_false (hquiet _ (told_onConnection fun c => told_sendBinary c n data size)) id
  | sendText n text =>
      exact iff_of_false (hquiet _ (told_onConnection fun c => told_queueFrame ..)) id
  | close n code reason =>
      exact iff_of_false (hquiet _ (told_onConnection fun c => told_close c n code reason)) id
  | frame n handle f =>
      cases hreceiver : b.receiver socket n handle with
      | none =>
          obtain ⟨-, -, htold⟩ := frame_unreceived hreceiver f
          exact iff_of_false (hquiet _ htold) (by simp [CompletesMessage, hreceiver])
      | some c =>
          obtain ⟨b', before, calls, hfind, hsink, htold, hbefore, hreceives⟩ :=
            frame_received hreceiver f
          have hcalls : Delivers socket (connectionStep socket b (.frame n handle f)).2 ↔
              ∃ call ∈ calls, IsMessage socket call := by
            unfold Delivers
            rw [htold]
            constructor
            · intro h
              obtain ⟨call, hcall, hmessage⟩ := h
              rcases List.mem_append.mp hcall with hcall | hcall
              · exact absurd hmessage (hbefore call hcall)
              · exact ⟨call, hcall, hmessage⟩
            · intro h
              obtain ⟨call, hcall, hmessage⟩ := h
              exact ⟨call, List.mem_append_right _ hcall, hmessage⟩
          have hdelivers := hreceives.delivers
          rw [findConnection_socket hfind, hsink] at hdelivers
          rw [hcalls, hdelivers]
          simp [CompletesMessage, hreceiver]

/-- **Messages after the end.**  In a run no message is delivered after a
frame that ends the connection, if and only if no frame after it completes
one. -/
theorem silent_after_end_iff (socket : Nat) (b : BindingState) (events : List ConnectionEvent) :
    (Runs.trace (connectionStep socket) b events).Pairwise (fun earlier later =>
        Ends socket earlier.1 earlier.2 →
          ¬ Delivers socket (connectionStep socket later.1 later.2).2) ↔
      (Runs.trace (connectionStep socket) b events).Pairwise (fun earlier later =>
        Ends socket earlier.1 earlier.2 → ¬ CompletesMessage socket later.1 later.2) := by
  constructor
  · intro h
    refine h.imp fun hpair hends hcompletes => ?_
    exact hpair hends ((delivers_iff socket _ _).mpr hcompletes)
  · intro h
    refine h.imp fun hpair hends hdelivers => ?_
    exact hpair hends ((delivers_iff socket _ _).mp hdelivers)

/-- A text frame that comes right after the peer's Close frame is delivered. -/
theorem text_delivered_after_peer_close :
    let upgraded := ((BindingState.make (some 0)).activate.handleUpgrade .allOk (some 1) 7).1
    ¬ (Runs.trace (connectionStep 7) upgraded
        [.frame .allOk (some 1) ⟨.close, true, [3, 232]⟩,
          .frame .allOk (some 1) ⟨.text, true, [104, 105]⟩]).Pairwise fun earlier later =>
      Ends 7 earlier.1 earlier.2 → ¬ Delivers 7 (connectionStep 7 later.1 later.2).2 := by
  intro upgraded h
  have hlate := (List.pairwise_cons.mp h).1 _ (List.mem_cons_self ..)
  refine hlate ⟨.create (some 1) 7 (some 0), by decide, .inr ⟨⟨rfl, by decide, rfl⟩, rfl⟩⟩ ?_
  exact ⟨.text 7 [104, 105], by decide, rfl⟩

end WebSocketEndpoint
