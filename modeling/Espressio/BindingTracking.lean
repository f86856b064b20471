import Espressio.FrameOutcomes

/-!
# Which sockets a binding state tracks

A callback of HTTPD changes nothing of a binding state but its connections.
This file says what it does to the sockets they are for, and what it tells the
sink of a session: that it is connected, its messages, and that it is gone.
Activities are left out.
-/

namespace WebSocketEndpoint

open NetworkBytes Web

/-- The sockets of the tracked connections. -/
def BindingState.sockets (b : BindingState) : List Nat := b.connections.map (·.socket)

theorem map_socket_replaceConnection (c : Connection) (cs : List Connection) :
    (replaceConnection c cs).map (·.socket) = cs.map (·.socket) := by
  induction cs with
  | nil => rfl
  | cons d rest ih =>
      unfold replaceConnection
      split
      · rename_i heq
        rw [List.map_cons, List.map_cons, heq]
      · rw [List.map_cons, List.map_cons, ih]

theorem findConnection_none {b : BindingState} {socket : Nat} :
    b.findConnection socket = none ↔ socket ∉ b.sockets := by
  simp [BindingState.findConnection, BindingState.sockets]

/-- A callback that neither makes nor drops a connection, and tells the sink
of messages for `socket` only. -/
structure Follows (b b' : BindingState) (socket : Nat) (calls : List SinkCall) : Prop where
  rest : b' = { b with connections := b'.connections }
  sockets : b'.sockets = b.sockets
  messages : ∀ call ∈ calls, IsMessage socket call

theorem Follows.store (b : BindingState) (c : Connection) {socket : Nat}
    {calls : List SinkCall} (h : ∀ call ∈ calls, IsMessage socket call) :
    Follows b (b.storeConnection c) socket calls :=
  ⟨rfl, map_socket_replaceConnection c b.connections, h⟩

theorem Follows.refl (b : BindingState) (socket : Nat) : Follows b b socket [] :=
  ⟨rfl, rfl, by simp⟩

/-- A frame, whatever it comes to. -/
theorem Receives.follows {b b' : BindingState} {c : Connection} {n : RequestNatives} {f : WsFrame}
    {frames : List FrameType} {calls : List SinkCall} (h : Receives b c n f b' frames calls) :
    Follows b b' c.socket calls := by
  cases h with
  | unread | ping | pong => exact .refl b c.socket
  | failed | closed => exact .store b _ (by simp)
  | taken read message accepted c' line calls told messages => exact .store b c' messages

theorem receiveFrame_follows (b : BindingState) (n : RequestNatives) (c : Connection)
    (f : WsFrame) :
    Follows b (b.receiveFrame n c f).1 c.socket (told (b.receiveFrame n c f).2.2) :=
  (receiveFrame_receives b c n f).follows

/-- A callback for one socket: it tracks the socket from now on and says so
first, or it leaves the sockets as they are; the rest is messages. -/
inductive Serves (b b' : BindingState) (socket : Nat) : List SinkCall → Prop
  | tracked {calls : List SinkCall} (known : socket ∈ b.sockets)
      (follows : Follows b b' socket calls) : Serves b b' socket calls
  | made {calls : List SinkCall} (unknown : socket ∉ b.sockets)
      (rest : b' = { b with connections := b'.connections })
      (sockets : b'.sockets = b.sockets ++ [socket])
      (messages : ∀ call ∈ calls, IsMessage socket call) :
      Serves b b' socket (connectedCall b.sink socket ++ calls)
  | refused (unchanged : b' = b) : Serves b b' socket []

/-- `EnsureConnection` with what the callback does with the connection. -/
theorem ensureConnection_serves (b : BindingState) (n : RequestNatives) (handle : Option Nat)
    (socket : Nat) (detail : String) :
    let r := b.ensureConnection n handle socket detail
    Serves b r.1 socket (told r.2.2) ∧
      ∀ c, r.2.1 = some c → c.socket = socket ∧ socket ∈ r.1.sockets := by
  unfold BindingState.ensureConnection
  cases hfind : b.findConnection socket with
  | some c =>
      have hknown : socket ∈ b.sockets := by
        by_contra hnot
        rw [findConnection_none.mpr hnot] at hfind
        cases hfind
      refine ⟨.tracked hknown (.refl b socket), fun d hd => ?_⟩
      obtain rfl := Option.some.inj hd
      exact ⟨findConnection_socket hfind, hknown⟩
  | none =>
      cases n.creation with
      | outOfMemory => exact ⟨by simpa using .refused rfl, nofun⟩
      | threw => exact ⟨by simpa using .refused rfl, nofun⟩
      | succeeded =>
          refine ⟨?_, fun d hd => ?_⟩
          · have hmade : Serves b
                { b with connections := b.connections ++ [.create handle socket b.sink] } socket
                (connectedCall b.sink socket ++ []) :=
              .made (findConnection_none.mp hfind) rfl
                (by simp [BindingState.sockets, Connection.create]) (by simp)
            simpa using hmade
          · obtain rfl := Option.some.inj hd
            exact ⟨rfl, by simp [BindingState.sockets, Connection.create]⟩

theorem trackedConnection_serves (b : BindingState) (n : RequestNatives) (handle : Option Nat)
    (socket : Nat) :
    let r := b.trackedConnection n handle socket
    Serves b r.1 socket (told r.2.2) ∧
      ∀ c, r.2.1 = some c → c.socket = socket ∧ socket ∈ r.1.sockets := by
  unfold BindingState.trackedConnection
  cases hfind : b.findConnection socket with
  | some c =>
      have hensure := ensureConnection_serves b n handle socket ""
      unfold BindingState.ensureConnection at hensure
      rw [hfind] at hensure
      exact hensure
  | none =>
      dsimp only
      split
      · exact ensureConnection_serves b n handle socket _
      · exact ⟨.refused rfl, nofun⟩

/-- What follows the tracking of the connection. -/
theorem Serves.then {b b' b'' : BindingState} {socket : Nat} {calls more : List SinkCall}
    (h : Serves b b' socket calls) (hk : socket ∈ b'.sockets)
    (hmore : Follows b' b'' socket more) : Serves b b'' socket (calls ++ more) := by
  cases h with
  | tracked known follows =>
      refine .tracked known ⟨?_, hmore.sockets.trans follows.sockets, ?_⟩
      · rw [hmore.rest, follows.rest]
      · intro call hcall
        rcases List.mem_append.mp hcall with hcall | hcall
        · exact follows.messages call hcall
        · exact hmore.messages call hcall
  | made unknown rest sockets messages =>
      rw [List.append_assoc]
      refine .made unknown ?_ (hmore.sockets.trans sockets) ?_
      · rw [hmore.rest, rest]
      · intro call hcall
        rcases List.mem_append.mp hcall with hcall | hcall
        · exact messages call hcall
        · exact hmore.messages call hcall
  | refused unchanged =>
      subst unchanged
      exact .tracked hk hmore

/-- **Requests.**  A request tells the sink of its own socket only. -/
theorem handleWebSocketRequest_serves (b : BindingState) (n : RequestNatives) (q : Request) :
    Serves b (b.handleWebSocketRequest n q).1 q.socket.toNat
      (told (b.handleWebSocketRequest n q).2.2) := by
  unfold BindingState.handleWebSocketRequest
  split
  · exact .refused rfl
  · split
    · obtain ⟨hserves, -⟩ := ensureConnection_serves b n q.handle q.socket.toNat
        "ESP32 websocket connection object created"
      simpa [BindingState.handleUpgrade] using hserves
    · obtain ⟨hserves, hconnection⟩ := trackedConnection_serves b n q.handle q.socket.toNat
      generalize b.trackedConnection n q.handle q.socket.toNat = t at hserves hconnection ⊢
      obtain ⟨b', connection, created⟩ := t
      cases connection with
      | none => simpa using hserves
      | some c =>
          obtain ⟨hsocket, hknown⟩ := hconnection c rfl
          have hfollows := receiveFrame_follows b' n c q.frame
          rw [hsocket] at hfollows
          simpa using hserves.then hknown hfollows

/-- **Session closes.**  The close of a tracked session drops one connection
and tells the sink that it is gone; the close of any other does nothing. -/
theorem onHttpSessionClosed_untracked {b : BindingState} {socket : Nat}
    (h : socket ∉ b.sockets) : b.onHttpSessionClosed socket = (b, []) := by
  unfold BindingState.onHttpSessionClosed
  rw [findConnection_none.mpr h]

theorem map_socket_eraseP (cs : List Connection) (socket : Nat) :
    (cs.eraseP (·.socket = socket)).map (·.socket) = (cs.map (·.socket)).erase socket := by
  induction cs with
  | nil => rfl
  | cons c rest ih =>
      by_cases hc : c.socket = socket
      · rw [List.eraseP_cons_of_pos (by simpa using hc), List.map_cons, hc,
          List.erase_cons_head]
      · rw [List.eraseP_cons_of_neg (by simpa using hc), List.map_cons, List.map_cons,
          List.erase_cons_tail (by simpa using hc), ih]

theorem onHttpSessionClosed_tracked {b : BindingState} {socket : Nat} (h : socket ∈ b.sockets) :
    let r := b.onHttpSessionClosed socket
    r.1 = { b with connections := r.1.connections } ∧ r.1.sockets = b.sockets.erase socket ∧
      ∃ code reason, told r.2 =
        if b.sink.isSome then [.disconnected socket code reason] else [] := by
  unfold BindingState.onHttpSessionClosed
  cases hfind : b.findConnection socket with
  | none => exact absurd h (findConnection_none.mp hfind)
  | some c =>
      obtain rfl := findConnection_socket hfind
      refine ⟨rfl, map_socket_eraseP b.connections c.socket, c.closeCode, c.closeReason, ?_⟩
      cases hsink : b.sink <;> simp [hsink, notify, told, SinkCall.isActivity,
        BindingState.notifyActivity]

theorem closeConnections_sockets (natives : Nat → SendNatives) (code : UInt16) (reason : Bytes)
    (cs : List Connection) :
    (closeConnections natives code reason cs).1.map (·.socket) = cs.map (·.socket) ∧
      told (closeConnections natives code reason cs).2.2 = [] := by
  induction cs with
  | nil => exact ⟨rfl, rfl⟩
  | cons c rest ih =>
      refine ⟨?_, ?_⟩
      · simp only [closeConnections, List.map_cons, close_socket, ih.1]
      · simp only [closeConnections, told_append, told_close, ih.2, List.append_nil]

/-- **`CloseAll`** keeps every connection, and tells the sink nothing but
activities. -/
theorem closeAll_keeps (b : BindingState) (natives : Nat → SendNatives) (code : UInt16)
    (reason : Bytes) :
    let r := b.closeAll natives code reason
    r.1 = { b with connections := r.1.connections } ∧ r.1.sockets = b.sockets ∧
      told r.2.2 = [] := by
  obtain ⟨hsockets, htold⟩ := closeConnections_sockets natives code reason b.connections
  exact ⟨rfl, hsockets, htold⟩

theorem sockets_setSink (b : BindingState) (sink : Option Nat) :
    (b.setSink sink).sockets = b.sockets := by
  simp [BindingState.sockets, BindingState.setSink, Connection.setActivitySink]

end WebSocketEndpoint
