import Espressio.BindingTracking
import Espressio.Runs

/-!
# What happens on one connection

The application sends on a connection and closes it, HTTPD delivers its
frames, and each of these is atomic.  Two things can be observed of an event:
the frames that it hands to HTTPD and the messages that it hands to the sink.

A frame is for the connection of its socket, the `receiver`, and comes there to
what `Receives` says.
-/

namespace WebSocketEndpoint

open NetworkBytes Web

/-- A call of the application, or a frame. -/
inductive ConnectionEvent
  | sendBinary (natives : SendNatives) (data : Option Bytes) (size : Nat)
  | sendText (natives : SendNatives) (text : Bytes)
  | close (natives : SendNatives) (code : UInt16) (reason : Bytes)
  | frame (natives : RequestNatives) (handle : Option Nat) (frame : WsFrame)

/-- A call on the connection of a socket, where there is one. -/
def BindingState.onConnection (b : BindingState) (socket : Nat)
    (op : Connection → Connection × WebResult × List Effect) : BindingState × List Effect :=
  match b.findConnection socket with
  | none => (b, [])
  | some c =>
      let (c', _, effects) := op c
      (b.storeConnection c', effects)

def connectionStep (socket : Nat) (b : BindingState) :
    ConnectionEvent → BindingState × List Effect
  | .sendBinary n data size => b.onConnection socket fun c => (c, c.sendBinary n data size)
  | .sendText n text => b.onConnection socket fun c => (c, c.sendText n text)
  | .close n code reason => b.onConnection socket fun c => c.close n code reason
  | .frame n handle f =>
      let (b', _, effects) := b.handleWebSocketRequest n ⟨false, handle, socket, f⟩
      (b', effects)

/-- The connection that a frame of a socket is for: the tracked one, or one
made for it. -/
def BindingState.receiver (b : BindingState) (socket : Nat) (n : RequestNatives)
    (handle : Option Nat) : Option Connection :=
  if b.active then (b.trackedConnection n handle socket).2.1 else none

theorem receiver_tracked {b : BindingState} {socket : Nat} {n : RequestNatives}
    {handle : Option Nat} {c d : Connection} (hc : b.receiver socket n handle = some c)
    (hd : b.findConnection socket = some d) : d = c := by
  unfold BindingState.receiver BindingState.trackedConnection at hc
  split at hc
  · rw [hd] at hc
    exact Option.some.inj hc
  · cases hc

/-- What the callback does to have a connection for a frame. -/
theorem trackedConnection_cases (b : BindingState) (socket : Nat) (n : RequestNatives)
    (handle : Option Nat) :
    let t := b.trackedConnection n handle socket
    sent t.2.2 = [] ∧ (∀ call ∈ told t.2.2, ¬ IsMessage socket call) ∧
      (t.2.1 = none → t.1 = b ∧ told t.2.2 = []) ∧
      ∀ c, t.2.1 = some c → t.1.findConnection socket = some c ∧ t.1.sink = b.sink := by
  unfold BindingState.trackedConnection
  cases hfind : b.findConnection socket with
  | some d =>
      refine ⟨rfl, by simp, fun hnone => absurd hnone (Option.some_ne_none d), fun c hc => ?_⟩
      obtain rfl := Option.some.inj hc
      exact ⟨hfind, rfl⟩
  | none =>
      dsimp only
      split
      · unfold BindingState.ensureConnection
        rw [hfind]
        cases n.creation with
        | outOfMemory | threw =>
            exact ⟨by simp, by simp, fun _ => ⟨rfl, by simp⟩, fun c hc => by cases hc⟩
        | succeeded =>
            refine ⟨by simp, ?_, fun hnone => absurd hnone (Option.some_ne_none _),
              fun c hc => ?_⟩
            · cases b.sink <;> simp [connectedCall, IsMessage]
            · obtain rfl := Option.some.inj hc
              refine ⟨?_, rfl⟩
              unfold BindingState.findConnection at hfind ⊢
              rw [List.find?_append, hfind]
              simp [Connection.create]
      · exact ⟨rfl, by simp, fun _ => ⟨rfl, rfl⟩, fun c hc => by cases hc⟩

/-- A frame that no connection receives changes nothing. -/
theorem frame_unreceived {b : BindingState} {socket : Nat} {n : RequestNatives}
    {handle : Option Nat} (h : b.receiver socket n handle = none) (f : WsFrame) :
    let r := connectionStep socket b (.frame n handle f)
    r.1 = b ∧ sent r.2 = [] ∧ told r.2 = [] := by
  have hsocket : ¬ (socket : Int) < 0 := Int.not_lt.mpr (Int.natCast_nonneg socket)
  unfold BindingState.receiver at h
  unfold connectionStep BindingState.handleWebSocketRequest
  cases hactive : b.active with
  | false => simp
  | true =>
      rw [if_pos hactive] at h
      obtain ⟨hsent, -, hnone, -⟩ := trackedConnection_cases b socket n handle
      obtain ⟨hsame, htold⟩ := hnone h
      simp [hsocket, h, hsame, hsent, htold]

/-- **Frames.**  A frame comes to what its receiver makes of it. -/
theorem frame_received {b : BindingState} {socket : Nat} {n : RequestNatives}
    {handle : Option Nat} {c : Connection} (h : b.receiver socket n handle = some c)
    (f : WsFrame) :
    let r := connectionStep socket b (.frame n handle f)
    ∃ b' before calls, b'.findConnection socket = some c ∧ b'.sink = b.sink ∧
      told r.2 = before ++ calls ∧ (∀ call ∈ before, ¬ IsMessage socket call) ∧
      Receives b' c n f r.1 (sent r.2) calls := by
  have hsocket : ¬ (socket : Int) < 0 := Int.not_lt.mpr (Int.natCast_nonneg socket)
  unfold BindingState.receiver at h
  split at h
  · rename_i hactive
    obtain ⟨hsent, hbefore, -, hsome⟩ := trackedConnection_cases b socket n handle
    obtain ⟨hfind, hsink⟩ := hsome c h
    have hreceives := receiveFrame_receives (b.trackedConnection n handle socket).1 c n f
    have hstep : connectionStep socket b (.frame n handle f) =
        (((b.trackedConnection n handle socket).1.receiveFrame n c f).1,
          (b.trackedConnection n handle socket).2.2 ++
            ((b.trackedConnection n handle socket).1.receiveFrame n c f).2.2) := by
      simp [connectionStep, BindingState.handleWebSocketRequest, hactive, hsocket, h]
    rw [hstep]
    dsimp only
    rw [told_append, sent_append, hsent]
    exact ⟨_, _, _, hfind, hsink, rfl, hbefore, hreceives⟩
  · cases h

end WebSocketEndpoint
