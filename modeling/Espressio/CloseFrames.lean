import Espressio.ConnectionTraffic

/-!
# Close frames

A connection hands out its Close frame on one of two ways.  `Close` queues
it: for the application, or for the platform when a frame fails the
connection.  A Close frame of the peer is echoed.  `Close` does nothing on a
connection that is no longer open, and neither does a send; the echo asks for
nothing of the kind.

So no data frame follows a Close frame, in any run; and a second Close frame
leaves exactly where a Close of the peer is processed after another of its
Close frames, or after a Close of this side that HTTPD took.
-/

namespace WebSocketEndpoint

open NetworkBytes Web

/-- A frame of a message. -/
def FrameType.IsData (type : FrameType) : Prop :=
  type = .text ∨ type = .binary ∨ type = .continuation

/-- At most one Close frame, and no data frame after it. -/
structure ClosesOnce (frames : List FrameType) : Prop where
  once : frames.count .close ≤ 1
  last : frames.Pairwise fun earlier later => earlier = .close → ¬ later.IsData

/-- A Close frame of the peer is processed. -/
def PeerCloses (socket : Nat) (b : BindingState) : ConnectionEvent → Prop
  | .frame n handle f =>
      b.receiver socket n handle ≠ none ∧ ReadWhole n f ∧ f.type = .close
  | _ => False

/-- An open connection is closed from this side, by the application or for a
frame that fails it, and HTTPD takes the Close frame. -/
def OwnCloses (socket : Nat) (b : BindingState) : ConnectionEvent → Prop
  | .close n _ _ => ∃ c, b.findConnection socket = some c ∧ c.isOpen = true ∧ c.Takes n
  | .frame n handle f => ∃ c, b.receiver socket n handle = some c ∧ c.isOpen = true ∧
      c.Fails n f ∧ c.Takes n.close
  | _ => False

theorem OwnCloses.unclosed {socket : Nat} {b : BindingState} {e : ConnectionEvent}
    (h : OwnCloses socket b e) : ¬ Closed socket b := by
  intro hclosed
  obtain ⟨d, hd, hshut⟩ := hclosed
  cases e with
  | sendBinary | sendText => exact h
  | close n code reason =>
      obtain ⟨c, hc, hopen, -⟩ := h
      obtain rfl : c = d := Option.some.inj (hc.symm.trans hd)
      simp [hopen] at hshut
  | frame n handle f =>
      obtain ⟨c, hc, hopen, -⟩ := h
      obtain rfl := receiver_tracked hc hd
      simp [hopen] at hshut

/-! ## One event -/

/-- What an event hands out and what it leaves of the connection. -/
structure HandsOut (socket : Nat) (b : BindingState) (e : ConnectionEvent) (b' : BindingState)
    (frames : List FrameType) : Prop where
  single : frames.length ≤ 1
  close : .close ∈ frames ↔ PeerCloses socket b e ∨ OwnCloses socket b e
  data : ∀ t ∈ frames, t.IsData → ¬ Closed socket b
  closes : PeerCloses socket b e ∨ OwnCloses socket b e → Closed socket b'
  keeps : Closed socket b → Closed socket b'

/-- An event that closes nothing and hands out no Close. -/
theorem handsOut_quiet {socket : Nat} {b b' : BindingState} {e : ConnectionEvent}
    {frames : List FrameType} (hneither : ¬ (PeerCloses socket b e ∨ OwnCloses socket b e))
    (hquiet : .close ∉ frames) (hsingle : frames.length ≤ 1)
    (hdata : ∀ t ∈ frames, t.IsData → ¬ Closed socket b)
    (hkeeps : Closed socket b → Closed socket b') : HandsOut socket b e b' frames :=
  ⟨hsingle, ⟨fun h => absurd h hquiet, fun h => absurd h hneither⟩, hdata,
    fun h => absurd h hneither, hkeeps⟩

/-- An event that closes nothing. -/
theorem handsOut_send {socket : Nat} {b : BindingState} {e : ConnectionEvent} (type : FrameType)
    (hdata : type ≠ .close) (hpeer : ¬ PeerCloses socket b e) (hown : ¬ OwnCloses socket b e)
    {send : Connection → WebResult × List Effect}
    (hsend : ∀ c, sent (send c).2 = [] ∨ c.isOpen = true ∧ sent (send c).2 = [type]) :
    let r := b.onConnection socket fun c => (c, send c)
    HandsOut socket b e r.1 (sent r.2) := by
  have hneither : ¬ (PeerCloses socket b e ∨ OwnCloses socket b e) :=
    fun h => h.elim hpeer hown
  unfold BindingState.onConnection
  cases hfind : b.findConnection socket with
  | none =>
      exact ⟨by simp, by simpa using hneither, by simp, fun h => absurd h hneither, fun h => h⟩
  | some c =>
      have hkeeps : Closed socket b → Closed socket (b.storeConnection c) := by
        intro hclosed
        obtain ⟨d, hd, hshut⟩ := hclosed
        obtain rfl : c = d := Option.some.inj (hfind.symm.trans hd)
        exact closed_store hfind rfl hshut
      dsimp only
      rcases hsend c with hnothing | ⟨hopen, hframe⟩
      · rw [hnothing]
        exact ⟨by simp, by simpa using hneither, by simp, fun h => absurd h hneither, hkeeps⟩
      · rw [hframe]
        refine ⟨by simp, ⟨fun h => ?_, fun h => absurd h hneither⟩, fun t _ _ hclosed => ?_,
          fun h => absurd h hneither, hkeeps⟩
        · exact absurd (List.mem_singleton.mp h).symm hdata
        · obtain ⟨d, hd, hshut⟩ := hclosed
          obtain rfl : c = d := Option.some.inj (hfind.symm.trans hd)
          simp [hopen] at hshut

/-- The application's `Close`. -/
theorem handsOut_close (socket : Nat) (b : BindingState) (n : SendNatives) (code : UInt16)
    (reason : Bytes) :
    let r := b.onConnection socket fun c => c.close n code reason
    HandsOut socket b (.close n code reason) r.1 (sent r.2) := by
  unfold BindingState.onConnection
  cases hfind : b.findConnection socket with
  | none =>
      have hneither : ¬ (PeerCloses socket b (.close n code reason) ∨
          OwnCloses socket b (.close n code reason)) := by
        simp [PeerCloses, OwnCloses, hfind]
      exact ⟨by simp, by simpa using hneither, by simp, fun h => absurd h hneither, fun h => h⟩
  | some c =>
      have hown : PeerCloses socket b (.close n code reason) ∨
          OwnCloses socket b (.close n code reason) ↔ c.isOpen = true ∧ c.Takes n := by
        simp [PeerCloses, OwnCloses, hfind]
      have hclosed : Closed socket (b.storeConnection (c.close n code reason).1) :=
        closed_store hfind (close_socket ..) (isOpen_close ..)
      dsimp only
      rw [sent_close]
      refine ⟨?_, ?_, ?_, fun _ => hclosed, fun _ => hclosed⟩
      · split <;> simp
      · rw [hown]
        simp
      · split <;> simp [FrameType.IsData]

/-- A frame. -/
theorem handsOut_frame (socket : Nat) (b : BindingState) (n : RequestNatives)
    (handle : Option Nat) (f : WsFrame) :
    let r := connectionStep socket b (.frame n handle f)
    HandsOut socket b (.frame n handle f) r.1 (sent r.2) := by
  cases hreceiver : b.receiver socket n handle with
  | none =>
      obtain ⟨hsame, hsent, -⟩ := frame_unreceived hreceiver f
      have hneither : ¬ (PeerCloses socket b (.frame n handle f) ∨
          OwnCloses socket b (.frame n handle f)) := by
        simp [PeerCloses, OwnCloses, hreceiver]
      dsimp only
      rw [hsame, hsent]
      exact ⟨by simp, by simpa using hneither, by simp, fun h => absurd h hneither, fun h => h⟩
  | some c =>
      obtain ⟨b', before, calls, hfind, -, -, -, hreceives⟩ := frame_received hreceiver f
      have hcloses : PeerCloses socket b (.frame n handle f) ∨
          OwnCloses socket b (.frame n handle f) ↔
            ReadWhole n f ∧ f.type = .close ∨ c.isOpen = true ∧ c.Fails n f ∧ c.Takes n.close := by
        simp [PeerCloses, OwnCloses, hreceiver]
      by_cases hends : c.Ends n f
      · obtain ⟨hclosed, hframes⟩ := hreceives.ended hends hfind
        rcases hframes with ⟨hfails, hframes⟩ | ⟨hpeer, hframes⟩ <;> dsimp only <;> rw [hframes]
        · have hpeer : ¬ (ReadWhole n f ∧ f.type = .close) :=
            fun h => hfails.notControl h.1 (.inr (.inr h.2))
          refine ⟨?_, ?_, ?_, fun _ => hclosed, fun _ => hclosed⟩
          · split <;> simp
          · rw [hcloses]
            simp [hpeer, hfails]
          · split <;> simp [FrameType.IsData]
        · have hleaves := hcloses.mpr (.inl hpeer)
          exact ⟨by simp, by simpa using hleaves, by simp [FrameType.IsData], fun _ => hclosed,
            fun _ => hclosed⟩
      · obtain ⟨hframes, hkeeps⟩ := hreceives.lives hends hfind
        have hneither : ¬ (PeerCloses socket b (.frame n handle f) ∨
            OwnCloses socket b (.frame n handle f)) := by
          rw [hcloses]
          exact fun h => hends (h.elim .inr fun h => .inl h.2.1)
        have hshut : Closed socket b → c.isOpen = false := by
          intro hclosed
          obtain ⟨d, hd, hshut⟩ := hclosed
          rw [← receiver_tracked hreceiver hd]
          exact hshut
        refine handsOut_quiet hneither ?_ ?_ ?_ fun h => hkeeps (hshut h)
        · rcases hframes with h | h <;> rw [h] <;> simp
        · rcases hframes with h | h <;> rw [h] <;> simp
        · rcases hframes with h | h <;> rw [h] <;> simp [FrameType.IsData]

/-- **Step lemma.** -/
theorem handsOut (socket : Nat) (b : BindingState) (e : ConnectionEvent) :
    HandsOut socket b e (connectionStep socket b e).1 (sent (connectionStep socket b e).2) := by
  cases e with
  | sendBinary n data size =>
      exact handsOut_send .binary (by simp) (by simp [PeerCloses]) (by simp [OwnCloses])
        fun c => sent_sendBinary c n data size
  | sendText n text =>
      exact handsOut_send .text (by simp) (by simp [PeerCloses]) (by simp [OwnCloses])
        fun c => sent_queueFrame c n .text (some text) text.length false
  | close n code reason => exact handsOut_close socket b n code reason
  | frame n handle f => exact handsOut_frame socket b n handle f

/-! ## Runs -/

theorem count_close_le_one {frames : List FrameType} :
    frames.count .close ≤ 1 ↔
      frames.Pairwise fun earlier later => earlier = .close → later ≠ .close := by
  induction frames with
  | nil => simp
  | cons t rest ih =>
      rw [List.pairwise_cons, ← ih]
      by_cases ht : t = .close
      · subst ht
        have hnone : rest.count .close ≤ 0 ↔ ∀ later ∈ rest, later ≠ .close := by
          rw [Nat.le_zero, List.count_eq_zero]
          exact ⟨fun h later hlater heq => h (heq ▸ hlater), fun h hmem => h _ hmem rfl⟩
        rw [List.count_cons_self, Nat.succ_le_succ_iff, hnone]
        refine ⟨fun h => ⟨fun later hlater _ => h later hlater, ?_⟩,
          fun h later hlater => h.1 later hlater rfl⟩
        exact Nat.le_succ_of_le (hnone.mpr h)
      · rw [List.count_cons_of_ne ht]
        simp [ht]

theorem closesOnce_iff_pairwise {frames : List FrameType} :
    ClosesOnce frames ↔
      frames.Pairwise fun earlier later =>
        (earlier = .close → later ≠ .close) ∧ (earlier = .close → ¬ later.IsData) := by
  rw [List.pairwise_and_iff, ← count_close_le_one]
  exact ⟨fun h => ⟨h.once, h.last⟩, fun h => ⟨h.1, h.2⟩⟩

/-- **Close frames.**  A run hands out one Close frame at most and no data
frame after it, if and only if no Close of the peer is processed after a Close
of the peer or after an own one that HTTPD took. -/
theorem closesOnce_iff (socket : Nat) (b : BindingState) (events : List ConnectionEvent) :
    ClosesOnce (sent (Runs.feed (connectionStep socket) b events).2) ↔
      (Runs.trace (connectionStep socket) b events).Pairwise fun earlier later =>
        PeerCloses socket earlier.1 earlier.2 ∨ OwnCloses socket earlier.1 earlier.2 →
          ¬ PeerCloses socket later.1 later.2 := by
  have hframes : sent (Runs.feed (connectionStep socket) b events).2 =
      (Runs.trace (connectionStep socket) b events).flatMap fun x =>
        sent (connectionStep socket x.1 x.2).2 := by
    rw [Runs.feed_eq_flatMap]
    exact List.filterMap_flatMap
  -- From the first Close frame on the connection is closed.
  have hclosed : (Runs.trace (connectionStep socket) b events).Pairwise fun earlier later =>
      PeerCloses socket earlier.1 earlier.2 ∨ OwnCloses socket earlier.1 earlier.2 →
        Closed socket later.1 :=
    Runs.trace_pairwise (fun s e => (handsOut socket s e).closes)
      (fun s e => (handsOut socket s e).keeps) b events
  rw [closesOnce_iff_pairwise, hframes, List.pairwise_flatMap]
  constructor
  · intro h
    refine h.2.imp fun hpair hleaves hpeer => ?_
    have hfirst := (handsOut socket _ _).close.mpr hleaves
    have hsecond := (handsOut socket _ _).close.mpr (.inl hpeer)
    exact (hpair _ hfirst _ hsecond).1 rfl rfl
  · intro h
    refine ⟨fun x _ => ?_, (hclosed.and h).imp fun hpair s hs t ht => ?_⟩
    · match hlist : sent (connectionStep socket x.1 x.2).2, (handsOut socket x.1 x.2).single with
      | [], _ => exact List.Pairwise.nil
      | [t], _ => exact List.pairwise_singleton _ t
    · refine ⟨fun hclose hagain => ?_, fun hclose hdata => ?_⟩
      · subst hclose hagain
        have hleaves := (handsOut socket _ _).close.mp hs
        rcases (handsOut socket _ _).close.mp ht with hpeer | hown
        · exact hpair.2 hleaves hpeer
        · exact hown.unclosed (hpair.1 hleaves)
      · subst hclose
        have hleaves := (handsOut socket _ _).close.mp hs
        exact (handsOut socket _ _).data t ht hdata (hpair.1 hleaves)

/-- The application closes a connection, and then the peer's own Close frame
is processed: two Close frames leave. -/
theorem close_echoed_after_close :
    let upgraded := ((BindingState.make (some 0)).activate.handleUpgrade .allOk (some 1) 7).1
    ¬ ClosesOnce (sent (Runs.feed (connectionStep 7) upgraded
      [.close ⟨true, .succeeded, .ok⟩ 1000 [],
        .frame .allOk (some 1) ⟨.close, true, [3, 232]⟩]).2) := by
  intro upgraded h
  exact absurd h.once (by decide)

end WebSocketEndpoint
