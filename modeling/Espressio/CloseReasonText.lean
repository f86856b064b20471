import Espressio.ClientPlatform
import Espressio.ConnectionEffects
import Espressio.Utf8

/-!
# The reason in a Close frame

The payload of a control frame has 125 bytes at most, two of them the close
code, and a reason has to be UTF-8.  The endpoint's `Close` and the client's
`Disconnect` each cut a longer reason after 123 bytes.

They keep to the length, and what they say is a beginning of the reason.  It is
UTF-8 exactly if the cut does not fall into a character: `said_iff`.
-/

namespace WebSocketText

open NetworkBytes WebSocketEndpoint WebSocketClient

/-- What a Close frame may say for a reason. -/
structure Says (reason said : Bytes) : Prop where
  short : 2 + said.length ≤ 125
  valid : Utf8.Valid said
  beginning : said <+: reason

/-- Every Close frame that `Close` of a connection queues. -/
def EndpointSays (code : UInt16) (reason : Bytes) : Prop :=
  ∀ (c : Connection) (n : SendNatives) (socket : Nat) (payload : Bytes) (closeAfterSend : Bool),
    Effect.queueFrame socket .close payload closeAfterSend ∈ (c.close n code reason).2.2 →
      payload.take 2 = [(code >>> 8).toUInt8, code.toUInt8] ∧ payload.length ≤ 125 ∧
        Says reason (payload.drop 2)

/-- Every native close that a `Disconnect` makes. -/
def ClientSays (code : UInt16) (reason : Bytes) : Prop :=
  ∀ (p : Platform) (task : Nat) (c : Closing), (p.beginDisconnect task code reason).2 = .ok c →
    ∀ (connected : Bool) (client : Nat) (given : UInt16) (said : Bytes),
      c.stopCall connected = .closeWithCode client given said → given = code ∧ Says reason said

variable {code : UInt16} {reason : Bytes}

/-- **The cut.** -/
theorem says_cut_iff (hvalid : Utf8.Valid reason) :
    Says reason (reason.take 123) ↔ ∀ h : 123 < reason.length, reason[123].IsUTF8FirstByte := by
  rw [← Utf8.valid_take_iff hvalid]
  refine ⟨Says.valid, fun hcut => ⟨?_, hcut, List.take_prefix 123 reason⟩⟩
  rw [List.length_take]
  omega

/-! ## The endpoint -/

theorem not_queued_of_notify {c : Connection} {a : Activity} {socket : Nat} {type : FrameType}
    {payload : Bytes} {closeAfterSend : Bool} :
    Effect.queueFrame socket type payload closeAfterSend ∉ c.notifyActivity a := by
  unfold Connection.notifyActivity notify
  cases c.activitySink <;> simp

/-- The frame that `Close` queues. -/
theorem mem_close_iff {c : Connection} {n : SendNatives} {socket : Nat} {type : FrameType}
    {payload : Bytes} {closeAfterSend : Bool} :
    Effect.queueFrame socket type payload closeAfterSend ∈ (c.close n code reason).2.2 ↔
      (c.isOpen = true ∧ c.Takes n) ∧ socket = c.socket ∧ type = .close ∧
        payload = closePayload code reason ∧ closeAfterSend = true := by
  cases hopen : c.isOpen with
  | false => simp [close_of_closed hopen]
  | true =>
      obtain ⟨requested, queued, trigger, -, -, htrigger, heffects⟩ :=
        close_effects hopen n code reason
      have hrest : Effect.queueFrame socket type payload closeAfterSend ∉ trigger := by
        rcases htrigger with rfl | rfl <;> simp
      rw [heffects]
      simp only [List.mem_append, not_queued_of_notify, hrest, false_or, or_false]
      split
      · rename_i htakes
        simp [htakes]
      · rename_i htakes
        simp [htakes]

theorem endpointSays_iff (hvalid : Utf8.Valid reason) :
    EndpointSays code reason ↔ ∀ h : 123 < reason.length, reason[123].IsUTF8FirstByte := by
  rw [← says_cut_iff hvalid]
  constructor
  · intro h
    have hqueued : Effect.queueFrame 0 .close (closePayload code reason) true ∈
        ((Connection.create (some 0) 0 none).close ⟨true, .succeeded, .ok⟩ code reason).2.2 :=
      mem_close_iff.mpr ⟨⟨rfl, by decide⟩, rfl, rfl, rfl, rfl⟩
    exact (h _ _ _ _ _ hqueued).2.2
  · intro hsays c n socket payload closeAfterSend hqueued
    obtain ⟨-, -, -, rfl, -⟩ := mem_close_iff.mp hqueued
    have hlength : (closePayload code reason).length = 2 + (reason.take 123).length := by
      rw [closePayload, List.length_append]
      rfl
    exact ⟨rfl, hlength ▸ hsays.short, hsays⟩

/-! ## The client -/

theorem clientSays_iff (hvalid : Utf8.Valid reason) :
    ClientSays code reason ↔ ∀ h : 123 < reason.length, reason[123].IsUTF8FirstByte := by
  rw [← says_cut_iff hvalid]
  constructor
  · intro h
    have hbegun : ((⟨{ initial none with client := some 0 }, false, none⟩ :
        Platform).beginDisconnect 0 code reason).2 = .ok ⟨0, false, code, reason⟩ := rfl
    exact (h _ _ _ hbegun true 0 code (reason.take 123) rfl).2
  · intro hsays p task c hbegun connected client given said hcall
    obtain ⟨hcode, hreason⟩ := closing_of_beginDisconnect hbegun
    cases connected with
    | false => cases hcall
    | true =>
        obtain ⟨-, rfl, rfl⟩ := NativeCall.closeWithCode.inj hcall
        rw [hreason]
        exact ⟨hcode, hsays⟩

/-! ## Both -/

/-- **What a Close frame says.**  For a code and a reason in UTF-8, both sides
send a beginning of the reason in UTF-8, of 125 bytes with the code, exactly if
the byte the cut is made at begins a character. -/
theorem said_iff (code : UInt16) (reason : Bytes) (hvalid : Utf8.Valid reason) :
    EndpointSays code reason ∧ ClientSays code reason ↔
      ∀ h : 123 < reason.length, reason[123].IsUTF8FirstByte := by
  rw [endpointSays_iff hvalid, clientSays_iff hvalid, and_self_iff]

/-- 122 letters, and one that takes two bytes. -/
def cutReason : Bytes := List.replicate 122 97 ++ [0xC3, 0xA9]

/-- 123 letters and that one. -/
def uncutReason : Bytes := 97 :: cutReason

theorem said_uncutReason : EndpointSays 1001 uncutReason ∧ ClientSays 1001 uncutReason ↔
    ∀ h : 123 < uncutReason.length, uncutReason[123].IsUTF8FirstByte :=
  said_iff 1001 uncutReason (by decide +kernel)

theorem cut_in_a_character : ¬ ∀ (code : UInt16) (reason : Bytes), Utf8.Valid reason →
    EndpointSays code reason ∧ ClientSays code reason := by
  intro h
  have hsays := (h 1000 cutReason (by decide +kernel)).1
  have hfirst := (endpointSays_iff (by decide +kernel)).mp hsays (by decide +kernel)
  revert hfirst
  decide +kernel

end WebSocketText
