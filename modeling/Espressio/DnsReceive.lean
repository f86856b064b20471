import Espressio.DnsServer

/-!
# What a received datagram comes to

A datagram is dispatched if it is a query, answered with a format error if it
only has a header, and dropped otherwise.  `receivePacket_classifies` says so
for all datagrams, with what the dispatcher is handed and what a format error
looks like; that `receivePacket` returns at all says that no read falls
outside the datagram.
-/

namespace Dns

open NetworkBytes CompressedNames Web

theorem read16_some (bytes : Bytes) (offset : Nat) (h : offset + 2 ≤ bytes.length) :
    ∃ v, read16 bytes offset = some v := by
  unfold read16
  rw [List.getElem?_eq_getElem (by omega : offset < bytes.length),
    List.getElem?_eq_getElem (by omega : offset + 1 < bytes.length)]
  exact ⟨_, rfl⟩

/-- A query: one question, QR clear, a well-formed name and its type and class
inside the datagram. -/
structure IsQuery (bytes : Bytes) : Prop where
  long : 12 ≤ bytes.length
  short : bytes.length ≤ maximumPacketBytes
  notResponse : ∀ flags, read16 bytes 2 = some flags → flags &&& 0x8000 = 0
  oneQuestion : read16 bytes 4 = some 1
  name : ∃ text e, EncodesName bytes 12 text e ∧ e + 4 ≤ bytes.length

/-- The calls of a format error: at most one datagram, to the sender, and lwIP's
own buffer is left alone. -/
def ErrorCalls (codes : Codes) (remote : Remote) (bytes : Bytes) (calls : List Call) : Prop :=
  calls = [] ∨ calls = [.allocate] ∨ calls = [.allocate, .free .reply] ∨
    ∃ id₀ id₁ result, bytes[0]? = some id₀ ∧ bytes[1]? = some id₁ ∧
      calls = [.allocate, .sendTo remote (formatErrorReply codes id₀ id₁) result, .free .reply]

theorem sendFormatError_spec (codes : Codes) (pcb : Bool) (remote : Remote) (bytes : Bytes)
    (n : SendNatives) :
    ∃ calls, sendFormatError codes pcb remote bytes n = some calls ∧
      ErrorCalls codes remote bytes calls := by
  unfold sendFormatError
  split
  · exact ⟨[], rfl, Or.inl rfl⟩
  · rename_i h
    have hlen : 2 ≤ bytes.length := by
      by_contra hshort
      exact h (Or.inr (by omega))
    have h₀ : bytes[0]? = some bytes[0] := List.getElem?_eq_getElem (by omega)
    have h₁ : bytes[1]? = some bytes[1] := List.getElem?_eq_getElem (by omega)
    rw [h₀, h₁]
    simp only [Option.bind_eq_bind, Option.bind_some]
    split
    · exact ⟨_, rfl, Or.inr (Or.inl rfl)⟩
    · split
      · exact ⟨_, rfl, Or.inr (Or.inr (Or.inl rfl))⟩
      · exact ⟨_, rfl, Or.inr (Or.inr (Or.inr ⟨_, _, _, h₀, h₁, rfl⟩))⟩

/-- What the dispatcher is handed: the name, type and class of the question,
and a response that has not been sent. -/
structure Dispatches (bytes : Bytes) (remote : Remote) (request : Request)
    (response : Response) : Prop where
  question : ∃ e, EncodesName bytes 12 request.name e ∧
    read16 bytes e = some request.type ∧ read16 bytes (e + 2) = some request.recordClass ∧
    e + 4 ≤ bytes.length ∧ Response.create true remote bytes (e + 4) true = some response
  valid : response.valid = true

theorem create_spec (remote : Remote) {bytes : Bytes} {questionEnd : Nat}
    (hlong : 12 ≤ bytes.length) (hend : questionEnd ≤ bytes.length)
    (hshort : questionEnd ≤ maximumPacketBytes) (allocated : Bool) :
    ∃ response, Response.create true remote bytes questionEnd allocated = some response ∧
      response.valid = allocated := by
  unfold Response.create
  by_cases hall : allocated = false
  · rw [if_pos (by simp [hall])]
    exact ⟨_, rfl, hall.symm⟩
  · rw [if_neg (by simp [hall]; omega)]
    obtain ⟨flags, hflags⟩ := read16_some bytes 2 (by omega)
    have hslice : slice bytes 0 questionEnd = some ((bytes.drop 0).take questionEnd) := by
      unfold slice
      rw [if_pos (by omega)]
    rw [hslice, hflags]
    exact ⟨_, rfl, by simpa using hall⟩

/-- **A copied datagram.**  It is dispatched if and only if it is a query and
the response's buffer can be allocated; otherwise nothing or a format error is
sent. -/
theorem handleQuery_spec (codes : Codes) (dispatcher : Nat) (remote : Remote) {bytes : Bytes}
    (hlong : 12 ≤ bytes.length) (hshort : bytes.length ≤ maximumPacketBytes)
    (n : ReceiveNatives) :
    ∃ out, handleQuery codes dispatcher remote bytes n = some out ∧
      ErrorCalls codes remote bytes out.calls ∧
      (out.dispatched.isSome = true ↔ IsQuery bytes ∧ n.responseAllocated = true) ∧
      ∀ d request response, out.dispatched = some (d, request, response) →
        out.calls = [] ∧ d = dispatcher ∧ Dispatches bytes remote request response := by
  obtain ⟨flags, hflags⟩ := read16_some bytes 2 (by omega)
  obtain ⟨count, hcount⟩ := read16_some bytes 4 (by omega)
  obtain ⟨calls, hcalls, herror⟩ := sendFormatError_spec codes true remote bytes n.reply
  -- The three branches that answer with a format error do the same.
  have hrefused : ¬ IsQuery bytes → ∃ out, (some ⟨calls, none⟩ : Option Received) = some out ∧
      ErrorCalls codes remote bytes out.calls ∧
      (out.dispatched.isSome = true ↔ IsQuery bytes ∧ n.responseAllocated = true) ∧
      ∀ d request response, out.dispatched = some (d, request, response) →
        out.calls = [] ∧ d = dispatcher ∧ Dispatches bytes remote request response :=
    fun hnot => ⟨⟨calls, none⟩, rfl, herror, by simp [hnot], by simp⟩
  unfold handleQuery
  rw [hflags, hcount, hcalls]
  simp only [Option.bind_eq_bind, Option.bind_some]
  by_cases hheader : flags &&& 0x8000 ≠ 0 ∨ count ≠ 1
  · rw [if_pos hheader]
    apply hrefused
    intro hq
    rcases hheader with hqr | hone
    · exact hqr (hq.notResponse flags hflags)
    · have := hq.oneQuestion
      rw [hcount] at this
      exact hone (Option.some.inj this)
  · rw [if_neg hheader]
    simp only [not_or, ne_eq, Decidable.not_not] at hheader
    obtain ⟨hqr, rfl⟩ := hheader
    have hname := @decodeDnsName_eq_name bytes
    obtain ⟨hin, hdone⟩ := decodeDnsName_sound bytes 12
    cases hdecode : decodeDnsName bytes 12 with
    | outOfBounds => exact absurd hdecode hin
    | unfinished => exact absurd hdecode hdone
    | malformed =>
        apply hrefused
        intro hq
        obtain ⟨text, e, henc, -⟩ := hq.name
        rw [hname.mpr henc] at hdecode
        cases hdecode
    | name text e =>
        have henc := hname.mp hdecode
        dsimp only
        by_cases hbeyond : bytes.length < e + 4
        · rw [if_pos hbeyond]
          apply hrefused
          intro hq
          obtain ⟨text', e', henc', hend⟩ := hq.name
          rw [hname.mpr henc'] at hdecode
          cases hdecode
          omega
        · rw [if_neg hbeyond]
          have hend : e + 4 ≤ bytes.length := Nat.not_lt.mp hbeyond
          obtain ⟨type, htype⟩ := read16_some bytes e (by omega)
          obtain ⟨recordClass, hclass⟩ := read16_some bytes (e + 2) (by omega)
          obtain ⟨response, hcreate, hvalid⟩ := create_spec remote hlong hend
            (by omega) n.responseAllocated
          have hquery : IsQuery bytes := by
            refine ⟨hlong, hshort, ?_, hcount, text, e, henc, hend⟩
            intro flags' hflags'
            rw [hflags] at hflags'
            cases hflags'
            exact hqr
          rw [htype, hclass, hcreate]
          simp only [Option.bind_some]
          by_cases hall : n.responseAllocated = true
          · rw [if_neg (by simp [hvalid, hall])]
            refine ⟨_, rfl, Or.inl rfl, by simp [hquery, hall], ?_⟩
            intro d request response' hd
            cases hd
            refine ⟨rfl, rfl, ⟨e, henc, htype, hclass, hend, ?_⟩, by rw [hvalid, hall]⟩
            rw [← hcreate, hall]
          · rw [if_pos (by rw [hvalid]; simpa using hall)]
            exact ⟨_, rfl, Or.inl rfl, by simp [hall], by simp⟩

/-- lwIP's own buffer is freed once. -/
def FreedOnce (calls : List Call) : Prop := calls.count (.free .received) = 1

theorem ErrorCalls.freed {codes : Codes} {remote : Remote} {bytes : Bytes} {calls : List Call}
    (h : ErrorCalls codes remote bytes calls) : FreedOnce (.free .received :: calls) := by
  rcases h with rfl | rfl | rfl | ⟨_, _, _, -, -, rfl⟩ <;> simp [FreedOnce]

/-- A format error goes to the sender, is 12 bytes long and has the request's
ID. -/
theorem ErrorCalls.reply {codes : Codes} {remote peer : Remote} {bytes payload : Bytes}
    {calls : List Call} {result : LwipErr} (h : ErrorCalls codes remote bytes calls)
    (hsent : .sendTo peer payload result ∈ calls) :
    peer = remote ∧ payload.length = 12 ∧ payload[0]? = bytes[0]? ∧ payload[1]? = bytes[1]? := by
  rcases h with rfl | rfl | rfl | ⟨id₀, id₁, _, h₀, h₁, rfl⟩
  · cases hsent
  · simp at hsent
  · simp at hsent
  · simp only [List.mem_cons, reduceCtorEq, Call.sendTo.injEq, List.not_mem_nil, or_false,
      false_or] at hsent
    obtain ⟨rfl, rfl, -⟩ := hsent
    refine ⟨rfl, by simp [formatErrorReply], ?_, ?_⟩
    · rw [h₀, formatErrorReply, getElem?_write16]
      rfl
    · rw [h₁, formatErrorReply, getElem?_write16]
      rfl

/-- A packet is dropped, or copied and handled. -/
theorem receivePacket_cases (codes : Codes) (owner : Option Server) (pcb : Bool) (bytes : Bytes)
    (remote : Option Remote) (n : ReceiveNatives) :
    receivePacket codes owner pcb (some bytes) remote n = some ⟨[.free .received], none⟩ ∨
      ∃ dispatcher peer, remote = some peer ∧
        12 ≤ bytes.length ∧ bytes.length ≤ maximumPacketBytes ∧
        receivePacket codes owner pcb (some bytes) remote n =
          (handleQuery codes dispatcher peer bytes n).map fun received =>
            { received with calls := .free .received :: received.calls } := by
  unfold receivePacket
  dsimp only
  cases owner with
  | none => exact Or.inl rfl
  | some server =>
      cases remote with
      | none => exact Or.inl rfl
      | some peer =>
          dsimp only
          cases server.dispatcher with
          | none => exact Or.inl rfl
          | some dispatcher =>
              dsimp only
              split
              · exact Or.inl rfl
              · split
                · exact Or.inl rfl
                · rename_i hsize
                  simp only [not_or, Nat.not_lt] at hsize
                  split
                  · exact Or.inl rfl
                  · split
                    · exact Or.inl rfl
                    · exact Or.inr ⟨dispatcher, peer, rfl, hsize.1, hsize.2, rfl⟩

/-- Memory for the copy and the response, and a complete copy. -/
structure ReceiveNatives.Succeed (n : ReceiveNatives) (bytes : Bytes) : Prop where
  copyAllocated : n.copyAllocated = true
  copied : n.copied = bytes.length
  responseAllocated : n.responseAllocated = true

/-- **A datagram on a listening platform with a dispatcher.**  Whatever its
bytes: `receivePacket` returns, so no read fell outside the datagram and the
decoder ended; the packet is freed once; the datagram is dispatched if and
only if it is a query and the buffers are there for it; what is dispatched is
what the datagram encodes; and what is sent is a format error of 12 bytes with
the request's ID. -/
theorem receivePacket_classifies (codes : Codes) (dispatcher : Nat) (remote : Remote)
    (bytes : Bytes) (n : ReceiveNatives) :
    ∃ out, receivePacket codes (some ⟨true, some dispatcher⟩) true (some bytes) (some remote) n =
        some out ∧
      FreedOnce out.calls ∧
      (out.dispatched.isSome = true ↔ IsQuery bytes ∧ n.Succeed bytes) ∧
      (∀ d request response, out.dispatched = some (d, request, response) →
        d = dispatcher ∧ Dispatches bytes remote request response) ∧
      ∀ peer payload result, .sendTo peer payload result ∈ out.calls →
        peer = remote ∧ payload.length = 12 ∧ payload[0]? = bytes[0]? ∧
          payload[1]? = bytes[1]? := by
  -- A datagram that is dropped is freed and comes to nothing else.
  have hdropped : ¬ (IsQuery bytes ∧ n.Succeed bytes) → ∃ out : Received,
      (some ⟨[.free .received], none⟩ : Option Received) = some out ∧ FreedOnce out.calls ∧
      (out.dispatched.isSome = true ↔ IsQuery bytes ∧ n.Succeed bytes) ∧
      (∀ d request response, out.dispatched = some (d, request, response) →
        d = dispatcher ∧ Dispatches bytes remote request response) ∧
      ∀ peer payload result, .sendTo peer payload result ∈ out.calls →
        peer = remote ∧ payload.length = 12 ∧ payload[0]? = bytes[0]? ∧
          payload[1]? = bytes[1]? :=
    fun hnot => ⟨_, rfl, by simp [FreedOnce], by simp [hnot], by simp, by simp⟩
  unfold receivePacket
  simp only [Bool.true_eq_false, or_self, if_false]
  by_cases hsize : bytes.length < 12 ∨ maximumPacketBytes < bytes.length
  · rw [if_pos hsize]
    apply hdropped
    intro hboth
    have := hboth.1.long
    have := hboth.1.short
    omega
  · rw [if_neg hsize]
    simp only [not_or, Nat.not_lt] at hsize
    by_cases hcopy : n.copyAllocated = false
    · rw [if_pos hcopy]
      exact hdropped fun ⟨_, hs⟩ => by simp [hs.copyAllocated] at hcopy
    · rw [if_neg hcopy]
      by_cases hcopied : n.copied ≠ bytes.length
      · rw [if_pos hcopied]
        exact hdropped fun ⟨_, hs⟩ => hcopied hs.copied
      · rw [if_neg hcopied]
        obtain ⟨out, hout, herror, hiff, hdispatched⟩ :=
          handleQuery_spec codes dispatcher remote hsize.1 hsize.2 n
        rw [hout]
        refine ⟨_, rfl, herror.freed, hiff.trans ?_, ?_, ?_⟩
        · constructor
          · intro hparts
            obtain ⟨hq, hall⟩ := hparts
            exact ⟨hq, by simpa using hcopy, not_not.mp hcopied, hall⟩
          · exact fun hboth => ⟨hboth.1, hboth.2.responseAllocated⟩
        · exact fun d request response hd => (hdispatched d request response hd).2
        · intro peer payload result hsent
          rcases List.mem_cons.mp hsent with hsent | hsent
          · cases hsent
          · exact herror.reply hsent

end Dns
