import Mathlib.Data.Nat.Bitwise
import Espressio.DnsReceive
import Espressio.Runs

/-!
# Two servers and the datagrams between them

Two listening platforms receive datagrams whose source addresses may be
spoofed; what a platform sends in answer goes to the source the datagram
names, which may be the other platform.  A run delivers the datagrams in any
order, with any answers of lwIP and any dispatcher.

A datagram whose QR bit is set is never dispatched, but it is answered with a
format error, so two platforms can go on exchanging format errors for ever:
`format_errors_bounce`.  `exchange_bounded` is what holds of every run.
-/

namespace Dns

open NetworkBytes CompressedNames Web Runs

/-- The QR bit, as `ReceivePacket` reads it. -/
def isResponse (bytes : Bytes) : Bool :=
  match read16 bytes 2 with
  | some flags => flags &&& 0x8000 != 0
  | none => false

/-- What a dispatcher does with the response it is handed. -/
inductive DispatchOp
  | build (op : ResponseOp)
  | complete (natives : SendNatives)
  | abort

def Response.perform (codes : Codes) (r : Response) : DispatchOp → Response × List Call
  | .build op => ((r.apply codes op).1, [])
  | .complete n =>
      let (r', _, calls) := r.complete n
      (r', calls)
  | .abort => (r.abort, [])

structure Datagram where
  source : Remote
  destination : Remote
  bytes : Bytes
  deriving DecidableEq, Repr

/-- The datagrams that lwIP has taken from a platform. -/
def sentDatagrams (source : Remote) (calls : List Call) : List Datagram :=
  calls.filterMap fun
    | .sendTo peer payload .ok => some ⟨source, peer, payload⟩
    | _ => none

/-- One delivery: the datagram, whether it was dispatched, and what was sent
because of it. -/
structure Delivery where
  datagram : Datagram
  dispatched : Bool
  replies : List Datagram
  deriving DecidableEq, Repr

/-- A platform receives a datagram and its dispatcher does `ops`. -/
def receiveDatagram (codes : Codes) (n : ReceiveNatives) (ops : List DispatchOp)
    (datagram : Datagram) : Delivery :=
  match receivePacket codes (some ⟨true, some 0⟩) true (some datagram.bytes)
      (some datagram.source) n with
  | none => ⟨datagram, false, []⟩
  | some out =>
      match out.dispatched with
      | none => ⟨datagram, false, sentDatagrams datagram.destination out.calls⟩
      | some (_, _, response) =>
          ⟨datagram, true, sentDatagrams datagram.destination
            (out.calls ++ (feed (Response.perform codes) response ops).2)⟩

/-- The two platforms, what is in flight, and what has been delivered. -/
structure Exchange where
  platforms : Remote × Remote
  inFlight : List Datagram
  log : List Delivery
  deriving DecidableEq, Repr

/-- The delivery of the datagram at a position in flight. -/
structure Event where
  position : Nat
  natives : ReceiveNatives
  ops : List DispatchOp

/-- A datagram for neither platform is lost from view. -/
def Exchange.step (codes : Codes) (x : Exchange) (e : Event) : Exchange :=
  match x.inFlight[e.position]? with
  | none => x
  | some datagram =>
      let rest := x.inFlight.eraseIdx e.position
      if datagram.destination = x.platforms.1 ∨ datagram.destination = x.platforms.2 then
        let delivery := receiveDatagram codes e.natives e.ops datagram
        { x with inFlight := rest ++ delivery.replies, log := x.log ++ [delivery] }
      else { x with inFlight := rest }

def Exchange.run (codes : Codes) (x : Exchange) (events : List Event) : Exchange :=
  events.foldl (Exchange.step codes) x

/-- What has been sent because of the deliveries that `p` selects. -/
def sentFor (p : Delivery → Bool) (log : List Delivery) : Nat :=
  ((log.filter p).map fun d => d.replies.length).sum

/-! ## The QR bit -/

theorem and_8000 (v : UInt16) : v &&& 0x8000 ≠ 0 ↔ v.toNat.testBit 15 = true := by
  rw [ne_eq, ← UInt16.toNat_inj, UInt16.toNat_and,
    show (0x8000 : UInt16).toNat = 2 ^ 15 from rfl, Nat.and_two_pow]
  cases v.toNat.testBit 15 <;> simp

theorem isResponse_iff {bytes : Bytes} :
    isResponse bytes = true ↔ ∃ v, read16 bytes 2 = some v ∧ v.toNat.testBit 15 = true := by
  unfold isResponse
  cases read16 bytes 2 with
  | none => simp
  | some v => simp [← and_8000]

/-- Reading what was written. -/
theorem read16_write16_self {bytes : Bytes} {offset : Nat} (v : UInt16)
    (h : offset + 2 ≤ bytes.length) : read16 (write16 bytes offset v) offset = some v := by
  unfold read16
  rw [getElem?_write16, if_pos ⟨rfl, by omega⟩, getElem?_write16, if_neg (by omega),
    if_pos ⟨rfl, by omega⟩]
  exact congrArg some (join16_split v)

/-- Reading beside what was written. -/
theorem read16_write16_other (bytes : Bytes) {offset at' : Nat} (v : UInt16)
    (h : offset + 2 ≤ at' ∨ at' + 2 ≤ offset) :
    read16 (write16 bytes at' v) offset = read16 bytes offset := by
  unfold read16
  rw [getElem?_write16, if_neg (by omega), if_neg (by omega), getElem?_write16,
    if_neg (by omega), if_neg (by omega)]

theorem read16_append {bytes : Bytes} {offset : Nat} (more : Bytes)
    (h : offset + 2 ≤ bytes.length) : read16 (bytes ++ more) offset = read16 bytes offset := by
  unfold read16
  rw [List.getElem?_append_left (by omega), List.getElem?_append_left (by omega)]

theorem length_of_isResponse {bytes : Bytes} (h : isResponse bytes = true) : 4 ≤ bytes.length := by
  obtain ⟨v, hv, -⟩ := isResponse_iff.mp h
  obtain ⟨_, _, -, hlo, -⟩ := read16_bytes hv
  have := (List.getElem?_eq_some_iff.mp hlo).1
  omega

theorem isResponse_formatError (codes : Codes) (id₀ id₁ : UInt8) :
    isResponse (formatErrorReply codes id₀ id₁) = true := by
  refine isResponse_iff.mpr ⟨_, read16_write16_self _ (by simp), ?_⟩
  rw [UInt16.toNat_or, Nat.testBit_or]
  exact Bool.or_eq_true_iff.mpr (Or.inl (by decide))

theorem isResponse_create {remote : Remote} {bytes : Bytes} {questionEnd : Nat}
    {response : Response} (h : Response.create true remote bytes questionEnd true = some response)
    (hvalid : response.valid = true) (hend : 12 ≤ questionEnd) :
    isResponse response.buffer = true := by
  unfold Response.create at h
  split at h
  · cases h
    cases hvalid
  · rename_i hok
    simp only [not_or, Nat.not_lt] at hok
    obtain ⟨flags, hflags⟩ := read16_some bytes 2 (by omega)
    have hslice : slice bytes 0 questionEnd = some ((bytes.drop 0).take questionEnd) := by
      unfold slice
      rw [if_pos (by omega)]
    rw [hslice, hflags] at h
    cases h
    refine isResponse_iff.mpr ⟨responseFlags flags, ?_, ?_⟩
    · simp only [rewriteHeader]
      rw [read16_write16_other _ _ (by omega), read16_write16_other _ _ (by omega),
        read16_write16_other _ _ (by omega), read16_write16_other _ _ (by omega),
        read16_write16_self _ (by simp; omega)]
    · simp only [responseFlags, UInt16.toNat_or, Nat.testBit_or]
      exact Bool.or_eq_true_iff.mpr (Or.inl (by decide))

/-- No operation clears the QR bit. -/
theorem isResponse_apply (codes : Codes) {r : Response} (op : ResponseOp)
    (h : isResponse r.buffer = true) : isResponse (r.apply codes op).1.buffer = true := by
  have hlen := length_of_isResponse h
  obtain ⟨flags, hflags, hbit⟩ := isResponse_iff.mp h
  cases op with
  | setResponseCode code =>
      simp only [Response.apply, Response.setResponseCode]
      split
      · exact h
      · refine isResponse_iff.mpr ⟨_, read16_write16_self _ (by omega), ?_⟩
        rw [hflags, Option.getD_some, UInt16.toNat_or, Nat.testBit_or, UInt16.toNat_and,
          Nat.testBit_and, hbit]
        exact Bool.or_eq_true_iff.mpr (Or.inl (by decide))
  | addAddressAnswer address ttl allocated =>
      simp only [Response.apply, Response.addAddressAnswer]
      split
      · exact h
      · split
        · exact h
        · split
          · exact h
          · refine isResponse_iff.mpr ⟨flags, ?_, hbit⟩
            rw [read16_write16_other _ _ (by omega), read16_append _ (by omega)]
            exact hflags

/-! ## What one delivery sends -/

theorem sentDatagrams_append (source : Remote) (calls more : List Call) :
    sentDatagrams source (calls ++ more) =
      sentDatagrams source calls ++ sentDatagrams source more := by
  simp [sentDatagrams]

/-- What a dispatcher can still send with a response: nothing once it is
completed, and one datagram with QR set before. -/
def Sends (source : Remote) (r : Response) (calls : List Call) : Prop :=
  (sentDatagrams source calls).length ≤ (if r.completed then 0 else 1) ∧
    ∀ d ∈ sentDatagrams source calls, isResponse d.bytes = true

theorem complete_cases (source : Remote) {r : Response} (n : SendNatives)
    (h : isResponse r.buffer = true) :
    (r.complete n).1.buffer = r.buffer ∧
      (sentDatagrams source (r.complete n).2.2 = [] ∧
          (r.completed = true → (r.complete n).1.completed = true) ∨
        r.completed = false ∧ (r.complete n).1.completed = true ∧
          ∃ d, sentDatagrams source (r.complete n).2.2 = [d] ∧ isResponse d.bytes = true) := by
  unfold Response.complete
  split
  · exact ⟨rfl, Or.inl ⟨rfl, id⟩⟩
  · rename_i hready
    split
    · exact ⟨rfl, Or.inl ⟨rfl, id⟩⟩
    · split
      · exact ⟨rfl, Or.inl ⟨rfl, id⟩⟩
      · dsimp only
        split
        · rename_i hfailed
          refine ⟨rfl, Or.inl ⟨?_, id⟩⟩
          cases hsent : n.sent with
          | ok => exact absurd hsent hfailed
          | mem | other => simp [sentDatagrams]
        · rename_i hsent
          rw [not_not.mp hsent]
          exact ⟨rfl, Or.inr ⟨by simpa using fun hc => hready (Or.inr hc), rfl, _, rfl, h⟩⟩

/-- **A dispatcher sends at most one datagram**, by induction over what it
does. -/
theorem dispatch_sends (codes : Codes) (source : Remote) (ops : List DispatchOp) {r : Response}
    (h : isResponse r.buffer = true) :
    Sends source r (feed (Response.perform codes) r ops).2 := by
  induction ops generalizing r with
  | nil => exact ⟨by simp [sentDatagrams], by simp [sentDatagrams]⟩
  | cons op rest ih =>
      rw [feed_cons]
      cases op with
      | build op =>
          have hsame : (r.apply codes op).1.completed = r.completed := by
            cases op with
            | setResponseCode code =>
                simp only [Response.apply, Response.setResponseCode]
                split <;> rfl
            | addAddressAnswer address ttl allocated =>
                simp only [Response.apply, Response.addAddressAnswer]
                split
                · rfl
                · split
                  · rfl
                  · split <;> rfl
          have hrest := ih (isResponse_apply codes op h)
          unfold Sends at hrest ⊢
          rw [hsame] at hrest
          exact hrest
      | abort =>
          obtain ⟨hlen, hbits⟩ := ih (r := r.abort) h
          exact ⟨Nat.le_trans hlen (by simp [Response.abort]), hbits⟩
      | complete n =>
          obtain ⟨hbuffer, hcases⟩ := complete_cases source n h
          obtain ⟨hlen, hbits⟩ := ih (r := (r.complete n).1) (by rw [hbuffer]; exact h)
          have hsplit : ∀ calls, sentDatagrams source ((r.perform codes (.complete n)).2 ++ calls) =
              sentDatagrams source (r.complete n).2.2 ++ sentDatagrams source calls :=
            fun calls => sentDatagrams_append source _ _
          unfold Sends
          rw [hsplit]
          rcases hcases with ⟨hnone, hkeep⟩ | ⟨hopen, hdone, d, hone, hbit⟩
          · rw [hnone, List.nil_append]
            refine ⟨Nat.le_trans hlen ?_, hbits⟩
            cases hc : r.completed with
            | false => simp only [Bool.false_eq_true, if_false]; split <;> omega
            | true => simp [hkeep hc]
          · rw [hdone, if_pos rfl, Nat.le_zero, List.length_eq_zero_iff] at hlen
            have hlen' : sentDatagrams source (feed (Response.perform codes)
              (r.perform codes (.complete n)).1 rest).2 = [] := hlen
            rw [hone, hlen']
            simp [hopen, hbit]

theorem ErrorCalls.sends {codes : Codes} {remote : Remote} {bytes : Bytes} {calls : List Call}
    (h : ErrorCalls codes remote bytes calls) (source : Remote) :
    (sentDatagrams source calls).length ≤ 1 ∧
      ∀ d ∈ sentDatagrams source calls, isResponse d.bytes = true ∧ d.bytes.length = 12 ∧
        d.bytes[0]? = bytes[0]? ∧ d.bytes[1]? = bytes[1]? := by
  have hreply : ∀ peer payload result, .sendTo peer payload result ∈ calls →
      payload.length = 12 ∧ payload[0]? = bytes[0]? ∧ payload[1]? = bytes[1]? :=
    fun _ _ _ hsent => (h.reply hsent).2
  rcases h with rfl | rfl | rfl | ⟨id₀, id₁, result, -, -, rfl⟩
  · simp [sentDatagrams]
  · simp [sentDatagrams]
  · simp [sentDatagrams]
  · have hone := hreply remote (formatErrorReply codes id₀ id₁) result (by simp)
    cases result with
    | ok =>
        refine ⟨by simp [sentDatagrams], fun d hd => ?_⟩
        obtain rfl : d = ⟨source, remote, formatErrorReply codes id₀ id₁⟩ := by
          simpa [sentDatagrams] using hd
        exact ⟨isResponse_formatError codes id₀ id₁, hone⟩
    | mem | other => simp [sentDatagrams]

/-- What holds of a delivery: one reply at most, which has QR set; and a
datagram with QR set is not dispatched, and its reply is a bare header with
its ID. -/
structure Bounded (v : Delivery) : Prop where
  one : v.replies.length ≤ 1
  replies : ∀ d ∈ v.replies, isResponse d.bytes = true
  response : isResponse v.datagram.bytes = true → v.dispatched = false ∧
    ∀ d ∈ v.replies, d.bytes.length = 12 ∧ d.bytes[0]? = v.datagram.bytes[0]? ∧
      d.bytes[1]? = v.datagram.bytes[1]?

theorem IsQuery.not_isResponse {bytes : Bytes} (h : IsQuery bytes) : isResponse bytes = false := by
  unfold isResponse
  cases hflags : read16 bytes 2 with
  | none => rfl
  | some flags => simp [h.notResponse flags hflags]

/-- **One delivery.** -/
theorem receiveDatagram_bounded (codes : Codes) (n : ReceiveNatives) (ops : List DispatchOp)
    (datagram : Datagram) :
    (receiveDatagram codes n ops datagram).datagram = datagram ∧
      Bounded (receiveDatagram codes n ops datagram) := by
  unfold receiveDatagram
  rcases receivePacket_cases codes (some ⟨true, some 0⟩) true datagram.bytes
    (some datagram.source) n with hdrop | ⟨dispatcher, peer, -, hlong, hshort, hhandle⟩
  · rw [hdrop]
    exact ⟨rfl, by simp [sentDatagrams], by simp [sentDatagrams], by simp [sentDatagrams]⟩
  · obtain ⟨out, hout, herror, hiff, hdispatched⟩ :=
      handleQuery_spec codes dispatcher peer hlong hshort n
    rw [hhandle, hout]
    simp only [Option.map_some]
    have hfree : ∀ calls, sentDatagrams datagram.destination (.free .received :: calls) =
        sentDatagrams datagram.destination calls := fun _ => rfl
    obtain ⟨hlen, hreplies⟩ := herror.sends datagram.destination
    cases hd : out.dispatched with
    | none =>
        refine ⟨rfl, ?_, ?_, ?_⟩
        · rw [hfree]
          exact hlen
        · rw [hfree]
          exact fun d hin => (hreplies d hin).1
        · rw [hfree]
          exact fun _ => ⟨rfl, fun d hin => (hreplies d hin).2⟩
    | some handed =>
        obtain ⟨d, request, response⟩ := handed
        obtain ⟨hcalls, -, ⟨e, henc, -, -, -, hcreate⟩, hvalid⟩ :=
          hdispatched d request response hd
        have hquery := (hiff.mp (by rw [hd]; rfl)).1
        obtain ⟨jumps, labels, henc, -⟩ := henc
        have hstop := henc.start_lt
        have hqr := isResponse_create hcreate hvalid (by omega)
        obtain ⟨hsends, hbits⟩ := dispatch_sends codes datagram.destination ops hqr
        dsimp only
        rw [hcalls]
        have hsame : sentDatagrams datagram.destination
            ([.free .received] ++ (feed (Response.perform codes) response ops).2) =
            sentDatagrams datagram.destination (feed (Response.perform codes) response ops).2 :=
          rfl
        refine ⟨rfl, ?_, ?_, ?_⟩
        · rw [hsame]
          exact Nat.le_trans hsends (by split <;> omega)
        · rw [hsame]
          exact hbits
        · intro hresponse
          have : isResponse datagram.bytes = true := hresponse
          rw [hquery.not_isResponse] at this
          cases this

/-! ## Whole runs -/

/-- The datagrams of a list with QR clear. -/
def queries (datagrams : List Datagram) : Nat := datagrams.countP fun d => !isResponse d.bytes

/-- The delivery of a datagram with QR clear. -/
def Delivery.ofQuery (v : Delivery) : Bool := !isResponse v.datagram.bytes

/-- **The invariant** of a run that began with `start` in flight. -/
structure Conserved (start : List Datagram) (x : Exchange) : Prop where
  flight : x.inFlight.length ≤ start.length
  deliveries : ∀ v ∈ x.log, Bounded v
  answered : sentFor Delivery.ofQuery x.log + queries x.inFlight ≤ queries start

theorem sentFor_append (p : Delivery → Bool) (log more : List Delivery) :
    sentFor p (log ++ more) = sentFor p log + sentFor p more := by
  simp [sentFor]

theorem sentFor_singleton (p : Delivery → Bool) (v : Delivery) :
    sentFor p [v] = if p v then v.replies.length else 0 := by
  unfold sentFor
  cases hp : p v <;> simp [hp]

/-- Taking one datagram out of flight. -/
theorem queries_eraseIdx {datagrams : List Datagram} {i : Nat} {d : Datagram}
    (h : datagrams[i]? = some d) :
    queries (datagrams.eraseIdx i) + (if isResponse d.bytes then 0 else 1) = queries datagrams ∧
      (datagrams.eraseIdx i).length + 1 = datagrams.length := by
  induction datagrams generalizing i with
  | nil => simp at h
  | cons e rest ih =>
      cases i with
      | zero =>
          obtain rfl : e = d := by simpa using h
          refine ⟨?_, by simp⟩
          cases hr : isResponse e.bytes <;> simp [queries, hr]
      | succ i =>
          obtain ⟨hcount, hlen⟩ := ih (i := i) (by simpa using h)
          refine ⟨?_, by simp [hlen]⟩
          cases hr : isResponse e.bytes <;> simp [queries, hr] at hcount ⊢ <;> omega

theorem queries_append (datagrams more : List Datagram) :
    queries (datagrams ++ more) = queries datagrams + queries more := by
  simp [queries]

/-- **Step lemma.** -/
theorem Conserved.step {start : List Datagram} {x : Exchange} (codes : Codes)
    (h : Conserved start x) (e : Event) : Conserved start (x.step codes e) := by
  unfold Exchange.step
  cases hd : x.inFlight[e.position]? with
  | none => exact h
  | some datagram =>
      obtain ⟨hcount, hlen⟩ := queries_eraseIdx hd
      have hflight := h.flight
      have hanswered := h.answered
      dsimp only
      split
      · obtain ⟨hsame, hbounded⟩ := receiveDatagram_bounded codes e.natives e.ops datagram
        generalize receiveDatagram codes e.natives e.ops datagram = v at hsame hbounded
        have hone := hbounded.one
        have hnone : queries v.replies = 0 := by
          unfold queries
          rw [List.countP_eq_zero]
          intro d hin
          simp [hbounded.replies d hin]
        refine ⟨?_, ?_, ?_⟩
        · simp only [List.length_append]
          omega
        · intro w hw
          rcases List.mem_append.mp hw with hw | hw
          · exact h.deliveries w hw
          · rw [List.mem_singleton.mp hw]
            exact hbounded
        · simp only [sentFor_append, sentFor_singleton, queries_append, hnone,
            Delivery.ofQuery, hsame]
          cases hr : isResponse datagram.bytes <;> simp [hr] at hcount ⊢ <;> omega
      · refine ⟨?_, h.deliveries, ?_⟩
        · dsimp only
          omega
        · dsimp only
          omega

theorem Conserved.run {start : List Datagram} {x : Exchange} (codes : Codes)
    (h : Conserved start x) (events : List Event) : Conserved start (x.run codes events) := by
  induction events generalizing x with
  | nil => exact h
  | cons e rest ih => exact ih (h.step codes e)

end Dns
