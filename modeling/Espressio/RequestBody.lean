import Espressio.HttpServer
import Espressio.Runs

/-!
# Reading the body of a request

`ESP32HttpRequestPlatform::ReadBody` hands out the body of a request in pieces
of the caller's size.  `httpd_req_recv` takes them from the socket, where the
body is what is left to come: `taken` says how far the socket is, `bodyRead`
how far the platform believes it is.

The two never part (`InStep`), through any sequence of short reads, timeouts
and errors.  So what is handed out is the body from its start, piece by piece,
and the end is announced with the last byte of it and from then on
(`body_pieces`).  A call with nowhere to put anything is refused, and announces
no end even where it has been reached.
-/

namespace HttpServer

open NetworkBytes Runs Web

/-- A request with its body, as long as its header says. -/
structure Request where
  contentLength : Nat
  body : Bytes
  complete : body.length = contentLength

/-- What one `httpd_req_recv` comes to: a number of bytes, none when the peer
has closed, or an error. -/
inductive RecvOutcome
  | received (count : Nat)
  | failed (code : Int) (negative : code < 0)
  deriving DecidableEq

/-- `HTTPD_SOCK_ERR_TIMEOUT`. -/
def sockErrTimeout : Int := -3

/-- The request's side of the platform, and of the socket. -/
structure BodyReader where
  request : Request
  taken : Nat
  bodyRead : Nat

/-- `HttpReadResult`, with the bytes read and the number that was asked for. -/
structure BodyResult where
  result : WebResult
  bytes : Bytes
  ended : Bool
  requested : Option Nat
  deriving DecidableEq, Repr

/-- One call: its destination, and what the socket will do. -/
structure BodyCall where
  nullDestination : Bool
  capacity : Nat
  outcome : RecvOutcome

/-- There is somewhere to put a byte. -/
def BodyCall.HasRoom (call : BodyCall) : Prop := call.nullDestination = false ∧ call.capacity ≠ 0

namespace BodyReader

def create (request : Request) : BodyReader := ⟨request, 0, 0⟩

/-- `httpd_req_recv`: what it returns, and the bytes it has taken. -/
def recv (r : BodyReader) (requested : Nat) : RecvOutcome → BodyReader × Int × Bytes
  | .received count =>
      let bytes := (r.request.body.drop r.taken).take (min count requested)
      ({ r with taken := r.taken + bytes.length }, bytes.length, bytes)
  | .failed code _ => (r, code, [])

def readBody (r : BodyReader) (call : BodyCall) : BodyReader × BodyResult :=
  if call.nullDestination ∨ call.capacity = 0 then
    (r, ⟨.failure .invalidConfiguration .none, [], false, none⟩)
  else if r.request.contentLength ≤ r.bodyRead then (r, ⟨.success, [], true, none⟩)
  else
    let remaining := r.request.contentLength - r.bodyRead
    let requested := min call.capacity remaining
    let (r, received, bytes) := r.recv requested call.outcome
    if 0 < received then
      let r := { r with bodyRead := r.bodyRead + received.toNat }
      (r, ⟨.success, bytes, decide (r.request.contentLength ≤ r.bodyRead), some requested⟩)
    else if received = sockErrTimeout then
      (r, ⟨.failure .connectionFailure (.number received), [], false, some requested⟩)
    else if received = 0 then (r, ⟨.failure .closed .none, [], false, some requested⟩)
    else (r, ⟨.failure .connectionFailure (.number received), [], false, some requested⟩)

/-- A call as a step: it emits the bytes it has read. -/
def step (r : BodyReader) (call : BodyCall) : BodyReader × Bytes :=
  ((r.readBody call).1, (r.readBody call).2.bytes)

/-- The platform is where the socket is, within the body. -/
structure InStep (request : Request) (r : BodyReader) : Prop where
  same : r.request = request
  position : r.taken = r.bodyRead
  inside : r.bodyRead ≤ request.contentLength

variable {request : Request} {r : BodyReader}

theorem inStep_create (request : Request) : InStep request (create request) :=
  ⟨rfl, rfl, Nat.zero_le _⟩

/-! ### One call -/

/-- A call that is refused, one after the end, or one that asks the socket for
bytes. -/
inductive ReadOutcome (r : BodyReader) (call : BodyCall) : BodyReader × BodyResult → Prop
  | refused (h : ¬call.HasRoom) :
      ReadOutcome r call (r, ⟨.failure .invalidConfiguration .none, [], false, none⟩)
  | ended (room : call.HasRoom) (h : r.request.contentLength ≤ r.bodyRead) :
      ReadOutcome r call (r, ⟨.success, [], true, none⟩)
  | failed (room : call.HasRoom) (error : WebError) (native : NativeCode)
      (h : r.bodyRead < r.request.contentLength) :
      ReadOutcome r call (r, ⟨.failure error native, [], false,
        some (min call.capacity (r.request.contentLength - r.bodyRead))⟩)
  | received (room : call.HasRoom) (count : Nat) (positive : 0 < count)
      (h : count ≤ min call.capacity (r.request.contentLength - r.bodyRead)) :
      ReadOutcome r call
        (⟨r.request, r.taken + count, r.bodyRead + count⟩,
          ⟨.success, (r.request.body.drop r.taken).take count,
            decide (r.request.contentLength ≤ r.bodyRead + count),
            some (min call.capacity (r.request.contentLength - r.bodyRead))⟩)

theorem recv_failed (r : BodyReader) (requested : Nat) {code : Int} (negative : code < 0) :
    r.recv requested (.failed code negative) = (r, code, []) := rfl

/-- As many bytes are taken as the socket has been asked for, or has. -/
theorem recv_received (h : InStep request r) (count : Nat) {requested : Nat}
    (hrequested : requested ≤ request.contentLength - r.bodyRead) :
    r.recv requested (.received count) =
      ({ r with taken := r.taken + min count requested }, ((min count requested : Nat) : Int),
        (r.request.body.drop r.taken).take (min count requested)) := by
  obtain ⟨rfl, hposition, hinside⟩ := h
  have hcomplete := r.request.complete
  have hlength : ((r.request.body.drop r.taken).take (min count requested)).length =
      min count requested := by
    rw [List.length_take, List.length_drop]
    omega
  simp only [recv, hlength]

/-- **What a call comes to.** -/
theorem readBody_outcome (h : InStep request r) (call : BodyCall) :
    ReadOutcome r call (r.readBody call) := by
  by_cases hroom : call.HasRoom
  · have haccepted : ¬(call.nullDestination = true ∨ call.capacity = 0) := by
      simpa [BodyCall.HasRoom] using hroom
    by_cases hended : r.request.contentLength ≤ r.bodyRead
    · rw [readBody, if_neg haccepted, if_pos hended]
      exact .ended hroom hended
    · rw [readBody, if_neg haccepted, if_neg hended]
      dsimp only
      have hmore := Nat.not_le.mp hended
      cases call.outcome with
      | failed code negative =>
          rw [recv_failed]
          dsimp only
          rw [if_neg (show ¬0 < code by omega)]
          split
          · exact .failed hroom _ _ hmore
          · rw [if_neg (show ¬code = 0 by omega)]
            exact .failed hroom _ _ hmore
      | received count =>
          have hrequested : min call.capacity (r.request.contentLength - r.bodyRead) ≤
              request.contentLength - r.bodyRead := by
            rw [h.same]
            exact Nat.min_le_right _ _
          rw [recv_received h count hrequested]
          dsimp only
          by_cases hnone :
              min count (min call.capacity (r.request.contentLength - r.bodyRead)) = 0
          · simp only [hnone]
            exact .failed hroom _ _ hmore
          · rw [if_pos (show (0 : Int) < (min count
              (min call.capacity (r.request.contentLength - r.bodyRead)) : Nat) by omega)]
            exact .received hroom _ (Nat.pos_of_ne_zero hnone) (Nat.min_le_right _ _)
  · have hrefused : call.nullDestination = true ∨ call.capacity = 0 := by
      simpa [BodyCall.HasRoom, or_iff_not_imp_left] using hroom
    rw [readBody, if_pos hrefused]
    exact .refused hroom

/-- No more is asked for than there is room for, or left. -/
theorem ReadOutcome.requested_le {call : BodyCall} {done : BodyReader × BodyResult}
    (h : ReadOutcome r call done) {n : Nat} (hn : done.2.requested = some n) :
    n ≤ call.capacity ∧ n ≤ r.request.contentLength - r.bodyRead := by
  cases h with
  | refused | ended => cases hn
  | failed | received =>
      obtain rfl := Option.some.inj hn
      exact ⟨Nat.min_le_left _ _, Nat.min_le_right _ _⟩

/-- The end is announced where it is reached. -/
theorem ReadOutcome.ended_iff {call : BodyCall} {done : BodyReader × BodyResult}
    (h : ReadOutcome r call done) (hroom : call.HasRoom) :
    done.2.ended = true ↔ r.request.contentLength ≤ done.1.bodyRead := by
  cases h with
  | refused hnone => exact absurd hroom hnone
  | ended room hend => exact iff_of_true rfl hend
  | failed room error native hmore => exact iff_of_false Bool.false_ne_true (Nat.not_le.mpr hmore)
  | received => exact decide_eq_true_iff

theorem ReadOutcome.of_refused {call : BodyCall} {done : BodyReader × BodyResult}
    (h : ReadOutcome r call done) (hroom : ¬call.HasRoom) :
    done.2.ended = false ∧ done.2.result = .failure .invalidConfiguration .none := by
  cases h with
  | refused => exact ⟨rfl, rfl⟩
  | ended room | failed room | received room => exact absurd room hroom

/-- A call that fails reads nothing and stays where it is. -/
theorem ReadOutcome.of_failed {call : BodyCall} {done : BodyReader × BodyResult}
    (h : ReadOutcome r call done) (hfailed : done.2.result ≠ .success) :
    done.2.bytes = [] ∧ done.1 = r := by
  cases h with
  | refused | failed => exact ⟨rfl, rfl⟩
  | ended | received => exact absurd rfl hfailed

/-- **One call** hands out what comes next, and keeps in step. -/
theorem inStep_readBody (h : InStep request r) (call : BodyCall) :
    InStep request (r.readBody call).1 ∧
      (r.readBody call).1.bodyRead = r.bodyRead + (r.readBody call).2.bytes.length ∧
      (r.readBody call).2.bytes =
        (request.body.drop r.bodyRead).take (r.readBody call).2.bytes.length := by
  have houtcome := readBody_outcome h call
  generalize r.readBody call = done at houtcome ⊢
  obtain ⟨rfl, hposition, hinside⟩ := h
  cases houtcome with
  | refused | ended | failed => exact ⟨⟨rfl, hposition, hinside⟩, rfl, rfl⟩
  | received room count positive hcount =>
      have hcomplete := r.request.complete
      have hlength : ((r.request.body.drop r.taken).take count).length = count := by
        rw [List.length_take, List.length_drop]
        omega
      refine ⟨⟨rfl, by simp only [hposition], ?_⟩, by simp only [hlength], ?_⟩
      · show r.bodyRead + count ≤ r.request.contentLength
        omega
      · show (r.request.body.drop r.taken).take count = (r.request.body.drop r.bodyRead).take
          ((r.request.body.drop r.taken).take count).length
        rw [hlength, hposition]

/-! ### Runs -/

/-- All that has been handed out is the body up to the position. -/
def HandedOut (request : Request) (r : BodyReader) (returned : Bytes) : Prop :=
  InStep request r ∧ returned = request.body.take r.bodyRead

theorem handedOut_step {returned : Bytes} (h : HandedOut request r returned) (call : BodyCall) :
    HandedOut request (step r call).1 (returned ++ (step r call).2) := by
  obtain ⟨hinStep, rfl⟩ := h
  obtain ⟨hnext, hposition, hbytes⟩ := inStep_readBody hinStep call
  refine ⟨hnext, ?_⟩
  simp only [step]
  rw [hposition, List.take_add, ← hbytes]

theorem handedOut_feed (request : Request) (calls : List BodyCall) :
    HandedOut request (feed step (create request) calls).1
      (feed step (create request) calls).2 := by
  have hstep : ∀ r returned call, True → HandedOut request r returned →
      HandedOut request (step r call).1 (returned ++ (step r call).2) :=
    fun r returned call _ h => handedOut_step h call
  have hstart : HandedOut request (create request) [] :=
    ⟨inStep_create request, List.take_zero.symm⟩
  exact feed_invariant hstep hstart calls fun _ _ => trivial

theorem HandedOut.length {returned : Bytes} (h : HandedOut request r returned) :
    returned.length = r.bodyRead := by
  obtain ⟨hinStep, rfl⟩ := h
  rw [List.length_take, request.complete]
  exact Nat.min_eq_left hinStep.inside

/-- What a call does, after calls that have handed out `returned`. -/
structure Continues (request : Request) (returned : Bytes) (r : BodyReader) (call : BodyCall) :
    Prop where
  pieces : returned ++ (r.readBody call).2.bytes <+: request.body
  socket : (r.readBody call).1.taken = (returned ++ (r.readBody call).2.bytes).length
  requested : ∀ n, (r.readBody call).2.requested = some n →
    n ≤ call.capacity ∧ n ≤ request.contentLength - returned.length
  ended : call.HasRoom → ((r.readBody call).2.ended = true ↔
    (returned ++ (r.readBody call).2.bytes).length = request.contentLength)
  refused : ¬call.HasRoom → (r.readBody call).2.ended = false ∧
    (r.readBody call).2.result = .failure .invalidConfiguration .none
  failed : (r.readBody call).2.result ≠ .success →
    (r.readBody call).2.bytes = [] ∧ (r.readBody call).1 = r

/-- **The body in pieces.**  After any sequence of calls, whatever the socket
did in each, the next call goes on with the body where they left it. -/
theorem body_pieces (request : Request) (calls : List BodyCall) (call : BodyCall) :
    Continues request (feed step (create request) calls).2
      (feed step (create request) calls).1 call := by
  have hbefore := handedOut_feed request calls
  generalize (feed step (create request) calls).1 = r at hbefore ⊢
  generalize (feed step (create request) calls).2 = returned at hbefore ⊢
  have hafter : HandedOut request (r.readBody call).1 (returned ++ (r.readBody call).2.bytes) :=
    handedOut_step hbefore call
  have hlength := hafter.length
  have hreturned := hbefore.length
  have houtcome := readBody_outcome hbefore.1 call
  have hsame := hbefore.1.same
  refine ⟨hafter.2 ▸ List.take_prefix _ _, hafter.1.position.trans hlength.symm, ?_, ?_,
    houtcome.of_refused, houtcome.of_failed⟩
  · intro n hn
    have hle := houtcome.requested_le hn
    rwa [hsame, ← hreturned] at hle
  · intro hroom
    rw [houtcome.ended_iff hroom, hsame, hlength]
    have hinside := hafter.1.inside
    omega

/-- Two bytes are read, and the next call has no room. -/
def twoBytes : Request := ⟨2, [7, 8], rfl⟩

theorem no_end_without_room : ¬ ∀ (request : Request) (calls : List BodyCall) (call : BodyCall),
    let before := feed step (create request) calls
    (before.1.readBody call).2.ended = true ↔
      (before.2 ++ (before.1.readBody call).2.bytes).length = request.contentLength := by
  intro h
  have hended := h twoBytes [⟨false, 4, .received 2⟩] ⟨false, 0, .received 1⟩
  revert hended
  decide

end BodyReader

end HttpServer
