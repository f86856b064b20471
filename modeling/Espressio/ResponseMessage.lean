import Espressio.DnsExchange
import Espressio.DnsMessages

/-!
# The response as a message

The buffer of `ESP32DnsResponsePlatform` is edited byte by byte: the
constructor rewrites the header of a copied query, `SetResponseCode` the last
four bits of the flags, and `AddAddressAnswer` appends a record and counts it.
`Built` is what those calls have asked for and been granted.

`response_message` says that after any calls, with any failures, the buffer is
one whole message: the query's header made a response, its question, and the
answers that have been granted.
-/

namespace Dns

open NetworkBytes CompressedNames Web Runs DnsMessages

/-! ## Calls and their outcomes -/

/-- The result of a call.  `Abort` has none, and cannot fail. -/
def Response.result (codes : Codes) (r : Response) : DispatchOp → WebResult
  | .build op => (r.apply codes op).2
  | .complete n => (r.complete n).2.1
  | .abort => .success

/-- One call, as its caller and lwIP see it. -/
structure Outcome where
  op : DispatchOp
  result : WebResult
  calls : List Call

def Response.invoke (codes : Codes) (r : Response) (op : DispatchOp) : Response × List Outcome :=
  let (r', calls) := r.perform codes op
  (r', [⟨op, r.result codes op, calls⟩])

/-- What has been granted: the response code, and the answers with their time
to live. -/
structure Built where
  code : UInt8
  answers : List (Address × UInt32)

def Built.empty : Built := ⟨0, []⟩

/-- Only a call that succeeds counts. -/
def Built.grant (b : Built) (outcome : Outcome) : Built :=
  match outcome.op, outcome.result with
  | .build (.setResponseCode code), .success => { b with code := code }
  | .build (.addAddressAnswer address ttl _), .success =>
      { b with answers := b.answers ++ [(address, ttl)] }
  | _, _ => b

def Built.of (outcomes : List Outcome) : Built := outcomes.foldl Built.grant Built.empty

/-- The datagrams that lwIP has taken. -/
def sentBy (source : Remote) (outcomes : List Outcome) : List Datagram :=
  sentDatagrams source (outcomes.flatMap Outcome.calls)

/-- What a call that succeeds does to the response. -/
inductive Response.Grants (codes : Codes) (r : Response) : DispatchOp → Response → Prop
  | code {code : UInt8} (pending : r.completed = false) :
      Grants codes r (.build (.setResponseCode code))
        { r with
          buffer := write16 r.buffer 2
            (((read16 r.buffer 2).getD 0 &&& 0xfff0) ||| (code.toUInt16 &&& 0x0f)) }
  | answer {address : Address} {ttl : UInt32} {allocated : Bool} (pending : r.completed = false)
      (fits : r.buffer.length + (12 + address.length) ≤ maximumPacketBytes) :
      Grants codes r (.build (.addAddressAnswer address ttl allocated))
        { r with
          buffer := write16 (r.buffer ++ answerRecord codes address ttl) 6 (r.answerCount + 1)
          answerCount := r.answerCount + 1 }
  | complete {n : SendNatives} : Grants codes r (.complete n) { r with completed := true }
  | abort : Grants codes r .abort { r with completed := true }

theorem Response.ready_iff {r : Response} :
    ¬ (r.valid = false ∨ r.completed = true) ↔ r.valid = true ∧ r.completed = false := by
  cases r.valid <;> cases r.completed <;> simp

/-- **One call.**  It fails and changes nothing, or it succeeds. -/
theorem Response.perform_cases (codes : Codes) (r : Response) (op : DispatchOp) :
    (r.result codes op ≠ .success ∧ (r.perform codes op).1 = r) ∨
      (r.result codes op = .success ∧ r.Grants codes op (r.perform codes op).1) := by
  cases op with
  | build op =>
      cases op with
      | setResponseCode code =>
          simp only [result, perform, apply, setResponseCode]
          split
          · exact Or.inl ⟨by simp, rfl⟩
          · rename_i hready
            exact Or.inr ⟨rfl, .code (ready_iff.mp hready).2⟩
      | addAddressAnswer address ttl allocated =>
          simp only [result, perform, apply, addAddressAnswer]
          split
          · exact Or.inl ⟨by simp, rfl⟩
          · rename_i hready
            split
            · exact Or.inl ⟨by simp, rfl⟩
            · rename_i hfits
              split
              · exact Or.inl ⟨by simp, rfl⟩
              · exact Or.inr ⟨rfl, .answer (ready_iff.mp hready).2 (Nat.not_lt.mp hfits)⟩
  | complete n =>
      have hdone : ∀ {r : Response}, r.completed = true → r = { r with completed := true } := by
        intro r h
        rw [← h]
      simp only [result, perform, complete]
      split
      · cases hc : r.completed with
        | false => exact Or.inl ⟨by simp, rfl⟩
        | true =>
            refine Or.inr ⟨rfl, ?_⟩
            have hsame : Grants codes r (.complete n) { r with completed := true } := .complete
            rwa [← hdone hc] at hsame
      · split
        · exact Or.inl ⟨by simp, rfl⟩
        · split
          · exact Or.inl ⟨by simp, rfl⟩
          · split
            · exact Or.inl ⟨by simp, rfl⟩
            · exact Or.inr ⟨rfl, .complete⟩
  | abort => exact Or.inr ⟨rfl, .abort⟩

/-- A completed response stays as it is. -/
theorem Response.perform_completed (codes : Codes) {r : Response} (op : DispatchOp)
    (h : r.completed = true) :
    (r.perform codes op).1.completed = true ∧ (r.perform codes op).1.buffer = r.buffer := by
  rcases r.perform_cases codes op with ⟨-, hsame⟩ | ⟨-, hgrants⟩
  · rw [hsame]
    exact ⟨h, rfl⟩
  · generalize (r.perform codes op).1 = r' at hgrants
    cases hgrants with
    | code pending | answer pending =>
        rw [h] at pending
        cases pending
    | complete | abort => exact ⟨rfl, rfl⟩

/-- What one call sends: nothing, or the buffer, and then the response is
completed. -/
theorem Response.perform_sent (codes : Codes) (source : Remote) (r : Response)
    (op : DispatchOp) :
    sentDatagrams source (r.perform codes op).2 = [] ∨
      (r.completed = false ∧ (r.perform codes op).1 = { r with completed := true } ∧
        sentDatagrams source (r.perform codes op).2 = [⟨source, r.remote, r.buffer⟩]) := by
  cases op with
  | build op => exact Or.inl rfl
  | abort => exact Or.inl rfl
  | complete n =>
      simp only [perform, complete]
      split
      · exact Or.inl rfl
      · rename_i hready
        split
        · exact Or.inl rfl
        · split
          · exact Or.inl rfl
          · split
            · rename_i hfailed
              cases hsent : n.sent with
              | ok => exact absurd hsent hfailed
              | mem | other => exact Or.inl rfl
            · rename_i hsent
              rw [not_not.mp hsent]
              exact Or.inr ⟨(ready_iff.mp hready).2, rfl, rfl⟩

/-! ## The bytes of a response -/

/-- What a response keeps of its query: the ID, the first byte of the flags,
and the question. -/
structure Kept where
  id₀ : UInt8
  id₁ : UInt8
  flags : UInt8
  question : Bytes

def answerBytes (codes : Codes) (answer : Address × UInt32) : Bytes :=
  answerRecord codes answer.1 answer.2

def messageBytes (codes : Codes) (k : Kept) (b : Built) : Bytes :=
  k.id₀ :: k.id₁ :: (0x84 ||| (k.flags &&& 0x79)) :: (b.code &&& 0x0f) :: 0 :: 1 ::
    (UInt16.ofNat b.answers.length >>> 8).toUInt8 :: (UInt16.ofNat b.answers.length).toUInt8 ::
    0 :: 0 :: 0 :: 0 :: (k.question ++ b.answers.flatMap (answerBytes codes))

theorem high_join16 (hi lo : UInt8) : (join16 hi lo >>> 8).toUInt8 = hi := by
  apply UInt8.toNat_inj.mp
  have := hi.toNat_lt
  have := lo.toNat_lt
  simp [join16_toNat, Nat.shiftRight_eq_div_pow]
  omega

theorem high_toUInt16 (b : UInt8) : (b.toUInt16 >>> 8).toUInt8 = 0 :=
  high_byte_zero b.toNat_lt

theorem write16_header (i₀ i₁ f₀ f₁ : UInt8) (rest : Bytes) (v : UInt16) :
    write16 (i₀ :: i₁ :: f₀ :: f₁ :: rest) 2 v =
      i₀ :: i₁ :: (v >>> 8).toUInt8 :: v.toUInt8 :: rest := rfl

/-- The first byte of a response's flags. -/
theorem high_responseFlags (hi lo : UInt8) :
    (responseFlags (join16 hi lo) >>> 8).toUInt8 = 0x84 ||| (hi &&& 0x79) := by
  have hset : ((0x8000 ||| 0x0400 : UInt16) >>> 8).toUInt8 = 0x84 := by decide
  have hmask : ((0x7900 : UInt16) >>> 8).toUInt8 = 0x79 := by decide
  unfold responseFlags
  rw [UInt16.shiftRight_or, UInt16.toUInt8_or, hset, UInt16.shiftRight_and, UInt16.toUInt8_and,
    high_join16, hmask]

theorem low_responseFlags (v : UInt16) : (responseFlags v).toUInt8 = 0 := by
  simp only [responseFlags, UInt16.toUInt8_or, UInt16.toUInt8_and]
  exact (UInt8.zero_or).trans UInt8.and_zero

/-- A response code leaves the first byte of the flags alone, and is all there
is in the second. -/
theorem codedFlags_bytes (f c code : UInt8) :
    ((join16 f (c &&& 0x0f) &&& 0xfff0 ||| code.toUInt16 &&& 0x0f) >>> 8).toUInt8 = f ∧
      (join16 f (c &&& 0x0f) &&& 0xfff0 ||| code.toUInt16 &&& 0x0f).toUInt8 = code &&& 0x0f := by
  have hall : ((0xfff0 : UInt16) >>> 8).toUInt8 = 0xff := by decide
  have hfull : ∀ b : UInt8, b &&& 0xff = b := by
    apply forall_uint8
    decide +kernel
  have hcleared : ∀ b : UInt8, b &&& 0x0f &&& 0xf0 = 0 := by
    apply forall_uint8
    decide +kernel
  constructor
  · rw [UInt16.shiftRight_or, UInt16.toUInt8_or, UInt16.shiftRight_and, UInt16.toUInt8_and,
      high_join16, hall, hfull, UInt16.shiftRight_and, UInt16.toUInt8_and, high_toUInt16,
      UInt8.zero_and, UInt8.or_zero]
  · rw [UInt16.toUInt8_or, UInt16.toUInt8_and, UInt16.toUInt8_and, join16_low]
    have hmask : ((0xfff0 : UInt16)).toUInt8 = 0xf0 := by decide
    have hlow : ((0x0f : UInt16)).toUInt8 = 0x0f := by decide
    rw [hmask, hlow, hcleared, UInt8.zero_or, UInt8.toUInt8_toUInt16]

/-- The header of a query, and what stands behind it. -/
theorem header_bytes {bytes : Bytes} (h : 12 ≤ bytes.length) :
    ∃ i₀ i₁ f₀ f₁ q₀ q₁ a₀ a₁ n₀ n₁ r₀ r₁, bytes =
      i₀ :: i₁ :: f₀ :: f₁ :: q₀ :: q₁ :: a₀ :: a₁ :: n₀ :: n₁ :: r₀ :: r₁ ::
        bytes.drop 12 := by
  match bytes, h with
  | i₀ :: i₁ :: f₀ :: f₁ :: q₀ :: q₁ :: a₀ :: a₁ :: n₀ :: n₁ :: r₀ :: r₁ :: rest, _ =>
      exact ⟨i₀, i₁, f₀, f₁, q₀, q₁, a₀, a₁, n₀, n₁, r₀, r₁, rfl⟩

/-- What a query leaves for its response: its first three bytes and its
question. -/
def Keeps (query : Bytes) (questionEnd : Nat) (k : Kept) : Prop :=
  query[0]? = some k.id₀ ∧ query[1]? = some k.id₁ ∧ query[2]? = some k.flags ∧
    k.question = (query.take questionEnd).drop 12

/-- **The constructor** makes a message without answers. -/
theorem create_messageBytes (codes : Codes) {remote : Remote} {query : Bytes} {questionEnd : Nat}
    {response : Response} (hlong : 12 ≤ questionEnd) (hend : questionEnd ≤ query.length)
    (hsize : query.length ≤ maximumPacketBytes)
    (hcreate : Response.create true remote query questionEnd true = some response) :
    ∃ k, Keeps query questionEnd k ∧
      response = ⟨remote, messageBytes codes k Built.empty, 0, true, false⟩ := by
  have hheader : 12 ≤ query.length := Nat.le_trans hlong hend
  obtain ⟨i₀, i₁, f₀, f₁, q₀, q₁, a₀, a₁, n₀, n₁, r₀, r₁, hquery⟩ := header_bytes hheader
  have hslice : slice query 0 questionEnd = some (query.take questionEnd) := by
    unfold slice
    rw [if_pos (by omega), List.drop_zero]
  have hflags : read16 query 2 = some (join16 f₀ f₁) := by
    rw [hquery]
    rfl
  unfold Response.create at hcreate
  rw [if_neg (by simp; omega), hslice, hflags] at hcreate
  cases hcreate
  refine ⟨⟨i₀, i₁, f₀, (query.take questionEnd).drop 12⟩, ⟨?_, ?_, ?_, rfl⟩, ?_⟩
  · rw [hquery]
    rfl
  · rw [hquery]
    rfl
  · rw [hquery]
    rfl
  · have htake : query.take questionEnd = i₀ :: i₁ :: f₀ :: f₁ :: q₀ :: q₁ :: a₀ :: a₁ :: n₀ ::
        n₁ :: r₀ :: r₁ :: (query.take questionEnd).drop 12 := by
      obtain ⟨n, rfl⟩ : ∃ n, questionEnd = n + 12 := ⟨questionEnd - 12, by omega⟩
      conv_lhs => rw [hquery]
      rw [List.drop_take]
      rfl
    congr 1
    rw [htake]
    simp only [rewriteHeader, write16_header, high_responseFlags, low_responseFlags]
    have hone : ((1 : UInt16) >>> 8).toUInt8 = 0 := by decide
    simp [messageBytes, Built.empty, write16, hone]

/-- **A response code** is the code of the message. -/
theorem messageBytes_code (codes : Codes) (k : Kept) (b : Built) (code : UInt8) :
    write16 (messageBytes codes k b) 2
        (((read16 (messageBytes codes k b) 2).getD 0 &&& 0xfff0) ||| (code.toUInt16 &&& 0x0f)) =
      messageBytes codes k { b with code := code } := by
  have hread : read16 (messageBytes codes k b) 2 =
      some (join16 (0x84 ||| (k.flags &&& 0x79)) (b.code &&& 0x0f)) := rfl
  obtain ⟨hhigh, hlow⟩ := codedFlags_bytes (0x84 ||| (k.flags &&& 0x79)) b.code code
  rw [hread, Option.getD_some]
  unfold messageBytes
  rw [write16_header, hhigh, hlow]

/-- **A record behind the buffer** is one more answer of the message. -/
theorem messageBytes_answer (codes : Codes) (k : Kept) (b : Built) (address : Address)
    (ttl : UInt32) :
    write16 (messageBytes codes k b ++ answerRecord codes address ttl) 6
        (UInt16.ofNat b.answers.length + 1) =
      messageBytes codes k { b with answers := b.answers ++ [(address, ttl)] } := by
  have hcount : UInt16.ofNat b.answers.length + 1 =
      UInt16.ofNat (b.answers ++ [(address, ttl)]).length := by
    rw [List.length_append, List.length_singleton, UInt16.ofNat_add]
    rfl
  rw [hcount]
  simp only [messageBytes, List.cons_append, List.append_assoc, List.flatMap_append,
    List.flatMap_cons, List.flatMap_nil, List.append_nil, answerBytes]
  rfl

/-! ## Whole runs -/

/-- What the calls so far have made of the response. -/
structure Represents (codes : Codes) (source remote : Remote) (k : Kept) (r : Response)
    (outcomes : List Outcome) : Prop where
  peer : r.remote = remote
  buffer : r.buffer = messageBytes codes k (Built.of outcomes)
  count : r.answerCount = UInt16.ofNat (Built.of outcomes).answers.length
  fits : r.buffer.length ≤ maximumPacketBytes
  sent : sentBy source outcomes = [] ∨
    (r.completed = true ∧ sentBy source outcomes = [⟨source, remote, r.buffer⟩])

theorem Built.of_snoc (outcomes : List Outcome) (outcome : Outcome) :
    Built.of (outcomes ++ [outcome]) = (Built.of outcomes).grant outcome := by
  simp [Built.of]

theorem sentBy_snoc (source : Remote) (outcomes : List Outcome) (outcome : Outcome) :
    sentBy source (outcomes ++ [outcome]) =
      sentBy source outcomes ++ sentDatagrams source outcome.calls := by
  simp [sentBy, sentDatagrams_append]

theorem Built.grant_of_failure {b : Built} {outcome : Outcome}
    (h : outcome.result ≠ .success) : b.grant outcome = b := by
  unfold Built.grant
  split
  · rename_i hsuccess
    exact absurd hsuccess h
  · rename_i hsuccess
    exact absurd hsuccess h
  · rfl

section Represents

variable {codes : Codes} {source remote : Remote} {k : Kept} {r : Response}
  {outcomes : List Outcome}

/-- Nothing has been sent while the response is not completed. -/
theorem Represents.unsent (h : Represents codes source remote k r outcomes)
    (hpending : r.completed = false) : sentBy source outcomes = [] := by
  rcases h.sent with hnone | ⟨hdone, -⟩
  · exact hnone
  · rw [hpending] at hdone
    cases hdone

/-- What a call sends beside what was sent before. -/
theorem Represents.sends (h : Represents codes source remote k r outcomes) (op : DispatchOp)
    (result : WebResult) :
    sentBy source (outcomes ++ [⟨op, result, (r.perform codes op).2⟩]) = [] ∨
      ((r.perform codes op).1.completed = true ∧
        sentBy source (outcomes ++ [⟨op, result, (r.perform codes op).2⟩]) =
          [⟨source, remote, (r.perform codes op).1.buffer⟩]) := by
  rw [sentBy_snoc]
  rcases r.perform_sent codes source op with hnone | ⟨hpending, hsame, hone⟩
  · rw [hnone, List.append_nil]
    rcases h.sent with hbefore | ⟨hdone, hbefore⟩
    · exact Or.inl hbefore
    · obtain ⟨hkeep, hbuffer⟩ := Response.perform_completed codes op hdone
      rw [hbuffer]
      exact Or.inr ⟨hkeep, hbefore⟩
  · rw [h.unsent hpending, hone, hsame, h.peer]
    exact Or.inr ⟨rfl, rfl⟩

/-- **Step lemma.** -/
theorem Represents.step (h : Represents codes source remote k r outcomes) (op : DispatchOp) :
    Represents codes source remote k (r.invoke codes op).1
      (outcomes ++ (r.invoke codes op).2) := by
  simp only [Response.invoke]
  have hsends := h.sends op (r.result codes op)
  rcases r.perform_cases codes op with ⟨hfailed, hsame⟩ | ⟨hsuccess, hgrants⟩
  · rw [hsame] at hsends ⊢
    refine ⟨h.peer, ?_, ?_, h.fits, hsends⟩
    · rw [Built.of_snoc, Built.grant_of_failure hfailed]
      exact h.buffer
    · rw [Built.of_snoc, Built.grant_of_failure hfailed]
      exact h.count
  · rw [hsuccess] at hsends ⊢
    generalize (r.perform codes op).1 = r' at hgrants hsends
    generalize (r.perform codes op).2 = calls at hsends
    cases hgrants with
    | code pending =>
        refine ⟨h.peer, ?_, ?_, ?_, hsends⟩
        · rw [Built.of_snoc]
          dsimp only [Built.grant]
          rw [h.buffer, messageBytes_code]
        · rw [Built.of_snoc]
          exact h.count
        · rw [length_write16]
          exact h.fits
    | answer pending fits =>
        refine ⟨h.peer, ?_, ?_, ?_, hsends⟩
        · rw [Built.of_snoc]
          dsimp only [Built.grant]
          rw [h.buffer, h.count, messageBytes_answer]
        · rw [Built.of_snoc]
          dsimp only [Built.grant]
          rw [h.count, List.length_append, List.length_singleton, UInt16.ofNat_add]
          rfl
        · rw [length_write16, List.length_append, length_answerRecord]
          exact fits
    | complete | abort =>
        refine ⟨h.peer, ?_, ?_, h.fits, hsends⟩
        · rw [Built.of_snoc]
          exact h.buffer
        · rw [Built.of_snoc]
          exact h.count

/-- **All calls**, by induction over them. -/
theorem Represents.run (h : Represents codes source remote k r []) (ops : List DispatchOp) :
    Represents codes source remote k (feed (Response.invoke codes) r ops).1
      (feed (Response.invoke codes) r ops).2 := by
  have hstep : ∀ s out op, True → Represents codes source remote k s out →
      Represents codes source remote k (s.invoke codes op).1 (out ++ (s.invoke codes op).2) :=
    fun s out op _ hs => hs.step op
  exact feed_invariant hstep h ops fun _ _ => trivial

end Represents

/-! ## The message -/

/-- The header of a response, from its query's: ID, opcode and RD are kept. -/
def responseHeader (query : Header) (b : Built) : Header :=
  { query with
    response := true
    authoritative := true
    truncated := false
    recursionAvailable := false
    reserved := 0
    responseCode := b.code &&& 0x0f
    questionCount := 1
    answerCount := UInt16.ofNat b.answers.length
    authorityCount := 0
    additionalCount := 0 }

/-- The record of an answer.  Its owner is a pointer to the question. -/
def answerOf (codes : Codes) (answer : Address × UInt32) : Record :=
  { owner := [0xc0, 0x0c]
    type := answer.1.type codes
    recordClass := codes.internet
    ttl := answer.2
    data := answer.1.bytes.take answer.1.length }

theorem parseRecord_answer (codes : Codes) (answer : Address × UInt32) (rest : Bytes) :
    parseRecord (answerBytes codes answer ++ rest) = some (answerOf codes answer, rest) := by
  have hroom := answer.1.room
  have hlength : (answer.1.bytes.take answer.1.length).length =
      (UInt16.ofNat answer.1.length).toNat := by
    cases hfamily : answer.1.family <;> simp [Address.length, hfamily, hroom]
  exact parseRecord_bytes (isName_pointer (by decide)) _ _ _ _ hlength rest

theorem length_answers (codes : Codes) (answers : List (Address × UInt32)) :
    16 * answers.length ≤ (answers.flatMap (answerBytes codes)).length := by
  induction answers with
  | nil => simp
  | cons answer rest ih =>
      have hlen : (answerBytes codes answer).length = 12 + answer.1.length :=
        length_answerRecord codes answer.1 answer.2
      have hfour : 4 ≤ answer.1.length := by
        cases hfamily : answer.1.family <;> simp [Address.length, hfamily]
      simp only [List.flatMap_cons, List.length_append, List.length_cons]
      omega

/-- The flags of a response, read back. -/
theorem parseHeader_response {query rest : Bytes} {questionEnd : Nat} {header : Header} {k : Kept}
    (codes : Codes) (b : Built) (hquery : parseHeader query = some (header, rest))
    (hkeeps : Keeps query questionEnd k) :
    parseHeader (messageBytes codes k b) =
      some (responseHeader header b, k.question ++ b.answers.flatMap (answerBytes codes)) := by
  obtain ⟨h₀, h₁, h₂, -⟩ := hkeeps
  have hset : ∀ f : UInt8, bit (0x84 ||| (f &&& 0x79)) 7 = true ∧
      ((0x84 ||| (f &&& 0x79)) >>> 3 &&& 0x0f : UInt8) = (f >>> 3 &&& 0x0f : UInt8) ∧
      bit (0x84 ||| (f &&& 0x79)) 2 = true ∧ bit (0x84 ||| (f &&& 0x79)) 1 = false ∧
      bit (0x84 ||| (f &&& 0x79)) 0 = bit f 0 := by
    apply forall_uint8
    decide +kernel
  have hcode : ∀ c : UInt8, bit (c &&& 0x0f) 7 = false ∧ ((c &&& 0x0f) >>> 4) &&& 0x07 = 0 ∧
      c &&& 0x0f &&& 0x0f = c &&& 0x0f := by
    apply forall_uint8
    decide +kernel
  obtain ⟨hqr, hopcode, haa, htc, hrd⟩ := hset k.flags
  obtain ⟨hra, hzero, hrcode⟩ := hcode b.code
  have hone : join16 0 1 = 1 := by decide
  have hnone : join16 0 0 = 0 := by decide
  unfold parseHeader at hquery
  split at hquery
  · cases hquery
    cases h₀
    cases h₁
    cases h₂
    simp only [parseHeader, messageBytes, responseHeader, hqr, hopcode, haa, htc, hrd, hra, hzero,
      hrcode, hone, hnone, join16_split]
  · cases hquery

/-- **The bytes of a response parse** as the message they stand for. -/
theorem parse_messageBytes {query rest name : Bytes} {questionEnd : Nat} {header : Header}
    {k : Kept} {t₀ t₁ c₀ c₁ : UInt8} (codes : Codes) (b : Built)
    (hquery : parseHeader query = some (header, rest)) (hkeeps : Keeps query questionEnd k)
    (hname : IsName name) (hquestion : k.question = name ++ [t₀, t₁, c₀, c₁])
    (hfits : b.answers.length < 65536) :
    parse (messageBytes codes k b) =
      some ⟨responseHeader header b, [⟨name, join16 t₀ t₁, join16 c₀ c₁⟩],
        b.answers.map (answerOf codes), [], []⟩ := by
  have hone : parseQuestion (k.question ++ b.answers.flatMap (answerBytes codes)) =
      some (⟨name, join16 t₀ t₁, join16 c₀ c₁⟩, b.answers.flatMap (answerBytes codes)) := by
    rw [hquestion]
    exact parseQuestion_bytes hname t₀ t₁ c₀ c₁ _
  refine parse_answers (parseHeader_response codes b hquery hkeeps) rfl rfl rfl hone ?_
  have hcount : (responseHeader header b).answerCount.toNat = b.answers.length := by
    simp only [responseHeader, UInt16.toNat_ofNat']
    exact Nat.mod_eq_of_lt hfits
  have hmany := parseMany_flatMap (parseRecord_answer codes) b.answers []
  rw [hcount]
  rwa [List.append_nil] at hmany

/-- **The question of a query**: its name stands at 12, and its type and class
in the four bytes behind it. -/
theorem question_bytes {query text : Bytes} {e : Nat} (hname : EncodesName query 12 text e)
    (hend : e + 4 ≤ query.length) :
    ∃ name t₀ t₁ c₀ c₁, IsName name ∧ 12 ≤ e ∧ (query.take e).drop 12 = name ∧
      (query.take (e + 4)).drop 12 = name ++ [t₀, t₁, c₀, c₁] ∧
      read16 query e = some (join16 t₀ t₁) ∧ read16 query (e + 2) = some (join16 c₀ c₁) := by
  obtain ⟨jumps, labels, henc, -⟩ := hname
  obtain ⟨name, hisName, hdrop, hlength⟩ := parseName_encodes henc
  have hlen : (query.drop e).length = query.length - e := List.length_drop
  obtain ⟨t₀, t₁, c₀, c₁, more, htail⟩ : ∃ t₀ t₁ c₀ c₁ more,
      query.drop e = t₀ :: t₁ :: c₀ :: c₁ :: more := by
    match query.drop e, hlen with
    | t₀ :: t₁ :: c₀ :: c₁ :: more, _ => exact ⟨t₀, t₁, c₀, c₁, more, rfl⟩
    | [], hshort | [_], hshort | [_, _], hshort | [_, _, _], hshort =>
        simp only [List.length_cons, List.length_nil] at hshort
        omega
  have hread : ∀ i, query[e + i]? = (t₀ :: t₁ :: c₀ :: c₁ :: more)[i]? := by
    intro i
    rw [← htail, List.getElem?_drop]
  refine ⟨name, t₀, t₁, c₀, c₁, hisName, by omega, ?_, ?_, ?_, ?_⟩
  · have hsplit : e - 12 = name.length := by omega
    rw [List.drop_take, hdrop, hsplit, List.take_left]
  · have hsplit : e + 4 - 12 = name.length + 4 := by omega
    rw [List.drop_take, hdrop, htail, hsplit, List.take_length_add_append]
    rfl
  · have h₀ : query[e]? = some t₀ := hread 0
    unfold read16
    rw [h₀, hread 1]
    rfl
  · unfold read16
    rw [Nat.add_assoc, hread 2, hread 3]
    rfl

theorem parseHeader_some {bytes : Bytes} (h : 12 ≤ bytes.length) :
    ∃ header rest, parseHeader bytes = some (header, rest) := by
  obtain ⟨_, _, _, _, _, _, _, _, _, _, _, _, hbytes⟩ := header_bytes h
  rw [hbytes]
  exact ⟨_, _, rfl⟩

/-- There is no room for more answers than can be counted. -/
theorem Represents.answers_lt {codes : Codes} {source remote : Remote} {k : Kept} {r : Response}
    {outcomes : List Outcome} (h : Represents codes source remote k r outcomes) :
    (Built.of outcomes).answers.length < 65536 := by
  have hfits : r.buffer.length ≤ 512 := h.fits
  have hanswers := length_answers codes (Built.of outcomes).answers
  rw [h.buffer] at hfits
  simp only [messageBytes, List.length_cons, List.length_append] at hfits
  omega

/-- **The response is a message after any calls.**  A response is made for a
query whose question is decoded at 12.  After any calls on it, with any
failures, its buffer parses: as the query's header made a response, with the
last response code that was granted; as the query's question, byte for byte;
and as the answers that were granted, in order and counted.  It has room for no
more than 512 bytes, a call that fails changes nothing, and lwIP has taken one
datagram at most, which is the buffer. -/
theorem response_message (codes : Codes) (source remote : Remote) {query text : Bytes} {e : Nat}
    {allocated : Bool} {response : Response} (hname : EncodesName query 12 text e)
    (hend : e + 4 ≤ query.length) (hsize : query.length ≤ maximumPacketBytes)
    (hcreate : Response.create true remote query (e + 4) allocated = some response)
    (hvalid : response.valid = true) (ops : List DispatchOp) :
    let r := (feed (Response.invoke codes) response ops).1
    let outcomes := (feed (Response.invoke codes) response ops).2
    let b := Built.of outcomes
    (∃ header rest type recordClass, parseHeader query = some (header, rest) ∧
        read16 query e = some type ∧ read16 query (e + 2) = some recordClass ∧
        parse r.buffer = some ⟨responseHeader header b,
          [⟨(query.take e).drop 12, type, recordClass⟩], b.answers.map (answerOf codes), [], []⟩) ∧
      (UInt16.ofNat b.answers.length).toNat = b.answers.length ∧
      (r.buffer.take (e + 4)).drop 12 = (query.take (e + 4)).drop 12 ∧
      r.buffer.length ≤ maximumPacketBytes ∧
      (∀ op, r.result codes op ≠ .success → (r.perform codes op).1 = r) ∧
      (sentBy source outcomes = [] ∨ sentBy source outcomes = [⟨source, remote, r.buffer⟩]) := by
  intro r outcomes b
  obtain ⟨name, t₀, t₁, c₀, c₁, hisName, hlong, hstands, hinside, htype, hclass⟩ :=
    question_bytes hname hend
  have hheader : 12 ≤ query.length := by omega
  obtain ⟨made, hmade, hallocated⟩ := create_spec remote hheader hend (by omega) allocated
  obtain rfl : made = response := Option.some.inj (hmade.symm.trans hcreate)
  rw [← hallocated, hvalid] at hcreate
  obtain ⟨k, hkeeps, rfl⟩ := create_messageBytes codes (by omega) hend hsize hcreate
  have hquestion : k.question = (query.take (e + 4)).drop 12 := hkeeps.2.2.2
  have hfirst : Represents codes source remote k
      ⟨remote, messageBytes codes k Built.empty, 0, true, false⟩ [] := by
    refine ⟨rfl, rfl, rfl, ?_, Or.inl rfl⟩
    simp only [messageBytes, hquestion, Built.empty, List.length_cons, List.flatMap_nil,
      List.append_nil, List.length_drop, List.length_take]
    omega
  have h : Represents codes source remote k r outcomes := hfirst.run ops
  have hbuffer : r.buffer = messageBytes codes k b := h.buffer
  have hcount : b.answers.length < 65536 := h.answers_lt
  obtain ⟨header, rest, hparse⟩ := parseHeader_some hheader
  refine ⟨⟨header, rest, join16 t₀ t₁, join16 c₀ c₁, hparse, htype, hclass, ?_⟩, ?_, ?_, h.fits,
    ?_, ?_⟩
  · rw [hbuffer, hstands]
    exact parse_messageBytes codes _ hparse hkeeps hisName (hquestion.trans hinside) hcount
  · rw [UInt16.toNat_ofNat']
    exact Nat.mod_eq_of_lt hcount
  · have hroom : k.question.length = e + 4 - 12 := by
      rw [hquestion, List.length_drop, List.length_take]
      omega
    rw [hbuffer, ← hquestion, List.drop_take, ← hroom]
    exact List.take_left
  · intro op hfailed
    rcases r.perform_cases codes op with ⟨-, hsame⟩ | ⟨hsuccess, -⟩
    · exact hsame
    · exact absurd hsuccess hfailed
  · rcases h.sent with hnone | ⟨-, hone⟩
    · exact Or.inl hnone
    · exact Or.inr hone

/-- A query for `a`: an error code, then one address, and the message is
sent. -/
theorem plain_response_message :
    let ops : List DispatchOp :=
      [.build (.setResponseCode 3),
        .build (.addAddressAnswer
          ⟨.ipv4, [10, 0, 0, 1, 0, 0, 0, 0, 0, 0, 0, 0, 0, 0, 0, 0], rfl⟩ 60 true),
        .complete ⟨true, .ok, .ok⟩]
    let s := feed (Response.invoke standardCodes) ⟨⟨1, 53⟩, [18, 52, 133, 0, 0, 1, 0, 0, 0, 0, 0, 0,
      1, 97, 0, 0, 1, 0, 1], 0, true, false⟩ ops
    ∃ message, parse s.1.buffer = some message ∧ message.answers.length = 1 ∧
      (sentBy ⟨2, 53⟩ s.2 = [] ∨ sentBy ⟨2, 53⟩ s.2 = [⟨⟨2, 53⟩, ⟨1, 53⟩, s.1.buffer⟩]) := by
  intro ops s
  have hname :
      EncodesName [18, 52, 1, 0, 0, 1, 0, 0, 0, 0, 0, 0, 1, 97, 0, 0, 1, 0, 1] 12 [97] 15 :=
    ⟨0, [[97]], .label (fun _ _ _ => trivial) rfl (by decide) (by decide) rfl (.root trivial rfl),
      by decide, rfl, by decide⟩
  obtain ⟨⟨header, rest, type, recordClass, -, -, -, hparse⟩, -, -, -, -, hsent⟩ :=
    response_message standardCodes ⟨2, 53⟩ ⟨1, 53⟩ hname (by decide) (by decide)
      (show Response.create true ⟨1, 53⟩ _ (15 + 4) true = some _ from rfl) rfl ops
  exact ⟨_, hparse, rfl, hsent⟩

end Dns
