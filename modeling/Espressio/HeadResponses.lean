import Espressio.ResponseFraming

/-!
# Responses to HEAD

The response to a HEAD request ends with its header block.  `Write` keeps to
that in both framings.  `Complete` does in the framing with a known length; in
the other it hands the chunked encoder the last chunk like in any response, and
the encoder sends the header block and, behind it, the bytes that end a body.

The encoder is native code: `headers` is the block it sends first, and `encode`
what it makes of a chunk.  A call of it that fails has sent a part of its text,
whose length comes with the call.
-/

namespace HttpResponse

open NetworkBytes Web Runs
open PlatformResults (EspErr)

variable {headers : Bytes} {encode : Bytes → Bytes}

/-- A response, and whether a complete header block is on the wire. -/
structure HeadState where
  response : Response
  blockSent : Bool

/-- A call, and how many bytes a failing call of the encoder gets out in it. -/
abbrev HeadCall := Call × Nat

/-- Whether the header block is out after a native call, and what the call puts
on the wire behind it. -/
def behindBlock (headers : Bytes) (encode : Bytes → Bytes) (succeeds : Bool) (out : Nat)
    (blockSent : Bool) : NativeCall → Bool × Bytes
  | .send data sent => (blockSent, if blockSent then data.take sent.toNat else [])
  | .sendChunk data =>
      let unsent := if blockSent then [] else headers
      let text := unsent ++ encode data
      let sent := if succeeds then text else text.take out
      (unsent.length ≤ sent.length, sent.drop unsent.length)
  | _ => (blockSent, [])

/-- A call sends the block itself, if it is a successful `Begin` with a length. -/
def Call.sendsBlock : Call → WebResult → Bool
  | .begin (some _) _, .success => true
  | _, _ => false

/-- One call, and the bytes it puts on the wire behind the header block. -/
def headStep (headers : Bytes) (encode : Bytes → Bytes) (s : HeadState) (c : HeadCall) :
    HeadState × Bytes :=
  let after := step s.response c.1
  let sent := feed (behindBlock headers encode (after.2.1 = .success) c.2) s.blockSent after.2.2
  (⟨after.1, sent.1 || c.1.sendsBlock after.2.1⟩, sent.2)

/-- A response to HEAD as it is constructed. -/
def HeadState.fresh (keepAlive : Bool) : HeadState := ⟨Response.fresh true keepAlive, false⟩

/-- The bytes behind the header block, after any calls. -/
def behindHeaders (headers : Bytes) (encode : Bytes → Bytes) (keepAlive : Bool)
    (calls : List HeadCall) : Bytes :=
  (feed (headStep headers encode) (HeadState.fresh keepAlive) calls).2

/-- The call completes a begun response of unknown length, and the encoder gets
at least one byte of the last chunk out. -/
def SendsLastChunk (headers : Bytes) (s : HeadState) (c : HeadCall) : Prop :=
  ∃ natives, c.1 = .complete natives ∧ s.response.begun = true ∧ s.response.completed = false ∧
    s.response.knownLengthFraming = false ∧
    (natives.results.headD .fail = .ok ∨ (if s.blockSent then [] else headers).length < c.2)

/-! ### What holds of every response to HEAD -/

structure HeadInv (s : HeadState) : Prop where
  isHead : s.response.isHead = true
  begun : s.blockSent = true → s.response.begun = true
  framing : s.response.knownLengthFraming = s.response.expectedLength.isSome

theorem headInv_fresh (keepAlive : Bool) : HeadInv (HeadState.fresh keepAlive) where
  isHead := rfl
  begun := fun h => by cases h
  framing := rfl

theorem feed_behindBlock_quiet {succeeds blockSent : Bool} {out : Nat} {natives : List NativeCall}
    (h : ∀ call ∈ natives, behindBlock headers encode succeeds out blockSent call =
      (blockSent, [])) :
    feed (behindBlock headers encode succeeds out) blockSent natives = (blockSent, []) := by
  induction natives with
  | nil => rfl
  | cons call natives ih =>
      obtain ⟨hcall, hrest⟩ := List.forall_mem_cons.mp h
      rw [feed_cons, hcall, ih hrest]
      rfl

/-- A call that changes neither the request nor the framing and sends nothing. -/
theorem headStep_quiet {s : HeadState} {c : HeadCall} (h : HeadInv s)
    (hnatives : (step s.response c.1).2.2 = [])
    (hresponse : (step s.response c.1).1.isHead = s.response.isHead ∧
      (step s.response c.1).1.begun = s.response.begun ∧
      (step s.response c.1).1.knownLengthFraming = s.response.knownLengthFraming ∧
      (step s.response c.1).1.expectedLength = s.response.expectedLength)
    (hblock : c.1.sendsBlock (step s.response c.1).2.1 = false) :
    (headStep headers encode s c).2 = [] ∧ HeadInv (headStep headers encode s c).1 := by
  obtain ⟨hhead, hbegun, hknown, hlength⟩ := hresponse
  simp only [headStep, hnatives, feed_nil, hblock, Bool.or_false]
  exact ⟨trivial, hhead.trans h.isHead, fun k => hbegun.trans (h.begun k),
    by rw [hknown, hlength, h.framing]⟩

/-- `SendRaw` makes no native call but `httpd_send`. -/
theorem sendRaw_calls {data : Bytes} {sends : List Int} {call : NativeCall}
    (h : call ∈ (sendRaw data sends).2) : ∃ text sent, call = .send text sent := by
  induction sends generalizing data with
  | nil =>
      by_cases hdata : data = []
      · simp [sendRaw, hdata] at h
      · rw [sendRaw, if_neg hdata] at h
        exact ⟨_, _, List.mem_singleton.mp h⟩
  | cons sent rest ih =>
      by_cases hdata : data = []
      · simp [sendRaw, hdata] at h
      · rw [sendRaw, if_neg hdata] at h
        by_cases hsent : sent ≤ 0
        · rw [if_pos hsent] at h
          exact ⟨_, _, List.mem_singleton.mp h⟩
        · rw [if_neg hsent] at h
          rcases List.mem_cons.mp h with rfl | hrest
          · exact ⟨_, _, rfl⟩
          · exact ih hrest

theorem issue_calls {calls : List NativeCall} {results : List EspErr} {call : NativeCall}
    (h : call ∈ (issue calls results).2) : call ∈ calls := by
  induction calls generalizing results with
  | nil => cases h
  | cons first rest ih =>
      simp only [issue] at h
      split_ifs at h
      · rw [List.mem_singleton.mp h]
        exact List.mem_cons_self
      · rcases List.mem_cons.mp h with rfl | hrest
        · exact List.mem_cons_self
        · exact List.mem_cons_of_mem _ (ih hrest)

theorem behindBlock_chunkedHeaders {r : Response} {succeeds blockSent : Bool} {out : Nat}
    {call : NativeCall} (h : call ∈ chunkedHeaderCalls r) :
    behindBlock headers encode succeeds out blockSent call = (blockSent, []) := by
  simp only [chunkedHeaderCalls, List.cons_append, List.mem_cons, List.mem_append,
    List.mem_map] at h
  rcases h with rfl | (htype | ⟨field, -, rfl⟩) | hclose
  · rfl
  · split_ifs at htype
    · cases htype
    · rw [List.mem_singleton.mp htype]
      rfl
  · rfl
  · split_ifs at hclose
    · cases hclose
    · rw [List.mem_singleton.mp hclose]
      rfl

/-- `Begin` without a length, on a response that has not begun. -/
theorem begin_chunked {r : Response} (hbegun : r.begun = false) (n : Natives) :
    begin r none n =
      ({ r with
          expectedLength := none
          knownLengthFraming := false
          begun := HttpServer.httpResult (issue (chunkedHeaderCalls r) n.results).1 = .success },
        HttpServer.httpResult (issue (chunkedHeaderCalls r) n.results).1,
        (issue (chunkedHeaderCalls r) n.results).2) := by
  have hcalls : chunkedHeaderCalls { r with expectedLength := none, knownLengthFraming := false } =
      chunkedHeaderCalls r := rfl
  rw [begin, if_neg (by simp [hbegun])]
  simp only [Option.isSome_none, hcalls]
  split_ifs with hresult <;> simp [hresult, hbegun]

/-- `Begin` sends the block at most. -/
theorem headStep_begin {s : HeadState} (h : HeadInv s) (length : Option UInt32) (n : Natives)
    (out : Nat) :
    (headStep headers encode s (.begin length n, out)).2 = [] ∧
      HeadInv (headStep headers encode s (.begin length n, out)).1 := by
  by_cases hbegun : s.response.begun = true
  · apply headStep_quiet h <;> cases length <;> simp [step, begin, hbegun, Call.sendsBlock]
  · have hblock : s.blockSent = false := by
      by_contra hsent
      exact hbegun (h.begun (by simpa using hsent))
    have hunbegun : s.response.begun = false := by simpa using hbegun
    cases length with
    | none =>
        have hquiet : ∀ call ∈ (issue (chunkedHeaderCalls s.response) n.results).2,
            behindBlock headers encode
              (HttpServer.httpResult (issue (chunkedHeaderCalls s.response) n.results).1 =
                .success) out false call = (false, []) :=
          fun call hcall => behindBlock_chunkedHeaders (issue_calls hcall)
        simp only [headStep, step, begin_chunked hunbegun, hblock, feed_behindBlock_quiet hquiet]
        refine ⟨trivial, h.isHead, ?_, rfl⟩
        intro hsent
        cases hsent
    | some length =>
        have hquiet : ∀ call ∈ (sendRaw (headerBlock s.response length) n.sends).2,
            behindBlock headers encode
              ((sendRaw (headerBlock s.response length) n.sends).1 = .success) out false call =
                (false, []) := by
          intro call hcall
          obtain ⟨text, sent, rfl⟩ := sendRaw_calls hcall
          rfl
        simp only [headStep, step, begin_fresh hunbegun, hblock, feed_behindBlock_quiet hquiet]
        refine ⟨trivial, h.isHead, ?_, rfl⟩
        intro hsends
        cases hreach : reaches (headerBlock s.response length).length n.sends with
        | true => rfl
        | false =>
            cases hresult : (sendRaw (headerBlock s.response length) n.sends).1 with
            | success => exact absurd hresult (sendRaw_not_reaches hreach).1
            | failure error native => simp [hresult, Call.sendsBlock] at hsends

/-- `Write` only counts. -/
theorem headStep_write {s : HeadState} (h : HeadInv s) (data : Option Buffer) (n : Natives)
    (out : Nat) :
    (headStep headers encode s (.write data n, out)).2 = [] ∧
      HeadInv (headStep headers encode s (.write data n, out)).1 := by
  have hhead := h.isHead
  cases data with
  | none => apply headStep_quiet h <;> simp [step, write, Call.sendsBlock]
  | some data =>
      apply headStep_quiet h
      all_goals simp only [step, write, hhead, Call.sendsBlock]
      all_goals split_ifs <;> simp_all

theorem issue_singleton (call : NativeCall) (results : List EspErr) :
    issue [call] results = (results.headD .fail, [call]) := by
  simp only [issue]
  split_ifs with hanswer
  · rfl
  · rw [not_not.mp hanswer]

/-- `Complete` of a begun response of unknown length hands the encoder the last
chunk, whatever the request. -/
theorem complete_chunked {r : Response} (hcompleted : r.completed = false)
    (hbegun : r.begun = true) (hknown : r.knownLengthFraming = false)
    (hlength : r.expectedLength = none) (n : Natives) :
    complete r n = ({ r with completed := n.results.headD .fail = .ok },
      HttpServer.httpResult (n.results.headD .fail), [.sendChunk []]) := by
  simp only [complete, hcompleted, hbegun, hknown, hlength, issue_singleton]
  generalize n.results.headD .fail = answer
  by_cases hanswer : answer = .ok
  · subst hanswer
    rfl
  · cases r
    simp_all

/-- Any other `Complete` makes no native call. -/
theorem complete_quiet {r : Response} {n : Natives}
    (h : ¬ (r.begun = true ∧ r.completed = false ∧ r.knownLengthFraming = false)) :
    (complete r n).2.2 = [] ∧ (complete r n).1.isHead = r.isHead ∧
      (complete r n).1.begun = r.begun ∧
      (complete r n).1.knownLengthFraming = r.knownLengthFraming ∧
      (complete r n).1.expectedLength = r.expectedLength := by
  unfold complete
  split_ifs with hcompleted hbegun hlength hknown
  · exact ⟨rfl, rfl, rfl, rfl, rfl⟩
  · exact ⟨rfl, rfl, rfl, rfl, rfl⟩
  · exact ⟨rfl, rfl, rfl, rfl, rfl⟩
  · exact ⟨rfl, rfl, rfl, rfl, rfl⟩
  · exact absurd ⟨by simpa using hbegun, by simpa using hcompleted, by simpa using hknown⟩ h

theorem sendsLastChunk_complete {s : HeadState} {n : Natives} {out : Nat} :
    SendsLastChunk headers s (.complete n, out) ↔
      (s.response.begun = true ∧ s.response.completed = false ∧
        s.response.knownLengthFraming = false) ∧
      (n.results.headD .fail = .ok ∨ (if s.blockSent then [] else headers).length < out) := by
  simp [SendsLastChunk, and_assoc]

/-- What is sent behind the unsent headers is a chunk, or the part of it that
got out. -/
theorem drop_sent_eq_nil {unsent chunk : Bytes} {succeeds : Bool} {out : Nat}
    (hchunk : chunk ≠ []) :
    (if succeeds then unsent ++ chunk else (unsent ++ chunk).take out).drop unsent.length = [] ↔
      ¬ (succeeds = true ∨ unsent.length < out) := by
  cases succeeds with
  | true => simpa using hchunk
  | false =>
      simp only [Bool.false_eq_true, ↓reduceIte, false_or, List.drop_take, List.drop_left,
        List.take_eq_nil_iff, hchunk, or_false]
      omega

/-- `Complete` sends something behind the block exactly where it gets a byte of
the last chunk out. -/
theorem headStep_complete {s : HeadState} (h : HeadInv s) (hencode : encode [] ≠ [])
    (n : Natives) (out : Nat) :
    ((headStep headers encode s (.complete n, out)).2 = [] ↔
        ¬ SendsLastChunk headers s (.complete n, out)) ∧
      HeadInv (headStep headers encode s (.complete n, out)).1 := by
  by_cases heffective : s.response.begun = true ∧ s.response.completed = false ∧
      s.response.knownLengthFraming = false
  · obtain ⟨hbegun, hcompleted, hknown⟩ := heffective
    have hlength : s.response.expectedLength = none := by
      have hframing := h.framing
      rw [hknown] at hframing
      exact Option.not_isSome_iff_eq_none.mp (by simp [← hframing])
    simp only [headStep, step, complete_chunked hcompleted hbegun hknown hlength, feed_cons,
      feed_nil, List.append_nil]
    refine ⟨?_, h.isHead, fun _ => hbegun, h.framing⟩
    rw [sendsLastChunk_complete, and_iff_right ⟨hbegun, hcompleted, hknown⟩]
    simp only [behindBlock]
    rw [drop_sent_eq_nil hencode, decide_eq_true_eq, HttpServer.httpResult_success]
  · have hnothing : ¬ SendsLastChunk headers s (.complete n, out) := fun hsends =>
      heffective (sendsLastChunk_complete.mp hsends).1
    obtain ⟨hnatives, hframe⟩ := complete_quiet (n := n) heffective
    have hstep : (headStep headers encode s (.complete n, out)).2 = [] ∧
        HeadInv (headStep headers encode s (.complete n, out)).1 :=
      headStep_quiet h hnatives hframe rfl
    obtain ⟨hempty, hinv⟩ := hstep
    exact ⟨⟨fun _ => hnothing, fun _ => hempty⟩, hinv⟩

/-- **One call** sends something behind the block exactly where it gets a byte
of the last chunk out. -/
theorem headStep_spec {s : HeadState} (h : HeadInv s) (hencode : encode [] ≠ [])
    (c : HeadCall) :
    ((headStep headers encode s c).2 = [] ↔ ¬ SendsLastChunk headers s c) ∧
      HeadInv (headStep headers encode s c).1 := by
  have hquiet : ∀ {call : Call} {out : Nat}, (∀ natives, call ≠ .complete natives) →
      (headStep headers encode s (call, out)).2 = [] ∧
        HeadInv (headStep headers encode s (call, out)).1 →
      ((headStep headers encode s (call, out)).2 = [] ↔
          ¬ SendsLastChunk headers s (call, out)) ∧
        HeadInv (headStep headers encode s (call, out)).1 := by
    rintro call out hother ⟨hnothing, hinv⟩
    exact ⟨⟨fun _ ⟨natives, hcall, _⟩ => hother natives hcall, fun _ => hnothing⟩, hinv⟩
  obtain ⟨call, out⟩ := c
  cases call with
  | setStatus status =>
      apply hquiet (fun _ => by simp)
      apply headStep_quiet h <;> simp only [step, setStatus] <;> split_ifs <;>
        simp [Call.sendsBlock]
  | setHeader name value =>
      apply hquiet (fun _ => by simp)
      apply headStep_quiet h <;> simp only [step, setHeader] <;> split_ifs <;>
        simp [Call.sendsBlock]
  | begin length n => exact hquiet (fun _ => by simp) (headStep_begin h length n out)
  | write data n => exact hquiet (fun _ => by simp) (headStep_write h data n out)
  | complete n => exact headStep_complete h hencode n out
  | abort =>
      apply hquiet (fun _ => by simp)
      apply headStep_quiet h <;> simp [step, abort, Call.sendsBlock]

/-! ### Every sequence of calls -/

/-- **Nothing follows the header block unless a last chunk is sent.**  Over any
calls on a response to HEAD, the bytes behind the header block are none exactly
when no call gets a byte of a last chunk out. -/
theorem behindHeaders_eq_nil_iff (headers : Bytes) (encode : Bytes → Bytes)
    (hlast : encode [] = ascii "0\r\n\r\n") (keepAlive : Bool) (calls : List HeadCall) :
    behindHeaders headers encode keepAlive calls = [] ↔
      Along (headStep headers encode) (fun s c => ¬ SendsLastChunk headers s c)
        (HeadState.fresh keepAlive) calls := by
  have hencode : encode [] ≠ [] := by
    rw [hlast]
    decide
  have hinv := headInv_fresh keepAlive
  rw [behindHeaders]
  generalize HeadState.fresh keepAlive = s at hinv
  induction calls generalizing s with
  | nil => simp [Along]
  | cons c calls ih =>
      obtain ⟨hnothing, hnext⟩ := headStep_spec hinv hencode c
      rw [feed_cons, List.append_eq_nil_iff]
      exact and_congr hnothing (ih _ hnext)

/-- The text of a chunk. -/
def chunkText (data : Bytes) : Bytes :=
  ascii (String.ofList (Nat.toDigits 16 data.length)) ++ ascii "\r\n" ++ data ++ ascii "\r\n"

/-- Begin and complete, with every native call answered. -/
def answeredCalls (length : Option UInt32) : List HeadCall :=
  [(.begin length ⟨[1000], [.ok]⟩, 0), (.complete ⟨[], [.ok]⟩, 0)]

theorem behindHeaders_answered :
    behindHeaders (ascii "HTTP/1.1 200 OK\r\n\r\n") chunkText true (answeredCalls (some 0)) = [] ↔
      Along (headStep (ascii "HTTP/1.1 200 OK\r\n\r\n") chunkText)
        (fun s c => ¬ SendsLastChunk (ascii "HTTP/1.1 200 OK\r\n\r\n") s c)
        (HeadState.fresh true) (answeredCalls (some 0)) :=
  behindHeaders_eq_nil_iff _ chunkText (by decide) true (answeredCalls (some 0))

/-- A kept-alive response to HEAD of unknown length ends with a last chunk. -/
theorem chunk_follows_headers :
    let sent := behindHeaders (ascii "HTTP/1.1 200 OK\r\n\r\n") chunkText true
      (answeredCalls none)
    sent = ascii "0\r\n\r\n" ∧ sent ≠ [] := by
  decide

end HttpResponse
