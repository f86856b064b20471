import Espressio.CompressedNames

/-!
# Decoding a domain name

`decodeDnsName` is the loop of `Detail::DecodeDnsName`: `turn` is its body and
`Scan` its variables.  Every read of the packet is checked, so an
out-of-bounds read would show as `outOfBounds`, and the loop runs on fuel, so
a loop that does not end would show as `unfinished`.  `decodeDnsName_sound`
excludes both, and `decodeDnsName_eq_name` says that the decoder accepts
exactly the encodings with at most 8 pointers and a text of at most 253 bytes.
-/

namespace Dns

open NetworkBytes CompressedNames

/-- How decoding ends. -/
inductive Decoded
  | outOfBounds
  | unfinished
  | malformed
  | name (text : Bytes) (encodedEnd : Nat)
  deriving DecidableEq, Repr

/-- The variables of the loop. -/
structure Scan where
  cursor : Nat
  jumps : Nat
  jumped : Bool
  output : Bytes
  encodedEnd : Nat
  deriving DecidableEq, Repr

/-- One turn of the loop ends it or goes on. -/
inductive Turn
  | stop (result : Decoded)
  | next (scan : Scan)
  deriving DecidableEq, Repr

def maximumJumps : Nat := 8
def maximumNameBytes : Nat := 253

/-- The first byte is a pointer's. -/
def turnPointer (packet : Bytes) (s : Scan) (length : UInt8) : Turn :=
  if packet.length ≤ s.cursor + 1 ∨ maximumJumps < s.jumps + 1 then .stop .malformed
  else
    match packet[s.cursor + 1]? with
    | none => .stop .outOfBounds
    | some low =>
        let pointer := pointerTarget length low
        if packet.length ≤ pointer then .stop .malformed
        else
          .next { s with
            cursor := pointer
            jumps := s.jumps + 1
            jumped := true
            encodedEnd := if s.jumped then s.encodedEnd else s.cursor + 2 }

/-- The text with the dot that the next label stands behind. -/
def separate (output : Bytes) : Bytes := if output ≠ [] then output ++ [46] else output

/-- The first byte is a label's length. -/
def turnLabel (packet : Bytes) (s : Scan) (length : UInt8) : Turn :=
  let cursor := s.cursor + 1
  if packet.length < cursor + length.toNat then .stop .malformed
  else if s.output ≠ [] ∧ maximumNameBytes ≤ s.output.length then .stop .malformed
  else
    let output := separate s.output
    if maximumNameBytes < output.length + length.toNat then .stop .malformed
    else
      match slice packet cursor length.toNat with
      | none => .stop .outOfBounds
      | some text =>
          .next { s with
            cursor := cursor + length.toNat
            output := output ++ text
            encodedEnd := if s.jumped then s.encodedEnd else cursor + length.toNat }

def turn (packet : Bytes) (s : Scan) : Turn :=
  if packet.length ≤ s.cursor then .stop .malformed
  else
    match packet[s.cursor]? with
    | none => .stop .outOfBounds
    | some length =>
        if length = 0 then
          if s.output.length ≤ maximumNameBytes then
            .stop (.name s.output (if s.jumped then s.encodedEnd else s.cursor + 1))
          else .stop .malformed
        else if length &&& 0xc0 = 0xc0 then turnPointer packet s length
        else if length &&& 0xc0 ≠ 0 ∨ 63 < length.toNat then .stop .malformed
        else turnLabel packet s length

def scanLoop (packet : Bytes) : Nat → Scan → Decoded
  | 0, _ => .unfinished
  | fuel + 1, s =>
      match turn packet s with
      | .stop result => result
      | .next s' => scanLoop packet fuel s'

/-- `Detail::DecodeDnsName`.  Every pointer starts at most one more walk over
the packet, so this fuel is enough. -/
def decodeDnsName (packet : Bytes) (start : Nat) : Decoded :=
  scanLoop packet ((maximumJumps + 1) * (packet.length + 1)) ⟨start, 0, false, [], start⟩

/-! ## What the loop computes -/

theorem and_c0_eq_c0 (b : UInt8) : b &&& 0xc0 = 0xc0 ↔ 192 ≤ b.toNat := by
  revert b
  apply forall_uint8
  decide +kernel

theorem and_c0_eq_zero (b : UInt8) : b &&& 0xc0 = 0 ↔ b.toNat ≤ 63 := by
  revert b
  apply forall_uint8
  decide +kernel

/-- The text after one more label. -/
def appendLabel (output text : Bytes) : Bytes := separate output ++ text

/-- The text after the labels that are still to come. -/
def appendLabels (output : Bytes) (labels : List Bytes) : Bytes := labels.foldl appendLabel output

@[simp] theorem appendLabels_nil (output : Bytes) : appendLabels output [] = output := rfl

@[simp] theorem appendLabels_cons (output text : Bytes) (labels : List Bytes) :
    appendLabels output (text :: labels) = appendLabels (appendLabel output text) labels := rfl

theorem length_le_separate (output : Bytes) : output.length ≤ (separate output).length := by
  unfold separate
  split <;> simp

theorem length_le_appendLabel (output text : Bytes) :
    output.length ≤ (appendLabel output text).length := by
  have := length_le_separate output
  simp only [appendLabel, List.length_append]
  omega

theorem length_le_appendLabels (output : Bytes) (labels : List Bytes) :
    output.length ≤ (appendLabels output labels).length := by
  induction labels generalizing output with
  | nil => simp
  | cons text rest ih => exact Nat.le_trans (length_le_appendLabel output text) (ih _)

/-- Labels appended to nothing are the labels joined by dots. -/
theorem appendLabels_dotted {labels : List Bytes} (h : ∀ text ∈ labels, text ≠ []) :
    appendLabels [] labels = dotted labels := by
  have hfrom : ∀ (rest : List Bytes) (output : Bytes), output ≠ [] →
      (∀ text ∈ rest, text ≠ []) →
      appendLabels output rest = output ++ rest.flatMap (46 :: ·) := by
    intro rest
    induction rest with
    | nil => intro output _ _; simp
    | cons text rest ih =>
        intro output hout hrest
        rw [appendLabels_cons, ih _ (by simp [appendLabel, separate, hout])
          fun t ht => hrest t (List.mem_cons_of_mem text ht)]
        simp [appendLabel, separate, hout]
  cases labels with
  | nil => rfl
  | cons text rest =>
      obtain ⟨htext, hrest⟩ := List.forall_mem_cons.mp h
      rw [appendLabels_cons, dotted_cons]
      simpa [appendLabel, separate] using hfrom rest text htext hrest

/-- What the loop has reached can still be completed to this name. -/
def Completes (packet : Bytes) (s : Scan) (text : Bytes) (encodedEnd : Nat) : Prop :=
  ∃ jumps labels stop, Encodes packet s.cursor jumps labels stop ∧
    s.jumps + jumps ≤ maximumJumps ∧ appendLabels s.output labels = text ∧
    text.length ≤ maximumNameBytes ∧
    encodedEnd = if s.jumped then s.encodedEnd else stop

/-- What holds at the head of the loop. -/
structure InLoop (s : Scan) : Prop where
  jumps : s.jumps ≤ maximumJumps
  output : s.output.length ≤ maximumNameBytes

/-- The bytes the loop can still walk over, over all jumps it has left. -/
def remaining (packet : Bytes) (s : Scan) : Nat :=
  (maximumJumps - s.jumps) * (packet.length + 1) + (packet.length - s.cursor)

/-- What one turn of the loop does: it ends it with the right result, or goes
on closer to the end with the same names to complete. -/
def TurnSpec (packet : Bytes) (s : Scan) : Turn → Prop
  | .stop result =>
      result ≠ .outOfBounds ∧ result ≠ .unfinished ∧
        ∀ text e, result = .name text e ↔ Completes packet s text e
  | .next s' =>
      InLoop s' ∧ remaining packet s' < remaining packet s ∧
        ∀ text e, Completes packet s' text e ↔ Completes packet s text e

/-- A turn that gives up is right if nothing can be completed. -/
theorem TurnSpec.malformed {packet : Bytes} {s : Scan}
    (h : ∀ text e, ¬ Completes packet s text e) : TurnSpec packet s (.stop .malformed) :=
  ⟨by simp, by simp, fun text e => iff_of_false (by simp) (h text e)⟩

theorem turnPointer_spec {packet : Bytes} {s : Scan} {length : UInt8} (h : InLoop s)
    (hhead : packet[s.cursor]? = some length)
    (hlarge : 192 ≤ length.toNat) : TurnSpec packet s (turnPointer packet s length) := by
  unfold turnPointer
  split
  · rename_i hstop
    refine .malformed ?_
    intro text e hparts
    obtain ⟨jumps, labels, stop, henc, hjumps, -⟩ := hparts
    obtain ⟨lo, jumps', stop', hlow, -, -, rfl, -⟩ := (encodes_pointer hhead hlarge).mp henc
    have := (List.getElem?_eq_some_iff.mp hlow).1
    rcases hstop with hstop | hstop <;> omega
  · rename_i hgo
    simp only [not_or, Nat.not_le, Nat.not_lt] at hgo
    rw [List.getElem?_eq_getElem hgo.1]
    dsimp only
    generalize hlow : packet[s.cursor + 1] = low
    have hlow' : packet[s.cursor + 1]? = some low := by
      rw [List.getElem?_eq_getElem hgo.1, hlow]
    split
    · rename_i hout
      refine .malformed ?_
      intro text e hparts
      obtain ⟨jumps, labels, stop, henc, -⟩ := hparts
      obtain ⟨lo, _, _, hlo, hin, -⟩ := (encodes_pointer hhead hlarge).mp henc
      rw [hlow'] at hlo
      cases hlo
      omega
    · rename_i hin
      refine ⟨⟨hgo.2, h.output⟩, ?_, ?_⟩
      · have hsplit : maximumJumps - s.jumps = (maximumJumps - (s.jumps + 1)) + 1 := by omega
        simp only [remaining]
        rw [hsplit, Nat.add_mul]
        omega
      · intro text e
        constructor
        · intro hparts
          obtain ⟨jumps, labels, stop, henc, hjumps, htext, hlen, he⟩ := hparts
          refine ⟨jumps + 1, labels, s.cursor + 2,
            (encodes_pointer hhead hlarge).mpr
              ⟨low, jumps, stop, hlow', Nat.not_le.mp hin, henc, rfl, rfl⟩, ?_, htext, hlen, ?_⟩
          · simp only at hjumps
            omega
          · simpa using he
        · intro hparts
          obtain ⟨jumps, labels, stop, henc, hjumps, htext, hlen, he⟩ := hparts
          obtain ⟨lo, jumps', stop', hlo, -, henc', rfl, rfl⟩ :=
            (encodes_pointer hhead hlarge).mp henc
          rw [hlow'] at hlo
          cases hlo
          refine ⟨jumps', labels, stop', henc', ?_, htext, hlen, by simpa using he⟩
          simp only
          omega

/-- At a label, what completes a name is the label and what completes the rest
behind it. -/
theorem Completes.label {packet : Bytes} {s : Scan} {length : UInt8} {text : Bytes} {e : Nat}
    (h : Completes packet s text e) (hhead : packet[s.cursor]? = some length)
    (hpos : 1 ≤ length.toNat) (hsmall : length.toNat ≤ 63) :
    ∃ body labels jumps stop, slice packet (s.cursor + 1) length.toNat = some body ∧
      Encodes packet (s.cursor + 1 + length.toNat) jumps labels stop ∧
      s.jumps + jumps ≤ maximumJumps ∧
      appendLabels (appendLabel s.output body) labels = text ∧
      text.length ≤ maximumNameBytes ∧ e = if s.jumped then s.encodedEnd else stop := by
  obtain ⟨jumps, labels, stop, henc, hjumps, htext, hlen, he⟩ := h
  obtain ⟨body, labels', hbody, henc', rfl⟩ := (encodes_label hhead hpos hsmall).mp henc
  exact ⟨body, labels', jumps, stop, hbody, henc', hjumps, htext, hlen, he⟩

/-- The text can only grow, so a label that does not fit now never will. -/
theorem Completes.label_fits {packet : Bytes} {s : Scan} {length : UInt8} {text : Bytes} {e : Nat}
    (h : Completes packet s text e) (hhead : packet[s.cursor]? = some length)
    (hpos : 1 ≤ length.toNat) (hsmall : length.toNat ≤ 63) :
    (separate s.output).length + length.toNat ≤ maximumNameBytes := by
  obtain ⟨body, labels, _, _, hbody, -, -, rfl, hlen, -⟩ := h.label hhead hpos hsmall
  have hgrow := length_le_appendLabels (appendLabel s.output body) labels
  have hbodylen := length_slice hbody
  have hone : (appendLabel s.output body).length =
      (separate s.output).length + length.toNat := by
    rw [appendLabel, List.length_append, hbodylen]
  omega

theorem turnLabel_spec {packet : Bytes} {s : Scan} {length : UInt8} (h : InLoop s)
    (hcursor : s.cursor < packet.length) (hhead : packet[s.cursor]? = some length)
    (hpos : 1 ≤ length.toNat) (hsmall : length.toNat ≤ 63) :
    TurnSpec packet s (turnLabel packet s length) := by
  have hcompletes := fun text e (hc : Completes packet s text e) => hc.label hhead hpos hsmall
  have hfits := fun text e (hc : Completes packet s text e) => hc.label_fits hhead hpos hsmall
  unfold turnLabel
  dsimp only
  split
  · rename_i hlong
    refine .malformed ?_
    intro text e hc
    obtain ⟨body, _, _, _, hbody, -⟩ := hcompletes text e hc
    simp [slice, Nat.not_le.mpr hlong] at hbody
  · rename_i hinside
    split
    · rename_i hfull
      refine .malformed ?_
      intro text e hc
      have := hfits text e hc
      have := length_le_separate s.output
      omega
    · split
      · rename_i hover
        exact .malformed fun text e hc => absurd (hfits text e hc) (Nat.not_le.mpr hover)
      · rename_i hroom
        have hbody : slice packet (s.cursor + 1) length.toNat =
            some ((packet.drop (s.cursor + 1)).take length.toNat) := by
          unfold slice
          rw [if_pos (Nat.not_lt.mp hinside)]
        rw [hbody]
        dsimp only
        generalize (packet.drop (s.cursor + 1)).take length.toNat = body at hbody
        refine ⟨⟨h.jumps, ?_⟩, ?_, ?_⟩
        · have := length_slice hbody
          simp only [List.length_append]
          omega
        · simp only [remaining]
          omega
        · intro text e
          constructor
          · intro hparts
            obtain ⟨jumps, labels, stop, henc, hjumps, htext, hlen, he⟩ := hparts
            refine ⟨jumps, body :: labels, stop,
              (encodes_label hhead hpos hsmall).mpr ⟨body, labels, hbody, henc, rfl⟩,
              hjumps, htext, hlen, ?_⟩
            cases hj : s.jumped <;> simpa [hj] using he
          · intro hc
            obtain ⟨body', labels, jumps, stop, hbody', henc, hjumps, htext, hlen, he⟩ :=
              hcompletes text e hc
            rw [hbody] at hbody'
            cases hbody'
            refine ⟨jumps, labels, stop, henc, hjumps, htext, hlen, ?_⟩
            cases hj : s.jumped <;> simpa [hj] using he

/-- **One turn of the loop.** -/
theorem turn_spec (packet : Bytes) {s : Scan} (h : InLoop s) :
    TurnSpec packet s (turn packet s) := by
  unfold turn
  split
  · rename_i hend
    refine .malformed ?_
    intro text e hparts
    obtain ⟨_, _, _, henc, -⟩ := hparts
    have := henc.start_mem.2
    omega
  · rename_i hcursor
    have hcursor : s.cursor < packet.length := Nat.not_le.mp hcursor
    have hhead := List.getElem?_eq_getElem hcursor
    rw [hhead]
    generalize packet[s.cursor] = length at hhead
    dsimp only
    by_cases hzero : length = 0
    · subst hzero
      rw [if_pos rfl, if_pos h.output]
      refine ⟨by simp, by simp, fun text e => ?_⟩
      simp only [Decoded.name.injEq]
      constructor
      · intro hparts
        obtain ⟨rfl, rfl⟩ := hparts
        exact ⟨0, [], s.cursor + 1, (encodes_root hhead).mpr ⟨rfl, rfl, rfl⟩, h.jumps, rfl,
          h.output, rfl⟩
      · intro hparts
        obtain ⟨jumps, labels, stop, henc, -, htext, -, he⟩ := hparts
        obtain ⟨rfl, rfl, rfl⟩ := (encodes_root hhead).mp henc
        exact ⟨htext, he.symm⟩
    · have hpos : 1 ≤ length.toNat := by
        by_contra hnot
        exact hzero (UInt8.toNat_inj.mp (by simpa using hnot))
      rw [if_neg hzero]
      by_cases hptr : length &&& 0xc0 = 0xc0
      · rw [if_pos hptr]
        exact turnPointer_spec h hhead ((and_c0_eq_c0 length).mp hptr)
      · rw [if_neg hptr]
        rw [and_c0_eq_c0, Nat.not_le] at hptr
        by_cases hbad : length &&& 0xc0 ≠ 0 ∨ 63 < length.toNat
        · rw [if_pos hbad]
          have hlow : 63 < length.toNat := by
            rcases hbad with hbad | hbad
            · rw [ne_eq, and_c0_eq_zero, Nat.not_le] at hbad
              exact hbad
            · exact hbad
          refine .malformed ?_
          intro text e hparts
          obtain ⟨_, _, _, henc, -⟩ := hparts
          exact not_encodes hhead hlow hptr henc
        · rw [if_neg hbad]
          have hsmall : length.toNat ≤ 63 := Nat.not_lt.mp fun k => hbad (Or.inr k)
          exact turnLabel_spec h hcursor hhead hpos hsmall

/-- **The whole loop**, by induction on the fuel: `remaining` falls with every
turn, so the fuel lasts. -/
theorem scanLoop_spec (packet : Bytes) {fuel : Nat} {s : Scan} (h : InLoop s)
    (hfuel : remaining packet s < fuel) :
    scanLoop packet fuel s ≠ .outOfBounds ∧ scanLoop packet fuel s ≠ .unfinished ∧
      ∀ text e, scanLoop packet fuel s = .name text e ↔ Completes packet s text e := by
  induction fuel generalizing s with
  | zero => omega
  | succ fuel ih =>
      have hturn := turn_spec packet h
      unfold scanLoop
      cases hres : turn packet s with
      | stop result =>
          rw [hres] at hturn
          exact hturn
      | next s' =>
          rw [hres] at hturn
          obtain ⟨hloop, hless, hsame⟩ := hturn
          obtain ⟨hin, hdone, hname⟩ := ih hloop (by omega)
          exact ⟨hin, hdone, fun text e => (hname text e).trans (hsame text e)⟩

/-- A name is well formed at `start`: at most 8 pointers, and a text of at
most 253 bytes. -/
def EncodesName (packet : Bytes) (start : Nat) (text : Bytes) (encodedEnd : Nat) : Prop :=
  ∃ jumps labels, Encodes packet start jumps labels encodedEnd ∧ jumps ≤ maximumJumps ∧
    dotted labels = text ∧ text.length ≤ maximumNameBytes

theorem decodeDnsName_loop (packet : Bytes) (start : Nat) :
    decodeDnsName packet start ≠ .outOfBounds ∧ decodeDnsName packet start ≠ .unfinished ∧
      ∀ text e, decodeDnsName packet start = .name text e ↔
        Completes packet ⟨start, 0, false, [], start⟩ text e := by
  refine scanLoop_spec packet ⟨Nat.zero_le _, Nat.zero_le _⟩ ?_
  simp only [remaining, maximumJumps]
  omega

/-- **Decoding stays inside the packet and ends**, for any bytes and any
start. -/
theorem decodeDnsName_sound (packet : Bytes) (start : Nat) :
    decodeDnsName packet start ≠ .outOfBounds ∧ decodeDnsName packet start ≠ .unfinished :=
  ⟨(decodeDnsName_loop packet start).1, (decodeDnsName_loop packet start).2.1⟩

/-- **Decoding accepts exactly the well-formed names**, and finds their text
and their end. -/
theorem decodeDnsName_eq_name {packet text : Bytes} {start e : Nat} :
    decodeDnsName packet start = .name text e ↔ EncodesName packet start text e := by
  rw [(decodeDnsName_loop packet start).2.2 text e]
  constructor
  · intro hparts
    obtain ⟨jumps, labels, stop, henc, hjumps, htext, hlen, he⟩ := hparts
    simp only [Bool.false_eq_true, if_false] at he
    subst he
    refine ⟨jumps, labels, henc, by simpa using hjumps, ?_, hlen⟩
    rw [← htext]
    exact (appendLabels_dotted henc.label_pos).symm
  · intro hparts
    obtain ⟨jumps, labels, henc, hjumps, htext, hlen⟩ := hparts
    refine ⟨jumps, labels, e, henc, by simpa using hjumps, ?_, hlen, rfl⟩
    rw [← htext]
    exact appendLabels_dotted henc.label_pos

/-- The name `a.bc`, whose second label stands behind a pointer. -/
example : decodeDnsName [1, 97, 0xc0, 4, 2, 98, 99, 0] 0 = .name [97, 46, 98, 99] 4 := by
  decide

end Dns
