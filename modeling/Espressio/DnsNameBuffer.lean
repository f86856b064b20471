import Espressio.DnsName

/-!
# The array a name is decoded into

`DecodeDnsName` writes its text into an array of 254 characters of its caller,
and counts in `outputLength` how many it has written.  `decodeInto` is its loop
with that array, where `decodeDnsName` has the text as a list.  A write that
would reach behind the first 253 bytes shows as `outOfBounds`, like a read that
falls outside the packet.

`decodeInto_matches` says that the two loops go in step: what is written of the
array is the list.  So the array's loop has what is proved of the list's.
-/

namespace Dns

open NetworkBytes CompressedNames

def nameArrayBytes : Nat := 254

theorem length_overwrite {buffer chunk : Bytes} {offset : Nat}
    (h : offset + chunk.length ≤ buffer.length) :
    (overwrite buffer offset chunk).length = buffer.length := by
  simp only [overwrite, List.length_append, List.length_take, List.length_drop]
  omega

/-- `std::array<char, 254>`. -/
structure NameArray where
  bytes : Bytes
  room : bytes.length = nameArrayBytes

/-- A copy into the array; `none` if it would reach behind the first 253
bytes. -/
def NameArray.write (array : NameArray) (offset : Nat) (chunk : Bytes) : Option NameArray :=
  if h : offset + chunk.length ≤ maximumNameBytes then
    some ⟨overwrite array.bytes offset chunk, by
      rw [length_overwrite, array.room]
      rw [array.room]
      exact Nat.le_trans h (by decide)⟩
  else none

/-- The variables of the loop, with the caller's. -/
structure BufferScan where
  cursor : Nat
  jumps : Nat
  jumped : Bool
  output : NameArray
  outputLength : Nat
  encodedEnd : Nat

/-- How the call ends. -/
inductive BufferDecoded
  | outOfBounds
  | unfinished
  | returned (accepted : Bool) (scan : BufferScan)

inductive BufferTurn
  | stop (result : BufferDecoded)
  | next (scan : BufferScan)

/-- The first byte is a pointer's. -/
def followPointer (packet : Bytes) (s : BufferScan) (length : UInt8) : BufferTurn :=
  if packet.length ≤ s.cursor + 1 ∨ maximumJumps < s.jumps + 1 then .stop (.returned false s)
  else
    match packet[s.cursor + 1]? with
    | none => .stop .outOfBounds
    | some low =>
        let pointer := pointerTarget length low
        if packet.length ≤ pointer then .stop (.returned false s)
        else
          .next { s with
            cursor := pointer
            jumps := s.jumps + 1
            jumped := true
            encodedEnd := if s.jumped then s.encodedEnd else s.cursor + 2 }

/-- The dot in front of every label but the first. -/
def writeDot (s : BufferScan) : BufferTurn :=
  if s.outputLength ≠ 0 then
    if nameArrayBytes - 1 ≤ s.outputLength then .stop (.returned false s)
    else
      match s.output.write s.outputLength [46] with
      | none => .stop .outOfBounds
      | some output => .next { s with output := output, outputLength := s.outputLength + 1 }
  else .next s

/-- The `memcpy` of a label. -/
def writeLabel (packet : Bytes) (s : BufferScan) (length : UInt8) : BufferTurn :=
  if maximumNameBytes < s.outputLength + length.toNat then .stop (.returned false s)
  else
    match slice packet s.cursor length.toNat with
    | none => .stop .outOfBounds
    | some text =>
        match s.output.write s.outputLength text with
        | none => .stop .outOfBounds
        | some output =>
            .next { s with
              cursor := s.cursor + length.toNat
              output := output
              outputLength := s.outputLength + length.toNat
              encodedEnd := if s.jumped then s.encodedEnd else s.cursor + length.toNat }

/-- The first byte is a label's length. -/
def copyLabel (packet : Bytes) (s : BufferScan) (length : UInt8) : BufferTurn :=
  let s := { s with cursor := s.cursor + 1 }
  if packet.length < s.cursor + length.toNat then .stop (.returned false s)
  else
    match writeDot s with
    | .stop result => .stop result
    | .next s => writeLabel packet s length

def turnInto (packet : Bytes) (s : BufferScan) : BufferTurn :=
  if packet.length ≤ s.cursor then .stop (.returned false s)
  else
    match packet[s.cursor]? with
    | none => .stop .outOfBounds
    | some length =>
        if length = 0 then
          let s := { s with encodedEnd := if s.jumped then s.encodedEnd else s.cursor + 1 }
          .stop (.returned (s.outputLength ≤ 253) s)
        else if length &&& 0xc0 = 0xc0 then followPointer packet s length
        else if length &&& 0xc0 ≠ 0 ∨ 63 < length.toNat then .stop (.returned false s)
        else copyLabel packet s length

def scanInto (packet : Bytes) : Nat → BufferScan → BufferDecoded
  | 0, _ => .unfinished
  | fuel + 1, s =>
      match turnInto packet s with
      | .stop result => result
      | .next s' => scanInto packet fuel s'

/-- `Detail::DecodeDnsName`, with the array that the caller passes. -/
def decodeInto (packet : Bytes) (start : Nat) (output : NameArray) : BufferDecoded :=
  scanInto packet ((maximumJumps + 1) * (packet.length + 1)) ⟨start, 0, false, output, 0, start⟩

/-! ## The two loops in step -/

/-- What has been written of the array. -/
def BufferScan.text (s : BufferScan) : Bytes := s.output.bytes.take s.outputLength

/-- The two loops are at the same place, the array holds the text, and its last
byte is the caller's. -/
structure Tracks (given : NameArray) (s : BufferScan) (t : Scan) : Prop where
  cursor : t.cursor = s.cursor
  jumps : t.jumps = s.jumps
  jumped : t.jumped = s.jumped
  output : t.output = s.text
  fits : s.outputLength ≤ maximumNameBytes
  rest : s.output.bytes.drop maximumNameBytes = given.bytes.drop maximumNameBytes
  encodedEnd : t.encodedEnd = s.encodedEnd

/-- The two calls end alike. -/
def Agrees (given : NameArray) : BufferDecoded → Decoded → Prop
  | .returned true s, .name text encodedEnd =>
      s.text = text ∧ s.encodedEnd = encodedEnd ∧
        s.output.bytes.drop maximumNameBytes = given.bytes.drop maximumNameBytes
  | .returned false s, .malformed =>
      s.output.bytes.drop maximumNameBytes = given.bytes.drop maximumNameBytes
  | .outOfBounds, .outOfBounds => True
  | .unfinished, .unfinished => True
  | _, _ => False

def AgreesTurn (given : NameArray) : BufferTurn → Turn → Prop
  | .stop result, .stop result' => Agrees given result result'
  | .next s, .next t => Tracks given s t
  | _, _ => False

section Tracks

variable {given : NameArray} {packet : Bytes} {s : BufferScan} {t : Scan} {length : UInt8}

theorem Tracks.length_output (h : Tracks given s t) : t.output.length = s.outputLength := by
  have hroom : s.output.bytes.length = 254 := s.output.room
  have hfits : s.outputLength ≤ 253 := h.fits
  rw [h.output, BufferScan.text, List.length_take]
  omega

theorem Tracks.output_ne_nil (h : Tracks given s t) : t.output ≠ [] ↔ s.outputLength ≠ 0 := by
  rw [← h.length_output, ne_eq, ne_eq, List.length_eq_zero_iff]

/-- **A write behind the text** adds the chunk to it. -/
theorem Tracks.write (h : Tracks given s t) {chunk : Bytes}
    (hfits : s.outputLength + chunk.length ≤ maximumNameBytes) :
    ∃ output, s.output.write s.outputLength chunk = some output ∧
      Tracks given { s with output := output, outputLength := s.outputLength + chunk.length }
        { t with output := t.output ++ chunk } := by
  have hroom : s.output.bytes.length = 254 := s.output.room
  have hlimit : s.outputLength + chunk.length ≤ 253 := hfits
  have htake : (s.output.bytes.take s.outputLength ++ chunk).length =
      s.outputLength + chunk.length := by
    rw [List.length_append, List.length_take]
    omega
  refine ⟨_, dif_pos hfits, h.cursor, h.jumps, h.jumped, ?_, hfits, ?_, h.encodedEnd⟩
  · simp only [BufferScan.text, overwrite]
    rw [List.take_left' htake, h.output, BufferScan.text]
  · have hsum : s.outputLength + chunk.length + (253 - (s.outputLength + chunk.length)) =
        253 := by
      omega
    simp only [overwrite, maximumNameBytes]
    rw [List.drop_append, htake, List.drop_eq_nil_of_le (by omega), List.nil_append,
      List.drop_drop, hsum]
    exact h.rest

theorem Tracks.pointer (h : Tracks given s t) :
    AgreesTurn given (followPointer packet s length) (turnPointer packet t length) := by
  unfold followPointer turnPointer
  rw [h.cursor, h.jumps]
  split
  · exact h.rest
  · cases hlow : packet[s.cursor + 1]? with
    | none => trivial
    | some low =>
        dsimp only
        split
        · exact h.rest
        · refine ⟨rfl, rfl, rfl, h.output, h.fits, h.rest, ?_⟩
          dsimp only
          rw [h.jumped, h.encodedEnd]

/-- The dot is written if there is a text before it. -/
theorem Tracks.dot (h : Tracks given s t) :
    (maximumNameBytes ≤ s.outputLength ∧ s.outputLength ≠ 0 ∧
        writeDot s = .stop (.returned false s)) ∨
      ∃ s', writeDot s = .next s' ∧ Tracks given s' { t with output := separate t.output } ∧
        ¬ (t.output ≠ [] ∧ maximumNameBytes ≤ t.output.length) := by
  unfold writeDot separate
  by_cases hzero : s.outputLength = 0
  · have hnil : ¬ t.output ≠ [] := fun hne => h.output_ne_nil.mp hne hzero
    refine Or.inr ⟨s, by rw [if_neg (not_not.mpr hzero)], ?_, fun hne => hnil hne.1⟩
    rw [if_neg hnil]
    exact h
  · rw [if_pos hzero]
    by_cases hfull : nameArrayBytes - 1 ≤ s.outputLength
    · exact Or.inl ⟨hfull, hzero, if_pos hfull⟩
    · have hroom : s.outputLength + [(46 : UInt8)].length ≤ maximumNameBytes := by
        simp only [nameArrayBytes, maximumNameBytes, List.length_singleton] at hfull ⊢
        omega
      obtain ⟨output, hwrite, htracks⟩ := h.write hroom
      refine Or.inr ⟨_, by rw [if_neg hfull, hwrite], ?_, ?_⟩
      · rw [if_pos (h.output_ne_nil.mpr hzero)]
        exact htracks
      · rw [h.length_output]
        exact fun hboth => hfull hboth.2

theorem Tracks.label (h : Tracks given s t) :
    AgreesTurn given (copyLabel packet s length) (turnLabel packet t length) := by
  have hmoved : Tracks given { s with cursor := s.cursor + 1 } { t with cursor := t.cursor + 1 } :=
    ⟨by dsimp only; rw [h.cursor], h.jumps, h.jumped, h.output, h.fits, h.rest, h.encodedEnd⟩
  unfold copyLabel turnLabel
  dsimp only
  rw [h.cursor]
  split
  · exact h.rest
  · rcases hmoved.dot with ⟨hfull, hne, hdot⟩ | ⟨s', hdot, hnext, hroom⟩
    · rw [hdot, if_pos ⟨h.output_ne_nil.mpr hne, h.length_output.symm ▸ hfull⟩]
      exact h.rest
    · rw [hdot, if_neg hroom]
      have hlen := hnext.length_output
      have hcursor : s.cursor + 1 = s'.cursor := by rw [← hnext.cursor, ← h.cursor]
      dsimp only at hlen ⊢
      unfold writeLabel
      rw [hlen, hcursor]
      split
      · exact hnext.rest
      · rename_i hfits
        cases hslice : slice packet s'.cursor length.toNat with
        | none => trivial
        | some text =>
            have htext := length_slice hslice
            have hroom' : s'.outputLength + text.length ≤ maximumNameBytes := by
              rw [htext]
              exact Nat.not_lt.mp hfits
            obtain ⟨output, hwrite, htracks⟩ := hnext.write hroom'
            dsimp only
            rw [hwrite]
            refine ⟨rfl, htracks.jumps, htracks.jumped, ?_, Nat.not_lt.mp hfits, htracks.rest, ?_⟩
            · rw [← htext]
              exact htracks.output
            · have hjumped : t.jumped = s'.jumped := hnext.jumped
              have hend : t.encodedEnd = s'.encodedEnd := hnext.encodedEnd
              dsimp only
              rw [hjumped, hend]

/-- **One turn.** -/
theorem Tracks.turn (packet : Bytes) (h : Tracks given s t) :
    AgreesTurn given (turnInto packet s) (turn packet t) := by
  unfold turnInto Dns.turn
  rw [h.cursor]
  split
  · exact h.rest
  · cases hhead : packet[s.cursor]? with
    | none => trivial
    | some length =>
        dsimp only
        have hfits : s.outputLength ≤ 253 := h.fits
        have hlimit : t.output.length ≤ maximumNameBytes := h.length_output.symm ▸ h.fits
        by_cases hzero : length = 0
        · rw [if_pos hzero, if_pos hzero, if_pos hlimit, decide_eq_true hfits]
          refine ⟨h.output.symm, ?_, h.rest⟩
          dsimp only
          rw [h.jumped, h.encodedEnd]
        · rw [if_neg hzero, if_neg hzero]
          split
          · exact h.pointer
          · split
            · exact h.rest
            · exact h.label

/-- **The whole loop**, by induction on the fuel. -/
theorem Tracks.scan (h : Tracks given s t) (fuel : Nat) :
    Agrees given (scanInto packet fuel s) (scanLoop packet fuel t) := by
  induction fuel generalizing s t with
  | zero => trivial
  | succ fuel ih =>
      have hturn := h.turn packet
      unfold scanInto scanLoop
      cases hs : turnInto packet s with
      | stop result =>
          cases ht : Dns.turn packet t with
          | stop result' => simpa only [hs, ht, AgreesTurn] using hturn
          | next t' => simp only [hs, ht, AgreesTurn] at hturn
      | next s' =>
          cases ht : Dns.turn packet t with
          | stop result' => simp only [hs, ht, AgreesTurn] at hturn
          | next t' =>
              rw [hs, ht] at hturn
              exact ih hturn

end Tracks

/-- **The array's loop ends as the list's does.** -/
theorem decodeInto_matches (packet : Bytes) (start : Nat) (output : NameArray) :
    Agrees output (decodeInto packet start output) (decodeDnsName packet start) :=
  Tracks.scan ⟨rfl, rfl, rfl, rfl, Nat.zero_le _, rfl, rfl⟩ _

/-- **The two ends of a call**: true with a name, or false where there is
none. -/
theorem decodeInto_cases (packet : Bytes) (start : Nat) (output : NameArray) :
    ∃ accepted s, decodeInto packet start output = .returned accepted s ∧
      s.output.bytes.drop maximumNameBytes = output.bytes.drop maximumNameBytes ∧
      ((accepted = true ∧ EncodesName packet start s.text s.encodedEnd) ∨
        (accepted = false ∧ ∀ text encodedEnd, ¬ EncodesName packet start text encodedEnd)) := by
  have hagrees := decodeInto_matches packet start output
  obtain ⟨hin, hdone⟩ := decodeDnsName_sound packet start
  cases hlist : decodeDnsName packet start with
  | outOfBounds => exact absurd hlist hin
  | unfinished => exact absurd hlist hdone
  | malformed =>
      rw [hlist] at hagrees
      cases harray : decodeInto packet start output with
      | outOfBounds | unfinished => simp only [harray, Agrees] at hagrees
      | returned accepted s =>
          rw [harray] at hagrees
          cases accepted with
          | true => simp only [Agrees] at hagrees
          | false =>
              refine ⟨false, s, rfl, hagrees, Or.inr ⟨rfl, ?_⟩⟩
              intro text e hname
              rw [decodeDnsName_eq_name.mpr hname] at hlist
              cases hlist
  | name text e =>
      rw [hlist] at hagrees
      cases harray : decodeInto packet start output with
      | outOfBounds | unfinished => simp only [harray, Agrees] at hagrees
      | returned accepted s =>
          rw [harray] at hagrees
          cases accepted with
          | false => simp only [Agrees] at hagrees
          | true =>
              obtain ⟨htext, hend, hrest⟩ := hagrees
              refine ⟨true, s, rfl, hrest, Or.inl ⟨rfl, ?_⟩⟩
              rw [htext, hend]
              exact decodeDnsName_eq_name.mp hlist

/-- **Decoding into the array**, for any packet, start and array: it ends, it
reads inside the packet and writes inside the array's first 253 bytes; it
returns true exactly for the well-formed names, whose text and end it leaves in
its caller's variables. -/
theorem decodeInto_exact (packet : Bytes) (start : Nat) (output : NameArray) :
    decodeInto packet start output ≠ .outOfBounds ∧
      decodeInto packet start output ≠ .unfinished ∧
      ((∃ s, decodeInto packet start output = .returned true s) ↔
        ∃ text encodedEnd, EncodesName packet start text encodedEnd) ∧
      (∀ s, decodeInto packet start output = .returned true s →
        EncodesName packet start s.text s.encodedEnd) ∧
      ∀ accepted s, decodeInto packet start output = .returned accepted s →
        s.output.bytes.drop maximumNameBytes = output.bytes.drop maximumNameBytes := by
  obtain ⟨accepted, s, hreturned, hrest, hcases⟩ := decodeInto_cases packet start output
  rw [hreturned]
  refine ⟨by simp, by simp, ?_, ?_, ?_⟩
  · rcases hcases with ⟨rfl, hname⟩ | ⟨rfl, hnone⟩
    · exact iff_of_true ⟨s, rfl⟩ ⟨_, _, hname⟩
    · exact iff_of_false (by simp) fun ⟨text, e, hname⟩ => hnone text e hname
  · intro s' heq
    cases heq
    rcases hcases with ⟨-, hname⟩ | ⟨hfalse, -⟩
    · exact hname
    · cases hfalse
  · intro accepted' s' heq
    cases heq
    exact hrest

end Dns
