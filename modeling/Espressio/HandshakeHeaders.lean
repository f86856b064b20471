import Espressio.HeaderLines
import Espressio.NetworkBytes
import Espressio.WebResult

/-!
# The header block of a client's handshake

`BuildNativeHeaders` writes the headers of a configuration into one text, which
the native client reads as a C string.  Each header is checked on its own:
`headerIsSafe` refuses the names the handshake uses itself, the bytes that
could end a name, and in a value the two bytes that end a line.

What it lets through is a NUL in a value.  The native client reads the block up
to there, so `accepted_iff` holds of the collections whose values have none.
-/

namespace WebSocketClient

open NetworkBytes Web HeaderLines

/-- `MaximumHandshakeHeaderCount`. -/
def maximumHandshakeHeaderCount : Nat := 64

/-- A header handed to the platform.  Both texts are in memory, so that a
32-bit `size_t` holds the size of their line. -/
structure WebClientHeader where
  name : Bytes
  value : Bytes
  fits : name.length + value.length + 4 < 4294967296
  deriving DecidableEq

/-- `IWebClientHeaders`: their number, and what each index gives. -/
structure WebClientHeaders where
  count : Nat
  header : Nat → Option WebClientHeader

/-- `LowerAscii`. -/
def lowerAscii (value : UInt8) : UInt8 := if value ≥ 65 && value ≤ 90 then value + 32 else value

/-- `HeaderNameEquals`. -/
def headerNameEquals (left right : Bytes) : Bool :=
  if left.length ≠ right.length then false
  else (left.zip right).all fun (a, b) => lowerAscii a = lowerAscii b

/-- `IsReservedHandshakeHeader`. -/
def isReservedHandshakeHeader (name : Bytes) : Bool :=
  headerNameEquals name (ascii "Host") ||
    headerNameEquals name (ascii "Connection") ||
    headerNameEquals name (ascii "Upgrade") ||
    headerNameEquals name (ascii "Sec-WebSocket-Key") ||
    headerNameEquals name (ascii "Sec-WebSocket-Version") ||
    headerNameEquals name (ascii "Sec-WebSocket-Protocol")

/-- `HeaderIsSafe`. -/
def headerIsSafe (header : WebClientHeader) : Bool :=
  if header.name = [] || isReservedHandshakeHeader header.name then false
  else if header.name.any fun c => c ≤ 0x20 || c ≥ 0x7f || c = 58 then false
  else !header.value.contains 13 && !header.value.contains 10

/-- The loop of `BuildNativeHeaders` over the indices left, and the text
written so far. -/
def appendHeaders (header : Nat → Option WebClientHeader) (maximumBytes : Nat) :
    List Nat → Bytes → WebResult × Bytes
  | [], headers => (.success, headers)
  | index :: rest, headers =>
      match header index with
      | none => (.failure .invalidConfiguration .none, headers)
      | some h =>
          if !headerIsSafe h then (.failure .invalidConfiguration .none, headers)
          else
            let lineBytes := h.name.length + h.value.length + 4
            if lineBytes > maximumBytes || headers.length > maximumBytes - lineBytes then
              (.failure .resourceExhausted .none, headers)
            else
              appendHeaders header maximumBytes rest
                (headers ++ h.name ++ ascii ": " ++ h.value ++ ascii "\r\n")

/-- `BuildNativeHeaders`. -/
def buildNativeHeaders (headers : Option WebClientHeaders) (maximumBytes : Nat) :
    WebResult × Bytes :=
  match headers with
  | none => (.success, [])
  | some headers =>
      if headers.count > maximumHandshakeHeaderCount then (.failure .resourceExhausted .none, [])
      else appendHeaders headers.header maximumBytes (List.range headers.count) []

/-! ### Reading the block -/

/-- The lines of a text, each parted at its first colon and blank.  It is
`none` if something stands behind the last line end, or a line has no colon
and blank. -/
def readFields (block : Bytes) : Option (List (Bytes × Bytes)) :=
  let lines := segments 13 10 block
  if lines.getLast? = some [] then lines.dropLast.mapM (cut 58 32) else none

/-- The names the handshake uses itself. -/
def reservedNames : List Bytes :=
  [ascii "Host", ascii "Connection", ascii "Upgrade", ascii "Sec-WebSocket-Key",
    ascii "Sec-WebSocket-Version", ascii "Sec-WebSocket-Protocol"]

/-- Equal up to the case of letters. -/
def SameName (left right : Bytes) : Prop := left.map lowerAscii = right.map lowerAscii

/-- The headers a collection gives, in order. -/
def given (headers : Option WebClientHeaders) : List WebClientHeader :=
  match headers with
  | none => []
  | some headers => (List.range headers.count).filterMap headers.header

/-- The line of a header, without its end. -/
def WebClientHeader.line (h : WebClientHeader) : Bytes := h.name ++ 58 :: 32 :: h.value

/-- The text of headers written one after the other. -/
def blockOf (headers : List WebClientHeader) : Bytes := joined 13 10 (headers.map (·.line))

variable {h : WebClientHeader} {hs : List WebClientHeader} {maximumBytes : Nat}

theorem headerNameEquals_iff {left right : Bytes} :
    headerNameEquals left right = true ↔ SameName left right := by
  rw [SameName, ← zip_all_iff_map_eq]
  by_cases hlen : left.length = right.length <;> simp [headerNameEquals, hlen]

theorem not_reserved {name reserved : Bytes} (h : isReservedHandshakeHeader name = false)
    (hreserved : reserved ∈ reservedNames) : ¬ SameName name reserved := by
  intro hsame
  rw [← headerNameEquals_iff] at hsame
  simp only [isReservedHandshakeHeader, Bool.or_eq_false_iff] at h
  simp only [reservedNames, List.mem_cons, List.not_mem_nil, or_false] at hreserved
  rcases hreserved with rfl | rfl | rfl | rfl | rfl | rfl <;> simp_all

/-- What the per-character checks let through. -/
theorem of_headerIsSafe (hsafe : headerIsSafe h = true) :
    isReservedHandshakeHeader h.name = false ∧
      (∀ c ∈ h.name, 0x20 < c ∧ c < 0x7f ∧ c ≠ 58) ∧
      (13 : UInt8) ∉ h.value ∧ (10 : UInt8) ∉ h.value := by
  unfold headerIsSafe at hsafe
  split_ifs at hsafe with hname hbytes
  refine ⟨by simp_all, ?_, by simp_all, by simp_all⟩
  intro c hc
  have hbyte : ¬ (c ≤ 0x20 ∨ c ≥ 0x7f ∨ c = 58) := by
    intro hbad
    exact hbytes (List.any_eq_true.mpr ⟨c, hc, by simpa [or_assoc] using hbad⟩)
  grind

/-- Headers whose lines hold no line end are what the block is read as. -/
theorem segments_blockOf (hline : ∀ h ∈ hs, (13 : UInt8) ∉ h.line) :
    segments 13 10 (blockOf hs) = hs.map (·.line) ++ [[]] := by
  induction hs with
  | nil => rfl
  | cons h hs ih =>
      obtain ⟨hfirst, hrest⟩ := List.forall_mem_cons.mp hline
      have hblock : blockOf (h :: hs) = h.line ++ 13 :: 10 :: blockOf hs := by simp [blockOf]
      rw [hblock, segments_append (by decide), segments_of_not_mem hfirst, ih hrest]
      rfl

theorem readFields_blockOf (hsafe : ∀ h ∈ hs, headerIsSafe h = true) :
    readFields (blockOf hs) = some (hs.map fun h => (h.name, h.value)) := by
  have hline : ∀ h ∈ hs, (13 : UInt8) ∉ h.line := by
    intro h hmem
    obtain ⟨-, hname, hcr, -⟩ := of_headerIsSafe (hsafe h hmem)
    have hnameCr : (13 : UInt8) ∉ h.name := fun hc => absurd (hname 13 hc).1 (by decide)
    simp [WebClientHeader.line, hnameCr, hcr]
  have hcut : ∀ h ∈ hs, cut 58 32 h.line = some (h.name, h.value) := by
    intro h hmem
    obtain ⟨-, hname, -, -⟩ := of_headerIsSafe (hsafe h hmem)
    exact cut_append (fun hc => (hname 58 hc).2.2 rfl) h.value
  have hfields : (hs.map (·.line)).mapM (cut 58 32) = some (hs.map fun h => (h.name, h.value)) := by
    apply mapM_eq_some_iff.mpr
    rw [List.map_map, List.map_map]
    exact List.map_congr_left hcut
  simp [readFields, segments_blockOf hline, hfields]

/-- A text is the block of the headers read from it. -/
theorem eq_blockOf_of_readFields {block : Bytes}
    (hread : readFields block = some (hs.map fun h => (h.name, h.value))) :
    block = blockOf hs := by
  simp only [readFields] at hread
  split_ifs at hread with hlast
  obtain ⟨lines, hlines⟩ := List.getLast?_eq_some_iff.mp hlast
  rw [hlines, List.dropLast_concat, mapM_eq_some_iff] at hread
  have hsame := eq_map_of_cut hread
  rw [List.map_map] at hsame
  rw [eq_joined_of_segments hlines, hsame, List.append_nil]
  rfl

/-! ### What is accepted -/

/-- A text that a loop accepted is the block of safe headers, and fits. -/
theorem appendHeaders_success {header : Nat → Option WebClientHeader} {indices : List Nat}
    {before block : Bytes}
    (h : appendHeaders header maximumBytes indices before = (.success, block))
    (hbefore : before.length ≤ maximumBytes) :
    (∀ h ∈ indices.filterMap header, headerIsSafe h = true) ∧
      block = before ++ blockOf (indices.filterMap header) ∧ block.length ≤ maximumBytes := by
  induction indices generalizing before with
  | nil =>
      cases h
      simp [blockOf, hbefore]
  | cons index rest ih =>
      unfold appendHeaders at h
      cases hheader : header index with
      | none => simp [hheader] at h
      | some first =>
          simp only [hheader] at h
          split_ifs at h with hunsafe hlong
          · cases h
          · cases h
          · have hroom : (before ++ first.name ++ ascii ": " ++ first.value ++
                ascii "\r\n").length ≤ maximumBytes := by
              have hcolon : (ascii ": ").length = 2 := by decide
              have hend : (ascii "\r\n").length = 2 := by decide
              simp only [Bool.or_eq_true, decide_eq_true_eq, not_or, Nat.not_lt, gt_iff_lt] at hlong
              simp only [List.length_append, hcolon, hend]
              omega
            obtain ⟨hsafe, hblock, hfits⟩ := ih h hroom
            refine ⟨?_, ?_, hfits⟩
            · rw [List.filterMap_cons_some hheader]
              exact List.forall_mem_cons.mpr ⟨by simpa using hunsafe, hsafe⟩
            · have hcolon : ascii ": " = [58, 32] := by decide
              have hend : ascii "\r\n" = [13, 10] := by decide
              rw [hblock, List.filterMap_cons_some hheader, hcolon, hend]
              simp [blockOf, WebClientHeader.line]

/-! ### What the native client sees -/

/-- A C string parser finds exactly the headers, within the size allowed, and
none of the names the handshake uses itself. -/
def SeenAs (headers : List WebClientHeader) (maximumBytes : Nat) (text : Bytes) : Prop :=
  readFields text = some (headers.map fun h => (h.name, h.value)) ∧
    text.length ≤ maximumBytes ∧
    ∀ fields, readFields text = some fields → ∀ field ∈ fields, ∀ reserved ∈ reservedNames,
      ¬ SameName field.1 reserved

theorem mem_blockOf {c : UInt8} : c ∈ blockOf hs ↔
    (∃ h ∈ hs, c ∈ h.line) ∨ (hs ≠ [] ∧ (c = 13 ∨ c = 10)) := by
  induction hs with
  | nil => simp [blockOf]
  | cons h hs ih =>
      have hblock : blockOf (h :: hs) = h.line ++ 13 :: 10 :: blockOf hs := by simp [blockOf]
      simp only [hblock, List.mem_append, List.mem_cons, ih]
      grind

theorem buildNativeHeaders_success {headers : Option WebClientHeaders} {block : Bytes}
    (h : buildNativeHeaders headers maximumBytes = (.success, block)) :
    (∀ h ∈ given headers, headerIsSafe h = true) ∧ block = blockOf (given headers) ∧
      block.length ≤ maximumBytes := by
  cases headers with
  | none =>
      cases h
      simp [given, blockOf]
  | some headers =>
      simp only [buildNativeHeaders] at h
      split_ifs at h
      · cases h
      · exact appendHeaders_success h (Nat.zero_le _)

/-- **The block is read as it was given unless a value holds a NUL.** -/
theorem accepted_iff {headers : Option WebClientHeaders} {block : Bytes}
    (h : buildNativeHeaders headers maximumBytes = (.success, block)) :
    SeenAs (given headers) maximumBytes (cString block) ↔
      ∀ header ∈ given headers, (0 : UInt8) ∉ header.value := by
  obtain ⟨hsafe, hblock, hfits⟩ := buildNativeHeaders_success h
  have hnul : cString block = block ↔ ∀ header ∈ given headers, (0 : UInt8) ∉ header.value := by
    rw [cString_eq_self_iff, hblock, mem_blockOf]
    constructor
    · intro hclean header hmem hzero
      exact hclean (Or.inl ⟨header, hmem, by simp [WebClientHeader.line, hzero]⟩)
    · rintro hvalues (⟨header, hmem, hzero⟩ | ⟨-, hend⟩)
      · -- The NUL is not in the name, whose bytes are above the blank.
        have hname : (0 : UInt8) ∉ header.name := fun hc =>
          absurd ((of_headerIsSafe (hsafe header hmem)).2.1 0 hc).1 (by decide)
        simp [WebClientHeader.line, hname, hvalues header hmem] at hzero
      · simp at hend
  constructor
  · rintro ⟨hread, -, -⟩
    exact hnul.mp ((eq_blockOf_of_readFields hread).trans hblock.symm)
  · intro hvalues
    rw [hnul.mpr hvalues, hblock]
    have hread := readFields_blockOf hsafe
    refine ⟨hread, hblock ▸ hfits, ?_⟩
    intro fields hfields field hfield reserved hreserved
    rw [hread, Option.some_inj] at hfields
    subst hfields
    obtain ⟨header, hmem, rfl⟩ := List.mem_map.mp hfield
    exact not_reserved (of_headerIsSafe (hsafe header hmem)).1 hreserved

/-- Two headers, the first with a NUL or without. -/
def tokenHeaders (token : Bytes) (hfits : 7 + token.length + 4 < 4294967296) :
    WebClientHeaders where
  count := 2
  header
    | 0 => some ⟨ascii "X-Token", token, hfits⟩
    | 1 => some ⟨ascii "X-Key", ascii "k", by decide⟩
    | _ => none

theorem accepted_iff_token :
    SeenAs (given (some (tokenHeaders (ascii "ab") (by decide)))) 1024
        (cString (buildNativeHeaders (some (tokenHeaders (ascii "ab") (by decide))) 1024).2) ↔
      ∀ header ∈ given (some (tokenHeaders (ascii "ab") (by decide))), (0 : UInt8) ∉ header.value :=
  accepted_iff (by decide)

/-- A value `a`, NUL, `b`: the block ends in the first line. -/
theorem nul_value_cuts_block :
    let headers := some (tokenHeaders [97, 0, 98] (by decide))
    let built := buildNativeHeaders headers 1024
    built.1 = .success ∧ cString built.2 = ascii "X-Token: a" ∧
      ¬ SeenAs (given headers) 1024 (cString built.2) := by
  refine ⟨by decide, by decide, ?_⟩
  rintro ⟨hread, -, -⟩
  exact absurd hread (by decide)

end WebSocketClient
