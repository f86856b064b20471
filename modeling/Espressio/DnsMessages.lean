import Espressio.CompressedNames

/-!
# Messages of the domain name system

`parse` reads a whole message: the header, as many questions and records as its
four counts say, and nothing behind them.  A name is read where it stands, up
to its zero byte or its first pointer; what a pointer leads to is the subject
of `CompressedNames`.

Each of the parsers comes with the bytes it reads back: `parseName_encodes`,
`parseRecord_bytes`, and `parseMany_flatMap` for several in a row.
-/

namespace DnsMessages

open NetworkBytes CompressedNames

/-- The twelve bytes in front of every message. -/
structure Header where
  id : UInt16
  response : Bool
  opcode : UInt8
  authoritative : Bool
  truncated : Bool
  recursionDesired : Bool
  recursionAvailable : Bool
  reserved : UInt8
  responseCode : UInt8
  questionCount : UInt16
  answerCount : UInt16
  authorityCount : UInt16
  additionalCount : UInt16
  deriving DecidableEq, Repr

structure Question where
  name : Bytes
  type : UInt16
  recordClass : UInt16
  deriving DecidableEq, Repr

structure Record where
  owner : Bytes
  type : UInt16
  recordClass : UInt16
  ttl : UInt32
  data : Bytes
  deriving DecidableEq, Repr

structure Message where
  header : Header
  questions : List Question
  answers : List Record
  authorities : List Record
  additional : List Record
  deriving DecidableEq, Repr

/-- What is read, and what is left to be read. -/
abbrev Parser (α : Type) : Type := Bytes → Option (α × Bytes)

def bit (b : UInt8) (i : Nat) : Bool := b.toNat.testBit i

def parseHeader : Parser Header
  | i₀ :: i₁ :: f₀ :: f₁ :: q₀ :: q₁ :: a₀ :: a₁ :: n₀ :: n₁ :: r₀ :: r₁ :: rest =>
      some (
        { id := join16 i₀ i₁
          response := bit f₀ 7
          opcode := (f₀ >>> 3) &&& 0x0f
          authoritative := bit f₀ 2
          truncated := bit f₀ 1
          recursionDesired := bit f₀ 0
          recursionAvailable := bit f₁ 7
          reserved := (f₁ >>> 4) &&& 0x07
          responseCode := f₁ &&& 0x0f
          questionCount := join16 q₀ q₁
          answerCount := join16 a₀ a₁
          authorityCount := join16 n₀ n₁
          additionalCount := join16 r₀ r₁ }, rest)
  | _ => none

/-- A name where it stands.  The first argument is how many bytes of a label
are still to come. -/
def parseName : Nat → Parser Bytes
  | _, [] => none
  | left + 1, b :: rest => (parseName left rest).map fun (name, rest) => (b :: name, rest)
  | 0, b :: rest =>
      if b = 0 then some ([b], rest)
      else if 192 ≤ b.toNat then
        match rest with
        | [] => none
        | low :: rest => some ([b, low], rest)
      else if b.toNat ≤ 63 then
        (parseName b.toNat rest).map fun (name, rest) => (b :: name, rest)
      else none

def parseQuestion : Parser Question := fun bytes => do
  let (name, rest) ← parseName 0 bytes
  match rest with
  | t₀ :: t₁ :: c₀ :: c₁ :: rest => some (⟨name, join16 t₀ t₁, join16 c₀ c₁⟩, rest)
  | _ => none

def parseRecord : Parser Record := fun bytes => do
  let (owner, rest) ← parseName 0 bytes
  match rest with
  | t₀ :: t₁ :: c₀ :: c₁ :: l₀ :: l₁ :: l₂ :: l₃ :: n₀ :: n₁ :: rest =>
      let length := (join16 n₀ n₁).toNat
      if length ≤ rest.length then
        some (⟨owner, join16 t₀ t₁, join16 c₀ c₁, join32 l₀ l₁ l₂ l₃, rest.take length⟩,
          rest.drop length)
      else none
  | _ => none

def parseMany {α : Type} (parser : Parser α) : Nat → Parser (List α)
  | 0, bytes => some ([], bytes)
  | count + 1, bytes => do
      let (first, rest) ← parser bytes
      let (others, rest) ← parseMany parser count rest
      some (first :: others, rest)

/-- The whole of the bytes as one message. -/
def parse (bytes : Bytes) : Option Message := do
  let (header, rest) ← parseHeader bytes
  let (questions, rest) ← parseMany parseQuestion header.questionCount.toNat rest
  let (answers, rest) ← parseMany parseRecord header.answerCount.toNat rest
  let (authorities, rest) ← parseMany parseRecord header.authorityCount.toNat rest
  let (additional, rest) ← parseMany parseRecord header.additionalCount.toNat rest
  if rest = [] then some ⟨header, questions, answers, authorities, additional⟩ else none

/-! ## What the parsers read back -/

/-- The bytes are a name, whatever follows them. -/
def IsName (name : Bytes) : Prop := ∀ rest, parseName 0 (name ++ rest) = some (name, rest)

/-- The rest of a label is read byte by byte. -/
theorem parseName_label (text rest : Bytes) :
    parseName text.length (text ++ rest) =
      (parseName 0 rest).map fun (name, rest) => (text ++ name, rest) := by
  induction text with
  | nil => simp
  | cons b text ih =>
      rw [List.length_cons, List.cons_append, parseName, ih]
      cases parseName 0 rest with
      | none => rfl
      | some found => rfl

theorem isName_root : IsName [0] := fun rest => by simp [parseName]

theorem isName_pointer {hi lo : UInt8} (large : 192 ≤ hi.toNat) : IsName [hi, lo] := by
  intro rest
  have hne : hi ≠ 0 := by
    rintro rfl
    simp at large
  simp [parseName, hne, large]

theorem IsName.label {length : UInt8} {text name : Bytes} (h : IsName name)
    (htext : text.length = length.toNat) (positive : 1 ≤ length.toNat)
    (small : length.toNat ≤ 63) : IsName (length :: text ++ name) := by
  intro rest
  have hne : length ≠ 0 := by
    rintro rfl
    simp at positive
  rw [List.cons_append, List.cons_append, parseName.eq_def]
  dsimp only
  rw [if_neg hne, if_neg (by omega), if_pos small, ← htext, List.append_assoc, parseName_label,
    h rest]
  rfl

theorem drop_eq_slice_append {packet text : Bytes} {start n : Nat}
    (h : slice packet start n = some text) :
    packet.drop start = text ++ packet.drop (start + n) := by
  unfold slice at h
  split at h
  · cases h
    rw [← List.drop_drop, List.take_append_drop]
  · cases h

/-- **An encoding stands as a name**: its bytes up to its end are one, by
induction on the encoding. -/
theorem parseName_encodes {packet : Bytes} {start jumps stop : Nat} {labels : List Bytes}
    (h : Encodes packet start jumps labels stop) :
    ∃ name, IsName name ∧ packet.drop start = name ++ packet.drop stop ∧
      start + name.length = stop := by
  have hhead : ∀ {i : Nat} {b : UInt8}, packet[i]? = some b →
      packet.drop i = b :: packet.drop (i + 1) := by
    intro i b hb
    obtain ⟨hlt, rfl⟩ := List.getElem?_eq_some_iff.mp hb
    exact List.drop_eq_getElem_cons hlt
  induction h with
  | root _ zero => exact ⟨[0], isName_root, hhead zero, rfl⟩
  | @label start jumps stop labels length text _ head positive small body rest ih =>
      obtain ⟨name, hname, hdrop, hlen⟩ := ih
      have htext := length_slice body
      refine ⟨length :: text ++ name, hname.label htext positive small, ?_, ?_⟩
      · rw [hhead head, drop_eq_slice_append body, hdrop]
        simp
      · simp only [List.cons_append, List.length_cons, List.length_append, htext]
        omega
  | @pointer start jumps stop labels hi lo _ _ head large low inside rest ih =>
      refine ⟨[hi, lo], isName_pointer large, ?_, rfl⟩
      rw [hhead head, hhead low]
      rfl

theorem parseQuestion_bytes {name : Bytes} (h : IsName name) (t₀ t₁ c₀ c₁ : UInt8)
    (rest : Bytes) :
    parseQuestion (name ++ [t₀, t₁, c₀, c₁] ++ rest) =
      some (⟨name, join16 t₀ t₁, join16 c₀ c₁⟩, rest) := by
  unfold parseQuestion
  rw [List.append_assoc, h]
  rfl

theorem parseRecord_bytes {owner : Bytes} (h : IsName owner) (type recordClass length : UInt16)
    (ttl : UInt32) {data : Bytes} (hdata : data.length = length.toNat) (rest : Bytes) :
    parseRecord (owner ++ bytes16 type ++ bytes16 recordClass ++ bytes32 ttl ++ bytes16 length ++
      data ++ rest) = some (⟨owner, type, recordClass, ttl, data⟩, rest) := by
  unfold parseRecord
  simp only [List.append_assoc]
  rw [h]
  simp only [bytes16, bytes32, List.cons_append, List.nil_append, Option.bind_eq_bind,
    Option.bind_some, join16_split, join32_split, ← hdata, List.length_append]
  rw [if_pos (Nat.le_add_right _ _)]
  simp

/-- **Several in a row.** -/
theorem parseMany_flatMap {α β : Type} {parser : Parser α} {bytes : β → Bytes} {value : β → α}
    (h : ∀ x rest, parser (bytes x ++ rest) = some (value x, rest)) (xs : List β)
    (rest : Bytes) :
    parseMany parser xs.length (xs.flatMap bytes ++ rest) = some (xs.map value, rest) := by
  induction xs with
  | nil => rfl
  | cons x xs ih =>
      rw [List.length_cons, parseMany, List.flatMap_cons, List.append_assoc, h]
      simp only [Option.bind_eq_bind, Option.bind_some]
      rw [ih]
      rfl

/-- A message with one question and nothing but answers behind it. -/
theorem parse_answers {bytes rest records : Bytes} {header : Header} {question : Question}
    {answers : List Record} (hheader : parseHeader bytes = some (header, rest))
    (hone : header.questionCount = 1) (hauthorities : header.authorityCount = 0)
    (hadditional : header.additionalCount = 0)
    (hquestion : parseQuestion rest = some (question, records))
    (hanswers : parseMany parseRecord header.answerCount.toNat records = some (answers, [])) :
    parse bytes = some ⟨header, [question], answers, [], []⟩ := by
  unfold parse
  rw [hheader]
  simp only [Option.bind_eq_bind, Option.bind_some, hone, hauthorities, hadditional,
    UInt16.toNat_one, UInt16.toNat_zero, parseMany, hquestion, hanswers]
  rfl

/-- A query for the addresses of `a`. -/
example : (parse [18, 52, 1, 0, 0, 1, 0, 0, 0, 0, 0, 0, 1, 97, 0, 0, 1, 0, 1]).map
    (fun m => (m.header.id, m.header.recursionDesired, m.questions)) =
      some (0x1234, true, [⟨[1, 97, 0], 1, 1⟩]) := by
  decide

end DnsMessages
