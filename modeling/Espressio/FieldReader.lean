import Mathlib.Data.List.DropRight
import Espressio.HeaderLines
import Espressio.NetworkBytes

/-!
# Reading the header block of a message

The reader of a message's head: a start line, then one field a line up to the
first empty line, with which the block ends.  A field is a token, a colon and a
value.  A name that is no token, and a value with a carriage return, a line
feed or a NUL, are refused, and with them the whole block; the blanks around a
value do not belong to it.

`readBlock_joined` reads a block that was written line by line, whatever the
lines hold: each is read as the segments it is parted into.
-/

namespace HeaderFields

open NetworkBytes HeaderLines

structure Field where
  name : Bytes
  value : Bytes
  deriving DecidableEq, Repr

/-- The bytes a field name is made of. -/
def isTokenByte (c : UInt8) : Bool :=
  (48 ≤ c && c ≤ 57) || (65 ≤ c && c ≤ 90) || (97 ≤ c && c ≤ 122) ||
    (ascii "!#$%&'*+-.^_|~").contains c || c = 96

def isToken (name : Bytes) : Bool := name ≠ [] && name.all isTokenByte

def isValue (value : Bytes) : Bool := value.all fun c => c ≠ 13 && c ≠ 10 && c ≠ 0

def isBlank (c : UInt8) : Bool := c = 32 || c = 9

/-- A value without the blanks around it. -/
def trim (value : Bytes) : Bytes := (value.dropWhile isBlank).rdropWhile isBlank

def readField (line : Bytes) : Option Field :=
  let name := line.takeWhile (· ≠ 58)
  match line.dropWhile (· ≠ 58) with
  | [] => none
  | _ :: value => if isToken name && isValue value then some ⟨name, trim value⟩ else none

/-- The fields of a block, or `none` if one is refused, if no empty line
follows them, or if the block goes on behind it. -/
def readBlock (block : Bytes) : Option (List Field) :=
  let lines := (segments 13 10 block).tail
  if lines.dropWhile (· ≠ []) = [[], []] then (lines.takeWhile (· ≠ [])).mapM readField
  else none

variable {name value line start : Bytes} {field : Field} {fields : List Field}

theorem not_mem_of_isToken {c : UInt8} (h : isToken name = true) (hc : isTokenByte c = false) :
    c ∉ name := by
  intro hmem
  have hall := (Bool.and_eq_true_iff.mp h).2
  rw [List.all_eq_true.mp hall c hmem] at hc
  cases hc

theorem isValue_iff : isValue value = true ↔
    (13 : UInt8) ∉ value ∧ (10 : UInt8) ∉ value ∧ (0 : UInt8) ∉ value := by
  simp only [isValue, List.all_eq_true, Bool.and_eq_true, decide_eq_true_eq]
  grind

/-- Trimming takes blanks only. -/
theorem mem_trim {c : UInt8} (hmem : c ∈ value) (hc : isBlank c = false) : c ∈ trim value := by
  have hdrop : ∀ l : Bytes, c ∈ l → c ∈ l.dropWhile isBlank := by
    intro l hl
    rw [← List.takeWhile_append_dropWhile (p := isBlank) (l := l), List.mem_append] at hl
    rcases hl with htake | hrest
    · rw [List.mem_takeWhile_imp htake] at hc
      cases hc
    · exact hrest
  rw [trim, List.rdropWhile, List.mem_reverse]
  exact hdrop _ (List.mem_reverse.mpr (hdrop _ hmem))

theorem mem_of_mem_trim {c : UInt8} (hmem : c ∈ trim value) : c ∈ value :=
  (List.dropWhile_sublist isBlank).subset ((List.rdropWhile_prefix isBlank _).subset hmem)

theorem isValue_trim : isValue (trim value) = isValue value := by
  rw [Bool.eq_iff_iff, isValue_iff, isValue_iff]
  constructor
  · rintro ⟨hcr, hlf, hnul⟩
    exact ⟨fun h => hcr (mem_trim h (by decide)), fun h => hlf (mem_trim h (by decide)),
      fun h => hnul (mem_trim h (by decide))⟩
  · rintro ⟨hcr, hlf, hnul⟩
    exact ⟨fun h => hcr (mem_of_mem_trim h), fun h => hlf (mem_of_mem_trim h),
      fun h => hnul (mem_of_mem_trim h)⟩

theorem trim_eq_self (h : ∀ c ∈ value, isBlank c = false) : trim value = value := by
  have hfront : value.dropWhile isBlank = value := by
    cases value with
    | nil => rfl
    | cons c rest => exact List.dropWhile_cons_of_neg (by simp [h c])
  rw [trim, hfront, List.rdropWhile_eq_self_iff]
  intro hne
  simpa using h _ (List.getLast_mem hne)

/-- A line is parted at its first colon. -/
theorem readField_colon (hname : (58 : UInt8) ∉ name) (value : Bytes) :
    readField (name ++ 58 :: value) =
      if isToken name && isValue value then some ⟨name, trim value⟩ else none := by
  have hall : ∀ c ∈ name, (c ≠ 58 : Bool) = true := by
    intro c hc
    have hne : c ≠ 58 := by
      rintro rfl
      exact hname hc
    simpa using hne
  simp only [readField, List.takeWhile_append_of_pos hall, List.dropWhile_append_of_pos hall]
  simp

theorem trim_blank (value : Bytes) : trim (32 :: value) = trim value := by
  simp [trim, isBlank]

/-- Behind a token the line is a field if its value is clean. -/
theorem readField_line (hname : isToken name = true) (value : Bytes) :
    readField (name ++ 58 :: 32 :: value) =
      if isValue value then some ⟨name, trim value⟩ else none := by
  have hrest : isValue (32 :: value) = isValue value := by simp [isValue]
  rw [readField_colon (not_mem_of_isToken hname (by decide)), hname, hrest, trim_blank]
  rfl

/-- What a line that is read as a field looks like. -/
theorem of_readField (h : readField line = some field) :
    isToken field.name = true ∧
      ∃ value, line = field.name ++ 58 :: value ∧ isValue value = true ∧
        field.value = trim value := by
  simp only [readField] at h
  cases hrest : line.dropWhile (· ≠ 58) with
  | nil =>
      rw [hrest] at h
      cases h
  | cons colon value =>
      rw [hrest] at h
      dsimp only at h
      split_ifs at h with hclean
      obtain ⟨hname, hvalue⟩ := Bool.and_eq_true_iff.mp hclean
      cases h
      have hcolon : colon = 58 := by
        have hne : line.dropWhile (· ≠ 58) ≠ [] := by
          rw [hrest]
          exact List.cons_ne_nil _ _
        have hfirst := List.head_dropWhile_not (fun c : UInt8 => c ≠ 58) hne
        simp only [hrest, List.head_cons] at hfirst
        simpa using hfirst
      refine ⟨hname, value, ?_, hvalue, rfl⟩
      calc
        line = line.takeWhile (· ≠ 58) ++ line.dropWhile (· ≠ 58) :=
          List.takeWhile_append_dropWhile.symm
        _ = line.takeWhile (· ≠ 58) ++ 58 :: value := by rw [hrest, hcolon]

@[simp] theorem readField_nil : readField [] = none := rfl

/-- Lines that are all read as fields hold no empty one. -/
theorem ne_nil_of_readField {lines : List Bytes} (h : lines.map readField = fields.map some) :
    ∀ line ∈ lines, line ≠ [] := by
  rintro line hmem rfl
  have hnone : none ∈ fields.map some := by
    rw [← h]
    exact List.mem_map.mpr ⟨[], hmem, rfl⟩
  obtain ⟨f, -, hf⟩ := List.mem_map.mp hnone
  cases hf

/-- What is written line by line is parted where any of the lines is. -/
theorem segments_joined (lines : List Bytes) :
    segments 13 10 (joined 13 10 lines ++ [13, 10]) =
      lines.flatMap (segments 13 10) ++ [[], []] := by
  induction lines with
  | nil => rfl
  | cons line lines ih =>
      rw [joined_cons, List.append_assoc, List.cons_append, List.cons_append,
        segments_append (by decide), ih, List.flatMap_cons, List.append_assoc]

/-- **Reading what was written.**  A start line, lines that each may part into
several, and an empty line are read as the fields of all the parts. -/
theorem readBlock_joined (hstart : (13 : UInt8) ∉ start) (lines : List Bytes) :
    readBlock (start ++ 13 :: 10 :: (joined 13 10 lines ++ [13, 10])) = some fields ↔
      (lines.flatMap (segments 13 10)).map readField = fields.map some := by
  have htail : (segments 13 10 (start ++ 13 :: 10 :: (joined 13 10 lines ++ [13, 10]))).tail =
      lines.flatMap (segments 13 10) ++ [[], []] := by
    rw [segments_append (by decide), segments_of_not_mem hstart, segments_joined]
    rfl
  simp only [readBlock, htail]
  constructor
  · intro hread
    split_ifs at hread with hends
    have hall : ∀ part ∈ lines.flatMap (segments 13 10), (part ≠ [] : Bool) = true := by
      rw [← List.dropWhile_eq_nil_iff]
      by_contra hne
      rw [List.dropWhile_append, if_neg (by simpa using hne)] at hends
      have hlen := congrArg List.length hends
      rw [List.length_append] at hlen
      exact hne (List.length_eq_zero_iff.mp (by simpa using hlen))
    rw [List.takeWhile_append_of_pos hall] at hread
    simpa using mapM_eq_some_iff.mp hread
  · intro hparts
    have hall : ∀ part ∈ lines.flatMap (segments 13 10), (part ≠ [] : Bool) = true := by
      intro part hpart
      simpa using ne_nil_of_readField hparts part hpart
    rw [List.dropWhile_append_of_pos hall, List.takeWhile_append_of_pos hall]
    simpa using mapM_eq_some_iff.mpr hparts

end HeaderFields
