import Mathlib.Data.List.Pairwise
import Espressio.FieldReader
import Espressio.HeaderStore
import Espressio.ResponseFraming

/-!
# What a reader makes of the header block

`SetHeader` compares names with those of the framing fields and stores names
and values as they are.  The block is their concatenation, so a reader finds
what was meant only if no name holds a colon and no name or value a line end.

`wellFramed_iff`: the block is read as the platform's own fields and the values
last set, each once and nothing else, exactly when every name in force is a
token and every value in force free of carriage returns, line feeds and NULs.
Nothing in `SetHeader` sees to that.
-/

namespace HttpResponse

open NetworkBytes Web HeaderLines HeaderFields

variable {calls : List (Bytes × Bytes)} {r : Response} {length : UInt32} {name value : Bytes}
  {left right : Bytes}

/-! ### The fields written -/

def contentLengthField (length : UInt32) : Header := ⟨ascii "Content-Length", lengthText length⟩
def closeField : Header := ⟨ascii "Connection", ascii "close"⟩

/-- The fields of the block in order, as they are meant. -/
def writtenFields (r : Response) (length : UInt32) : List Header :=
  contentLengthField length ::
    ((if r.contentType = [] then [] else [⟨contentTypeName, r.contentType⟩]) ++ r.headers ++
      (if r.keepAlive then [] else [closeField]))

/-- The line of a field, without its end. -/
def Header.line (h : Header) : Bytes := h.name ++ 58 :: 32 :: h.value

theorem flatMap_line (hs : List Header) :
    (hs.flatMap fun h => h.name ++ ascii ": " ++ h.value ++ ascii "\r\n") =
      joined 13 10 (hs.map Header.line) := by
  have hcolon : ascii ": " = [58, 32] := by decide
  have hend : ascii "\r\n" = [13, 10] := by decide
  simp [joined, List.flatMap_map, Header.line, hcolon, hend]

theorem headerBlock_eq (r : Response) (length : UInt32) :
    headerBlock r length = (ascii "HTTP/1.1 " ++ ascii (httpStatusText r.status)) ++
      13 :: 10 :: (joined 13 10 ((writtenFields r length).map Header.line) ++ [13, 10]) := by
  have hlength : ascii "\r\nContent-Length: " =
      13 :: 10 :: (ascii "Content-Length" ++ [58, 32]) := by decide
  have htype : ascii "Content-Type: " = contentTypeName ++ [58, 32] := by decide
  have hclose : ascii "Connection: close\r\n" = joined 13 10 [closeField.line] := by decide
  have hend : ascii "\r\n" = [13, 10] := by decide
  rw [headerBlock, flatMap_line, hlength, htype, hclose, hend]
  by_cases hempty : r.contentType = [] <;> cases hkeep : r.keepAlive <;>
    simp [writtenFields, contentLengthField, Header.line, joined, hempty, hkeep]

theorem startLine_clean (status : HttpStatus) :
    (13 : UInt8) ∉ ascii "HTTP/1.1 " ++ ascii (httpStatusText status) := by
  have hversion : (13 : UInt8) ∉ ascii "HTTP/1.1 " := by simp [ascii]
  have htext : (13 : UInt8) ∉ ascii (httpStatusText status) := by
    cases status <;> simp [ascii, httpStatusText]
  simp [hversion, htext]

theorem digit_of_mem_lengthText {c : UInt8} (h : c ∈ lengthText length) : 48 ≤ c ∧ c ≤ 57 := by
  obtain ⟨d, hd, rfl⟩ := List.mem_map.mp h
  rw [Nat.toList_repr] at hd
  have hdigit := Nat.isDigit_of_mem_toDigits (by decide) (by decide) hd
  simp only [Char.isDigit, Bool.and_eq_true, decide_eq_true_eq, ge_iff_le,
    UInt32.le_iff_toNat_le] at hdigit
  have hnat : (48 : UInt32).toNat ≤ d.toNat ∧ d.toNat ≤ (57 : UInt32).toNat := hdigit
  simp only [UInt32.reduceToNat] at hnat
  simp only [Nat.toUInt8_eq, UInt8.le_iff_toNat_le, UInt8.toNat_ofNat', UInt8.reduceToNat]
  omega

theorem isValue_lengthText (length : UInt32) : isValue (lengthText length) = true := by
  rw [isValue_iff]
  refine ⟨?_, ?_, ?_⟩ <;> intro h <;> exact absurd (digit_of_mem_lengthText h).1 (by decide)

theorem trim_lengthText (length : UInt32) : trim (lengthText length) = lengthText length := by
  apply trim_eq_self
  intro c hc
  have hdigit := digit_of_mem_lengthText hc
  grind [isBlank]

/-- The field names of the block are pairwise different. -/
theorem distinct_writtenFields (h : Stores calls r) : Distinct (writtenFields r length) := by
  have htaken : ∀ g ∈ r.headers, ¬ SameName g.name (ascii "Content-Length") ∧
      ¬ SameName g.name (ascii "Connection") ∧ ¬ SameName g.name contentTypeName := by
    intro g hg
    obtain ⟨-, hlength, -, hconnection⟩ := takes_iff.mp (h.taken g hg).1
    exact ⟨hlength, hconnection, (h.taken g hg).2⟩
  have hlengthType : ¬ SameName (ascii "Content-Length") contentTypeName := by decide
  have hlengthClose : ¬ SameName (ascii "Content-Length") (ascii "Connection") := by decide
  have htypeClose : ¬ SameName contentTypeName (ascii "Connection") := by decide
  refine List.pairwise_cons.mpr ⟨?_, ?_⟩
  · intro g hg hsame
    rcases List.mem_append.mp hg with hg | hg
    · rcases List.mem_append.mp hg with hg | hg
      · split_ifs at hg with hempty
        · cases hg
        · cases List.mem_singleton.mp hg
          exact hlengthType hsame
      · exact (htaken g hg).1 hsame.symm
    · split_ifs at hg with hkeep
      · cases hg
      · cases List.mem_singleton.mp hg
        exact hlengthClose hsame
  · rw [List.pairwise_append, List.pairwise_append]
    refine ⟨⟨?_, h.distinct, ?_⟩, ?_, ?_⟩
    · split_ifs <;> simp
    · intro f hf g hg hsame
      split_ifs at hf with hempty
      · cases hf
      · cases List.mem_singleton.mp hf
        exact (htaken g hg).2.2 hsame.symm
    · split_ifs <;> simp
    · intro f hf g hg hsame
      split_ifs at hg with hkeep
      · cases hg
      · cases List.mem_singleton.mp hg
        rcases List.mem_append.mp hf with hf | hf
        · split_ifs at hf with hempty
          · cases hf
          · cases List.mem_singleton.mp hf
            exact htypeClose hsame
        · exact (htaken f hf).2.1 hsame

/-- A written field is one of the platform's own or was last set so. -/
theorem mem_writtenFields (h : Stores calls r) {w : Header} (hw : w ∈ writtenFields r length) :
    w = contentLengthField length ∨ (r.keepAlive = false ∧ w = closeField) ∨
      latest calls w.name = some w.value := by
  simp only [writtenFields, List.mem_cons, List.mem_append] at hw
  rcases hw with rfl | (htype | hstored) | hclose
  · exact Or.inl rfl
  · split_ifs at htype with hempty
    · cases htype
    · cases List.mem_singleton.mp htype
      refine Or.inr (Or.inr ?_)
      have hvalue := h.contentType
      cases hlatest : latest calls contentTypeName with
      | none => exact absurd (by simpa [hlatest] using hvalue) hempty
      | some v => simpa [hlatest] using hvalue.symm
  · exact Or.inr (Or.inr (h.value w hstored))
  · split_ifs at hclose with hkeep
    · cases hclose
    · exact Or.inr (Or.inl ⟨by simpa using hkeep, List.mem_singleton.mp hclose⟩)

/-- Every value in force is written, but for an empty content type. -/
theorem written_of_latest (h : Stores calls r) (hlatest : latest calls name = some value) :
    (∃ w ∈ writtenFields r length, SameName w.name name ∧ w.value = value) ∨
      (SameName name contentTypeName ∧ value = []) := by
  rcases h.stored name value hlatest with htype | ⟨w, hw, hsame⟩
  · rw [latest_congr calls htype] at hlatest
    have hcontent : r.contentType = value := by simpa [hlatest] using h.contentType
    by_cases hempty : value = []
    · exact Or.inr ⟨htype, hempty⟩
    · refine Or.inl ⟨⟨contentTypeName, value⟩, ?_, htype.symm, rfl⟩
      simp [writtenFields, hcontent, hempty]
  · refine Or.inl ⟨w, by simp [writtenFields, hw], hsame, ?_⟩
    have hvalue := h.value w hw
    rw [latest_congr calls hsame, hlatest] at hvalue
    exact (Option.some_inj.mp hvalue).symm

/-! ### What the block is read as -/

/-- A field that may stand in the block: the platform's own, or one that was
last set so, but for the blanks around its value. -/
def Allowed (keepAlive : Bool) (calls : List (Bytes × Bytes)) (length : UInt32) (f : Field) :
    Prop :=
  f = ⟨ascii "Content-Length", lengthText length⟩ ∨
    (keepAlive = false ∧ f = ⟨ascii "Connection", ascii "close"⟩) ∨
    ∃ value, latest calls f.name = some value ∧ f.value = trim value

/-- The fields read are those meant: exactly one length, the right one, no
transfer coding, and nothing that was not set, each name once. -/
structure WellFramed (keepAlive : Bool) (calls : List (Bytes × Bytes)) (length : UInt32)
    (fields : List Field) : Prop where
  contentLength : fields.filter (fun f => SameName f.name (ascii "Content-Length")) =
    [⟨ascii "Content-Length", lengthText length⟩]
  noTransferEncoding : ∀ f ∈ fields, ¬ SameName f.name (ascii "Transfer-Encoding")
  allowed : ∀ f ∈ fields, Allowed keepAlive calls length f
  once : fields.Pairwise fun f g => ¬ SameName f.name g.name

/-- The fields one written line is read as. -/
def parts (w : Header) : List Field := (segments 13 10 w.line).filterMap readField

/-- The written lines are read as these fields. -/
def Reads (r : Response) (length : UInt32) (fields : List Field) : Prop :=
  (((writtenFields r length).map Header.line).flatMap (segments 13 10)).map readField =
    fields.map some

variable {fields : List Field} {w : Header}

theorem Reads.eq_flatMap (h : Reads r length fields) :
    fields = (writtenFields r length).flatMap parts := by
  calc
    fields = (fields.map some).filterMap id := by simp
    _ = (((writtenFields r length).map Header.line).flatMap (segments 13 10)).filterMap
          readField := by
        rw [← h, List.filterMap_map]
        rfl
    _ = (writtenFields r length).flatMap parts := by
        rw [List.filterMap_flatMap, List.flatMap_map]
        rfl

/-- Every part of a written line is read as a field. -/
theorem Reads.part (h : Reads r length fields) (hw : w ∈ writtenFields r length) {part : Bytes}
    (hpart : part ∈ segments 13 10 w.line) :
    ∃ f ∈ parts w, readField part = some f := by
  have hmem : readField part ∈ fields.map some := by
    rw [← h]
    refine List.mem_map_of_mem (List.mem_flatMap.mpr ⟨w.line, List.mem_map_of_mem hw, hpart⟩)
  obtain ⟨f, -, hf⟩ := List.mem_map.mp hmem
  exact ⟨f, List.mem_filterMap.mpr ⟨part, hpart, hf.symm⟩, hf.symm⟩

/-- The first part of a line behind a token name. -/
theorem segments_line (hname : isToken w.name = true) :
    ∃ value others, segments 13 10 w.line = (w.name ++ 58 :: 32 :: value) :: others ∧
      segments 13 10 w.value = value :: others := by
  have hcr : (13 : UInt8) ∉ w.name ++ [58, 32] := by
    simp [not_mem_of_isToken (c := 13) hname (by decide)]
  obtain ⟨value, others, hparts⟩ := List.exists_cons_of_ne_nil
    (segments_ne_nil (c := 13) (d := 10) w.value)
  have hline : w.line = (w.name ++ [58, 32]) ++ w.value := by simp [Header.line]
  refine ⟨value, others, ?_, hparts⟩
  rw [hline, segments_prepend hcr, hparts]
  simp

/-- A line written with a token and a clean value is read as these. -/
theorem parts_clean (hname : isToken w.name = true) (hvalue : isValue w.value = true) :
    segments 13 10 w.line = [w.line] ∧ readField w.line = some ⟨w.name, trim w.value⟩ := by
  have hcr := (isValue_iff.mp hvalue).1
  have hnameCr := not_mem_of_isToken (c := 13) hname (by decide)
  refine ⟨segments_of_not_mem (by simp [Header.line, hcr, hnameCr]), ?_⟩
  rw [Header.line, readField_line hname, if_pos hvalue]

/-! ### A block read as meant was written clean -/

theorem isToken_congr (h : SameName left right) : isToken left = isToken right := by
  have hbyte : ∀ c : UInt8, isTokenByte (toLower c) = isTokenByte c :=
    forall_uint8 (by decide +kernel)
  have hfold : ∀ name : Bytes, isToken name = isToken (name.map toLower) := by
    intro name
    simp [isToken, List.all_map, Function.comp_def, hbyte]
  rw [hfold left, hfold right, h]

/-- Different written lines give fields of different names. -/
theorem WellFramed.parts_differ (hframed : WellFramed r.keepAlive calls length fields)
    (hread : Reads r length fields) {v : Header} (hw : w ∈ writtenFields r length)
    (hv : v ∈ writtenFields r length) (hne : w ≠ v) {f g : Field} (hf : f ∈ parts w)
    (hg : g ∈ parts v) : ¬ SameName f.name g.name := by
  have honce := hframed.once
  rw [hread.eq_flatMap, List.pairwise_flatMap] at honce
  have hsymm : Std.Symm fun a b : Header =>
      ∀ x ∈ parts a, ∀ y ∈ parts b, ¬ SameName x.name y.name :=
    ⟨fun a b hab x hx y hy hsame => hab y hy x hx hsame.symm⟩
  exact honce.2.forall hw hv hne f hf g hg

/-- The first field of a line with a token name has that name. -/
theorem Reads.first_field (hread : Reads r length fields) (hw : w ∈ writtenFields r length)
    (hname : isToken w.name = true) :
    ∃ f ∈ parts w, f.name = w.name ∧
      ∃ value others, segments 13 10 w.value = value :: others ∧ isValue value = true ∧
        f.value = trim value := by
  obtain ⟨value, others, hline, hvalue⟩ := segments_line hname
  have hfirst : w.name ++ 58 :: 32 :: value ∈ segments 13 10 w.line := by simp [hline]
  obtain ⟨f, hf, hfield⟩ := hread.part hw hfirst
  rw [readField_line hname] at hfield
  split_ifs at hfield with hclean
  cases hfield
  exact ⟨_, hf, rfl, value, others, hvalue, hclean, rfl⟩

theorem isToken_closeField : isToken closeField.name = true := by decide

theorem isToken_contentLengthField : isToken (contentLengthField length).name = true := by
  simp only [contentLengthField]
  decide

/-- Every name written is a token.  The fields read from a line whose name is
none would have to be fields of other lines, or an empty content type. -/
theorem WellFramed.token (h : Stores calls r)
    (hframed : WellFramed r.keepAlive calls length fields) (hread : Reads r length fields)
    (hw : w ∈ writtenFields r length) : isToken w.name = true := by
  by_contra hname
  -- No field of this line has a name some line with a token name is written under.
  have hother : ∀ f ∈ parts w, ∀ v ∈ writtenFields r length, isToken v.name = true →
      ¬ SameName v.name f.name := by
    intro f hf v hv hvname hsame
    have hne : v ≠ w := by
      rintro rfl
      exact hname hvname
    obtain ⟨g, hg, hgname, -⟩ := hread.first_field hv hvname
    exact hframed.parts_differ hread hv hw hne hg hf (hgname ▸ hsame)
  have hempty : ∀ f ∈ parts w, SameName f.name contentTypeName ∧ f.value = [] := by
    intro f hf
    have hfield : f ∈ fields := by
      rw [hread.eq_flatMap]
      exact List.mem_flatMap.mpr ⟨w, hw, hf⟩
    rcases hframed.allowed f hfield with rfl | ⟨hkeep, rfl⟩ | ⟨value, hlatest, hvalue⟩
    · exact absurd (SameName.refl _) (hother _ hf (contentLengthField length)
        List.mem_cons_self isToken_contentLengthField)
    · exact absurd (SameName.refl _) (hother _ hf closeField (by simp [writtenFields, hkeep])
        isToken_closeField)
    · rcases written_of_latest h hlatest with ⟨v, hv, hsame, -⟩ | ⟨htype, rfl⟩
      · obtain ⟨part, -, hpart⟩ := List.mem_filterMap.mp hf
        have htoken := isToken_congr hsame
        rw [(of_readField hpart).1] at htoken
        exact absurd hsame (hother f hf v hv htoken)
      · exact ⟨htype, hvalue⟩
  -- So there is one part only, and it is the whole line.
  have hwhole : segments 13 10 w.line = [w.line] := by
    cases hparts : segments 13 10 w.line with
    | nil => exact absurd hparts (segments_ne_nil _)
    | cons part others =>
        cases others with
        | nil =>
            have hline : w.line = joined 13 10 [] ++ part := eq_joined_of_segments hparts
            rw [hline]
            rfl
        | cons next others =>
            have hfirst : part ∈ segments 13 10 w.line := by simp [hparts]
            have hsecond : next ∈ segments 13 10 w.line := by simp [hparts]
            obtain ⟨f, hf, hpart⟩ := hread.part hw hfirst
            obtain ⟨g, hg, hnext⟩ := hread.part hw hsecond
            have honce := hframed.once
            rw [hread.eq_flatMap, List.pairwise_flatMap] at honce
            have hpair := honce.1 w hw
            rw [parts, hparts, List.filterMap_cons_some hpart,
              List.filterMap_cons_some hnext] at hpair
            have hdiffer := (List.pairwise_cons.mp hpair).1 g List.mem_cons_self
            exact absurd ((hempty f hf).1.trans (hempty g hg).1.symm) hdiffer
  have hline : w.line ∈ segments 13 10 w.line := by simp [hwhole]
  obtain ⟨f, hf, hfield⟩ := hread.part hw hline
  by_cases hcolon : (58 : UInt8) ∈ w.name
  · obtain ⟨hfname, rest, hline, -, hvalue⟩ := of_readField hfield
    have hcount := congrArg (List.count 58) hline
    have hnone : f.name.count 58 = 0 :=
      List.count_eq_zero.mpr (not_mem_of_isToken hfname (by decide))
    have hsome : 0 < w.name.count 58 := List.count_pos_iff.mpr hcolon
    have hrest : (58 : UInt8) ∈ rest := by
      rw [← List.count_pos_iff]
      simp [Header.line, hnone] at hcount
      omega
    have htrim := mem_trim hrest (by decide)
    rw [← hvalue, (hempty f hf).2] at htrim
    cases htrim
  · rw [Header.line, readField_colon hcolon] at hfield
    simp [hname] at hfield

/-- Every value written is clean. -/
theorem WellFramed.clean (h : Stores calls r)
    (hframed : WellFramed r.keepAlive calls length fields) (hread : Reads r length fields)
    (hw : w ∈ writtenFields r length) : isValue w.value = true := by
  rcases mem_writtenFields h hw with rfl | ⟨-, rfl⟩ | hlatest
  · exact isValue_lengthText length
  · decide
  · have hname := hframed.token h hread hw
    obtain ⟨f, hf, hfname, value, others, -, hclean, hvalue⟩ := hread.first_field hw hname
    have hfield : f ∈ fields := by
      rw [hread.eq_flatMap]
      exact List.mem_flatMap.mpr ⟨w, hw, hf⟩
    obtain ⟨-, hlength, -, hconnection⟩ := takes_iff.mp (takes_of_latest hlatest)
    rw [← hfname] at hlatest hlength hconnection
    rcases hframed.allowed f hfield with rfl | ⟨-, rfl⟩ | ⟨set, hset, hsetValue⟩
    · exact absurd (SameName.refl _) hlength
    · exact absurd (SameName.refl _) hconnection
    · rw [hlatest, Option.some_inj] at hset
      rw [← isValue_trim, hset, ← hsetValue, hvalue, isValue_trim]
      exact hclean

/-! ### A block written clean is read as meant -/

/-- Every name in force is a token, and every value in force clean. -/
def CleanHeaders (calls : List (Bytes × Bytes)) : Prop :=
  ∀ name value, latest calls name = some value → isToken name = true ∧ isValue value = true

theorem CleanHeaders.written (hclean : CleanHeaders calls) (h : Stores calls r)
    (hw : w ∈ writtenFields r length) : isToken w.name = true ∧ isValue w.value = true := by
  rcases mem_writtenFields h hw with rfl | ⟨-, rfl⟩ | hlatest
  · exact ⟨isToken_contentLengthField, isValue_lengthText length⟩
  · exact ⟨isToken_closeField, by decide⟩
  · exact hclean _ _ hlatest

/-- The fields read from a clean block. -/
def meantFields (r : Response) (length : UInt32) : List Field :=
  (writtenFields r length).map fun w => ⟨w.name, trim w.value⟩

theorem CleanHeaders.reads (hclean : CleanHeaders calls) (h : Stores calls r) :
    Reads r length (meantFields r length) := by
  have hparts : ∀ w ∈ writtenFields r length, segments 13 10 w.line = [w.line] ∧
      readField w.line = some ⟨w.name, trim w.value⟩ := by
    intro w hw
    obtain ⟨hname, hvalue⟩ := hclean.written h hw
    exact parts_clean hname hvalue
  rw [Reads, meantFields, List.map_map]
  generalize writtenFields r length = written at hparts
  induction written with
  | nil => rfl
  | cons w written ih =>
      obtain ⟨hw, hwritten⟩ := List.forall_mem_cons.mp hparts
      simp [hw.1, hw.2, ih hwritten]

theorem wellFramed_meantFields (h : Stores calls r) :
    WellFramed r.keepAlive calls length (meantFields r length) := by
  have hdistinct : Distinct (writtenFields r length) := distinct_writtenFields h
  refine ⟨?_, ?_, ?_, ?_⟩
  · obtain ⟨hfirst, -⟩ := List.pairwise_cons.mp hdistinct
    have hrest : ∀ w ∈ (writtenFields r length).tail,
        ¬ SameName w.name (ascii "Content-Length") := fun w hw hsame =>
      hfirst w hw hsame.symm
    rw [meantFields, writtenFields, List.map_cons, List.filter_cons_of_pos (by
      simp [contentLengthField, SameName])]
    have hnone : ((writtenFields r length).tail.map fun w : Header =>
        (⟨w.name, trim w.value⟩ : Field)).filter
          (fun f => SameName f.name (ascii "Content-Length")) = [] := by
      rw [List.filter_eq_nil_iff]
      intro f hf
      obtain ⟨w, hw, rfl⟩ := List.mem_map.mp hf
      simpa using hrest w hw
    rw [writtenFields, List.tail_cons] at hnone
    rw [hnone]
    simp [contentLengthField, trim_lengthText]
  · intro f hf hsame
    obtain ⟨w, hw, rfl⟩ := List.mem_map.mp hf
    rcases mem_writtenFields h hw with rfl | ⟨-, rfl⟩ | hlatest
    · exact absurd hsame (by simp only [contentLengthField]; decide)
    · exact absurd hsame (by decide)
    · exact (takes_iff.mp (takes_of_latest hlatest)).2.2.1 hsame
  · intro f hf
    obtain ⟨w, hw, rfl⟩ := List.mem_map.mp hf
    rcases mem_writtenFields h hw with rfl | ⟨hkeep, rfl⟩ | hlatest
    · exact Or.inl (by simp [contentLengthField, trim_lengthText])
    · exact Or.inr (Or.inl ⟨hkeep, by decide⟩)
    · exact Or.inr (Or.inr ⟨w.value, hlatest, rfl⟩)
  · rw [meantFields, List.pairwise_map]
    exact hdistinct

/-- What stands written clean was set clean. -/
theorem cleanHeaders_of_written (h : Stores calls r)
    (hwritten : ∀ w ∈ writtenFields r length, isToken w.name = true ∧ isValue w.value = true) :
    CleanHeaders calls := by
  intro name value hlatest
  rcases written_of_latest h hlatest with ⟨w, hw, hsame, rfl⟩ | ⟨htype, rfl⟩
  · obtain ⟨hname, hvalue⟩ := hwritten w hw
    exact ⟨(isToken_congr hsame).symm.trans hname, hvalue⟩
  · exact ⟨(isToken_congr htype).trans (by decide), rfl⟩

/-! ### The header block of a response -/

/-- What a successful `Begin` with a length has put on the wire. -/
theorem begin_wire {n : Natives} (hbegun : r.begun = false)
    (hsent : (begin r (some length) n).2.1 = .success) :
    (begin r (some length) n).2.2.flatMap NativeCall.onWire = headerBlock r length := by
  rw [begin_fresh hbegun] at hsent ⊢
  cases hreach : reaches (headerBlock r length).length n.sends with
  | true => exact (sendRaw_reaches hreach).2
  | false => exact absurd hsent (sendRaw_not_reaches hreach).1

/-- **The header block is read as it was meant** exactly when every name in
force is a token and every value in force is clean, after any calls of
`SetHeader`. -/
theorem wellFramed_iff (isHead keepAlive : Bool) (status : HttpStatus)
    (calls : List (Bytes × Bytes)) (length : UInt32) (n : Natives)
    (hsent : (begin (setHeaders { Response.fresh isHead keepAlive with status := status } calls)
      (some length) n).2.1 = .success) :
    (∃ fields, readBlock ((begin (setHeaders
        { Response.fresh isHead keepAlive with status := status } calls) (some length)
          n).2.2.flatMap NativeCall.onWire) = some fields ∧
      WellFramed keepAlive calls length fields) ↔ CleanHeaders calls := by
  have h := stores_setHeaders isHead keepAlive status calls
  have hkeep := setHeaders_keepAlive { Response.fresh isHead keepAlive with status := status } calls
  rw [begin_wire h.begun hsent, headerBlock_eq]
  generalize setHeaders { Response.fresh isHead keepAlive with status := status } calls = r
    at h hkeep
  cases hkeep
  constructor
  · rintro ⟨fields, hblock, hframed⟩
    have hread : Reads r length fields :=
      (readBlock_joined (startLine_clean r.status) _).mp hblock
    exact cleanHeaders_of_written h fun w hw =>
      ⟨hframed.token h hread hw, hframed.clean h hread hw⟩
  · intro hclean
    exact ⟨meantFields r length, (readBlock_joined (startLine_clean r.status) _).mpr
      (hclean.reads h), wellFramed_meantFields h⟩

theorem wellFramed_iff_plain :
    (∃ fields, readBlock ((begin (setHeaders { Response.fresh false true with status := .ok }
        [(ascii "X-Trace", ascii "1")]) (some 2) ⟨[1000], []⟩).2.2.flatMap NativeCall.onWire) =
          some fields ∧ WellFramed true [(ascii "X-Trace", ascii "1")] 2 fields) ↔
      CleanHeaders [(ascii "X-Trace", ascii "1")] :=
  wellFramed_iff false true .ok [(ascii "X-Trace", ascii "1")] 2 ⟨[1000], []⟩ (by decide)

/-- A value with a line end in it sets the length a second time. -/
theorem value_splits_response :
    let calls := [(ascii "X-Trace", ascii "1\r\nContent-Length: 5")]
    let sent := begin (setHeaders { Response.fresh false true with status := .ok } calls) (some 2)
      ⟨[1000], []⟩
    sent.2.1 = .success ∧
      readBlock (sent.2.2.flatMap NativeCall.onWire) =
        some [⟨ascii "Content-Length", ascii "2"⟩, ⟨ascii "X-Trace", ascii "1"⟩,
          ⟨ascii "Content-Length", ascii "5"⟩] ∧
      ¬ ∃ fields, readBlock (sent.2.2.flatMap NativeCall.onWire) = some fields ∧
        WellFramed true calls 2 fields := by
  have hread : readBlock ((begin (setHeaders { Response.fresh false true with status := .ok }
      [(ascii "X-Trace", ascii "1\r\nContent-Length: 5")]) (some 2)
        ⟨[1000], []⟩).2.2.flatMap NativeCall.onWire) =
      some [⟨ascii "Content-Length", ascii "2"⟩, ⟨ascii "X-Trace", ascii "1"⟩,
        ⟨ascii "Content-Length", ascii "5"⟩] := by
    decide +kernel
  refine ⟨by decide +kernel, hread, ?_⟩
  rintro ⟨fields, hfields, hframed⟩
  rw [hread] at hfields
  cases hfields
  exact absurd hframed.contentLength (by decide +kernel)

end HttpResponse
