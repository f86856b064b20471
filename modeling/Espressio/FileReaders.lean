import Espressio.FileStorage

/-!
# The two readers of a file

`FileStorageBase::Read` reads from anywhere in a file, and the stream that
`OpenRead` gives reads it front to back in pieces of any size.  Both are to
return the same bytes of the same content.

The stream does, for every sequence of buffers (`streams_prefix`).  `Read` does
unless it is asked to read at the very end of a file that is not empty, on a
filesystem that refuses to seek there: it has a branch for that, which compares
the offset with the size of the handle it has just closed (`readers_iff`).
-/

namespace Persistence

open NetworkBytes Runs

/-! ### The stream -/

/-- One read of a stream, with its buffer: whether it is null, and its
capacity.  What it emits is the bytes it has read. -/
def readStep (t : FileReadStream) (buffer : Bool × Nat) : FileReadStream × Bytes :=
  ((t.read buffer.1 buffer.2).1, (t.read buffer.1 buffer.2).2.2)

/-- How much the buffers hold that are not null. -/
def asked : List (Bool × Nat) → Nat
  | [] => 0
  | buffer :: rest => (if buffer.1 then 0 else buffer.2) + asked rest

/-- The stream and its handle are at the same place of the content. -/
structure InStep (content : Bytes) (t : FileReadStream) : Prop where
  holds : t.file.content = content
  size : t.size = content.length
  position : t.file.position = t.position
  inside : t.position ≤ t.size

variable {s : FileStorageBase} {path : CString} {content : Bytes} {t : FileReadStream}
  {capacity : Nat}

/-- There is nothing to be read, or no room for it. -/
theorem read_nothing (h : capacity = 0 ∨ t.size ≤ t.position) :
    t.read false capacity = (t, .success, []) := by
  simp [FileReadStream.read, h]

/-- There is. -/
theorem read_something (h : InStep content t) (hroom : capacity ≠ 0)
    (hmore : t.position < t.size) :
    let bytes := (content.drop t.position).take capacity
    t.read false capacity =
      ({ t with
          file := { t.file with position := t.file.position + bytes.length }
          position := t.position + bytes.length }, .success, bytes) := by
  obtain ⟨hholds, hsize, hposition, -⟩ := h
  have hrequested : (content.drop t.position).take
      (if t.size - t.position < capacity then t.size - t.position else capacity) =
        (content.drop t.position).take capacity := by
    split
    · rw [List.take_of_length_le (by rw [List.length_drop, hsize]),
        List.take_of_length_le (by rw [List.length_drop]; omega)]
    · rfl
  have hbytes : ((content.drop t.position).take capacity).length ≠ 0 := by
    rw [List.length_take, List.length_drop]
    omega
  simp only [FileReadStream.read, FileHandle.read, hholds, hposition, hrequested]
  rw [if_neg (by simp), if_neg (by simp [hroom, Nat.not_le.mpr hmore]), if_neg hbytes]

/-- **One read** returns as much as the buffer holds of what remains, and moves
past it. -/
theorem read_inStep (h : InStep content t) (capacity : Nat) :
    (t.read false capacity).2 = (.success, (content.drop t.position).take capacity) ∧
      (t.read false capacity).1.position =
        t.position + ((content.drop t.position).take capacity).length ∧
      InStep content (t.read false capacity).1 := by
  by_cases hnothing : capacity = 0 ∨ t.size ≤ t.position
  · have hempty : (content.drop t.position).take capacity = [] := by
      rcases hnothing with rfl | hend
      · exact List.take_zero
      · rw [List.drop_eq_nil_of_le (h.size ▸ hend), List.take_nil]
    rw [read_nothing hnothing, hempty]
    exact ⟨rfl, rfl, h⟩
  · obtain ⟨hroom, hmore⟩ := not_or.mp hnothing
    have hread := read_something h hroom (Nat.not_le.mp hmore)
    dsimp only at hread
    rw [hread]
    refine ⟨rfl, rfl, ⟨h.holds, h.size, by rw [h.position], ?_⟩⟩
    have hsize := h.size
    have hinside := h.inside
    simp only [List.length_take, List.length_drop]
    omega

/-- A null buffer reads nothing. -/
theorem read_null (t : FileReadStream) (capacity : Nat) :
    (t.read true capacity).1 = t ∧ (t.read true capacity).2.2 = [] := by
  by_cases hzero : capacity = 0
  · simp [FileReadStream.read, hzero]
  · simp [FileReadStream.read, hzero]

/-- What is left past what has been taken. -/
theorem drop_taken (content : Bytes) (position capacity : Nat) :
    content.drop (position + ((content.drop position).take capacity).length) =
      (content.drop position).drop capacity := by
  rw [List.drop_drop, List.length_take, List.length_drop]
  by_cases hfits : capacity ≤ content.length - position
  · rw [Nat.min_eq_left hfits]
  · rw [List.drop_eq_nil_of_le (by omega), List.drop_eq_nil_of_le (by omega)]

/-- A run of reads: what is asked for in all, from where the stream is. -/
theorem feed_inStep (h : InStep content t) (buffers : List (Bool × Nat)) :
    (feed readStep t buffers).2 = (content.drop t.position).take (asked buffers) ∧
      (feed readStep t buffers).1.position =
        t.position + ((content.drop t.position).take (asked buffers)).length ∧
      InStep content (feed readStep t buffers).1 := by
  induction buffers generalizing t with
  | nil => simpa [asked] using h
  | cons buffer rest ih =>
      obtain ⟨isNull, capacity⟩ := buffer
      cases isNull with
      | true =>
          obtain ⟨hsame, hnothing⟩ := read_null t capacity
          have hrest := ih h
          rw [feed_cons]
          simpa [readStep, hsame, hnothing, asked] using hrest
      | false =>
          obtain ⟨hread, hposition, hnext⟩ := read_inStep h capacity
          obtain ⟨hbytes, hmoved, hlast⟩ := ih hnext
          have hsplit : (content.drop t.position).take (capacity + asked rest) =
              (content.drop t.position).take capacity ++
                (content.drop (t.read false capacity).1.position).take (asked rest) := by
            rw [hposition, List.take_add, drop_taken]
          rw [feed_cons]
          simp only [readStep, asked, hread, Bool.false_eq_true, if_false]
          rw [hsplit]
          refine ⟨by rw [← hbytes], ?_, hlast⟩
          rw [List.length_append, ← Nat.add_assoc, ← hposition]
          exact hmoved

/-- The stream of an opened file yields, over every sequence of buffers, the
bytes `Read` yields for all of them at once.  Its position is their number. -/
def Streams (s : FileStorageBase) (path : CString) (content : Bytes) : Prop :=
  ∃ t, s.openRead (some path) true .made = (.success, some t) ∧ t.size = content.length ∧
    ∀ buffers, (feed readStep t buffers).2 = content.take (asked buffers) ∧
      (feed readStep t buffers).1.position = (feed readStep t buffers).2.length ∧
      (feed readStep t buffers).1.position ≤ (feed readStep t buffers).1.size ∧
      (feed readStep t buffers).1.size = t.size

theorem streams_of_file (hready : s.ready = true) (hpath : validPath (some path) = some path)
    (hfile : s.fs.nodes path = some (.file content)) : Streams s path content := by
  refine ⟨FileReadStream.create ⟨content, 0, true⟩, ?_, rfl, fun buffers => ?_⟩
  · simp [FileStorageBase.openRead, hready, hpath, FileStorageBase.openForRead, hfile]
  · have hstart : InStep content (FileReadStream.create ⟨content, 0, true⟩) :=
      ⟨rfl, rfl, rfl, Nat.zero_le _⟩
    obtain ⟨hbytes, hposition, hlast⟩ := feed_inStep hstart buffers
    have hzero : (FileReadStream.create ⟨content, 0, true⟩).position = 0 := rfl
    rw [hzero, List.drop_zero] at hbytes hposition
    rw [Nat.zero_add] at hposition
    refine ⟨hbytes, ?_, hlast.inside, hlast.size⟩
    rw [hbytes]
    exact hposition

/-! ### Random access -/

/-- What a read is to return. -/
def expectedRead (content : Bytes) (offset capacity : Nat) : FileStatus × Bytes :=
  if offset ≤ content.length then (.success, (content.drop offset).take capacity)
  else (.ioError, [])

theorem read_expected_iff (hready : s.ready = true) (hpath : validPath (some path) = some path)
    (hfile : s.fs.nodes path = some (.file content)) {seeks : Nat → Bool}
    (hseeks : ∀ position < content.length, seeks position = true) (offset capacity : Nat) :
    s.read (some path) offset false capacity ⟨true, seeks⟩ =
        expectedRead content offset capacity ↔
      (offset = content.length → content = [] ∨ seeks offset = true) := by
  rw [FileStorageBase.read_of_file hready hpath hfile, expectedRead]
  rcases Nat.lt_trichotomy offset content.length with hlt | rfl | hgt
  · rw [if_pos ⟨Nat.le_of_lt hlt, hseeks offset hlt⟩, if_pos (Nat.le_of_lt hlt)]
    exact iff_of_true rfl fun heq => absurd heq (Nat.ne_of_lt hlt)
  · cases hseek : seeks content.length with
    | true =>
        rw [if_pos ⟨Nat.le_refl _, rfl⟩, if_pos (Nat.le_refl _)]
        exact iff_of_true rfl fun _ => Or.inr rfl
    | false =>
        rw [if_neg (by simp), if_pos (Nat.le_refl _), List.drop_length, List.take_nil]
        cases content with
        | nil => exact iff_of_true rfl fun _ => Or.inl rfl
        | cons b rest => simp
  · rw [if_neg fun h => Nat.not_le.mpr hgt h.1, if_neg (Nat.not_le.mpr hgt),
      if_neg (Nat.ne_of_gt (Nat.zero_lt_of_lt hgt))]
    exact iff_of_true rfl fun heq => absurd heq (Nat.ne_of_gt hgt)

/-- **The two readers.**  For a file on a filesystem that accepts every seek
into it, the stream always yields its content.  `Read` does exactly if it is
not asked to start at the end of a file that is not empty, or that seek is
accepted as well. -/
theorem readers_iff (hready : s.ready = true) (hpath : validPath (some path) = some path)
    (hfile : s.fs.nodes path = some (.file content)) (seeks : Nat → Bool)
    (hseeks : ∀ position < content.length, seeks position = true) (offset capacity : Nat) :
    (s.read (some path) offset false capacity ⟨true, seeks⟩ =
          expectedRead content offset capacity ∧ Streams s path content) ↔
      (offset = content.length → content = [] ∨ seeks offset = true) := by
  rw [and_iff_left (streams_of_file hready hpath hfile)]
  exact read_expected_iff hready hpath hfile hseeks offset capacity

/-- A filesystem that accepts the seeks into three bytes and no other. -/
def seeksInside (position : Nat) : Bool := decide (position < 3)

theorem readers_of_three_bytes :
    ((sampleStorage [1, 2, 3]).read (some samplePath) 2 false 4 ⟨true, seeksInside⟩ =
          expectedRead [1, 2, 3] 2 4 ∧ Streams (sampleStorage [1, 2, 3]) samplePath [1, 2, 3]) ↔
      (2 = ([1, 2, 3] : Bytes).length → ([1, 2, 3] : Bytes) = [] ∨ seeksInside 2 = true) :=
  readers_iff rfl (by decide) (by decide) seeksInside (by decide) 2 4

theorem read_at_end_fails : ¬ ∀ (s : FileStorageBase) (path : CString) (content : Bytes)
    (seeks : Nat → Bool) (offset capacity : Nat), s.ready = true →
    validPath (some path) = some path → s.fs.nodes path = some (.file content) →
    (∀ position < content.length, seeks position = true) →
    s.read (some path) offset false capacity ⟨true, seeks⟩ =
      expectedRead content offset capacity ∧ Streams s path content := by
  intro h
  have hread := (h (sampleStorage [1, 2, 3]) samplePath [1, 2, 3] seeksInside 3 4 rfl (by decide)
    (by decide) (by decide)).1
  revert hread
  decide

end Persistence
