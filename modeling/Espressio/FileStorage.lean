import Espressio.PreferencesStorage

/-!
# File storage over an Arduino filesystem

`FileStorageBase` gives whole files a name on one of Arduino's filesystems.  It
declares that replacing a file is atomic.

What a native call may do is an argument of the operation that makes it: an
open may be refused, a write may store a prefix of what it is given and say how
much it stored.  Opening for `FILE_WRITE` truncates.  So a replacement whose
write stops short has lost the old content by then, and `replaces_iff` says
that this is the only way to lose it.

The stored files are those of the filesystem; a handle is a copy of the content
it was opened on, as nothing here writes a file while it is read.
-/

namespace Persistence

open NetworkBytes

/-- The statuses file storage returns. -/
inductive FileStatus
  | success
  | notInitialized
  | invalidArgument
  | notFound
  | noSpace
  | ioError
  | partialWrite
  | unknownError
  deriving DecidableEq, Repr

/-- The capabilities named here; any other of the core's is `other`. -/
inductive StorageCapability
  | hierarchical
  | directories
  | rename
  | append
  | capacityReporting
  | atomicReplace
  | sequentialRead
  | removable
  | other (bit : Nat)
  deriving DecidableEq, Repr

inductive WriteMode
  | replace
  | append
  deriving DecidableEq, Repr

/-! ### The filesystem -/

inductive Node
  | file (content : Bytes)
  | directory
  deriving DecidableEq, Repr

/-- An `fs::FS`: what is at each path. -/
structure Files where
  nodes : CString → Option Node

namespace Files

/-- Opening to write: a file that is not there is created, and `FILE_WRITE`
truncates one that is. -/
def openForWrite (fs : Files) (path : CString) (mode : WriteMode) : Files :=
  match fs.nodes path, mode with
  | some .directory, _ => fs
  | some (.file _), .append => fs
  | some (.file _), .replace => ⟨Function.update fs.nodes path (some (.file []))⟩
  | none, _ => ⟨Function.update fs.nodes path (some (.file []))⟩

/-- Write at the end of the opened file: a prefix is stored, and its length
returned. -/
def write (fs : Files) (path : CString) (data : Bytes) (stored : Nat) : Files × Nat :=
  match fs.nodes path with
  | some (.file content) =>
      (⟨Function.update fs.nodes path (some (.file (content ++ data.take stored)))⟩,
        (data.take stored).length)
  | _ => (fs, 0)

end Files

/-- An `fs::File` that is open for reading, or was. -/
structure FileHandle where
  content : Bytes
  position : Nat
  isOpen : Bool
  deriving DecidableEq, Repr

namespace FileHandle

/-- A closed file has no size. -/
def size (f : FileHandle) : Nat := if f.isOpen then f.content.length else 0

def close (f : FileHandle) : FileHandle := { f with isOpen := false }

def seek (f : FileHandle) (offset : Nat) (accepted : Bool) : FileHandle × Bool :=
  if accepted then ({ f with position := offset }, true) else (f, false)

/-- Read what remains, and no more than was asked for. -/
def read (f : FileHandle) (count : Nat) : FileHandle × Bytes :=
  let bytes := (f.content.drop f.position).take count
  ({ f with position := f.position + bytes.length }, bytes)

@[simp] theorem size_close (f : FileHandle) : f.close.size = 0 := rfl

@[simp] theorem size_opened (content : Bytes) (position : Nat) :
    (⟨content, position, true⟩ : FileHandle).size = content.length := rfl

end FileHandle

/-! ### The sequential reader -/

structure FileReadStream where
  file : FileHandle
  size : Nat
  position : Nat
  deriving DecidableEq, Repr

namespace FileReadStream

def create (file : FileHandle) : FileReadStream := ⟨file, file.size, 0⟩

/-- The answer and the bytes read. -/
def read (t : FileReadStream) (nullBuffer : Bool) (capacity : Nat) :
    FileReadStream × FileStatus × Bytes :=
  if nullBuffer && capacity ≠ 0 then (t, .invalidArgument, [])
  else if capacity = 0 || t.size ≤ t.position then (t, .success, [])
  else
    let remaining := t.size - t.position
    let requested := if remaining < capacity then remaining else capacity
    let (file, bytes) := t.file.read requested
    if bytes.length = 0 then ({ t with file := file }, .ioError, [])
    else ({ t with file := file, position := t.position + bytes.length }, .success, bytes)

end FileReadStream

/-! ### The storage -/

structure FileStorageBase where
  fs : Files
  ready : Bool
  additionalCapabilities : List StorageCapability

/-- `Valid`: the path a pointer gives, unless it is empty. -/
def validPath (value : Option CString) : Option CString := value.filter fun text => text.bytes ≠ []

/-- What the filesystem does in a `Read`: whether the open is granted, and
which seeks are. -/
structure ReadNatives where
  opens : Bool
  seeks : Nat → Bool

/-- What it does in a `Write`: whether the open is granted, and how much of the
data is stored. -/
structure WriteNatives where
  opens : Bool
  stored : Nat
  deriving DecidableEq, Repr

/-- What making the stream object comes to. -/
inductive Allocation
  | made
  | null
  | badAlloc
  | otherException
  deriving DecidableEq, Repr

namespace FileStorageBase

def getCapabilities (s : FileStorageBase) : List StorageCapability :=
  [.hierarchical, .directories, .rename, .append, .capacityReporting, .atomicReplace,
    .sequentialRead] ++ s.additionalCapabilities

/-- `FILE_READ` of a file; a path that is free or a directory's has none. -/
def openForRead (s : FileStorageBase) (path : CString) (opens : Bool) : Option FileHandle :=
  match s.fs.nodes path with
  | some (.file content) => if opens then some ⟨content, 0, true⟩ else none
  | _ => none

/-- The answer and the bytes read. -/
def read (s : FileStorageBase) (path : Option CString) (offset : Nat) (nullBuffer : Bool)
    (capacity : Nat) (n : ReadNatives) : FileStatus × Bytes :=
  if !s.ready then (.notInitialized, [])
  else
    match validPath path with
    | none => (.invalidArgument, [])
    | some path =>
        if nullBuffer && capacity ≠ 0 then (.invalidArgument, [])
        else
          match s.openForRead path n.opens with
          | none => (.notFound, [])
          | some file =>
              let (sought, accepted) := file.seek offset (n.seeks offset)
              if file.size < offset || !accepted then
                (if offset = file.close.size then .success else .ioError, [])
              else (.success, (sought.read capacity).2)

/-- The answer and the stream. -/
def openRead (s : FileStorageBase) (path : Option CString) (opens : Bool)
    (allocation : Allocation) : FileStatus × Option FileReadStream :=
  if !s.ready then (.notInitialized, none)
  else
    match validPath path with
    | none => (.invalidArgument, none)
    | some path =>
        match s.openForRead path opens with
        | none => (.notFound, none)
        | some file =>
            match allocation with
            | .badAlloc => (.noSpace, none)
            | .otherException => (.unknownError, none)
            | .null => (.noSpace, none)
            | .made => (.success, some (FileReadStream.create file))

def write (s : FileStorageBase) (path : Option CString) (source : Source) (mode : WriteMode)
    (n : WriteNatives) : FileStorageBase × FileStatus :=
  if !s.ready then (s, .notInitialized)
  else
    match validPath path with
    | none => (s, .invalidArgument)
    | some path =>
        if source.isNull && source.size ≠ 0 then (s, .invalidArgument)
        else if !n.opens then (s, .ioError)
        else
          let opened := s.fs.openForWrite path mode
          let (fs, written) :=
            if source.size = 0 then (opened, 0) else opened.write path source.data n.stored
          ({ s with fs := fs }, if written = source.size then .success else .partialWrite)

variable {s : FileStorageBase} {path : CString} {content : Bytes}

/-! ### Reading a stored file -/

/-- Where every seek is accepted, a read finds the content: as much of it as it
asks for, from wherever it starts. -/
def Reads (s : FileStorageBase) (path : CString) (content : Bytes) : Prop :=
  ∀ offset capacity, offset ≤ content.length →
    s.read (some path) offset false capacity ⟨true, fun _ => true⟩ =
      (.success, (content.drop offset).take capacity)

/-- **Reading a file**, by the filesystem's answer to the seek. -/
theorem read_of_file (hready : s.ready = true) (hpath : validPath (some path) = some path)
    (hfile : s.fs.nodes path = some (.file content)) (offset capacity : Nat)
    (seeks : Nat → Bool) :
    s.read (some path) offset false capacity ⟨true, seeks⟩ =
      if offset ≤ content.length ∧ seeks offset = true then
        (.success, (content.drop offset).take capacity)
      else (if offset = 0 then .success else .ioError, []) := by
  have hopened : s.openForRead path true = some ⟨content, 0, true⟩ := by
    simp [openForRead, hfile]
  cases hseek : seeks offset with
  | false =>
      simp only [read, hready, hpath, hopened, FileHandle.seek, hseek]
      simp
      rfl
  | true =>
      by_cases hinside : offset ≤ content.length
      · simp [read, hready, hpath, hopened, FileHandle.seek, FileHandle.read, hseek, hinside,
          Nat.not_lt.mpr hinside]
      · simp only [read, hready, hpath, hopened, FileHandle.seek, hseek]
        simp [hinside, Nat.not_le.mp hinside]
        rfl

theorem reads_of_file (hready : s.ready = true) (hpath : validPath (some path) = some path)
    (hfile : s.fs.nodes path = some (.file content)) : s.Reads path content := by
  intro offset capacity hinside
  rw [read_of_file hready hpath hfile, if_pos ⟨hinside, rfl⟩]

/-- What is read is what is stored. -/
theorem reads_iff (hready : s.ready = true) (hpath : validPath (some path) = some path) :
    s.Reads path content ↔ s.fs.nodes path = some (.file content) := by
  refine ⟨fun h => ?_, reads_of_file hready hpath⟩
  cases hnode : s.fs.nodes path with
  | none =>
      have hread := h 0 0 (Nat.zero_le _)
      simp [read, hready, hpath, openForRead, hnode] at hread
  | some node =>
      cases node with
      | directory =>
          have hread := h 0 0 (Nat.zero_le _)
          simp [read, hready, hpath, openForRead, hnode] at hread
      | file stored =>
          have hlarge := h 0 (max content.length stored.length) (Nat.zero_le _)
          rw [reads_of_file hready hpath hnode 0 _ (Nat.zero_le _)] at hlarge
          have hbytes := (Prod.mk.inj hlarge).2
          rw [List.drop_zero, List.drop_zero, List.take_of_length_le (by omega),
            List.take_of_length_le (by omega)] at hbytes
          rw [hbytes]

/-! ### Replacing a file -/

/-- The arguments are refused before the filesystem is asked. -/
def Refused (source : Source) : Prop := source.isNull = true ∧ source.size ≠ 0

/-- A write that is refused, or whose open is, leaves the storage as it is. -/
theorem write_refused {source : Source} {n : WriteNatives} (mode : WriteMode)
    (hready : s.ready = true) (hpath : validPath (some path) = some path)
    (h : Refused source ∨ n.opens = false) :
    (s.write (some path) source mode n).1 = s ∧
      (s.write (some path) source mode n).2 ≠ .success := by
  by_cases hrefused : source.isNull = true ∧ source.size ≠ 0
  · simp [write, hready, hpath, hrefused]
  · have hopens : n.opens = false := h.resolve_left hrefused
    simp [write, hready, hpath, hrefused, hopens]

/-- **A replacement** whose open is granted leaves what was stored of it, and
succeeds if that is all. -/
theorem write_replace {source : Source} {n : WriteNatives} (hready : s.ready = true)
    (hpath : validPath (some path) = some path) (hfile : s.fs.nodes path = some (.file content))
    (haccepted : ¬Refused source) (hopens : n.opens = true) :
    (s.write (some path) source .replace n).1.fs.nodes path =
        some (.file (source.data.take n.stored)) ∧
      ((s.write (some path) source .replace n).2 = .success ↔ source.data.length ≤ n.stored) := by
  have hrefused : ¬(source.isNull = true ∧ source.size ≠ 0) := haccepted
  have hsize : source.size = source.data.length := by
    cases source with
    | null size => simpa [Source.isNull, Source.size, Source.data] using hrefused
    | bytes data => rfl
  have htruncated : s.fs.openForWrite path .replace =
      ⟨Function.update s.fs.nodes path (some (.file []))⟩ := by
    simp [Files.openForWrite, hfile]
  have hstored : min n.stored source.data.length = source.data.length ↔
      source.data.length ≤ n.stored := by omega
  by_cases hempty : source.data.length = 0
  · have hnil : source.data = [] := List.eq_nil_of_length_eq_zero hempty
    simp [write, hready, hpath, hopens, htruncated, hsize, hnil]
  · have hpointer : source.isNull = false := by simpa [hsize, hempty] using hrefused
    simp [write, hready, hpath, hopens, htruncated, hsize, hempty, hpointer, Files.write, hstored]

/-- If the replacement does not succeed the old content is still there to be
read, and if it does the new one is. -/
def Replaces (s : FileStorageBase) (path : CString) (content : Bytes) (source : Source)
    (n : WriteNatives) : Prop :=
  let done := s.write (some path) source .replace n
  (done.2 ≠ .success → done.1.Reads path content) ∧
    (done.2 = .success → done.1.Reads path source.data)

theorem ready_write (source : Source) (mode : WriteMode) (n : WriteNatives) :
    (s.write (some path) source mode n).1.ready = s.ready := by
  simp only [write]
  split
  · rfl
  · split
    · rfl
    · split_ifs <;> rfl

/-- **Replacing a file.**  The replacement is atomic, as is declared, exactly if
it is refused before the file is opened, or the native write stores all of it,
or what it stores is the old content. -/
theorem replaces_iff (hready : s.ready = true) (hpath : validPath (some path) = some path)
    (hfile : s.Reads path content) (source : Source) (n : WriteNatives) :
    StorageCapability.atomicReplace ∈ s.getCapabilities ∧
      (s.Replaces path content source n ↔
        Refused source ∨ n.opens = false ∨ source.data.length ≤ n.stored ∨
          source.data.take n.stored = content) := by
  refine ⟨by simp [getCapabilities], ?_⟩
  have hnode := (reads_iff hready hpath).mp hfile
  by_cases hopened : Refused source ∨ n.opens = false
  · obtain ⟨hsame, hfailed⟩ := write_refused .replace hready hpath hopened
    have hkept : (s.write (some path) source .replace n).1.Reads path content := by
      rw [hsame]
      exact hfile
    refine iff_of_true ⟨fun _ => hkept, fun hdone => absurd hdone hfailed⟩ ?_
    rcases hopened with h | h
    · exact Or.inl h
    · exact Or.inr (Or.inl h)
  · obtain ⟨haccepted, hopens⟩ := not_or.mp hopened
    obtain ⟨hstored, hsuccess⟩ := write_replace hready hpath hnode haccepted (by simpa using hopens)
    have hreads : ∀ data, (s.write (some path) source .replace n).1.Reads path data ↔
        source.data.take n.stored = data := by
      intro data
      rw [reads_iff ((ready_write source .replace n).trans hready) hpath, hstored]
      simp
    simp only [Replaces, ne_eq, hreads, hsuccess]
    constructor
    · rintro ⟨hshort, -⟩
      by_cases hall : source.data.length ≤ n.stored
      · exact Or.inr (Or.inr (Or.inl hall))
      · exact Or.inr (Or.inr (Or.inr (hshort hall)))
    · intro h
      refine ⟨fun hshort => ?_, List.take_of_length_le⟩
      rcases h with h | h | h | h
      · exact absurd h haccepted
      · exact absurd h hopens
      · exact absurd h hshort
      · exact h

end FileStorageBase

/-- A file at `/f`, on a filesystem that holds no other. -/
def samplePath : CString := ⟨ascii "/f", by decide⟩

def sampleStorage (content : Bytes) : FileStorageBase :=
  ⟨⟨fun path => if path = samplePath then some (.file content) else none⟩, true, []⟩

theorem sampleStorage_reads (content : Bytes) : (sampleStorage content).Reads samplePath content :=
  FileStorageBase.reads_of_file rfl (by decide) (by simp [sampleStorage])

/-- Three bytes are replaced by two, of which one is stored. -/
theorem replaces_two_by_one :
    StorageCapability.atomicReplace ∈ (sampleStorage [1, 2, 3]).getCapabilities ∧
      ((sampleStorage [1, 2, 3]).Replaces samplePath [1, 2, 3] (.bytes [8, 9]) ⟨true, 1⟩ ↔
        FileStorageBase.Refused (.bytes [8, 9]) ∨ (⟨true, 1⟩ : WriteNatives).opens = false ∨
          (Source.bytes [8, 9]).data.length ≤ (⟨true, 1⟩ : WriteNatives).stored ∨
          (Source.bytes [8, 9]).data.take (⟨true, 1⟩ : WriteNatives).stored = [1, 2, 3]) :=
  FileStorageBase.replaces_iff rfl (by decide) (sampleStorage_reads _) _ _

theorem short_write_loses_content : ¬ ∀ (s : FileStorageBase) (path : CString) (content : Bytes)
    (source : Source) (n : WriteNatives), s.ready = true → validPath (some path) = some path →
    s.Reads path content → s.Replaces path content source n := by
  intro h
  have hlost := (h (sampleStorage [1, 2, 3]) samplePath [1, 2, 3] (.bytes [8, 9]) ⟨true, 1⟩ rfl
    (by decide) (sampleStorage_reads _)).1 (by decide) 0 3 (by decide)
  revert hlost
  decide

end Persistence
