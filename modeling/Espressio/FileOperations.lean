import Espressio.FileReaders

/-!
# The other operations on files

The rest of `FileStorageBase`: the operations that remove, rename and create,
and those that look without reading.  They check their arguments and ask the
filesystem first whether the paths are taken, and leave the rest to it; what it
does then is an argument here (`ChangeNatives`).

They change the filesystem alone (`apply_eq`), and nothing while the storage is
not ready.  `visit_spec` says what the callback of `List` is given.
-/

namespace Persistence

open NetworkBytes

/-! ## The filesystem -/

/-- The calls of an `fs::FS` that change what there is: what each makes of it, and
its answer. -/
structure ChangeNatives where
  remove : CString → Files → Files × Bool
  rename : CString → CString → Files → Files × Bool
  mkdir : CString → Files → Files × Bool
  rmdir : CString → Files → Files × Bool

/-- The statuses of the operations that change what there is. -/
inductive ChangeStatus
  | success
  | notInitialized
  | invalidArgument
  | notFound
  | alreadyExists
  | ioError
  deriving DecidableEq, Repr

/-- `StorageEntry` -/
structure StorageEntry where
  path : Bytes
  isDirectory : Bool
  size : Nat
  deriving DecidableEq, Repr

/-- `CopyPath` into an array of `maximumPathLength` bytes: what is before the
terminator. -/
def copyPath (maximumPathLength : Nat) (source : Option CString) : Bytes :=
  ((source.map CString.bytes).getD []).take (maximumPathLength - 1)

/-- The entry of an opened handle. -/
def storageEntry (maximumPathLength : Nat) (path : Option CString) : Node → StorageEntry
  | .directory => ⟨copyPath maximumPathLength path, true, 0⟩
  | .file content => ⟨copyPath maximumPathLength path, false, content.length⟩

/-- The loop of `List` over what `openNextFile` gives.  The callback answers on
what it has been given so far. -/
def visit (maximumPathLength : Nat) (callback : List StorageEntry → Bool) :
    List StorageEntry → List (Option CString × Node) → List StorageEntry
  | given, [] => given
  | given, (path, node) :: rest =>
      let given := given ++ [storageEntry maximumPathLength path node]
      if callback given then visit maximumPathLength callback given rest else given

namespace FileStorageBase

/-- The answer of `Exists`, and `exists` unless it is left alone. -/
def existsPath (s : FileStorageBase) (path : Option CString) : ChangeStatus × Option Bool :=
  if !s.ready then (.notInitialized, none)
  else
    match validPath path with
    | none => (.invalidArgument, none)
    | some path => (.success, some (s.fs.nodes path).isSome)

/-- The answer of `Stat` and the entry. -/
def stat (s : FileStorageBase) (maximumPathLength : Nat) (path : Option CString) (opens : Bool) :
    FileStatus × Option StorageEntry :=
  if !s.ready then (.notInitialized, none)
  else
    match validPath path with
    | none => (.invalidArgument, none)
    | some path =>
        match s.fs.nodes path, opens with
        | some node, true => (.success, some (storageEntry maximumPathLength (some path) node))
        | _, _ => (.notFound, none)

/-- The answer of `List` and what the callback has been given. -/
def listDirectory (s : FileStorageBase) (maximumPathLength : Nat) (path : Option CString)
    (callback : Option (List StorageEntry → Bool)) (opens : Bool)
    (files : List (Option CString × Node)) : FileStatus × List StorageEntry :=
  if !s.ready then (.notInitialized, [])
  else
    match validPath path, callback with
    | some path, some callback =>
        match s.fs.nodes path, opens with
        | some .directory, true => (.success, visit maximumPathLength callback [] files)
        | _, _ => (.notFound, [])
    | _, _ => (.invalidArgument, [])

/-- What a native call has made of the filesystem, and the status of its answer. -/
def changed (s : FileStorageBase) (native : Files × Bool) : FileStorageBase × ChangeStatus :=
  ({ s with fs := native.1 }, if native.2 then .success else .ioError)

def remove (s : FileStorageBase) (path : Option CString) (n : ChangeNatives) :
    FileStorageBase × ChangeStatus :=
  if !s.ready then (s, .notInitialized)
  else
    match validPath path with
    | none => (s, .invalidArgument)
    | some path =>
        if (s.fs.nodes path).isNone then (s, .notFound)
        else s.changed (n.remove path s.fs)

def rename (s : FileStorageBase) (source target : Option CString) (n : ChangeNatives) :
    FileStorageBase × ChangeStatus :=
  if !s.ready then (s, .notInitialized)
  else
    match validPath source, validPath target with
    | some source, some target =>
        if (s.fs.nodes source).isNone then (s, .notFound)
        else if (s.fs.nodes target).isSome then (s, .alreadyExists)
        else s.changed (n.rename source target s.fs)
    | _, _ => (s, .invalidArgument)

def createDirectory (s : FileStorageBase) (path : Option CString) (n : ChangeNatives) :
    FileStorageBase × ChangeStatus :=
  if !s.ready then (s, .notInitialized)
  else
    match validPath path with
    | none => (s, .invalidArgument)
    | some path =>
        if (s.fs.nodes path).isSome then (s, .alreadyExists)
        else s.changed (n.mkdir path s.fs)

def removeDirectory (s : FileStorageBase) (path : Option CString) (n : ChangeNatives) :
    FileStorageBase × ChangeStatus :=
  if !s.ready then (s, .notInitialized)
  else
    match validPath path with
    | none => (s, .invalidArgument)
    | some path =>
        if (s.fs.nodes path).isNone then (s, .notFound)
        else s.changed (n.rmdir path s.fs)

end FileStorageBase

/-- The operations that may change the filesystem. -/
inductive FileOp
  | write (path : Option CString) (source : Source) (mode : WriteMode) (natives : WriteNatives)
  | remove (path : Option CString) (natives : ChangeNatives)
  | rename (source target : Option CString) (natives : ChangeNatives)
  | createDirectory (path : Option CString) (natives : ChangeNatives)
  | removeDirectory (path : Option CString) (natives : ChangeNatives)

namespace FileStorageBase

def apply (s : FileStorageBase) : FileOp → FileStorageBase
  | .write path source mode natives => (s.write path source mode natives).1
  | .remove path natives => (s.remove path natives).1
  | .rename source target natives => (s.rename source target natives).1
  | .createDirectory path natives => (s.createDirectory path natives).1
  | .removeDirectory path natives => (s.removeDirectory path natives).1

end FileStorageBase

/-! ## Listing a directory -/

/-- **Listing.**  The callback is given the entries in their order, up to the
first it refuses, and all of them if it refuses none. -/
theorem visit_spec (maximumPathLength : Nat) (callback : List StorageEntry → Bool)
    (given : List StorageEntry) (files : List (Option CString × Node)) :
    ∃ shown rest, files = shown ++ rest ∧
      visit maximumPathLength callback given files =
        given ++ shown.map (fun x => storageEntry maximumPathLength x.1 x.2) ∧
      (∀ first last, shown = first ++ last → first ≠ [] → last ≠ [] →
        callback (given ++ first.map fun x => storageEntry maximumPathLength x.1 x.2) = true) ∧
      (rest ≠ [] → shown ≠ [] ∧
        callback (visit maximumPathLength callback given files) = false) := by
  induction files generalizing given with
  | nil => exact ⟨[], [], rfl, by simp [visit], by simp, fun h => absurd rfl h⟩
  | cons file files ih =>
      obtain ⟨path, node⟩ := file
      cases hanswer : callback (given ++ [storageEntry maximumPathLength path node]) with
      | false =>
          refine ⟨[(path, node)], files, rfl, by simp [visit, hanswer], ?_, fun _ => ⟨by simp, ?_⟩⟩
          · intro first last hsplit hfirst hlast
            have hlength := congrArg List.length hsplit
            have := List.length_pos_iff.mpr hfirst
            have := List.length_pos_iff.mpr hlast
            simp at hlength
            omega
          · simp [visit, hanswer]
      | true =>
          obtain ⟨shown, rest, rfl, hvisit, hbefore, hafter⟩ :=
            ih (given ++ [storageEntry maximumPathLength path node])
          refine ⟨(path, node) :: shown, rest, rfl, by simp [visit, hanswer, hvisit], ?_,
            fun hrest => ⟨by simp, ?_⟩⟩
          · intro first last hsplit hfirst hlast
            cases first with
            | nil => exact absurd rfl hfirst
            | cons entry first =>
                obtain ⟨rfl, hshown⟩ := List.cons.inj hsplit
                cases first with
                | nil => simpa using hanswer
                | cons next first =>
                    simpa using hbefore (next :: first) last hshown (by simp) hlast
          · simpa [visit, hanswer] using (hafter hrest).2

/-! ## Changing the filesystem -/

variable {s : FileStorageBase}

/-- An operation changes the filesystem alone. -/
theorem apply_eq (s : FileStorageBase) (op : FileOp) :
    s.apply op = { s with fs := (s.apply op).fs } := by
  cases op with
  | write path source mode n =>
      simp only [FileStorageBase.apply, FileStorageBase.write]
      split
      · rfl
      · cases validPath path with
        | none => rfl
        | some valid => dsimp only; split_ifs <;> rfl
  | remove path n =>
      simp only [FileStorageBase.apply, FileStorageBase.remove]
      split
      · rfl
      · cases validPath path with
        | none => rfl
        | some valid => dsimp only; split_ifs <;> rfl
  | rename source target n =>
      simp only [FileStorageBase.apply, FileStorageBase.rename]
      split
      · rfl
      · split
        · split_ifs <;> rfl
        · rfl
  | createDirectory path n =>
      simp only [FileStorageBase.apply, FileStorageBase.createDirectory]
      split
      · rfl
      · cases validPath path with
        | none => rfl
        | some valid => dsimp only; split_ifs <;> rfl
  | removeDirectory path n =>
      simp only [FileStorageBase.apply, FileStorageBase.removeDirectory]
      split
      · rfl
      · cases validPath path with
        | none => rfl
        | some valid => dsimp only; split_ifs <;> rfl

/-- A storage that is not ready does nothing. -/
theorem apply_of_not_ready (h : s.ready = false) (op : FileOp) : s.apply op = s := by
  cases op with
  | write path source mode n => simp [FileStorageBase.apply, FileStorageBase.write, h]
  | remove path n => simp [FileStorageBase.apply, FileStorageBase.remove, h]
  | rename source target n => simp [FileStorageBase.apply, FileStorageBase.rename, h]
  | createDirectory path n => simp [FileStorageBase.apply, FileStorageBase.createDirectory, h]
  | removeDirectory path n => simp [FileStorageBase.apply, FileStorageBase.removeDirectory, h]

end Persistence
