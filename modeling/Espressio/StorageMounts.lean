import Espressio.FileOperations

/-!
# Storages and the filesystems they mount

`FFatStorage`, `LittleFSStorage`, `SPIFFSStorage`, `SDStorage` and `SDMMCStorage`
are `FileStorageBase` over one of Arduino's global filesystems each.  `Initialize`
begins the filesystem and `Shutdown` ends it.  Beginning one that is mounted
succeeds and changes nothing, and nobody counts who has begun it: any number of
storages may be ready on one filesystem, and the first that shuts down ends it
for all of them.

`mounts_shared_iff` says in which runs this goes well, and that many storages are
then as good as one.
-/

namespace Persistence

open NetworkBytes Runs

/-- Arduino's filesystems. -/
inductive Filesystem
  | ffat
  | littleFS
  | spiffs
  | sd
  | sdMMC
  deriving DecidableEq, Repr

/-- What a storage adds to the capabilities. -/
def Filesystem.additionalCapabilities : Filesystem → List StorageCapability
  | .sd => [.removable]
  | .sdMMC => [.removable]
  | _ => []

/-- `begin` of a filesystem with its arguments. -/
inductive BeginCall
  | ffat (formatOnFailure : Bool)
  | littleFS (formatOnFailure : Bool)
  | spiffs (formatOnFailure : Bool)
  | sd (chipSelectPin : UInt8) (frequency : UInt32)
  | sdMMC (oneBitMode formatOnFailure : Bool)
  deriving DecidableEq, Repr

def BeginCall.filesystem : BeginCall → Filesystem
  | .ffat _ => .ffat
  | .littleFS _ => .littleFS
  | .spiffs _ => .spiffs
  | .sd _ _ => .sd
  | .sdMMC _ _ => .sdMMC

/-- The filesystem may be formatted if it cannot be mounted. -/
def BeginCall.formats : BeginCall → Bool
  | .ffat formatOnFailure => formatOnFailure
  | .littleFS formatOnFailure => formatOnFailure
  | .spiffs formatOnFailure => formatOnFailure
  | .sd _ _ => false
  | .sdMMC _ formatOnFailure => formatOnFailure

/-- A storage: the call its `Initialize` makes, and whether it is ready. -/
structure MountedStorage where
  begins : BeginCall
  ready : Bool
  deriving DecidableEq, Repr

def MountedStorage.constructed (begins : BeginCall) : MountedStorage := ⟨begins, false⟩

def fFatStorage (formatOnFailure : Bool) : MountedStorage := .constructed (.ffat formatOnFailure)

def littleFSStorage (formatOnFailure : Bool) : MountedStorage :=
  .constructed (.littleFS formatOnFailure)

def spiffsStorage (formatOnFailure : Bool) : MountedStorage :=
  .constructed (.spiffs formatOnFailure)

def sdStorage (chipSelectPin : UInt8) (frequency : UInt32) : MountedStorage :=
  .constructed (.sd chipSelectPin frequency)

def sdMMCStorage (oneBitMode formatOnFailure : Bool) : MountedStorage :=
  .constructed (.sdMMC oneBitMode formatOnFailure)

/-- `StorageStatistics` -/
structure StorageStatistics where
  totalBytes : Nat
  usedBytes : Nat
  freeBytes : Nat
  capacityKnown : Bool
  deriving DecidableEq, Repr

/-- `GetStatistics`, with the answers of the filesystem.  A card of no capacity is
one whose capacity is not known. -/
def MountedStorage.getStatistics (s : MountedStorage) (totalBytes usedBytes : Nat) :
    StorageStatistics :=
  if !s.ready then ⟨0, 0, 0, false⟩
  else
    ⟨totalBytes, usedBytes, if totalBytes ≥ usedBytes then totalBytes - usedBytes else 0,
      match s.begins.filesystem with
      | .sd => totalBytes != 0
      | .sdMMC => totalBytes != 0
      | _ => true⟩

/-- What mounting a filesystem comes to. -/
inductive MountAnswer
  | mounted
  | formatted
  | failed
  deriving DecidableEq, Repr

/-- The statuses of `Initialize`. -/
inductive MountStatus
  | success
  | alreadyInitialized
  | ioError
  deriving DecidableEq, Repr

/-- The filesystems of the device, mounted or not, with what is on them, and the
storages that live. -/
structure Device where
  mounted : Filesystem → Bool
  files : Filesystem → Files
  storages : Nat → Option MountedStorage

namespace Device

/-- A device with these filesystems, none of them mounted. -/
def fresh (files : Filesystem → Files) : Device := ⟨fun _ => false, files, fun _ => none⟩

def put (s : Device) (place : Nat) (storage : Option MountedStorage) : Device :=
  { s with storages := Function.update s.storages place storage }

/-- `begin`.  Formatting leaves nothing on a filesystem. -/
def begin (s : Device) (call : BeginCall) (answer : MountAnswer) : Device × Bool :=
  if s.mounted call.filesystem then (s, true)
  else
    match answer, call.formats with
    | .mounted, _ => ({ s with mounted := Function.update s.mounted call.filesystem true }, true)
    | .formatted, true =>
        ({ s with
            mounted := Function.update s.mounted call.filesystem true
            files := Function.update s.files call.filesystem ⟨fun _ => none⟩ }, true)
    | _, _ => (s, false)

/-- `end`. -/
def endMount (s : Device) (fs : Filesystem) : Device :=
  { s with mounted := Function.update s.mounted fs false }

/-- `Initialize` of the storage at a place. -/
def initializeStorage (s : Device) (place : Nat) (storage : MountedStorage) (answer : MountAnswer) :
    Device × MountStatus :=
  if storage.ready then (s, .alreadyInitialized)
  else if !(s.begin storage.begins answer).2 then ((s.begin storage.begins answer).1, .ioError)
  else
    ((s.begin storage.begins answer).1.put place (some { storage with ready := true }), .success)

/-- `Shutdown` of the storage at a place. -/
def shutdown (s : Device) (place : Nat) (storage : MountedStorage) : Device :=
  (if storage.ready then s.endMount storage.begins.filesystem else s).put place
    (some { storage with ready := false })

/-- The storage's `FileStorageBase`: a filesystem that is not mounted opens no
path. -/
def base (s : Device) (storage : MountedStorage) : FileStorageBase :=
  ⟨if s.mounted storage.begins.filesystem then s.files storage.begins.filesystem
    else ⟨fun _ => none⟩, storage.ready, storage.begins.filesystem.additionalCapabilities⟩

/-- An operation of the storage on files; on a filesystem that is not mounted it
does nothing. -/
def perform (s : Device) (storage : MountedStorage) (op : FileOp) : Device :=
  if s.mounted storage.begins.filesystem then
    { s with
      files := Function.update s.files storage.begins.filesystem ((s.base storage).apply op).fs }
  else s

/-- What is done with the storages.  The destructor leaves the filesystem as it is. -/
inductive Op
  | construct (place : Nat) (begins : BeginCall)
  | initializeStorage (place : Nat) (answer : MountAnswer)
  | shutdown (place : Nat)
  | destroy (place : Nat)
  | perform (place : Nat) (op : FileOp)

/-- One operation, with what a storage that is ready is asked to do with files. -/
def step (s : Device) : Op → Device × List (Filesystem × FileOp)
  | .construct place begins =>
      match s.storages place with
      | none => (s.put place (some (.constructed begins)), [])
      | some _ => (s, [])
  | .initializeStorage place answer =>
      match s.storages place with
      | none => (s, [])
      | some storage => ((s.initializeStorage place storage answer).1, [])
  | .shutdown place =>
      match s.storages place with
      | none => (s, [])
      | some storage => (s.shutdown place storage, [])
  | .destroy place => (s.put place none, [])
  | .perform place op =>
      match s.storages place with
      | none => (s, [])
      | some storage =>
          (s.perform storage op,
            if storage.ready then [(storage.begins.filesystem, op)] else [])

/-- The filesystem of the storage at a place, if it is ready. -/
def uses (s : Device) (place : Nat) : Option Filesystem :=
  (s.storages place).bind fun storage =>
    if storage.ready then some storage.begins.filesystem else none

/-- A filesystem is mounted while a storage on it is ready, and not otherwise. -/
def Sound (s : Device) : Prop := ∀ fs, s.mounted fs = true ↔ ∃ place, s.uses place = some fs

/-- What may go wrong: a `Shutdown` while another storage is ready on the same
filesystem, and the destruction of the last that is. -/
def Leaks (s : Device) : Op → Prop
  | .shutdown place => ∃ fs other, s.uses place = some fs ∧ s.uses other = some fs ∧ other ≠ place
  | .destroy place => ∃ fs, s.uses place = some fs ∧ ∀ other, s.uses other = some fs → other = place
  | _ => False

/-- The operation formats the filesystem. -/
def Formats (s : Device) (fs : Filesystem) : Op → Prop
  | .initializeStorage place .formatted => ∃ storage, s.storages place = some storage ∧
      storage.ready = false ∧ storage.begins.filesystem = fs ∧ storage.begins.formats = true ∧
      s.mounted fs = false
  | _ => False

end Device

/-- One storage, ready on a filesystem of which nobody else knows. -/
def alone (fs : Filesystem) (files : Files) : FileStorageBase :=
  ⟨files, true, fs.additionalCapabilities⟩

/-- What was asked of a filesystem. -/
def askedOf (fs : Filesystem) (asked : List (Filesystem × FileOp)) : List FileOp :=
  (asked.filter fun x => x.1 = fs).map Prod.snd

/-- What is free is the rest of what there is, and of a capacity that is not known
there is none. -/
theorem statistics_account (s : MountedStorage) (totalBytes usedBytes : Nat) :
    let value := s.getStatistics totalBytes usedBytes
    value.freeBytes = value.totalBytes - value.usedBytes ∧
      (value.capacityKnown = false → value.totalBytes = 0) := by
  dsimp only [MountedStorage.getStatistics]
  split
  · exact ⟨rfl, fun _ => rfl⟩
  · refine ⟨?_, fun hunknown => ?_⟩
    · dsimp only
      split
      · rfl
      · omega
    · dsimp only at hunknown ⊢
      split at hunknown
      · simpa using hunknown
      · simpa using hunknown
      · cases hunknown

theorem askedOf_append (fs : Filesystem) (asked next : List (Filesystem × FileOp)) :
    askedOf fs (asked ++ next) = askedOf fs asked ++ askedOf fs next := by
  simp [askedOf]

namespace Device

variable {s t : Device} {place : Nat} {storage : MountedStorage} {fs : Filesystem}

/-! ## Who uses what -/

theorem uses_of_storage (h : s.storages place = some storage) :
    s.uses place = if storage.ready then some storage.begins.filesystem else none := by
  rw [uses, h, Option.bind_some]

theorem uses_put (s : Device) (place : Nat) (storage : Option MountedStorage) :
    (s.put place storage).uses = Function.update s.uses place (storage.bind fun storage =>
      if storage.ready then some storage.begins.filesystem else none) := by
  funext other
  by_cases hplace : other = place
  · subst hplace
    simp [uses, put]
  · simp [uses, put, Function.update_of_ne hplace]

/-- A step in which no storage becomes ready or ceases to be. -/
structure Same (s t : Device) : Prop where
  uses : t.uses = s.uses
  mounted : t.mounted = s.mounted

theorem Same.sound (h : Same s t) (hs : Sound s) : Sound t := by
  intro fs
  rw [h.uses, h.mounted]
  exact hs fs

/-- The storage at a place is ready now, and its filesystem mounted. -/
structure Joined (s t : Device) (place : Nat) (fs : Filesystem) : Prop where
  free : s.uses place = none
  uses : t.uses = Function.update s.uses place (some fs)
  mounted : t.mounted = Function.update s.mounted fs true

theorem Joined.sound (h : Joined s t place fs) (hs : Sound s) : Sound t := by
  intro other
  rw [h.uses, h.mounted]
  by_cases hother : other = fs
  · subst hother
    exact iff_of_true (Function.update_self ..) ⟨place, Function.update_self ..⟩
  · rw [Function.update_of_ne hother, hs other]
    constructor
    · intro huser
      obtain ⟨user, huser⟩ := huser
      have hne : user ≠ place := by
        intro heq
        subst heq
        rw [h.free] at huser
        cases huser
      exact ⟨user, by rw [Function.update_of_ne hne, huser]⟩
    · intro huser
      obtain ⟨user, huser⟩ := huser
      have hne : user ≠ place := by
        intro heq
        subst heq
        rw [Function.update_self] at huser
        exact hother (Option.some.inj huser).symm
      rw [Function.update_of_ne hne] at huser
      exact ⟨user, huser⟩

/-- The storage at a place is no longer ready. -/
structure Parted (s t : Device) (place : Nat) (fs : Filesystem) : Prop where
  used : s.uses place = some fs
  uses : t.uses = Function.update s.uses place none
  mounted : ∀ other, other ≠ fs → t.mounted other = s.mounted other

theorem Parted.exists_iff (h : Parted s t place fs) (other : Filesystem) :
    (∃ user, t.uses user = some other) ↔ ∃ user, s.uses user = some other ∧ user ≠ place := by
  rw [h.uses]
  constructor
  · intro huser
    obtain ⟨user, huser⟩ := huser
    by_cases hne : user = place
    · rw [hne, Function.update_self] at huser
      cases huser
    · rw [Function.update_of_ne hne] at huser
      exact ⟨user, huser, hne⟩
  · intro huser
    obtain ⟨user, huser, hne⟩ := huser
    exact ⟨user, by rw [Function.update_of_ne hne, huser]⟩

/-- The others' filesystems are as they were. -/
theorem Parted.sound_iff (h : Parted s t place fs) (hs : Sound s) :
    Sound t ↔ (t.mounted fs = true ↔ ∃ other, s.uses other = some fs ∧ other ≠ place) := by
  rw [← h.exists_iff]
  refine ⟨fun ht => ht fs, fun hfs other => ?_⟩
  by_cases hother : other = fs
  · rw [hother]
    exact hfs
  · rw [h.mounted other hother, hs other, h.exists_iff]
    constructor
    · intro huser
      obtain ⟨user, huser⟩ := huser
      refine ⟨user, huser, ?_⟩
      intro heq
      subst heq
      exact hother (Option.some.inj (huser.symm.trans h.used))
    · intro huser
      obtain ⟨user, huser, -⟩ := huser
      exact ⟨user, huser⟩

/-! ## One operation -/

theorem begin_cases (s : Device) (call : BeginCall) (answer : MountAnswer) :
    (s.begin call answer = (s, false)) ∨
      ((s.begin call answer).2 = true ∧ (s.begin call answer).1.storages = s.storages ∧
        (s.begin call answer).1.mounted = Function.update s.mounted call.filesystem true) := by
  unfold begin
  split
  · rename_i hmounted
    exact .inr ⟨rfl, rfl, (Function.update_eq_self_iff.mpr hmounted.symm).symm⟩
  · split
    · exact .inr ⟨rfl, rfl, rfl⟩
    · exact .inr ⟨rfl, rfl, rfl⟩
    · exact .inl rfl

/-- An `Initialize` changes nothing, or makes the storage ready. -/
theorem initializeStorage_cases (h : s.storages place = some storage) (answer : MountAnswer) :
    let t := (s.initializeStorage place storage answer).1
    t = s ∨ Joined s t place storage.begins.filesystem := by
  dsimp only [initializeStorage]
  by_cases hready : storage.ready = true
  · rw [if_pos hready]
    exact .inl rfl
  · rw [if_neg hready]
    rcases s.begin_cases storage.begins answer with hfailed | ⟨hbegun, hstorages, hmounted⟩
    · rw [hfailed]
      exact .inl rfl
    · rw [hbegun]
      refine .inr ⟨?_, ?_, hmounted⟩
      · rw [uses_of_storage h, if_neg hready]
      · have huses : (s.begin storage.begins answer).1.uses = s.uses := by
          funext other
          rw [uses, hstorages, uses]
        simp only [Bool.not_true, Bool.false_eq_true, if_false]
        rw [uses_put, huses]
        rfl

/-- A `Shutdown` of a storage that is not ready, or of one that is. -/
theorem shutdown_cases (h : s.storages place = some storage) :
    (s.uses place = none ∧ Same s (s.shutdown place storage)) ∨
      Parted s (s.shutdown place storage) place storage.begins.filesystem ∧
        (s.shutdown place storage).mounted storage.begins.filesystem = false := by
  have huses := uses_of_storage h
  cases hready : storage.ready with
  | false =>
      rw [if_neg (by simp [hready])] at huses
      refine .inl ⟨huses, ?_, by simp [shutdown, hready, put]⟩
      simp only [shutdown, hready, Bool.false_eq_true, if_false]
      rw [uses_put]
      exact Function.update_eq_self_iff.mpr huses.symm
  | true =>
      rw [if_pos hready] at huses
      refine .inr ⟨⟨huses, ?_, fun other hother => ?_⟩, ?_⟩
      · simp only [shutdown, hready, if_true]
        rw [uses_put]
        rfl
      · simp [shutdown, hready, put, endMount, Function.update_of_ne hother]
      · simp [shutdown, hready, put, endMount]

/-- A storage destroyed that is not ready, or one that is. -/
theorem destroy_cases (s : Device) (place : Nat) :
    (s.uses place = none ∧ Same s (s.put place none)) ∨
      ∃ fs, Parted s (s.put place none) place fs := by
  have hput : (s.put place none).uses = Function.update s.uses place none :=
    uses_put s place none
  cases huses : s.uses place with
  | none =>
      refine .inl ⟨rfl, ?_, rfl⟩
      rw [hput]
      exact Function.update_eq_self_iff.mpr huses.symm
  | some fs => exact .inr ⟨fs, huses, hput, fun _ _ => rfl⟩

theorem sound_construct (hs : Sound s) (place : Nat) (begins : BeginCall) :
    Sound (s.step (.construct place begins)).1 := by
  cases hstorage : s.storages place with
  | some storage => simpa [step, hstorage] using hs
  | none =>
      have hsame : Same s (s.put place (some (.constructed begins))) := by
        refine ⟨?_, rfl⟩
        rw [uses_put]
        exact Function.update_eq_self_iff.mpr
          (by simp [uses, hstorage, MountedStorage.constructed])
      simpa [step, hstorage] using hsame.sound hs

theorem sound_initializeStorage (hs : Sound s) (place : Nat) (answer : MountAnswer) :
    Sound (s.step (.initializeStorage place answer)).1 := by
  cases hstorage : s.storages place with
  | none => simpa [step, hstorage] using hs
  | some storage =>
      simp only [step, hstorage]
      rcases initializeStorage_cases hstorage answer with hsame | hjoined
      · rw [hsame]
        exact hs
      · exact hjoined.sound hs

theorem sound_shutdown_iff (hs : Sound s) (place : Nat) :
    Sound (s.step (.shutdown place)).1 ↔ ¬Leaks s (.shutdown place) := by
  cases hstorage : s.storages place with
  | none =>
      refine iff_of_true (by simpa [step, hstorage] using hs) ?_
      intro hleaks
      obtain ⟨fs, -, huses, -⟩ := hleaks
      simp [uses, hstorage] at huses
  | some storage =>
      simp only [step, hstorage]
      rcases shutdown_cases hstorage with ⟨hnone, hsame⟩ | ⟨hparted, hended⟩
      · refine iff_of_true (hsame.sound hs) ?_
        intro hleaks
        obtain ⟨fs, -, huses, -⟩ := hleaks
        rw [hnone] at huses
        cases huses
      · rw [hparted.sound_iff hs, hended]
        constructor
        · intro hothers hleaks
          obtain ⟨fs, other, huses, hother, hne⟩ := hleaks
          obtain rfl := Option.some.inj (hparted.used.symm.trans huses)
          exact Bool.false_ne_true (hothers.mpr ⟨other, hother, hne⟩)
        · intro hno
          refine iff_of_false Bool.false_ne_true ?_
          intro hothers
          obtain ⟨other, hother, hne⟩ := hothers
          exact hno ⟨_, other, hparted.used, hother, hne⟩

theorem sound_destroy_iff (hs : Sound s) (place : Nat) :
    Sound (s.step (.destroy place)).1 ↔ ¬Leaks s (.destroy place) := by
  simp only [step]
  rcases destroy_cases s place with ⟨hnone, hsame⟩ | ⟨fs, hparted⟩
  · refine iff_of_true (hsame.sound hs) ?_
    intro hleaks
    obtain ⟨fs, huses, -⟩ := hleaks
    rw [hnone] at huses
    cases huses
  · have hmounted : (s.put place none).mounted fs = true := (hs fs).mpr ⟨place, hparted.used⟩
    rw [hparted.sound_iff hs, hmounted]
    constructor
    · intro hothers hleaks
      obtain ⟨fs', huses, hlast⟩ := hleaks
      obtain rfl := Option.some.inj (hparted.used.symm.trans huses)
      obtain ⟨other, hother, hne⟩ := hothers.mp rfl
      exact hne (hlast other hother)
    · intro hno
      refine iff_of_true rfl ?_
      by_contra hlast
      refine hno ⟨fs, hparted.used, fun other hother => ?_⟩
      by_contra hne
      exact hlast ⟨other, hother, hne⟩

theorem sound_perform (hs : Sound s) (place : Nat) (op : FileOp) :
    Sound (s.step (.perform place op)).1 := by
  cases hstorage : s.storages place with
  | none => simpa [step, hstorage] using hs
  | some storage =>
      simp only [step, hstorage, perform]
      split
      · exact hs
      · exact hs

/-- **One operation** keeps the mounts as the storages need them exactly if it
does not leak. -/
theorem sound_step_iff (hs : Sound s) (op : Op) : Sound (s.step op).1 ↔ ¬Leaks s op := by
  cases op with
  | construct place begins => exact iff_of_true (sound_construct hs place begins) id
  | initializeStorage place answer =>
      exact iff_of_true (sound_initializeStorage hs place answer) id
  | shutdown place => exact sound_shutdown_iff hs place
  | destroy place => exact sound_destroy_iff hs place
  | perform place op => exact iff_of_true (sound_perform hs place op) id

/-! ## The files -/

theorem files_initializeStorage (h : s.storages place = some storage) {answer : MountAnswer}
    (hkept : ¬Formats s fs (.initializeStorage place answer)) :
    (s.initializeStorage place storage answer).1.files fs = s.files fs := by
  dsimp only [initializeStorage]
  by_cases hready : storage.ready = true
  · rw [if_pos hready]
  · rw [if_neg hready]
    have hbegin : (s.begin storage.begins answer).1.files fs = s.files fs := by
      unfold begin
      split
      · rfl
      · rename_i hmounted
        split
        · rfl
        · rename_i hformats
          have hother : fs ≠ storage.begins.filesystem := by
            intro heq
            subst heq
            exact hkept ⟨storage, h, Bool.eq_false_iff.mpr hready, rfl, hformats,
              Bool.eq_false_iff.mpr hmounted⟩
          exact Function.update_of_ne hother _ _
        · rfl
    split
    · exact hbegin
    · exact hbegin

theorem perform_of_not_ready (h : storage.ready = false) (op : FileOp) :
    s.perform storage op = s := by
  unfold perform
  split
  · rename_i hmounted
    have hbase : (s.base storage).apply op = s.base storage := apply_of_not_ready h op
    have hfiles : (s.base storage).fs = s.files storage.begins.filesystem := if_pos hmounted
    rw [hbase, hfiles, Function.update_eq_self]
  · rfl

/-- On a filesystem that is mounted a storage does what one alone would. -/
theorem perform_of_mounted (hready : storage.ready = true)
    (hmounted : s.mounted storage.begins.filesystem = true) (op : FileOp) :
    s.perform storage op =
      let fs := storage.begins.filesystem
      { s with files := Function.update s.files fs ((alone fs (s.files fs)).apply op).fs } := by
  have hbase : s.base storage =
      alone storage.begins.filesystem (s.files storage.begins.filesystem) := by
    rw [base, if_pos hmounted, hready, alone]
  rw [perform, if_pos hmounted, hbase]

/-- **One operation** does with the files what one storage would. -/
theorem files_step (hs : Sound s) {op : Op} (hkept : ¬Formats s fs op) :
    alone fs ((s.step op).1.files fs) =
      (askedOf fs (s.step op).2).foldl FileStorageBase.apply (alone fs (s.files fs)) := by
  cases op with
  | construct place begins =>
      cases hstorage : s.storages place with
      | none => simp [step, hstorage, askedOf, put]
      | some storage => simp [step, hstorage, askedOf]
  | initializeStorage place answer =>
      cases hstorage : s.storages place with
      | none => simp [step, hstorage, askedOf]
      | some storage =>
          simp only [step, hstorage]
          rw [files_initializeStorage hstorage hkept]
          rfl
  | shutdown place =>
      cases hstorage : s.storages place with
      | none => simp [step, hstorage, askedOf]
      | some storage =>
          cases hready : storage.ready <;>
            simp [step, hstorage, askedOf, shutdown, hready, put, endMount]
  | destroy place => rfl
  | perform place op =>
      cases hstorage : s.storages place with
      | none => simp [step, hstorage, askedOf]
      | some storage =>
          simp only [step, hstorage]
          cases hready : storage.ready with
          | false => rw [perform_of_not_ready hready]; rfl
          | true =>
              have huses : s.uses place = some storage.begins.filesystem := by
                rw [uses_of_storage hstorage, if_pos hready]
              rw [perform_of_mounted hready ((hs _).mpr ⟨place, huses⟩), if_pos rfl]
              dsimp only
              by_cases hfs : fs = storage.begins.filesystem
              · subst hfs
                have hasked : askedOf storage.begins.filesystem
                    [(storage.begins.filesystem, op)] = [op] := by simp [askedOf]
                rw [Function.update_self, hasked, List.foldl_cons, List.foldl_nil, apply_eq]
                rfl
              · have hasked : askedOf fs [(storage.begins.filesystem, op)] = [] := by
                  simp [askedOf, Ne.symm hfs]
                rw [Function.update_of_ne hfs, hasked, List.foldl_nil]

/-- The mounts are as the storages need them, and a filesystem holds what one
storage alone would have made of it. -/
structure Shared (files : Files) (fs : Filesystem) (s : Device)
    (asked : List (Filesystem × FileOp)) : Prop where
  sound : Sound s
  content : alone fs (s.files fs) =
    (askedOf fs asked).foldl FileStorageBase.apply (alone fs files)

theorem Shared.step {files : Files} {asked : List (Filesystem × FileOp)}
    (h : Shared files fs s asked) {op : Op} (hleaks : ¬Leaks s op) (hformats : ¬Formats s fs op) :
    Shared files fs (s.step op).1 (asked ++ (s.step op).2) where
  sound := (sound_step_iff h.sound op).mpr hleaks
  content := by
    rw [files_step h.sound hformats, h.content, askedOf_append, List.foldl_append]

/-- **Filesystems are shared.**  Over any run of any number of storages on the
device's filesystems, each filesystem is mounted while some storage on it is ready
and not otherwise, exactly if no storage is shut down while another is ready on
the same filesystem and none is destroyed that is the last to be ready on its own.
Then a filesystem that is not formatted holds what one storage would have made of
it that had been asked for everything that was asked of all of them. -/
theorem mounts_shared_iff (files : Filesystem → Files) (ops : List Op) :
    let run := trace step (fresh files) ops
    ((∀ x ∈ run, Sound (x.1.step x.2).1) ↔ ∀ x ∈ run, ¬Leaks x.1 x.2) ∧
      ∀ fs, Along step (fun s op => ¬Leaks s op ∧ ¬Formats s fs op) (fresh files) ops →
        alone fs ((feed step (fresh files) ops).1.files fs) =
          (askedOf fs (feed step (fresh files) ops).2).foldl FileStorageBase.apply
            (alone fs (files fs)) := by
  have hsound : Sound (fresh files) := fun fs => by simp [fresh, uses]
  have hleaks : ∀ (s : Device) (op : Op), True → Sound s → (Sound (s.step op).1 ↔ ¬Leaks s op) :=
    fun _ op _ hs => sound_step_iff hs op
  refine ⟨trace_forall_iff (fun _ _ _ => trivial) hleaks trivial hsound ops, fun fs hkept => ?_⟩
  have hstep : ∀ (s : Device) (asked : List (Filesystem × FileOp)) (op : Op),
      (¬Leaks s op ∧ ¬Formats s fs op) → Shared (files fs) fs s asked →
        Shared (files fs) fs (s.step op).1 (asked ++ (s.step op).2) :=
    fun _ _ _ hop h => h.step hop.1 hop.2
  exact (Along.invariant hstep hkept
    (⟨hsound, rfl⟩ : Shared (files fs) fs (fresh files) [])).content

/-- A file is written through one storage and appended to through another. -/
def sampleShare : List Op :=
  [.construct 0 (.littleFS false), .construct 1 (.littleFS false),
    .initializeStorage 0 .mounted, .initializeStorage 1 .failed,
    .perform 0 (.write (some samplePath) (.bytes [1]) .replace ⟨true, 1⟩),
    .perform 1 (.write (some samplePath) (.bytes [2]) .append ⟨true, 1⟩)]

theorem sampleShare_content :
    alone .littleFS
        ((feed step (fresh fun _ => ⟨fun _ => none⟩) sampleShare).1.files .littleFS) =
      (askedOf .littleFS (feed step (fresh fun _ => ⟨fun _ => none⟩) sampleShare).2).foldl
        FileStorageBase.apply (alone .littleFS ⟨fun _ => none⟩) :=
  (mounts_shared_iff (fun _ => ⟨fun _ => none⟩) sampleShare).2 .littleFS
    ⟨⟨id, id⟩, ⟨id, id⟩, ⟨id, id⟩, ⟨id, id⟩, ⟨id, id⟩, ⟨id, id⟩, trivial⟩

/-- Two storages share a filesystem, and the first shuts down: the second is still
ready, on a filesystem that is not mounted. -/
example :
    let s := (feed step (fresh fun _ => ⟨fun _ => none⟩)
      [.construct 0 (.littleFS false), .construct 1 (.littleFS false),
        .initializeStorage 0 .mounted, .initializeStorage 1 .failed, .shutdown 0]).1
    s.uses 1 = some .littleFS ∧ s.mounted .littleFS = false := by decide

end Device
end Persistence
