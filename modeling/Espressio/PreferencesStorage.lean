import Mathlib.Logic.Function.Basic
import Espressio.NetworkBytes
import Espressio.Runs

/-!
# Key-value storage over Preferences

`PreferencesStorage` keeps byte values under short keys in one NVS namespace,
through Arduino's `Preferences`.  That library answers a write with a byte
count: the length when the bytes were stored, and zero when nothing was, both
after a failure and for a value of no bytes, which it never stores.

`write` compares the count with the size it was given.  The comparison tells a
failed write from a successful one for every value but the empty one:
`write_kept_iff` says that what was written successfully is what later reads
find exactly when it was not empty, or an empty value was stored already.
-/

namespace Persistence

open NetworkBytes Runs

/-- A C string: its bytes before the terminator. -/
structure CString where
  bytes : Bytes
  noNul : (0 : UInt8) ∉ bytes
  deriving DecidableEq

inductive StorageStatus
  | success
  | notInitialized
  | alreadyInitialized
  | invalidArgument
  | notFound
  | noSpace
  | ioError
  | permissionDenied
  | partialWrite
  deriving DecidableEq, Repr

/-! ### The native store -/

/-- The entries of an NVS namespace, as `Preferences` gives access to them. -/
structure Preferences where
  entries : CString → Option Bytes

/-- What a native erase comes to.  One that fails may have erased some of the
entries it was to erase; `survives` are those it left. -/
structure EraseOutcome where
  success : Bool
  survives : CString → Bool

namespace Preferences

def isKey (p : Preferences) (key : CString) : Bool := (p.entries key).isSome

def getBytesLength (p : Preferences) (key : CString) : Nat := ((p.entries key).getD []).length

/-- The bytes copied into a buffer of `capacity` bytes. -/
def getBytes (p : Preferences) (key : CString) (capacity : Nat) : Bytes :=
  let value := (p.entries key).getD []
  if value.length ≤ capacity then value else []

/-- Store the bytes and return their number, or return zero and store nothing:
when the native write fails, and for no bytes at all. -/
def putBytes (p : Preferences) (key : CString) (data : Bytes) (stored : Bool) :
    Preferences × Nat :=
  if stored && data ≠ [] then (⟨Function.update p.entries key (some data)⟩, data.length)
  else (p, 0)

def erase (p : Preferences) (outcome : EraseOutcome) (erased : CString → Bool) : Preferences :=
  ⟨fun key =>
    if erased key && (outcome.success || !outcome.survives key) then none else p.entries key⟩

def remove (p : Preferences) (key : CString) (outcome : EraseOutcome) : Preferences × Bool :=
  (p.erase outcome (· = key), outcome.success)

def clear (p : Preferences) (outcome : EraseOutcome) : Preferences × Bool :=
  (p.erase outcome fun _ => true, outcome.success)

end Preferences

/-! ### The storage -/

structure PreferencesStorage where
  preferences : Preferences
  nameSpace : Bytes
  readOnly : Bool
  ready : Bool

/-- The pointer and size given to a write: null, or the bytes pointed to. -/
inductive Source
  | null (size : Nat)
  | bytes (data : Bytes)
  deriving DecidableEq

namespace Source

def isNull : Source → Bool
  | null _ => true
  | bytes _ => false

def size : Source → Nat
  | null size => size
  | bytes data => data.length

def data : Source → Bytes
  | null _ => []
  | bytes data => data

end Source

def maximumNamespaceLength : Nat := 15
def maximumKeyLength : Nat := 15

/-- The key a pointer gives, if it is a valid one. -/
def validKey (value : Option CString) : Option CString :=
  value.filter fun text => text.bytes ≠ [] && text.bytes.length ≤ maximumKeyLength

namespace PreferencesStorage

def create (preferences : Preferences) (nameSpace : Option CString) (readOnly : Bool) :
    PreferencesStorage where
  preferences
  nameSpace := (nameSpace.map CString.bytes).getD []
  readOnly
  ready := false

def initializeStorage (s : PreferencesStorage) (begun : Bool) :
    PreferencesStorage × StorageStatus :=
  if s.ready then (s, .alreadyInitialized)
  else if s.nameSpace = [] || s.nameSpace.length > maximumNamespaceLength then
    (s, .invalidArgument)
  else if !begun then (s, .ioError)
  else ({ s with ready := true }, .success)

def shutdown (s : PreferencesStorage) : PreferencesStorage := { s with ready := false }

/-- The answer and `exists`, which a refused call leaves alone. -/
def contains (s : PreferencesStorage) (key : Option CString) : StorageStatus × Option Bool :=
  if !s.ready then (.notInitialized, none)
  else
    match validKey key with
    | none => (.invalidArgument, none)
    | some key => (.success, some (s.preferences.isKey key))

def getSize (s : PreferencesStorage) (key : Option CString) : StorageStatus × Nat :=
  if !s.ready then (.notInitialized, 0)
  else
    match validKey key with
    | none => (.invalidArgument, 0)
    | some key =>
        if !s.preferences.isKey key then (.notFound, 0)
        else (.success, s.preferences.getBytesLength key)

/-- The answer and the bytes read. -/
def read (s : PreferencesStorage) (key : Option CString) (nullBuffer : Bool) (capacity : Nat) :
    StorageStatus × Bytes :=
  if !s.ready then (.notInitialized, [])
  else
    match validKey key with
    | none => (.invalidArgument, [])
    | some key =>
        if nullBuffer && capacity ≠ 0 then (.invalidArgument, [])
        else
          let required := s.preferences.getBytesLength key
          if required = 0 && !s.preferences.isKey key then (.notFound, [])
          else if capacity < required then (.noSpace, [])
          else
            let bytesRead := if required = 0 then [] else s.preferences.getBytes key capacity
            (if bytesRead.length = required then .success else .ioError, bytesRead)

def write (s : PreferencesStorage) (key : Option CString) (source : Source) (stored : Bool) :
    PreferencesStorage × StorageStatus :=
  if !s.ready then (s, .notInitialized)
  else if s.readOnly then (s, .permissionDenied)
  else
    match validKey key with
    | none => (s, .invalidArgument)
    | some key =>
        if source.isNull && source.size ≠ 0 then (s, .invalidArgument)
        else
          let put := s.preferences.putBytes key source.data stored
          ({ s with preferences := put.1 },
            if put.2 = source.size then .success else .partialWrite)

def remove (s : PreferencesStorage) (key : Option CString) (outcome : EraseOutcome) :
    PreferencesStorage × StorageStatus :=
  if !s.ready then (s, .notInitialized)
  else if s.readOnly then (s, .permissionDenied)
  else
    match validKey key with
    | none => (s, .invalidArgument)
    | some key =>
        if !s.preferences.isKey key then (s, .notFound)
        else
          let removed := s.preferences.remove key outcome
          ({ s with preferences := removed.1 }, if removed.2 then .success else .ioError)

def clear (s : PreferencesStorage) (outcome : EraseOutcome) :
    PreferencesStorage × StorageStatus :=
  if !s.ready then (s, .notInitialized)
  else if s.readOnly then (s, .permissionDenied)
  else
    let cleared := s.preferences.clear outcome
    ({ s with preferences := cleared.1 }, if cleared.2 then .success else .ioError)

end PreferencesStorage

/-! ### Histories -/

/-- A call, with what the native store does in it. -/
inductive Op
  | contains (key : Option CString)
  | getSize (key : Option CString)
  | read (key : Option CString) (nullBuffer : Bool) (capacity : Nat)
  | write (key : Option CString) (source : Source) (stored : Bool)
  | remove (key : Option CString) (outcome : EraseOutcome)
  | clear (outcome : EraseOutcome)

/-- The calls that may change the value of a key. -/
def Op.Touches (key : CString) : Op → Prop
  | .write given _ _ => given = some key
  | .remove given _ => given = some key
  | .clear _ => True
  | _ => False

namespace PreferencesStorage

variable {s t : PreferencesStorage} {key : CString} {value : Bytes}

/-- The three calls that only read are `const`. -/
def apply (s : PreferencesStorage) : Op → PreferencesStorage
  | .contains _ => s
  | .getSize _ => s
  | .read _ _ _ => s
  | .write key source stored => (s.write key source stored).1
  | .remove key outcome => (s.remove key outcome).1
  | .clear outcome => (s.clear outcome).1

/-- The storage after a history. -/
def run (s : PreferencesStorage) (ops : List Op) : PreferencesStorage := ops.foldl apply s

/-- Every reading call finds the value under the key. -/
def Finds (s : PreferencesStorage) (key : CString) (value : Bytes) : Prop :=
  s.contains (some key) = (.success, some true) ∧
    s.getSize (some key) = (.success, value.length) ∧
    ∀ capacity, value.length ≤ capacity → s.read (some key) false capacity = (.success, value)

/-- Every reading call about the key answers the same. -/
def SameAnswers (s t : PreferencesStorage) (key : Option CString) : Prop :=
  t.contains key = s.contains key ∧ t.getSize key = s.getSize key ∧
    ∀ nullBuffer capacity, t.read key nullBuffer capacity = s.read key nullBuffer capacity

/-! ### What the operations do to an entry -/

theorem validKey_eq_some {given : Option CString} (h : validKey given = some key) :
    given = some key :=
  (Option.filter_eq_some_iff.mp h).1

theorem ne_of_validKey {given : Option CString} {valid : CString} (h : given ≠ some key)
    (hkey : validKey given = some valid) : key ≠ valid := by
  rintro rfl
  exact h (validKey_eq_some hkey)

theorem read_of_entry {capacity : Nat} (hready : s.ready = true)
    (hkey : validKey (some key) = some key) (hentry : s.preferences.entries key = some value)
    (hfits : value.length ≤ capacity) :
    s.read (some key) false capacity = (.success, value) := by
  have hlength : s.preferences.getBytesLength key = value.length := by
    rw [Preferences.getBytesLength, hentry]
    rfl
  have hbytes : s.preferences.getBytes key capacity = value := by
    rw [Preferences.getBytes, hentry]
    exact if_pos hfits
  cases value with
  | nil => simp [read, hready, hkey, Preferences.isKey, hlength, hentry]
  | cons b rest => simpa [read, hready, hkey, hlength, hbytes] using hfits

/-- The reading calls find exactly the entry of the native store. -/
theorem finds_iff (hready : s.ready = true) (hkey : validKey (some key) = some key) :
    s.Finds key value ↔ s.preferences.entries key = some value := by
  constructor
  · rintro ⟨hcontains, -, hread⟩
    have hsome : s.preferences.isKey key = true := by
      simpa [contains, hready, hkey] using hcontains
    obtain ⟨stored, hstored⟩ := Option.isSome_iff_exists.mp hsome
    have hlarge := hread (max value.length stored.length) (by omega)
    rw [read_of_entry hready hkey hstored (by omega)] at hlarge
    rw [hstored, (Prod.mk.inj hlarge).2]
  · intro hentry
    refine ⟨?_, ?_, fun capacity hfits => read_of_entry hready hkey hentry hfits⟩
    · simp [contains, hready, hkey, Preferences.isKey, hentry]
    · simp [getSize, hready, hkey, Preferences.isKey, Preferences.getBytesLength, hentry]

/-- The reading calls about a key depend on its entry alone. -/
theorem sameAnswers_of_entry {given : Option CString} (hready : t.ready = s.ready)
    (hentry : ∀ key, given = some key → t.preferences.entries key = s.preferences.entries key) :
    SameAnswers s t given := by
  cases hkey : validKey given with
  | none => simp [SameAnswers, contains, getSize, read, hkey, hready]
  | some key =>
      have hsame := hentry key (validKey_eq_some hkey)
      simp [SameAnswers, contains, getSize, read, hkey, hready, Preferences.isKey,
        Preferences.getBytesLength, Preferences.getBytes, hsame]

theorem Preferences.putBytes_other {p : Preferences} {other : CString} {data : Bytes}
    {stored : Bool} (h : other ≠ key) :
    (p.putBytes key data stored).1.entries other = p.entries other := by
  unfold Preferences.putBytes
  split <;> simp [h]

/-- What a write that reported success has done.  The native store may have
failed it only where the value is empty, for then the count is right anyway. -/
theorem write_success {source : Source} {stored : Bool}
    (h : (s.write (some key) source stored).2 = .success) :
    s.ready = true ∧ validKey (some key) = some key ∧ (source.data ≠ [] → stored = true) ∧
      (s.write (some key) source stored).1 =
        { s with preferences := (s.preferences.putBytes key source.data stored).1 } := by
  cases hkey : validKey (some key) with
  | none =>
      simp only [write, hkey] at h
      split_ifs at h
  | some valid =>
      cases validKey_eq_some hkey
      simp only [write, hkey] at h ⊢
      split_ifs at h ⊢ with hready hreadOnly hnull hcount
      refine ⟨by simpa using hready, trivial, ?_, rfl⟩
      intro hdata
      by_contra hstored
      have hzero : 0 = source.size := by simpa [Preferences.putBytes, hstored] using hcount
      cases source with
      | null size => exact hdata rfl
      | bytes data => exact hdata (List.length_eq_zero_iff.mp hzero.symm)

theorem write_entries_other {given : Option CString} {source : Source} {stored : Bool}
    (h : given ≠ some key) :
    (s.write given source stored).1.preferences.entries key = s.preferences.entries key := by
  cases hkey : validKey given with
  | none =>
      simp only [write, hkey]
      split_ifs <;> rfl
  | some valid =>
      have hne := ne_of_validKey h hkey
      simp only [write, hkey]
      split_ifs <;> simp [Preferences.putBytes_other hne]

theorem remove_entries_other {given : Option CString} {outcome : EraseOutcome}
    (h : given ≠ some key) :
    (s.remove given outcome).1.preferences.entries key = s.preferences.entries key := by
  cases hkey : validKey given with
  | none =>
      simp only [remove, hkey]
      split_ifs <;> rfl
  | some valid =>
      have hne := ne_of_validKey h hkey
      simp only [remove, hkey]
      split_ifs <;> simp [Preferences.remove, Preferences.erase, hne]

theorem apply_ready (s : PreferencesStorage) (op : Op) : (s.apply op).ready = s.ready := by
  cases op with
  | contains | getSize | read => rfl
  | write key source stored =>
      cases hkey : validKey key <;> simp only [apply, write, hkey] <;> split_ifs <;> rfl
  | remove key outcome =>
      cases hkey : validKey key <;> simp only [apply, remove, hkey] <;> split_ifs <;> rfl
  | clear outcome =>
      simp only [apply, clear]
      split_ifs <;> rfl

theorem apply_entries_of_not_touches {op : Op} (h : ¬ op.Touches key) :
    (s.apply op).preferences.entries key = s.preferences.entries key := by
  cases op with
  | contains | getSize | read => rfl
  | write given source stored => exact write_entries_other h
  | remove given outcome => exact remove_entries_other h
  | clear outcome => exact absurd trivial h

theorem run_ready (s : PreferencesStorage) (ops : List Op) : (s.run ops).ready = s.ready := by
  induction ops generalizing s with
  | nil => rfl
  | cons op ops ih => exact (ih (s.apply op)).trans (apply_ready s op)

/-- An entry nothing touches stays. -/
theorem run_entries_of_not_touches {ops : List Op} (h : ∀ op ∈ ops, ¬ op.Touches key) :
    (s.run ops).preferences.entries key = s.preferences.entries key := by
  induction ops generalizing s with
  | nil => rfl
  | cons op ops ih =>
      obtain ⟨hop, hops⟩ := List.forall_mem_cons.mp h
      exact (ih hops).trans (apply_entries_of_not_touches hop)

/-! ### What a successful write promises -/

/-- The value written is found until a call touches the key, and no other key
is affected. -/
def WriteKept (before after : PreferencesStorage) (key : CString) (data : Bytes) : Prop :=
  (∀ later : List Op, (∀ op ∈ later, ¬ op.Touches key) → (after.run later).Finds key data) ∧
    ∀ other, other ≠ some key → SameAnswers before after other

theorem putBytes_entries (p : Preferences) {data : Bytes} {stored : Bool}
    (hstored : data ≠ [] → stored = true) :
    (p.putBytes key data stored).1.entries key = some data ↔
      data ≠ [] ∨ p.entries key = some [] := by
  by_cases hdata : data = []
  · subst hdata
    simp [Preferences.putBytes]
  · simp [Preferences.putBytes, hdata, hstored hdata]

/-- **What was written is kept unless it was empty.**  After any history, a
write that reported success is kept exactly when it wrote at least one byte, or
the key held an empty value before it. -/
theorem write_kept_iff (s : PreferencesStorage) (earlier : List Op) (key : CString)
    (source : Source) (stored : Bool)
    (hsuccess : ((s.run earlier).write (some key) source stored).2 = .success) :
    WriteKept (s.run earlier) ((s.run earlier).write (some key) source stored).1 key source.data ↔
      source.data ≠ [] ∨ (s.run earlier).preferences.entries key = some [] := by
  obtain ⟨hready, hkey, hstored, hafter⟩ := write_success hsuccess
  have hothers : ∀ other, other ≠ some key →
      SameAnswers (s.run earlier) ((s.run earlier).write (some key) source stored).1 other := by
    intro other hother
    apply sameAnswers_of_entry
    · rw [hafter]
    · rintro k rfl
      exact write_entries_other fun h => hother h.symm
  have hfound : ∀ later : List Op, (∀ op ∈ later, ¬ op.Touches key) →
      ((((s.run earlier).write (some key) source stored).1.run later).Finds key source.data ↔
        source.data ≠ [] ∨ (s.run earlier).preferences.entries key = some []) := by
    intro later hlater
    rw [finds_iff _ hkey, run_entries_of_not_touches hlater, hafter]
    · exact putBytes_entries _ hstored
    · rw [run_ready, hafter]
      exact hready
  constructor
  · rintro ⟨hkept, -⟩
    exact (hfound [] (by simp)).mp (hkept [] (by simp))
  · intro hvalue
    exact ⟨fun later hlater => (hfound later hlater).mpr hvalue, hothers⟩

/-- A storage that was created over an empty namespace and initialised. -/
def settings : PreferencesStorage :=
  ((create ⟨fun _ => none⟩ (some ⟨ascii "app", by decide⟩) false).initializeStorage true).1

def volume : CString := ⟨ascii "volume", by decide⟩

theorem write_kept_iff_volume :
    WriteKept (settings.run []) ((settings.run []).write (some volume) (.bytes [1]) true).1 volume
        [1] ↔
      ([1] : Bytes) ≠ [] ∨ (settings.run []).preferences.entries volume = some [] :=
  write_kept_iff settings [] volume (.bytes [1]) true (by decide)

/-- The value is one byte, then an empty one is written with success, and the
byte is still there. -/
theorem empty_write_not_kept :
    let before := settings.run [.write (some volume) (.bytes [1]) true]
    let written := before.write (some volume) (.bytes []) true
    written.2 = .success ∧ written.1.read (some volume) false 8 = (.success, [1]) ∧
      ¬ WriteKept before written.1 volume [] := by
  refine ⟨by decide, by decide, ?_⟩
  rintro ⟨hkept, -⟩
  have hsize := (hkept [] (by simp)).2.1
  exact absurd hsize (by decide)

end PreferencesStorage
end Persistence
