import Espressio.HeaderStore
import Espressio.HttpServer

/-!
# The target and the headers of a request

`ESP32HttpRequestPlatform` splits the target at its first question mark, and
reads header values through ESP-IDF, which wants room for a NUL behind a value
that the platform does not.  A caller with a byte to spare gets the value
straight into its buffer; one whose buffer is filled by the value gets it by way
of a scratch buffer.

`reads_header` says that nobody can tell: both give the value, and nothing else
of the buffer changes but the byte for the NUL.  The value itself is never cut.

Which fields a request has, and their values, the native server knows; of its
calls no more is used than what is said of them (`NativeCalls.Documented`).
Whether memory for the scratch buffer is there comes with the call; if it is
not, an exception leaves `ReadHeader`.
-/

namespace HttpRequest

open NetworkBytes Web HttpServer
open PlatformResults (EspErr)
open HttpResponse (headerNameEquals)

/-! ## The target -/

/-- `_path` and `_query`, as the constructor sets them. -/
structure Target where
  path : Bytes
  query : Bytes
  deriving DecidableEq, Repr

/-- The byte of `?`. -/
def questionMark : UInt8 := 63

/-- The constructor. -/
def splitTarget (uri : Option Bytes) : Target :=
  let target := cString (uri.getD [])
  match target.findIdx? (· = questionMark) with
  | none => ⟨target, []⟩
  | some query => ⟨target.take query, target.drop (query + 1)⟩

/-- The path ends before the first question mark, and the query is all that
follows it. -/
theorem splitTarget_spec (uri : Option Bytes) :
    questionMark ∉ (splitTarget uri).path ∧
      (cString (uri.getD []) = (splitTarget uri).path ∧ (splitTarget uri).query = [] ∨
        cString (uri.getD []) =
          (splitTarget uri).path ++ questionMark :: (splitTarget uri).query) := by
  simp only [splitTarget]
  cases hfind : (cString (uri.getD [])).findIdx? (· = questionMark) with
  | none =>
      refine ⟨fun hmem => ?_, Or.inl ⟨rfl, rfl⟩⟩
      have hnone := List.findIdx?_eq_none_iff.mp hfind _ hmem
      simp at hnone
  | some query =>
      obtain ⟨hlt, hfound, hbefore⟩ := List.findIdx?_eq_some_iff_getElem.mp hfind
      refine ⟨fun hmem => ?_, Or.inr ?_⟩
      · obtain ⟨i, hi, heq⟩ := List.getElem_of_mem hmem
        rw [List.getElem_take] at heq
        have hshort : i < query := by
          rw [List.length_take] at hi
          omega
        have hother := hbefore i hshort
        simp [heq] at hother
      · have hbyte : (cString (uri.getD []))[query] = questionMark := by simpa using hfound
        rw [← hbyte, ← List.drop_eq_getElem_cons hlt, List.take_append_drop]

/-! ## The native calls -/

variable {ρ : Type*}

/-- The calls on an `httpd_req_t`, with the name of a field as a C string:
`httpd_req_get_hdr_value_len`, and `httpd_req_get_hdr_value_str` with the buffer
after it. -/
structure NativeCalls (ρ : Type*) where
  valueLength : ρ → Bytes → Nat
  valueString : ρ → Bytes → Bytes → EspErr × Bytes

/-- What ESP-IDF says of them, for a request that is valid or no longer is, and
the values of its fields. -/
structure NativeCalls.Documented (n : NativeCalls ρ) (valid : ρ → Bool)
    (value : ρ → Bytes → Option Bytes) : Prop where
  length : ∀ r field v, valid r = true → value r field = some v →
    n.valueLength r field = v.length
  noLength : ∀ r field, valid r = false ∨ value r field = none → n.valueLength r field = 0
  invalid : ∀ r field buffer, valid r = false →
    n.valueString r field buffer = (.httpdInvalidReq, buffer)
  notFound : ∀ r field buffer, valid r = true → value r field = none →
    n.valueString r field buffer = (.notFound, buffer)
  /-- With room for the NUL the whole value is copied. -/
  copied : ∀ r field buffer v, valid r = true → value r field = some v →
    v.length < buffer.length →
    n.valueString r field buffer = (.ok, v ++ 0 :: buffer.drop (v.length + 1))

/-! ## The platform -/

def maximumHeaderNameLength : Nat := 128

/-- `CopyHeaderName`: the field, with its NUL. -/
def copyHeaderName (name : Bytes) : Option Bytes :=
  if name = [] ∨ maximumHeaderNameLength < name.length then none else some (name ++ [0])

def hasHeader (n : NativeCalls ρ) (r : ρ) (name : Bytes) : Bool :=
  match copyHeaderName name with
  | none => false
  | some field =>
      if n.valueLength r field ≠ 0 then true else (n.valueString r field [0]).1 = .ok

def headerValueLength (n : NativeCalls ρ) (r : ρ) (name : Bytes) : Nat :=
  match copyHeaderName name with
  | none => 0
  | some field => n.valueLength r field

/-- What `ReadHeader` returns, and the caller's buffer after it. -/
structure HeaderRead where
  result : WebResult
  bytesWritten : Nat
  destination : Option Bytes
  deriving DecidableEq, Repr

/-- `ReadHeader`; `none` if an exception leaves it. -/
def readHeader (n : NativeCalls ρ) (r : ρ) (name : Bytes) (destination : Option Bytes)
    (allocates : Bool) : Option HeaderRead :=
  match destination with
  | none => some ⟨.failure .invalidConfiguration .none, 0, destination⟩
  | some buffer =>
      if buffer.length = 0 then some ⟨.failure .invalidConfiguration .none, 0, destination⟩
      else
        match copyHeaderName name with
        | none => some ⟨.failure .invalidConfiguration .none, 0, destination⟩
        | some field =>
            let length := n.valueLength r field
            if buffer.length < length then
              some ⟨.failure .resourceExhausted .none, 0, destination⟩
            else if length < buffer.length then
              let (result, written) := n.valueString r field buffer
              if result ≠ .ok then some ⟨httpResult result, 0, some written⟩
              else some ⟨.success, length, some written⟩
            else if allocates = false then none
            else
              let (result, scratch) := n.valueString r field (List.replicate (length + 1) 0)
              if result ≠ .ok then some ⟨httpResult result, 0, destination⟩
              else some ⟨.success, length, some (scratch.take length ++ buffer.drop length)⟩

/-! ## What they come to -/

variable {n : NativeCalls ρ} {valid : ρ → Bool} {value : ρ → Bytes → Option Bytes} {r : ρ}
  {name buffer v : Bytes}

/-- The value of the header with a name. -/
def lookup (valid : ρ → Bool) (value : ρ → Bytes → Option Bytes) (r : ρ) (name : Bytes) :
    Option Bytes :=
  if valid r = false ∨ name = [] ∨ maximumHeaderNameLength < name.length then none
  else value r (name ++ [0])

theorem hasHeader_eq (hn : n.Documented valid value) (r : ρ) (name : Bytes) :
    hasHeader n r name = (lookup valid value r name).isSome := by
  by_cases hname : name = [] ∨ maximumHeaderNameLength < name.length
  · simp [hasHeader, copyHeaderName, lookup, hname]
  · simp only [hasHeader, copyHeaderName, lookup, hname, or_false, if_false]
    cases hvalid : valid r with
    | false =>
        simp [hn.noLength r (name ++ [0]) (.inl hvalid), hn.invalid r (name ++ [0]) [0] hvalid]
    | true =>
        cases hvalue : value r (name ++ [0]) with
        | none =>
            simp [hn.noLength r (name ++ [0]) (.inr hvalue),
              hn.notFound r (name ++ [0]) [0] hvalid hvalue]
        | some v =>
            rw [hn.length r (name ++ [0]) v hvalid hvalue]
            by_cases hempty : v.length = 0
            · have hroom : v.length < [(0 : UInt8)].length := by simp [hempty]
              rw [if_neg (not_not.mpr hempty),
                hn.copied r (name ++ [0]) [0] v hvalid hvalue hroom]
              rfl
            · rw [if_pos hempty]
              rfl

theorem headerValueLength_eq (hn : n.Documented valid value) (r : ρ) (name : Bytes) :
    headerValueLength n r name = ((lookup valid value r name).map List.length).getD 0 := by
  by_cases hname : name = [] ∨ maximumHeaderNameLength < name.length
  · simp [headerValueLength, copyHeaderName, lookup, hname]
  · simp only [headerValueLength, copyHeaderName, lookup, hname, or_false, if_false]
    cases hvalid : valid r with
    | false => simp [hn.noLength r (name ++ [0]) (.inl hvalid)]
    | true =>
        cases hvalue : value r (name ++ [0]) with
        | none => simp [hn.noLength r (name ++ [0]) (.inr hvalue)]
        | some v => simp [hn.length r (name ++ [0]) v hvalid hvalue]

/-- There is no such header, or no valid request: the direct read reports it. -/
theorem readHeader_absent (hn : n.Documented valid value) (hbuffer : buffer ≠ [])
    (hname : ¬(name = [] ∨ maximumHeaderNameLength < name.length))
    (hnone : valid r = false ∨ value r (name ++ [0]) = none) (allocates : Bool) :
    readHeader n r name (some buffer) allocates =
      if valid r = false then some ⟨.failure .closed (.esp .httpdInvalidReq), 0, some buffer⟩
      else some ⟨.failure .notFound (.esp .notFound), 0, some buffer⟩ := by
  have hroom : 0 < buffer.length := List.length_pos_iff.mpr hbuffer
  have hlength : n.valueLength r (name ++ [0]) = 0 := hn.noLength r _ hnone
  simp only [readHeader, copyHeaderName, if_neg hname, if_neg (Nat.ne_of_gt hroom), hlength,
    Nat.not_lt_zero, if_false, if_pos hroom]
  cases hvalid : valid r with
  | false => simp [hn.invalid r (name ++ [0]) buffer hvalid, httpResult]
  | true =>
      have hvalue : value r (name ++ [0]) = none := by
        obtain hinvalid | hvalue := hnone
        · rw [hvalid] at hinvalid
          cases hinvalid
        · exact hvalue
      simp [hn.notFound r (name ++ [0]) buffer hvalid hvalue, httpResult]

/-- There is: by the direct read, or by way of the scratch buffer. -/
theorem readHeader_present (hn : n.Documented valid value) (hbuffer : buffer ≠ [])
    (hname : ¬(name = [] ∨ maximumHeaderNameLength < name.length)) (hvalid : valid r = true)
    (hvalue : value r (name ++ [0]) = some v) (allocates : Bool) :
    readHeader n r name (some buffer) allocates =
      if buffer.length < v.length then some ⟨.failure .resourceExhausted .none, 0, some buffer⟩
      else if v.length < buffer.length then
        some ⟨.success, v.length, some (v ++ 0 :: buffer.drop (v.length + 1))⟩
      else if allocates then some ⟨.success, v.length, some v⟩
      else none := by
  have hroom : buffer.length ≠ 0 := Nat.ne_of_gt (List.length_pos_iff.mpr hbuffer)
  have hlength : n.valueLength r (name ++ [0]) = v.length := hn.length r _ v hvalid hvalue
  simp only [readHeader, copyHeaderName, if_neg hroom, if_neg hname, hlength]
  obtain hshort | hexact | hlong := Nat.lt_trichotomy buffer.length v.length
  · rw [if_pos hshort, if_pos hshort]
  · have hscratch : v.length < (List.replicate (v.length + 1) (0 : UInt8)).length := by simp
    have hnotshort : ¬buffer.length < v.length := by omega
    have hnotlong : ¬v.length < buffer.length := by omega
    simp only [if_neg hnotshort, if_neg hnotlong,
      hn.copied r (name ++ [0]) _ v hvalid hvalue hscratch]
    cases allocates with
    | false => rfl
    | true => simp [← hexact]
  · have hnotshort : ¬buffer.length < v.length := by omega
    simp only [if_neg hnotshort, if_pos hlong,
      hn.copied r (name ++ [0]) buffer v hvalid hvalue hlong]
    simp

/-- **Reading a header.**  Whatever the request, the name and the buffer: a
header that is not there is not found; one whose value is longer than the
buffer is refused; and every other value is read as it is, whole, to the front
of the buffer.  Behind it there is the byte of the NUL, if there is room for it,
and then what was there before.  `HasHeader` and `HeaderValueLength` agree, and
a header whose value is empty is one that is there. -/
theorem reads_header (hn : n.Documented valid value) (r : ρ) (name buffer : Bytes)
    (allocates : Bool) :
    hasHeader n r name = (lookup valid value r name).isSome ∧
      headerValueLength n r name = ((lookup valid value r name).map List.length).getD 0 ∧
      readHeader n r name (some buffer) allocates =
        if buffer = [] ∨ name = [] ∨ maximumHeaderNameLength < name.length then
          some ⟨.failure .invalidConfiguration .none, 0, some buffer⟩
        else if valid r = false then
          some ⟨.failure .closed (.esp .httpdInvalidReq), 0, some buffer⟩
        else
          match lookup valid value r name with
          | none => some ⟨.failure .notFound (.esp .notFound), 0, some buffer⟩
          | some v =>
              if buffer.length < v.length then
                some ⟨.failure .resourceExhausted .none, 0, some buffer⟩
              else if v.length < buffer.length then
                some ⟨.success, v.length, some (v ++ 0 :: buffer.drop (v.length + 1))⟩
              else if allocates then some ⟨.success, v.length, some v⟩
              else none := by
  refine ⟨hasHeader_eq hn r name, headerValueLength_eq hn r name, ?_⟩
  by_cases hrefused : buffer = [] ∨ name = [] ∨ maximumHeaderNameLength < name.length
  · rw [if_pos hrefused]
    obtain rfl | hname := hrefused
    · rfl
    · simp [readHeader, copyHeaderName, hname]
  · obtain ⟨hbuffer, hname⟩ := not_or.mp hrefused
    rw [if_neg hrefused]
    cases hvalid : valid r with
    | false => simp [readHeader_absent hn hbuffer hname (.inl hvalid) allocates, hvalid]
    | true =>
        simp only [lookup, hvalid, hname, Bool.true_eq_false, or_self, if_false]
        cases hvalue : value r (name ++ [0]) with
        | none => simp [readHeader_absent hn hbuffer hname (.inr hvalue) allocates, hvalid]
        | some v => exact readHeader_present hn hbuffer hname hvalid hvalue allocates

/-! ## A native server

This one does what is said of the calls: it goes through the headers it has
parsed, and finds the first one with a name, in any case of letters. -/

/-- A header as the server has parsed it. -/
structure NativeHeader where
  name : Bytes
  value : Bytes

structure NativeRequest where
  headers : List NativeHeader
  valid : Bool

/-- The value of the field a C string names. -/
def NativeRequest.fieldValue (r : NativeRequest) (field : Bytes) : Option Bytes :=
  (r.headers.find? fun h => headerNameEquals h.name (cString field)).map NativeHeader.value

def parsedCalls : NativeCalls NativeRequest where
  valueLength r field := if r.valid then ((r.fieldValue field).map List.length).getD 0 else 0
  valueString r field buffer :=
    if r.valid = false then (.httpdInvalidReq, buffer)
    else
      match r.fieldValue field with
      | none => (.notFound, buffer)
      | some value =>
          let copied := value.take (buffer.length - 1)
          (if buffer.length < value.length + 1 then .httpdResultTrunc else .ok,
            copied ++ 0 :: buffer.drop (copied.length + 1))

theorem parsedCalls_documented :
    parsedCalls.Documented NativeRequest.valid NativeRequest.fieldValue := by
  refine ⟨?_, ?_, ?_, ?_, ?_⟩
  · intro r field v hvalid hvalue
    simp [parsedCalls, hvalid, hvalue]
  · intro r field hnone
    obtain hinvalid | hvalue := hnone
    · simp [parsedCalls, hinvalid]
    · simp [parsedCalls, hvalue]
  · intro r field buffer hinvalid
    simp [parsedCalls, hinvalid]
  · intro r field buffer hvalid hvalue
    simp [parsedCalls, hvalid, hvalue]
  · intro r field buffer v hvalid hvalue hroom
    have hall : v.take (buffer.length - 1) = v := List.take_of_length_le (by omega)
    simp only [parsedCalls, hvalid, hvalue, hall]
    rw [if_neg (by simp), if_neg (by omega)]

/-- `Host: ab`, read into a buffer of two bytes under another spelling. -/
theorem reads_host :
    readHeader parsedCalls ⟨[⟨[72, 111, 115, 116], [97, 98]⟩], true⟩ [104, 79, 83, 84]
      (some [1, 2]) true = some ⟨.success, 2, some [97, 98]⟩ :=
  (reads_header parsedCalls_documented ⟨[⟨[72, 111, 115, 116], [97, 98]⟩], true⟩
    [104, 79, 83, 84] [1, 2] true).2.2

end HttpRequest
