import Espressio.HeaderStore

/-!
# The stored headers as a map

What the calls of `SetHeader` before `Begin` leave, said without the loop that
does it.  A call is accepted or not, by its result.  The stored names are the
first occurrences of the accepted ones but `Content-Type`, in their order and
in the spelling they first came in.  Each has the value that was accepted for
it last, and so has the content type: `headers_map`.
-/

namespace HttpResponse

open NetworkBytes Web HeaderLines

/-! ### First occurrences -/

/-- The names that no earlier one equals. -/
def firstOccurrences : List Bytes → List Bytes
  | [] => []
  | name :: rest => name :: (firstOccurrences rest).filter fun other => !headerNameEquals name other

variable {names : List Bytes} {name other value : Bytes} {r : Response}

theorem headerNameEquals_eq_false {left right : Bytes} :
    headerNameEquals left right = false ↔ ¬SameName left right := by
  rw [← Bool.not_eq_true, headerNameEquals_iff]

theorem mem_firstOccurrences (h : name ∈ firstOccurrences names) : name ∈ names := by
  induction names with
  | nil => exact h
  | cons first rest ih =>
      rcases List.mem_cons.mp h with rfl | hrest
      · exact List.mem_cons_self
      · exact List.mem_cons_of_mem _ (ih (List.mem_of_mem_filter hrest))

/-- Every name has its first occurrence. -/
theorem exists_firstOccurrence_iff :
    (∃ m ∈ firstOccurrences names, SameName m other) ↔ ∃ m ∈ names, SameName m other := by
  constructor
  · rintro ⟨m, hm, hsame⟩
    exact ⟨m, mem_firstOccurrences hm, hsame⟩
  · induction names with
    | nil => exact id
    | cons first rest ih =>
        rintro ⟨m, hm, hsame⟩
        by_cases hfirst : SameName first other
        · exact ⟨first, List.mem_cons_self, hfirst⟩
        · have hrest : m ∈ rest := by
            rcases List.mem_cons.mp hm with rfl | hrest
            · exact absurd hsame hfirst
            · exact hrest
          obtain ⟨n, hn, hkept⟩ := ih ⟨m, hrest, hsame⟩
          have hother : ¬SameName first n := fun k => hfirst (k.trans hkept)
          refine ⟨n, List.mem_cons_of_mem _ (List.mem_filter.mpr ⟨hn, ?_⟩), hkept⟩
          rw [headerNameEquals_eq_false.mpr hother]
          rfl

/-- One more name. -/
theorem firstOccurrences_append (names : List Bytes) (name : Bytes) :
    firstOccurrences (names ++ [name]) =
      firstOccurrences names ++ if ∃ m ∈ names, SameName m name then [] else [name] := by
  induction names with
  | nil => rfl
  | cons first rest ih =>
      rw [List.cons_append, firstOccurrences, firstOccurrences, ih, List.filter_append,
        List.cons_append]
      congr 2
      by_cases hfirst : SameName first name
      · have hseen : ∃ m ∈ first :: rest, SameName m name :=
          ⟨first, List.mem_cons_self, hfirst⟩
        rw [if_pos hseen]
        split
        · simp
        · simp [headerNameEquals_iff.mpr hfirst]
      · have hiff : (∃ m ∈ first :: rest, SameName m name) ↔ ∃ m ∈ rest, SameName m name := by
          simp [hfirst]
        simp only [hiff]
        split
        · rfl
        · simp [headerNameEquals_eq_false.mpr hfirst]

/-! ### Accepted calls -/

/-- The calls that a response reports success for, one after the other. -/
def accepted : Response → List (Bytes × Bytes) → List (Bytes × Bytes)
  | _, [] => []
  | r, call :: rest =>
      let done := setHeader r call.1 call.2
      if done.2 = .success then call :: accepted done.1 rest else accepted done.1 rest

/-- What the last of some calls with a name gave it. -/
def lastValue (calls : List (Bytes × Bytes)) (name : Bytes) : Option Bytes :=
  (calls.reverse.find? fun call => headerNameEquals call.1 name).map Prod.snd

/-- The names stored for some calls. -/
def storedNames (calls : List (Bytes × Bytes)) : List Bytes :=
  firstOccurrences ((calls.map Prod.fst).filter fun name =>
    !headerNameEquals name contentTypeName)

theorem setHeader_success_iff (hbegun : r.begun = false) :
    (setHeader r name value).2 = .success ↔ takes name = true := by
  unfold setHeader takes
  rw [hbegun]
  by_cases hempty : name = []
  · simp [hempty]
  · cases hframing : isFramingHeader name with
    | true => simp [hempty]
    | false => cases headerNameEquals name (ascii "Content-Type") <;> simp [hempty]

theorem begun_setHeader (r : Response) (name value : Bytes) :
    (setHeader r name value).1.begun = r.begun := by
  unfold setHeader
  split_ifs <;> rfl

/-- Whether a call is accepted depends on its name alone. -/
theorem accepted_eq (hbegun : r.begun = false) (calls : List (Bytes × Bytes)) :
    accepted r calls = calls.filter fun call => takes call.1 := by
  induction calls generalizing r with
  | nil => rfl
  | cons call rest ih =>
      have hrest := ih ((begun_setHeader r call.1 call.2).trans hbegun)
      rw [accepted, List.filter_cons, hrest]
      simp only [setHeader_success_iff hbegun]

/-- A call that is not accepted changes nothing. -/
theorem setHeader_rejected (h : (setHeader r name value).2 ≠ .success) :
    (setHeader r name value).1 = r := by
  unfold setHeader at h ⊢
  split_ifs at h ⊢ <;> first | rfl | exact absurd rfl h

theorem latest_eq (calls : List (Bytes × Bytes)) (name : Bytes) :
    latest calls name = lastValue (calls.filter fun call => takes call.1) name := by
  induction calls using List.reverseRecOn with
  | nil => rfl
  | append_singleton calls call ih =>
      rw [latest_append, List.filter_append]
      cases htaken : takes call.1 with
      | false => simp [htaken, ih]
      | true =>
          simp only [htaken, List.filter_cons, List.filter_nil, lastValue, true_and]
          rw [List.reverse_append]
          by_cases hsame : SameName call.1 name
          · simp [hsame, headerNameEquals_iff.mpr hsame]
          · simpa [lastValue, hsame, headerNameEquals_eq_false.mpr hsame] using ih

/-! ### The stored names -/

theorem storedNames_append (calls : List (Bytes × Bytes)) (call : Bytes × Bytes) :
    storedNames (calls ++ [call]) =
      storedNames calls ++
        if SameName call.1 contentTypeName ∨ ∃ m ∈ storedNames calls, SameName m call.1 then []
        else [call.1] := by
  unfold storedNames
  rw [List.map_append, List.filter_append]
  by_cases htype : SameName call.1 contentTypeName
  · simp [htype, headerNameEquals_iff.mpr htype]
  · have hkept : ([call].map Prod.fst).filter (fun name =>
        !headerNameEquals name contentTypeName) = [call.1] := by
      simp [headerNameEquals_eq_false.mpr htype]
    rw [hkept, firstOccurrences_append]
    simp only [htype, false_or, exists_firstOccurrence_iff]

/-- The names after any calls, in their order. -/
theorem names_setHeaders (hbegun : r.begun = false) (hempty : r.headers = [])
    (calls : List (Bytes × Bytes)) :
    (setHeaders r calls).begun = false ∧
      (setHeaders r calls).headers.map Header.name =
        storedNames (calls.filter fun call => takes call.1) := by
  induction calls using List.reverseRecOn with
  | nil => simp [setHeaders, hbegun, hempty, storedNames, firstOccurrences]
  | append_singleton calls call ih =>
      obtain ⟨hstill, hnames⟩ := ih
      have hlast : setHeaders r (calls ++ [call]) =
          (setHeader (setHeaders r calls) call.1 call.2).1 := by
        simp [setHeaders]
      have hexists : (∃ m ∈ storedNames (calls.filter fun call => takes call.1),
          SameName m call.1) ↔ ∃ h ∈ (setHeaders r calls).headers, SameName h.name call.1 := by
        simp [← hnames]
      have hfilter : takes call.1 = true →
          ((calls ++ [call]).filter fun call => takes call.1) =
            (calls.filter fun call => takes call.1) ++ [call] := fun htaken => by
        simp [htaken]
      refine ⟨by rw [hlast, begun_setHeader, hstill], ?_⟩
      rw [hlast]
      rcases setHeader_cases hstill call.1 call.2 with ⟨hrefused, hsame⟩ |
        ⟨htaken, htype, hset⟩ | ⟨htaken, htype, hset⟩
      · simpa [hsame, hrefused] using hnames
      · rw [hset, hfilter htaken, storedNames_append]
        simpa [htype] using hnames
      · rw [hset, hfilter htaken, storedNames_append, names_assignHeader, hnames]
        simp only [htype, false_or, hexists]

/-! ### The map -/

/-- **The stored headers.**  After any calls on an unbegun response that holds
none: they are pairwise different, neither framing headers nor the content
type, in the order in which their names were first accepted, each with the
value accepted last; so is the content type.  A call that is not accepted
changes nothing. -/
theorem headers_map (isHead keepAlive : Bool) (status : HttpStatus)
    (calls : List (Bytes × Bytes)) :
    let fresh := { Response.fresh isHead keepAlive with status := status }
    let r := setHeaders fresh calls
    let taken := accepted fresh calls
    r.headers.Pairwise (fun h g => headerNameEquals h.name g.name = false) ∧
      (∀ h ∈ r.headers, isFramingHeader h.name = false ∧
        headerNameEquals h.name (ascii "Content-Type") = false) ∧
      r.headers.map Header.name = storedNames taken ∧
      (∀ h ∈ r.headers, lastValue taken h.name = some h.value) ∧
      r.contentType = (lastValue taken (ascii "Content-Type")).getD [] ∧
      ∀ name value, (setHeader r name value).2 ≠ .success → (setHeader r name value).1 = r := by
  intro fresh r taken
  have hstores : Stores calls r := stores_setHeaders isHead keepAlive status calls
  have htaken : taken = calls.filter fun call => takes call.1 := accepted_eq rfl calls
  have hvalue : ∀ name, lastValue taken name = latest calls name := by
    intro name
    rw [htaken, latest_eq]
  refine ⟨?_, ?_, ?_, ?_, ?_, fun name value => setHeader_rejected⟩
  · exact hstores.distinct.imp headerNameEquals_eq_false.mpr
  · intro h hmem
    obtain ⟨hname, htype⟩ := hstores.taken h hmem
    refine ⟨?_, headerNameEquals_eq_false.mpr htype⟩
    simpa [takes] using (Bool.and_eq_true_iff.mp hname).2
  · rw [htaken]
    exact (names_setHeaders rfl rfl calls).2
  · intro h hmem
    rw [hvalue]
    exact hstores.value h hmem
  · rw [hvalue]
    exact hstores.contentType

end HttpResponse
