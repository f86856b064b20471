import Mathlib.Data.List.Induction
import Espressio.HeaderLines
import Espressio.HttpResponse

/-!
# The headers a response stores

The stored headers and the content type of a response, after any calls of
`SetHeader` before it is begun, are a map under names compared without regard
to the case of letters.  `latest` says what the calls last gave a name, and
`Stores` that the response holds exactly that, once for each name.
-/

namespace HttpResponse

open NetworkBytes Web HeaderLines

/-- Equal up to the case of letters. -/
def SameName (left right : Bytes) : Prop := left.map toLower = right.map toLower

instance (left right : Bytes) : Decidable (SameName left right) :=
  inferInstanceAs (Decidable (_ = _))

variable {name value left right : Bytes} {hs : List Header} {h : Header}

theorem headerNameEquals_iff : headerNameEquals left right = true ↔ SameName left right := by
  rw [SameName, ← zip_all_iff_map_eq]
  by_cases hlen : left.length = right.length <;> simp [headerNameEquals, hlen]

theorem SameName.refl (name : Bytes) : SameName name name := rfl

theorem SameName.symm (h : SameName left right) : SameName right left := Eq.symm h

theorem SameName.trans (h : SameName left right) (k : SameName right name) : SameName left name :=
  Eq.trans h k

/-! ### One assignment -/

theorem names_assignHeader (name value : Bytes) (hs : List Header) :
    (assignHeader name value hs).map Header.name =
      hs.map Header.name ++ if ∃ h ∈ hs, SameName h.name name then [] else [name] := by
  induction hs with
  | nil => simp [assignHeader]
  | cons h hs ih =>
      by_cases hsame : SameName h.name name
      · simp [assignHeader, headerNameEquals_iff, hsame]
      · simp [assignHeader, headerNameEquals_iff, hsame, ih]

theorem name_of_mem_assignHeader (hmem : h ∈ assignHeader name value hs) :
    h.name = name ∨ ∃ old ∈ hs, old.name = h.name := by
  have hnames := List.mem_map_of_mem (f := Header.name) hmem
  rw [names_assignHeader, List.mem_append] at hnames
  rcases hnames with hold | hnew
  · exact Or.inr (List.mem_map.mp hold)
  · split_ifs at hnew with hfound
    · cases hnew
    · exact Or.inl (List.mem_singleton.mp hnew)

/-- The names of a list of headers are pairwise different. -/
def Distinct (hs : List Header) : Prop := hs.Pairwise fun h g => ¬ SameName h.name g.name

theorem distinct_iff_names :
    Distinct hs ↔ (hs.map Header.name).Pairwise fun m n => ¬ SameName m n := by
  rw [Distinct, List.pairwise_map]

theorem Distinct.assignHeader (hdistinct : Distinct hs) (name value : Bytes) :
    Distinct (assignHeader name value hs) := by
  rw [distinct_iff_names, names_assignHeader]
  rw [distinct_iff_names] at hdistinct
  split_ifs with hfound
  · simpa using hdistinct
  · rw [List.pairwise_append]
    refine ⟨hdistinct, List.pairwise_singleton _ _, ?_⟩
    intro m hm n hn hsame
    obtain ⟨h, hmem, rfl⟩ := List.mem_map.mp hm
    rw [List.mem_singleton.mp hn] at hsame
    exact hfound ⟨h, hmem, hsame⟩

/-- What is stored after an assignment: the value under its name, and under
every other name what was stored before. -/
theorem mem_assignHeader (hdistinct : Distinct hs) (hmem : h ∈ assignHeader name value hs) :
    (SameName h.name name ∧ h.value = value) ∨ (h ∈ hs ∧ ¬ SameName h.name name) := by
  induction hs with
  | nil =>
      cases List.mem_singleton.mp hmem
      exact Or.inl ⟨SameName.refl _, rfl⟩
  | cons first rest ih =>
      obtain ⟨hfirst, hrest⟩ := List.pairwise_cons.mp hdistinct
      by_cases hsame : SameName first.name name
      · rw [assignHeader, if_pos (headerNameEquals_iff.mpr hsame)] at hmem
        rcases List.mem_cons.mp hmem with rfl | htail
        · exact Or.inl ⟨hsame, rfl⟩
        · refine Or.inr ⟨List.mem_cons_of_mem _ htail, ?_⟩
          intro hother
          exact hfirst h htail (hsame.trans hother.symm)
      · rw [assignHeader, if_neg (mt headerNameEquals_iff.mp hsame)] at hmem
        rcases List.mem_cons.mp hmem with rfl | htail
        · exact Or.inr ⟨List.mem_cons_self, hsame⟩
        · rcases ih hrest htail with hnew | ⟨hold, hother⟩
          · exact Or.inl hnew
          · exact Or.inr ⟨List.mem_cons_of_mem _ hold, hother⟩

theorem exists_mem_assignHeader (name value : Bytes) (hs : List Header) {wanted : Bytes}
    (hwanted : SameName name wanted ∨ ∃ h ∈ hs, SameName h.name wanted) :
    ∃ h ∈ assignHeader name value hs, SameName h.name wanted := by
  have hnames : ∃ m ∈ (assignHeader name value hs).map Header.name, SameName m wanted := by
    rw [names_assignHeader]
    rcases hwanted with hnew | ⟨h, hmem, hsame⟩
    · by_cases hfound : ∃ h ∈ hs, SameName h.name name
      · obtain ⟨h, hmem, hsame⟩ := hfound
        exact ⟨h.name, by simp [List.mem_map_of_mem hmem], hsame.trans hnew⟩
      · exact ⟨name, by simp [hfound], hnew⟩
    · exact ⟨h.name, by simp [List.mem_map_of_mem hmem], hsame⟩
  obtain ⟨m, hmem, hsame⟩ := hnames
  obtain ⟨h, hh, rfl⟩ := List.mem_map.mp hmem
  exact ⟨h, hh, hsame⟩

/-! ### A sequence of calls -/

/-- The names an unbegun response takes a header for. -/
def takes (name : Bytes) : Bool := name ≠ [] && !isFramingHeader name

theorem takes_iff : takes name = true ↔ name ≠ [] ∧ ¬ SameName name (ascii "Content-Length") ∧
    ¬ SameName name (ascii "Transfer-Encoding") ∧ ¬ SameName name (ascii "Connection") := by
  simp [takes, isFramingHeader, ← headerNameEquals_iff, and_assoc]

theorem takes_congr (h : SameName left right) (hleft : takes left = true) : takes right = true := by
  obtain ⟨hempty, hlength, hencoding, hconnection⟩ := takes_iff.mp hleft
  refine takes_iff.mpr ⟨?_, fun k => hlength (h.trans k), fun k => hencoding (h.trans k),
    fun k => hconnection (h.trans k)⟩
  rintro rfl
  exact hempty (List.map_eq_nil_iff.mp h)

def contentTypeName : Bytes := ascii "Content-Type"

/-- What the calls accepted so far last gave a name. -/
def latest (calls : List (Bytes × Bytes)) (name : Bytes) : Option Bytes :=
  calls.foldl (fun value call => if takes call.1 && headerNameEquals call.1 name then some call.2
    else value) none

def setHeaders (r : Response) (calls : List (Bytes × Bytes)) : Response :=
  calls.foldl (fun r call => (setHeader r call.1 call.2).1) r

theorem latest_append (calls : List (Bytes × Bytes)) (call : Bytes × Bytes) (name : Bytes) :
    latest (calls ++ [call]) name =
      if takes call.1 = true ∧ SameName call.1 name then some call.2 else latest calls name := by
  simp [latest, List.foldl_append, headerNameEquals_iff]

/-- Only names that are taken have a value. -/
theorem takes_of_latest {calls : List (Bytes × Bytes)} (h : latest calls name = some value) :
    takes name = true := by
  induction calls using List.reverseRecOn with
  | nil => cases h
  | append_singleton calls call ih =>
      rw [latest_append] at h
      split_ifs at h with hcall
      · exact takes_congr hcall.2 hcall.1
      · exact ih h

theorem latest_congr (calls : List (Bytes × Bytes)) (h : SameName left right) :
    latest calls left = latest calls right := by
  have hcall : ∀ call : Bytes × Bytes,
      headerNameEquals call.1 left = headerNameEquals call.1 right := by
    intro call
    rw [Bool.eq_iff_iff, headerNameEquals_iff, headerNameEquals_iff]
    exact ⟨fun k => k.trans h, fun k => k.trans h.symm⟩
  simp only [latest, hcall]

/-- What one call does to an unbegun response. -/
theorem setHeader_cases {r : Response} (hbegun : r.begun = false) (name value : Bytes) :
    (takes name = false ∧ (setHeader r name value).1 = r) ∨
      (takes name = true ∧ SameName name contentTypeName ∧
        (setHeader r name value).1 = { r with contentType := value }) ∨
      (takes name = true ∧ ¬ SameName name contentTypeName ∧
        (setHeader r name value).1 = { r with headers := assignHeader name value r.headers }) := by
  by_cases hempty : name = []
  · simp [setHeader, takes, hempty]
  · by_cases hframing : isFramingHeader name = true
    · simp [setHeader, takes, hbegun, hempty, hframing]
    · by_cases htype : SameName name contentTypeName
      · have hequals : headerNameEquals name (ascii "Content-Type") = true :=
          headerNameEquals_iff.mpr htype
        simp [setHeader, takes, hbegun, hempty, hframing, htype, hequals]
      · have hequals : ¬ headerNameEquals name (ascii "Content-Type") = true :=
          mt headerNameEquals_iff.mp htype
        simp [setHeader, takes, hbegun, hempty, hframing, htype, hequals]

/-- An unbegun response holds what the calls last gave each name. -/
structure Stores (calls : List (Bytes × Bytes)) (r : Response) : Prop where
  begun : r.begun = false
  distinct : Distinct r.headers
  taken : ∀ h ∈ r.headers, takes h.name = true ∧ ¬ SameName h.name contentTypeName
  value : ∀ h ∈ r.headers, latest calls h.name = some h.value
  stored : ∀ name value, latest calls name = some value →
    SameName name contentTypeName ∨ ∃ h ∈ r.headers, SameName h.name name
  contentType : r.contentType = (latest calls contentTypeName).getD []

theorem stores_fresh (isHead keepAlive : Bool) (status : HttpStatus) :
    Stores [] { Response.fresh isHead keepAlive with status := status } where
  begun := rfl
  distinct := List.Pairwise.nil
  taken := by simp [Response.fresh]
  value := by simp [Response.fresh]
  stored := by simp [latest]
  contentType := rfl

theorem Stores.setHeader {calls : List (Bytes × Bytes)} {r : Response} (h : Stores calls r)
    (name value : Bytes) :
    Stores (calls ++ [(name, value)]) (HttpResponse.setHeader r name value).1 := by
  rcases setHeader_cases h.begun name value with ⟨hrefused, hsame⟩ | ⟨htaken, htype, hset⟩ |
    ⟨htaken, htype, hset⟩
  · have hlatest : ∀ n, latest (calls ++ [(name, value)]) n = latest calls n := by
      intro n
      simp [latest_append, hrefused]
    rw [hsame]
    exact ⟨h.begun, h.distinct, h.taken, by simpa [hlatest] using h.value,
      by simpa [hlatest] using h.stored, by simpa [hlatest] using h.contentType⟩
  · rw [hset]
    refine ⟨h.begun, h.distinct, h.taken, ?_, ?_, ?_⟩
    · intro g hg
      have hother : ¬ SameName name g.name := fun k => (h.taken g hg).2 (k.symm.trans htype)
      simpa [latest_append, hother] using h.value g hg
    · intro n v hlatest
      by_cases hn : SameName name n
      · exact Or.inl (hn.symm.trans htype)
      · rw [latest_append, if_neg (by simp [hn])] at hlatest
        exact h.stored n v hlatest
    · simp [latest_append, htaken, htype]
  · rw [hset]
    refine ⟨h.begun, h.distinct.assignHeader name value, ?_, ?_, ?_, ?_⟩
    · intro g hg
      rcases name_of_mem_assignHeader hg with hname | ⟨old, hold, hname⟩
      · rw [hname]
        exact ⟨htaken, htype⟩
      · rw [← hname]
        exact h.taken old hold
    · intro g hg
      rcases mem_assignHeader h.distinct hg with ⟨hsame, hvalue⟩ | ⟨hold, hother⟩
      · simp [latest_append, htaken, hsame.symm, hvalue]
      · have hother' : ¬ SameName name g.name := fun k => hother k.symm
        simpa [latest_append, hother'] using h.value g hold
    · intro n v hlatest
      by_cases hn : SameName name n
      · exact Or.inr (exists_mem_assignHeader name value r.headers (Or.inl hn))
      · rw [latest_append, if_neg (by simp [hn])] at hlatest
        rcases h.stored n v hlatest with htypeName | hfound
        · exact Or.inl htypeName
        · exact Or.inr (exists_mem_assignHeader name value r.headers (Or.inr hfound))
    · simpa [latest_append, htype] using h.contentType

theorem stores_setHeaders (isHead keepAlive : Bool) (status : HttpStatus)
    (calls : List (Bytes × Bytes)) :
    Stores calls (setHeaders { Response.fresh isHead keepAlive with status := status } calls) := by
  induction calls using List.reverseRecOn with
  | nil => exact stores_fresh isHead keepAlive status
  | append_singleton calls call ih =>
      rw [setHeaders, List.foldl_append]
      exact ih.setHeader call.1 call.2

theorem setHeader_keepAlive (r : Response) (name value : Bytes) :
    (setHeader r name value).1.keepAlive = r.keepAlive := by
  unfold setHeader
  split_ifs <;> rfl

theorem setHeaders_keepAlive (r : Response) (calls : List (Bytes × Bytes)) :
    (setHeaders r calls).keepAlive = r.keepAlive := by
  induction calls generalizing r with
  | nil => rfl
  | cons call calls ih => exact (ih _).trans (setHeader_keepAlive r call.1 call.2)

end HttpResponse
