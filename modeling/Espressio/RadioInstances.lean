import Espressio.RadioSessions

/-!
# Several radios

The driver has one promiscuous callback, and `CallbackInstance()` is the radio
it is for: a pointer that all radios share.  `Start` sets it and `Stop` takes
it back.  A radio here is an object at an address, which is free again once the
object is destroyed.

`Start` and `Stop` themselves are those of one radio.  To it the pointer is two
answers: whether it is `registered`, and whether another radio is.

The class has no destructor.  So a radio that is destroyed while it is started
leaves the pointer as it is, and the driver's next frame goes to an object that
is no more.
-/

namespace Raw80211Radio

open NetworkBytes RingQueue Runs

/-- A radio with its configuration. -/
structure RadioObject (Address : Type*) where
  configuration : Configuration
  radio : Radio Address

/-- `CallbackInstance()`, and the radios that are alive, by their addresses. -/
structure Radios (Address : Type*) where
  callbackInstance : Option Nat
  objects : Nat → Option (RadioObject Address)

variable {Address : Type*}

def Radios.empty : Radios Address := ⟨none, fun _ => none⟩

def Radios.put (s : Radios Address) (place : Nat) (object : Option (RadioObject Address)) :
    Radios Address :=
  { s with objects := Function.update s.objects place object }

/-- The radio at an address, as the pointer has it. -/
def Radios.seen (s : Radios Address) (place : Nat) (r : Radio Address) : Radio Address :=
  { r with registered := s.callbackInstance == some place }

/-- The pointer after `Start` or `Stop` of the radio at an address. -/
def Radios.pointer (s : Radios Address) (place : Nat) (r : Radio Address) : Option Nat :=
  if r.registered then some place
  else if s.callbackInstance = some place then none
  else s.callbackInstance

/-- The radio at an address has been started or stopped. -/
def Radios.turn (s : Radios Address) (place : Nat) (object : RadioObject Address) :
    Radios Address :=
  { s.put place (some object) with callbackInstance := s.pointer place object.radio }

/-- `Start` of the radio at an address, with its result. -/
def Radios.start (s : Radios Address) (place : Nat) (object : RadioObject Address)
    (n : StartNatives) : Radios Address × Bool :=
  let other := s.callbackInstance.isSome && s.callbackInstance != some place
  let done := (s.seen place object.radio).start object.configuration { n with otherRadio := other }
  (s.turn place { object with radio := done.1 }, done.2)

/-- `Stop` of the radio at an address.  A radio that is not the one of the
callback leaves the pointer alone, and so does one that is not started. -/
def Radios.stop (s : Radios Address) (place : Nat) (object : RadioObject Address) :
    Radios Address :=
  s.turn place { object with radio := (s.seen place object.radio).stop }

inductive RadioOp (Address : Type*)
  | construct (place : Nat) (configuration : Configuration) (slots : Nat → ReceivedPacket Address)
  | start (place : Nat) (natives : StartNatives)
  | stop (place : Nat)
  | destroy (place : Nat)

/-- One operation, with the result of a `Start`.  An object is constructed
where there is none, and the others are for an object that is alive. -/
def Radios.step (s : Radios Address) : RadioOp Address → Radios Address × List Bool
  | .construct place configuration slots =>
      match s.objects place with
      | none => (s.put place (some ⟨configuration, Radio.constructed slots⟩), [])
      | some _ => (s, [])
  | .start place natives =>
      match s.objects place with
      | none => (s, [])
      | some object => ((s.start place object natives).1, [(s.start place object natives).2])
  | .stop place =>
      match s.objects place with
      | none => (s, [])
      | some object => (s.stop place object, [])
  | .destroy place => (s.put place none, [])

/-- The radio at an address is alive and started. -/
def Radios.StartedAt (s : Radios Address) (place : Nat) : Prop :=
  ∃ object, s.objects place = some object ∧ object.radio.started = true

/-- The pointer is to the radio that is started, and there is no other. -/
structure Radios.Sound (s : Radios Address) : Prop where
  pointer : ∀ place, s.callbackInstance = some place ↔ s.StartedAt place
  single : ∀ one other, s.StartedAt one → s.StartedAt other → one = other

variable {s : Radios Address}

@[simp] theorem put_self (s : Radios Address) (place : Nat)
    (object : Option (RadioObject Address)) : (s.put place object).objects place = object := by
  simp [Radios.put]

@[simp] theorem put_other {place other : Nat} (h : other ≠ place)
    (object : Option (RadioObject Address)) :
    (s.put place object).objects other = s.objects other := by
  simp [Radios.put, h]

/-- The started radios when the object at one address is another. -/
theorem startedAt_put (s : Radios Address) (place other : Nat)
    (object : Option (RadioObject Address)) (pointer : Option Nat) :
    ({ s.put place object with callbackInstance := pointer } : Radios Address).StartedAt other ↔
      if other = place then ∃ o, object = some o ∧ o.radio.started = true
      else s.StartedAt other := by
  unfold Radios.StartedAt
  split
  · rename_i heq
    simp [heq]
  · rename_i hne
    simp [hne]

/-! ## Start and Stop -/

/-- `Start` finds the radio started, or fails, or starts it.  It fails without
the pointer unless it had it before. -/
theorem start_cases (c : Configuration) (r : Radio Address) (n : StartNatives) :
    (r.started = true ∧ r.start c n = (r, true)) ∨
      (r.started = false ∧ (r.start c n).2 = false ∧ (r.start c n).1.started = false ∧
        ((r.start c n).1.registered = true → r.registered = true)) ∨
      (r.started = false ∧ (r.registered = true ∨ n.otherRadio = false) ∧
        (r.start c n).2 = true ∧ (r.start c n).1.started = true ∧
        (r.start c n).1.registered = true) := by
  unfold Radio.start
  split
  · rename_i hstarted
    exact Or.inl ⟨hstarted, rfl⟩
  · rename_i hstarted
    rw [Bool.not_eq_true] at hstarted
    right
    split
    · exact Or.inl ⟨hstarted, rfl, hstarted, id⟩
    · rename_i hguard
      have hfree : r.registered = true ∨ n.otherRadio = false := by
        rcases hregistered : r.registered with _ | _
        · exact Or.inr (by simpa [hregistered] using hguard)
        · exact Or.inl rfl
      split
      · exact Or.inl ⟨hstarted, rfl, hstarted, id⟩
      · split
        · exact Or.inl ⟨hstarted, rfl, hstarted, id⟩
        · split
          · exact Or.inl ⟨hstarted, rfl, hstarted, id⟩
          · split
            · exact Or.inl ⟨hstarted, rfl, hstarted, id⟩
            · split
              · exact Or.inl ⟨hstarted, rfl, hstarted, id⟩
              · dsimp only
                split
                · exact Or.inl ⟨hstarted, rfl, hstarted, fun h => by cases h⟩
                · exact Or.inr ⟨hstarted, hfree, rfl, rfl, rfl⟩

theorem stop_started (r : Radio Address) : r.stop.started = false := by
  unfold Radio.stop
  split
  · rename_i h
    exact h
  · rfl

/-- A `Start` that fails leaves the pointer null or as it was. -/
theorem pointer_of_start_failed (s : Radios Address) (place : Nat) (object : RadioObject Address)
    (n : StartNatives) (h : (s.start place object n).2 = false) :
    (s.start place object n).1.callbackInstance = none ∨
      (s.start place object n).1.callbackInstance = s.callbackInstance := by
  rcases start_cases object.configuration (s.seen place object.radio)
      { n with otherRadio := s.callbackInstance.isSome && s.callbackInstance != some place } with
    ⟨-, heq⟩ | ⟨-, -, -, hregistered⟩ | ⟨-, -, hok, -⟩
  · simp only [Radios.start, heq] at h
    cases h
  · simp only [Radios.start, Radios.turn, Radios.pointer]
    split
    · rename_i hnow
      right
      exact (by simpa [Radios.seen] using hregistered hnow : s.callbackInstance = some place).symm
    · split
      · exact Or.inl rfl
      · exact Or.inr rfl
  · simp only [Radios.start, hok] at h
    cases h

/-! ## One operation -/

theorem Radios.Sound.construct (h : s.Sound) {place : Nat} (hfree : s.objects place = none)
    (configuration : Configuration) (slots : Nat → ReceivedPacket Address) :
    (s.put place (some ⟨configuration, Radio.constructed slots⟩)).Sound := by
  have hstarted : ∀ other,
      (s.put place (some ⟨configuration, Radio.constructed slots⟩)).StartedAt other ↔
        s.StartedAt other := by
    intro other
    refine (startedAt_put s place other _ s.callbackInstance).trans ?_
    split
    · rename_i heq
      subst heq
      refine iff_of_false ?_ ?_
      · rintro ⟨o, ho, hon⟩
        cases ho
        cases hon
      · rintro ⟨o, ho, -⟩
        rw [hfree] at ho
        cases ho
    · exact Iff.rfl
  refine ⟨fun other => (h.pointer other).trans (hstarted other).symm, ?_⟩
  intro one other hone hother
  exact h.single one other ((hstarted one).mp hone) ((hstarted other).mp hother)

/-- A pointer to the only radio that is started. -/
theorem sound_of_startedAt_iff {t : Radios Address}
    (h : ∀ place, t.callbackInstance = some place ↔ t.StartedAt place) : t.Sound := by
  refine ⟨h, fun one other hone hother => ?_⟩
  have hsame := ((h one).mpr hone).symm.trans ((h other).mpr hother)
  exact Option.some.inj hsame

/-- A radio has the pointer to it after `Start` or `Stop` exactly if it is
started then, and it has taken it from no other. -/
theorem Radios.Sound.turn (h : s.Sound) (place : Nat) (object : RadioObject Address)
    (hregistered : object.radio.registered = object.radio.started)
    (hfree : object.radio.started = true →
      s.callbackInstance = none ∨ s.callbackInstance = some place) :
    (s.turn place object).Sound := by
  apply sound_of_startedAt_iff
  intro other
  rw [Radios.turn, startedAt_put]
  simp only [Radios.pointer, hregistered]
  by_cases hplace : other = place
  · subst hplace
    rw [if_pos rfl]
    by_cases hstarted : object.radio.started = true
    · simp [hstarted]
    · rw [if_neg hstarted]
      refine iff_of_false ?_ ?_
      · split
        · simp
        · assumption
      · rintro ⟨o, ho, hon⟩
        cases ho
        exact hstarted hon
  · rw [if_neg hplace, ← h.pointer other]
    by_cases hstarted : object.radio.started = true
    · rw [if_pos hstarted]
      refine iff_of_false (fun heq => hplace (Option.some.inj heq).symm) ?_
      intro hother
      rcases hfree hstarted with hnone | hmine
      · rw [hnone] at hother
        cases hother
      · exact hplace (Option.some.inj (hother.symm.trans hmine))
    · rw [if_neg hstarted]
      split
      · rename_i hmine
        rw [hmine]
        exact iff_of_false (by simp) fun heq => hplace (Option.some.inj heq).symm
      · exact Iff.rfl

/-- A radio is seen with the pointer exactly if it is started. -/
theorem Radios.Sound.seen_registered (h : s.Sound) {place : Nat} {object : RadioObject Address}
    (hobject : s.objects place = some object) :
    (s.seen place object.radio).registered = object.radio.started := by
  have hpointer := h.pointer place
  have hstarted : s.StartedAt place ↔ object.radio.started = true := by
    simp [Radios.StartedAt, hobject]
  rw [hstarted] at hpointer
  rw [Bool.eq_iff_iff, ← hpointer]
  simp [Radios.seen]

theorem Radios.Sound.start (h : s.Sound) {place : Nat} {object : RadioObject Address}
    (hobject : s.objects place = some object) (n : StartNatives) :
    (s.start place object n).1.Sound := by
  have hseen := h.seen_registered hobject
  apply h.turn place
  · rcases start_cases object.configuration (s.seen place object.radio)
        { n with otherRadio := s.callbackInstance.isSome && s.callbackInstance != some place } with
      ⟨-, heq⟩ | ⟨hstopped, -, hstill, hkept⟩ | ⟨-, -, -, hstarted, hregistered⟩
    · rw [heq]
      exact hseen
    · rw [hstill]
      by_contra hregistered
      have hbefore := hkept (Bool.not_eq_false _ ▸ hregistered)
      rw [hseen] at hbefore
      exact absurd (hbefore.symm.trans hstopped) (by simp)
    · rw [hregistered, hstarted]
  · intro hnow
    rcases start_cases object.configuration (s.seen place object.radio)
        { n with otherRadio := s.callbackInstance.isSome && s.callbackInstance != some place } with
      ⟨hstarted, -⟩ | ⟨-, -, hstill, -⟩ | ⟨-, hfree, -⟩
    · have hmine : (s.seen place object.radio).registered = true := hseen.trans hstarted
      exact Or.inr (by simpa [Radios.seen] using hmine)
    · rw [hstill] at hnow
      cases hnow
    · rcases hfree with hmine | hnobody
      · exact Or.inr (by simpa [Radios.seen] using hmine)
      · rcases hcallback : s.callbackInstance with _ | other
        · exact Or.inl rfl
        · right
          simpa [hcallback] using hnobody

theorem Radios.Sound.stop (h : s.Sound) {place : Nat} {object : RadioObject Address}
    (hobject : s.objects place = some object) : (s.stop place object).Sound := by
  have hseen := h.seen_registered hobject
  have hstopped := stop_started (s.seen place object.radio)
  apply h.turn place
  · rw [hstopped]
    unfold Radio.stop
    split
    · rename_i hnot
      exact hseen.trans hnot
    · rfl
  · intro hnow
    rw [hstopped] at hnow
    cases hnow

/-- The operation destroys a radio that is started. -/
def DestroysStarted (s : Radios Address) : RadioOp Address → Prop
  | .destroy place => s.StartedAt place
  | _ => False

/-- **One operation.**  Only the destruction of a started radio leaves the
pointer behind. -/
theorem sound_radio_step_iff (s : Radios Address) (op : RadioOp Address) (h : s.Sound) :
    (s.step op).1.Sound ↔ ¬DestroysStarted s op := by
  cases op with
  | construct place configuration slots =>
      refine iff_of_true ?_ id
      simp only [Radios.step]
      split
      · rename_i hfree
        exact h.construct hfree configuration slots
      · exact h
  | start place n =>
      refine iff_of_true ?_ id
      simp only [Radios.step]
      split
      · exact h
      · rename_i object hobject
        exact h.start hobject n
  | stop place =>
      refine iff_of_true ?_ id
      simp only [Radios.step]
      split
      · exact h
      · rename_i object hobject
        exact h.stop hobject
  | destroy place =>
      have hstarted : ∀ other, (s.put place none).StartedAt other ↔
          if other = place then False else s.StartedAt other := by
        intro other
        refine (startedAt_put s place other none s.callbackInstance).trans ?_
        split <;> simp
      constructor
      · intro hsound hdestroyed
        have hpointer := (h.pointer place).mpr hdestroyed
        have hgone := (hstarted place).mp ((hsound.pointer place).mp hpointer)
        rwa [if_pos rfl] at hgone
      · intro hno
        apply sound_of_startedAt_iff
        intro other
        rw [Radios.step, hstarted]
        refine (h.pointer other).trans ?_
        split
        · rename_i heq
          exact iff_of_false (heq ▸ hno) id
        · exact Iff.rfl

/-! ## Runs -/

/-- A failed `Start` leaves the pointer null or unchanged. -/
def FailsCleanly (s : Radios Address) : RadioOp Address → Prop
  | .start place n =>
      (s.step (.start place n)).2 = [false] →
        (s.step (.start place n)).1.callbackInstance = none ∨
          (s.step (.start place n)).1.callbackInstance = s.callbackInstance
  | _ => True

theorem failsCleanly (s : Radios Address) (op : RadioOp Address) : FailsCleanly s op := by
  cases op with
  | start place n =>
      intro hfailed
      simp only [Radios.step] at hfailed ⊢
      split at hfailed
      · cases hfailed
      · rename_i object hobject
        exact pointer_of_start_failed s place object n (List.cons.inj hfailed).1
  | _ => trivial

/-- **The callback's radio.**  After every step of a run the pointer is to the
one radio that is started, or null, exactly if no step destroys a radio that is
started; and a failed `Start` leaves it null or unchanged in any run. -/
theorem callbackInstance_sound_iff (ops : List (RadioOp Address)) :
    let run := trace Radios.step (Radios.empty : Radios Address) ops
    ((∀ x ∈ run, (x.1.step x.2).1.Sound) ↔ ∀ x ∈ run, ¬DestroysStarted x.1 x.2) ∧
      ∀ x ∈ run, FailsCleanly x.1 x.2 := by
  have hempty : (Radios.empty : Radios Address).Sound := by
    apply sound_of_startedAt_iff
    intro place
    refine iff_of_false (by simp [Radios.empty]) ?_
    rintro ⟨o, ho, -⟩
    cases ho
  have hstep : ∀ (s : Radios Address) (op : RadioOp Address), True → s.Sound →
      ((s.step op).1.Sound ↔ ¬DestroysStarted s op) :=
    fun s op _ h => sound_radio_step_iff s op h
  exact ⟨trace_forall_iff (fun _ _ _ => trivial) hstep trivial hempty ops,
    fun x _ => failsCleanly x.1 x.2⟩

/-- A radio is constructed, started and destroyed, and the pointer stays. -/
theorem callbackInstance_dangles : ¬ ∀ ops : List (RadioOp Bytes),
    ∀ x ∈ trace Radios.step (Radios.empty : Radios Bytes) ops, (x.1.step x.2).1.Sound := by
  intro h
  have hsound := h [.construct 0 stationConfiguration fun _ => ⟨[], [], 0, 0, 0, []⟩,
    .start 0 startSucceeds, .destroy 0] _
    (List.mem_cons_of_mem _ (List.mem_cons_of_mem _ List.mem_cons_self))
  obtain ⟨object, hobject, -⟩ := (hsound.pointer 0).mp (by decide +kernel)
  cases hobject

end Raw80211Radio
