import Espressio.RadioInstances

/-!
# Promiscuous mode, taken and given back

The radios share a driver with everybody else on the device.  `Start` asks it
whether promiscuous mode is on, registers the callback and switches the mode on;
`Stop` takes the callback away and switches the mode off, unless it was on.
What others last asked the driver for is kept here beside it, to say what is to
be given back.

`promiscuous_restored_iff` says by which steps it is not.
-/

namespace Raw80211Radio

open NetworkBytes RingQueue Runs

variable {Address : Type*}

/-- The calls that are about promiscuous mode, with their answers. -/
inductive DriverCall
  | setCallback (on : Bool) (accepted : Bool)
  | setPromiscuous (on : Bool) (accepted : Bool)
  deriving DecidableEq, Repr

/-- The driver: whether it has the callback, and whether the mode is on. -/
structure WiFiDriver where
  hasCallback : Bool
  promiscuous : Bool
  deriving DecidableEq, Repr

/-- A call that is not accepted changes nothing. -/
def WiFiDriver.call (d : WiFiDriver) : DriverCall → WiFiDriver
  | .setCallback on accepted => if accepted then { d with hasCallback := on } else d
  | .setPromiscuous on accepted => if accepted then { d with promiscuous := on } else d

/-- The driver after some calls. -/
def WiFiDriver.after (d : WiFiDriver) (calls : List DriverCall) : WiFiDriver :=
  calls.foldl WiFiDriver.call d

/-- The calls of `Start`.  `cleared` is the answer to taking the callback away
after the mode could not be switched on. -/
def Radio.startCalls (c : Configuration) (r : Radio Address) (n : StartNatives) (cleared : Bool) :
    List DriverCall :=
  if r.started then []
  else if r.registered = false ∧ n.otherRadio then []
  else if r.allocated = false ∧ n.resized = false then []
  else
    match n.modeAfter c with
    | none => []
    | some mode =>
        if c.fits mode = false then []
        else if c.channel ≠ 0 ∧ n.channelSet = false then []
        else
          match n.mac with
          | none => []
          | some _ =>
              if n.callbackSet = false then [.setCallback true false]
              else if n.promiscuousSet = false then
                [.setCallback true true, .setPromiscuous true false, .setCallback false cleared]
              else [.setCallback true true, .setPromiscuous true true]

/-- The calls of `Stop`, whose answers it ignores. -/
def Radio.stopCalls (r : Radio Address) (cleared left : Bool) : List DriverCall :=
  if r.started = false then []
  else if r.registered then
    .setCallback false cleared ::
      if r.promiscuousWasEnabled then [] else [.setPromiscuous false left]
  else []

/-- The radios, their driver, and the mode that others last asked it for. -/
structure SharedDriver (Address : Type*) where
  radios : Radios Address
  driver : WiFiDriver
  asked : Bool

/-- What is done with the radios, and by others with the driver.  `reads` says
whether the driver answers which mode it is in. -/
inductive DriverOp (Address : Type*)
  | construct (place : Nat) (configuration : Configuration) (slots : Nat → ReceivedPacket Address)
  | start (place : Nat) (natives : StartNatives) (reads cleared : Bool)
  | stop (place : Nat) (cleared left : Bool)
  | destroy (place : Nat)
  | others (promiscuous : Bool)

namespace SharedDriver

/-- Nothing but the driver, in some mode. -/
def unused (promiscuous : Bool) : SharedDriver Address :=
  ⟨Radios.empty, ⟨false, promiscuous⟩, promiscuous⟩

/-- What `Start` of the radio at an address is answered. -/
def natives (s : SharedDriver Address) (place : Nat) (n : StartNatives) (reads : Bool) :
    StartNatives :=
  { n with
    otherRadio := s.radios.callbackInstance.isSome && s.radios.callbackInstance != some place
    promiscuous := if reads then some s.driver.promiscuous else none }

/-- One operation, with the calls the radios make in it. -/
def step (s : SharedDriver Address) : DriverOp Address → SharedDriver Address × List DriverCall
  | .construct place configuration slots =>
      ({ s with radios := (s.radios.step (.construct place configuration slots)).1 }, [])
  | .start place n reads cleared =>
      match s.radios.objects place with
      | none => (s, [])
      | some object =>
          let answers := s.natives place n reads
          let calls :=
            (s.radios.seen place object.radio).startCalls object.configuration answers cleared
          ({ s with
              radios := (s.radios.start place object answers).1
              driver := s.driver.after calls }, calls)
  | .stop place cleared left =>
      match s.radios.objects place with
      | none => (s, [])
      | some object =>
          let calls := (s.radios.seen place object.radio).stopCalls cleared left
          ({ s with radios := s.radios.stop place object, driver := s.driver.after calls }, calls)
  | .destroy place => ({ s with radios := (s.radios.step (.destroy place)).1 }, [])
  | .others promiscuous =>
      ({ s with driver := { s.driver with promiscuous := promiscuous }, asked := promiscuous }, [])

/-- What the radio at an address remembers of the mode, if it is started. -/
def memory (s : SharedDriver Address) (place : Nat) : Option Bool :=
  (s.radios.objects place).bind fun object =>
    if object.radio.started then some object.radio.promiscuousWasEnabled else none

/-- The radio that is started will leave the mode as others asked for it, and
where none is started the mode is so. -/
structure Restores (s : SharedDriver Address) : Prop where
  remembered : ∀ place was, s.memory place = some was → was = s.asked
  given : (∀ place, s.memory place = none) → s.driver.promiscuous = s.asked

/-- A radio that is started is the callback's and has it, and the mode is on
unless others have switched it off. -/
structure Inv (s : SharedDriver Address) : Prop where
  pointer : ∀ place was, s.memory place = some was → s.radios.callbackInstance = some place
  heard : ∀ place was, s.memory place = some was → s.driver.hasCallback = true
  on : ∀ place was, s.memory place = some was → s.driver.promiscuous = false → s.asked = false

/-- What may go wrong.  A `Start` succeeds that could not read the mode, and the
radio remembers another one from before; a `Stop` cannot switch the mode off; a
started radio is destroyed while the mode is not what others asked for; or others
ask for another mode while a radio is started. -/
def Leaks (s : SharedDriver Address) : DriverOp Address → Prop
  | .construct _ _ _ => False
  | .start place n reads _ => ∃ object, s.radios.objects place = some object ∧
      object.radio.started = false ∧
      (s.radios.start place object (s.natives place n reads)).2 = true ∧ reads = false ∧
      object.radio.promiscuousWasEnabled ≠ s.asked
  | .stop place _ left =>
      s.memory place ≠ none ∧ s.driver.promiscuous = true ∧ s.asked = false ∧ left = false
  | .destroy place => s.memory place ≠ none ∧ s.driver.promiscuous ≠ s.asked
  | .others promiscuous => (∃ place, s.memory place ≠ none) ∧ promiscuous ≠ s.asked

end SharedDriver

/-! ## Start and Stop -/

/-- What becomes of a stopped radio and the driver in `Start`: it is refused, for
another radio has the callback; it fails; or it starts. -/
theorem start_traffic {c : Configuration} {r : Radio Address} {n : StartNatives}
    (d : WiFiDriver) (cleared : Bool) (hstopped : r.started = false) :
    (r.registered = false ∧ n.otherRadio = true ∧ r.start c n = (r, false) ∧
        r.startCalls c n cleared = []) ∨
      (¬(r.registered = false ∧ n.otherRadio = true) ∧ (r.start c n).2 = false ∧
        (r.start c n).1.started = false ∧
        (d.after (r.startCalls c n cleared)).promiscuous = d.promiscuous) ∨
      (¬(r.registered = false ∧ n.otherRadio = true) ∧ (r.start c n).2 = true ∧
        (r.start c n).1.started = true ∧ (r.start c n).1.registered = true ∧
        (r.start c n).1.promiscuousWasEnabled =
          n.promiscuous.getD r.promiscuousWasEnabled ∧
        d.after (r.startCalls c n cleared) = ⟨true, true⟩) := by
  rw [Radio.start, Radio.startCalls]
  simp only [hstopped, Bool.false_eq_true, if_false]
  by_cases hrefused : r.registered = false ∧ n.otherRadio = true
  · exact .inl ⟨hrefused.1, hrefused.2, if_pos hrefused, if_pos hrefused⟩
  · right
    rw [if_neg hrefused, if_neg hrefused]
    split
    · exact .inl ⟨hrefused, rfl, hstopped, rfl⟩
    · cases n.modeAfter c with
      | none => exact .inl ⟨hrefused, rfl, rfl, rfl⟩
      | some mode =>
          dsimp only
          split
          · exact .inl ⟨hrefused, rfl, rfl, rfl⟩
          · split
            · exact .inl ⟨hrefused, rfl, rfl, rfl⟩
            · cases n.mac with
              | none => exact .inl ⟨hrefused, rfl, rfl, rfl⟩
              | some mac =>
                  cases hcallback : n.callbackSet with
                  | false => exact .inl ⟨hrefused, by simp, by simp, rfl⟩
                  | true =>
                      cases hpromiscuous : n.promiscuousSet with
                      | false =>
                          refine .inl ⟨hrefused, by simp, by simp, ?_⟩
                          cases cleared <;> rfl
                      | true => exact .inr ⟨hrefused, by simp, by simp, by simp, by simp, rfl⟩

/-- What `Stop` of the radio that has the callback leaves of the mode. -/
theorem stop_traffic {r : Radio Address} (d : WiFiDriver) (hstarted : r.started = true)
    (hregistered : r.registered = true) (cleared left : Bool) :
    (d.after (r.stopCalls cleared left)).promiscuous =
      if r.promiscuousWasEnabled = false ∧ left = true then false else d.promiscuous := by
  rw [Radio.stopCalls, if_neg (by simp [hstarted]), if_pos hregistered]
  cases r.promiscuousWasEnabled <;> cases left <;> cases cleared <;> rfl

namespace SharedDriver

variable {s t : SharedDriver Address} {place : Nat} {object : RadioObject Address}

/-! ## What is remembered -/

theorem memory_of_object (hobject : s.radios.objects place = some object) :
    s.memory place =
      if object.radio.started then some object.radio.promiscuousWasEnabled else none := by
  rw [memory, hobject, Option.bind_some]

theorem memory_put (radios : Radios Address) (driver : WiFiDriver) (asked : Bool) (place : Nat)
    (object : Option (RadioObject Address)) :
    memory ⟨radios.put place object, driver, asked⟩ =
      Function.update (memory ⟨radios, driver, asked⟩) place (object.bind fun object =>
        if object.radio.started then some object.radio.promiscuousWasEnabled else none) := by
  funext other
  by_cases hplace : other = place
  · subst hplace
    rw [Function.update_self, memory, put_self]
  · rw [Function.update_of_ne hplace, memory, put_other hplace, memory]

theorem memory_turn (radios : Radios Address) (driver : WiFiDriver) (asked : Bool) (place : Nat)
    (object : RadioObject Address) :
    memory ⟨radios.turn place object, driver, asked⟩ =
      Function.update (memory ⟨radios, driver, asked⟩) place
        (if object.radio.started then some object.radio.promiscuousWasEnabled else none) :=
  memory_put radios driver asked place (some object)

theorem memory_turn_same (s : SharedDriver Address) (driver : WiFiDriver)
    (object : RadioObject Address) (r : Radio Address)
    (h : (if r.started then some r.promiscuousWasEnabled else none) = s.memory place) :
    memory ⟨s.radios.turn place { object with radio := r }, driver, s.asked⟩ = s.memory := by
  rw [memory_turn]
  exact Function.update_eq_self_iff.mpr h

/-- There is no more than one that remembers. -/
theorem Inv.single (h : Inv s) {one other : Nat} {was was' : Bool}
    (hone : s.memory one = some was) (hother : s.memory other = some was') : one = other :=
  Option.some.inj ((h.pointer one was hone).symm.trans (h.pointer other was' hother))

/-- A step that nobody needs to know of. -/
structure Same (s t : SharedDriver Address) : Prop where
  memory : t.memory = s.memory
  mode : t.driver.promiscuous = s.driver.promiscuous
  asked : t.asked = s.asked
  callback : ∀ place was, s.memory place = some was →
    t.radios.callbackInstance = s.radios.callbackInstance ∧
      t.driver.hasCallback = s.driver.hasCallback

theorem Same.inv (h : Same s t) (hs : Inv s) : Inv t where
  pointer place was hplace := by
    rw [h.memory] at hplace
    rw [(h.callback place was hplace).1]
    exact hs.pointer place was hplace
  heard place was hplace := by
    rw [h.memory] at hplace
    rw [(h.callback place was hplace).2]
    exact hs.heard place was hplace
  on place was hplace := by
    rw [h.memory] at hplace
    rw [h.mode, h.asked]
    exact hs.on place was hplace

theorem Same.restores_iff (h : Same s t) : Restores t ↔ Restores s := by
  constructor
  · intro hrestores
    obtain ⟨hremembered, hgiven⟩ := hrestores
    rw [h.memory, h.asked] at hremembered
    rw [h.memory, h.mode, h.asked] at hgiven
    exact ⟨hremembered, hgiven⟩
  · intro hrestores
    obtain ⟨hremembered, hgiven⟩ := hrestores
    refine ⟨?_, ?_⟩
    · rw [h.memory, h.asked]
      exact hremembered
    · rw [h.memory, h.mode, h.asked]
      exact hgiven

/-- A radio is started, and remembers `was`. -/
structure Began (s t : SharedDriver Address) (place : Nat) (was : Bool) : Prop where
  free : ∀ other, s.memory other = none
  memory : t.memory = Function.update s.memory place (some was)
  pointer : t.radios.callbackInstance = some place
  driver : t.driver = ⟨true, true⟩
  asked : t.asked = s.asked

theorem Began.eq {was was' : Bool} (h : Began s t place was) {other : Nat}
    (hother : t.memory other = some was') : other = place ∧ was' = was := by
  rw [h.memory] at hother
  by_cases hplace : other = place
  · subst hplace
    rw [Function.update_self] at hother
    exact ⟨rfl, (Option.some.inj hother).symm⟩
  · rw [Function.update_of_ne hplace, h.free] at hother
    cases hother

theorem Began.inv {was : Bool} (h : Began s t place was) : Inv t where
  pointer other was' hother := by rw [(h.eq hother).1, h.pointer]
  heard other was' hother := by rw [h.driver]
  on other was' hother hoff := by
    rw [h.driver] at hoff
    cases hoff

theorem Began.restores_iff {was : Bool} (h : Began s t place was) :
    Restores t ↔ was = s.asked := by
  have hplace : t.memory place = some was := by rw [h.memory, Function.update_self]
  constructor
  · intro hrestores
    rw [← h.asked]
    exact hrestores.remembered place was hplace
  · intro hwas
    refine ⟨fun other was' hother => ?_, fun hnone => ?_⟩
    · rw [(h.eq hother).2, h.asked, hwas]
    · rw [hnone place] at hplace
      cases hplace

/-- The radio that was started no longer is. -/
structure Ended (s t : SharedDriver Address) (place : Nat) (was : Bool) : Prop where
  started : s.memory place = some was
  memory : t.memory = Function.update s.memory place none
  asked : t.asked = s.asked

theorem Ended.free {was : Bool} (h : Ended s t place was) (hs : Inv s) (other : Nat) :
    t.memory other = none := by
  rw [h.memory]
  by_cases hplace : other = place
  · rw [hplace, Function.update_self]
  · rw [Function.update_of_ne hplace]
    cases hother : s.memory other with
    | none => rfl
    | some was' => exact absurd (hs.single hother h.started) hplace

theorem Ended.inv {was : Bool} (h : Ended s t place was) (hs : Inv s) : Inv t where
  pointer other was' hother := by rw [h.free hs] at hother; cases hother
  heard other was' hother := by rw [h.free hs] at hother; cases hother
  on other was' hother := by rw [h.free hs] at hother; cases hother

theorem Ended.restores_iff {was : Bool} (h : Ended s t place was) (hs : Inv s) :
    Restores t ↔ t.driver.promiscuous = s.asked := by
  rw [← h.asked]
  refine ⟨fun hrestores => hrestores.given (h.free hs), fun hmode => ⟨?_, fun _ => hmode⟩⟩
  intro other was' hother
  rw [h.free hs] at hother
  cases hother

/-! ## One operation -/

theorem start_eq (s : SharedDriver Address) (place : Nat) (object : RadioObject Address)
    (n : StartNatives) (reads : Bool) :
    let done := (s.radios.seen place object.radio).start object.configuration
      (s.natives place n reads)
    s.radios.start place object (s.natives place n reads) =
      (s.radios.turn place { object with radio := done.1 }, done.2) := rfl

/-- No radio is started, if one that is not may go on in its `Start`. -/
theorem Inv.free (h : Inv s) (hplace : s.memory place = none) (r : Radio Address)
    (n : StartNatives) (reads : Bool)
    (hgoes : ¬((s.radios.seen place r).registered = false ∧
      (s.natives place n reads).otherRadio = true)) (other : Nat) : s.memory other = none := by
  cases hother : s.memory other with
  | none => rfl
  | some was =>
      have hpointer := h.pointer other was hother
      have hne : other ≠ place := fun heq => by
        rw [heq, hplace] at hother
        cases hother
      exact absurd (by simp [Radios.seen, natives, hpointer, hne]) hgoes

/-- A `Start` that nobody needs to know of, or that starts the radio. -/
theorem start_same_or_began (h : Inv s) (hobject : s.radios.objects place = some object)
    (n : StartNatives) (reads cleared : Bool) :
    let u := (s.step (.start place n reads cleared)).1
    (Same s u ∧ (object.radio.started = false →
        (s.radios.start place object (s.natives place n reads)).2 = false)) ∨
      (object.radio.started = false ∧
        (s.radios.start place object (s.natives place n reads)).2 = true ∧
        Began s u place
          (if reads then s.driver.promiscuous else object.radio.promiscuousWasEnabled)) := by
  have hmemory := memory_of_object hobject
  simp only [step, hobject, start_eq]
  by_cases hstarted : object.radio.started = true
  · rw [if_pos hstarted] at hmemory
    have hpointer := h.pointer place _ hmemory
    have hcalls : (s.radios.seen place object.radio).startCalls object.configuration
        (s.natives place n reads) cleared = [] := if_pos hstarted
    have hstart : (s.radios.seen place object.radio).start object.configuration
        (s.natives place n reads) = (s.radios.seen place object.radio, true) := if_pos hstarted
    rw [hcalls, hstart]
    refine .inl ⟨⟨?_, rfl, rfl, fun _ _ _ => ⟨?_, rfl⟩⟩, fun hstopped => ?_⟩
    · exact memory_turn_same s _ object (s.radios.seen place object.radio)
        ((if_pos hstarted).trans hmemory.symm)
    · simp [Radios.turn, Radios.pointer, Radios.seen, hpointer]
    · rw [hstopped] at hstarted
      cases hstarted
  · rw [Bool.not_eq_true] at hstarted
    rw [if_neg (by simp [hstarted])] at hmemory
    have hstill : ∀ r : Radio Address, r.started = false → ∀ driver,
        memory ⟨s.radios.turn place { object with radio := r }, driver, s.asked⟩ = s.memory := by
      intro r hr driver
      refine memory_turn_same s driver object r ?_
      rw [hmemory, if_neg (by simp [hr])]
    rcases start_traffic (c := object.configuration) (r := s.radios.seen place object.radio)
        (n := s.natives place n reads) s.driver cleared hstarted with
      ⟨hregistered, -, hstart, hcalls⟩ | ⟨hgoes, hfailed, hstopped, hmode⟩ |
        ⟨hgoes, hok, hon, hregistered, hwas, hdriver⟩
    · rw [hstart, hcalls]
      have hseen := hstill (s.radios.seen place object.radio) hstarted (s.driver.after [])
      refine .inl ⟨⟨hseen, rfl, rfl, fun _ _ _ => ⟨?_, rfl⟩⟩, fun _ => rfl⟩
      have hother : s.radios.callbackInstance ≠ some place := by
        simpa [Radios.seen] using hregistered
      simp [Radios.turn, Radios.pointer, hregistered, hother]
    · refine .inl ⟨⟨hstill _ hstopped _, hmode, rfl, fun other was hother => ?_⟩, fun _ => hfailed⟩
      rw [h.free hmemory _ n reads hgoes other] at hother
      cases hother
    · refine .inr ⟨hstarted, hok, ⟨h.free hmemory _ n reads hgoes, ?_, ?_, hdriver, rfl⟩⟩
      · rw [memory_turn]
        simp only [hon, hwas, if_true]
        cases reads <;> rfl
      · simp [Radios.turn, Radios.pointer, hregistered]

/-- A `Stop` of a radio that is not started, or that ends it. -/
theorem stop_same_or_ended (h : Inv s) (hobject : s.radios.objects place = some object)
    (cleared left : Bool) :
    let u := (s.step (.stop place cleared left)).1
    (s.memory place = none ∧ Same s u) ∨
      ∃ was, Ended s u place was ∧
        u.driver.promiscuous =
          if was = false ∧ left = true then false else s.driver.promiscuous := by
  have hmemory := memory_of_object hobject
  simp only [step, hobject, Radios.stop]
  by_cases hstarted : object.radio.started = true
  · rw [if_pos hstarted] at hmemory
    have hpointer := h.pointer place _ hmemory
    refine .inr ⟨object.radio.promiscuousWasEnabled, ⟨hmemory, ?_, rfl⟩, ?_⟩
    · rw [memory_turn, stop_started, if_neg (by decide)]
      rfl
    · have hregistered : (s.radios.seen place object.radio).registered = true := by
        simp [Radios.seen, hpointer]
      exact stop_traffic (r := s.radios.seen place object.radio) s.driver hstarted hregistered
        cleared left
  · rw [Bool.not_eq_true] at hstarted
    rw [if_neg (by simp [hstarted])] at hmemory
    have hstop : (s.radios.seen place object.radio).stop = s.radios.seen place object.radio :=
      if_pos hstarted
    have hcalls : (s.radios.seen place object.radio).stopCalls cleared left = [] :=
      if_pos hstarted
    rw [hstop, hcalls]
    refine .inl ⟨hmemory, ⟨?_, rfl, rfl, fun _ _ _ => ⟨?_, rfl⟩⟩⟩
    · refine memory_turn_same s _ object (s.radios.seen place object.radio) ?_
      rw [hmemory, if_neg (by simp [Radios.seen, hstarted])]
    · by_cases hmine : s.radios.callbackInstance = some place
      · simp [Radios.turn, Radios.pointer, Radios.seen, hmine]
      · simp [Radios.turn, Radios.pointer, Radios.seen, hmine]

theorem construct_same (s : SharedDriver Address) (place : Nat) (configuration : Configuration)
    (slots : Nat → ReceivedPacket Address) :
    Same s (s.step (.construct place configuration slots)).1 := by
  refine ⟨?_, rfl, rfl, fun _ _ _ => ⟨?_, rfl⟩⟩
  · cases hobject : s.radios.objects place with
    | none =>
        simp only [step, Radios.step, hobject]
        rw [memory_put]
        refine Function.update_eq_self_iff.mpr ?_
        simp [memory, hobject, Radio.constructed]
    | some object => simp [step, Radios.step, hobject]
  · cases hobject : s.radios.objects place with
    | none => simp [step, Radios.step, hobject, Radios.put]
    | some object => simp [step, Radios.step, hobject]

/-- The destruction of a radio that is not started, or of the one that is. -/
theorem destroy_same_or_ended (s : SharedDriver Address) (place : Nat) :
    let u := (s.step (.destroy place)).1
    (s.memory place = none ∧ Same s u) ∨
      ∃ was, Ended s u place was ∧ u.driver.promiscuous = s.driver.promiscuous := by
  have hput : (s.step (.destroy place)).1.memory = Function.update s.memory place none :=
    memory_put s.radios s.driver s.asked place none
  cases hmemory : s.memory place with
  | none =>
      refine .inl ⟨rfl, ?_, rfl, rfl, fun _ _ _ => ⟨rfl, rfl⟩⟩
      rw [hput]
      exact Function.update_eq_self_iff.mpr hmemory.symm
  | some was => exact .inr ⟨was, ⟨hmemory, hput, rfl⟩, rfl⟩

/-- **One operation** keeps the radio that is started the callback's. -/
theorem Inv.step (h : Inv s) (op : DriverOp Address) : Inv (s.step op).1 := by
  cases op with
  | construct place configuration slots =>
      exact (construct_same s place configuration slots).inv h
  | start place n reads cleared =>
      cases hobject : s.radios.objects place with
      | none => simpa [SharedDriver.step, hobject] using h
      | some object =>
          rcases start_same_or_began h hobject n reads cleared with ⟨hsame, -⟩ | ⟨-, -, hbegan⟩
          · exact hsame.inv h
          · exact hbegan.inv
  | stop place cleared left =>
      cases hobject : s.radios.objects place with
      | none => simpa [SharedDriver.step, hobject] using h
      | some object =>
          rcases stop_same_or_ended h hobject cleared left with ⟨-, hsame⟩ | ⟨was, hended, -⟩
          · exact hsame.inv h
          · exact hended.inv h
  | destroy place =>
      rcases destroy_same_or_ended s place with ⟨-, hsame⟩ | ⟨was, hended, -⟩
      · exact hsame.inv h
      · exact hended.inv h
  | others promiscuous => exact ⟨h.pointer, h.heard, fun _ _ _ hoff => hoff⟩

/-- **One operation** keeps what is to be given back exactly if it does not leak. -/
theorem restores_step_iff (h : Inv s) (hs : Restores s) (op : DriverOp Address) :
    Restores (s.step op).1 ↔ ¬Leaks s op := by
  cases op with
  | construct place configuration slots =>
      exact iff_of_true ((construct_same s place configuration slots).restores_iff.mpr hs) id
  | start place n reads cleared =>
      cases hobject : s.radios.objects place with
      | none =>
          refine iff_of_true (by simpa [step, hobject] using hs) ?_
          intro hleaks
          obtain ⟨object, hsome, -⟩ := hleaks
          rw [hobject] at hsome
          cases hsome
      | some object =>
          rcases start_same_or_began h hobject n reads cleared with
            ⟨hsame, hfailed⟩ | ⟨hstopped, hok, hbegan⟩
          · refine iff_of_true (hsame.restores_iff.mpr hs) ?_
            intro hleaks
            obtain ⟨object', hsome, hstopped, hok, -⟩ := hleaks
            obtain rfl := Option.some.inj (hobject.symm.trans hsome)
            rw [hfailed hstopped] at hok
            cases hok
          · rw [hbegan.restores_iff]
            cases reads with
            | true =>
                refine iff_of_true (hs.given hbegan.free) ?_
                intro hleaks
                obtain ⟨-, -, -, -, hreads, -⟩ := hleaks
                cases hreads
            | false =>
                constructor
                · intro hwas hleaks
                  obtain ⟨object', hsome, -, -, -, hother⟩ := hleaks
                  obtain rfl := Option.some.inj (hobject.symm.trans hsome)
                  exact hother hwas
                · intro hno
                  by_contra hwas
                  exact hno ⟨object, hobject, hstopped, hok, rfl, hwas⟩
  | stop place cleared left =>
      cases hobject : s.radios.objects place with
      | none =>
          refine iff_of_true (by simpa [step, hobject] using hs) ?_
          intro hleaks
          obtain ⟨hsome, -⟩ := hleaks
          exact hsome (by simp [memory, hobject])
      | some object =>
          rcases stop_same_or_ended h hobject cleared left with
            ⟨hnone, hsame⟩ | ⟨was, hended, hmode⟩
          · exact iff_of_true (hsame.restores_iff.mpr hs) fun hleaks => hleaks.1 hnone
          · rw [hended.restores_iff h, hmode]
            have hwas := hs.remembered place was hended.started
            have hon := h.on place was hended.started
            simp only [Leaks, hended.started, hwas]
            revert hon
            cases s.asked <;> cases left <;> cases s.driver.promiscuous <;> simp
  | destroy place =>
      rcases destroy_same_or_ended s place with ⟨hnone, hsame⟩ | ⟨was, hended, hmode⟩
      · exact iff_of_true (hsame.restores_iff.mpr hs) fun hleaks => hleaks.1 hnone
      · rw [hended.restores_iff h, hmode]
        simp [Leaks, hended.started]
  | others promiscuous =>
      constructor
      · intro hrestores hleaks
        obtain ⟨⟨place, hplace⟩, hother⟩ := hleaks
        obtain ⟨was, hwas⟩ := Option.ne_none_iff_exists'.mp hplace
        exact hother ((hrestores.remembered place was hwas).symm.trans
          (hs.remembered place was hwas))
      · intro hno
        refine ⟨fun place was hwas => ?_, fun _ => rfl⟩
        by_contra hother
        refine hno ⟨⟨place, by simp [show s.memory place = some was from hwas]⟩, fun heq => ?_⟩
        exact hother ((hs.remembered place was hwas).trans heq.symm)

/-- **Promiscuous mode is given back.**  Over any run of any number of radios on
a driver that others use as well, the mode is as they last asked for whenever no
radio is started, and the radio that is started remembers it, exactly if none of
four things happens: a `Start` that cannot read the mode while the radio remembers
another; a `Stop` that cannot switch it off; a started radio destroyed while the
mode is not what others asked for; and others asking for another mode during a
session.  Whatever happens, a radio that is started has the driver's callback and
is alone in that. -/
theorem promiscuous_restored_iff (promiscuous : Bool) (ops : List (DriverOp Address)) :
    let run := trace step (unused promiscuous : SharedDriver Address) ops
    ((∀ x ∈ run, Restores (x.1.step x.2).1) ↔ ∀ x ∈ run, ¬Leaks x.1 x.2) ∧
      ∀ x ∈ run, Inv (x.1.step x.2).1 := by
  have hinv : Inv (unused promiscuous : SharedDriver Address) := by
    refine ⟨fun place was h => ?_, fun place was h => ?_, fun place was h => ?_⟩ <;> cases h
  have hrestores : Restores (unused promiscuous : SharedDriver Address) :=
    ⟨(fun place was h => by cases h), fun _ => rfl⟩
  have hkeeps : ∀ (s : SharedDriver Address) (op : DriverOp Address), Inv s → Inv (s.step op).1 :=
    fun _ op h => h.step op
  have hstep : ∀ (s : SharedDriver Address) (op : DriverOp Address), Inv s → Restores s →
      (Restores (s.step op).1 ↔ ¬Leaks s op) := fun _ op h hs => restores_step_iff h hs op
  refine ⟨trace_forall_iff hkeeps hstep hinv hrestores ops, fun x hx => ?_⟩
  exact (trace_invariant hkeeps hinv ops x hx).step x.2

end SharedDriver

end Raw80211Radio
