import Espressio.IDFGPIOProvider

/-!
# The core of the interrupt service

The driver runs the GPIO interrupt service on the core that installed it.  The
controller notes the core when it installs the service, and from then on
refuses requests for another one.  What it notes is right as long as it has
installed the service itself, and without being moved meanwhile.

If other code was first, the driver answers `ESP_ERR_INVALID_STATE`.  The
controller takes that for success, and notes the core on which it asked.  So a
request can be `Misplaced`: it succeeds, and its interrupts run on another core
than it asked for.
-/

namespace IDFGPIO

open PlatformResults Runs

variable (board : Board)

/-! ## What an operation does to the service -/

theorem service_intrDisable (s : Controller) (pin : Pin) (answer : EspErr) :
    (s.intrDisable pin answer).service = s.service := by
  unfold Controller.intrDisable
  split <;> rfl

theorem service_enable (s : Controller) (id : Nat) (handle : Interrupt) (answer : EspErr) :
    (s.enable id handle answer).1.service = s.service := by
  unfold Controller.enable Controller.intrEnable
  split_ifs <;> rfl

theorem service_disable (s : Controller) (id : Nat) (handle : Interrupt) (answer : EspErr) :
    (s.disable id handle answer).1.service = s.service := by
  unfold Controller.disable Controller.intrDisable
  split_ifs <;> rfl

theorem service_destroy (s : Controller) (id : Nat) (handle : Interrupt) (n : DestroyNatives) :
    (s.destroy id handle n).service = s.service := by
  unfold Controller.destroy Controller.intrDisable Controller.isrHandlerRemove
  split_ifs <;> rfl

theorem service_register (s : Controller) (id : Nat) (handle : Interrupt) (startEnabled : Bool)
    (n : RegisterNatives) : (s.register id handle startEnabled n).1.service = s.service := by
  have hadd : (s.isrHandlerAdd handle.pin id n.add n.addEnables).service = s.service := by
    unfold Controller.isrHandlerAdd
    split <;> rfl
  unfold Controller.register
  split
  · rfl
  · dsimp only
    split
    · rw [service_enable]
      exact hadd
    · rw [service_intrDisable]
      exact hadd

theorem service_createHandle (s : Controller) (pin : Pin) (c : InterruptConfiguration)
    (n : CreateNatives) : (s.createHandle pin c n).1.service = s.service := by
  unfold Controller.createHandle
  split
  · rfl
  · dsimp only
    split
    · rw [service_destroy, service_register]
      exact service_intrDisable _ pin n.disable
    · rw [service_register]
      exact service_intrDisable _ pin n.disable

/-- A create past its arguments goes as far as the service. -/
theorem createInterrupt_service {s : Controller} {pin : Pin} {c : InterruptConfiguration}
    {callback : Bool} {n : CreateNatives}
    (h : board.validGpio pin = true ∧ callback = true) :
    (s.createInterrupt board pin c callback n).1.service =
        (s.service.ensure c.affinity n.service).1 ∧
      ((s.service.ensure c.affinity n.service).2.ok = false →
        (s.createInterrupt board pin c callback n).2 =
          (s.service.ensure c.affinity n.service).2) := by
  have hguard : ¬(board.validGpio pin = false ∨ callback = false) := by
    simp [h.1, h.2]
  unfold Controller.createInterrupt
  rw [if_neg hguard]
  dsimp only
  split
  · exact ⟨rfl, fun _ => rfl⟩
  · rename_i hok
    exact ⟨service_createHandle _ pin c n, fun hfailed => absurd hfailed hok⟩

/-- And succeeds only with the service. -/
theorem ensure_of_succeeded {s : Controller} {pin : Pin} {c : InterruptConfiguration}
    {callback : Bool} {n : CreateNatives}
    (h : (s.createInterrupt board pin c callback n).2 = .succeeded) :
    (board.validGpio pin = true ∧ callback = true) ∧
      (s.service.ensure c.affinity n.service).2.ok = true := by
  by_cases hguard : board.validGpio pin = false ∨ callback = false
  · rw [Controller.createInterrupt, if_pos hguard] at h
    cases h
  · have hvalid : board.validGpio pin = true ∧ callback = true := by
      simpa using hguard
    refine ⟨hvalid, ?_⟩
    by_contra hfailed
    rw [Bool.not_eq_true] at hfailed
    rw [(createInterrupt_service board hvalid).2 hfailed] at h
    rw [h] at hfailed
    cases hfailed

/-! ## What the controller knows -/

/-- An installation answers for one of three reasons. -/
theorem Service.install_cases (s : Service) (core : Core) (failure : Option InstallError) :
    (∃ other, s.isrCore = some other ∧ s.install core failure = (s, .invalidState)) ∨
      (s.isrCore = none ∧ ∃ e, failure = some e ∧ s.install core failure = (s, e.error)) ∨
      (s.isrCore = none ∧ failure = none ∧
        s.install core failure = ({ s with isrCore := some core }, .ok)) := by
  unfold Service.install
  cases hcore : s.isrCore with
  | some other => exact Or.inl ⟨other, rfl, rfl⟩
  | none =>
      cases failure with
      | some e => exact Or.inr (Or.inl ⟨rfl, e, rfl, rfl⟩)
      | none => exact Or.inr (Or.inr ⟨rfl, rfl, rfl⟩)

/-- The error of an installation that failed is passed on. -/
theorem Service.conclude_error (s : Service) (e : InstallError) (noted : Core) :
    s.conclude e.error noted = (s, platformResultFromEspError e.error) ∧
      (platformResultFromEspError e.error).ok = false := by
  refine ⟨if_neg (by simp [e.failed, e.other]), ?_⟩
  cases herror : e.error with
  | ok => exact absurd herror e.failed
  | _ => rfl

/-- **An installation and what is noted of it.**  The controller notes a core
if there was a service already, or if there is one now. -/
theorem Service.installed_cases (s : Service) (core noted : Core)
    (failure : Option InstallError) :
    (∃ other, s.isrCore = some other ∧
        (s.install core failure).1.conclude (s.install core failure).2 noted =
          ({ s with serviceInstalled := true, serviceCore := noted }, .succeeded)) ∨
      (s.isrCore = none ∧ failure ≠ none ∧
        ((s.install core failure).1.conclude (s.install core failure).2 noted).1 = s ∧
        ((s.install core failure).1.conclude (s.install core failure).2 noted).2.ok = false) ∨
      (s.isrCore = none ∧ failure = none ∧
        (s.install core failure).1.conclude (s.install core failure).2 noted =
          (⟨some core, true, noted⟩, .succeeded)) := by
  rcases s.install_cases core failure with
    ⟨other, hcore, heq⟩ | ⟨hcore, e, rfl, heq⟩ | ⟨hcore, rfl, heq⟩
  · rw [heq]
    exact Or.inl ⟨other, hcore, rfl⟩
  · rw [heq]
    obtain ⟨hconclude, hfailed⟩ := s.conclude_error e noted
    refine Or.inr (Or.inl ⟨hcore, by simp, ?_⟩)
    rw [hconclude]
    exact ⟨rfl, hfailed⟩
  · rw [heq]
    exact Or.inr (Or.inr ⟨hcore, rfl, rfl⟩)

/-- The controller takes the service for installed only if it is. -/
def Service.Known (s : Service) : Prop := s.serviceInstalled = true → s.isrCore.isSome

theorem Service.Known.install {s : Service} (h : s.Known) (core : Core)
    (failure : Option InstallError) : (s.install core failure).1.Known := by
  rcases s.install_cases core failure with ⟨other, -, heq⟩ | ⟨-, e, -, heq⟩ | ⟨-, -, heq⟩
  · rw [heq]
    exact h
  · rw [heq]
    exact h
  · rw [heq]
    exact fun _ => rfl

theorem Service.Known.noted {s : Service} (h : s.Known) (core noted : Core)
    (failure : Option InstallError) :
    ((s.install core failure).1.conclude (s.install core failure).2 noted).1.Known := by
  rcases s.installed_cases core noted failure with
    ⟨other, hcore, heq⟩ | ⟨-, -, heq, -⟩ | ⟨-, -, heq⟩
  · rw [heq]
    intro _
    simp [hcore]
  · rw [heq]
    exact h
  · rw [heq]
    exact fun _ => rfl

theorem Service.Known.ensure {s : Service} (h : s.Known) (affinity : ProcessorAffinity)
    (n : ServiceNatives) : (s.ensure affinity n).1.Known := by
  have hhere : (s.installHere n).1.Known := h.noted n.installCore n.coreAfter n.install
  cases affinity with
  | any =>
      simp only [Service.ensure]
      split
      · exact h
      · exact hhere
  | specific processor =>
      simp only [Service.ensure, Service.installPinned]
      split_ifs
      · exact h
      · exact h
      · exact hhere
      · exact h
      · exact h
      · exact h.install processor n.install
      · exact h
      · exact h.noted processor processor n.install

theorem known_step {s : Controller} (h : s.service.Known) (op : Op) :
    (step board s op).1.service.Known := by
  cases op with
  | createInterrupt pin c callback n =>
      simp only [step]
      by_cases hguard : board.validGpio pin = false ∨ callback = false
      · rw [Controller.createInterrupt, if_pos hguard]
        exact h
      · have hvalid : board.validGpio pin = true ∧ callback = true := by
          simpa using hguard
        rw [(createInterrupt_service board hvalid).1]
        exact h.ensure c.affinity n.service
  | enable id answer =>
      simp only [step]
      split
      · exact h
      · rw [service_enable]
        exact h
  | disable id answer =>
      simp only [step]
      split
      · exact h
      · rw [service_disable]
        exact h
  | destroy id n =>
      simp only [step]
      split
      · exact h
      · rw [service_destroy]
        exact h
  | configure pin c config level =>
      simp only [step, Controller.configure, Controller.write, Controller.gpioConfig]
      split_ifs <;> exact h
  | write pin state answer =>
      simp only [step, Controller.write]
      split_ifs <;> exact h
  | installElsewhere core => exact h.install core none

/-! ## Where a request ends up -/

/-- The controller would take a service on another core for one on the core
that is asked for. -/
def Service.Mistaken (s : Service) (core : Core) : Prop :=
  ∃ other, s.isrCore = some other ∧ other ≠ core ∧
    (s.serviceInstalled = false ∨ s.serviceCore = core)

/-- The controller would install the service itself, and be moved meanwhile. -/
def Service.Moved (s : Service) (core : Core) (n : ServiceNatives) : Prop :=
  s.isrCore = none ∧ n.core = core ∧ n.install = none ∧ n.installCore ≠ core

/-- A request for a core that is neither gets it, if it gets the service. -/
theorem Service.ensure_isrCore {s : Service} {core : Core} {n : ServiceNatives}
    (h : s.Known) (hmistaken : ¬s.Mistaken core) (hmoved : ¬s.Moved core n)
    (hok : (s.ensure (.specific core) n).2.ok = true) :
    (s.ensure (.specific core) n).1.isrCore = some core := by
  have hfound : ∀ other, s.isrCore = some other →
      (s.serviceInstalled = false ∨ s.serviceCore = core) → s.isrCore = some core := by
    intro other hother hnoted
    by_cases heq : other = core
    · exact heq ▸ hother
    · exact absurd ⟨other, hother, heq, hnoted⟩ hmistaken
  simp only [Service.ensure] at hok ⊢
  split at hok
  · rename_i hinstalled
    rw [if_pos hinstalled]
    obtain ⟨other, hother⟩ := Option.isSome_iff_exists.mp (h hinstalled)
    split at hok
    · cases hok
    · rename_i hnoted
      rw [if_neg hnoted]
      exact hfound other hother (Or.inr (not_not.mp hnoted))
  · rename_i hinstalled
    rw [if_neg hinstalled]
    rw [Bool.not_eq_true] at hinstalled
    split at hok
    · rename_i hhere
      rw [if_pos hhere]
      simp only [Service.installHere] at hok ⊢
      rcases s.installed_cases n.installCore n.coreAfter n.install with
        ⟨other, hother, heq⟩ | ⟨-, -, -, hfailed⟩ | ⟨hnone, hinstall, heq⟩
      · rw [heq]
        exact hfound other hother (Or.inl hinstalled)
      · rw [hfailed] at hok
        cases hok
      · rw [heq]
        by_contra hne
        exact hmoved ⟨hnone, hhere.symm, hinstall, fun hcore => hne (congrArg some hcore)⟩
    · rename_i hhere
      rw [if_neg hhere]
      simp only [Service.installPinned] at hok ⊢
      split_ifs at hok ⊢
      · cases hok
      · cases hok
      · cases hok
      · cases hok
      · rcases s.installed_cases core core n.install with
          ⟨other, hother, heq⟩ | ⟨-, -, -, hfailed⟩ | ⟨-, -, heq⟩
        · rw [heq]
          exact hfound other hother (Or.inl hinstalled)
        · rw [hfailed] at hok
          cases hok
        · rw [heq]

/-- A request for another core than that of the service is refused, if it is
not mistaken. -/
theorem Service.ensure_conflict {s : Service} {core other : Core} (n : ServiceNatives)
    (hmistaken : ¬s.Mistaken core) (hother : s.isrCore = some other) (hne : other ≠ core) :
    s.ensure (.specific core) n = (s, .failed .conflict none) := by
  have hnoted : s.serviceInstalled = true ∧ s.serviceCore ≠ core := by
    constructor
    · by_contra hinstalled
      exact hmistaken ⟨other, hother, hne, Or.inl (Bool.not_eq_true _ ▸ hinstalled)⟩
    · exact fun hcore => hmistaken ⟨other, hother, hne, Or.inr hcore⟩
  simp only [Service.ensure]
  rw [if_pos hnoted.1, if_pos hnoted.2]

/-- And a request that is one of the two gets a service on another core, unless
the driver fails otherwise. -/
theorem Service.ensure_misplaced {s : Service} {core : Core} {n : ServiceNatives} (h : s.Known)
    (hnatives : n.semaphore = true ∧ n.task = true ∧ n.taken = true)
    (hmisplaced : s.Mistaken core ∨ s.Moved core n) :
    (s.ensure (.specific core) n).2 = .succeeded ∧
      (s.ensure (.specific core) n).1.isrCore ≠ some core := by
  obtain ⟨hsemaphore, htask, htaken⟩ := hnatives
  rcases hmisplaced with ⟨other, hother, hne, hnoted⟩ | ⟨hnone, hhere, hinstall, hne⟩
  · have hkept : s.isrCore ≠ some core := by
      rw [hother]
      exact fun heq => hne (Option.some.inj heq)
    have hinstalled : ∀ installCore noted,
        (s.install installCore n.install).1.conclude (s.install installCore n.install).2 noted =
          ({ s with serviceInstalled := true, serviceCore := noted }, .succeeded) := by
      intro installCore noted
      rcases s.installed_cases installCore noted n.install with
        ⟨-, -, heq⟩ | ⟨hnone, -⟩ | ⟨hnone, -⟩
      · exact heq
      · rw [hother] at hnone
        cases hnone
      · rw [hother] at hnone
        cases hnone
    simp only [Service.ensure, Service.installHere, Service.installPinned, hsemaphore, htask,
      htaken, hinstalled, Bool.true_eq_false, if_false]
    split_ifs with hservice hconflict
    · rcases hnoted with hnot | hcore
      · rw [hnot] at hservice
        cases hservice
      · exact absurd hcore hconflict
    · exact ⟨rfl, hkept⟩
    · exact ⟨rfl, hkept⟩
    · exact ⟨rfl, hkept⟩
  · have hservice : s.serviceInstalled = false := by
      by_contra hinstalled
      have hsome := h (Bool.not_eq_false _ ▸ hinstalled)
      rw [hnone] at hsome
      cases hsome
    simp only [Service.ensure, hservice, Bool.false_eq_true, if_false, Service.installHere,
      if_pos hhere.symm]
    rcases s.installed_cases n.installCore n.coreAfter n.install with
      ⟨other, hother, -⟩ | ⟨-, hfailure, -⟩ | ⟨-, -, heq⟩
    · rw [hnone] at hother
      cases hother
    · exact absurd hinstall hfailure
    · rw [heq]
      exact ⟨rfl, fun hcore => hne (Option.some.inj hcore)⟩

/-- No call of the driver fails, but for the installation of the service. -/
structure CreateNatives.Unhindered (n : CreateNatives) : Prop where
  service : n.service.semaphore = true ∧ n.service.task = true ∧ n.service.taken = true
  setType : n.setType = .ok
  add : n.register.add = .ok
  enable : n.register.enable = .ok

theorem createHandle_succeeded (s : Controller) (pin : Pin) (c : InterruptConfiguration)
    {n : CreateNatives} (h : n.Unhindered) : (s.createHandle pin c n).2 = .succeeded := by
  have hok : ∀ (s : Controller) id handle,
      (s.register id handle c.startEnabled n.register).2.2.ok = true := by
    intro s id handle
    unfold Controller.register
    rw [if_neg (not_not.mpr h.add)]
    dsimp only
    split
    · simp [Controller.enable, h.enable, platformResultFromEspError, PlatformResult.ok]
    · rfl
  unfold Controller.createHandle
  rw [if_neg (not_not.mpr h.setType)]
  dsimp only
  rw [if_neg (by simp [hok])]

/-! ## Runs -/

/-- What a create with a specific core promises: it succeeds only if the
service runs on that core, and ends in a conflict if the service runs on
another. -/
def Placed (s : Controller) : Op → Prop
  | .createInterrupt pin c callback n =>
      ∀ core, c.affinity = .specific core →
        ((s.createInterrupt board pin c callback n).2 = .succeeded →
          (s.createInterrupt board pin c callback n).1.service.isrCore = some core) ∧
        (board.validGpio pin = true ∧ callback = true →
          ∀ other, s.service.isrCore = some other → other ≠ core →
            ∃ native, (s.createInterrupt board pin c callback n).2 = .failed .conflict native)
  | _ => True

/-- A create with a specific core finds the service on another, and the
controller does not know; or the controller is about to install the service
itself, and will be moved off the core. -/
def Misplaced (s : Controller) : Op → Prop
  | .createInterrupt pin c callback n =>
      (board.validGpio pin = true ∧ callback = true) ∧
        ∃ core, c.affinity = .specific core ∧
          (s.service.Mistaken core ∨ s.service.Moved core n.service)
  | _ => False

/-- A create none of whose calls to the driver fails. -/
def Op.Unhindered : Op → Prop
  | .createInterrupt _ _ _ n => n.Unhindered
  | _ => True

theorem placed_of_not_misplaced {s : Controller} (h : s.service.Known) {op : Op}
    (hno : ¬Misplaced board s op) : Placed board s op := by
  cases op with
  | createInterrupt pin c callback n =>
      intro core haffinity
      by_cases hvalid : board.validGpio pin = true ∧ callback = true
      · have hmistaken : ¬s.service.Mistaken core :=
          fun hmistaken => hno ⟨hvalid, core, haffinity, Or.inl hmistaken⟩
        have hmoved : ¬s.service.Moved core n.service :=
          fun hmoved => hno ⟨hvalid, core, haffinity, Or.inr hmoved⟩
        obtain ⟨hservice, hfailed⟩ :=
          createInterrupt_service board hvalid (s := s) (c := c) (n := n)
        constructor
        · intro hok
          have hensured := (ensure_of_succeeded board hok).2
          rw [hservice]
          rw [haffinity] at hensured ⊢
          exact Service.ensure_isrCore h hmistaken hmoved hensured
        · intro _ other hother hne
          have hconflict := Service.ensure_conflict n.service hmistaken hother hne
          rw [← haffinity] at hconflict
          refine ⟨none, ?_⟩
          rw [hfailed (by rw [hconflict]; rfl), hconflict]
      · exact ⟨fun hok => absurd (ensure_of_succeeded board hok).1 hvalid,
          fun hvalid' => absurd hvalid' hvalid⟩
  | _ => trivial

theorem not_placed_of_misplaced {s : Controller} (h : s.service.Known) {op : Op}
    (hunhindered : op.Unhindered) (hmisplaced : Misplaced board s op) : ¬Placed board s op := by
  cases op with
  | createInterrupt pin c callback n =>
      obtain ⟨hvalid, core, haffinity, hcore⟩ := hmisplaced
      obtain ⟨hok, hother⟩ := Service.ensure_misplaced h hunhindered.service hcore
      rw [← haffinity] at hok hother
      have hsucceeded : (s.createInterrupt board pin c callback n).2 = .succeeded := by
        have hguard : ¬(board.validGpio pin = false ∨ callback = false) := by
          simp [hvalid.1, hvalid.2]
        rw [Controller.createInterrupt, if_neg hguard]
        simp only [hok, PlatformResult.ok, Bool.true_eq_false, if_false]
        exact createHandle_succeeded _ pin c hunhindered
      intro hplaced
      have hserved := (hplaced core haffinity).1 hsucceeded
      rw [(createInterrupt_service board hvalid).1] at hserved
      exact hother hserved
  | _ => exact absurd hmisplaced id

/-- **The core of the service.**  Whatever has been done before, a create that
is not misplaced keeps its promise, and one that is and meets no other failure
breaks it. -/
theorem created_placed (ops : List Op) :
    let run := trace (step board) Controller.fresh ops
    (∀ x ∈ run, ¬Misplaced board x.1 x.2 → Placed board x.1 x.2) ∧
      ∀ x ∈ run, x.2.Unhindered → Misplaced board x.1 x.2 → ¬Placed board x.1 x.2 := by
  intro run
  have hfresh : Controller.fresh.service.Known := fun h => by cases h
  have hstep : ∀ (s : Controller) (op : Op),
      s.service.Known → (step board s op).1.service.Known :=
    fun _ op h => known_step board h op
  have hknown : ∀ x ∈ run, x.1.service.Known := trace_invariant hstep hfresh ops
  exact ⟨fun x hx => placed_of_not_misplaced board (hknown x hx),
    fun x hx => not_placed_of_misplaced board (hknown x hx)⟩

/-- A chip with forty pins, all of them outputs as well. -/
def sampleBoard : Board := ⟨fun pin => decide (pin < 40), fun pin => decide (pin < 40)⟩

/-- Everything goes well on core 1. -/
def smoothNatives : CreateNatives :=
  ⟨⟨1, 1, 1, true, true, true, true, none⟩, .ok, .ok, ⟨.ok, true, .ok, .ok⟩, ⟨.ok, .ok⟩⟩

/-- Other code has installed the service on core 0, and a create for core 1
succeeds. -/
theorem created_misplaced : ¬ ∀ (board : Board) (ops : List Op),
    ∀ x ∈ trace (step board) Controller.fresh ops, Placed board x.1 x.2 := by
  intro h
  have hplaced := h sampleBoard
    [.installElsewhere 0, .createInterrupt 4 ⟨.risingEdge, .specific 1, true⟩ true smoothNatives]
    _ (List.mem_cons_of_mem _ List.mem_cons_self)
  have hcore := (hplaced 1 rfl).1 (by decide)
  revert hcore
  decide

end IDFGPIO
