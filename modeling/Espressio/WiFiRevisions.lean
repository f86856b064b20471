import Espressio.WiFiReconnectBudget

/-!
# The revision of the exposed state

`Revision` is to tell two states apart: who has seen a revision has seen the
state.  Every change the platform makes to the state it exposes steps the
counter, by hand, but for one: turning the radio off puts a state of its own
in place, and with it the counter starts again.

`Later` is what one change has to do, and it composes.  An operation fails it
exactly if it `Restarts` the count, so the runs in which the revision can be
trusted are those in which the radio is not turned off after the revision has
moved on: `revisions_iff`.
-/

namespace WiFi

open Runs

/-- The same state, or one of a higher revision. -/
def Later (a b : RuntimeState) : Prop := b = a ∨ a.revision < b.revision

theorem Later.refl (a : RuntimeState) : Later a a := Or.inl rfl

/-- A change that steps the revision. -/
theorem Later.succ {a b : RuntimeState} (h : b.revision = a.revision + 1) : Later a b :=
  Or.inr (by omega)

theorem Later.trans {a b c : RuntimeState} (h : Later a b) (k : Later b c) : Later a c := by
  rcases h with rfl | h
  · exact k
  · rcases k with rfl | k
    · exact Or.inr h
    · exact Or.inr (Nat.lt_trans h k)

/-- Two states of one revision, one no earlier than the other. -/
theorem Later.eq_of_revision {a b : RuntimeState} (h : Later a b)
    (hrevision : a.revision = b.revision) : a = b := by
  rcases h with rfl | h
  · rfl
  · omega

variable {p : Platform} (defaults : Defaults) (backoff : Backoff)

/-! ## What each function does to the revision -/

theorem later_enterClient (p : Platform) (client : ClientRuntimeState) :
    Later p.state (p.enterClient client).state :=
  Later.succ rfl

theorem later_enterAccessPoint (p : Platform) (ap : AccessPointRuntimeState) :
    Later p.state (p.enterAccessPoint ap).state :=
  Later.succ rfl

theorem later_beginClient (p : Platform) (reconnect : Bool) (now : UInt32) :
    Later p.state (p.beginClient reconnect now).1.state := by
  unfold Platform.beginClient
  split <;> exact later_enterClient p _

theorem later_scheduleReconnect (p : Platform) (now : UInt32) :
    Later p.state (p.scheduleReconnect backoff now).state := by
  unfold Platform.scheduleReconnect
  split
  · exact later_enterClient p _
  · split <;> exact later_enterClient p _

theorem later_pollReconnect (p : Platform) (r : ReconnectReadings) :
    Later p.state (p.pollReconnect backoff r).1.state := by
  have houtcome := pollReconnect_outcome backoff p r
  generalize p.pollReconnect backoff r = out at houtcome ⊢
  cases houtcome with
  | idle => exact Later.refl _
  | observed h => exact Later.refl _
  | scheduled now => exact later_scheduleReconnect backoff p now
  | attempted due =>
      exact later_beginClient { p with nextReconnectMilliseconds := 0 } true r.laterClock

theorem later_refreshState (p : Platform) (r : RefreshReadings) :
    Later p.state (p.refreshState defaults r).state := by
  dsimp only [Platform.refreshState]
  split
  · exact Later.succ rfl
  · exact Later.refl _

theorem later_pollScan (p : Platform) (r : ScanReading) :
    Later p.state (p.pollScan r).1.state := by
  unfold Platform.pollScan
  split
  · exact Later.refl _
  · cases r with
    | running => exact Later.refl _
    | failed => exact Later.succ rfl
    | complete entries => exact Later.succ rfl

theorem client_pollScan (p : Platform) (r : ScanReading) :
    (p.pollScan r).1.state.client = p.state.client := by
  unfold Platform.pollScan
  split
  · rfl
  · cases r <;> rfl

theorem state_buildStationEvents (p : Platform) (r : StationReadings) :
    (p.buildStationEvents r).1.state = p.state := by
  unfold Platform.buildStationEvents
  split
  · rfl
  · cases r.stations <;> rfl

/-- A poll changes the state in its first three parts only. -/
theorem state_pollStep (p : Platform) (r : PollReadings) :
    (pollStep defaults backoff p r).1.state =
      (((p.pollReconnect backoff r.reconnect).1.refreshState defaults r.refresh).pollScan
        r.scan).1.state := by
  simp only [pollStep, Platform.poll]
  split
  · exact state_buildStationEvents _ r.stations
  · rfl

theorem later_poll (p : Platform) (r : PollReadings) :
    Later p.state (pollStep defaults backoff p r).1.state := by
  rw [state_pollStep]
  have hreconnect := later_pollReconnect backoff p r.reconnect
  have hrefresh :=
    later_refreshState defaults (p.pollReconnect backoff r.reconnect).1 r.refresh
  exact (hreconnect.trans hrefresh).trans (later_pollScan _ r.scan)

theorem later_applyInterfaces (p : Platform) (c : WiFiConfiguration) (n : ApplyNatives) :
    Later p.state (p.applyInterfaces defaults c n).1.state := by
  have hclient : Later p.state (p.applyClient c n.clock).1.state := by
    unfold Platform.applyClient
    split
    · exact later_beginClient p false n.clock
    · exact Later.refl _
  simp only [Platform.applyInterfaces]
  split
  · exact Later.refl _
  · split
    · exact Later.refl _
    · exact hclient.trans (later_refreshState defaults _ n.refresh)

theorem later_connectConfigured (p : Platform) (address : Bool × List Call) (now : UInt32) :
    Later p.state (p.connectConfigured address now).1.state := by
  rcases connectConfigured_cases p address now with ⟨-, heq⟩ | ⟨-, heq⟩
  · rw [heq]
    exact Later.refl _
  · rw [heq]
    exact later_beginClient _ false now

theorem later_disconnectClient (p : Platform) (ok : Bool) :
    Later p.state (p.disconnectClient ok).1.state := by
  unfold Platform.disconnectClient
  split
  · exact Later.refl _
  · exact (later_enterClient { p with manualDisconnect := true } _).trans (later_enterClient _ _)

theorem later_startAccessPoint (p : Platform) (modeOk : Bool) (n : AccessPointNatives) :
    Later p.state (p.startAccessPoint modeOk n).1.state := by
  have htwice : ∀ a b, Later p.state ((p.enterAccessPoint a).enterAccessPoint b).state :=
    fun a b => (later_enterAccessPoint p a).trans (later_enterAccessPoint _ b)
  simp only [Platform.startAccessPoint]
  split_ifs <;> first | exact Later.refl _ | exact htwice _ _

theorem later_stopAccessPoint (p : Platform) (disconnectOk modeOk : Bool) :
    Later p.state (p.stopAccessPoint defaults disconnectOk modeOk).1.state := by
  simp only [Platform.stopAccessPoint]
  split_ifs <;> first | exact Later.refl _ | exact later_enterAccessPoint p _

theorem later_startScan (p : Platform) (failed : Bool) :
    Later p.state (p.startScan failed).1.state := by
  simp only [Platform.startScan]
  split_ifs
  · exact Later.refl _
  · exact Later.refl _
  · exact Later.succ rfl
  · exact Later.succ rfl

/-! ## Turning the radio off -/

/-- The state of a radio that has been turned off. -/
def offState (mode : WiFiMode) : RuntimeState :=
  { defaults.runtime with mode := mode, revision := defaults.runtime.revision + 1 }

/-- The mode in which the operation turns the radio off, if it does. -/
def Op.turnsOff : Op → Option WiFiMode
  | .apply c n => if validate c && n.mode && c.mode.isOff then some c.mode else none
  | .disable modeOk => if modeOk then some .off else none
  | _ => none

theorem state_of_turnsOff {op : Op} {mode : WiFiMode} (h : op.turnsOff = some mode) :
    (step defaults backoff p op).1.state = offState defaults mode := by
  cases op with
  | apply c n =>
      simp only [Op.turnsOff, Option.ite_none_right_eq_some, Option.some.injEq, Bool.and_eq_true]
        at h
      obtain ⟨⟨⟨hvalid, hmode⟩, hoff⟩, rfl⟩ := h
      simp [step, Platform.apply, hvalid, hmode, hoff, Platform.turnOff, offState]
  | disable modeOk =>
      simp only [Op.turnsOff, Option.ite_none_right_eq_some, Option.some.injEq] at h
      obtain ⟨rfl, rfl⟩ := h
      simp [step, Platform.disable, Platform.turnOff, offState]
  | _ => cases h

/-- **Everything else** leaves the state as it is or steps its revision. -/
theorem later_step {op : Op} (h : op.turnsOff = none) :
    Later p.state (step defaults backoff p op).1.state := by
  cases op with
  | apply c n =>
      simp only [step]
      cases hvalid : validate c with
      | false =>
          rw [apply_refused defaults p hvalid n]
          exact Later.refl _
      | true =>
          simp only [Platform.apply, hvalid, Bool.true_eq_false, if_false]
          split
          · exact Later.refl _
          · rename_i hmode
            split
            · rename_i hoff
              simp only [Bool.not_eq_false] at hmode
              simp [Op.turnsOff, hvalid, hmode, hoff] at h
            · exact later_applyInterfaces defaults (p.retain c) c n
  | disable modeOk =>
      cases modeOk with
      | false => exact Later.refl _
      | true => cases h
  | connectClient config now =>
      simp only [step, Platform.connectClient]
      split
      · exact Later.refl _
      · exact later_connectConfigured { p with hasActiveProfile := false } _ now
  | connectProfile profile config now =>
      simp only [step, Platform.connectProfile]
      split
      · exact Later.refl _
      · split
        · exact Later.refl _
        · exact later_connectConfigured
            { p with activeProfile := profile, hasActiveProfile := true } _ now
  | disconnectClient ok => exact later_disconnectClient p ok
  | startAccessPoint modeOk n => exact later_startAccessPoint p modeOk n
  | stopAccessPoint disconnectOk modeOk =>
      exact later_stopAccessPoint defaults p disconnectOk modeOk
  | startScan failed => exact later_startScan p failed
  | poll readings => exact later_poll defaults backoff p readings

/-- The operation turns the radio off, in a state of its own and of no higher
revision than the one before. -/
def Restarts (p : Platform) (op : Op) : Prop :=
  ∃ mode, op.turnsOff = some mode ∧ p.state ≠ offState defaults mode ∧
    defaults.runtime.revision < p.state.revision

theorem later_step_iff (p : Platform) (op : Op) :
    Later p.state (step defaults backoff p op).1.state ↔ ¬Restarts defaults p op := by
  cases hoff : op.turnsOff with
  | none =>
      refine iff_of_true (later_step defaults backoff hoff) ?_
      rintro ⟨mode, hmode, -⟩
      rw [hoff] at hmode
      cases hmode
  | some mode =>
      rw [state_of_turnsOff defaults backoff hoff]
      constructor
      · rintro hlater ⟨mode', hmode, hne, hless⟩
        obtain rfl : mode = mode' := Option.some.inj (hoff.symm.trans hmode)
        rcases hlater with heq | hlt
        · exact hne heq.symm
        · simp only [offState] at hlt
          omega
      · intro hno
        by_cases heq : p.state = offState defaults mode
        · exact Or.inl heq.symm
        · right
          have hle : p.state.revision ≤ defaults.runtime.revision :=
            Nat.le_of_not_lt fun hless => hno ⟨mode, hoff, heq, hless⟩
          exact Nat.lt_succ_of_le hle

/-! ## Runs -/

/-- The states the polls of a run return. -/
def returnedStates (run : List (Platform × Op)) : List RuntimeState :=
  run.filterMap fun x =>
    match x.2 with
    | .poll r => some (x.1.poll defaults backoff r).2.1.state
    | _ => none

/-- What a poll returns is the state it leaves. -/
theorem mem_returnedStates {run : List (Platform × Op)} {state : RuntimeState}
    (h : state ∈ returnedStates defaults backoff run) :
    ∃ x ∈ run, state = (step defaults backoff x.1 x.2).1.state := by
  obtain ⟨⟨p, op⟩, hx, hstate⟩ := List.mem_filterMap.mp h
  cases op with
  | poll r =>
      obtain rfl := Option.some.inj hstate
      exact ⟨_, hx, rfl⟩
  | _ => cases hstate

/-- In a run in which each state is no earlier than the one before it, none is
earlier than the first. -/
theorem later_of_trace {ops : List Op}
    (h : ∀ x ∈ trace (step defaults backoff) p ops,
      Later x.1.state (step defaults backoff x.1 x.2).1.state) :
    ∀ x ∈ trace (step defaults backoff) p ops,
      Later p.state (step defaults backoff x.1 x.2).1.state := by
  induction ops generalizing p with
  | nil => exact fun x hx => absurd hx List.not_mem_nil
  | cons op rest ih =>
      obtain ⟨hhead, hrest⟩ := List.forall_mem_cons.mp h
      exact List.forall_mem_cons.mpr ⟨hhead, fun x hx => hhead.trans (ih hrest x hx)⟩

/-- So any two of one revision are equal. -/
theorem equal_of_trace {ops : List Op}
    (h : ∀ x ∈ trace (step defaults backoff) p ops,
      Later x.1.state (step defaults backoff x.1 x.2).1.state) :
    ∀ x ∈ trace (step defaults backoff) p ops, ∀ y ∈ trace (step defaults backoff) p ops,
      (step defaults backoff x.1 x.2).1.state.revision =
        (step defaults backoff y.1 y.2).1.state.revision →
      (step defaults backoff x.1 x.2).1.state = (step defaults backoff y.1 y.2).1.state := by
  induction ops generalizing p with
  | nil => exact fun x hx => absurd hx List.not_mem_nil
  | cons op rest ih =>
      obtain ⟨-, hrest⟩ := List.forall_mem_cons.mp h
      have hlater := later_of_trace defaults backoff hrest
      intro x hx y hy hrevision
      rcases List.mem_cons.mp hx with rfl | hx
      · rcases List.mem_cons.mp hy with rfl | hy
        · rfl
        · exact (hlater y hy).eq_of_revision hrevision
      · rcases List.mem_cons.mp hy with rfl | hy
        · exact ((hlater x hx).eq_of_revision hrevision.symm).symm
        · exact ih hrest x hx y hy hrevision

/-- **The revision.**  In a run every change of the exposed state steps the
revision exactly if no operation of it restarts the count, and then any two
polls that return one revision return one state. -/
theorem revisions_iff (ops : List Op) :
    let run := trace (step defaults backoff) (Platform.fresh defaults) ops
    ((∀ x ∈ run, Later x.1.state (step defaults backoff x.1 x.2).1.state) ↔
        ∀ x ∈ run, ¬Restarts defaults x.1 x.2) ∧
      ((∀ x ∈ run, ¬Restarts defaults x.1 x.2) →
        ∀ a ∈ returnedStates defaults backoff run, ∀ b ∈ returnedStates defaults backoff run,
          a.revision = b.revision → a = b) := by
  intro run
  have hiff : (∀ x ∈ run, Later x.1.state (step defaults backoff x.1 x.2).1.state) ↔
      ∀ x ∈ run, ¬Restarts defaults x.1 x.2 :=
    forall₂_congr fun x _ => later_step_iff defaults backoff x.1 x.2
  refine ⟨hiff, ?_⟩
  intro hno a ha b hb hrevision
  obtain ⟨x, hx, rfl⟩ := mem_returnedStates defaults backoff ha
  obtain ⟨y, hy, rfl⟩ := mem_returnedStates defaults backoff hb
  have hequal := equal_of_trace defaults backoff (hiff.mpr hno)
  exact hequal x hx y hy hrevision

/-- A client that is polled, turned off and started anew: both polls return
revision 3, one of a reconnect and one of a first attempt. -/
def restartedOps : List Op :=
  [.apply twoAttempts appliedNatives, .poll (unanswered 0), .disable true,
    .apply twoAttempts appliedNatives,
    .poll { unanswered 0 with reconnect := ⟨.other 6, 0, 0⟩ }]

theorem revision_restarts : ¬ ∀ (defaults : Defaults) (backoff : Backoff) (ops : List Op),
    let run := trace (step defaults backoff) (Platform.fresh defaults) ops
    ∀ a ∈ returnedStates defaults backoff run, ∀ b ∈ returnedStates defaults backoff run,
      a.revision = b.revision → a = b := by
  intro h
  have hequal := h sampleDefaults doubling restartedOps
  revert hequal
  decide +kernel

end WiFi
