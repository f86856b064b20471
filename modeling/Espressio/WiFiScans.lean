import Espressio.WiFiRevisions

/-!
# The tracked scan and the scan state

Whether a scan is under way is written down twice: `_scanRunning` decides what
`StartScan`, `PollScan` and `GetRadioState` do, and `_state.Scan` is what a
poll returns.  `StartScan` and `PollScan` write both.  `Apply` and `Disable`
drop the tracked scan before they ask the driver for anything, and only turning
the radio off afterwards resets the state as well.

So `scanning` outlives the scan exactly where one of the two `AbandonsScan`:
`scanAgrees_iff`.
-/

namespace WiFi

open Runs

/-! ## The radio's state -/

inductive RadioMode
  | off
  | station
  | accessPoint
  | accessPointStation
  deriving DecidableEq, Repr

structure RadioState where
  mode : RadioMode
  stationInterfaceActive : Bool
  accessPointInterfaceActive : Bool
  stationConnected : Bool
  scanning : Bool
  channel : UInt8
  stationMAC : MacAddress
  accessPointMAC : MacAddress
  deriving DecidableEq, Repr

/-- The driver's mode: one of those `Apply` sets, or another. -/
inductive DriverMode
  | known (mode : NativeMode)
  | other (code : Nat)
  deriving DecidableEq, Repr

/-- What `GetRadioState` reads of the driver.  `none` is a call that failed. -/
structure RadioReadings where
  mode : Option DriverMode
  status : WlStatus
  channel : Option UInt8
  stationMAC : Option MacAddress
  accessPointMAC : Option MacAddress
  deriving DecidableEq, Repr

/-- The `switch` of `GetRadioState`: the mode, and which interfaces are up. -/
def DriverMode.radio : DriverMode → RadioMode × Bool × Bool
  | .known .sta => (.station, true, false)
  | .known .ap => (.accessPoint, false, true)
  | .known .apsta => (.accessPointStation, true, true)
  | .known .null | .other _ => (.off, false, false)

/-- `GetRadioState`.  `initial` is a `WiFiRadioState` as it is constructed. -/
def Platform.getRadioState (initial : RadioState) (p : Platform) (r : RadioReadings) :
    RadioState :=
  match r.mode with
  | none => initial
  | some mode =>
      let station := mode.radio.2.1 || initial.stationInterfaceActive
      let accessPoint := mode.radio.2.2 || initial.accessPointInterfaceActive
      { mode := mode.radio.1
        stationInterfaceActive := station
        accessPointInterfaceActive := accessPoint
        stationConnected := station && r.status == .connected
        scanning := p.scanRunning
        channel := if mode = .known .null then initial.channel else r.channel.getD initial.channel
        stationMAC := if station then r.stationMAC.getD initial.stationMAC else initial.stationMAC
        accessPointMAC :=
          if accessPoint then r.accessPointMAC.getD initial.accessPointMAC
          else initial.accessPointMAC }

theorem scanning_getRadioState (initial : RadioState) (p : Platform) {r : RadioReadings}
    (h : r.mode ≠ none) : (p.getRadioState initial r).scanning = p.scanRunning := by
  obtain ⟨mode, hmode⟩ := Option.ne_none_iff_exists'.mp h
  simp [Platform.getRadioState, hmode]

/-! ## What each function does to the scan -/

/-- The exposed scan state is `scanning` exactly while a scan is tracked. -/
def Platform.ScanTracked (p : Platform) : Prop := p.state.scan = .scanning ↔ p.scanRunning = true

variable {p q : Platform} (defaults : Defaults) (backoff : Backoff)

theorem tracked_congr (hscan : q.state.scan = p.state.scan)
    (hrunning : q.scanRunning = p.scanRunning) : q.ScanTracked ↔ p.ScanTracked := by
  rw [Platform.ScanTracked, Platform.ScanTracked, hscan, hrunning]

theorem KeepsRest.tracked_iff (h : KeepsRest p q) : q.ScanTracked ↔ p.ScanTracked :=
  tracked_congr h.scan h.scanRunning

theorem tracked_buildStationEvents (h : p.ScanTracked) (r : StationReadings) :
    (p.buildStationEvents r).1.ScanTracked := by
  refine (tracked_congr (by rw [state_buildStationEvents]) ?_).mpr h
  unfold Platform.buildStationEvents
  split
  · rfl
  · cases r.stations <;> rfl

/-- `PollScan` ends both or neither. -/
theorem tracked_pollScan (h : p.ScanTracked) (r : ScanReading) : (p.pollScan r).1.ScanTracked := by
  unfold Platform.pollScan
  split
  · exact h
  · cases r with
    | running => exact h
    | failed => exact iff_of_false (by simp) (by simp)
    | complete entries => exact iff_of_false (by simp) (by simp)

/-- `StartScan` begins both or neither. -/
theorem tracked_startScan (h : p.ScanTracked) (failed : Bool) :
    (p.startScan failed).1.ScanTracked := by
  simp only [Platform.startScan]
  split_ifs with hoff hrunning hfailed
  · exact h
  · exact h
  · exact iff_of_false (by simp) hrunning
  · exact iff_of_true rfl rfl

theorem tracked_poll (h : p.ScanTracked) (r : PollReadings) :
    (pollStep defaults backoff p r).1.ScanTracked := by
  have hreconnect := keepsRest_pollReconnect backoff p r.reconnect
  have hrefresh :=
    keepsRest_refreshState defaults (p.pollReconnect backoff r.reconnect).1 r.refresh
  have hscan := tracked_pollScan ((hreconnect.trans hrefresh).tracked_iff.mpr h) r.scan
  simp only [pollStep, Platform.poll]
  split
  · exact tracked_buildStationEvents hscan r.stations
  · exact hscan

/-! ## Operations that abandon a scan -/

/-- The operation drops the tracked scan and does not turn the radio off. -/
def AbandonsScan (p : Platform) : Op → Prop
  | .apply c n =>
      p.scanRunning = true ∧ validate c = true ∧ ¬(n.mode = true ∧ c.mode.isOff = true)
  | .disable modeOk => p.scanRunning = true ∧ modeOk = false
  | _ => False

/-- Dropping the tracked scan alone leaves the two in agreement only if there
is none. -/
theorem tracked_dropped_iff (h : p.ScanTracked) (hstate : q.state.scan = p.state.scan)
    (hrunning : q.scanRunning = false) : q.ScanTracked ↔ p.scanRunning = false := by
  have hbefore : p.state.scan = .scanning ↔ p.scanRunning = true := h
  rw [Platform.ScanTracked, hstate, hrunning, ← Bool.not_eq_true, ← hbefore]
  simp

theorem tracked_turnOff (hscan : defaults.runtime.scan ≠ .scanning)
    (hrunning : p.scanRunning = false) (mode : WiFiMode) :
    (p.turnOff defaults mode).ScanTracked :=
  iff_of_false hscan (by simp [Platform.turnOff, hrunning])

theorem tracked_apply_iff (hscan : defaults.runtime.scan ≠ .scanning) (h : p.ScanTracked)
    (c : WiFiConfiguration) (n : ApplyNatives) :
    (p.apply defaults c n).1.ScanTracked ↔ ¬AbandonsScan p (.apply c n) := by
  cases hvalid : validate c with
  | false =>
      rw [apply_refused defaults p hvalid n]
      exact iff_of_true h fun habandons => by simp [AbandonsScan, hvalid] at habandons
  | true =>
      have hdropped : ∀ q, KeepsRest (p.retain c) q →
          (q.ScanTracked ↔ p.scanRunning = false) := fun q hq =>
        tracked_dropped_iff h hq.scan hq.scanRunning
      simp only [Platform.apply, hvalid, Bool.true_eq_false, if_false]
      by_cases hmode : n.mode = true
      · by_cases hoff : c.mode.isOff = true
        · rw [if_neg (by simp [hmode]), if_pos hoff]
          exact iff_of_true (tracked_turnOff defaults hscan rfl c.mode)
            (by simp [AbandonsScan, hmode, hoff])
        · rw [if_neg (by simp [hmode]), if_neg hoff]
          have hkeeps := keepsRest_applyInterfaces defaults (p.retain c) c n
          rw [show AbandonsScan p (.apply c n) ↔ p.scanRunning = true by
            simp [AbandonsScan, hvalid, hoff], Bool.not_eq_true]
          exact hdropped _ hkeeps
      · rw [if_pos (by simpa using hmode)]
        rw [show AbandonsScan p (.apply c n) ↔ p.scanRunning = true by
          simp [AbandonsScan, hvalid, hmode], Bool.not_eq_true]
        exact hdropped _ (KeepsRest.refl _)

theorem tracked_disable_iff (hscan : defaults.runtime.scan ≠ .scanning) (h : p.ScanTracked)
    (modeOk : Bool) :
    (p.disable defaults modeOk).1.ScanTracked ↔ ¬AbandonsScan p (.disable modeOk) := by
  cases modeOk with
  | true =>
      exact iff_of_true (tracked_turnOff defaults hscan rfl .off) (by simp [AbandonsScan])
  | false =>
      have hdropped : (p.disable defaults false).1.ScanTracked ↔ p.scanRunning = false :=
        tracked_dropped_iff h rfl rfl
      rw [hdropped]
      simp [AbandonsScan]

/-- **One operation** keeps the agreement unless it abandons a scan. -/
theorem tracked_step_iff (hscan : defaults.runtime.scan ≠ .scanning) (h : p.ScanTracked)
    (op : Op) : (step defaults backoff p op).1.ScanTracked ↔ ¬AbandonsScan p op := by
  cases op with
  | apply c n => exact tracked_apply_iff defaults hscan h c n
  | disable modeOk => exact tracked_disable_iff defaults hscan h modeOk
  | connectClient config now =>
      refine iff_of_true ?_ id
      simp only [step, Platform.connectClient]
      split
      · exact h
      · exact (keepsRest_connectConfigured { p with hasActiveProfile := false } _
          now).tracked_iff.mpr h
  | connectProfile profile config now =>
      refine iff_of_true ?_ id
      simp only [step, Platform.connectProfile]
      split
      · exact h
      · split
        · exact h
        · exact (keepsRest_connectConfigured
            { p with activeProfile := profile, hasActiveProfile := true } _
            now).tracked_iff.mpr h
  | disconnectClient ok =>
      refine iff_of_true ?_ id
      simp only [step, Platform.disconnectClient]
      split <;> exact h
  | startAccessPoint modeOk n =>
      refine iff_of_true ?_ id
      simp only [step, Platform.startAccessPoint]
      split_ifs <;> exact h
  | stopAccessPoint disconnectOk modeOk =>
      refine iff_of_true ?_ id
      simp only [step, Platform.stopAccessPoint]
      split_ifs <;> exact h
  | startScan failed => exact iff_of_true (tracked_startScan h failed) id
  | poll r => exact iff_of_true (tracked_poll defaults backoff h r) id

/-! ## Runs -/

/-- The scan state, the tracked scan and the radio's flag say the same, the
flag whenever the driver's mode can be read. -/
structure Platform.ScanAgrees (initial : RadioState) (p : Platform) : Prop where
  tracked : p.ScanTracked
  radio : ∀ r : RadioReadings, r.mode ≠ none →
    ((p.getRadioState initial r).scanning = true ↔ p.state.scan = .scanning)

theorem scanAgrees_iff_tracked (initial : RadioState) :
    p.ScanAgrees initial ↔ p.ScanTracked := by
  constructor
  · exact Platform.ScanAgrees.tracked
  · intro h
    refine ⟨h, fun r hmode => ?_⟩
    rw [scanning_getRadioState initial p hmode]
    exact h.symm

theorem tracked_fresh (hscan : defaults.runtime.scan ≠ .scanning) :
    (Platform.fresh defaults).ScanTracked :=
  iff_of_false hscan (by simp [Platform.fresh])

/-- **The scan state.**  A platform is constructed in agreement, and a run
stays in it exactly if none of its operations abandons a scan. -/
theorem scanAgrees_iff (hscan : defaults.runtime.scan ≠ .scanning) (initial : RadioState)
    (ops : List Op) :
    let run := trace (step defaults backoff) (Platform.fresh defaults) ops
    (Platform.fresh defaults).ScanAgrees initial ∧
      ((∀ x ∈ run, (step defaults backoff x.1 x.2).1.ScanAgrees initial) ↔
        ∀ x ∈ run, ¬AbandonsScan x.1 x.2) := by
  intro run
  refine ⟨(scanAgrees_iff_tracked initial).mpr (tracked_fresh defaults hscan), ?_⟩
  have hstep : ∀ s op, True → s.ScanTracked →
      ((step defaults backoff s op).1.ScanTracked ↔ ¬AbandonsScan s op) :=
    fun s op _ h => tracked_step_iff defaults backoff hscan h op
  have htracked := trace_forall_iff (fun _ _ => id) hstep trivial (tracked_fresh defaults hscan)
    ops
  rw [← htracked]
  exact forall₂_congr fun x _ => scanAgrees_iff_tracked initial

def sampleRadio : RadioState :=
  ⟨.off, false, false, false, false, 0, List.replicate 6 0, List.replicate 6 0⟩

/-- A scan is started, and the configuration is applied once more. -/
def abandonedOps : List Op :=
  [.apply twoAttempts appliedNatives, .startScan false, .apply twoAttempts appliedNatives]

theorem scanAgrees_abandonedOps :
    let run := trace (step sampleDefaults doubling) (Platform.fresh sampleDefaults) abandonedOps
    (Platform.fresh sampleDefaults).ScanAgrees sampleRadio ∧
      ((∀ x ∈ run, (step sampleDefaults doubling x.1 x.2).1.ScanAgrees sampleRadio) ↔
        ∀ x ∈ run, ¬AbandonsScan x.1 x.2) :=
  scanAgrees_iff sampleDefaults doubling (by decide) sampleRadio abandonedOps

theorem scanning_outlives_scan : ¬ ∀ (defaults : Defaults) (backoff : Backoff)
    (initial : RadioState) (ops : List Op), defaults.runtime.scan ≠ .scanning →
    ∀ x ∈ trace (step defaults backoff) (Platform.fresh defaults) ops,
      (step defaults backoff x.1 x.2).1.ScanAgrees initial := by
  intro h
  have hlast := h sampleDefaults doubling sampleRadio abandonedOps (by decide) _
    (.tail _ (.tail _ (.head _)))
  have htracked := hlast.tracked
  revert htracked
  unfold Platform.ScanTracked
  decide +kernel

end WiFi
