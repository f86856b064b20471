import Espressio.WiFiReconnect

/-!
# Runs of all operations

The Wi-Fi platform under any sequence of its operations, with what each of them
does to the members that the client depends on: the configuration, the network
that is active, the deadline and the number of attempts.  What is left after
`Keeps` is the exposed state, the scan and the stations.  The functions of the
client leave the last two alone: `KeepsRest`.

An attempt of `pollReconnect` needs all of `ReconnectPending`.
-/

namespace WiFi

open Runs

/-- The operations of the platform, with the driver's answers. -/
inductive Op
  | apply (configuration : WiFiConfiguration) (natives : ApplyNatives)
  | disable (modeOk : Bool)
  | connectClient (config : Bool) (now : UInt32)
  | connectProfile (profile : ClientNetworkProfile) (config : Bool) (now : UInt32)
  | disconnectClient (ok : Bool)
  | startAccessPoint (modeOk : Bool) (natives : AccessPointNatives)
  | stopAccessPoint (disconnectOk modeOk : Bool)
  | startScan (failed : Bool)
  | poll (readings : PollReadings)

def step (defaults : Defaults) (backoff : Backoff) (p : Platform) : Op → Platform × List Call
  | .apply configuration natives =>
      let done := p.apply defaults configuration natives
      (done.1, done.2.2)
  | .disable modeOk =>
      let done := p.disable defaults modeOk
      (done.1, done.2.2)
  | .connectClient config now =>
      let done := p.connectClient config now
      (done.1, done.2.2)
  | .connectProfile profile config now =>
      let done := p.connectProfile profile config now
      (done.1, done.2.2)
  | .disconnectClient ok =>
      let done := p.disconnectClient ok
      (done.1, done.2.2)
  | .startAccessPoint modeOk natives =>
      let done := p.startAccessPoint modeOk natives
      (done.1, done.2.2)
  | .stopAccessPoint disconnectOk modeOk =>
      let done := p.stopAccessPoint defaults disconnectOk modeOk
      (done.1, done.2.2)
  | .startScan failed =>
      let done := p.startScan failed
      (done.1, done.2.2)
  | .poll readings => pollStep defaults backoff p readings

/-- The members the client depends on are the same, up to its exposed state. -/
structure Keeps (p q : Platform) : Prop where
  configuration : q.configuration = p.configuration
  activeProfile : q.activeProfile = p.activeProfile
  hasActiveProfile : q.hasActiveProfile = p.hasActiveProfile
  manualDisconnect : q.manualDisconnect = p.manualDisconnect
  deadline : q.nextReconnectMilliseconds = p.nextReconnectMilliseconds
  attempts : q.reconnectAttempts = p.reconnectAttempts

/-- A reconnect waits for its deadline. -/
structure Platform.ReconnectPending (p : Platform) : Prop where
  usesClient : p.configuration.mode.usesClient = true
  state : p.state.client.state = .reconnecting
  deadline : p.nextReconnectMilliseconds ≠ 0

variable {p q : Platform} (defaults : Defaults) (backoff : Backoff)

theorem Keeps.refl (p : Platform) : Keeps p p := ⟨rfl, rfl, rfl, rfl, rfl, rfl⟩

theorem Keeps.trans {r : Platform} (h : Keeps p q) (k : Keeps q r) : Keeps p r :=
  ⟨k.configuration.trans h.configuration, k.activeProfile.trans h.activeProfile,
    k.hasActiveProfile.trans h.hasActiveProfile, k.manualDisconnect.trans h.manualDisconnect,
    k.deadline.trans h.deadline, k.attempts.trans h.attempts⟩

theorem Keeps.pending (h : Keeps p q) (hstate : q.state.client.state = p.state.client.state)
    (hq : q.ReconnectPending) : p.ReconnectPending where
  usesClient := h.configuration ▸ hq.usesClient
  state := hstate ▸ hq.state
  deadline := h.deadline ▸ hq.deadline

/-! ## The parts of a poll -/

theorem keeps_refreshState (p : Platform) (r : RefreshReadings) :
    Keeps p (p.refreshState defaults r) := by
  dsimp only [Platform.refreshState]
  split
  · exact ⟨rfl, rfl, rfl, rfl, rfl, rfl⟩
  · exact Keeps.refl p

/-- A refresh schedules nothing. -/
theorem pending_of_refreshState {r : RefreshReadings}
    (h : (p.refreshState defaults r).ReconnectPending) : p.ReconnectPending := by
  have hkeeps := keeps_refreshState defaults p r
  have hmode : p.configuration.mode.usesClient = true := hkeeps.configuration ▸ h.usesClient
  refine ⟨hmode, ?_, hkeeps.deadline ▸ h.deadline⟩
  have hstate := h.state
  dsimp only [Platform.refreshState] at hstate
  split at hstate
  · simp only [Platform.refreshClient, hmode, if_true] at hstate
    split_ifs at hstate
    exact hstate
  · exact hstate

theorem keeps_pollScan (p : Platform) (r : ScanReading) : Keeps p (p.pollScan r).1 := by
  unfold Platform.pollScan
  split
  · exact Keeps.refl p
  · cases r <;> exact ⟨rfl, rfl, rfl, rfl, rfl, rfl⟩

theorem keeps_buildStationEvents (p : Platform) (r : StationReadings) :
    Keeps p (p.buildStationEvents r).1 := by
  unfold Platform.buildStationEvents
  split
  · exact ⟨rfl, rfl, rfl, rfl, rfl, rfl⟩
  · cases r.stations <;> exact ⟨rfl, rfl, rfl, rfl, rfl, rfl⟩

/-- **A poll** is its `pollReconnect`, and the rest schedules and begins
nothing. -/
theorem pollStep_spec (p : Platform) (r : PollReadings) :
    Keeps (p.pollReconnect backoff r.reconnect).1 (pollStep defaults backoff p r).1 ∧
      ((pollStep defaults backoff p r).1.ReconnectPending →
        (p.pollReconnect backoff r.reconnect).1.ReconnectPending) ∧
      attemptsStarted (pollStep defaults backoff p r).2 =
        attemptsStarted (p.pollReconnect backoff r.reconnect).2 := by
  have hrefresh := keeps_refreshState defaults (p.pollReconnect backoff r.reconnect).1 r.refresh
  have hscan := keeps_pollScan
    ((p.pollReconnect backoff r.reconnect).1.refreshState defaults r.refresh) r.scan
  have hscanState := (pollScan_sameControl (r := r.scan)
    (p := (p.pollReconnect backoff r.reconnect).1.refreshState defaults r.refresh)).state
  have hcalls := attemptsStarted_pollScan (r := r.scan)
    (p := (p.pollReconnect backoff r.reconnect).1.refreshState defaults r.refresh)
  refine ⟨?_, ?_, ?_⟩
  · simp only [pollStep, Platform.poll]
    split
    · exact (hrefresh.trans hscan).trans (keeps_buildStationEvents _ r.stations)
    · exact hrefresh.trans hscan
  · intro hpending
    simp only [pollStep, Platform.poll] at hpending
    apply pending_of_refreshState defaults
    apply hscan.pending hscanState
    split at hpending
    · exact (keeps_buildStationEvents _ r.stations).pending
        (buildStationEvents_sameControl r.stations).state hpending
    · exact hpending
  · simp only [pollStep, Platform.poll, attemptsStarted, List.countP_append]
    exact Nat.add_eq_left.mpr hcalls

/-- `PollReconnect` reads that the client is connected. -/
structure Platform.Observes (p : Platform) (r : ReconnectReadings) : Prop where
  usesClient : p.configuration.mode.usesClient = true
  enabled : p.configuration.client.enabled = true
  wanted : p.manualDisconnect = false
  ssid : p.activeSSID ≠ []
  connected : r.status = .connected

/-- `PollReconnect` finds the deadline of a reconnect reached. -/
structure Platform.Due (p : Platform) (r : ReconnectReadings) : Prop where
  pending : p.ReconnectPending
  enabled : p.configuration.client.enabled = true
  wanted : p.manualDisconnect = false
  ssid : p.activeSSID ≠ []
  unconnected : r.status ≠ .connected
  reached : timeReached r.clock p.nextReconnectMilliseconds = true

/-- What `PollReconnect` may do. -/
inductive ReconnectOutcome (p : Platform) (r : ReconnectReadings) : Platform × List Call → Prop
  | idle : ReconnectOutcome p r (p, [])
  | observed (h : p.Observes r) :
      ReconnectOutcome p r
        ({ p with reconnectAttempts := 0, nextReconnectMilliseconds := 0 }, [])
  | scheduled (now : UInt32) : ReconnectOutcome p r (p.scheduleReconnect backoff now, [])
  | attempted (due : p.Due r) :
      ReconnectOutcome p r
        ({ p with nextReconnectMilliseconds := 0 }.beginClient true r.laterClock)

theorem pollReconnect_outcome (p : Platform) (r : ReconnectReadings) :
    ReconnectOutcome backoff p r (p.pollReconnect backoff r) := by
  unfold Platform.pollReconnect
  split
  · exact .idle
  · rename_i hguard
    simp only [not_or, Bool.not_eq_false, Bool.not_eq_true] at hguard
    obtain ⟨hmode, henabled, hwanted, hssid⟩ := hguard
    split
    · rename_i hconnected
      exact .observed ⟨hmode, henabled, hwanted, hssid, hconnected⟩
    · rename_i hunconnected
      split
      · exact .scheduled r.clock
      · split
        · split
          · exact .scheduled r.laterClock
          · exact .idle
        · split
          · rename_i hdue
            obtain ⟨hstate, hdeadline, hreached⟩ := hdue
            exact .attempted
              ⟨⟨hmode, hstate, hdeadline⟩, henabled, hwanted, hssid, hunconnected, hreached⟩
          · exact .idle

theorem keeps_beginClient (p : Platform) (reconnect : Bool) (now : UInt32) :
    Keeps p (p.beginClient reconnect now).1 := by
  unfold Platform.beginClient
  split <;> exact ⟨rfl, rfl, rfl, rfl, rfl, rfl⟩

/-- `PollReconnect` leaves a deadline only by a schedule, and everything but
the deadline and the number of attempts alone. -/
theorem pollReconnect_frame (p : Platform) (r : ReconnectReadings) :
    Keeps { p with
        nextReconnectMilliseconds := (p.pollReconnect backoff r).1.nextReconnectMilliseconds
        reconnectAttempts := (p.pollReconnect backoff r).1.reconnectAttempts }
      (p.pollReconnect backoff r).1 ∧
    ((p.pollReconnect backoff r).1.nextReconnectMilliseconds = 0 ∨
      (p.pollReconnect backoff r).1.nextReconnectMilliseconds = p.nextReconnectMilliseconds ∨
      p.configuration.reconnect.enabled = true) := by
  have houtcome := pollReconnect_outcome backoff p r
  generalize p.pollReconnect backoff r = out at houtcome ⊢
  cases houtcome with
  | idle => exact ⟨Keeps.refl p, Or.inr (Or.inl rfl)⟩
  | observed h => exact ⟨⟨rfl, rfl, rfl, rfl, rfl, rfl⟩, Or.inl rfl⟩
  | scheduled now =>
      unfold Platform.scheduleReconnect
      split
      · exact ⟨⟨rfl, rfl, rfl, rfl, rfl, rfl⟩, Or.inr (Or.inl rfl)⟩
      · rename_i hallowed
        simp only [not_or, Bool.not_eq_false] at hallowed
        split
        · exact ⟨⟨rfl, rfl, rfl, rfl, rfl, rfl⟩, Or.inr (Or.inl rfl)⟩
        · exact ⟨⟨rfl, rfl, rfl, rfl, rfl, rfl⟩, Or.inr (Or.inr hallowed.2)⟩
  | attempted due =>
      have hkeeps := keeps_beginClient { p with nextReconnectMilliseconds := 0 } true r.laterClock
      refine ⟨⟨hkeeps.configuration, hkeeps.activeProfile, hkeeps.hasActiveProfile,
        hkeeps.manualDisconnect, rfl, rfl⟩, Or.inl hkeeps.deadline⟩

/-! ## The other operations -/

/-- A connect that was asked for is not a reconnect. -/
theorem not_pending_beginClient (p : Platform) (now : UInt32) :
    ¬(p.beginClient false now).1.ReconnectPending := by
  intro h
  have hstate := h.state
  unfold Platform.beginClient at hstate
  split at hstate <;> cases hstate

/-- The members once `Apply` has accepted a configuration. -/
def Platform.retain (p : Platform) (c : WiFiConfiguration) : Platform :=
  { p with
    configuration := c.toPlatformConfiguration
    manualDisconnect := false
    reconnectAttempts := 0
    nextReconnectMilliseconds := 0
    hasActiveProfile := false
    scanRunning := false }

theorem keeps_applyInterfaces (p : Platform) (c : WiFiConfiguration) (n : ApplyNatives) :
    Keeps p (p.applyInterfaces defaults c n).1 := by
  have hclient : Keeps p (p.applyClient c n.clock).1 := by
    unfold Platform.applyClient
    split
    · exact keeps_beginClient p false n.clock
    · exact Keeps.refl p
  simp only [Platform.applyInterfaces]
  split
  · exact Keeps.refl p
  · split
    · exact Keeps.refl p
    · exact hclient.trans (keeps_refreshState defaults _ n.refresh)

theorem keeps_apply (p : Platform) {c : WiFiConfiguration} (h : validate c = true)
    (n : ApplyNatives) : Keeps (p.retain c) (p.apply defaults c n).1 := by
  simp only [Platform.apply, h, Bool.true_eq_false, if_false]
  split
  · exact Keeps.refl _
  · split
    · exact ⟨rfl, rfl, rfl, rfl, rfl, rfl⟩
    · exact keeps_applyInterfaces defaults (p.retain c) c n

/-- A refused configuration changes nothing. -/
theorem apply_refused (p : Platform) {c : WiFiConfiguration} (h : validate c = false)
    (n : ApplyNatives) : p.apply defaults c n = (p, .invalidConfiguration, []) := by
  rw [Platform.apply, if_pos h]

/-- The end of a `ConnectClient`: nothing, or a connect that was asked for. -/
theorem connectConfigured_cases (p : Platform) (address : Bool × List Call) (now : UInt32) :
    (address.1 = false ∧ (p.connectConfigured address now).1 = p) ∨
      (address.1 = true ∧ (p.connectConfigured address now).1 =
        (Platform.beginClient { p with manualDisconnect := false, reconnectAttempts := 0 }
          false now).1) := by
  obtain ⟨configured, calls⟩ := address
  cases configured with
  | false => exact Or.inl ⟨rfl, rfl⟩
  | true => exact Or.inr ⟨rfl, rfl⟩

theorem keeps_startAccessPoint (p : Platform) (modeOk : Bool) (n : AccessPointNatives) :
    Keeps p (p.startAccessPoint modeOk n).1 ∧
      (p.startAccessPoint modeOk n).1.state.client = p.state.client := by
  simp only [Platform.startAccessPoint]
  split_ifs <;> exact ⟨⟨rfl, rfl, rfl, rfl, rfl, rfl⟩, rfl⟩

theorem keeps_stopAccessPoint (p : Platform) (disconnectOk modeOk : Bool) :
    Keeps p (p.stopAccessPoint defaults disconnectOk modeOk).1 ∧
      (p.stopAccessPoint defaults disconnectOk modeOk).1.state.client = p.state.client := by
  simp only [Platform.stopAccessPoint]
  split_ifs <;> exact ⟨⟨rfl, rfl, rfl, rfl, rfl, rfl⟩, rfl⟩

theorem keeps_startScan (p : Platform) (failed : Bool) :
    Keeps p (p.startScan failed).1 ∧ (p.startScan failed).1.state.client = p.state.client := by
  simp only [Platform.startScan]
  split_ifs <;> exact ⟨⟨rfl, rfl, rfl, rfl, rfl, rfl⟩, rfl⟩

/-! ## What the client's functions leave alone -/

/-- The scan and the known stations are the same. -/
structure KeepsRest (p q : Platform) : Prop where
  scan : q.state.scan = p.state.scan
  scanRunning : q.scanRunning = p.scanRunning
  knownStations : q.knownStations = p.knownStations

theorem KeepsRest.refl (p : Platform) : KeepsRest p p := ⟨rfl, rfl, rfl⟩

theorem KeepsRest.trans {r : Platform} (h : KeepsRest p q) (k : KeepsRest q r) : KeepsRest p r :=
  ⟨k.scan.trans h.scan, k.scanRunning.trans h.scanRunning, k.knownStations.trans h.knownStations⟩

theorem keepsRest_beginClient (p : Platform) (reconnect : Bool) (now : UInt32) :
    KeepsRest p (p.beginClient reconnect now).1 := by
  unfold Platform.beginClient
  split <;> exact ⟨rfl, rfl, rfl⟩

theorem keepsRest_pollReconnect (p : Platform) (r : ReconnectReadings) :
    KeepsRest p (p.pollReconnect backoff r).1 := by
  have houtcome := pollReconnect_outcome backoff p r
  generalize p.pollReconnect backoff r = out at houtcome ⊢
  cases houtcome with
  | idle => exact KeepsRest.refl p
  | observed h => exact ⟨rfl, rfl, rfl⟩
  | scheduled now =>
      unfold Platform.scheduleReconnect
      split
      · exact ⟨rfl, rfl, rfl⟩
      · split <;> exact ⟨rfl, rfl, rfl⟩
  | attempted due =>
      have hbegin := keepsRest_beginClient { p with nextReconnectMilliseconds := 0 } true
        r.laterClock
      exact ⟨hbegin.scan, hbegin.scanRunning, hbegin.knownStations⟩

theorem keepsRest_refreshState (p : Platform) (r : RefreshReadings) :
    KeepsRest p (p.refreshState defaults r) := by
  dsimp only [Platform.refreshState]
  split
  · exact ⟨rfl, rfl, rfl⟩
  · exact KeepsRest.refl p

theorem keepsRest_applyInterfaces (p : Platform) (c : WiFiConfiguration) (n : ApplyNatives) :
    KeepsRest p (p.applyInterfaces defaults c n).1 := by
  have hclient : KeepsRest p (p.applyClient c n.clock).1 := by
    unfold Platform.applyClient
    split
    · exact keepsRest_beginClient p false n.clock
    · exact KeepsRest.refl p
  simp only [Platform.applyInterfaces]
  split
  · exact KeepsRest.refl p
  · split
    · exact KeepsRest.refl p
    · exact hclient.trans (keepsRest_refreshState defaults _ n.refresh)

theorem keepsRest_connectConfigured (p : Platform) (address : Bool × List Call) (now : UInt32) :
    KeepsRest p (p.connectConfigured address now).1 := by
  rcases connectConfigured_cases p address now with ⟨-, heq⟩ | ⟨-, heq⟩
  · rw [heq]
    exact KeepsRest.refl p
  · rw [heq]
    have hbegin := keepsRest_beginClient
      { p with manualDisconnect := false, reconnectAttempts := 0 } false now
    exact ⟨hbegin.scan, hbegin.scanRunning, hbegin.knownStations⟩

end WiFi
