import Espressio.Runs
import Espressio.WiFiPlatform

/-!
# Reconnect attempts

What a client does that was started and never gets connected, while it is
polled and nothing else happens to it.  A poll changes the members reconnects
depend on (`SameControl`) in `pollReconnect` only.

The first attempt is made in the state `connecting`, and its failure leads to
a scheduled reconnect.  The reconnect, too, is an attempt that may fail, but
`beginClient` leaves the client `reconnecting` with no deadline, and that is
the one combination `pollReconnect` does nothing about: `unheard_of_lost`.
So of the attempts the policy allows only one is ever made, and
`persistent_iff` holds of runs without a completed round alone.
-/

namespace WiFi

open Runs

variable {p q : Platform} {policy : ReconnectPolicy}

def Call.isBegin : Call → Bool
  | .begin _ _ => true
  | _ => false

/-- The attempts a list of driver calls starts. -/
def attemptsStarted (calls : List Call) : Nat := calls.countP Call.isBegin

def pollStep (defaults : Defaults) (backoff : Backoff) (p : Platform) (r : PollReadings) :
    Platform × List Call :=
  ((p.poll defaults backoff r).1, (p.poll defaults backoff r).2.2)

/-- A run of polls, with the driver calls they make. -/
def polls (defaults : Defaults) (backoff : Backoff) (p : Platform) (rs : List PollReadings) :
    Platform × List Call :=
  feed (pollStep defaults backoff) p rs

/-- The driver does not report a connection during the poll. -/
def PollReadings.Unconnected (r : PollReadings) : Prop :=
  r.reconnect.status ≠ .connected ∧ r.refresh.status ≠ .connected

/-- The members reconnects depend on are the same. -/
structure SameControl (p q : Platform) : Prop where
  configuration : q.configuration = p.configuration
  ssid : q.activeSSID = p.activeSSID
  manualDisconnect : q.manualDisconnect = p.manualDisconnect
  started : q.clientAttemptStartedMilliseconds = p.clientAttemptStartedMilliseconds
  deadline : q.nextReconnectMilliseconds = p.nextReconnectMilliseconds
  attempts : q.reconnectAttempts = p.reconnectAttempts
  state : q.state.client.state = p.state.client.state

theorem SameControl.refl (p : Platform) : SameControl p p := ⟨rfl, rfl, rfl, rfl, rfl, rfl, rfl⟩

theorem SameControl.trans {r : Platform} (h : SameControl p q) (k : SameControl q r) :
    SameControl p r :=
  ⟨k.configuration.trans h.configuration, k.ssid.trans h.ssid,
    k.manualDisconnect.trans h.manualDisconnect, k.started.trans h.started,
    k.deadline.trans h.deadline, k.attempts.trans h.attempts, k.state.trans h.state⟩

/-- The client may be reconnected: it is configured, has a network to join and
was not disconnected on purpose. -/
structure Ready (policy : ReconnectPolicy) (p : Platform) : Prop where
  usesClient : p.configuration.mode.usesClient = true
  enabled : p.configuration.client.enabled = true
  ssid : p.activeSSID ≠ []
  wanted : p.manualDisconnect = false
  policy : p.configuration.reconnect = policy

theorem Ready.congr (h : Ready policy p) (hq : SameControl p q) : Ready policy q := by
  obtain ⟨hmode, henabled, hssid, hwanted, hpolicy⟩ := h
  exact ⟨by rwa [hq.configuration], by rwa [hq.configuration], by rwa [hq.ssid],
    by rwa [hq.manualDisconnect], by rwa [hq.configuration]⟩

/-! ## One poll -/

theorem refreshState_sameControl (defaults : Defaults) {r : RefreshReadings}
    (hmode : p.configuration.mode.usesClient = true) (hwanted : p.manualDisconnect = false)
    (hr : r.status ≠ .connected) : SameControl p (p.refreshState defaults r) := by
  have hstate : (p.refreshClient defaults r).state = p.state.client.state := by
    simp [Platform.refreshClient, hmode, hr, hwanted]
  dsimp only [Platform.refreshState]
  split
  · exact ⟨rfl, rfl, rfl, rfl, rfl, rfl, hstate⟩
  · exact SameControl.refl p

theorem pollScan_sameControl (r : ScanReading) : SameControl p (p.pollScan r).1 := by
  unfold Platform.pollScan
  split
  · exact SameControl.refl p
  · cases r <;> exact ⟨rfl, rfl, rfl, rfl, rfl, rfl, rfl⟩

theorem attemptsStarted_pollScan (r : ScanReading) : attemptsStarted (p.pollScan r).2.2 = 0 := by
  unfold Platform.pollScan
  split
  · rfl
  · cases r <;> rfl

theorem buildStationEvents_sameControl (r : StationReadings) :
    SameControl p (p.buildStationEvents r).1 := by
  unfold Platform.buildStationEvents
  split
  · exact ⟨rfl, rfl, rfl, rfl, rfl, rfl, rfl⟩
  · cases r.stations <;> exact ⟨rfl, rfl, rfl, rfl, rfl, rfl, rfl⟩

variable (defaults : Defaults) (backoff : Backoff)

/-- All of a poll that matters to reconnects is its `pollReconnect`. -/
theorem pollStep_control {r : PollReadings} (hr : r.Unconnected)
    (hmode : (p.pollReconnect backoff r.reconnect).1.configuration.mode.usesClient = true)
    (hwanted : (p.pollReconnect backoff r.reconnect).1.manualDisconnect = false) :
    SameControl (p.pollReconnect backoff r.reconnect).1 (pollStep defaults backoff p r).1 ∧
      attemptsStarted (pollStep defaults backoff p r).2 =
        attemptsStarted (p.pollReconnect backoff r.reconnect).2 := by
  have hrefresh := refreshState_sameControl defaults hmode hwanted hr.2
  have hscan := hrefresh.trans (pollScan_sameControl r.scan)
  have hcalls := attemptsStarted_pollScan (r := r.scan)
    (p := (p.pollReconnect backoff r.reconnect).1.refreshState defaults r.refresh)
  constructor
  · simp only [pollStep, Platform.poll]
    split
    · exact hscan.trans (buildStationEvents_sameControl r.stations)
    · exact hscan
  · simp only [pollStep, Platform.poll, attemptsStarted, List.countP_append]
    exact Nat.add_eq_left.mpr hcalls

/-! ## The phases of a client that is not connected -/

/-- The first attempt is under way. -/
structure Attempting (policy : ReconnectPolicy) (p : Platform) : Prop where
  ready : Ready policy p
  state : p.state.client.state = .connecting
  none : p.reconnectAttempts = 0

/-- The first attempt has failed and the next one waits for its deadline. -/
structure Scheduled (policy : ReconnectPolicy) (deadline : UInt32) (p : Platform) : Prop where
  ready : Ready policy p
  state : p.state.client.state = .reconnecting
  deadline : p.nextReconnectMilliseconds = deadline

/-- Reconnecting without a deadline. -/
structure Lost (policy : ReconnectPolicy) (p : Platform) : Prop where
  ready : Ready policy p
  state : p.state.client.state = .reconnecting
  deadline : p.nextReconnectMilliseconds = 0

/-- A poll that `pollReconnect` has nothing to do in. -/
theorem pollStep_quiet {r : PollReadings} (h : Ready policy p) (hr : r.Unconnected)
    (hquiet : p.pollReconnect backoff r.reconnect = (p, [])) :
    SameControl p (pollStep defaults backoff p r).1 ∧
      attemptsStarted (pollStep defaults backoff p r).2 = 0 := by
  have hcontrol := pollStep_control defaults backoff (p := p) hr
    (by rw [hquiet]; exact h.usesClient) (by rw [hquiet]; exact h.wanted)
  rw [hquiet] at hcontrol
  exact hcontrol

/-- The guards of `pollReconnect` pass. -/
theorem pollReconnect_ready {r : ReconnectReadings} (h : Ready policy p)
    (hr : r.status ≠ .connected) (hstate : p.state.client.state ≠ .connected) :
    p.pollReconnect backoff r =
      if p.state.client.state = .connecting then
        if p.attemptFailed r then (p.scheduleReconnect backoff r.laterClock, []) else (p, [])
      else if p.state.client.state = .reconnecting ∧ p.nextReconnectMilliseconds ≠ 0 ∧
          timeReached r.clock p.nextReconnectMilliseconds then
        { p with nextReconnectMilliseconds := 0 }.beginClient true r.laterClock
      else (p, []) := by
  have hguard : ¬ (p.configuration.mode.usesClient = false ∨
      p.configuration.client.enabled = false ∨ p.manualDisconnect ∨ p.activeSSID = []) := by
    simp [h.usesClient, h.enabled, h.wanted, h.ssid]
  rw [Platform.pollReconnect, if_neg hguard, if_neg hr, if_neg hstate]

/-- The attempt goes on. -/
theorem Attempting.wait {r : PollReadings} (h : Attempting policy p) (hr : r.Unconnected)
    (hgoing : p.attemptFailed r.reconnect = false) :
    Attempting policy (pollStep defaults backoff p r).1 ∧
      attemptsStarted (pollStep defaults backoff p r).2 = 0 := by
  have hquiet : p.pollReconnect backoff r.reconnect = (p, []) := by
    rw [pollReconnect_ready backoff h.ready hr.1 (by simp [h.state]), if_pos h.state, hgoing]
    simp
  obtain ⟨hsame, hcalls⟩ := pollStep_quiet defaults backoff h.ready hr hquiet
  exact ⟨⟨h.ready.congr hsame, hsame.state.trans h.state, hsame.attempts.trans h.none⟩, hcalls⟩

/-- The attempt has failed: the reconnect is scheduled. -/
theorem Attempting.fail {r : PollReadings} (h : Attempting policy p)
    (henabled : policy.enabled = true) (hN : policy.maximumAttempts ≠ 0) (hr : r.Unconnected)
    (hfailed : p.attemptFailed r.reconnect = true) :
    Scheduled policy (r.reconnect.laterClock + reconnectDelay backoff policy 1)
        (pollStep defaults backoff p r).1 ∧
      attemptsStarted (pollStep defaults backoff p r).2 = 0 := by
  obtain ⟨hmode, hclient, hssid, hwanted, rfl⟩ := h.ready
  have hallowed : ¬ (p.configuration.reconnect.maximumAttempts ≠ 0 ∧
      p.configuration.reconnect.maximumAttempts ≤ p.reconnectAttempts) := by
    intro hparts
    obtain ⟨-, hle⟩ := hparts
    rw [h.none, UInt32.le_iff_toNat_le] at hle
    exact hN (UInt32.toNat_inj.mp (Nat.le_zero.mp hle))
  have hschedule : p.pollReconnect backoff r.reconnect =
      (p.scheduleReconnect backoff r.reconnect.laterClock, []) := by
    rw [pollReconnect_ready backoff h.ready hr.1 (by simp [h.state]), if_pos h.state, hfailed]
    simp
  have hnext : p.scheduleReconnect backoff r.reconnect.laterClock =
      { p.enterClient { p.state.client with
          state := .reconnecting
          reconnectAttempt := 1 } with
        reconnectAttempts := 1
        nextReconnectMilliseconds :=
          r.reconnect.laterClock + reconnectDelay backoff p.configuration.reconnect 1 } := by
    rw [Platform.scheduleReconnect, if_neg (by simp [hwanted, henabled]), if_neg hallowed, h.none]
    rfl
  have hcontrol := pollStep_control defaults backoff (p := p) hr
    (by rw [hschedule, hnext]; exact hmode) (by rw [hschedule, hnext]; exact hwanted)
  rw [hschedule, hnext] at hcontrol
  obtain ⟨hsame, hcalls⟩ := hcontrol
  refine ⟨⟨Ready.congr ?_ hsame, hsame.state, hsame.deadline⟩, hcalls⟩
  exact ⟨hmode, hclient, hssid, hwanted, rfl⟩

/-- The deadline has not been reached. -/
theorem Scheduled.wait {deadline : UInt32} {r : PollReadings}
    (h : Scheduled policy deadline p) (hr : r.Unconnected)
    (hearly : timeReached r.reconnect.clock deadline = false) :
    Scheduled policy deadline (pollStep defaults backoff p r).1 ∧
      attemptsStarted (pollStep defaults backoff p r).2 = 0 := by
  have hquiet : p.pollReconnect backoff r.reconnect = (p, []) := by
    rw [pollReconnect_ready backoff h.ready hr.1 (by simp [h.state]), if_neg (by simp [h.state]),
      if_neg (by simp [h.deadline, hearly])]
  obtain ⟨hsame, hcalls⟩ := pollStep_quiet defaults backoff h.ready hr hquiet
  exact ⟨⟨h.ready.congr hsame, hsame.state.trans h.state, hsame.deadline.trans h.deadline⟩,
    hcalls⟩

/-- The deadline has been reached: if there still is one the reconnect is
attempted, and either way the client is lost. -/
theorem Scheduled.due {deadline : UInt32} {r : PollReadings}
    (h : Scheduled policy deadline p) (hr : r.Unconnected)
    (hdue : timeReached r.reconnect.clock deadline = true) :
    Lost policy (pollStep defaults backoff p r).1 ∧
      attemptsStarted (pollStep defaults backoff p r).2 = if deadline = 0 then 0 else 1 := by
  by_cases hzero : deadline = 0
  · have hquiet : p.pollReconnect backoff r.reconnect = (p, []) := by
      rw [pollReconnect_ready backoff h.ready hr.1 (by simp [h.state]), if_neg (by simp [h.state]),
        if_neg (by simp [h.deadline, hzero])]
    obtain ⟨hsame, hcalls⟩ := pollStep_quiet defaults backoff h.ready hr hquiet
    exact ⟨⟨h.ready.congr hsame, hsame.state.trans h.state,
      hsame.deadline.trans (h.deadline.trans hzero)⟩, by rw [hcalls, if_pos hzero]⟩
  · have hbegin : p.pollReconnect backoff r.reconnect =
        { p with nextReconnectMilliseconds := 0 }.beginClient true r.reconnect.laterClock := by
      rw [pollReconnect_ready backoff h.ready hr.1 (by simp [h.state]), if_neg (by simp [h.state]),
        if_pos ⟨h.state, by rwa [h.deadline], by rwa [h.deadline]⟩]
    have hssid : ({ p with nextReconnectMilliseconds := 0 } : Platform).activeSSID ≠ [] :=
      h.ready.ssid
    rw [Platform.beginClient, if_neg hssid] at hbegin
    have hcontrol := pollStep_control defaults backoff (p := p) hr
      (by rw [hbegin]; exact h.ready.usesClient) (by rw [hbegin]; exact h.ready.wanted)
    rw [hbegin] at hcontrol
    obtain ⟨hsame, hcalls⟩ := hcontrol
    obtain ⟨hmode, hclient, hssid, hwanted, hpolicy⟩ := h.ready
    refine ⟨⟨Ready.congr ?_ hsame, hsame.state, hsame.deadline⟩, ?_⟩
    · exact ⟨hmode, hclient, hssid, hwanted, hpolicy⟩
    · rw [hcalls, if_neg hzero]
      rfl

/-- Whatever a poll reads, a client that is lost stays lost. -/
theorem Lost.stay {r : PollReadings} (h : Lost policy p) (hr : r.Unconnected) :
    Lost policy (pollStep defaults backoff p r).1 ∧
      attemptsStarted (pollStep defaults backoff p r).2 = 0 := by
  have hquiet : p.pollReconnect backoff r.reconnect = (p, []) := by
    rw [pollReconnect_ready backoff h.ready hr.1 (by simp [h.state]), if_neg (by simp [h.state]),
      if_neg (by simp [h.deadline])]
  obtain ⟨hsame, hcalls⟩ := pollStep_quiet defaults backoff h.ready hr hquiet
  exact ⟨⟨h.ready.congr hsame, hsame.state.trans h.state, hsame.deadline.trans h.deadline⟩,
    hcalls⟩

/-! ## Runs of polls -/

/-- Polls that keep a phase and start nothing do so in any number. -/
theorem polls_keep {phase : Platform → Prop} {fits : Platform → PollReadings → Prop}
    (hstep : ∀ p r, phase p → fits p r →
      phase (pollStep defaults backoff p r).1 ∧
        attemptsStarted (pollStep defaults backoff p r).2 = 0)
    (rs : List PollReadings) (h : phase p)
    (hfits : Along (pollStep defaults backoff) fits p rs) :
    phase (polls defaults backoff p rs).1 ∧
      attemptsStarted (polls defaults backoff p rs).2 = 0 := by
  induction rs generalizing p with
  | nil => exact ⟨h, rfl⟩
  | cons r rest ih =>
      obtain ⟨hkeep, hcalls⟩ := hstep p r h hfits.1
      obtain ⟨hphase, hnone⟩ := ih hkeep hfits.2
      refine ⟨hphase, ?_⟩
      simp only [polls] at hnone
      simp only [polls, feed_cons, attemptsStarted, List.countP_append]
      exact Nat.add_eq_zero_iff.mpr ⟨hcalls, hnone⟩

/-- One round: polls while an attempt is under way, the poll that finds it has
failed, polls while the delay lasts, and the poll after it. -/
structure Round where
  waiting : List PollReadings
  failing : PollReadings
  delayed : List PollReadings
  due : PollReadings

def Round.readings (r : Round) : List PollReadings :=
  r.waiting ++ r.failing :: (r.delayed ++ [r.due])

/-- The polls of a round come as its description says.  The delay is that of
the attempt after `attempt` earlier ones, if the policy allows one more. -/
structure Round.Fits (policy : ReconnectPolicy) (p : Platform) (attempt : Nat) (r : Round) :
    Prop where
  unconnected : ∀ reading ∈ r.readings, reading.Unconnected
  waiting : Along (pollStep defaults backoff)
    (fun p reading => p.attemptFailed reading.reconnect = false) p r.waiting
  failing : (polls defaults backoff p r.waiting).1.attemptFailed r.failing.reconnect = true
  delayed : attempt < policy.maximumAttempts.toNat → ∀ reading ∈ r.delayed,
    timeReached reading.reconnect.clock (r.failing.reconnect.laterClock +
      reconnectDelay backoff policy (UInt32.ofNat (attempt + 1))) = false
  due : attempt < policy.maximumAttempts.toNat →
    timeReached r.due.reconnect.clock (r.failing.reconnect.laterClock +
      reconnectDelay backoff policy (UInt32.ofNat (attempt + 1))) = true

/-- Consecutive rounds, after `attempt` earlier ones. -/
def RoundsFit (policy : ReconnectPolicy) : Platform → Nat → List Round → Prop
  | _, _, [] => True
  | p, attempt, r :: rest =>
      r.Fits defaults backoff policy p attempt ∧
        RoundsFit policy (polls defaults backoff p r.readings).1 (attempt + 1) rest

theorem polls_append (p : Platform) (rs ts : List PollReadings) :
    polls defaults backoff p (rs ++ ts) =
      ((polls defaults backoff (polls defaults backoff p rs).1 ts).1,
        (polls defaults backoff p rs).2 ++
          (polls defaults backoff (polls defaults backoff p rs).1 ts).2) :=
  feed_append _ p rs ts

theorem attemptsStarted_append (calls more : List Call) :
    attemptsStarted (calls ++ more) = attemptsStarted calls + attemptsStarted more :=
  List.countP_append

/-- A lost client stays lost over any polls. -/
theorem Lost.polls (h : Lost policy p) {rs : List PollReadings}
    (hrs : ∀ r ∈ rs, r.Unconnected) :
    Lost policy (polls defaults backoff p rs).1 ∧
      attemptsStarted (polls defaults backoff p rs).2 = 0 :=
  polls_keep defaults backoff (fun _ _ hlost hr => hlost.stay defaults backoff hr) rs h
    (Along.of_forall hrs p)

/-- The first round ends with the client lost, and has started at most one
attempt: none if the deadline came out as zero. -/
theorem Attempting.round (h : Attempting policy p) (henabled : policy.enabled = true)
    (hN : policy.maximumAttempts ≠ 0) {r : Round}
    (hr : r.Fits defaults backoff policy p 0) :
    Lost policy (WiFi.polls defaults backoff p r.readings).1 ∧
      attemptsStarted (WiFi.polls defaults backoff p r.readings).2 ≤ 1 := by
  have hpos : 0 < policy.maximumAttempts.toNat := by
    by_contra hzero
    exact hN (UInt32.toNat_inj.mp (Nat.le_zero.mp (Nat.not_lt.mp hzero)))
  have hall := hr.unconnected
  simp only [Round.readings, List.forall_mem_append, List.forall_mem_cons] at hall
  obtain ⟨hwaiting, hfailing, hdelayed, hdue, -⟩ := hall
  obtain ⟨hgoing, hcalls⟩ := polls_keep defaults backoff
    (fun _ _ hgoing hfits => hgoing.wait defaults backoff hfits.1 hfits.2) r.waiting h
    ((Along.of_forall hwaiting p).and hr.waiting)
  obtain ⟨hscheduled, hcalls'⟩ := hgoing.fail defaults backoff henabled hN hfailing hr.failing
  obtain ⟨hdelay, hcalls''⟩ := polls_keep defaults backoff
    (fun _ _ hscheduled hfits => hscheduled.wait defaults backoff hfits.1 hfits.2) r.delayed
    hscheduled ((Along.of_forall hdelayed _).and (Along.of_forall (hr.delayed hpos) _))
  obtain ⟨hlost, hlast⟩ := hdelay.due defaults backoff hdue (hr.due hpos)
  have hone := Nat.le_trans (Nat.le_of_eq hlast) (by split <;> omega : _ ≤ 1)
  rw [Round.readings, polls_append]
  simp only [WiFi.polls, feed_cons, feed_append, feed_nil, List.append_nil] at hlost hone ⊢
  refine ⟨hlost, ?_⟩
  simp only [attemptsStarted_append]
  simp only [WiFi.polls] at hcalls hcalls' hcalls''
  omega

/-- And so does it over any rounds. -/
theorem Lost.rounds {rounds : List Round} {attempt : Nat} (h : Lost policy p)
    (hfit : RoundsFit defaults backoff policy p attempt rounds) :
    Lost policy (WiFi.polls defaults backoff p (rounds.flatMap Round.readings)).1 ∧
      attemptsStarted (WiFi.polls defaults backoff p (rounds.flatMap Round.readings)).2 = 0 := by
  induction rounds generalizing p attempt with
  | nil => exact ⟨h, rfl⟩
  | cons r rest ih =>
      obtain ⟨hr, hrest⟩ := hfit
      obtain ⟨hlost, hnone⟩ := h.polls defaults backoff hr.unconnected
      obtain ⟨hend, hcalls⟩ := ih hlost hrest
      rw [List.flatMap_cons, polls_append]
      refine ⟨hend, ?_⟩
      rw [attemptsStarted_append, hnone, hcalls]

/-- **One attempt at most.**  However many rounds follow one another, the
client ends up lost, and no more than one reconnect has been attempted. -/
theorem Attempting.rounds (h : Attempting policy p) (henabled : policy.enabled = true)
    (hN : policy.maximumAttempts ≠ 0) {r : Round} {rest : List Round}
    (hfit : RoundsFit defaults backoff policy p 0 (r :: rest)) :
    let out := WiFi.polls defaults backoff p ((r :: rest).flatMap Round.readings)
    Lost policy out.1 ∧ attemptsStarted out.2 ≤ 1 := by
  obtain ⟨hlost, hone⟩ := h.round defaults backoff henabled hN hfit.1
  obtain ⟨hend, hnone⟩ := hlost.rounds defaults backoff hfit.2
  simp only [List.flatMap_cons, polls_append, attemptsStarted_append]
  exact ⟨hend, by omega⟩

/-! ## Starting the client -/

/-- The state after an operation that started the client's first attempt. -/
inductive Started : Platform → Prop
  | apply (p : Platform) (c : WiFiConfiguration) (n : ApplyNatives)
      (ok : (p.apply defaults c n).2.1 = .success)
      (begun : attemptsStarted (p.apply defaults c n).2.2 ≠ 0)
      (unconnected : n.refresh.status ≠ .connected) : Started (p.apply defaults c n).1
  | connectClient (p : Platform) (config : Bool) (now : UInt32)
      (ok : (p.connectClient config now).2.1 = .success) :
      Started (p.connectClient config now).1
  | connectProfile (p : Platform) (profile : ClientNetworkProfile) (config : Bool) (now : UInt32)
      (ok : (p.connectProfile profile config now).2.1 = .success) :
      Started (p.connectProfile profile config now).1

/-- `beginClient` starts the first attempt. -/
theorem attempting_beginClient {now : UInt32} (h : Ready policy p)
    (hnone : p.reconnectAttempts = 0) : Attempting policy (p.beginClient false now).1 := by
  obtain ⟨hmode, henabled, hssid, hwanted, hpolicy⟩ := h
  rw [Platform.beginClient, if_neg hssid]
  exact ⟨⟨hmode, henabled, hssid, hwanted, hpolicy⟩, rfl, hnone⟩

theorem attemptsStarted_applyAddress (p : Platform) (c : WiFiConfiguration) (ok : Bool) :
    attemptsStarted (p.applyAddress c ok).2 = 0 := by
  unfold Platform.applyAddress Platform.configureClientAddressLegacy
  split
  · cases p.configuration.client.addressing <;> rfl
  · rfl

theorem attemptsStarted_configureAccessPoint (p : Platform) (n : AccessPointNatives) :
    attemptsStarted (p.configureAccessPoint n).2 = 0 := by
  unfold Platform.configureAccessPoint
  dsimp only
  repeat' split
  all_goals rfl

theorem attemptsStarted_applyAccessPoint (p : Platform) (c : WiFiConfiguration)
    (n : AccessPointNatives) : attemptsStarted (p.applyAccessPoint c n).2 = 0 := by
  unfold Platform.applyAccessPoint
  split
  · exact attemptsStarted_configureAccessPoint p n
  · rfl

theorem attemptsStarted_hostnameCalls (c : WiFiConfiguration) :
    attemptsStarted c.hostnameCalls = 0 := by
  unfold WiFiConfiguration.hostnameCalls
  split <;> rfl

/-- An `Apply` that made an attempt began the client last of all. -/
theorem applyInterfaces_started {c : WiFiConfiguration} {n : ApplyNatives}
    (ok : (p.applyInterfaces defaults c n).2.1 = .success)
    (begun : attemptsStarted (p.applyInterfaces defaults c n).2.2 ≠ 0) :
    c.startsClient = true ∧ (p.applyInterfaces defaults c n).1 =
      (p.beginClient false n.clock).1.refreshState defaults n.refresh := by
  simp only [Platform.applyInterfaces] at ok begun ⊢
  split at ok
  · cases ok
  · rename_i haddressed
    rw [if_neg haddressed] at begun ⊢
    split at ok
    · cases ok
    · rename_i hhosting
      rw [if_neg hhosting] at begun ⊢
      by_cases hstarts : c.startsClient = true
      · simp only [Platform.applyClient, hstarts, if_true, and_self]
      · have hradio : attemptsStarted p.applyRadioSettings = 0 := rfl
        have hbegin : attemptsStarted (p.applyClient c n.clock).2 = 0 := by
          rw [Platform.applyClient, if_neg hstarts]
          rfl
        refine absurd ?_ begun
        simp only [attemptsStarted_append, attemptsStarted_hostnameCalls,
          attemptsStarted_applyAddress, attemptsStarted_applyAccessPoint, hradio, hbegin]

/-- An attempt under way is one under the policy the platform has. -/
theorem Attempting.self (h : Attempting policy p) : Attempting p.configuration.reconnect p := by
  have hpolicy := h.ready.policy
  rwa [hpolicy]

theorem Attempting.refresh {r : RefreshReadings} (h : Attempting policy p)
    (hr : r.status ≠ .connected) : Attempting policy (p.refreshState defaults r) := by
  have hsame := refreshState_sameControl defaults h.ready.usesClient h.ready.wanted hr
  exact ⟨h.ready.congr hsame, hsame.state.trans h.state, hsame.attempts.trans h.none⟩

/-- An `Apply` that made an attempt has left it under way. -/
theorem apply_started {c : WiFiConfiguration} {n : ApplyNatives}
    (ok : (p.apply defaults c n).2.1 = .success)
    (begun : attemptsStarted (p.apply defaults c n).2.2 ≠ 0)
    (hr : n.refresh.status ≠ .connected) :
    Attempting (p.apply defaults c n).1.configuration.reconnect (p.apply defaults c n).1 := by
  simp only [Platform.apply] at ok begun ⊢
  split at ok
  · cases ok
  · rename_i hvalid
    rw [if_neg hvalid] at begun ⊢
    split at ok
    · cases ok
    · rename_i hmode
      rw [if_neg hmode] at begun ⊢
      split at ok
      · rename_i hoff
        rw [if_pos hoff] at begun
        exact absurd rfl begun
      · rename_i hoff
        rw [if_neg hoff] at begun ⊢
        obtain ⟨hstarts, hfinal⟩ := applyInterfaces_started defaults ok begun
        simp only [WiFiConfiguration.startsClient, Bool.and_eq_true, Bool.not_eq_true',
          List.isEmpty_eq_false_iff] at hstarts
        obtain ⟨⟨⟨hclient, henabled⟩, -⟩, hssid⟩ := hstarts
        refine Attempting.self (?_ : Attempting c.reconnect _)
        dsimp only
        rw [hfinal]
        exact Attempting.refresh defaults
          (attempting_beginClient ⟨hclient, henabled, hssid, rfl, rfl⟩ rfl) hr

/-- And so has a `ConnectClient` that succeeded. -/
theorem connectConfigured_started {address : Bool × List Call} {now : UInt32}
    (ok : (p.connectConfigured address now).2.1 = .success)
    (hmode : p.configuration.mode.usesClient = true)
    (henabled : p.configuration.client.enabled = true) (hssid : p.activeSSID ≠ []) :
    Attempting p.configuration.reconnect (p.connectConfigured address now).1 := by
  simp only [Platform.connectConfigured] at ok ⊢
  split at ok
  · cases ok
  · rename_i hconfigured
    rw [if_neg hconfigured]
    exact attempting_beginClient ⟨hmode, henabled, hssid, rfl, rfl⟩ rfl

/-- Whatever operation started the client, its first attempt is under way. -/
theorem Started.attempting (h : Started defaults p) :
    Attempting p.configuration.reconnect p := by
  cases h with
  | apply p c n ok begun unconnected => exact apply_started defaults ok begun unconnected
  | connectClient p config now ok =>
      unfold Platform.connectClient at ok ⊢
      split at ok
      · cases ok
      · rename_i hguard
        rw [if_neg hguard]
        simp only [not_or, Bool.not_eq_false] at hguard
        exact Attempting.self (connectConfigured_started ok hguard.1 hguard.2.1 hguard.2.2)
  | connectProfile p profile config now ok =>
      unfold Platform.connectProfile at ok ⊢
      split at ok
      · cases ok
      · rename_i hguard
        rw [if_neg hguard]
        split at ok
        · cases ok
        · rename_i hvalid
          rw [if_neg hvalid]
          simp only [not_or, Bool.not_eq_false] at hguard
          exact Attempting.self
            (connectConfigured_started ok hguard.1 hguard.2.1 hguard.2.2.2)

/-! ## What a policy promises -/

/-- An attempt is under way: the first, or one that `PollReconnect` began. -/
def InFlight (p : Platform) : Prop :=
  p.state.client.state = .connecting ∨
    (p.state.client.state = .reconnecting ∧ p.nextReconnectMilliseconds = 0)

/-- No poll reacts to what has become of the attempt. -/
def Unheard (p : Platform) : Prop :=
  ∀ rs : List PollReadings, (∀ r ∈ rs, r.Unconnected) →
    (polls defaults backoff p rs).1.state.client.state = p.state.client.state ∧
      attemptsStarted (polls defaults backoff p rs).2 = 0

/-- After `k` rounds under a policy of `N` attempts: as many reconnects have
been attempted, the client has failed once there are none left, and no attempt
goes unheard. -/
structure Persistent (N k : Nat) (p : Platform) (calls : List Call) : Prop where
  attempts : attemptsStarted calls = min k N
  failed : N < k → p.state.client.state = .failed
  heard : ¬ (InFlight p ∧ Unheard defaults backoff p)

theorem Lost.unheard (h : Lost policy p) : InFlight p ∧ Unheard defaults backoff p := by
  refine ⟨Or.inr ⟨h.state, h.deadline⟩, ?_⟩
  intro rs hrs
  obtain ⟨hlost, hnone⟩ := h.polls defaults backoff hrs
  exact ⟨hlost.state.trans h.state.symm, hnone⟩

/-- The failure of a first attempt is heard. -/
theorem Attempting.heard (h : Attempting policy p) (henabled : policy.enabled = true)
    (hN : policy.maximumAttempts ≠ 0) : ¬ Unheard defaults backoff p := by
  intro hunheard
  let reading : PollReadings := {
    reconnect := ⟨.connectFailed, 0, 0⟩
    refresh := ⟨.connectFailed, [], 0, 0, p.state.client.network, ⟨0, 0, 0, 0⟩, 0⟩
    scan := .running
    stations := ⟨⟨0, 0, 0, 0⟩, some []⟩
    wantsEvents := false }
  have hreading : reading.Unconnected := ⟨by simp [reading], by simp [reading]⟩
  obtain ⟨hscheduled, -⟩ := h.fail defaults backoff henabled hN hreading rfl
  have hsame := (hunheard [reading] (by simpa using hreading)).1
  simp only [polls, feed_cons, feed_nil] at hsame
  rw [hscheduled.state, h.state] at hsame
  cases hsame

/-- **Reconnects are not persistent.**  What the policy promises holds of a run
of rounds if and only if no round has been completed. -/
theorem persistent_iff (hstart : Started defaults p)
    (henabled : p.configuration.reconnect.enabled = true)
    (hN : p.configuration.reconnect.maximumAttempts ≠ 0) (rounds : List Round)
    (hfit : RoundsFit defaults backoff p.configuration.reconnect p 0 rounds) :
    Persistent defaults backoff p.configuration.reconnect.maximumAttempts.toNat rounds.length
        (polls defaults backoff p (rounds.flatMap Round.readings)).1
        (polls defaults backoff p (rounds.flatMap Round.readings)).2 ↔
      rounds = [] := by
  have h := hstart.attempting
  cases rounds with
  | nil =>
      refine ⟨fun _ => rfl, fun _ => ⟨by simp [polls, attemptsStarted], by simp, ?_⟩⟩
      exact fun hlost => h.heard defaults backoff henabled hN hlost.2
  | cons r rest =>
      refine ⟨fun hpersistent => ?_, fun hnil => by cases hnil⟩
      obtain ⟨hlost, -⟩ := h.rounds defaults backoff henabled hN hfit
      exact (hpersistent.heard (hlost.unheard defaults backoff)).elim

/-! ## A network that does not answer -/

def noAddress : NetworkAddress :=
  ⟨⟨0, 0, 0, 0⟩, ⟨0, 0, 0, 0⟩, ⟨0, 0, 0, 0⟩, ⟨0, 0, 0, 0⟩, ⟨0, 0, 0, 0⟩⟩

/-- A client of the network "n" that may be reconnected twice. -/
def twoAttempts : WiFiConfiguration where
  mode := .client
  client := ⟨true, [110], [], .dhcp, noAddress⟩
  accessPoint := ⟨false, [], [], 1, false, 4, noAddress, false⟩
  reconnect := ⟨true, 2, 1000, 8000, 2, 10000⟩
  txPowerDbm := 20
  powerSave := false
  hostname := []
  networks := []
  automaticSelection := false

def sampleDefaults : Defaults where
  runtime := ⟨.off, ⟨.disconnected, [], 0, 0, noAddress, 0⟩, ⟨.disabled, [], 0, noAddress, 0⟩,
    .other 0, 0⟩
  configuration := twoAttempts.toPlatformConfiguration
  profile := ⟨true, [], [], .dhcp, noAddress⟩
  network := noAddress

/-- The delay doubles, up to the maximum. -/
def doubling : Backoff := fun policy attempt =>
  min policy.maximumDelayMilliseconds (policy.initialDelayMilliseconds * 2 ^ (attempt.toNat - 1))

def unansweredRefresh : RefreshReadings := ⟨.connectFailed, [], 0, 0, noAddress, ⟨0, 0, 0, 0⟩, 0⟩

def appliedNatives : ApplyNatives :=
  ⟨true, true, ⟨true, true, true, [], true⟩, 0, unansweredRefresh⟩

def startedClient : Platform :=
  ((Platform.fresh sampleDefaults).apply sampleDefaults twoAttempts appliedNatives).1

theorem startedClient_started : Started sampleDefaults startedClient :=
  .apply _ _ _ (by decide +kernel) (by decide +kernel) (by decide)

/-- A poll at one reading of the clock. -/
def unanswered (clock : UInt32) : PollReadings :=
  ⟨⟨.connectFailed, clock, clock⟩, unansweredRefresh, .running, ⟨⟨0, 0, 0, 0⟩, some []⟩, false⟩

/-- The attempts fail after 20 ms each and their delays are let pass. -/
def unansweredRounds : List Round :=
  [⟨[], unanswered 20, [unanswered 900], unanswered 1020⟩,
    ⟨[], unanswered 1040, [], unanswered 3040⟩]

theorem started_client_persistent :
    Persistent sampleDefaults doubling 2 0 startedClient [] :=
  (persistent_iff sampleDefaults doubling startedClient_started (by decide +kernel)
    (by decide +kernel) [] trivial).mpr rfl

/-- After two rounds only one of the two attempts has been made. -/
theorem second_attempt_never_made : ¬ ∀ (defaults : Defaults) (backoff : Backoff) (p : Platform),
    Started defaults p → p.configuration.reconnect.enabled = true →
    p.configuration.reconnect.maximumAttempts ≠ 0 → ∀ rounds : List Round,
    RoundsFit defaults backoff p.configuration.reconnect p 0 rounds →
    Persistent defaults backoff p.configuration.reconnect.maximumAttempts.toNat rounds.length
      (polls defaults backoff p (rounds.flatMap Round.readings)).1
      (polls defaults backoff p (rounds.flatMap Round.readings)).2 := by
  intro h
  have hunconnected : ∀ clock, (unanswered clock).Unconnected := by
    intro clock
    exact ⟨by simp [unanswered], by simp [unanswered, unansweredRefresh]⟩
  have hpersistent := h sampleDefaults doubling startedClient startedClient_started
    (by decide +kernel) (by decide +kernel) unansweredRounds
    ⟨⟨by simp [Round.readings, hunconnected], trivial, by decide +kernel, by decide +kernel,
        by decide +kernel⟩,
      ⟨by simp [Round.readings, hunconnected], trivial, by decide +kernel, by decide +kernel,
        by decide +kernel⟩, trivial⟩
  have hattempts := hpersistent.attempts
  revert hattempts
  decide +kernel

end WiFi
