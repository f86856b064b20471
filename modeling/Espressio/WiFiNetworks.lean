import Espressio.WiFiReconnectBudget

/-!
# Networks and their addresses

A network is joined with its own addressing.  The platform keeps the two
together by doing `WiFi.config` before it begins; but what it begins with is
the network that is active at the moment, and that changes before
`WiFi.config` is called, also where the call fails or is left out.

`Addressed` adds to the platform the last `WiFi.config` that the driver took, with
its argument and the network it was for, and whether the operation that chose the
active network got that far (`settled`).  Only an automatic reconnect can come while
it did not.
-/

namespace WiFi

open NetworkBytes Runs

structure Network where
  ssid : Bytes
  addressing : AddressMode
  staticNetwork : NetworkAddress
  deriving DecidableEq, Repr

def ClientConfiguration.network (c : ClientConfiguration) : Network :=
  ⟨c.ssid, c.addressing, c.staticNetwork⟩

def ClientNetworkProfile.network (p : ClientNetworkProfile) : Network :=
  ⟨p.ssid, p.addressing, p.staticNetwork⟩

/-- The network the client joins: the active profile or the configured one. -/
def Platform.activeNetwork (p : Platform) : Network :=
  if p.hasActiveProfile then p.activeProfile.network else p.configuration.client.network

/-- The network an operation makes the active one, if it passes its checks. -/
def chooses (p : Platform) : Op → Option Network
  | .apply c _ => if validate c then some c.client.network else none
  | .connectClient _ _ =>
      if p.configuration.mode.usesClient = false ∨ p.configuration.client.enabled = false ∨
          p.configuration.client.ssid = [] then none
      else some p.configuration.client.network
  | .connectProfile profile _ _ =>
      if p.configuration.mode.usesClient = false ∨ p.configuration.client.enabled = false ∨
          profile.enabled = false ∨ profile.ssid = [] then none
      else if validateProfile profile then some profile.network
      else none
  | _ => none

/-- What `WiFi.config` is given for a network; `none` asks for DHCP. -/
def Network.address (n : Network) : Option NetworkAddress :=
  match n.addressing with
  | .dhcp => none
  | .staticAddress => some n.staticNetwork

/-- A `WiFi.config` that succeeded: its argument, and the network that the
operation which made it had chosen. -/
structure Applied where
  network : Option Network
  address : Option NetworkAddress
  deriving DecidableEq, Repr

/-- What a network has when its own addressing was applied. -/
def Network.applied (n : Network) : Applied := ⟨some n, n.address⟩

/-- A `WiFi.begin`: its SSID, and the last `WiFi.config` that succeeded before. -/
structure Begun where
  ssid : Bytes
  applied : Option Applied
  deriving DecidableEq, Repr

/-- One call of an operation, in their order. -/
def track (chosen : Option Network) (applied : Option Applied) :
    Call → Option Applied × List Begun
  | .config address true => (some ⟨chosen, address⟩, [])
  | .begin ssid _ => (applied, [⟨ssid, applied⟩])
  | _ => (applied, [])

/-- A `WiFi.config` that succeeds with the addressing of a network. -/
def Call.applies (network : Network) : Call → Bool
  | .config address ok => ok && address == network.address
  | _ => false

/-- The platform, the last `WiFi.config` that succeeded, and whether the last
operation to choose a network got its addressing applied. -/
structure Addressed where
  platform : Platform
  applied : Option Applied
  settled : Bool

variable (defaults : Defaults) (backoff : Backoff)

def Addressed.fresh : Addressed := ⟨Platform.fresh defaults, none, false⟩

/-- One operation, with the `WiFi.begin`s it makes. -/
def Addressed.step (s : Addressed) (op : Op) : Addressed × List Begun :=
  let (platform, calls) := WiFi.step defaults backoff s.platform op
  let chosen := chooses s.platform op
  let (applied, begun) := feed (track chosen) s.applied calls
  let settled := match chosen with
    | none => s.settled
    | some network => calls.any (Call.applies network)
  (⟨platform, applied, settled⟩, begun)

/-- Whenever the client begins, it joins the active network, and the last
addressing applied was that network's. -/
def BeginsAddressed (s : Addressed) (op : Op) : Prop :=
  ∀ begun ∈ (s.step defaults backoff op).2,
    ∃ network, begun.applied = some network.applied ∧
      network = (s.step defaults backoff op).1.platform.activeNetwork ∧
      begun.ssid = cString network.ssid

/-- A reconnect is due while the active network has not got its addressing. -/
def ReconnectsUnsettled (s : Addressed) : Op → Prop
  | .poll readings => s.settled = false ∧ s.platform.Due readings.reconnect
  | _ => False

variable {defaults backoff} {p q : Platform} {s : Addressed} {ssid : Bytes}
  {password : Option Bytes}

theorem Platform.activeNetwork_ssid (p : Platform) : p.activeNetwork.ssid = p.activeSSID := by
  unfold Platform.activeNetwork Platform.activeSSID
  split <;> rfl

theorem Keeps.activeNetwork (h : Keeps p q) : q.activeNetwork = p.activeNetwork := by
  rw [Platform.activeNetwork, Platform.activeNetwork, h.hasActiveProfile, h.activeProfile,
    h.configuration]

/-! ## The calls that concern a network -/

/-- The calls that configure an address or begin. -/
def Call.isClient : Call → Bool
  | .config _ _ | .begin _ _ => true
  | _ => false

def clientCalls (calls : List Call) : List Call := calls.filter Call.isClient

@[simp] theorem clientCalls_append (calls more : List Call) :
    clientCalls (calls ++ more) = clientCalls calls ++ clientCalls more := List.filter_append ..

/-- The others leave the addressing alone and begin nothing. -/
theorem feed_track_clientCalls (chosen : Option Network) (applied : Option Applied)
    (calls : List Call) :
    feed (track chosen) applied (clientCalls calls) = feed (track chosen) applied calls := by
  induction calls generalizing applied with
  | nil => rfl
  | cons call rest ih =>
      cases call with
      | config address ok | begin ssid password =>
          change feed (track chosen) applied (_ :: clientCalls rest) = _
          rw [feed_cons, ih, feed_cons]
      | _ => exact ih applied

theorem any_applies_clientCalls (network : Network) (calls : List Call) :
    (clientCalls calls).any (Call.applies network) = calls.any (Call.applies network) := by
  induction calls with
  | nil => rfl
  | cons call rest ih =>
      cases call with
      | config address ok | begin ssid password => exact congrArg _ ih
      | _ => exact ih

/-- The client calls of an operation on a network: nothing, a `WiFi.config` with its
addressing that fails, or one that succeeds with no or one `WiFi.begin` behind it. -/
inductive Joins (network : Network) : List Call → Prop
  | none : Joins network []
  | refused : Joins network [.config network.address false]
  | configured : Joins network [.config network.address true]
  | begun (password : Option Bytes) :
      Joins network [.config network.address true, .begin (cString network.ssid) password]

theorem clientCalls_beginClient (p : Platform) (reconnect : Bool) (now : UInt32) :
    clientCalls (p.beginClient reconnect now).2 = [] ∨
      ∃ password, clientCalls (p.beginClient reconnect now).2 =
        [.begin (cString p.activeNetwork.ssid) password] := by
  unfold Platform.beginClient
  rw [Platform.activeNetwork_ssid]
  split
  · exact Or.inl rfl
  · exact Or.inr ⟨_, rfl⟩

/-- The address of a network is configured, and then the client may begin. -/
theorem Joins.of_configured (network : Network) (ok : Bool) (calls : List Call)
    (hcalls : clientCalls calls = [] ∨
      ok = true ∧ ∃ password, clientCalls calls = [.begin (cString network.ssid) password]) :
    Joins network (clientCalls
      ((configureClientAddress network.addressing network.staticNetwork ok).2 ++ calls)) := by
  have haddress : (configureClientAddress network.addressing network.staticNetwork ok).2 =
      [.config network.address ok] := by
    unfold configureClientAddress Network.address
    cases network.addressing <;> rfl
  rw [clientCalls_append, haddress]
  rcases hcalls with hnone | ⟨rfl, password, hbegun⟩
  · rw [hnone]
    cases ok with
    | false => exact .refused
    | true => exact .configured
  · rw [hbegun]
    exact .begun password

theorem clientCalls_hostnameCalls (c : WiFiConfiguration) : clientCalls c.hostnameCalls = [] := by
  unfold WiFiConfiguration.hostnameCalls
  split <;> rfl

theorem clientCalls_configureAccessPoint (p : Platform) (n : AccessPointNatives) :
    clientCalls (p.configureAccessPoint n).2 = [] := by
  unfold Platform.configureAccessPoint
  dsimp only
  repeat' split
  all_goals rfl

theorem clientCalls_applyAccessPoint (p : Platform) (c : WiFiConfiguration)
    (n : AccessPointNatives) : clientCalls (p.applyAccessPoint c n).2 = [] := by
  unfold Platform.applyAccessPoint
  split
  · exact clientCalls_configureAccessPoint p n
  · rfl

theorem configureClientAddress_ok (addressing : AddressMode) (network : NetworkAddress)
    (ok : Bool) : (configureClientAddress addressing network ok).1 = ok := by
  cases addressing <;> rfl

/-- `Apply` configures the address of the client's network before it begins. -/
theorem joins_applyInterfaces (defaults : Defaults) (c : WiFiConfiguration)
    (hprofile : p.hasActiveProfile = false) (n : ApplyNatives) :
    Joins p.configuration.client.network
      (clientCalls (p.applyInterfaces defaults c n).2.2) := by
  have hactive : p.activeNetwork = p.configuration.client.network := by
    rw [Platform.activeNetwork, hprofile]
    rfl
  have hbegins : clientCalls (p.applyClient c n.clock).2 = [] ∨ c.startsClient = true ∧
      ∃ password, clientCalls (p.applyClient c n.clock).2 =
        [.begin (cString p.configuration.client.network.ssid) password] := by
    unfold Platform.applyClient
    split
    · rename_i hstarts
      rw [← hactive]
      exact (clientCalls_beginClient p false n.clock).imp id fun h => ⟨hstarts, h⟩
    · exact Or.inl rfl
  have hhost := clientCalls_applyAccessPoint p c n.accessPoint
  have hradio : clientCalls p.applyRadioSettings = [] := rfl
  -- The address step, and then nothing or the client's begin.
  have hjoins : ∀ calls, (clientCalls calls = [] ∨ (p.applyAddress c n.config).1 = true ∧
      clientCalls calls = clientCalls (p.applyClient c n.clock).2) →
      Joins p.configuration.client.network
        (clientCalls ((p.applyAddress c n.config).2 ++ calls)) := by
    intro calls hcalls
    unfold Platform.applyAddress Platform.configureClientAddressLegacy at hcalls ⊢
    split at hcalls
    · rename_i haddresses
      rw [if_pos haddresses]
      refine Joins.of_configured p.configuration.client.network _ _ (hcalls.elim Or.inl ?_)
      intro hboth
      obtain ⟨hok, hsame⟩ := hboth
      rw [configureClientAddress_ok] at hok
      rw [hsame]
      exact hbegins.imp id fun h => ⟨hok, h.2⟩
    · rename_i haddresses
      rw [if_neg haddresses]
      have hnone : clientCalls calls = [] := by
        rcases hcalls with hnone | ⟨-, hsame⟩
        · exact hnone
        · rcases hbegins with hquiet | ⟨hstarts, -⟩
          · rw [hsame, hquiet]
          · refine absurd ?_ haddresses
            simp only [WiFiConfiguration.startsClient, Bool.and_eq_true] at hstarts ⊢
            exact ⟨hstarts.1.1.1, hstarts.1.2⟩
      rw [List.nil_append, hnone]
      exact .none
  simp only [Platform.applyInterfaces]
  split
  · rw [clientCalls_append, clientCalls_hostnameCalls, List.nil_append]
    simpa using hjoins [] (Or.inl rfl)
  · rename_i haddressed
    split
    · rw [List.append_assoc, clientCalls_append, clientCalls_hostnameCalls, List.nil_append]
      exact hjoins _ (Or.inl hhost)
    · simp only [List.append_assoc]
      rw [clientCalls_append, clientCalls_hostnameCalls, List.nil_append]
      refine hjoins _ (Or.inr ⟨by simpa using haddressed, ?_⟩)
      rw [clientCalls_append, clientCalls_append, hhost, hradio, List.nil_append, List.nil_append]

/-- An accepted `Apply`. -/
theorem joins_apply (defaults : Defaults) (p : Platform) {c : WiFiConfiguration}
    (hvalid : validate c = true) (n : ApplyNatives) :
    Joins c.client.network (clientCalls (p.apply defaults c n).2.2) := by
  have hjoins := joins_applyInterfaces (p := p.retain c) defaults c rfl n
  simp only [Platform.apply, hvalid, Bool.true_eq_false, if_false]
  split
  · exact .none
  · split
    · exact .none
    · exact hjoins

/-- The end of a `ConnectClient`, for the network it has made the active one. -/
theorem connectConfigured_chooses (p : Platform) (now : UInt32) (config : Bool) :
    let out := p.connectConfigured (configureClientAddress p.activeNetwork.addressing
      p.activeNetwork.staticNetwork config) now
    out.1.activeNetwork = p.activeNetwork ∧ Joins p.activeNetwork (clientCalls out.2.2) := by
  intro out
  refine ⟨?_, ?_⟩
  · rcases connectConfigured_cases p _ now with ⟨-, heq⟩ | ⟨-, heq⟩
    · exact congrArg Platform.activeNetwork heq
    · have hkeeps := keeps_beginClient
        { p with manualDisconnect := false, reconnectAttempts := 0 } false now
      exact (congrArg Platform.activeNetwork heq).trans hkeeps.activeNetwork
  · have hbegins := clientCalls_beginClient
      { p with manualDisconnect := false, reconnectAttempts := 0 } false now
    have hok := configureClientAddress_ok p.activeNetwork.addressing p.activeNetwork.staticNetwork
      config
    simp only [out, Platform.connectConfigured]
    split
    · simpa using Joins.of_configured p.activeNetwork config [] (Or.inl rfl)
    · rename_i hconfigured
      refine Joins.of_configured p.activeNetwork _ _ (hbegins.imp id fun h => ⟨?_, h⟩)
      rwa [hok, Bool.not_eq_false] at hconfigured

/-- A poll begins only a reconnect that is due, and configures nothing. -/
theorem clientCalls_pollStep (defaults : Defaults) (backoff : Backoff) (p : Platform)
    (r : PollReadings) :
    clientCalls (pollStep defaults backoff p r).2 = [] ∨
      p.Due r.reconnect ∧ ∃ password, clientCalls (pollStep defaults backoff p r).2 =
        [.begin (cString p.activeNetwork.ssid) password] := by
  have hscan : ∀ q : Platform, clientCalls (q.pollScan r.scan).2.2 = [] := by
    intro q
    unfold Platform.pollScan
    split
    · rfl
    · cases r.scan <;> rfl
  have hcalls : clientCalls (pollStep defaults backoff p r).2 =
      clientCalls (p.pollReconnect backoff r.reconnect).2 := by
    simp only [pollStep, Platform.poll, clientCalls_append, hscan, List.append_nil]
  have houtcome := pollReconnect_outcome backoff p r.reconnect
  rw [hcalls]
  generalize p.pollReconnect backoff r.reconnect = out at houtcome
  cases houtcome with
  | idle => exact Or.inl rfl
  | observed hobserved => exact Or.inl rfl
  | scheduled now => exact Or.inl rfl
  | attempted due =>
      exact (clientCalls_beginClient { p with nextReconnectMilliseconds := 0 } true
        r.reconnect.laterClock).imp id fun h => ⟨due, h⟩

/-- Nothing else concerns a network. -/
theorem step_other (defaults : Defaults) (backoff : Backoff) {op : Op} (hasks : ¬op.Asks)
    (hpoll : ∀ r, op ≠ .poll r) :
    clientCalls (WiFi.step defaults backoff p op).2 = [] ∧
      (WiFi.step defaults backoff p op).1.activeNetwork = p.activeNetwork := by
  cases op with
  | apply c n => exact absurd trivial hasks
  | connectClient config now => exact absurd trivial hasks
  | connectProfile profile config now => exact absurd trivial hasks
  | disable modeOk =>
      simp only [WiFi.step, Platform.disable]
      split <;> exact ⟨rfl, rfl⟩
  | disconnectClient ok =>
      simp only [WiFi.step, Platform.disconnectClient]
      split <;> exact ⟨rfl, rfl⟩
  | startAccessPoint modeOk n =>
      refine ⟨?_, (keeps_startAccessPoint p modeOk n).1.activeNetwork⟩
      have hmode : clientCalls (if p.configuration.mode == .apUntilClient
          then [Call.mode .apsta modeOk] else []) = [] := by
        split <;> rfl
      simp only [WiFi.step, Platform.startAccessPoint]
      split
      · rfl
      · split
        · exact hmode
        · split
          all_goals
            rw [clientCalls_append, hmode, List.nil_append]
            exact clientCalls_configureAccessPoint _ n
  | stopAccessPoint disconnectOk modeOk =>
      refine ⟨?_, (keeps_stopAccessPoint defaults p disconnectOk modeOk).1.activeNetwork⟩
      simp only [WiFi.step, Platform.stopAccessPoint]
      split_ifs <;> rfl
  | startScan failed =>
      refine ⟨?_, (keeps_startScan p failed).1.activeNetwork⟩
      simp only [WiFi.step, Platform.startScan]
      split_ifs <;> rfl
  | poll readings => exact absurd rfl (hpoll readings)

/-- An operation that chooses a network makes it the active one, and begins
only after configuring it. -/
theorem step_chooses (defaults : Defaults) (backoff : Backoff) {op : Op} {network : Network}
    (h : chooses p op = some network) :
    (WiFi.step defaults backoff p op).1.activeNetwork = network ∧
      Joins network (clientCalls (WiFi.step defaults backoff p op).2) := by
  cases op with
  | apply c n =>
      simp only [chooses] at h
      split at h
      · rename_i hvalid
        cases h
        exact ⟨(keeps_apply defaults p hvalid n).activeNetwork, joins_apply defaults p hvalid n⟩
      · cases h
  | connectClient config now =>
      simp only [chooses] at h
      split at h
      · cases h
      · rename_i hguard
        cases h
        simp only [WiFi.step, Platform.connectClient, if_neg hguard]
        exact connectConfigured_chooses { p with hasActiveProfile := false } now config
  | connectProfile profile config now =>
      simp only [chooses] at h
      split at h
      · cases h
      · rename_i hguard
        split at h
        · rename_i hvalid
          cases h
          simp only [WiFi.step, Platform.connectProfile, if_neg hguard, hvalid, Bool.true_eq_false,
            if_false]
          exact connectConfigured_chooses
            { p with activeProfile := profile, hasActiveProfile := true } now config
        · cases h
  | _ => cases h

/-- An operation that chooses none leaves the active one and configures nothing, and
only a poll may begin. -/
theorem step_chooses_none (defaults : Defaults) (backoff : Backoff) {op : Op}
    (h : chooses p op = none) :
    (WiFi.step defaults backoff p op).1.activeNetwork = p.activeNetwork ∧
      (clientCalls (WiFi.step defaults backoff p op).2 = [] ∨
        ∃ readings, op = .poll readings ∧ p.Due readings.reconnect ∧
          ∃ password, clientCalls (WiFi.step defaults backoff p op).2 =
            [.begin (cString p.activeNetwork.ssid) password]) := by
  have hother : ∀ op : Op, ¬op.Asks → (∀ r, op ≠ .poll r) →
      (WiFi.step defaults backoff p op).1.activeNetwork = p.activeNetwork ∧
        (clientCalls (WiFi.step defaults backoff p op).2 = [] ∨
          ∃ readings, op = .poll readings ∧ p.Due readings.reconnect ∧
            ∃ password, clientCalls (WiFi.step defaults backoff p op).2 =
              [.begin (cString p.activeNetwork.ssid) password]) := by
    intro op hasks hpoll
    obtain ⟨hnone, hsame⟩ := step_other defaults backoff hasks hpoll
    exact ⟨hsame, Or.inl hnone⟩
  cases op with
  | apply c n =>
      simp only [chooses] at h
      split at h
      · cases h
      · rename_i hinvalid
        rw [WiFi.step, apply_refused defaults p (by simpa using hinvalid) n]
        exact ⟨rfl, Or.inl rfl⟩
  | connectClient config now =>
      simp only [chooses] at h
      split at h
      · rename_i hguard
        have hrefused : p.connectClient config now = (p, .invalidConfiguration, []) :=
          if_pos hguard
        rw [WiFi.step, hrefused]
        exact ⟨rfl, Or.inl rfl⟩
      · cases h
  | connectProfile profile config now =>
      have hrefused : p.connectProfile profile config now = (p, .invalidConfiguration, []) := by
        unfold Platform.connectProfile
        simp only [chooses] at h
        split at h
        · rename_i hguard
          exact if_pos hguard
        · rename_i hguard
          split at h
          · cases h
          · rename_i hinvalid
            rw [if_neg hguard, if_pos (by simpa using hinvalid)]
      rw [WiFi.step, hrefused]
      exact ⟨rfl, Or.inl rfl⟩
  | poll readings =>
      obtain ⟨hkeeps, -, -⟩ := pollStep_spec defaults backoff p readings
      obtain ⟨hframe, -⟩ := pollReconnect_frame backoff p readings.reconnect
      refine ⟨hkeeps.activeNetwork.trans hframe.activeNetwork, ?_⟩
      exact (clientCalls_pollStep defaults backoff p readings).imp id
        fun h => ⟨readings, rfl, h.1, h.2⟩
  | _ => exact hother _ id (by simp)

/-! ## Runs -/

/-- If the operation that chose the active network got to its addressing, that
is the addressing applied last. -/
def Settled (s : Addressed) : Prop :=
  s.settled = true → s.applied = some s.platform.activeNetwork.applied

/-- An operation by its client calls. -/
theorem Addressed.step_eq (defaults : Defaults) (backoff : Backoff) (s : Addressed) (op : Op) :
    s.step defaults backoff op =
      let calls := clientCalls (WiFi.step defaults backoff s.platform op).2
      let tracked := feed (track (chooses s.platform op)) s.applied calls
      (⟨(WiFi.step defaults backoff s.platform op).1, tracked.1,
        match chooses s.platform op with
          | none => s.settled
          | some network => calls.any (Call.applies network)⟩, tracked.2) := by
  simp only [Addressed.step, feed_track_clientCalls, any_applies_clientCalls]

/-- An operation that chooses a network settles it, if it begins. -/
theorem Joins.tracked {network : Network} {calls : List Call} (h : Joins network calls)
    (applied : Option Applied) :
    (calls.any (Call.applies network) = true →
        (feed (track (some network)) applied calls).1 = some network.applied) ∧
      ∀ begun ∈ (feed (track (some network)) applied calls).2,
        begun = ⟨cString network.ssid, some network.applied⟩ := by
  cases h with
  | none => exact ⟨nofun, nofun⟩
  | refused => exact ⟨nofun, nofun⟩
  | configured => exact ⟨fun _ => rfl, nofun⟩
  | begun password => exact ⟨fun _ => rfl, fun begun hbegun => List.mem_singleton.mp hbegun⟩

theorem settled_step (s : Addressed) (op : Op) (h : Settled s) :
    Settled (s.step defaults backoff op).1 := by
  rw [Addressed.step_eq]
  cases hchosen : chooses s.platform op with
  | none =>
      obtain ⟨hsame, hcalls⟩ := step_chooses_none defaults backoff hchosen
      intro hsettled
      refine Eq.trans ?_ ((h hsettled).trans (congrArg (some ·.applied) hsame.symm))
      rcases hcalls with hnone | ⟨-, -, -, password, hbegun⟩
      · simp only [hnone]
        rfl
      · simp only [hbegun]
        rfl
  | some network =>
      obtain ⟨hactive, hjoins⟩ := step_chooses defaults backoff hchosen
      intro hsettled
      exact ((hjoins.tracked s.applied).1 hsettled).trans
        (congrArg (some ·.applied) hactive.symm)

/-- **One operation.** -/
theorem beginsAddressed_of_settled (h : Settled s) {op : Op} (hguard : ¬ReconnectsUnsettled s op) :
    BeginsAddressed defaults backoff s op := by
  unfold BeginsAddressed
  rw [Addressed.step_eq]
  intro begun hbegin
  cases hchosen : chooses s.platform op with
  | none =>
      rw [hchosen] at hbegin
      obtain ⟨hsame, hcalls⟩ := step_chooses_none defaults backoff hchosen
      rcases hcalls with hnone | ⟨readings, rfl, hdue, password, hbegun⟩
      · simp only [hnone] at hbegin
        cases hbegin
      · have hsettled : s.settled = true := by
          by_contra hno
          exact hguard ⟨by simpa using hno, hdue⟩
        simp only [hbegun] at hbegin
        obtain rfl := List.mem_singleton.mp hbegin
        exact ⟨s.platform.activeNetwork, h hsettled, hsame.symm, rfl⟩
  | some network =>
      rw [hchosen] at hbegin
      obtain ⟨hactive, hjoins⟩ := step_chooses defaults backoff hchosen
      obtain rfl := (hjoins.tracked s.applied).2 begun hbegin
      exact ⟨network, rfl, hactive.symm, rfl⟩

/-- **Every client begins with its own addressing** in a run in which no
reconnect comes due while the active network has not got its addressing. -/
theorem begins_addressed (defaults : Defaults) (backoff : Backoff) (ops : List Op)
    (hguard : ∀ x ∈ trace (Addressed.step defaults backoff) (Addressed.fresh defaults) ops,
      ¬ReconnectsUnsettled x.1 x.2) :
    ∀ x ∈ trace (Addressed.step defaults backoff) (Addressed.fresh defaults) ops,
      BeginsAddressed defaults backoff x.1 x.2 := by
  have hfresh : Settled (Addressed.fresh defaults) := fun h => by cases h
  intro x hx
  exact beginsAddressed_of_settled (trace_invariant settled_step hfresh ops x hx) (hguard x hx)

/-- The network "n" is asked for and does not answer. -/
def unansweredOps : List Op := [.apply twoAttempts appliedNatives, .poll (unanswered 20)]

/-- The reconnect that is then due. -/
theorem unanswered_addressed :
    BeginsAddressed sampleDefaults doubling
      (feed (Addressed.step sampleDefaults doubling) (Addressed.fresh sampleDefaults)
        unansweredOps).1 (.poll (unanswered 1020)) := by
  have hguard : ∀ x ∈ trace (Addressed.step sampleDefaults doubling)
      (Addressed.fresh sampleDefaults) (unansweredOps ++ [.poll (unanswered 1020)]),
      ¬ReconnectsUnsettled x.1 x.2 := by
    simp only [unansweredOps, List.cons_append, List.nil_append, trace, List.forall_mem_cons]
    refine ⟨id, ?_, ?_, fun x hx => absurd hx List.not_mem_nil⟩
    · rintro ⟨hsettled, -⟩
      revert hsettled
      decide +kernel
    · rintro ⟨hsettled, -⟩
      revert hsettled
      decide +kernel
  exact begins_addressed sampleDefaults doubling _ hguard
    ((feed (Addressed.step sampleDefaults doubling) (Addressed.fresh sampleDefaults)
      unansweredOps).1, .poll (unanswered 1020)) (.tail _ (.tail _ (.head _)))

/-- The network "m" with an address of its own. -/
def otherProfile : ClientNetworkProfile :=
  ⟨true, [109], [], .staticAddress,
    { noAddress with address := ⟨10, 0, 0, 2⟩, gateway := ⟨10, 0, 0, 1⟩ }⟩

/-- While the reconnect to "n" is pending the driver refuses the address of "m";
the reconnect then joins "m" with the addressing of "n". -/
theorem reconnect_unaddressed :
    ¬∀ defaults backoff ops,
      ∀ x ∈ trace (Addressed.step defaults backoff) (Addressed.fresh defaults) ops,
        BeginsAddressed defaults backoff x.1 x.2 := by
  intro h
  have hall := h sampleDefaults doubling
    [.apply twoAttempts appliedNatives, .poll (unanswered 20),
      .connectProfile otherProfile false 100, .poll (unanswered 1020)]
  simp only [trace, List.forall_mem_cons] at hall
  obtain ⟨network, happlied, hactive, -⟩ :=
    hall.2.2.2.1 ⟨[109], some ⟨some twoAttempts.client.network, none⟩⟩ (by decide +kernel)
  rw [hactive] at happlied
  revert happlied
  decide +kernel

end WiFi
