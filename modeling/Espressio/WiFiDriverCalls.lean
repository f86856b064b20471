import Espressio.WiFiOperations

/-!
# What the driver is asked for

`Apply` checks a configuration before it retains it, and `ConnectClient` a
profile.  Everything the driver is asked for later comes from what they have
let through, through whatever operations: names and keys within their limits, a
channel and a number of clients the access point can have, and a transmit power
`ApplyRadioSettings` has cut to its range.

The driver takes names and keys as C strings, so it sees them up to their first
NUL.
-/

namespace WiFi

open NetworkBytes Runs

variable {p q : Platform} (defaults : Defaults) (backoff : Backoff)

/-- A name and a key the driver may be given: what C strings show of a name of 1
to 32 bytes, and of a key of 8 to 63 bytes if there is one. -/
def Credentials (ssid : Bytes) (password : Option Bytes) : Prop :=
  ∃ name key : Bytes, name ≠ [] ∧ name.length ≤ 32 ∧ validateCredential key = true ∧
    ssid = cString name ∧ password = if key = [] then none else some (cString key)

/-- The arguments of a call are within their limits. -/
def Call.WellFormed : Call → Prop
  | .setHostname name => name.length ≤ 32
  | .softAP ssid password channel _ maximumClients _ =>
      Credentials ssid password ∧ 1 ≤ channel ∧ channel ≤ 14 ∧ maximumClients ≠ 0
  | .radioSettings maxTxPower _ => 8 ≤ maxTxPower ∧ maxTxPower ≤ 80
  | .begin ssid password => Credentials ssid password
  | _ => True

/-- What `Validate` asks of the members that are retained. -/
structure PlatformConfiguration.Valid (c : PlatformConfiguration) : Prop where
  accessPointName : c.accessPoint.ssid.length ≤ 32
  accessPointKey : validateCredential c.accessPoint.password = true
  channel : 1 ≤ c.accessPoint.channel ∧ c.accessPoint.channel ≤ 14
  maximumClients : c.accessPoint.maximumClients ≠ 0
  clientName : c.client.ssid.length ≤ 32
  clientKey : validateCredential c.client.password = true

/-- What is retained has been checked. -/
structure Platform.Checked (p : Platform) : Prop where
  configuration : p.configuration.Valid
  profile : p.hasActiveProfile = true → validateProfile p.activeProfile = true

theorem valid_of_validate {c : WiFiConfiguration} (h : validate c = true) :
    c.toPlatformConfiguration.Valid ∧ c.hostname.length ≤ 32 := by
  simp only [validate, Bool.and_eq_true, decide_eq_true_eq] at h
  obtain ⟨⟨⟨⟨⟨⟨⟨⟨⟨hhostname, hapName⟩, hclientName⟩, hapKey⟩, hclientKey⟩, -⟩, hchannel⟩, hclients⟩,
    -⟩, -⟩ := h
  exact ⟨⟨hapName, hapKey, hchannel, hclients, hclientName, hclientKey⟩, hhostname⟩

theorem Platform.Checked.keeps (h : p.Checked) (k : Keeps p q) : q.Checked where
  configuration := k.configuration ▸ h.configuration
  profile := by
    rw [k.hasActiveProfile, k.activeProfile]
    exact h.profile

theorem Platform.Checked.activeName (h : p.Checked) : p.activeSSID.length ≤ 32 := by
  unfold Platform.activeSSID
  split
  · rename_i hactive
    have hprofile := h.profile hactive
    simp only [validateProfile, Bool.and_eq_true, decide_eq_true_eq] at hprofile
    exact hprofile.1
  · exact h.configuration.clientName

theorem Platform.Checked.activeKey (h : p.Checked) :
    validateCredential p.activePassword = true := by
  unfold Platform.activePassword
  split
  · rename_i hactive
    have hprofile := h.profile hactive
    simp only [validateProfile, Bool.and_eq_true] at hprofile
    exact hprofile.2
  · exact h.configuration.clientKey

/-- `WiFi.begin` gets the active network's name and key. -/
theorem Platform.Checked.beginClient (h : p.Checked) (reconnect : Bool) (now : UInt32) :
    ∀ call ∈ (p.beginClient reconnect now).2, call.WellFormed := by
  unfold Platform.beginClient
  split
  · exact fun call hcall => absurd hcall List.not_mem_nil
  · rename_i hname
    intro call hcall
    rw [List.mem_singleton.mp hcall]
    exact ⟨p.activeSSID, p.activePassword, hname, h.activeName, h.activeKey, rfl, rfl⟩

theorem wellFormed_configureClientAddress (mode : AddressMode) (network : NetworkAddress)
    (ok : Bool) : ∀ call ∈ (configureClientAddress mode network ok).2, call.WellFormed := by
  cases mode <;> simp [configureClientAddress, Call.WellFormed]

/-- `WiFi.softAP` gets the access point's. -/
theorem Platform.Checked.configureAccessPoint (h : p.Checked) (n : AccessPointNatives) :
    ∀ call ∈ (p.configureAccessPoint n).2, call.WellFormed := by
  have hvalid := h.configuration
  simp only [Platform.configureAccessPoint]
  split
  · exact fun call hcall => absurd hcall List.not_mem_nil
  · rename_i hhosts
    have hcredentials : Credentials (cString p.configuration.accessPoint.ssid)
        (if p.configuration.accessPoint.password = [] then none
          else some (cString p.configuration.accessPoint.password)) :=
      ⟨_, _, (not_or.mp hhosts).2, hvalid.accessPointName, hvalid.accessPointKey, rfl, rfl⟩
    split
    · simp [Call.WellFormed]
    · split
      · simp [Call.WellFormed, hcredentials, hvalid.channel, hvalid.maximumClients]
      · simp [Call.WellFormed, hcredentials, hvalid.channel, hvalid.maximumClients,
          configureDHCPServer]

theorem Platform.Checked.connectConfigured (h : p.Checked) {address : Bool × List Call}
    (haddress : ∀ call ∈ address.2, call.WellFormed) (now : UInt32) :
    (p.connectConfigured address now).1.Checked ∧
      ∀ call ∈ (p.connectConfigured address now).2.2, call.WellFormed := by
  obtain ⟨configured, calls⟩ := address
  cases configured with
  | false => exact ⟨h, haddress⟩
  | true =>
      have hready : ({ p with manualDisconnect := false, reconnectAttempts := 0 } :
          Platform).Checked := ⟨h.configuration, h.profile⟩
      refine ⟨hready.keeps (keeps_beginClient _ false now), ?_⟩
      exact List.forall_mem_append.mpr ⟨haddress, hready.beginClient false now⟩

theorem wellFormed_radioSettings (p : Platform) :
    ∀ call ∈ p.applyRadioSettings, call.WellFormed := by
  intro call hcall
  rw [List.mem_singleton.mp hcall]
  constructor <;> omega

/-- **`Apply`** retains what it has checked, and asks for no more. -/
theorem Platform.Checked.apply (h : p.Checked) (c : WiFiConfiguration) (n : ApplyNatives) :
    (p.apply defaults c n).1.Checked ∧
      ∀ call ∈ (p.apply defaults c n).2.2, call.WellFormed := by
  cases hvalidate : validate c with
  | false =>
      rw [apply_refused defaults p hvalidate]
      exact ⟨h, fun call hcall => absurd hcall List.not_mem_nil⟩
  | true =>
      obtain ⟨hvalid, hhostname⟩ := valid_of_validate hvalidate
      have hretained : (p.retain c).Checked := ⟨hvalid, fun hactive => by cases hactive⟩
      refine ⟨hretained.keeps (keeps_apply defaults p hvalidate n), ?_⟩
      have hmode : ∀ ok, (Call.mode c.mode.native ok).WellFormed := fun _ => trivial
      have haddress : ∀ call ∈ ((p.retain c).applyAddress c n.config).2, call.WellFormed := by
        unfold Platform.applyAddress
        split
        · exact wellFormed_configureClientAddress _ _ _
        · exact fun call hcall => absurd hcall List.not_mem_nil
      have hhost : ∀ call ∈ ((p.retain c).applyAccessPoint c n.accessPoint).2,
          call.WellFormed := by
        unfold Platform.applyAccessPoint
        split
        · exact hretained.configureAccessPoint n.accessPoint
        · exact fun call hcall => absurd hcall List.not_mem_nil
      have hclient : ∀ call ∈ ((p.retain c).applyClient c n.clock).2, call.WellFormed := by
        unfold Platform.applyClient
        split
        · exact hretained.beginClient false n.clock
        · exact fun call hcall => absurd hcall List.not_mem_nil
      have hname : ∀ call ∈ c.hostnameCalls, call.WellFormed := by
        unfold WiFiConfiguration.hostnameCalls
        split
        · exact fun call hcall => absurd hcall List.not_mem_nil
        · intro call hcall
          rw [List.mem_singleton.mp hcall]
          exact (List.takeWhile_prefix _).length_le.trans hhostname
      have hinterfaces : ∀ call ∈ ((p.retain c).applyInterfaces defaults c n).2.2,
          call.WellFormed := by
        simp only [Platform.applyInterfaces]
        split
        · exact List.forall_mem_append.mpr ⟨hname, haddress⟩
        · split
          · exact List.forall_mem_append.mpr ⟨List.forall_mem_append.mpr ⟨hname, haddress⟩, hhost⟩
          · simp only [List.forall_mem_append]
            exact ⟨⟨⟨⟨hname, haddress⟩, hhost⟩, wellFormed_radioSettings _⟩, hclient⟩
      simp only [Platform.apply, hvalidate, Bool.true_eq_false, if_false]
      split
      · exact List.forall_mem_singleton.mpr (hmode n.mode)
      · split
        · exact List.forall_mem_singleton.mpr (hmode n.mode)
        · exact List.forall_mem_cons.mpr ⟨hmode n.mode, hinterfaces⟩

/-- `StartAccessPoint` asks for what `Apply` would. -/
theorem Platform.Checked.startAccessPoint (h : p.Checked) (modeOk : Bool)
    (n : AccessPointNatives) :
    ∀ call ∈ (p.startAccessPoint modeOk n).2.2, call.WellFormed := by
  have hmode : ∀ call ∈ (if p.configuration.mode == .apUntilClient then [Call.mode .apsta modeOk]
      else []), call.WellFormed := by
    split <;> simp [Call.WellFormed]
  simp only [Platform.startAccessPoint]
  split
  · exact fun call hcall => absurd hcall List.not_mem_nil
  · split
    · exact hmode
    · split
      · refine List.forall_mem_append.mpr ⟨hmode, ?_⟩
        exact Platform.Checked.configureAccessPoint ⟨h.configuration, h.profile⟩ n
      · refine List.forall_mem_append.mpr ⟨hmode, ?_⟩
        exact Platform.Checked.configureAccessPoint ⟨h.configuration, h.profile⟩ n

theorem Platform.Checked.poll (h : p.Checked) (r : PollReadings) :
    (pollStep defaults backoff p r).1.Checked ∧
      ∀ call ∈ (pollStep defaults backoff p r).2, call.WellFormed := by
  have hreconnect : (p.pollReconnect backoff r.reconnect).1.Checked ∧
      ∀ call ∈ (p.pollReconnect backoff r.reconnect).2, call.WellFormed := by
    have houtcome := pollReconnect_outcome backoff p r.reconnect
    generalize p.pollReconnect backoff r.reconnect = out at houtcome
    cases houtcome with
    | idle => exact ⟨h, fun call hcall => absurd hcall List.not_mem_nil⟩
    | observed _ =>
        exact ⟨⟨h.configuration, h.profile⟩, fun call hcall => absurd hcall List.not_mem_nil⟩
    | scheduled now =>
        refine ⟨?_, fun call hcall => absurd hcall List.not_mem_nil⟩
        unfold Platform.scheduleReconnect
        split
        · exact ⟨h.configuration, h.profile⟩
        · split <;> exact ⟨h.configuration, h.profile⟩
    | attempted due =>
        have hready : ({ p with nextReconnectMilliseconds := 0 } : Platform).Checked :=
          ⟨h.configuration, h.profile⟩
        exact ⟨hready.keeps (keeps_beginClient _ true _), hready.beginClient true _⟩
  obtain ⟨hkeeps, -, -⟩ := pollStep_spec defaults backoff p r
  refine ⟨hreconnect.1.keeps hkeeps, ?_⟩
  have hscan : ∀ (q : Platform), ∀ call ∈ (q.pollScan r.scan).2.2, call.WellFormed := by
    intro q
    unfold Platform.pollScan
    split
    · exact fun call hcall => absurd hcall List.not_mem_nil
    · cases r.scan <;> simp [Call.WellFormed]
  exact List.forall_mem_append.mpr ⟨hreconnect.2, hscan _⟩

/-- **One operation.** -/
theorem Platform.Checked.step (h : p.Checked) (op : Op) :
    (step defaults backoff p op).1.Checked ∧
      ∀ call ∈ (WiFi.step defaults backoff p op).2, call.WellFormed := by
  have hnone : ∀ call ∈ ([] : List Call), call.WellFormed :=
    fun call hcall => absurd hcall List.not_mem_nil
  cases op with
  | apply configuration natives => exact h.apply defaults configuration natives
  | disable modeOk =>
      have hvalid := h.configuration
      cases modeOk with
      | true =>
          refine ⟨⟨⟨hvalid.accessPointName, hvalid.accessPointKey, hvalid.channel,
            hvalid.maximumClients, hvalid.clientName, hvalid.clientKey⟩, h.profile⟩, ?_⟩
          exact List.forall_mem_singleton.mpr trivial
      | false => exact ⟨⟨hvalid, h.profile⟩, List.forall_mem_singleton.mpr trivial⟩
  | connectClient config now =>
      simp only [WiFi.step, Platform.connectClient]
      split
      · exact ⟨h, hnone⟩
      · have hready : ({ p with hasActiveProfile := false } : Platform).Checked :=
          ⟨h.configuration, fun hactive => by cases hactive⟩
        exact hready.connectConfigured (wellFormed_configureClientAddress _ _ _) now
  | connectProfile profile config now =>
      simp only [WiFi.step, Platform.connectProfile]
      split
      · exact ⟨h, hnone⟩
      · split
        · exact ⟨h, hnone⟩
        · rename_i hprofile
          have hready : ({ p with activeProfile := profile, hasActiveProfile := true } :
              Platform).Checked := ⟨h.configuration, fun _ => by simpa using hprofile⟩
          exact hready.connectConfigured (wellFormed_configureClientAddress _ _ _) now
  | disconnectClient ok =>
      simp only [WiFi.step, Platform.disconnectClient]
      split
      · exact ⟨h, hnone⟩
      · exact ⟨⟨h.configuration, h.profile⟩, List.forall_mem_singleton.mpr trivial⟩
  | startAccessPoint modeOk natives =>
      exact ⟨h.keeps (keeps_startAccessPoint p modeOk natives).1,
        h.startAccessPoint modeOk natives⟩
  | stopAccessPoint disconnectOk modeOk =>
      refine ⟨h.keeps (keeps_stopAccessPoint defaults p disconnectOk modeOk).1, ?_⟩
      simp only [WiFi.step, Platform.stopAccessPoint]
      split_ifs <;> simp [Call.WellFormed]
  | startScan failed =>
      refine ⟨h.keeps (keeps_startScan p failed).1, ?_⟩
      simp only [WiFi.step, Platform.startScan]
      split_ifs <;> simp [Call.WellFormed]
  | poll readings => exact h.poll defaults backoff readings

end WiFi
