import Espressio.WiFiRevisions

/-!
# A radio that is off

`Disable`, and an `Apply` of one of the modes that are off, end with a platform
that does nothing by itself: no poll starts a client or looks at a scan, and
every operation that would start something finds the mode off and refuses.
Only a configuration that is accepted changes that, and it need not succeed.

`Platform.Off` is the state they leave, down to the runtime state it shows.
-/

namespace WiFi

open Runs

variable {p : Platform} (defaults : Defaults) (backoff : Backoff)

/-- The platform of a radio that is off. -/
structure Platform.Off (p : Platform) : Prop where
  mode : p.configuration.mode.isOff = true
  scan : p.scanRunning = false
  state : p.state = offState defaults p.configuration.mode
  stations : p.knownStations = []

/-- The operation turns the radio off, and the driver goes along. -/
def Op.TurnsOff : Op → Prop
  | .disable modeOk => modeOk = true
  | .apply configuration natives =>
      validate configuration = true ∧ configuration.mode.isOff = true ∧ natives.mode = true
  | _ => False

/-- The operation sets another configuration. -/
def Op.Reconfigures : Op → Prop
  | .apply configuration _ => validate configuration = true
  | _ => False

/-- All that is still asked of the driver. -/
def Op.offCalls : Op → List Call
  | .disable modeOk => [.mode .null modeOk]
  | _ => []

theorem usesClient_of_isOff {mode : WiFiMode} (h : mode.isOff = true) :
    mode.usesClient = false ∧ mode.canHostAP = false := by
  cases mode <;> simp_all [WiFiMode.isOff, WiFiMode.usesClient, WiFiMode.canHostAP,
    WiFiMode.persistentAP]

/-- Turning the radio off. -/
theorem off_of_turnsOff {op : Op} (h : op.TurnsOff) (p : Platform) :
    (step defaults backoff p op).1.Off defaults := by
  cases op with
  | disable modeOk =>
      have hok : modeOk = true := h
      subst hok
      exact ⟨rfl, rfl, rfl, rfl⟩
  | apply configuration natives =>
      obtain ⟨hvalid, hoff, hmode⟩ := h
      simp only [step, Platform.apply, hvalid, hmode, hoff, Bool.true_eq_false, if_false, if_true]
      exact ⟨hoff, rfl, rfl, rfl⟩
  | _ => exact h.elim

/-- A poll of a radio that is off finds nothing new. -/
theorem Platform.Off.poll (h : p.Off defaults) (r : PollReadings) :
    (p.poll defaults backoff r).1.Off defaults ∧
      (p.poll defaults backoff r).2 =
        (⟨offState defaults p.configuration.mode, none, []⟩, []) := by
  obtain ⟨hclient, hhost⟩ := usesClient_of_isOff h.mode
  have hreconnect : p.pollReconnect backoff r.reconnect = (p, []) := by
    rw [Platform.pollReconnect, if_pos (Or.inl hclient)]
  have hnext : ({ p.state with
      mode := p.configuration.mode
      client := p.refreshClient defaults r.refresh
      accessPoint := p.refreshAccessPoint defaults r.refresh } : RuntimeState) = p.state := by
    simp [Platform.refreshClient, Platform.refreshAccessPoint, hclient, hhost, h.state, offState]
  have hrefresh : p.refreshState defaults r.refresh = p := by
    unfold Platform.refreshState
    simp only [hnext]
    simp [stateChanged]
  have hscan : p.pollScan r.scan = (p, none, []) := by
    unfold Platform.pollScan
    rw [if_pos h.scan]
  have hnetwork : buildNetworkEvents p.state p.state = [] := by
    unfold buildNetworkEvents
    cases p.state.client.network.address.isZero <;> rfl
  have hstations : p.buildStationEvents r.stations = ({ p with knownStations := [] }, []) := by
    rw [Platform.buildStationEvents, if_pos (Or.inl hhost)]
  cases hevents : r.wantsEvents with
  | true =>
      simp only [Platform.poll, hevents, hreconnect, hrefresh, hscan, hnetwork, hstations]
      exact ⟨⟨h.mode, h.scan, h.state, rfl⟩, by simp [h.state]⟩
  | false =>
      simp only [Platform.poll, hevents, hreconnect, hrefresh, hscan]
      exact ⟨h, by simp [h.state]⟩

/-- **One operation** on a radio that is off leaves it off. -/
theorem Platform.Off.step (h : p.Off defaults) {op : Op} (hop : ¬op.Reconfigures) :
    (step defaults backoff p op).1.Off defaults ∧
      (WiFi.step defaults backoff p op).2 = op.offCalls := by
  obtain ⟨hclient, hhost⟩ := usesClient_of_isOff h.mode
  cases op with
  | apply configuration natives =>
      have hrefused : validate configuration = false := by simpa [Op.Reconfigures] using hop
      simp only [WiFi.step, apply_refused defaults p hrefused natives]
      exact ⟨h, rfl⟩
  | disable modeOk =>
      cases modeOk with
      | true =>
          have hoff : Op.TurnsOff (.disable true) := rfl
          exact ⟨off_of_turnsOff defaults backoff hoff p, rfl⟩
      | false => exact ⟨⟨h.mode, rfl, h.state, h.stations⟩, rfl⟩
  | connectClient config now =>
      simp only [WiFi.step, Platform.connectClient, hclient, true_or, if_true]
      exact ⟨h, rfl⟩
  | connectProfile profile config now =>
      simp only [WiFi.step, Platform.connectProfile, hclient, true_or, if_true]
      exact ⟨h, rfl⟩
  | disconnectClient ok =>
      simp only [WiFi.step, Platform.disconnectClient, hclient, if_true]
      exact ⟨h, rfl⟩
  | startAccessPoint modeOk natives =>
      simp only [WiFi.step, Platform.startAccessPoint, hhost, true_or, if_true]
      exact ⟨h, rfl⟩
  | stopAccessPoint disconnectOk modeOk =>
      simp only [WiFi.step, Platform.stopAccessPoint, hhost, if_true]
      exact ⟨h, rfl⟩
  | startScan failed =>
      simp only [WiFi.step, Platform.startScan, h.mode, if_true]
      exact ⟨h, rfl⟩
  | poll readings =>
      obtain ⟨hoff, hresult⟩ := h.poll defaults backoff readings
      exact ⟨hoff, congrArg Prod.snd hresult⟩

/-- **Off is quiet.**  From any platform, once an operation has turned the radio
off, and until a configuration is accepted again, the driver is asked for
nothing but to be off still, and every poll reports the runtime state of a radio
that is off, no scan and no events. -/
theorem off_is_quiet (p : Platform) {first : Op} (hfirst : first.TurnsOff) {ops : List Op}
    (hops : ∀ op ∈ ops, ¬op.Reconfigures) :
    let q := (step defaults backoff p first).1
    (feed (step defaults backoff) q ops).2 = ops.flatMap Op.offCalls ∧
      ∀ x ∈ trace (step defaults backoff) q ops, ∀ readings, x.2 = .poll readings →
        (x.1.poll defaults backoff readings).2.1 =
          ⟨offState defaults x.1.configuration.mode, none, []⟩ := by
  intro q
  have hoff : q.Off defaults := off_of_turnsOff defaults backoff hfirst p
  generalize q = q at hoff
  induction ops generalizing q with
  | nil => exact ⟨rfl, fun x hx => absurd hx List.not_mem_nil⟩
  | cons op ops ih =>
      obtain ⟨hop, hrest⟩ := List.forall_mem_cons.mp hops
      obtain ⟨hnext, hcalls⟩ := hoff.step defaults backoff hop
      obtain ⟨hfeed, htrace⟩ := ih hrest _ hnext
      refine ⟨?_, List.forall_mem_cons.mpr ⟨?_, htrace⟩⟩
      · rw [feed_cons, hcalls, hfeed, List.flatMap_cons]
      · intro readings _
        exact congrArg Prod.fst (hoff.poll defaults backoff readings).2

theorem disabled_is_quiet :
    let q := (step sampleDefaults doubling (Platform.fresh sampleDefaults) (.disable true)).1
    let ops : List Op := [.connectClient true 5, .poll (unanswered 20), .disable false]
    (feed (step sampleDefaults doubling) q ops).2 = [.mode .null false] ∧
      ∀ x ∈ trace (step sampleDefaults doubling) q ops, ∀ readings, x.2 = .poll readings →
        (x.1.poll sampleDefaults doubling readings).2.1 =
          ⟨offState sampleDefaults x.1.configuration.mode, none, []⟩ :=
  off_is_quiet sampleDefaults doubling _ (show Op.TurnsOff (.disable true) from rfl)
    (by simp [Op.Reconfigures])

end WiFi
