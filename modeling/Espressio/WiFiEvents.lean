import Espressio.WiFiRevisions
import Mathlib.Data.Finset.Basic
import Mathlib.Data.Finset.Lattice.Lemmas

/-!
# The events of the Wi-Fi platform

What somebody knows of the platform who is given nothing but the events of its
polls: the address of the client, and the stations of the access point.  A
follower takes the events in one by one and refuses one that does not fit, an
address acquired twice or a station that leaves without having come.

Both kinds of events are differences, and both are taken over too little.  The
address is compared with what it was at the start of the same poll, so what
another operation does to it in between is never reported; and a poll that
finds one address in place of another reports nothing.  The stations are
compared with those of the last list, which is the right thing to do, but that
list is dropped without a word when the access point goes down.
`address_followed_iff` and `stations_followed_iff` say which polls are missed.
-/

namespace WiFi

open Runs

variable {κ : Type} (defaults : Defaults) (backoff : Backoff)

/-! ## Followers -/

/-- A platform with a follower: what they know, unless an event did not fit,
and what the polls have `shown`. -/
structure Watched (κ : Type) where
  platform : Platform
  known : Option κ
  shown : κ

/-- One operation.  Only polls have events, and `shows` says what they show. -/
def watchStep (follow : κ → PlatformEvent → Option κ)
    (shows : Platform → PollReadings → κ → κ) (w : Watched κ) :
    Op → Watched κ × List PlatformEvent
  | .poll r =>
      let events := (w.platform.poll defaults backoff r).2.1.events
      (⟨(step defaults backoff w.platform (.poll r)).1,
          w.known.bind fun known => events.foldlM follow known,
          shows w.platform r w.shown⟩,
        events)
  | op => ({ w with platform := (step defaults backoff w.platform op).1 }, [])

def Watched.fresh (nothing : κ) : Watched κ := ⟨Platform.fresh defaults, some nothing, nothing⟩

/-- The follower knows what there is to know. -/
def Watched.InStep (w : Watched κ) : Prop := w.known = some w.shown

instance [DecidableEq κ] (w : Watched κ) : Decidable w.InStep :=
  inferInstanceAs (Decidable (w.known = some w.shown))

/-- The caller of a poll asks for its events. -/
def Op.WantsEvents : Op → Prop
  | .poll r => r.wantsEvents = true
  | _ => True

/-- Events that mean nothing to the follower. -/
theorem foldlM_ignored {follow : κ → PlatformEvent → Option κ} {known : κ}
    {events : List PlatformEvent} (h : ∀ e ∈ events, follow known e = some known) :
    events.foldlM follow known = some known := by
  induction events with
  | nil => rfl
  | cons e rest ih =>
      obtain ⟨hhead, hrest⟩ := List.forall_mem_cons.mp h
      rw [List.foldlM_cons, hhead]
      exact ih hrest

/-! ## The events of a poll -/

theorem knownStations_pollScan (p : Platform) (r : ScanReading) :
    (p.pollScan r).1.knownStations = p.knownStations := by
  unfold Platform.pollScan
  split
  · rfl
  · cases r <;> rfl

/-- The platform as a poll comes to build its events. -/
def Platform.read (p : Platform) (r : PollReadings) : Platform :=
  (((p.pollReconnect backoff r.reconnect).1.refreshState defaults r.refresh).pollScan r.scan).1

theorem configuration_read (p : Platform) (r : PollReadings) :
    (p.read defaults backoff r).configuration = p.configuration := by
  obtain ⟨hframe, -⟩ := pollReconnect_frame backoff p r.reconnect
  have hrefresh := keeps_refreshState defaults (p.pollReconnect backoff r.reconnect).1 r.refresh
  exact ((keeps_pollScan _ r.scan).configuration.trans hrefresh.configuration).trans
    hframe.configuration

theorem knownStations_read (p : Platform) (r : PollReadings) :
    (p.read defaults backoff r).knownStations = p.knownStations := by
  rw [Platform.read, knownStations_pollScan, (keepsRest_refreshState defaults _ _).knownStations,
    (keepsRest_pollReconnect backoff p r.reconnect).knownStations]

/-- The address of the client a poll reads: none of the driver's if the mode
has no client. -/
def Platform.addressRead (p : Platform) (r : RefreshReadings) : IPv4Address :=
  if p.configuration.mode.usesClient then r.network.address
  else defaults.runtime.client.network.address

/-- A refresh leaves the address that was read, also if it finds nothing
changed. -/
theorem address_refreshState (p : Platform) (r : RefreshReadings) :
    (p.refreshState defaults r).state.client.network.address = p.addressRead defaults r := by
  have hclient : (p.refreshClient defaults r).network.address = p.addressRead defaults r := by
    unfold Platform.refreshClient Platform.addressRead
    split <;> rfl
  rw [← hclient]
  dsimp only [Platform.refreshState]
  split
  · rfl
  · rename_i hsame
    by_contra hne
    apply hsame
    simp [stateChanged, Ne.symm hne]

theorem address_read (p : Platform) (r : PollReadings) :
    (p.read defaults backoff r).state.client.network.address =
      p.addressRead defaults r.refresh := by
  obtain ⟨hframe, -⟩ := pollReconnect_frame backoff p r.reconnect
  have hconfiguration : (p.pollReconnect backoff r.reconnect).1.configuration =
      p.configuration := hframe.configuration
  rw [Platform.read, client_pollScan, address_refreshState, Platform.addressRead, hconfiguration]
  rfl

/-- What a poll exposes is what it has read. -/
theorem state_poll (p : Platform) (r : PollReadings) :
    (p.poll defaults backoff r).2.1.state = (p.read defaults backoff r).state :=
  state_pollStep defaults backoff p r

/-- The events of a poll, by their kinds. -/
theorem events_poll (p : Platform) {r : PollReadings} (h : r.wantsEvents = true) :
    (p.poll defaults backoff r).2.1.events =
      buildNetworkEvents p.state (p.read defaults backoff r).state ++
        ((p.read defaults backoff r).buildStationEvents r.stations).2 := by
  simp only [Platform.poll, h, if_true, Platform.read]

/-- The mode and the known stations are all `BuildStationEvents` goes by. -/
theorem buildStationEvents_congr {p q : Platform}
    (hconfiguration : q.configuration = p.configuration)
    (hknown : q.knownStations = p.knownStations) (r : StationReadings) :
    (q.buildStationEvents r).2 = (p.buildStationEvents r).2 ∧
      (q.buildStationEvents r).1.knownStations = (p.buildStationEvents r).1.knownStations := by
  unfold Platform.buildStationEvents
  rw [hconfiguration, hknown]
  split
  · exact ⟨rfl, rfl⟩
  · cases r.stations with
    | none => exact ⟨rfl, hknown⟩
    | some stations => exact ⟨rfl, rfl⟩

theorem stationEvents_read (p : Platform) (r : PollReadings) :
    ((p.read defaults backoff r).buildStationEvents r.stations).2 =
        (p.buildStationEvents r.stations).2 ∧
      ((p.read defaults backoff r).buildStationEvents r.stations).1.knownStations =
        (p.buildStationEvents r.stations).1.knownStations :=
  buildStationEvents_congr (configuration_read defaults backoff p r)
    (knownStations_read defaults backoff p r) r.stations

/-! ## The address of the client -/

/-- An address, if it is one. -/
def IPv4Address.assigned (a : IPv4Address) : Option IPv4Address :=
  if a.isZero then none else some a

def followAddress (known : Option IPv4Address) : PlatformEvent → Option (Option IPv4Address)
  | .clientIPAddressAcquired network =>
      if known.isNone then some (some network.address) else none
  | .clientIPAddressLost => if known.isSome then some none else none
  | _ => some known

/-- The address in the state the poll returns. -/
def addressShown (p : Platform) (r : PollReadings) (_ : Option IPv4Address) :
    Option IPv4Address :=
  (p.poll defaults backoff r).2.1.state.client.network.address.assigned

/-- Since the last poll nobody has made the address come or go, and the poll
finds no other in its place. -/
def AddressReported (w : Watched (Option IPv4Address)) : Op → Prop
  | .poll r =>
      let before := w.platform.state.client.network.address
      let read := w.platform.addressRead defaults r.refresh
      w.shown.isNone = before.isZero ∧
        (before.isZero = false → read.isZero = false → w.shown = some read)
  | _ => True

theorem followAddress_stationEvents (p : Platform) (r : StationReadings)
    (known : Option IPv4Address) :
    (p.buildStationEvents r).2.foldlM followAddress known = some known := by
  apply foldlM_ignored
  intro e he
  unfold Platform.buildStationEvents at he
  split at he
  · exact absurd he List.not_mem_nil
  · split at he
    · exact absurd he List.not_mem_nil
    · rcases List.mem_append.mp he with hmem | hmem
      · obtain ⟨station, -, rfl⟩ := List.mem_map.mp hmem
        rfl
      · obtain ⟨station, -, rfl⟩ := List.mem_map.mp hmem
        rfl

/-- The network events of a poll, taken in by somebody who knows `shown`. -/
theorem followAddress_networkEvents (before after : RuntimeState) (shown : Option IPv4Address) :
    (buildNetworkEvents before after).foldlM followAddress shown =
        some after.client.network.address.assigned ↔
      shown.isNone = before.client.network.address.isZero ∧
        (before.client.network.address.isZero = false →
          after.client.network.address.isZero = false →
          shown = some after.client.network.address) := by
  unfold buildNetworkEvents IPv4Address.assigned
  cases before.client.network.address.isZero <;> cases hafter : after.client.network.address.isZero
    <;> cases shown <;> simp [followAddress]

theorem address_step_iff {w : Watched (Option IPv4Address)} (hw : w.InStep) {op : Op}
    (hop : op.WantsEvents) :
    (watchStep defaults backoff followAddress (addressShown defaults backoff) w op).1.InStep ↔
      AddressReported defaults w op := by
  cases op with
  | poll r =>
      have hknown : w.known = some w.shown := hw
      have hread := address_read defaults backoff w.platform r
      have hevents : (w.platform.poll defaults backoff r).2.1.events.foldlM followAddress w.shown =
          (buildNetworkEvents w.platform.state
            (w.platform.read defaults backoff r).state).foldlM followAddress w.shown := by
        rw [events_poll defaults backoff w.platform hop, List.foldlM_append]
        cases (buildNetworkEvents w.platform.state
            (w.platform.read defaults backoff r).state).foldlM followAddress w.shown with
        | none => rfl
        | some known => exact followAddress_stationEvents _ r.stations known
      simp only [watchStep, Watched.InStep, hknown, Option.bind_some, hevents, addressShown,
        state_poll, AddressReported]
      rw [followAddress_networkEvents, hread]
  | _ => exact iff_of_true hw trivial

/-- **The address events.**  After every poll of a run, each with somebody to
take the events in, these come to the address the poll returns exactly if no
poll finds that the address has come or gone without a poll, or another
address in its place. -/
theorem address_followed_iff (ops : List Op) (hops : ∀ op ∈ ops, op.WantsEvents) :
    let run := trace (watchStep defaults backoff followAddress (addressShown defaults backoff))
      (Watched.fresh defaults none) ops
    (∀ x ∈ run, (watchStep defaults backoff followAddress (addressShown defaults backoff)
        x.1 x.2).1.InStep) ↔
      ∀ x ∈ run, AddressReported defaults x.1 x.2 := by
  have hfresh : (Watched.fresh defaults none : Watched (Option IPv4Address)).InStep := rfl
  have hstep : ∀ (w : Watched (Option IPv4Address)) (op : Op), op.WantsEvents → True →
      w.InStep → ((watchStep defaults backoff followAddress (addressShown defaults backoff)
        w op).1.InStep ↔ AddressReported defaults w op) :=
    fun _ _ hop _ hw => address_step_iff defaults backoff hw hop
  exact trace_forall_iff_of (fun _ _ _ _ => trivial) hstep trivial hfresh hops

/-- What a poll reads of a client that is connected with an address. -/
def joined : PollReadings :=
  { unanswered 0 with
    reconnect := ⟨.connected, 0, 0⟩
    refresh := ⟨.connected, [110], -50, 6, { noAddress with address := ⟨10, 0, 0, 2⟩ },
      ⟨0, 0, 0, 0⟩, 0⟩
    wantsEvents := true }

theorem joined_followed :
    let run := trace (watchStep sampleDefaults doubling followAddress
        (addressShown sampleDefaults doubling))
      (Watched.fresh sampleDefaults none) [.apply twoAttempts appliedNatives, .poll joined]
    (∀ x ∈ run, (watchStep sampleDefaults doubling followAddress
        (addressShown sampleDefaults doubling) x.1 x.2).1.InStep) ↔
      ∀ x ∈ run, AddressReported sampleDefaults x.1 x.2 :=
  address_followed_iff sampleDefaults doubling [.apply twoAttempts appliedNatives, .poll joined]
    (by simp [Op.WantsEvents, joined])

/-- The radio is turned off, and the loss of the address is never reported. -/
theorem address_loss_unreported : ¬ ∀ (defaults : Defaults) (backoff : Backoff) (ops : List Op),
    (∀ op ∈ ops, op.WantsEvents) →
    ∀ x ∈ trace (watchStep defaults backoff followAddress (addressShown defaults backoff))
      (Watched.fresh defaults none) ops,
      (watchStep defaults backoff followAddress (addressShown defaults backoff)
        x.1 x.2).1.InStep := by
  intro h
  have hfollowed := h sampleDefaults doubling
    [.apply twoAttempts appliedNatives, .poll joined, .disable true, .poll joined]
    (by simp [Op.WantsEvents, joined])
  revert hfollowed
  decide +kernel

/-! ## The stations of the access point -/

def followStations (known : Finset MacAddress) : PlatformEvent → Option (Finset MacAddress)
  | .accessPointStationConnected station =>
      if station ∈ known then none else some (insert station known)
  | .accessPointStationDisconnected station =>
      if station ∈ known then some (known.erase station) else none
  | _ => some known

/-- The access point is down, as `BuildStationEvents` reads it. -/
def Platform.apDown (p : Platform) (r : StationReadings) : Bool :=
  !p.configuration.mode.canHostAP || r.softAPIP.isZero

/-- The stations that are associated, as far as the poll can tell: a list the
driver refuses tells nothing new. -/
def stationsShown (p : Platform) (r : PollReadings) (shown : Finset MacAddress) :
    Finset MacAddress :=
  if p.apDown r.stations then ∅
  else
    match r.stations.stations with
    | none => shown
    | some stations => stations.toFinset

/-- If stations were associated at the last list, the poll does not find the
access point down, nor reads a list after the known stations were dropped. -/
def StationsReported (w : Watched (Finset MacAddress)) : Op → Prop
  | .poll r =>
      w.shown ≠ ∅ → w.platform.apDown r.stations = false ∧
        (r.stations.stations.isSome → w.platform.knownStations ≠ [])
  | _ => True

/-- The driver's station lists have no duplicates. -/
def Op.DistinctStations : Op → Prop
  | .poll r => ∀ stations, r.stations.stations = some stations → stations.Nodup
  | _ => True

theorem followStations_networkEvents (before after : RuntimeState) (known : Finset MacAddress) :
    (buildNetworkEvents before after).foldlM followStations known = some known := by
  unfold buildNetworkEvents
  dsimp only
  split
  · rfl
  · split <;> rfl

/-- Stations that are reported to come must be new. -/
theorem followStations_connected (stations : List MacAddress) (known after : Finset MacAddress) :
    (stations.map PlatformEvent.accessPointStationConnected).foldlM followStations known =
        some after ↔
      stations.Nodup ∧ (∀ station ∈ stations, station ∉ known) ∧
        after = known ∪ stations.toFinset := by
  induction stations generalizing known with
  | nil => simp [eq_comm]
  | cons station rest ih =>
      rw [List.map_cons, List.foldlM_cons]
      by_cases hknown : station ∈ known
      · simp [followStations, hknown]
      · rw [followStations, if_neg hknown, Option.bind_eq_bind, Option.bind_some, ih,
          List.nodup_cons, List.forall_mem_cons, List.toFinset_cons, Finset.union_insert,
          Finset.insert_union]
        simp only [Finset.mem_insert, not_or, hknown, not_false_eq_true, true_and]
        constructor
        · rintro ⟨hnodup, hnew, hafter⟩
          exact ⟨⟨fun hmem => (hnew station hmem).1 rfl, hnodup⟩,
            fun other hmem => (hnew other hmem).2, hafter⟩
        · rintro ⟨⟨hout, hnodup⟩, hnew, hafter⟩
          exact ⟨hnodup, fun other hmem => ⟨fun heq => hout (heq ▸ hmem), hnew other hmem⟩,
            hafter⟩

/-- Stations that are reported to go must be known. -/
theorem followStations_disconnected (stations : List MacAddress) (known : Finset MacAddress)
    (hnodup : stations.Nodup) (hknown : ∀ station ∈ stations, station ∈ known) :
    (stations.map PlatformEvent.accessPointStationDisconnected).foldlM followStations known =
      some (known \ stations.toFinset) := by
  induction stations generalizing known with
  | nil => simp
  | cons station rest ih =>
      obtain ⟨hout, hrest⟩ := List.nodup_cons.mp hnodup
      obtain ⟨hmem, hothers⟩ := List.forall_mem_cons.mp hknown
      rw [List.map_cons, List.foldlM_cons, followStations, if_pos hmem]
      have hleft : ∀ other ∈ rest, other ∈ known.erase station := fun other hother =>
        Finset.mem_erase.mpr ⟨fun heq => hout (heq ▸ hother), hothers other hother⟩
      rw [Option.bind_eq_bind, Option.bind_some, ih _ hrest hleft, List.toFinset_cons,
        Finset.erase_sdiff_comm, Finset.sdiff_insert, Finset.erase_eq]

/-- A list that is compared with the stations known leads from these to it. -/
theorem followStations_difference {stations known : List MacAddress} (hstations : stations.Nodup)
    (hknown : known.Nodup) :
    ((stations.filter fun mac => !known.contains mac).map
          PlatformEvent.accessPointStationConnected ++
        (known.filter fun mac => !stations.contains mac).map
          PlatformEvent.accessPointStationDisconnected).foldlM followStations known.toFinset =
      some stations.toFinset := by
  have hcome : ((stations.filter fun mac => !known.contains mac).map
      PlatformEvent.accessPointStationConnected).foldlM followStations known.toFinset =
        some (known.toFinset ∪ (stations.filter fun mac => !known.contains mac).toFinset) := by
    refine (followStations_connected _ _ _).mpr ⟨hstations.filter _, ?_, rfl⟩
    intro station hmem
    simpa using (List.mem_filter.mp hmem).2
  rw [List.foldlM_append, hcome, Option.bind_eq_bind, Option.bind_some,
    followStations_disconnected _ _ (hknown.filter _)]
  · congr 1
    ext station
    simp only [Finset.mem_sdiff, Finset.mem_union, List.mem_toFinset, List.mem_filter,
      List.contains_eq_mem, Bool.not_eq_eq_eq_not, Bool.not_true, decide_eq_false_iff_not]
    tauto
  · intro station hmem
    exact Finset.mem_union_left _ (List.mem_toFinset.mpr (List.mem_filter.mp hmem).1)

/-- The known stations are those of the last list, unless they were dropped. -/
structure StationsInv (w : Watched (Finset MacAddress)) : Prop where
  distinct : w.platform.knownStations.Nodup
  listed : w.platform.knownStations = [] ∨ w.platform.knownStations.toFinset = w.shown

theorem StationsInv.drop {w v : Watched (Finset MacAddress)} (h : StationsInv w)
    (hshown : v.shown = w.shown)
    (hknown : v.platform.knownStations = w.platform.knownStations ∨
      v.platform.knownStations = []) : StationsInv v := by
  rcases hknown with hsame | hnone
  · exact ⟨hsame ▸ h.distinct, by rw [hsame, hshown]; exact h.listed⟩
  · exact ⟨hnone ▸ List.nodup_nil, Or.inl hnone⟩

/-- `Apply` drops them if it turns everything off. -/
theorem knownStations_apply (p : Platform) (c : WiFiConfiguration) (n : ApplyNatives) :
    (p.apply defaults c n).1.knownStations = p.knownStations ∨
      (p.apply defaults c n).1.knownStations = [] := by
  simp only [Platform.apply]
  split
  · exact Or.inl rfl
  · split
    · exact Or.inl rfl
    · split
      · exact Or.inr rfl
      · exact Or.inl (keepsRest_applyInterfaces defaults (p.retain c) c n).knownStations

/-- But for the polls, operations keep the known stations or drop them. -/
theorem knownStations_step {op : Op} (hop : ∀ r, op ≠ .poll r) (p : Platform) :
    (step defaults backoff p op).1.knownStations = p.knownStations ∨
      (step defaults backoff p op).1.knownStations = [] := by
  cases op with
  | apply c n => exact knownStations_apply defaults p c n
  | disable modeOk =>
      cases modeOk with
      | false => exact Or.inl rfl
      | true => exact Or.inr rfl
  | connectClient config now =>
      left
      simp only [step, Platform.connectClient]
      split
      · rfl
      · exact (keepsRest_connectConfigured _ _ now).knownStations
  | connectProfile profile config now =>
      left
      simp only [step, Platform.connectProfile]
      split
      · rfl
      · split
        · rfl
        · exact (keepsRest_connectConfigured _ _ now).knownStations
  | disconnectClient ok =>
      left
      simp only [step, Platform.disconnectClient]
      split <;> rfl
  | startAccessPoint modeOk n =>
      left
      simp only [step, Platform.startAccessPoint]
      split_ifs <;> rfl
  | stopAccessPoint disconnectOk modeOk =>
      simp only [step, Platform.stopAccessPoint]
      split_ifs <;> first | exact Or.inl rfl | exact Or.inr rfl
  | startScan failed =>
      left
      simp only [step, Platform.startScan]
      split_ifs <;> rfl
  | poll r => exact absurd rfl (hop r)

/-- What a poll does to the known stations, if its events are asked for. -/
theorem knownStations_poll (p : Platform) {r : PollReadings} (h : r.wantsEvents = true) :
    (pollStep defaults backoff p r).1.knownStations =
      (p.buildStationEvents r.stations).1.knownStations := by
  rw [← (stationEvents_read defaults backoff p r).2]
  simp only [pollStep, Platform.poll, h, if_true, Platform.read]

theorem stations_step_inv {w : Watched (Finset MacAddress)} (h : StationsInv w) {op : Op}
    (hop : op.WantsEvents ∧ op.DistinctStations) :
    StationsInv (watchStep defaults backoff followStations stationsShown w op).1 := by
  cases op with
  | poll r =>
      have hknown := knownStations_poll defaults backoff w.platform hop.1
      simp only [watchStep, step]
      refine StationsInv.mk ?_ ?_
      all_goals
        dsimp only
        rw [hknown]
        unfold Platform.buildStationEvents
        split
      · exact List.nodup_nil
      · cases hstations : r.stations.stations with
        | none => exact h.distinct
        | some stations => exact hop.2 stations hstations
      · exact Or.inl rfl
      · rename_i hup
        have hdown : w.platform.apDown r.stations = false := by
          simpa [Platform.apDown] using hup
        simp only [stationsShown, hdown, Bool.false_eq_true, if_false]
        cases hstations : r.stations.stations with
        | none => exact h.listed
        | some stations => exact Or.inr rfl
  | _ => exact h.drop rfl (knownStations_step defaults backoff (by simp) w.platform)

/-- Stations once shown are not all new to the follower. -/
theorem not_followed_of_dropped {stations : List MacAddress} {shown : Finset MacAddress}
    (hshown : shown ≠ ∅) :
    (stations.map PlatformEvent.accessPointStationConnected).foldlM followStations shown ≠
      some stations.toFinset := by
  intro hfollowed
  obtain ⟨-, hnew, hunion⟩ := (followStations_connected stations shown _).mp hfollowed
  obtain ⟨station, hstation⟩ := Finset.nonempty_iff_ne_empty.mpr hshown
  have hmem : station ∈ stations.toFinset := hunion ▸ Finset.mem_union_left _ hstation
  exact hnew station (List.mem_toFinset.mp hmem) hstation

/-- The station events of one poll, taken in by somebody who is in step. -/
theorem followed_stationEvents_iff {w : Watched (Finset MacAddress)} (h : StationsInv w)
    {r : PollReadings} (hr : (Op.poll r).DistinctStations) :
    (w.platform.buildStationEvents r.stations).2.foldlM followStations w.shown =
        some (stationsShown w.platform r w.shown) ↔
      StationsReported w (.poll r) := by
  simp only [StationsReported]
  cases hdown : w.platform.apDown r.stations with
  | true =>
      have hguard : w.platform.configuration.mode.canHostAP = false ∨
          r.stations.softAPIP.isZero := by
        simpa [Platform.apDown] using hdown
      rw [Platform.buildStationEvents, if_pos hguard, stationsShown, if_pos hdown]
      simp [List.foldlM_nil]
  | false =>
      have hguard : ¬(w.platform.configuration.mode.canHostAP = false ∨
          r.stations.softAPIP.isZero) := by
        simpa [Platform.apDown] using hdown
      rw [Platform.buildStationEvents, if_neg hguard, stationsShown, if_neg (by simp [hdown])]
      cases hstations : r.stations.stations with
      | none => simp
      | some stations =>
          have hnodup := hr stations hstations
          by_cases hforgotten : w.platform.knownStations = []
          · rw [hforgotten]
            by_cases hshown : w.shown = ∅
            · refine iff_of_true ?_ fun hne => absurd hshown hne
              rw [hshown]
              exact followStations_difference hnodup List.nodup_nil
            · refine iff_of_false ?_ fun hreported => (hreported hshown).2 rfl rfl
              simpa using not_followed_of_dropped hshown
          · refine iff_of_true ?_ fun _ => ⟨rfl, fun _ => hforgotten⟩
            rw [← h.listed.resolve_left hforgotten]
            exact followStations_difference hnodup h.distinct

theorem stations_step_iff {w : Watched (Finset MacAddress)} (h : StationsInv w)
    (hw : w.InStep) {op : Op} (hop : op.WantsEvents ∧ op.DistinctStations) :
    (watchStep defaults backoff followStations stationsShown w op).1.InStep ↔
      StationsReported w op := by
  cases op with
  | poll r =>
      have hknown : w.known = some w.shown := hw
      have hevents : (w.platform.poll defaults backoff r).2.1.events.foldlM followStations
          w.shown = (w.platform.buildStationEvents r.stations).2.foldlM followStations
            w.shown := by
        rw [events_poll defaults backoff w.platform hop.1, List.foldlM_append,
          followStations_networkEvents, (stationEvents_read defaults backoff w.platform r).1]
        rfl
      rw [← followed_stationEvents_iff h hop.2, ← hevents]
      simp only [watchStep, Watched.InStep, hknown, Option.bind_some]
  | _ => exact iff_of_true hw trivial

/-- **The station events.**  After every poll of a run, each with somebody to
take the events in, these come to the stations of the last list, or none once
the access point was found down, exactly if no poll finds the access point
down or the known stations dropped while there are stations to disconnect. -/
theorem stations_followed_iff (ops : List Op)
    (hops : ∀ op ∈ ops, op.WantsEvents ∧ op.DistinctStations) :
    let run := trace (watchStep defaults backoff followStations stationsShown)
      (Watched.fresh defaults ∅) ops
    (∀ x ∈ run, (watchStep defaults backoff followStations stationsShown x.1 x.2).1.InStep) ↔
      ∀ x ∈ run, StationsReported x.1 x.2 := by
  have hfresh : (Watched.fresh defaults ∅ : Watched (Finset MacAddress)).InStep := rfl
  have hinv : StationsInv (Watched.fresh defaults ∅) := ⟨List.nodup_nil, Or.inl rfl⟩
  have hstep : ∀ (w : Watched (Finset MacAddress)) (op : Op),
      op.WantsEvents ∧ op.DistinctStations → StationsInv w → w.InStep →
        ((watchStep defaults backoff followStations stationsShown w op).1.InStep ↔
          StationsReported w op) :=
    fun _ _ hop h hw => stations_step_iff defaults backoff h hw hop
  exact trace_forall_iff_of (fun _ _ hop h => stations_step_inv defaults backoff h hop) hstep
    hinv hfresh hops

/-- The access point "a". -/
def hostingConfiguration : WiFiConfiguration :=
  { twoAttempts with
    mode := .accessPoint
    accessPoint := ⟨true, [97], [], 1, false, 4, noAddress, false⟩ }

/-- A poll that reads the station list at an address of the access point. -/
def hosting (softAPIP : IPv4Address) (stations : List MacAddress) : PollReadings :=
  { unanswered 0 with stations := ⟨softAPIP, some stations⟩, wantsEvents := true }

/-- A station joins, the access point is stopped, and a poll finds it down. -/
def stoppedOps : List Op :=
  [.apply hostingConfiguration appliedNatives,
    .poll (hosting ⟨192, 168, 4, 1⟩ [[2, 0, 0, 0, 0, 1]]), .stopAccessPoint true true,
    .poll (hosting ⟨0, 0, 0, 0⟩ [])]

theorem stoppedOps_asked : ∀ op ∈ stoppedOps, op.WantsEvents ∧ op.DistinctStations := by
  simp [stoppedOps, Op.WantsEvents, Op.DistinctStations, hosting]

theorem stopped_followed :
    let run := trace (watchStep sampleDefaults doubling followStations stationsShown)
      (Watched.fresh sampleDefaults ∅) stoppedOps
    (∀ x ∈ run, (watchStep sampleDefaults doubling followStations stationsShown
        x.1 x.2).1.InStep) ↔
      ∀ x ∈ run, StationsReported x.1 x.2 :=
  stations_followed_iff sampleDefaults doubling stoppedOps stoppedOps_asked

/-- The station is never reported to have left. -/
theorem station_leave_unreported : ¬ ∀ (defaults : Defaults) (backoff : Backoff) (ops : List Op),
    (∀ op ∈ ops, op.WantsEvents ∧ op.DistinctStations) →
    ∀ x ∈ trace (watchStep defaults backoff followStations stationsShown)
      (Watched.fresh defaults ∅) ops,
      (watchStep defaults backoff followStations stationsShown x.1 x.2).1.InStep := by
  intro h
  have hfollowed := h sampleDefaults doubling stoppedOps stoppedOps_asked
  revert hfollowed
  decide +kernel

end WiFi
