import Espressio.WiFiRevisions

/-!
# What a poll returns of the client's addresses

`RefreshState` takes a snapshot of everything the stack reports, and keeps it
only if `StateChanged` finds it different from the state.  `StateChanged`
compares fields one by one, and of the client's network only the address: a
gateway, a subnet mask or a DNS server that changes alone is dropped with the
snapshot.

`Overlooks` says when that happens, on the state the snapshot is compared to.
It is exactly when the poll returns something else than was reported, in every
run: `polledNetwork_iff`.
-/

namespace WiFi

open Runs

/-- The fields of the access point that `StateChanged` compares. -/
structure AccessPointRuntimeState.Compares (a b : AccessPointRuntimeState) : Prop where
  state : a.state = b.state
  ssid : a.ssid = b.ssid
  channel : a.channel = b.channel
  connectedStations : a.connectedStations = b.connectedStations
  address : a.network.address = b.network.address

/-- The access point is up, and its configuration and what is reported of it are
as in the state; or it is down, and the state has none. -/
structure Platform.AccessPointSettled (defaults : Defaults) (p : Platform)
    (r : RefreshReadings) : Prop where
  up : p.configuration.mode.canHostAP = true → r.softAPIP.isZero = false →
    p.state.accessPoint.state = .active ∧
      p.configuration.accessPoint.ssid = p.state.accessPoint.ssid ∧
      p.configuration.accessPoint.channel = p.state.accessPoint.channel ∧
      r.stationCount = p.state.accessPoint.connectedStations ∧
      r.softAPIP = p.state.accessPoint.network.address
  down : (p.configuration.mode.canHostAP = true → r.softAPIP.isZero = true) →
    defaults.runtime.accessPoint.Compares p.state.accessPoint

/-- In a client mode the stack reports another gateway, subnet mask or DNS
server than the state holds, and nothing else that would be noticed. -/
structure Platform.Overlooks (defaults : Defaults) (p : Platform) (r : RefreshReadings) :
    Prop where
  differs : r.network ≠ p.state.client.network
  address : r.network.address = p.state.client.network.address
  mode : p.configuration.mode = p.state.mode
  connected : r.status = .connected → p.state.client.state = .connected
  disconnected : r.status ≠ .connected → p.manualDisconnect = true →
    p.state.client.state = .disconnected
  ssid : (if r.status = .connected then r.ssid else p.activeSSID) = p.state.client.ssid
  rssi : (if r.status = .connected then r.rssi else 0) = p.state.client.rssi
  channel : (if r.status = .connected then r.channel else 0) = p.state.client.channel
  reconnectAttempt : p.reconnectAttempts = p.state.client.reconnectAttempt
  accessPoint : p.AccessPointSettled defaults r

variable {p : Platform} (defaults : Defaults) (backoff : Backoff)

/-! ## One refresh -/

/-- The snapshot `RefreshState` takes. -/
def Platform.snapshot (p : Platform) (r : RefreshReadings) : RuntimeState :=
  { p.state with
    mode := p.configuration.mode
    client := p.refreshClient defaults r
    accessPoint := p.refreshAccessPoint defaults r }

theorem refreshState_eq (p : Platform) (r : RefreshReadings) :
    p.refreshState defaults r =
      if stateChanged (p.snapshot defaults r) p.state then
        { p with state :=
            { p.snapshot defaults r with revision := p.state.revision + 1 } }
      else p := rfl

/-- The client's snapshot in a client mode holds what was reported. -/
theorem network_refreshClient (hmode : p.configuration.mode.usesClient = true)
    (r : RefreshReadings) : (p.refreshClient defaults r).network = r.network := by
  rw [Platform.refreshClient, if_pos hmode]

theorem state_refreshClient_iff (hmode : p.configuration.mode.usesClient = true)
    (r : RefreshReadings) :
    (p.refreshClient defaults r).state = p.state.client.state ↔
      (r.status = .connected → p.state.client.state = .connected) ∧
        (r.status ≠ .connected → p.manualDisconnect = true →
          p.state.client.state = .disconnected) := by
  rw [Platform.refreshClient, if_pos hmode]
  by_cases hconnected : r.status = .connected
  · simpa [hconnected] using Eq.comm
  · by_cases hmanual : p.manualDisconnect = true
    · simpa [hconnected, hmanual] using Eq.comm
    · simp [hconnected, hmanual]

theorem compares_refreshAccessPoint_iff (p : Platform) (r : RefreshReadings) :
    (p.refreshAccessPoint defaults r).Compares p.state.accessPoint ↔
      p.AccessPointSettled defaults r := by
  unfold Platform.refreshAccessPoint
  cases hhosts : p.configuration.mode.canHostAP with
  | false =>
      refine ⟨fun h => ⟨fun hup => ?_, fun _ => h⟩, fun h => h.down fun hup => ?_⟩
      · simp [hhosts] at hup
      · simp [hhosts] at hup
  | true =>
      cases hdown : r.softAPIP.isZero with
      | true =>
          refine ⟨fun h => ⟨fun _ hup => ?_, fun _ => h⟩, fun h => h.down fun _ => hdown⟩
          simp [hdown] at hup
      | false =>
          constructor
          · rintro ⟨hstate, hssid, hchannel, hstations, haddress⟩
            refine ⟨fun _ _ => ⟨hstate.symm, hssid, hchannel, hstations, haddress⟩, fun h => ?_⟩
            simp [h hhosts] at hdown
          · intro h
            obtain ⟨hstate, hssid, hchannel, hstations, haddress⟩ := h.up hhosts hdown
            exact ⟨hstate.symm, hssid, hchannel, hstations, haddress⟩

/-- `StateChanged` compares everything but the rest of the networks. -/
theorem unchanged_iff (a b : RuntimeState) (hscan : a.scan = b.scan) :
    stateChanged a b = false ↔
      a.mode = b.mode ∧ a.client.state = b.client.state ∧ a.client.ssid = b.client.ssid ∧
        a.client.rssi = b.client.rssi ∧ a.client.channel = b.client.channel ∧
        a.client.network.address = b.client.network.address ∧
        a.client.reconnectAttempt = b.client.reconnectAttempt ∧
        a.accessPoint.Compares b.accessPoint := by
  simp only [stateChanged, Bool.or_eq_false_iff, bne_eq_false_iff_eq, and_assoc]
  constructor
  · rintro ⟨hm, hstate, hssid, hrssi, hchannel, haddress, hattempt, ha, hb, hc, hd, he, -⟩
    exact ⟨hm, hstate, hssid, hrssi, hchannel, haddress, hattempt, ⟨ha, hb, hc, hd, he⟩⟩
  · rintro ⟨hm, hstate, hssid, hrssi, hchannel, haddress, hattempt, h⟩
    exact ⟨hm, hstate, hssid, hrssi, hchannel, haddress, hattempt, h.state, h.ssid, h.channel,
      h.connectedStations, h.address, hscan⟩

/-- A snapshot is taken for the state it was taken in exactly if what it
reports of the network is overlooked. -/
theorem overlooks_iff (hmode : p.configuration.mode.usesClient = true) (r : RefreshReadings) :
    p.Overlooks defaults r ↔
      r.network ≠ p.state.client.network ∧
        stateChanged (p.snapshot defaults r) p.state = false := by
  have hstate := state_refreshClient_iff defaults hmode r
  have haccessPoint := compares_refreshAccessPoint_iff defaults p r
  have hunchanged := unchanged_iff (p.snapshot defaults r) p.state rfl
  rw [hunchanged]
  constructor
  · intro h
    refine ⟨h.differs, h.mode, hstate.mpr ⟨h.connected, h.disconnected⟩, ?_, ?_, ?_, ?_, ?_,
      haccessPoint.mpr h.accessPoint⟩ <;>
      simp only [Platform.snapshot, Platform.refreshClient, if_pos hmode]
    · exact h.ssid
    · exact h.rssi
    · exact h.channel
    · exact h.address
    · exact h.reconnectAttempt
  · rintro ⟨hdiffers, hm, hs, hssid, hrssi, hchannel, haddress, hattempt, hap⟩
    obtain ⟨hconnected, hdisconnected⟩ := hstate.mp hs
    simp only [Platform.snapshot, Platform.refreshClient, if_pos hmode]
      at hssid hrssi hchannel haddress hattempt
    exact ⟨hdiffers, haddress, hm, hconnected, hdisconnected, hssid, hrssi, hchannel, hattempt,
      haccessPoint.mp hap⟩

/-- **One refresh** leaves the reported network in the state, unless it
overlooks it. -/
theorem network_refreshState_iff (hmode : p.configuration.mode.usesClient = true)
    (r : RefreshReadings) :
    (p.refreshState defaults r).state.client.network = r.network ↔ ¬p.Overlooks defaults r := by
  rw [overlooks_iff defaults hmode r, refreshState_eq]
  cases hchanged : stateChanged (p.snapshot defaults r) p.state with
  | true => simp [Platform.snapshot, network_refreshClient defaults hmode r]
  | false => simpa using Eq.comm

/-! ## One poll -/

theorem configuration_pollReconnect (p : Platform) (r : ReconnectReadings) :
    (p.pollReconnect backoff r).1.configuration = p.configuration :=
  (pollReconnect_frame backoff p r).1.configuration

/-- A poll in a client mode returns the client's network as the stack reported
it; any other operation returns none. -/
def ReturnsReported (p : Platform) (op : Op) : Prop :=
  ∀ r, op = .poll r → p.configuration.mode.usesClient = true →
    (p.poll defaults backoff r).2.1.state.client.network = r.refresh.network

/-- A poll in a client mode whose refresh, after `PollReconnect`, overlooks
what was reported. -/
def OverlooksReport (p : Platform) (op : Op) : Prop :=
  ∃ r, op = .poll r ∧ p.configuration.mode.usesClient = true ∧
    (p.pollReconnect backoff r.reconnect).1.Overlooks defaults r.refresh

theorem network_poll_iff (hmode : p.configuration.mode.usesClient = true) (r : PollReadings) :
    (p.poll defaults backoff r).2.1.state.client.network = r.refresh.network ↔
      ¬(p.pollReconnect backoff r.reconnect).1.Overlooks defaults r.refresh := by
  have hreturned : (p.poll defaults backoff r).2.1.state =
      (pollStep defaults backoff p r).1.state := rfl
  rw [hreturned, state_pollStep, client_pollScan]
  refine network_refreshState_iff defaults ?_ r.refresh
  rw [configuration_pollReconnect]
  exact hmode

theorem returnsReported_iff (p : Platform) (op : Op) :
    ReturnsReported defaults backoff p op ↔ ¬OverlooksReport defaults backoff p op := by
  constructor
  · rintro h ⟨r, rfl, hmode, hoverlooks⟩
    exact (network_poll_iff defaults backoff hmode r).mp (h r rfl hmode) hoverlooks
  · rintro h r rfl hmode
    exact (network_poll_iff defaults backoff hmode r).mpr fun hoverlooks =>
      h ⟨r, rfl, hmode, hoverlooks⟩

/-! ## Runs -/

/-- **The returned network.**  In a run every poll in a client mode returns the
address, gateway, subnet mask and DNS servers that were reported to it, exactly
if none overlooks its report. -/
theorem polledNetwork_iff (ops : List Op) :
    let run := trace (step defaults backoff) (Platform.fresh defaults) ops
    (∀ x ∈ run, ReturnsReported defaults backoff x.1 x.2) ↔
      ∀ x ∈ run, ¬OverlooksReport defaults backoff x.1 x.2 :=
  forall₂_congr fun x _ => returnsReported_iff defaults backoff x.1 x.2

/-- What a connected client's poll reads, by the last byte of the gateway. -/
def renewed (gateway : UInt8) : PollReadings :=
  { unanswered 0 with
    reconnect := ⟨.connected, 0, 0⟩
    refresh := ⟨.connected, [110], -50, 6,
      ⟨⟨192, 168, 1, 20⟩, ⟨192, 168, 1, gateway⟩, ⟨255, 255, 255, 0⟩, ⟨192, 168, 1, gateway⟩,
        ⟨0, 0, 0, 0⟩⟩, ⟨0, 0, 0, 0⟩, 0⟩ }

/-- A renewal keeps the address and moves the gateway, which is the DNS server
too. -/
def renewalOps : List Op :=
  [.apply twoAttempts appliedNatives, .poll (renewed 1), .poll (renewed 254)]

theorem renewal_overlooked : ¬ ∀ (defaults : Defaults) (backoff : Backoff) (ops : List Op),
    ∀ x ∈ trace (step defaults backoff) (Platform.fresh defaults) ops,
      ReturnsReported defaults backoff x.1 x.2 := by
  intro h
  have hlast := h sampleDefaults doubling renewalOps _ (.tail _ (.tail _ (.head _)))
    (renewed 254) rfl (by decide +kernel)
  revert hlast
  decide +kernel

end WiFi
