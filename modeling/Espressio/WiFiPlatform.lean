import Espressio.NetworkBytes

/-!
# The Wi-Fi platform

`WiFiPlatform`: the configuration it retains, the runtime state it exposes,
and the operations on them.  An operation takes what the driver answers to the
calls it makes, and the readings of the clock, and returns its result and the
driver calls, in order.

Conversions between the core's addresses and the driver's keep the four bytes
and are left out.  `Backoff` stands for the one computation in floating point:
the delay of a second or later attempt, already bounded and truncated.
-/

namespace WiFi

open NetworkBytes

inductive WiFiStatus
  | success
  | invalidConfiguration
  | platformError
  | notSupported
  | busy
  deriving DecidableEq, Repr

inductive WiFiMode
  | disabled
  | client
  | accessPoint
  | accessPointClient
  | apUntilClient
  | off
  deriving DecidableEq, Repr

/-- The client states the platform sets; any other of the core's is `other`. -/
inductive ClientState
  | connecting
  | connected
  | reconnecting
  | disconnecting
  | disconnected
  | failed
  | other (code : Nat)
  deriving DecidableEq, Repr

inductive AccessPointState
  | disabled
  | starting
  | active
  | failed
  deriving DecidableEq, Repr

/-- The scan states the platform sets; any other of the core's is `other`. -/
inductive ScanState
  | scanning
  | complete
  | failed
  | other (code : Nat)
  deriving DecidableEq, Repr

inductive AddressMode
  | dhcp
  | staticAddress
  deriving DecidableEq, Repr

structure IPv4Address where
  a : UInt8
  b : UInt8
  c : UInt8
  d : UInt8
  deriving DecidableEq, Repr

structure NetworkAddress where
  address : IPv4Address
  gateway : IPv4Address
  subnetMask : IPv4Address
  primaryDNS : IPv4Address
  secondaryDNS : IPv4Address
  deriving DecidableEq, Repr

structure ReconnectPolicy where
  enabled : Bool
  maximumAttempts : UInt32
  initialDelayMilliseconds : UInt32
  maximumDelayMilliseconds : UInt32
  backoffMultiplier : Rat
  connectionTimeoutMilliseconds : UInt32
  deriving DecidableEq, Repr

structure ClientNetworkProfile where
  enabled : Bool
  ssid : Bytes
  password : Bytes
  addressing : AddressMode
  staticNetwork : NetworkAddress
  deriving DecidableEq, Repr

structure AccessPointConfiguration where
  enabled : Bool
  ssid : Bytes
  password : Bytes
  channel : UInt8
  hidden : Bool
  maximumClients : UInt8
  network : NetworkAddress
  dhcpEnabled : Bool
  deriving DecidableEq, Repr

/-- `PlatformClientConfiguration`. -/
structure ClientConfiguration where
  enabled : Bool
  ssid : Bytes
  password : Bytes
  addressing : AddressMode
  staticNetwork : NetworkAddress
  deriving DecidableEq, Repr

/-- `PlatformConfiguration`. -/
structure PlatformConfiguration where
  mode : WiFiMode
  client : ClientConfiguration
  accessPoint : AccessPointConfiguration
  reconnect : ReconnectPolicy
  txPowerDbm : Int
  powerSave : Bool
  deriving DecidableEq, Repr

/-- `WiFiConfiguration`: what the platform retains, and what it only looks at
when it is applied. -/
structure WiFiConfiguration extends PlatformConfiguration where
  hostname : Bytes
  networks : List ClientNetworkProfile
  automaticSelection : Bool
  deriving DecidableEq, Repr

structure ClientRuntimeState where
  state : ClientState
  ssid : Bytes
  rssi : Int
  channel : UInt8
  network : NetworkAddress
  reconnectAttempt : UInt32
  deriving DecidableEq, Repr

structure AccessPointRuntimeState where
  state : AccessPointState
  ssid : Bytes
  channel : UInt8
  network : NetworkAddress
  connectedStations : UInt16
  deriving DecidableEq, Repr

structure RuntimeState where
  mode : WiFiMode
  client : ClientRuntimeState
  accessPoint : AccessPointRuntimeState
  scan : ScanState
  revision : Nat
  deriving DecidableEq, Repr

/-- A MAC address, most significant octet first. -/
abbrev MacAddress := Bytes

/-- The default values of the core's types. -/
structure Defaults where
  runtime : RuntimeState
  configuration : PlatformConfiguration
  profile : ClientNetworkProfile
  network : NetworkAddress

/-- The members of the platform. -/
structure Platform where
  configuration : PlatformConfiguration
  state : RuntimeState
  activeProfile : ClientNetworkProfile
  hasActiveProfile : Bool
  manualDisconnect : Bool
  scanRunning : Bool
  clientAttemptStartedMilliseconds : UInt32
  nextReconnectMilliseconds : UInt32
  reconnectAttempts : UInt32
  knownStations : List MacAddress
  deriving DecidableEq, Repr

/-- A platform as it is constructed. -/
def Platform.fresh (defaults : Defaults) : Platform :=
  ⟨defaults.configuration, defaults.runtime, defaults.profile, false, false, false, 0, 0, 0, []⟩

inductive NativeMode
  | null
  | sta
  | ap
  | apsta
  deriving DecidableEq, Repr

inductive WlStatus
  | connected
  | connectFailed
  | noSsidAvail
  | other (code : UInt8)
  deriving DecidableEq, Repr

/-- The calls into the driver that change something, with the answers that
matter.  `config none` asks for DHCP. -/
inductive Call
  | mode (mode : NativeMode) (ok : Bool)
  | setHostname (name : Bytes)
  | config (network : Option NetworkAddress) (ok : Bool)
  | softAPConfig (address gateway subnetMask : IPv4Address) (ok : Bool)
  | softAP (ssid : Bytes) (password : Option Bytes) (channel : UInt8) (hidden : Bool)
      (maximumClients : UInt8) (ok : Bool)
  | dhcpServer (enabled : Bool) (ok : Bool)
  | radioSettings (maxTxPower : Int) (powerSave : Bool)
  | begin (ssid : Bytes) (password : Option Bytes)
  | disconnect (ok : Bool)
  | softAPdisconnect (ok : Bool)
  | scanNetworks (failed : Bool)
  | scanDelete
  deriving DecidableEq, Repr

def WiFiMode.persistentAP : WiFiMode → Bool
  | .accessPoint | .accessPointClient => true
  | _ => false

def WiFiMode.canHostAP (mode : WiFiMode) : Bool := mode.persistentAP || mode == .apUntilClient

def WiFiMode.usesClient : WiFiMode → Bool
  | .client | .accessPointClient | .apUntilClient => true
  | _ => false

/-- The `switch` of `Apply`. -/
def WiFiMode.native : WiFiMode → NativeMode
  | .disabled => .null
  | .client => .sta
  | .accessPoint => .ap
  | .accessPointClient => .apsta
  | .apUntilClient => .sta
  | .off => .null

/-- `Apply` and the later operations have nothing to do in these modes. -/
def WiFiMode.isOff (mode : WiFiMode) : Bool := mode == .off || mode == .disabled

/-- `ValidateCredential`. -/
def validateCredential (password : Bytes) : Bool :=
  password.isEmpty || (decide (8 ≤ password.length) && decide (password.length ≤ 63))

/-- `ValidateProfile`. -/
def validateProfile (profile : ClientNetworkProfile) : Bool :=
  decide (profile.ssid.length ≤ 32) && validateCredential profile.password

/-- `Validate`. -/
def validate (c : WiFiConfiguration) : Bool :=
  decide (c.hostname.length ≤ 32) &&
  decide (c.accessPoint.ssid.length ≤ 32) && decide (c.client.ssid.length ≤ 32) &&
  validateCredential c.accessPoint.password && validateCredential c.client.password &&
  c.networks.all validateProfile &&
  decide (1 ≤ c.accessPoint.channel ∧ c.accessPoint.channel ≤ 14) &&
  decide (c.accessPoint.maximumClients ≠ 0) &&
  decide (1 ≤ c.reconnect.backoffMultiplier) &&
  decide (c.reconnect.initialDelayMilliseconds ≤ c.reconnect.maximumDelayMilliseconds)

def IPv4Address.isZero (value : IPv4Address) : Bool :=
  value.a == 0 && value.b == 0 && value.c == 0 && value.d == 0

/-- `TimeReached`: the signed difference is not negative. -/
def timeReached (now target : UInt32) : Bool := decide ((now - target).toNat < 2147483648)

/-! ## Driver configuration -/

/-- `ConfigureClientAddress`. -/
def configureClientAddress (mode : AddressMode) (network : NetworkAddress) (ok : Bool) :
    Bool × List Call :=
  match mode with
  | .dhcp => (ok, [.config none ok])
  | .staticAddress => (ok, [.config (some network) ok])

/-- `ConfigureClientAddressLegacy`. -/
def Platform.configureClientAddressLegacy (p : Platform) (ok : Bool) : Bool × List Call :=
  configureClientAddress p.configuration.client.addressing p.configuration.client.staticNetwork ok

/-- What the driver answers while the access point is set up.  `dhcpOptions`
are the answers to the options this build sets. -/
structure AccessPointNatives where
  softAPConfig : Bool
  softAP : Bool
  dhcpHandle : Bool
  dhcpOptions : List Bool
  dhcpStart : Bool
  deriving DecidableEq, Repr

/-- `ConfigureDHCPServer`. -/
def configureDHCPServer (enabled : Bool) (n : AccessPointNatives) : Bool × List Call :=
  let ok := n.dhcpHandle && (!enabled || (n.dhcpOptions.all id && n.dhcpStart))
  (ok, [.dhcpServer enabled ok])

/-- `ConfigureAccessPoint`. -/
def Platform.configureAccessPoint (p : Platform) (n : AccessPointNatives) : Bool × List Call :=
  let ap := p.configuration.accessPoint
  if ap.enabled = false ∨ ap.ssid = [] then (false, [])
  else
    let config :=
      Call.softAPConfig ap.network.address ap.network.gateway ap.network.subnetMask n.softAPConfig
    if n.softAPConfig = false then (false, [config])
    else
      let password := if ap.password = [] then none else some (cString ap.password)
      let softAP := Call.softAP (cString ap.ssid) password ap.channel ap.hidden
        ap.maximumClients n.softAP
      if n.softAP = false then (false, [config, softAP])
      else
        let (ok, calls) := configureDHCPServer ap.dhcpEnabled n
        (ok, config :: softAP :: calls)

/-- `ApplyRadioSettings`. -/
def Platform.applyRadioSettings (p : Platform) : List Call :=
  [.radioSettings (4 * min 20 (max 2 p.configuration.txPowerDbm)) p.configuration.powerSave]

def Platform.activeSSID (p : Platform) : Bytes :=
  if p.hasActiveProfile then p.activeProfile.ssid else p.configuration.client.ssid

def Platform.activePassword (p : Platform) : Bytes :=
  if p.hasActiveProfile then p.activeProfile.password else p.configuration.client.password

/-! ## The client -/

/-- A change of the client's state with its step of the revision. -/
def Platform.enterClient (p : Platform) (client : ClientRuntimeState) : Platform :=
  { p with state := { p.state with client := client, revision := p.state.revision + 1 } }

/-- `BeginClient`. -/
def Platform.beginClient (p : Platform) (reconnect : Bool) (now : UInt32) :
    Platform × List Call :=
  if p.activeSSID = [] then
    (p.enterClient { p.state.client with state := .failed }, [])
  else
    ({ p.enterClient { p.state.client with
          state := if reconnect then .reconnecting else .connecting
          reconnectAttempt := p.reconnectAttempts } with
        clientAttemptStartedMilliseconds := now },
      [.begin (cString p.activeSSID)
        (if p.activePassword = [] then none else some (cString p.activePassword))])

/-- The delay of a later attempt, by its number: the initial delay times the
power of the multiplier, computed in `double`, at most the maximum delay. -/
abbrev Backoff := ReconnectPolicy → UInt32 → UInt32

/-- The bounded delay of `ScheduleReconnect`. -/
def reconnectDelay (backoff : Backoff) (policy : ReconnectPolicy) (attempt : UInt32) : UInt32 :=
  if 1 < attempt then backoff policy attempt
  else min policy.initialDelayMilliseconds policy.maximumDelayMilliseconds

/-- `ScheduleReconnect`. -/
def Platform.scheduleReconnect (backoff : Backoff) (p : Platform) (now : UInt32) : Platform :=
  if p.manualDisconnect ∨ p.configuration.reconnect.enabled = false then
    p.enterClient { p.state.client with state := .disconnected }
  else if p.configuration.reconnect.maximumAttempts ≠ 0 ∧
      p.configuration.reconnect.maximumAttempts ≤ p.reconnectAttempts then
    p.enterClient { p.state.client with state := .failed }
  else
    let attempts := p.reconnectAttempts + 1
    { p.enterClient { p.state.client with
        state := .reconnecting
        reconnectAttempt := attempts } with
      reconnectAttempts := attempts
      nextReconnectMilliseconds := now + reconnectDelay backoff p.configuration.reconnect attempts }

/-- What `PollReconnect` reads: the status and up to two times the clock. -/
structure ReconnectReadings where
  status : WlStatus
  clock : UInt32
  laterClock : UInt32
  deriving DecidableEq, Repr

/-- The attempt under way is over, by what is read. -/
def Platform.attemptFailed (p : Platform) (r : ReconnectReadings) : Bool :=
  r.status == .connectFailed || r.status == .noSsidAvail ||
    decide (p.configuration.reconnect.connectionTimeoutMilliseconds ≤
      r.clock - p.clientAttemptStartedMilliseconds)

/-- `PollReconnect`. -/
def Platform.pollReconnect (backoff : Backoff) (p : Platform) (r : ReconnectReadings) :
    Platform × List Call :=
  if p.configuration.mode.usesClient = false ∨ p.configuration.client.enabled = false ∨
      p.manualDisconnect ∨ p.activeSSID = [] then (p, [])
  else if r.status = .connected then
    ({ p with reconnectAttempts := 0, nextReconnectMilliseconds := 0 }, [])
  else if p.state.client.state = .connected then (p.scheduleReconnect backoff r.clock, [])
  else if p.state.client.state = .connecting then
    if p.attemptFailed r then (p.scheduleReconnect backoff r.laterClock, []) else (p, [])
  else if p.state.client.state = .reconnecting ∧ p.nextReconnectMilliseconds ≠ 0 ∧
      timeReached r.clock p.nextReconnectMilliseconds then
    { p with nextReconnectMilliseconds := 0 }.beginClient true r.laterClock
  else (p, [])

/-! ## The exposed state -/

/-- What `RefreshState` reads of the driver. -/
structure RefreshReadings where
  status : WlStatus
  ssid : Bytes
  rssi : Int
  channel : UInt8
  network : NetworkAddress
  softAPIP : IPv4Address
  stationCount : UInt16
  deriving DecidableEq, Repr

/-- `StateChanged`. -/
def stateChanged (a b : RuntimeState) : Bool :=
  a.mode != b.mode ||
    a.client.state != b.client.state ||
    a.client.ssid != b.client.ssid ||
    a.client.rssi != b.client.rssi ||
    a.client.channel != b.client.channel ||
    a.client.network.address != b.client.network.address ||
    a.client.reconnectAttempt != b.client.reconnectAttempt ||
    a.accessPoint.state != b.accessPoint.state ||
    a.accessPoint.ssid != b.accessPoint.ssid ||
    a.accessPoint.channel != b.accessPoint.channel ||
    a.accessPoint.connectedStations != b.accessPoint.connectedStations ||
    a.accessPoint.network.address != b.accessPoint.network.address ||
    a.scan != b.scan

/-- The client's part of the snapshot `RefreshState` takes. -/
def Platform.refreshClient (defaults : Defaults) (p : Platform) (r : RefreshReadings) :
    ClientRuntimeState :=
  if p.configuration.mode.usesClient then
    { state :=
        if r.status = .connected then .connected
        else if p.manualDisconnect then .disconnected
        else p.state.client.state
      ssid := if r.status = .connected then r.ssid else p.activeSSID
      rssi := if r.status = .connected then r.rssi else 0
      channel := if r.status = .connected then r.channel else 0
      network := r.network
      reconnectAttempt := p.reconnectAttempts }
  else defaults.runtime.client

/-- The access point's part of the snapshot. -/
def Platform.refreshAccessPoint (defaults : Defaults) (p : Platform) (r : RefreshReadings) :
    AccessPointRuntimeState :=
  let ap := p.configuration.accessPoint
  if p.configuration.mode.canHostAP then
    if r.softAPIP.isZero then defaults.runtime.accessPoint
    else
      { state := .active
        ssid := ap.ssid
        channel := ap.channel
        network := { ap.network with address := r.softAPIP }
        connectedStations := r.stationCount }
  else defaults.runtime.accessPoint

/-- `RefreshState`. -/
def Platform.refreshState (defaults : Defaults) (p : Platform) (r : RefreshReadings) : Platform :=
  let next := { p.state with
    mode := p.configuration.mode
    client := p.refreshClient defaults r
    accessPoint := p.refreshAccessPoint defaults r }
  if stateChanged next p.state then
    { p with state := { next with revision := p.state.revision + 1 } }
  else p

/-! ## Scans -/

inductive NetworkSecurity
  | open
  | wep
  | wpa
  | wpa2
  | wpaWpa2
  | wpa3
  | wpa2Wpa3
  | unknown
  deriving DecidableEq, Repr

structure ScanResult where
  ssid : Bytes
  rssi : Int
  channel : UInt8
  security : NetworkSecurity
  hidden : Bool
  bssid : MacAddress
  deriving DecidableEq, Repr

/-- One entry of the driver's scan list.  Its security is as `ConvertSecurity`
names it. -/
structure ScanEntry where
  ssid : Bytes
  rssi : Int
  channel : UInt8
  security : NetworkSecurity
  bssid : Option MacAddress
  deriving DecidableEq, Repr

/-- What `WiFi.scanComplete` says, with the list if there is one. -/
inductive ScanReading
  | running
  | failed
  | complete (entries : List ScanEntry)
  deriving DecidableEq, Repr

def ScanEntry.result (e : ScanEntry) : ScanResult :=
  ⟨e.ssid, e.rssi, e.channel, e.security, e.ssid.isEmpty, e.bssid.getD (List.replicate 6 0)⟩

/-- `PollScan`.  The results go to the caller if it has asked for them. -/
def Platform.pollScan (p : Platform) (r : ScanReading) :
    Platform × Option (List ScanResult) × List Call :=
  if p.scanRunning = false then (p, none, [])
  else
    match r with
    | .running => (p, none, [])
    | .failed =>
        ({ p with
            scanRunning := false
            state := { p.state with scan := .failed, revision := p.state.revision + 1 } },
          none, [])
    | .complete entries =>
        ({ p with
            scanRunning := false
            state := { p.state with scan := .complete, revision := p.state.revision + 1 } },
          some (entries.map ScanEntry.result), [.scanDelete])

/-! ## Events -/

inductive PlatformEvent
  | clientIPAddressAcquired (network : NetworkAddress)
  | clientIPAddressLost
  | accessPointStationConnected (station : MacAddress)
  | accessPointStationDisconnected (station : MacAddress)
  deriving DecidableEq, Repr

/-- `BuildNetworkEvents`. -/
def buildNetworkEvents (before after : RuntimeState) : List PlatformEvent :=
  let hadIP := !before.client.network.address.isZero
  let hasIP := !after.client.network.address.isZero
  if !hadIP && hasIP then [.clientIPAddressAcquired after.client.network]
  else if hadIP && !hasIP then [.clientIPAddressLost]
  else []

/-- What `BuildStationEvents` reads: the access point's address, and the
station list unless the driver refuses it. -/
structure StationReadings where
  softAPIP : IPv4Address
  stations : Option (List MacAddress)
  deriving DecidableEq, Repr

/-- `BuildStationEvents`. -/
def Platform.buildStationEvents (p : Platform) (r : StationReadings) :
    Platform × List PlatformEvent :=
  if p.configuration.mode.canHostAP = false ∨ r.softAPIP.isZero then
    ({ p with knownStations := [] }, [])
  else
    match r.stations with
    | none => (p, [])
    | some stations =>
        ({ p with knownStations := stations },
          (stations.filter fun mac => !p.knownStations.contains mac).map
              .accessPointStationConnected ++
            (p.knownStations.filter fun known => !stations.contains known).map
              .accessPointStationDisconnected)

/-! ## The operations -/

/-- What one `Poll` reads, and whether the caller passes an event list. -/
structure PollReadings where
  reconnect : ReconnectReadings
  refresh : RefreshReadings
  scan : ScanReading
  stations : StationReadings
  wantsEvents : Bool
  deriving DecidableEq, Repr

structure PollResult where
  state : RuntimeState
  completedScan : Option (List ScanResult)
  events : List PlatformEvent
  deriving DecidableEq, Repr

/-- `Poll`. -/
def Platform.poll (defaults : Defaults) (backoff : Backoff) (p : Platform) (r : PollReadings) :
    Platform × PollResult × List Call :=
  let before := p.state
  let (p, reconnectCalls) := p.pollReconnect backoff r.reconnect
  let p := p.refreshState defaults r.refresh
  let (p, completedScan, scanCalls) := p.pollScan r.scan
  let (p, events) :=
    if r.wantsEvents then
      let networkEvents := buildNetworkEvents before p.state
      let (p, stationEvents) := p.buildStationEvents r.stations
      (p, networkEvents ++ stationEvents)
    else (p, [])
  (p, ⟨p.state, completedScan, events⟩, reconnectCalls ++ scanCalls)

/-- What the driver answers to an `Apply`, and the clock. -/
structure ApplyNatives where
  mode : Bool
  config : Bool
  accessPoint : AccessPointNatives
  clock : UInt32
  refresh : RefreshReadings
  deriving DecidableEq, Repr

/-- The runtime state of a radio that is off. -/
def Platform.turnOff (defaults : Defaults) (p : Platform) (mode : WiFiMode) : Platform :=
  { p with
    state := { defaults.runtime with mode := mode, revision := defaults.runtime.revision + 1 }
    knownStations := [] }

def WiFiConfiguration.automaticProfiles (c : WiFiConfiguration) : Bool :=
  c.mode.usesClient && c.client.enabled && c.automaticSelection && !c.networks.isEmpty

/-- `Apply` itself starts the client. -/
def WiFiConfiguration.startsClient (c : WiFiConfiguration) : Bool :=
  c.mode.usesClient && c.client.enabled && !c.automaticProfiles && !c.client.ssid.isEmpty

/-- The steps of `Apply` for the client's address, the access point and the
client, each under its condition. -/
def Platform.applyAddress (p : Platform) (c : WiFiConfiguration) (ok : Bool) :
    Bool × List Call :=
  if c.mode.usesClient && !c.automaticProfiles then p.configureClientAddressLegacy ok
  else (true, [])

def Platform.applyAccessPoint (p : Platform) (c : WiFiConfiguration) (n : AccessPointNatives) :
    Bool × List Call :=
  if c.mode.persistentAP then p.configureAccessPoint n else (true, [])

def Platform.applyClient (p : Platform) (c : WiFiConfiguration) (now : UInt32) :
    Platform × List Call :=
  if c.startsClient then p.beginClient false now else (p, [])

def WiFiConfiguration.hostnameCalls (c : WiFiConfiguration) : List Call :=
  if c.hostname = [] then [] else [.setHostname (cString c.hostname)]

/-- What `Apply` does once the mode of a radio that is not off is set. -/
def Platform.applyInterfaces (defaults : Defaults) (p : Platform) (c : WiFiConfiguration)
    (n : ApplyNatives) : Platform × WiFiStatus × List Call :=
  let (addressed, addressCalls) := p.applyAddress c n.config
  if addressed = false then (p, .platformError, c.hostnameCalls ++ addressCalls)
  else
    let (hosting, hostCalls) := p.applyAccessPoint c n.accessPoint
    if hosting = false then (p, .platformError, c.hostnameCalls ++ addressCalls ++ hostCalls)
    else
      let (begun, beginCalls) := p.applyClient c n.clock
      (begun.refreshState defaults n.refresh, .success,
        c.hostnameCalls ++ addressCalls ++ hostCalls ++ p.applyRadioSettings ++ beginCalls)

/-- `Apply`. -/
def Platform.apply (defaults : Defaults) (p : Platform) (c : WiFiConfiguration)
    (n : ApplyNatives) : Platform × WiFiStatus × List Call :=
  if validate c = false then (p, .invalidConfiguration, [])
  else
    let p := { p with
      configuration := c.toPlatformConfiguration
      manualDisconnect := false
      reconnectAttempts := 0
      nextReconnectMilliseconds := 0
      hasActiveProfile := false
      scanRunning := false }
    let modeCall := Call.mode c.mode.native n.mode
    if n.mode = false then (p, .platformError, [modeCall])
    else if c.mode.isOff then (p.turnOff defaults c.mode, .success, [modeCall])
    else
      let (p, status, calls) := p.applyInterfaces defaults c n
      (p, status, modeCall :: calls)

/-- `Disable`. -/
def Platform.disable (defaults : Defaults) (p : Platform) (modeOk : Bool) :
    Platform × WiFiStatus × List Call :=
  let p := { p with manualDisconnect := true, scanRunning := false }
  if modeOk = false then (p, .platformError, [.mode .null false])
  else
    ({ p with configuration := { p.configuration with mode := .off } }.turnOff defaults .off,
      .success, [.mode .null true])

/-- The end of both `ConnectClient`s: the attempt starts if the address could
be configured. -/
def Platform.connectConfigured (p : Platform) (address : Bool × List Call) (now : UInt32) :
    Platform × WiFiStatus × List Call :=
  let (configured, addressCalls) := address
  if configured = false then (p, .platformError, addressCalls)
  else
    let p := { p with manualDisconnect := false, reconnectAttempts := 0 }
    let (p, beginCalls) := p.beginClient false now
    (p, .success, addressCalls ++ beginCalls)

/-- `ConnectClient()`. -/
def Platform.connectClient (p : Platform) (config : Bool) (now : UInt32) :
    Platform × WiFiStatus × List Call :=
  if p.configuration.mode.usesClient = false ∨ p.configuration.client.enabled = false ∨
      p.configuration.client.ssid = [] then (p, .invalidConfiguration, [])
  else
    let p := { p with hasActiveProfile := false }
    p.connectConfigured (p.configureClientAddressLegacy config) now

/-- `ConnectClient(profile)`. -/
def Platform.connectProfile (p : Platform) (profile : ClientNetworkProfile) (config : Bool)
    (now : UInt32) : Platform × WiFiStatus × List Call :=
  if p.configuration.mode.usesClient = false ∨ p.configuration.client.enabled = false ∨
      profile.enabled = false ∨ profile.ssid = [] then (p, .invalidConfiguration, [])
  else if validateProfile profile = false then (p, .invalidConfiguration, [])
  else
    let p := { p with activeProfile := profile, hasActiveProfile := true }
    p.connectConfigured (configureClientAddress profile.addressing profile.staticNetwork config)
      now

/-- `DisconnectClient`. -/
def Platform.disconnectClient (p : Platform) (ok : Bool) : Platform × WiFiStatus × List Call :=
  if p.configuration.mode.usesClient = false then (p, .notSupported, [])
  else
    let p := { p with manualDisconnect := true }
    let p := p.enterClient { p.state.client with state := .disconnecting }
    let p := p.enterClient { p.state.client with state := .disconnected }
    (p, if ok then .success else .platformError, [.disconnect ok])

/-- A change of the access point's state with its step of the revision. -/
def Platform.enterAccessPoint (p : Platform) (ap : AccessPointRuntimeState) : Platform :=
  { p with state := { p.state with accessPoint := ap, revision := p.state.revision + 1 } }

/-- `StartAccessPoint`. -/
def Platform.startAccessPoint (p : Platform) (modeOk : Bool) (n : AccessPointNatives) :
    Platform × WiFiStatus × List Call :=
  if p.configuration.mode.canHostAP = false ∨ p.configuration.accessPoint.enabled = false ∨
      p.configuration.accessPoint.ssid = [] then (p, .notSupported, [])
  else
    let switching := p.configuration.mode == .apUntilClient
    let modeCalls := if switching then [Call.mode .apsta modeOk] else []
    if switching && !modeOk then (p, .platformError, modeCalls)
    else
      let p := p.enterAccessPoint { p.state.accessPoint with state := .starting }
      let (ok, calls) := p.configureAccessPoint n
      if ok = false then
        (p.enterAccessPoint { p.state.accessPoint with state := .failed }, .platformError,
          modeCalls ++ calls)
      else
        (p.enterAccessPoint { p.state.accessPoint with state := .active }, .success,
          modeCalls ++ calls)

/-- `StopAccessPoint`. -/
def Platform.stopAccessPoint (defaults : Defaults) (p : Platform) (disconnectOk modeOk : Bool) :
    Platform × WiFiStatus × List Call :=
  if p.configuration.mode.canHostAP = false then (p, .notSupported, [])
  else if disconnectOk = false then (p, .platformError, [.softAPdisconnect false])
  else
    let switching := p.configuration.mode == .apUntilClient
    let calls := Call.softAPdisconnect true :: if switching then [.mode .sta modeOk] else []
    if switching && !modeOk then (p, .platformError, calls)
    else
      ({ p.enterAccessPoint { p.state.accessPoint with
            state := .disabled
            network := defaults.network } with knownStations := [] },
        .success, calls)

/-- `StartScan`. -/
def Platform.startScan (p : Platform) (failed : Bool) : Platform × WiFiStatus × List Call :=
  if p.configuration.mode.isOff then (p, .notSupported, [])
  else if p.scanRunning then (p, .busy, [])
  else if failed then
    ({ p with state := { p.state with scan := .failed, revision := p.state.revision + 1 } },
      .platformError, [.scanNetworks true])
  else
    ({ p with
        scanRunning := true
        state := { p.state with scan := .scanning, revision := p.state.revision + 1 } },
      .success, [.scanNetworks false])

end WiFi
