import Espressio.ClientPlatform
import Espressio.HandshakeHeaders

/-!
# Credentials of the WebSocket client

`Connect` copies the credentials of its configuration and hands pointers to the
copies to the native client, which reads them as long as it exists.  This file
embeds the copying, the checks of a configuration and all of `Connect`, and
`Disconnect` and `Reset` as one step each; what they do to the members of the
platform is `Platform.connect`, `beginDisconnect` and `finishDisconnect`.

`native` is the configuration the existing native client was made with.  It is
not in the source, which has the handle alone: it says what was handed over.
-/

namespace WebSocketClient

open NetworkBytes Web
open PlatformResults (EspErr)

inductive WebCredentialEncoding
  | pem
  | der
  deriving DecidableEq, Repr

/-- The bytes of a credential; `none` is a null pointer. -/
structure WebCredentialView where
  data : Option Bytes
  encoding : WebCredentialEncoding
  deriving DecidableEq, Repr

/-- Only `Tls` is told apart from the others. -/
inductive WebTransportMode
  | tls
  | other
  deriving DecidableEq, Repr

inductive WebTlsServerTrustMode
  | platformTrust
  | certificateAuthority
  | other
  deriving DecidableEq, Repr

structure WebTlsConfiguration where
  serverTrust : WebTlsServerTrustMode
  serverCertificateAuthority : WebCredentialView
  clientCertificate : WebCredentialView
  clientPrivateKey : WebCredentialView

/-- What the core provides: `Empty` and `Valid` of a credential, and `Validate`
of a TLS configuration. -/
structure WebCore where
  empty : WebCredentialView → Bool
  valid : WebCredentialView → Bool
  validate : WebTlsConfiguration → WebResult

structure WebSocketClientPolicy where
  networkTimeoutMilliseconds : UInt32
  automaticReconnect : Bool
  reconnectDelayMilliseconds : UInt32
  reconnectAfterCleanClose : Bool
  pingIntervalMilliseconds : UInt32
  pongTimeoutMilliseconds : UInt32
  tcpKeepAlive : Bool
  tcpKeepAliveIdleSeconds : UInt32
  tcpKeepAliveIntervalSeconds : UInt32
  tcpKeepAliveProbeCount : UInt32
  maximumHandshakeHeaderBytes : Nat

structure WebSocketClientConfiguration where
  host : Bytes
  port : UInt16
  path : Bytes
  protocol : Bytes
  headers : Option WebClientHeaders
  transport : WebTransportMode
  tls : WebTlsConfiguration
  policy : WebSocketClientPolicy

/-! ## Copies of credentials -/

structure NativeCredential where
  bytes : Bytes
  encoding : WebCredentialEncoding
  deriving DecidableEq, Repr

namespace NativeCredential

/-- A credential after `Clear`. -/
def cleared : NativeCredential := ⟨[], .pem⟩

/-- `Empty`. -/
def empty (c : NativeCredential) : Bool := c.bytes.isEmpty

/-- `Data`: what the pointer points to. -/
def data (c : NativeCredential) : Option Bytes := if c.bytes = [] then none else some c.bytes

/-- `NativeLength`. -/
def nativeLength (c : NativeCredential) : Nat :=
  match c.encoding with
  | .der => c.bytes.length
  | .pem => 0

/-- `Assign`.  A text ends with exactly one NUL, whether the view has one or
not. -/
def assign (core : WebCore) (credential : WebCredentialView) : NativeCredential × WebResult :=
  if core.empty credential then (cleared, .success)
  else if !core.valid credential then (cleared, .failure .invalidConfiguration .none)
  else
    let given := credential.data.getD []
    match credential.encoding with
    | .der => (⟨given, .der⟩, .success)
    | .pem =>
        let logical := if given.getLast? = some 0 then given.dropLast else given
        if logical.contains 0 then (cleared, .failure .invalidConfiguration .none)
        else (⟨logical ++ [0], .pem⟩, .success)

end NativeCredential

/-- The three members. -/
structure Credentials where
  serverCa : NativeCredential
  clientCertificate : NativeCredential
  clientPrivateKey : NativeCredential
  deriving DecidableEq, Repr

/-- The members after `ClearCredentials`. -/
def Credentials.cleared : Credentials := ⟨.cleared, .cleared, .cleared⟩

/-- `PrepareCredentials`, which clears what was there first. -/
def prepareCredentials (core : WebCore) (c : WebSocketClientConfiguration) :
    Credentials × WebResult :=
  if c.transport ≠ .tls then
    if !core.empty c.tls.serverCertificateAuthority || !core.empty c.tls.clientCertificate ||
        !core.empty c.tls.clientPrivateKey then
      (.cleared, .failure .invalidConfiguration .none)
    else (.cleared, .success)
  else
    match core.validate c.tls with
    | .failure error native => (.cleared, .failure error native)
    | .success =>
        let serverCa :=
          if c.tls.serverTrust = .certificateAuthority then
            NativeCredential.assign core c.tls.serverCertificateAuthority
          else (.cleared, .success)
        let clientCertificate := NativeCredential.assign core c.tls.clientCertificate
        let clientPrivateKey := NativeCredential.assign core c.tls.clientPrivateKey
        match serverCa.2, clientCertificate.2, clientPrivateKey.2 with
        -- The members are not cleared here; `Assign` has cleared its own.
        | .failure error native, _, _ =>
            ({ Credentials.cleared with serverCa := serverCa.1 }, .failure error native)
        | .success, .failure error native, _ => (.cleared, .failure error native)
        | .success, .success, .failure error native => (.cleared, .failure error native)
        | .success, .success, .success =>
            (⟨serverCa.1, clientCertificate.1, clientPrivateKey.1⟩, .success)

/-! ## Connecting -/

def nativeNetworkTimeoutMilliseconds : UInt32 := 10000
def nativeReconnectDelayMilliseconds : UInt32 := 10000

/-- `ValidateNativePolicy`. -/
def validateNativePolicy (c : WebSocketClientConfiguration) : WebResult :=
  let policy := c.policy
  if c.host = [] ∨ c.port = 0 ∨ c.path.head? ≠ some 47 then .failure .invalidConfiguration .none
  else if policy.networkTimeoutMilliseconds ≠ nativeNetworkTimeoutMilliseconds then
    .failure .unsupported .none
  else if policy.automaticReconnect ∧
      policy.reconnectDelayMilliseconds ≠ nativeReconnectDelayMilliseconds then
    .failure .unsupported .none
  else if policy.reconnectAfterCleanClose then .failure .unsupported .none
  else if policy.pingIntervalMilliseconds % 1000 ≠ 0 ∨
      policy.pongTimeoutMilliseconds % 1000 ≠ 0 then .failure .unsupported .none
  else if policy.tcpKeepAlive ∧
      (policy.tcpKeepAliveIdleSeconds = 0 ∨ policy.tcpKeepAliveIntervalSeconds = 0 ∨
        policy.tcpKeepAliveProbeCount = 0 ∨ intMax < policy.tcpKeepAliveIdleSeconds.toNat ∨
        intMax < policy.tcpKeepAliveIntervalSeconds.toNat ∨
        intMax < policy.tcpKeepAliveProbeCount.toNat) then
    .failure .invalidConfiguration .none
  else .success

/-- The fields of `esp_websocket_client_config_t` that `Connect` fills in. -/
structure NativeConfiguration where
  host : Bytes
  port : UInt16
  path : Bytes
  subprotocol : Option Bytes
  headers : Option Bytes
  overSsl : Bool
  disableAutoReconnect : Bool
  pingIntervalSec : UInt32
  pingpongTimeoutSec : UInt32
  keepAliveEnable : Bool
  keepAliveIdle : UInt32
  keepAliveInterval : UInt32
  keepAliveCount : UInt32
  useGlobalCaStore : Bool
  certPem : Option Bytes
  certLen : Nat
  clientCert : Option Bytes
  clientCertLen : Nat
  clientKey : Option Bytes
  clientKeyLen : Nat
  deriving DecidableEq, Repr

/-- The server's certificate as `Connect` hands it over: the platform's store,
or the copy of the authority's. -/
def NativeConfiguration.withServerTrust (native : NativeConfiguration)
    (c : WebSocketClientConfiguration) (credentials : Credentials) : NativeConfiguration :=
  if c.transport ≠ .tls then native
  else if c.tls.serverTrust = .platformTrust then { native with useGlobalCaStore := true }
  else
    { native with
      certPem := credentials.serverCa.data
      certLen := credentials.serverCa.nativeLength }

/-- The client's certificate and key. -/
def NativeConfiguration.withClientCertificate (native : NativeConfiguration)
    (c : WebSocketClientConfiguration) (credentials : Credentials) : NativeConfiguration :=
  if c.transport ≠ .tls ∨ credentials.clientCertificate.empty then native
  else
    { native with
      clientCert := credentials.clientCertificate.data
      clientCertLen := credentials.clientCertificate.nativeLength
      clientKey := credentials.clientPrivateKey.data
      clientKeyLen := credentials.clientPrivateKey.nativeLength }

/-- The configuration of the native client. -/
def nativeConfiguration (c : WebSocketClientConfiguration) (headers : Bytes)
    (credentials : Credentials) : NativeConfiguration :=
  let plain : NativeConfiguration :=
    { host := cString c.host
      port := c.port
      path := cString c.path
      subprotocol := if c.protocol = [] then none else some (cString c.protocol)
      headers := if headers = [] then none else some (cString headers)
      overSsl := c.transport == .tls
      disableAutoReconnect := !c.policy.automaticReconnect
      pingIntervalSec := c.policy.pingIntervalMilliseconds / 1000
      pingpongTimeoutSec := c.policy.pongTimeoutMilliseconds / 1000
      keepAliveEnable := c.policy.tcpKeepAlive
      keepAliveIdle := if c.policy.tcpKeepAlive then c.policy.tcpKeepAliveIdleSeconds else 0
      keepAliveInterval :=
        if c.policy.tcpKeepAlive then c.policy.tcpKeepAliveIntervalSeconds else 0
      keepAliveCount := if c.policy.tcpKeepAlive then c.policy.tcpKeepAliveProbeCount else 0
      useGlobalCaStore := false
      certPem := none
      certLen := 0
      clientCert := none
      clientCertLen := 0
      clientKey := none
      clientKeyLen := 0 }
  (plain.withServerTrust c credentials).withClientCertificate c credentials

/-- The platform with its credentials, and the configuration of the native
client that exists. -/
structure SecuredPlatform where
  platform : Platform
  credentials : Credentials
  native : Option NativeConfiguration
  deriving DecidableEq, Repr

/-- A platform as it is constructed, with its sink set. -/
def SecuredPlatform.initial (sink : Option Nat) : SecuredPlatform :=
  ⟨.initial sink, .cleared, none⟩

/-- The native answers to a `Connect`; `globalCaStore` is whether this build
has a store of its own and it is set up. -/
structure SecuredNatives where
  globalCaStore : Bool
  client : Option Nat
  registered : EspErr
  started : EspErr

/-- The checks of `Connect` that come before a native client exists: the
credentials they leave, and the configuration to make it with. -/
def prepare (core : WebCore) (credentials : Credentials) (c : WebSocketClientConfiguration)
    (globalCaStore : Bool) : Credentials × WebResult × Option NativeConfiguration :=
  match validateNativePolicy c with
  | .failure error native => (credentials, .failure error native, none)
  | .success =>
      match prepareCredentials core c with
      | (left, .failure error native) => (left, .failure error native, none)
      | (prepared, .success) =>
          match buildNativeHeaders c.headers c.policy.maximumHandshakeHeaderBytes with
          | (.failure error native, _) => (.cleared, .failure error native, none)
          | (.success, headers) =>
              if c.transport = .tls ∧ c.tls.serverTrust = .platformTrust ∧ !globalCaStore then
                (.cleared, .failure .unsupported .none, none)
              else (prepared, .success, some (nativeConfiguration c headers prepared))

/-- `Connect`.  If it fails once there is a native client to be made, the
client is destroyed and the credentials are cleared. -/
def SecuredPlatform.connect (core : WebCore) (s : SecuredPlatform)
    (c : WebSocketClientConfiguration) (n : SecuredNatives) (id : Nat) :
    SecuredPlatform × WebResult × List NativeCall :=
  if s.platform.state.client ≠ none ∨ s.platform.disconnecting then
    (s, .failure .invalidState .none, [])
  else
    let (left, prepared, native) := prepare core s.credentials c n.globalCaStore
    let (platform, result, calls) :=
      s.platform.connect ⟨prepared, n.client, n.registered, n.started⟩ id
    match prepared, result with
    | .success, .success => (⟨platform, left, native⟩, result, calls)
    | .success, _ => (⟨platform, .cleared, none⟩, result, calls)
    | .failure _ _, _ => (⟨platform, left, none⟩, result, calls)

/-! ## The other operations -/

/-- The native answers to a `Disconnect`. -/
structure DisconnectNatives where
  connected : Bool
  stopped : EspErr
  destroyed : EspErr

/-- `Disconnect`, called by a task. -/
def SecuredPlatform.disconnect (s : SecuredPlatform) (task : Nat) (code : UInt16) (reason : Bytes)
    (n : DisconnectNatives) :
    SecuredPlatform × WebResult × List NativeCall × List SinkCall :=
  match s.platform.beginDisconnect task code reason with
  | (platform, .error result) => ({ s with platform := platform }, result, [], [])
  | (platform, .ok closing) =>
      let (platform, notice) := platform.finishDisconnect closing
      (⟨platform, .cleared, none⟩, closing.result n.stopped n.destroyed,
        [.isConnected closing.client, closing.stopCall n.connected, .destroy closing.client],
        notice.toList)

/-- `Reset`, called by a task.  It goes on whatever `Disconnect` says. -/
def SecuredPlatform.reset (s : SecuredPlatform) (task : Nat) (n : DisconnectNatives) :
    SecuredPlatform × List NativeCall × List SinkCall :=
  let (s, _, calls, notices) := s.disconnect task 1001 (ascii "client reset") n
  let down :=
    { s.platform.state with
      sink := none
      connection := none
      connectionOpen := false }
  ({ s with platform := { s.platform with state := down }, credentials := .cleared }, calls,
    notices)

/-- What is done with the platform.  An event that is neither of the link nor
of data only shows its task. -/
inductive SecuredOp
  | setSink (sink : Option Nat)
  | connect (configuration : WebSocketClientConfiguration) (natives : SecuredNatives) (id : Nat)
  | disconnect (task : Nat) (code : UInt16) (reason : Bytes) (natives : DisconnectNatives)
  | reset (task : Nat) (natives : DisconnectNatives)
  | linkEvent (task : Nat) (event : LinkEvent)
  | dataEvent (task : Nat) (event : DataEvent)
  | otherEvent (task : Nat)

def SecuredPlatform.step (core : WebCore) (s : SecuredPlatform) :
    SecuredOp → SecuredPlatform × List NativeCall
  | .setSink sink => ({ s with platform := s.platform.setSink sink }, [])
  | .connect configuration natives id =>
      let done := s.connect core configuration natives id
      (done.1, done.2.2)
  | .disconnect task code reason natives =>
      let done := s.disconnect task code reason natives
      (done.1, done.2.2.1)
  | .reset task natives =>
      let done := s.reset task natives
      (done.1, done.2.1)
  | .linkEvent task event =>
      ({ s with platform := (s.platform.handleLinkEvent task event).1 }, [])
  | .dataEvent task event =>
      ({ s with platform := (s.platform.handleDataEvent task event).1 }, [])
  | .otherEvent task => ({ s with platform := s.platform.noteEventTask task }, [])

end WebSocketClient
