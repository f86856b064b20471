import Espressio.ClientCredentials
import Espressio.Runs

/-!
# The lifetime of credentials

The copies of the credentials live as long as the native client they were
handed to: each way out of `Connect` clears them, and so does `Disconnect` once
it has destroyed the client.  `Reset` clears them too, but it does so also where
its `Disconnect` has been refused, which is what happens on the event task.

`CredentialsHeld` is the link between the client and the copies; of all steps
only such a `Reset` breaks it (`ClearsGiven`).
-/

namespace WebSocketClient

open NetworkBytes Web Runs
open PlatformResults (EspErr)

/-- All three are empty. -/
def Credentials.Empty (c : Credentials) : Prop :=
  c.serverCa.bytes = [] ∧ c.clientCertificate.bytes = [] ∧ c.clientPrivateKey.bytes = []

/-- What the client was handed is still there. -/
structure NativeConfiguration.GivenFrom (native : NativeConfiguration) (c : Credentials) :
    Prop where
  certPem : ∀ bytes, native.certPem = some bytes → c.serverCa.data = some bytes
  clientCert : ∀ bytes, native.clientCert = some bytes → c.clientCertificate.data = some bytes
  clientKey : ∀ bytes, native.clientKey = some bytes → c.clientPrivateKey.data = some bytes

/-- The client was handed a credential at all. -/
def NativeConfiguration.HasCredential (native : NativeConfiguration) : Prop :=
  native.certPem.isSome = true ∨ native.clientCert.isSome = true ∨ native.clientKey.isSome = true

/-- Without a native client there are no credentials, and while there is one,
those it was handed are unchanged. -/
structure CredentialsHeld (s : SecuredPlatform) : Prop where
  absent : s.native = none → s.credentials.Empty
  present : ∀ native, s.native = some native → native.GivenFrom s.credentials

/-- A `Reset` on the event task of a client that was handed a credential. -/
def ClearsGiven (s : SecuredPlatform) : SecuredOp → Prop
  | .reset task _ =>
      s.platform.eventTask = some task ∧
        ∃ native, s.native = some native ∧ native.HasCredential
  | _ => False

/-- The handle is that of the client that exists, and no operation is under
way between two others. -/
structure SecuredInv (s : SecuredPlatform) : Prop where
  client : s.native = none ↔ s.platform.state.client = none
  idle : s.platform.disconnecting = false

variable {core : WebCore} {s : SecuredPlatform} {c : WebSocketClientConfiguration}

theorem cleared_empty : Credentials.cleared.Empty := ⟨rfl, rfl, rfl⟩

theorem credentialsHeld_cleared (p : Platform) : CredentialsHeld ⟨p, .cleared, none⟩ :=
  ⟨fun _ => cleared_empty, fun _ h => by cases h⟩

/-! ## Connecting -/

/-- A failed `Assign` leaves nothing. -/
theorem assign_cases (core : WebCore) (view : WebCredentialView) :
    (NativeCredential.assign core view).2 = .success ∨
      (NativeCredential.assign core view).1 = .cleared := by
  unfold NativeCredential.assign
  split
  · exact Or.inl rfl
  · split
    · exact Or.inr rfl
    · cases view.encoding with
      | der => exact Or.inl rfl
      | pem =>
          dsimp only
          generalize (if (view.data.getD []).getLast? = some 0 then _ else _) = logical
          split
          · exact Or.inr rfl
          · exact Or.inl rfl

theorem prepareCredentials_cases (core : WebCore) (c : WebSocketClientConfiguration) :
    (prepareCredentials core c).2 = .success ∨ (prepareCredentials core c).1.Empty := by
  unfold prepareCredentials
  split
  · split
    · exact Or.inr cleared_empty
    · exact Or.inl rfl
  · split
    · exact Or.inr cleared_empty
    · dsimp only
      split
      · rename_i error native hfailed
        right
        have hca : (if c.tls.serverTrust = .certificateAuthority then
            NativeCredential.assign core c.tls.serverCertificateAuthority
          else (NativeCredential.cleared, WebResult.success)).1 = .cleared := by
          split at hfailed
          · rename_i htrust
            rw [if_pos htrust]
            rcases assign_cases core c.tls.serverCertificateAuthority with hsuccess | hcleared
            · rw [hsuccess] at hfailed
              cases hfailed
            · exact hcleared
          · cases hfailed
        rw [hca]
        exact cleared_empty
      · exact Or.inr cleared_empty
      · exact Or.inr cleared_empty
      · exact Or.inl rfl

/-- **The checks** leave no credentials where there were none if they fail, and
hand over those they leave if they pass. -/
theorem prepare_cases (core : WebCore) (credentials : Credentials)
    (c : WebSocketClientConfiguration) (globalCaStore : Bool) :
    (∃ left error native, prepare core credentials c globalCaStore =
        (left, .failure error native, none) ∧ (credentials.Empty → left.Empty)) ∨
      ∃ left headers, prepare core credentials c globalCaStore =
        (left, .success, some (nativeConfiguration c headers left)) := by
  unfold prepare
  split
  · exact Or.inl ⟨_, _, _, rfl, id⟩
  · have hprepared := prepareCredentials_cases core c
    generalize prepareCredentials core c = out at hprepared
    obtain ⟨left, result⟩ := out
    cases result with
    | failure error native =>
        rcases hprepared with hsuccess | hempty
        · cases hsuccess
        · exact Or.inl ⟨_, _, _, rfl, fun _ => hempty⟩
    | success =>
        dsimp only
        split
        · exact Or.inl ⟨_, _, _, rfl, fun _ => cleared_empty⟩
        · split
          · exact Or.inl ⟨_, _, _, rfl, fun _ => cleared_empty⟩
          · exact Or.inr ⟨_, _, rfl⟩

theorem NativeConfiguration.GivenFrom.withServerTrust {native : NativeConfiguration}
    {credentials : Credentials} (h : native.GivenFrom credentials)
    (c : WebSocketClientConfiguration) :
    (native.withServerTrust c credentials).GivenFrom credentials := by
  unfold NativeConfiguration.withServerTrust
  split
  · exact h
  · split
    · exact ⟨h.certPem, h.clientCert, h.clientKey⟩
    · exact ⟨fun _ hbytes => hbytes, h.clientCert, h.clientKey⟩

theorem NativeConfiguration.GivenFrom.withClientCertificate {native : NativeConfiguration}
    {credentials : Credentials} (h : native.GivenFrom credentials)
    (c : WebSocketClientConfiguration) :
    (native.withClientCertificate c credentials).GivenFrom credentials := by
  unfold NativeConfiguration.withClientCertificate
  split
  · exact h
  · exact ⟨h.certPem, fun _ hbytes => hbytes, fun _ hbytes => hbytes⟩

theorem nativeConfiguration_givenFrom (c : WebSocketClientConfiguration) (headers : Bytes)
    (credentials : Credentials) :
    (nativeConfiguration c headers credentials).GivenFrom credentials := by
  apply NativeConfiguration.GivenFrom.withClientCertificate
  apply NativeConfiguration.GivenFrom.withServerTrust
  constructor
  · intro bytes h
    cases h
  · intro bytes h
    cases h
  · intro bytes h
    cases h

theorem webSocketClientResult_ne {e : EspErr} (h : e ≠ .ok) :
    webSocketClientResult e ≠ .success := by
  cases e with
  | ok => exact absurd rfl h
  | _ => simp [webSocketClientResult]

/-- `Platform.connect` leaves a client exactly if it succeeds. -/
theorem platform_connect_cases {p : Platform} (hclient : p.state.client = none)
    (hidle : p.disconnecting = false) (n : ConnectNatives) (id : Nat) :
    (p.connect n id).1.disconnecting = false ∧
      (((p.connect n id).2.1 = .success ∧ n.prepared = .success ∧
          (p.connect n id).1.state.client ≠ none) ∨
        ((p.connect n id).2.1 ≠ .success ∧ (p.connect n id).1.state.client = none)) := by
  obtain ⟨prepared, client, registered, started⟩ := n
  have hguard : ¬(p.state.client ≠ none ∨ p.disconnecting = true) := by simp [hclient, hidle]
  rw [Platform.connect, if_neg hguard]
  cases prepared with
  | failure error native => exact ⟨hidle, Or.inr ⟨by simp, hclient⟩⟩
  | success =>
      cases client with
      | none => exact ⟨hidle, Or.inr ⟨by simp, hclient⟩⟩
      | some client =>
          dsimp only
          by_cases hregistered : registered = .ok
          · rw [if_neg (not_not.mpr hregistered)]
            by_cases hstarted : started = .ok
            · rw [if_neg (not_not.mpr hstarted)]
              exact ⟨hidle, Or.inl ⟨rfl, rfl, by simp [establish]⟩⟩
            · rw [if_pos hstarted]
              exact ⟨hidle, Or.inr ⟨webSocketClientResult_ne hstarted, rfl⟩⟩
          · rw [if_pos hregistered]
            exact ⟨hidle, Or.inr ⟨webSocketClientResult_ne hregistered, hclient⟩⟩

/-- **`Connect`** is refused, or leaves neither client nor credentials, or
makes a client and hands it the credentials. -/
theorem connect_outcome (core : WebCore) (s : SecuredPlatform) (c : WebSocketClientConfiguration)
    (n : SecuredNatives) (id : Nat) :
    (s.connect core c n id).1 = s ∨
      s.platform.state.client = none ∧ ∃ p left native,
        (s.connect core c n id).1 = ⟨p, left, native⟩ ∧ p.disconnecting = false ∧
          ((p.state.client = none ∧ native = none ∧ (s.credentials.Empty → left.Empty)) ∨
            (p.state.client ≠ none ∧ ∃ headers,
              native = some (nativeConfiguration c headers left))) := by
  unfold SecuredPlatform.connect
  split
  · exact Or.inl rfl
  · rename_i hguard
    simp only [not_or, not_not, Bool.not_eq_true] at hguard
    obtain ⟨hclient, hidle⟩ := hguard
    refine Or.inr ⟨hclient, ?_⟩
    rcases prepare_cases core s.credentials c n.globalCaStore with
      ⟨left, error, native, heq, hleft⟩ | ⟨left, headers, heq⟩
    · rw [heq]
      obtain ⟨hstill, hconnect⟩ := platform_connect_cases hclient hidle
        ⟨.failure error native, n.client, n.registered, n.started⟩ id
      rcases hconnect with ⟨-, hpassed, -⟩ | ⟨-, hnone⟩
      · cases hpassed
      · exact ⟨_, left, none, rfl, hstill, Or.inl ⟨hnone, rfl, hleft⟩⟩
    · rw [heq]
      obtain ⟨hstill, hconnect⟩ := platform_connect_cases hclient hidle
        ⟨.success, n.client, n.registered, n.started⟩ id
      dsimp only
      rcases hconnect with ⟨hsuccess, -, hsome⟩ | ⟨hfailed, hnone⟩
      · rw [hsuccess]
        exact ⟨_, left, _, rfl, hstill, Or.inr ⟨hsome, headers, rfl⟩⟩
      · split
        · rename_i hsuccess
          exact absurd hsuccess hfailed
        · exact ⟨_, .cleared, none, rfl, hstill, Or.inl ⟨hnone, rfl, fun _ => cleared_empty⟩⟩
        · rename_i hprepared
          cases hprepared

theorem securedInv_connect (hinv : SecuredInv s) (c : WebSocketClientConfiguration)
    (n : SecuredNatives) (id : Nat) : SecuredInv (s.connect core c n id).1 := by
  rcases connect_outcome core s c n id with heq | ⟨-, p, left, native, heq, hidle, houtcome⟩
  · rw [heq]
    exact hinv
  · rw [heq]
    rcases houtcome with ⟨hnone, rfl, -⟩ | ⟨hsome, headers, rfl⟩
    · exact ⟨iff_of_true rfl hnone, hidle⟩
    · exact ⟨iff_of_false (by simp) hsome, hidle⟩

/-- **Connecting** fails without a trace, or hands over what it keeps. -/
theorem held_connect (hinv : SecuredInv s) (h : CredentialsHeld s)
    (c : WebSocketClientConfiguration) (n : SecuredNatives) (id : Nat) :
    CredentialsHeld (s.connect core c n id).1 := by
  rcases connect_outcome core s c n id with heq | ⟨hclient, p, left, native, heq, -, houtcome⟩
  · rw [heq]
    exact h
  · rw [heq]
    rcases houtcome with ⟨-, rfl, hleft⟩ | ⟨-, headers, rfl⟩
    · constructor
      · intro _
        exact hleft (h.absent (hinv.client.mpr hclient))
      · intro _ hsome
        cases hsome
    · constructor
      · intro hnone
        cases hnone
      · intro _ hnative
        cases hnative
        exact nativeConfiguration_givenFrom c headers left

/-! ## The other operations -/

/-- `Disconnect` is refused on the event task of a client, does nothing without
one, and otherwise leaves neither client nor credentials. -/
theorem disconnect_cases (hinv : SecuredInv s) (task : Nat) (code : UInt16) (reason : Bytes)
    (n : DisconnectNatives) :
    ((s.disconnect task code reason n).1 = s ∧
        (s.native = none ∨ s.platform.eventTask = some task)) ∨
      ∃ p : Platform, (s.disconnect task code reason n).1 = ⟨p, .cleared, none⟩ ∧
        s.platform.eventTask ≠ some task ∧ p.state.client = none ∧ p.disconnecting = false := by
  unfold SecuredPlatform.disconnect Platform.beginDisconnect
  cases hclient : s.platform.state.client with
  | none => exact Or.inl ⟨rfl, Or.inl (hinv.client.mpr hclient)⟩
  | some client =>
      rw [hinv.idle]
      by_cases htask : s.platform.eventTask = some task
      · refine Or.inl ⟨?_, Or.inr htask⟩
        simp only [htask, if_true, Bool.false_eq_true, if_false]
      · simp only [htask, Bool.false_eq_true, if_false]
        refine Or.inr ⟨_, rfl, htask, ?_, ?_⟩
        · unfold Platform.finishDisconnect
          dsimp only
          split <;> simp
        · unfold Platform.finishDisconnect
          dsimp only
          split <;> rfl

theorem securedInv_disconnect (hinv : SecuredInv s) (task : Nat) (code : UInt16)
    (reason : Bytes) (n : DisconnectNatives) :
    SecuredInv (s.disconnect task code reason n).1 := by
  rcases disconnect_cases hinv task code reason n with ⟨heq, -⟩ | ⟨p, heq, -, hclient, hidle⟩
  · rw [heq]
    exact hinv
  · rw [heq]
    exact ⟨iff_of_true rfl hclient, hidle⟩

theorem held_disconnect (hinv : SecuredInv s) (h : CredentialsHeld s) (task : Nat)
    (code : UInt16) (reason : Bytes) (n : DisconnectNatives) :
    CredentialsHeld (s.disconnect task code reason n).1 := by
  rcases disconnect_cases hinv task code reason n with ⟨heq, -⟩ | ⟨p, heq, -⟩
  · rw [heq]
    exact h
  · rw [heq]
    exact credentialsHeld_cleared p

/-- Cleared credentials are those of a client that was handed none. -/
theorem givenFrom_cleared_iff {native : NativeConfiguration} :
    native.GivenFrom .cleared ↔ ¬native.HasCredential := by
  have hnone : ∀ handed : Option Bytes,
      (∀ bytes, handed = some bytes → NativeCredential.cleared.data = some bytes) ↔
        ¬handed.isSome = true := by
    intro handed
    cases handed with
    | none => simp
    | some bytes => simp [NativeCredential.data, NativeCredential.cleared]
  constructor
  · rintro h (hpem | hcert | hkey)
    · exact (hnone _).mp h.certPem hpem
    · exact (hnone _).mp h.clientCert hcert
    · exact (hnone _).mp h.clientKey hkey
  · intro h
    simp only [NativeConfiguration.HasCredential, not_or] at h
    obtain ⟨hpem, hcert, hkey⟩ := h
    exact ⟨(hnone _).mpr hpem, (hnone _).mpr hcert, (hnone _).mpr hkey⟩

theorem securedInv_reset (hinv : SecuredInv s) (task : Nat) (n : DisconnectNatives) :
    SecuredInv (s.reset task n).1 := by
  have hdisconnected := securedInv_disconnect hinv task 1001 (ascii "client reset") n
  exact ⟨hdisconnected.client, hdisconnected.idle⟩

/-- **Resetting** clears what a client was handed if, and only if, it is not
allowed to destroy the client first. -/
theorem held_reset_iff (hinv : SecuredInv s) (task : Nat)
    (n : DisconnectNatives) :
    CredentialsHeld (s.reset task n).1 ↔ ¬ClearsGiven s (.reset task n) := by
  rcases disconnect_cases hinv task 1001 (ascii "client reset") n with
    ⟨heq, hrefused⟩ | ⟨p, heq, hother, -⟩
  · simp only [SecuredPlatform.reset, heq, ClearsGiven]
    constructor
    · rintro hheld ⟨-, native, hnative, hhas⟩
      exact givenFrom_cleared_iff.mp (hheld.present native hnative) hhas
    · intro hno
      refine ⟨fun _ => cleared_empty, fun native hnative => ?_⟩
      refine givenFrom_cleared_iff.mpr fun hhas => ?_
      rcases hrefused with hnone | htask
      · rw [hnone] at hnative
        cases hnative
      · exact hno ⟨htask, native, hnative, hhas⟩
  · simp only [SecuredPlatform.reset, heq]
    refine iff_of_true (credentialsHeld_cleared _) ?_
    rintro ⟨htask, -⟩
    exact hother htask

theorem securedInv_step (core : WebCore) (s : SecuredPlatform) (op : SecuredOp)
    (h : SecuredInv s) : SecuredInv (s.step core op).1 := by
  cases op with
  | setSink sink => exact ⟨h.client, h.idle⟩
  | connect c n id => exact securedInv_connect h c n id
  | disconnect task code reason n => exact securedInv_disconnect h task code reason n
  | reset task n => exact securedInv_reset h task n
  | linkEvent task event =>
      obtain ⟨hclient, hidle⟩ := handleLinkEvent_frame s.platform task event
      refine ⟨?_, hidle.trans h.idle⟩
      simp only [SecuredPlatform.step, hclient]
      exact h.client
  | dataEvent task event =>
      have hclient : (handleData s.platform.state event).1.client = s.platform.state.client := by
        obtain ⟨frame, frameOpcode, code, reason, heq⟩ :=
          handleData_frame s.platform.state event
        rw [heq]
      refine ⟨h.client.trans ?_, h.idle⟩
      rw [← hclient]
      rfl
  | otherEvent task => exact ⟨h.client, h.idle⟩

/-- **Step lemma.**  Of all steps only a `Reset` lets the credentials go while
their client exists. -/
theorem held_step_iff (core : WebCore) (s : SecuredPlatform) (op : SecuredOp)
    (hinv : SecuredInv s) (h : CredentialsHeld s) :
    CredentialsHeld (s.step core op).1 ↔ ¬ClearsGiven s op := by
  cases op with
  | setSink sink => exact iff_of_true ⟨h.absent, h.present⟩ id
  | connect c n session => exact iff_of_true (held_connect hinv h c n session) id
  | disconnect task code reason n =>
      exact iff_of_true (held_disconnect hinv h task code reason n) id
  | reset task n => exact held_reset_iff hinv task n
  | linkEvent task event => exact iff_of_true ⟨h.absent, h.present⟩ id
  | dataEvent task event => exact iff_of_true ⟨h.absent, h.present⟩ id
  | otherEvent task => exact iff_of_true ⟨h.absent, h.present⟩ id

/-! ## Runs -/

/-- **Credentials live as long as their client** in exactly the runs in which
nobody resets, on the event task, a client that was handed a credential. -/
theorem credentialsHeld_run_iff (core : WebCore) (sink : Option Nat) (ops : List SecuredOp) :
    (∀ x ∈ trace (SecuredPlatform.step core) (.initial sink) ops,
        CredentialsHeld (x.1.step core x.2).1) ↔
      ∀ x ∈ trace (SecuredPlatform.step core) (.initial sink) ops, ¬ClearsGiven x.1 x.2 := by
  have hinv : SecuredInv (.initial sink) := ⟨iff_of_true rfl rfl, rfl⟩
  exact trace_forall_iff (securedInv_step core) (held_step_iff core) hinv
    (credentialsHeld_cleared _) ops

/-- A core that takes any credential. -/
def lenientCore : WebCore where
  empty view := (view.data.getD []).isEmpty
  valid _ := true
  validate _ := .success

/-- TLS, with the certificate of an authority. -/
def authorityConfiguration : WebSocketClientConfiguration where
  host := [104]
  port := 443
  path := [47]
  protocol := []
  headers := none
  transport := .tls
  tls := ⟨.certificateAuthority, ⟨some [67, 65], .pem⟩, ⟨none, .pem⟩, ⟨none, .pem⟩⟩
  policy := ⟨10000, true, 10000, false, 10000, 10000, false, 0, 0, 0, 1024⟩

/-- A sink that resets the platform when it is told of the connection takes the
certificate from under the client. -/
theorem reset_in_callback_clears_certificate :
    ¬∀ (core : WebCore) (sink : Option Nat) (ops : List SecuredOp),
      ∀ x ∈ trace (SecuredPlatform.step core) (.initial sink) ops,
        CredentialsHeld (x.1.step core x.2).1 := by
  intro h
  let connected := (SecuredPlatform.initial (some 0)).step lenientCore
    (.connect authorityConfiguration ⟨true, some 1, .ok, .ok⟩ 1)
  let told := connected.1.step lenientCore (.linkEvent 5 .connected)
  have hheld := h lenientCore (some 0)
    [.connect authorityConfiguration ⟨true, some 1, .ok, .ok⟩ 1, .linkEvent 5 .connected,
      .reset 5 ⟨true, .ok, .ok⟩]
    (told.1, .reset 5 ⟨true, .ok, .ok⟩) (.tail _ (.tail _ (.head _)))
  have hhanded : (told.1.step lenientCore (.reset 5 ⟨true, .ok, .ok⟩)).1.native.map
      NativeConfiguration.certPem = some (some [67, 65, 0]) := by decide
  obtain ⟨native, hnative, hpem⟩ := Option.map_eq_some_iff.mp hhanded
  have hcleared : (told.1.step lenientCore (.reset 5 ⟨true, .ok, .ok⟩)).1.credentials =
      .cleared := by decide
  have hdata := (hheld.present native hnative).certPem _ hpem
  rw [hcleared] at hdata
  cases hdata

end WebSocketClient
