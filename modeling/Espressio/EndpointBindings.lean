import Espressio.BindingTracking
import Espressio.EndpointOwnership
import Espressio.Runs

/-!
# Bound endpoints and the server's binding list

The server holds the binding states that it registers with HTTPD, and an
endpoint its current one.  `Bindings` says how the two belong together: an
active state is in the list and is the current state of a live endpoint; an
inactive state in the list is nobody's current state any more.

Every operation either leaves that as it is (`SameBindings`), binds one state
(`Binds`), gives an endpoint a fresh state (`Renews`) or ends an endpoint
(`Buries`).
-/

namespace WebSocketEndpoint

open NetworkBytes Web HttpServer

/-- `ESP32WebSocketEndpointPlatform::IsBound`. -/
def System.isBound (σ : System) (e : Endpoint) : Bool := (σ.state e.state).active

/-- Endpoint `i` is alive and has the binding state `r`. -/
def System.Current (σ : System) (i r : Nat) : Prop := ∃ e, σ.Live i e ∧ e.state = r

/-- **The invariant.** -/
structure Bindings (σ : System) : Prop where
  inHeap : ∀ i r, σ.Current i r → r < σ.states.length
  distinct : ∀ i j r, σ.Current i r → σ.Current j r → i = j
  active : ∀ r, (σ.info r).active = true → σ.Held r ∧ ∃ i, σ.Current i r
  retired : ∀ r, σ.Held r → (σ.info r).active = false → ∀ i, ¬σ.Current i r
  held : ∀ r, σ.Held r → r < σ.states.length
  nodup : σ.server.webSocketBindings.Nodup
  paths : ∀ r q, r ≠ q → (σ.info r).active = true → (σ.info q).active = true →
    cString (σ.info r).path ≠ cString (σ.info q).path

theorem bindings_fresh (defaults : HttpServer.Configuration) :
    Bindings (System.fresh defaults) where
  inHeap := by
    intro i r hr
    obtain ⟨e, hl, -⟩ := hr
    cases hl.1
  distinct := by
    intro i j r hr
    obtain ⟨e, hl, -⟩ := hr
    cases hl.1
  active := nofun
  retired := nofun
  held := nofun
  nodup := List.nodup_nil
  paths := nofun

/-- The endpoints have the states they had, the same ones are active, and the
server has let go of inactive ones at most. -/
structure SameBindings (σ τ : System) : Prop where
  endpoints : σ.endpoints.length ≤ τ.endpoints.length
  states : τ.states.length = σ.states.length
  current : ∀ i r, τ.Current i r ↔ σ.Current i r
  active : ∀ r, (τ.info r).active = (σ.info r).active
  path : ∀ r, (σ.info r).active = true → (τ.info r).path = (σ.info r).path
  sublist : τ.server.webSocketBindings.Sublist σ.server.webSocketBindings
  kept : ∀ r, σ.Held r → (σ.info r).active = true → τ.Held r

theorem SameBindings.refl (σ : System) : SameBindings σ σ :=
  ⟨Nat.le_refl _, rfl, fun _ _ => Iff.rfl, fun _ => rfl, fun _ _ => rfl, List.Sublist.refl _,
    fun _ h _ => h⟩

theorem SameBindings.trans {σ τ υ : System} (h : SameBindings σ τ) (k : SameBindings τ υ) :
    SameBindings σ υ where
  endpoints := Nat.le_trans h.endpoints k.endpoints
  states := k.states.trans h.states
  current := fun i r => (k.current i r).trans (h.current i r)
  active := fun r => (k.active r).trans (h.active r)
  path := fun r hr => (k.path r ((h.active r).trans hr)).trans (h.path r hr)
  sublist := k.sublist.trans h.sublist
  kept := fun r hheld hr => k.kept r (h.kept r hheld hr) ((h.active r).trans hr)

theorem Bindings.same {σ τ : System} (h : Bindings σ) (hsame : SameBindings σ τ) :
    Bindings τ where
  inHeap := by
    intro i r hr
    rw [hsame.states]
    exact h.inHeap i r ((hsame.current i r).mp hr)
  distinct := fun i j r hi hj =>
    h.distinct i j r ((hsame.current i r).mp hi) ((hsame.current j r).mp hj)
  active := by
    intro r hr
    rw [hsame.active] at hr
    obtain ⟨hheld, i, hi⟩ := h.active r hr
    exact ⟨hsame.kept r hheld hr, i, (hsame.current i r).mpr hi⟩
  retired := by
    intro r hheld hr i hi
    rw [hsame.active] at hr
    exact h.retired r (hsame.sublist.subset hheld) hr i ((hsame.current i r).mp hi)
  held := by
    intro r hr
    rw [hsame.states]
    exact h.held r (hsame.sublist.subset hr)
  nodup := h.nodup.sublist hsame.sublist
  paths := by
    intro r q hne hr hq
    rw [hsame.active] at hr hq
    rw [hsame.path r hr, hsame.path q hq]
    exact h.paths r q hne hr hq

theorem Bindings.current_unheld {σ : System} (h : Bindings σ) {i r : Nat}
    (hcurrent : σ.Current i r) (hr : (σ.info r).active = false) : ¬σ.Held r :=
  fun hheld => h.retired r hheld hr i hcurrent

theorem Bindings.fresh_inactive {σ : System} {r : Nat} (hr : σ.states.length ≤ r) :
    (σ.info r).active = false := by
  unfold System.info System.state
  rw [List.getD_eq_getElem?_getD, List.getElem?_eq_none hr]
  rfl

/-! ## Callbacks and the server's operations -/

theorem info_setState (σ : System) (r q : Nat) (b : BindingState) :
    (σ.setState r b).info q =
      if r = q ∧ r < σ.states.length then ⟨b.active, b.path⟩ else σ.info q := by
  unfold System.info
  rw [System.state_setState]
  split <;> rfl

theorem sameBindings_setState (σ : System) (r : Nat) {b : BindingState}
    (hactive : b.active = (σ.state r).active)
    (hpath : b.active = true → b.path = (σ.state r).path) : SameBindings σ (σ.setState r b) where
  endpoints := Nat.le_refl _
  states := by simp [System.setState]
  current := fun _ _ => Iff.rfl
  active := by
    intro q
    rw [info_setState]
    split
    · rename_i heq
      rw [← heq.1]
      exact hactive
    · rfl
  path := by
    intro q hq
    rw [info_setState]
    split
    · rename_i heq
      rw [← heq.1] at hq ⊢
      exact hpath (hactive.trans hq)
    · rfl
  sublist := List.Sublist.refl _
  kept := fun _ h _ => h

/-- A callback writes back a state with other connections. -/
theorem sameBindings_connections (σ : System) (r : Nat) {b : BindingState}
    (hb : b = { σ.state r with connections := b.connections }) :
    SameBindings σ (σ.setState r b) := by
  refine sameBindings_setState σ r ?_ fun _ => ?_
  · rw [hb]
  · rw [hb]

theorem sameBindings_server (σ : System) {server : Server} (registered abandoned : List Nat)
    (hsublist : server.webSocketBindings.Sublist σ.server.webSocketBindings)
    (hkept : ∀ r, σ.Held r → (σ.info r).active = true → r ∈ server.webSocketBindings) :
    SameBindings σ
      { σ with server := server, registered := registered, abandoned := abandoned } :=
  ⟨Nat.le_refl _, rfl, fun _ _ => Iff.rfl, fun _ => rfl, fun _ _ => rfl, hsublist, hkept⟩

theorem Serves.rest {b b' : BindingState} {socket : Nat} {calls : List SinkCall}
    (h : Serves b b' socket calls) : b' = { b with connections := b'.connections } := by
  cases h with
  | tracked known follows => exact follows.rest
  | made unknown rest sockets messages => exact rest
  | refused unchanged => rw [unchanged]

theorem sameBindings_dispatchRequest (σ : System) (r : Nat) (n : RequestNatives) (q : Request) :
    SameBindings σ (σ.dispatchRequest r n q).1 := by
  unfold System.dispatchRequest
  split
  · exact sameBindings_connections σ r (handleWebSocketRequest_serves (σ.state r) n q).rest
  · exact .refl σ

theorem onHttpSessionClosed_rest (b : BindingState) (socket : Nat) :
    (b.onHttpSessionClosed socket).1 =
      { b with connections := (b.onHttpSessionClosed socket).1.connections } := by
  by_cases h : socket ∈ b.sockets
  · exact (onHttpSessionClosed_tracked h).1
  · rw [onHttpSessionClosed_untracked h]

theorem sameBindings_notifySessionClosed (σ : System) (socket : Nat) (rs : List Nat) :
    SameBindings σ (σ.notifySessionClosed socket rs).1 := by
  induction rs generalizing σ with
  | nil => exact .refl σ
  | cons r rest ih =>
      exact (sameBindings_connections σ r (onHttpSessionClosed_rest _ socket)).trans (ih _)

theorem sameBindings_closeSessions (σ : System) (sockets : List Nat) :
    SameBindings σ (σ.closeSessions sockets).1 := by
  induction sockets generalizing σ with
  | nil => exact .refl σ
  | cons socket rest ih => exact (sameBindings_notifySessionClosed σ socket _).trans (ih _)

theorem sameBindings_purge (σ : System) {server : Server} (registered abandoned : List Nat)
    (hlist : server.webSocketBindings = (purgeInactive σ.info σ.server).webSocketBindings) :
    SameBindings σ
      { σ with server := server, registered := registered, abandoned := abandoned } := by
  refine sameBindings_server σ registered abandoned ?_ fun r hr hactive => ?_
  · rw [hlist]
    exact List.filter_sublist
  · rw [hlist]
    exact mem_purgeInactive.mpr ⟨hr, hactive⟩

theorem sameBindings_startServer (σ : System) (n : StartNatives) :
    SameBindings σ (σ.startServer n).1 := by
  unfold System.startServer beginStart
  by_cases hidle : σ.server.idle = false
  · rw [if_pos hidle]
    exact .refl σ
  · rw [if_neg hidle]
    by_cases hdispatcher : σ.server.dispatcher = none
    · rw [if_pos hdispatcher]
      exact .refl σ
    · rw [if_neg hdispatcher]
      dsimp only
      split
      · exact sameBindings_purge σ _ _ rfl
      · split
        · exact sameBindings_purge σ _ _ rfl
        · exact sameBindings_purge σ _ _ rfl

theorem sameBindings_stopServer (σ : System) (n : StopNatives) :
    SameBindings σ (σ.stopServer n).1 := by
  unfold System.stopServer
  split
  · exact .refl σ
  · rename_i server handle hbegin
    have hlist : server.webSocketBindings = σ.server.webSocketBindings := by
      unfold beginStop at hbegin
      split at hbegin
      · cases hbegin
      · split at hbegin
        · cases hbegin
        · cases hbegin
          rfl
    have hdown : SameBindings σ { σ with server := server } :=
      sameBindings_server σ σ.registered σ.abandoned (hlist ▸ List.Sublist.refl _)
        fun r hr _ => hlist ▸ hr
    have hclosed := hdown.trans
      (sameBindings_closeSessions { σ with server := server } n.sessions)
    exact hclosed.trans (sameBindings_purge _ [] _ rfl)

theorem sameBindings_resetServer (σ : System) (n : StopNatives) :
    SameBindings σ (σ.resetServer n).1 := by
  apply (sameBindings_stopServer σ n).trans
  unfold System.resetServer finishReset
  dsimp only
  split
  · exact .refl _
  · exact sameBindings_purge _ _ _ rfl

theorem sameBindings_initializeServer (σ : System) (configuration : HttpServer.Configuration)
    (dispatcher : Nat) :
    SameBindings σ { σ with
      server := (HttpServer.initializeServer σ.server configuration dispatcher).1 } := by
  obtain ⟨-, -, hlist⟩ := initializeServer_keeps σ.server configuration dispatcher
  exact sameBindings_server σ σ.registered σ.abandoned (hlist ▸ List.Sublist.refl _)
    fun r hr _ => hlist ▸ hr

theorem sameBindings_release (σ : System) {r : Nat} (hr : (σ.info r).active = false) :
    SameBindings σ { σ with server := releaseWebSocketBinding σ.info σ.server r } := by
  unfold releaseWebSocketBinding
  split
  · exact .refl σ
  · apply sameBindings_server σ σ.registered σ.abandoned List.filter_sublist
    intro q hq hactive
    refine List.mem_filter.mpr ⟨hq, ?_⟩
    have hne : q ≠ r := by
      intro heq
      rw [heq, hr] at hactive
      cases hactive
    simp [hne, hactive]

/-! ## The endpoints' operations -/

theorem current_of_live {σ : System} {i : Nat} {e : Endpoint} (hl : σ.Live i e) (r : Nat) :
    σ.Current i r ↔ r = e.state := by
  constructor
  · intro h
    obtain ⟨f, hf, rfl⟩ := h
    rw [Owned.live_inj hf hl]
  · intro h
    exact ⟨e, hl, h.symm⟩

theorem current_setEndpoint {σ : System} {i : Nat} {e d : Endpoint} (hl : σ.Live i e)
    (halive : d.alive = true) (j r : Nat) :
    (σ.setEndpoint i d).Current j r ↔
      (j = i ∧ r = d.state) ∨ (j ≠ i ∧ σ.Current j r) := by
  constructor
  · intro h
    obtain ⟨f, hf, rfl⟩ := h
    rcases (live_setEndpoint_iff hl halive j f).mp hf with ⟨hj, rfl⟩ | ⟨hj, hf⟩
    · exact Or.inl ⟨hj, rfl⟩
    · exact Or.inr ⟨hj, f, hf, rfl⟩
  · intro h
    rcases h with ⟨rfl, rfl⟩ | ⟨hj, f, hf, rfl⟩
    · exact ⟨d, live_setEndpoint_self hl halive, rfl⟩
    · exact ⟨f, live_setEndpoint_other hf hj, rfl⟩

theorem current_setEndpoint_dead {σ : System} {i : Nat} {e' : Endpoint}
    (hdead : e'.alive = false) (j r : Nat) :
    (σ.setEndpoint i e').Current j r ↔ j ≠ i ∧ σ.Current j r := by
  constructor
  · intro h
    obtain ⟨f, hf, rfl⟩ := h
    rcases live_setEndpoint hf with ⟨-, -, halive⟩ | ⟨hj, hf⟩
    · rw [hdead] at halive
      cases halive
    · exact ⟨hj, f, hf, rfl⟩
  · intro h
    obtain ⟨hj, f, hf, rfl⟩ := h
    exact ⟨f, live_setEndpoint_other hf hj, rfl⟩

theorem sameBindings_setSink {σ : System} {i : Nat} {e : Endpoint} (hl : σ.Live i e)
    (sink : Option Nat) : SameBindings σ (σ.setSink i e sink) := by
  have hstate : SameBindings σ (σ.setState e.state ((σ.state e.state).setSink sink)) :=
    sameBindings_setState σ e.state rfl fun _ => rfl
  refine ⟨by simp [System.setSink, System.setEndpoint, System.setState], hstate.states,
    fun j r => ?_, hstate.active, hstate.path, hstate.sublist, hstate.kept⟩
  have hcurrent := current_setEndpoint (d := { e with sink := sink })
    (σ := σ.setState e.state ((σ.state e.state).setSink sink)) hl hl.2 j r
  apply hcurrent.trans
  by_cases hj : j = i
  · subst hj
    have hself := current_of_live hl r
    simp [hself]
  · have hsame : (σ.setState e.state ((σ.state e.state).setSink sink)).Current j r ↔
        σ.Current j r := Iff.rfl
    simp [hj, hsame]

/-- The current state `r` of endpoint `i` becomes active, with a path that no
active state has, and the server takes it up. -/
structure Binds (σ : System) (i r : Nat) (τ : System) : Prop where
  own : σ.Current i r
  inactive : (σ.info r).active = false
  endpoints : σ.endpoints.length ≤ τ.endpoints.length
  states : τ.states.length = σ.states.length
  current : ∀ j q, τ.Current j q ↔ σ.Current j q
  active : ∀ q, (τ.info q).active = true ↔ q = r ∨ (σ.info q).active = true
  path : ∀ q, q ≠ r → (τ.info q).path = (σ.info q).path
  fresh : ∀ q, (σ.info q).active = true → σ.Held q →
    cString (σ.info q).path ≠ cString (τ.info r).path
  bindings : τ.server.webSocketBindings = σ.server.webSocketBindings ++ [r]

theorem Bindings.bind {σ τ : System} {i r : Nat} (h : Bindings σ) (hbind : Binds σ i r τ) :
    Bindings τ := by
  have hunheld := h.current_unheld hbind.own hbind.inactive
  have hheld : ∀ q, τ.Held q ↔ σ.Held q ∨ q = r := by
    intro q
    unfold System.Held
    rw [hbind.bindings]
    simp
  refine ⟨?_, ?_, ?_, ?_, ?_, ?_, ?_⟩
  · intro j q hq
    rw [hbind.states]
    exact h.inHeap j q ((hbind.current j q).mp hq)
  · exact fun j k q hj hk => h.distinct j k q ((hbind.current j q).mp hj)
      ((hbind.current k q).mp hk)
  · intro q hq
    rcases (hbind.active q).mp hq with rfl | hq
    · exact ⟨(hheld q).mpr (Or.inr rfl), i, (hbind.current i q).mpr hbind.own⟩
    · obtain ⟨hq', j, hj⟩ := h.active q hq
      exact ⟨(hheld q).mpr (Or.inl hq'), j, (hbind.current j q).mpr hj⟩
  · intro q hq hinactive j hj
    have hboth := mt (hbind.active q).mpr (by simp [hinactive])
    rcases (hheld q).mp hq with hq | rfl
    · refine h.retired q hq ?_ j ((hbind.current j q).mp hj)
      simpa using fun hactive => hboth (Or.inr hactive)
    · exact hboth (Or.inl rfl)
  · intro q hq
    rw [hbind.states]
    rcases (hheld q).mp hq with hq | rfl
    · exact h.held q hq
    · exact h.inHeap i q hbind.own
  · rw [hbind.bindings]
    refine List.nodup_append.mpr ⟨h.nodup, by simp, fun q hq k hk heq => ?_⟩
    rw [heq, List.mem_singleton.mp hk] at hq
    exact hunheld hq
  · -- The new path differs from every active one, and those from each other.
    intro q k hne hq hk
    rcases (hbind.active q).mp hq with rfl | hq <;> rcases (hbind.active k).mp hk with rfl | hk
    · exact absurd rfl hne
    · rw [hbind.path k hne.symm]
      exact (hbind.fresh k hk (h.active k hk).1).symm
    · rw [hbind.path q hne]
      exact hbind.fresh q hq (h.active q hq).1
    · by_cases hqr : q = r
      · rw [hqr, hbind.inactive] at hq
        cases hq
      · by_cases hkr : k = r
        · rw [hkr, hbind.inactive] at hk
          cases hk
        · rw [hbind.path q hqr, hbind.path k hkr]
          exact h.paths q k hne hq hk

/-- The loop over the bindings held finds no active one with this path. -/
theorem existingBinding_none {info : Nat → BindingInfo} {r : Nat} {held : List Nat}
    (h : existingBinding info r held = none) :
    ∀ q ∈ held, (info q).active = true → cString (info q).path ≠ cString (info r).path := by
  induction held with
  | nil => simp
  | cons k rest ih =>
      unfold existingBinding at h
      split at h
      · rename_i hinactive
        refine List.forall_mem_cons.mpr ⟨fun hactive => ?_, ih h⟩
        rw [hinactive] at hactive
        cases hactive
      · split at h
        · cases h
        · split at h
          · cases h
          · rename_i hpath
            exact List.forall_mem_cons.mpr ⟨fun _ => hpath, ih h⟩

/-- It finds the binding itself only if it is held. -/
theorem existingBinding_success {info : Nat → BindingInfo} {r : Nat} {held : List Nat}
    (h : existingBinding info r held = some .success) : r ∈ held := by
  induction held with
  | nil => cases h
  | cons k rest ih =>
      unfold existingBinding at h
      split at h
      · exact List.mem_cons_of_mem k (ih h)
      · split at h
        · rename_i heq
          rw [heq]
          exact List.mem_cons_self
        · split at h
          · cases h
          · exact List.mem_cons_of_mem k (ih h)

/-- `AddWebSocketBinding` takes up a binding that was not held, with a path
that no active binding held has. -/
theorem addWebSocketBinding_success {info : Nat → BindingInfo} {s server : Server} {r : Nat}
    (h : addWebSocketBinding info s r = (server, .success)) (hr : r ∉ s.webSocketBindings) :
    server = { s with webSocketBindings := s.webSocketBindings ++ [r] } ∧
      ∀ q ∈ s.webSocketBindings, (info q).active = true →
        cString (info q).path ≠ cString (info r).path := by
  unfold addWebSocketBinding addLocked at h
  split at h
  · cases h
  · split at h
    · cases h
    · cases hexisting : existingBinding info r s.webSocketBindings with
      | none =>
          rw [hexisting] at h
          cases h
          exact ⟨rfl, existingBinding_none hexisting⟩
      | some result =>
          rw [hexisting] at h
          cases h
          exact absurd (existingBinding_success hexisting) hr

theorem prepare_cases (b : BindingState) (configuration : Configuration) :
    (∃ error native, b.prepare configuration = (b, .failure error native)) ∨
      b.prepare configuration =
        ({ b with path := configuration.path, protocol := configuration.protocol },
          .success) := by
  unfold BindingState.prepare
  split
  · exact Or.inl ⟨_, _, rfl⟩
  · split
    · exact Or.inl ⟨_, _, rfl⟩
    · exact Or.inr rfl

theorem setState_setState (σ : System) (r : Nat) (b b' : BindingState) :
    (σ.setState r b).setState r b' = σ.setState r b' := by
  simp [System.setState]

/-- **`Bind`** binds the endpoint when it succeeds, and leaves all as it was
when it does not. -/
theorem bind_cases {σ : System} {i : Nat} {e : Endpoint} (h : Bindings σ) (hl : σ.Live i e)
    (configuration : Configuration) :
    ((σ.bind e configuration).2.1 ≠ .success ∧ SameBindings σ (σ.bind e configuration).1) ∨
      ((σ.bind e configuration).2.1 = .success ∧
        Binds σ i e.state (σ.bind e configuration).1) := by
  have hown : σ.Current i e.state := ⟨e, hl, rfl⟩
  have hheap := h.inHeap i e.state hown
  unfold System.bind
  by_cases hactive : (σ.state e.state).active = true
  · simp only [hactive, if_true]
    exact Or.inl ⟨nofun, .refl σ⟩
  · have hinactive : (σ.state e.state).active = false := by simpa using hactive
    simp only [hinactive, Bool.false_eq_true, if_false]
    rcases prepare_cases (σ.state e.state) configuration with ⟨error, native, hprepare⟩ | hprepare
    · rw [hprepare]
      exact Or.inl ⟨nofun, sameBindings_setState σ e.state rfl fun _ => rfl⟩
    · rw [hprepare]
      dsimp only
      generalize hb : ({ σ.state e.state with
        path := configuration.path, protocol := configuration.protocol } : BindingState) = b
      have hunheld : e.state ∉ (σ.setState e.state b.activate).server.webSocketBindings :=
        h.current_unheld hown hinactive
      rcases hadd : addWebSocketBinding (σ.setState e.state b.activate).info
        (σ.setState e.state b.activate).server e.state with ⟨server, result⟩
      cases result with
      | failure error native =>
          refine Or.inl ⟨nofun, ?_⟩
          dsimp only
          rw [setState_setState]
          exact sameBindings_setState σ e.state hinactive.symm nofun
      | success =>
          obtain ⟨rfl, hfresh⟩ := addWebSocketBinding_success hadd hunheld
          have hinfo : ∀ q, (σ.setState e.state b.activate).info q =
              if e.state = q then ⟨true, b.path⟩ else σ.info q := by
            intro q
            rw [info_setState]
            simp only [hheap, and_true]
            rfl
          refine Or.inr ⟨rfl, hown, hinactive, Nat.le_refl _, by simp [System.setState],
            fun _ _ => Iff.rfl, fun q => ?_, fun q hne => ?_, fun q hq hheld => ?_, rfl⟩
          · change ((σ.setState e.state b.activate).info q).active = true ↔ _
            rw [hinfo]
            by_cases hq : q = e.state
            · simp [hq]
            · simp [hq, Ne.symm hq]
          · change ((σ.setState e.state b.activate).info q).path = _
            rw [hinfo, if_neg (Ne.symm hne)]
          · have hne : e.state ≠ q := by
              intro heq
              have hq' : (σ.state q).active = true := hq
              rw [← heq, hinactive] at hq'
              cases hq'
            have hpath := hfresh q hheld
            rw [hinfo q, if_neg hne] at hpath
            exact hpath hq

/-- Endpoint `i` is given a fresh state, and the state it had before, if any,
is active no more. -/
structure Renews (σ : System) (i : Nat) (τ : System) : Prop where
  endpoints : σ.endpoints.length ≤ τ.endpoints.length
  states : τ.states.length = σ.states.length + 1
  current : ∀ j q, τ.Current j q ↔ (j = i ∧ q = σ.states.length) ∨ (j ≠ i ∧ σ.Current j q)
  active : ∀ q, (τ.info q).active = true ↔ (σ.info q).active = true ∧ ¬σ.Current i q
  path : ∀ q, (τ.info q).active = true → (τ.info q).path = (σ.info q).path
  sublist : τ.server.webSocketBindings.Sublist σ.server.webSocketBindings
  kept : ∀ q, σ.Held q → (τ.info q).active = true → τ.Held q

theorem Bindings.renew {σ τ : System} {i : Nat} (h : Bindings σ) (hrenew : Renews σ i τ) :
    Bindings τ := by
  have hfresh : ¬σ.Held σ.states.length := fun hheld => Nat.lt_irrefl _ (h.held _ hheld)
  refine ⟨?_, ?_, ?_, ?_, ?_, h.nodup.sublist hrenew.sublist, ?_⟩
  · intro j q hq
    rw [hrenew.states]
    rcases (hrenew.current j q).mp hq with ⟨-, rfl⟩ | ⟨-, hq⟩
    · exact Nat.lt_succ_self _
    · exact Nat.lt_succ_of_lt (h.inHeap j q hq)
  · intro j k q hj hk
    rcases (hrenew.current j q).mp hj with ⟨rfl, rfl⟩ | ⟨-, hj⟩ <;>
      rcases (hrenew.current k _).mp hk with ⟨rfl, hlen⟩ | ⟨-, hk⟩
    · rfl
    · exact absurd (h.inHeap k _ hk) (Nat.lt_irrefl _)
    · rw [hlen] at hj
      exact absurd (h.inHeap j _ hj) (Nat.lt_irrefl _)
    · exact h.distinct j k q hj hk
  · intro q hq
    obtain ⟨hactive, hother⟩ := (hrenew.active q).mp hq
    obtain ⟨hheld, j, hj⟩ := h.active q hactive
    have hne : j ≠ i := fun heq => hother (heq ▸ hj)
    exact ⟨hrenew.kept q hheld hq, j, (hrenew.current j q).mpr (Or.inr ⟨hne, hj⟩)⟩
  · intro q hheld hinactive j hj
    have hheld' := hrenew.sublist.subset hheld
    rcases (hrenew.current j q).mp hj with ⟨-, rfl⟩ | ⟨hne, hj⟩
    · exact hfresh hheld'
    · refine h.retired q hheld' ?_ j hj
      by_contra hactive
      have hq := (hrenew.active q).mpr
        ⟨by simpa using hactive, fun hi => hne (h.distinct j i q hj hi)⟩
      rw [hinactive] at hq
      cases hq
  · intro q hq
    rw [hrenew.states]
    exact Nat.lt_succ_of_lt (h.held q (hrenew.sublist.subset hq))
  · intro q k hne hq hk
    rw [hrenew.path q hq, hrenew.path k hk]
    exact h.paths q k hne ((hrenew.active q).mp hq).1 ((hrenew.active k).mp hk).1

/-- Endpoint `i`, whose state is not active, is no more. -/
structure Buries (σ : System) (i : Nat) (τ : System) : Prop where
  inactive : ∀ q, σ.Current i q → (σ.info q).active = false
  endpoints : σ.endpoints.length ≤ τ.endpoints.length
  states : τ.states.length = σ.states.length
  current : ∀ j q, τ.Current j q ↔ j ≠ i ∧ σ.Current j q
  info : ∀ q, τ.info q = σ.info q
  bindings : τ.server.webSocketBindings = σ.server.webSocketBindings

theorem Bindings.bury {σ τ : System} {i : Nat} (h : Bindings σ) (hbury : Buries σ i τ) :
    Bindings τ := by
  have hheld : ∀ q, τ.Held q ↔ σ.Held q := by
    intro q
    unfold System.Held
    rw [hbury.bindings]
  refine ⟨?_, ?_, ?_, ?_, ?_, by rw [hbury.bindings]; exact h.nodup, ?_⟩
  · intro j q hq
    rw [hbury.states]
    exact h.inHeap j q ((hbury.current j q).mp hq).2
  · exact fun j k q hj hk => h.distinct j k q ((hbury.current j q).mp hj).2
      ((hbury.current k q).mp hk).2
  · intro q hq
    rw [hbury.info] at hq
    obtain ⟨hq', j, hj⟩ := h.active q hq
    refine ⟨(hheld q).mpr hq', j, (hbury.current j q).mpr ⟨fun heq => ?_, hj⟩⟩
    rw [hbury.inactive q (heq ▸ hj)] at hq
    cases hq
  · intro q hq hinactive j hj
    rw [hbury.info] at hinactive
    exact h.retired q ((hheld q).mp hq) hinactive j ((hbury.current j q).mp hj).2
  · intro q hq
    rw [hbury.states]
    exact h.held q ((hheld q).mp hq)
  · intro q k hne hq hk
    rw [hbury.info] at hq hk ⊢
    rw [hbury.info]
    exact h.paths q k hne hq hk

theorem info_makeState (σ : System) (sink : Option Nat) (q : Nat) :
    ((σ.makeState sink).1.info q).active = (σ.info q).active ∧
      ((σ.info q).active = true → ((σ.makeState sink).1.info q).path = (σ.info q).path) := by
  unfold System.info
  rw [System.state_makeState]
  split
  · rename_i hq
    have hinactive : (σ.state q).active = false :=
      Bindings.fresh_inactive (σ := σ) (Nat.le_of_eq hq.symm)
    rw [hinactive]
    exact ⟨rfl, nofun⟩
  · exact ⟨rfl, fun _ => rfl⟩

theorem renews_construct (σ : System) : Renews σ σ.endpoints.length σ.construct := by
  have hnot : ∀ q, ¬σ.Current σ.endpoints.length q := by
    intro q hq
    obtain ⟨e, hl, -⟩ := hq
    exact absurd (List.getElem?_eq_some_iff.mp hl.1).1 (Nat.lt_irrefl _)
  refine ⟨by simp [System.construct, System.makeState],
    by simp [System.construct, System.makeState], fun j q => ?_, fun q => ?_,
    fun q hq => ?_, List.Sublist.refl _, fun q hq _ => hq⟩
  · constructor
    · intro h
      obtain ⟨e, hl, rfl⟩ := h
      rcases live_construct.mp hl with hl | ⟨rfl, rfl⟩
      · exact Or.inr ⟨fun heq => hnot e.state (heq ▸ ⟨e, hl, rfl⟩), e, hl, rfl⟩
      · exact Or.inl ⟨rfl, rfl⟩
    · intro h
      rcases h with ⟨rfl, rfl⟩ | ⟨-, e, hl, rfl⟩
      · exact ⟨_, live_construct.mpr (Or.inr ⟨rfl, rfl⟩), rfl⟩
      · exact ⟨e, live_construct.mpr (Or.inl hl), rfl⟩
  · have hactive : (σ.construct.info q).active = (σ.info q).active := (info_makeState σ none q).1
    rw [hactive]
    exact ⟨fun hq => ⟨hq, hnot q⟩, fun hq => hq.1⟩
  · have hactive := (info_makeState σ none q).1
    exact (info_makeState σ none q).2 (hactive.symm.trans hq)

/-- The binding state `r` is active no more, and the server may have let go of
it. -/
structure Retires (σ : System) (r : Nat) (τ : System) : Prop where
  endpoints : τ.endpoints = σ.endpoints
  states : τ.states.length = σ.states.length
  active : ∀ q, (τ.info q).active = if r = q then false else (σ.info q).active
  path : ∀ q, (τ.info q).active = true → (τ.info q).path = (σ.info q).path
  sublist : τ.server.webSocketBindings.Sublist σ.server.webSocketBindings
  kept : ∀ q, σ.Held q → (τ.info q).active = true → τ.Held q

/-- A state is deactivated and then released. -/
theorem retires_released (σ : System) {r : Nat} (hheap : r < σ.states.length) (b : BindingState) :
    Retires σ r { σ.setState r b.deactivate with
      server := releaseWebSocketBinding (σ.setState r b.deactivate).info
        (σ.setState r b.deactivate).server r } := by
  have hinfo : ∀ q, (σ.setState r b.deactivate).info q =
      if r = q then ⟨false, b.path⟩ else σ.info q := by
    intro q
    rw [info_setState]
    simp only [hheap, and_true]
    rfl
  have hreleased := sameBindings_release (σ.setState r b.deactivate) (r := r)
    (by rw [hinfo, if_pos rfl])
  refine ⟨rfl, hreleased.states.trans (by simp [System.setState]), fun q => ?_, fun q hq => ?_,
    hreleased.sublist, fun q hheld hq => ?_⟩
  · rw [hreleased.active, hinfo]
    split <;> rfl
  · rw [hreleased.active] at hq
    rw [hreleased.path q hq]
    rw [hinfo] at hq ⊢
    split at hq
    · cases hq
    · rename_i hne
      rw [if_neg hne]
  · rw [hreleased.active] at hq
    exact hreleased.kept q hheld hq

/-- The endpoint whose state was retired is given a fresh one. -/
theorem Retires.renews {σ τ : System} {i : Nat} {e : Endpoint} (h : Retires σ e.state τ)
    (hl : σ.Live i e) (sink : Option Nat) :
    Renews σ i ((τ.makeState sink).1.setEndpoint i { e with state := τ.states.length }) := by
  have hlτ : τ.Live i e := by
    unfold System.Live
    rw [h.endpoints]
    exact hl
  have hmade := info_makeState τ sink
  have hactive : ∀ q, ((τ.makeState sink).1.info q).active =
      if e.state = q then false else (σ.info q).active :=
    fun q => (hmade q).1.trans (h.active q)
  refine ⟨?_, ?_, fun j q => ?_, fun q => ?_, fun q hq => ?_, h.sublist, fun q hheld hq => ?_⟩
  · simp [System.setEndpoint, System.makeState, h.endpoints]
  · simp [System.setEndpoint, System.makeState, h.states]
  · have hcurrent := current_setEndpoint (σ := (τ.makeState sink).1)
      (d := { e with state := τ.states.length }) hlτ hl.2 j q
    have hbefore : (τ.makeState sink).1.Current j q ↔ σ.Current j q := by
      unfold System.Current System.Live
      rw [← h.endpoints]
      rfl
    rw [hbefore] at hcurrent
    rw [← h.states]
    exact hcurrent
  · rw [current_of_live hl q]
    change ((τ.makeState sink).1.info q).active = true ↔ _
    rw [hactive]
    by_cases hq : q = e.state
    · simp [hq]
    · simp [hq, Ne.symm hq]
  · have hq' : (τ.info q).active = true := (hmade q).1.symm.trans hq
    exact ((hmade q).2 hq').trans (h.path q hq')
  · exact h.kept q hheld ((hmade q).1.symm.trans hq)

/-- **`Unbind`** gives a bound endpoint a fresh state, and leaves any other as
it was. -/
theorem unbind_cases {σ : System} {i : Nat} {e : Endpoint} (h : Bindings σ) (hl : σ.Live i e)
    (natives : Nat → SendNatives) :
    (σ.isBound e = false ∧ SameBindings σ (σ.unbind i e natives).1) ∨
      (σ.isBound e = true ∧ Renews σ i (σ.unbind i e natives).1) := by
  unfold System.unbind System.isBound
  by_cases hinactive : (σ.state e.state).active = false
  · simp only [hinactive, if_true]
    exact Or.inl ⟨trivial, sameBindings_release σ hinactive⟩
  · have hactive : (σ.state e.state).active = true := by simpa using hinactive
    have hheap := h.inHeap i e.state ⟨e, hl, rfl⟩
    simp only [if_neg hinactive]
    refine Or.inr ⟨hactive, ?_⟩
    exact (retires_released σ hheap _).renews hl e.sink

/-- **The destructor** unbinds the endpoint and ends it. -/
theorem destroy_cases {σ : System} {i : Nat} {e : Endpoint} (h : Bindings σ) (hl : σ.Live i e)
    (natives : Nat → SendNatives) :
    ∃ τ, ((σ.isBound e = false ∧ SameBindings σ τ) ∨ (σ.isBound e = true ∧ Renews σ i τ)) ∧
      Buries τ i (σ.destroy i e natives).1 := by
  have hcases := unbind_cases h hl natives
  refine ⟨(σ.unbind i e natives).1, hcases, ?_⟩
  have hinactive : ∀ q, (σ.unbind i e natives).1.Current i q →
      ((σ.unbind i e natives).1.info q).active = false := by
    intro q hq
    rcases hcases with ⟨hunbound, hsame⟩ | ⟨-, hrenew⟩
    · obtain rfl := (current_of_live hl q).mp ((hsame.current i q).mp hq)
      exact (hsame.active e.state).trans hunbound
    · rcases (hrenew.current i q).mp hq with ⟨-, rfl⟩ | ⟨hne, -⟩
      · by_contra hactive
        have := ((hrenew.active _).mp (by simpa using hactive)).1
        rw [Bindings.fresh_inactive (Nat.le_refl _)] at this
        cases this
      · exact absurd rfl hne
  unfold System.destroy
  dsimp only
  refine ⟨hinactive, by simp [System.setEndpoint, System.setState],
    by simp [System.setEndpoint, System.setState], fun j q => ?_, fun q => ?_, rfl⟩
  · exact current_setEndpoint_dead rfl j q
  · change ((σ.unbind i e natives).1.setState _ _).info q = _
    rw [info_setState]
    split
    · rename_i heq
      rw [← heq.1]
      rfl
    · rfl

end WebSocketEndpoint
