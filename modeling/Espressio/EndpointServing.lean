import Espressio.EndpointBindings

/-!
# Sinks, registrations and what the operations keep of the sessions

A session is served by the binding state that HTTPD registered a route with,
and is told to the sink which that state has.  The operations on endpoints and
on the server give a live endpoint's state the endpoint's sink and register
nothing but what the server holds (`Served`).  None of those that closes no
session drops a tracked socket or clears its sink (`KeepsSessions`), and none
lets its binding state go while the platform holds its server.
-/

namespace WebSocketEndpoint

open NetworkBytes Web HttpServer

/-- The server, the endpoints, and the route and sink of every binding state
are as they were. -/
structure SameRoutes (σ τ : System) : Prop where
  shell : SameShell σ τ
  active : ∀ r, (τ.state r).active = (σ.state r).active
  sink : ∀ r, (τ.state r).sink = (σ.state r).sink

theorem SameRoutes.refl (σ : System) : SameRoutes σ σ :=
  ⟨.refl σ, fun _ => rfl, fun _ => rfl⟩

theorem SameRoutes.trans {σ τ υ : System} (h : SameRoutes σ τ) (k : SameRoutes τ υ) :
    SameRoutes σ υ :=
  ⟨h.shell.trans k.shell, fun r => (k.active r).trans (h.active r),
    fun r => (k.sink r).trans (h.sink r)⟩

theorem sameRoutes_connections (σ : System) (r : Nat) {b : BindingState}
    (hb : b = { σ.state r with connections := b.connections }) :
    SameRoutes σ (σ.setState r b) := by
  refine ⟨sameShell_setState σ r b, fun q => ?_, fun q => ?_⟩ <;>
    rw [System.state_setState] <;> split <;> try rfl
  all_goals
    rename_i heq
    rw [← heq.1, hb]

/-- The sinks of the binding states and the server's registrations: a live
endpoint's state has its sink, an active state has one, and HTTPD has
registered nothing but what the server holds. -/
structure Served (σ : System) : Prop where
  settled : Settled σ
  agrees : ∀ i e, σ.Live i e → (σ.state e.state).sink = e.sink
  sunk : ∀ r, (σ.state r).active = true → (σ.state r).sink ≠ none
  registered : ∀ r ∈ σ.registered, σ.Held r

theorem served_fresh (defaults : HttpServer.Configuration) : Served (System.fresh defaults) where
  settled := ⟨rfl, fun _ => rfl⟩
  agrees := nofun
  sunk := nofun
  registered := nofun

theorem Served.routes {σ τ : System} (h : Served σ) (hsame : SameRoutes σ τ) : Served τ where
  settled := h.settled.of_shell hsame.shell
  agrees := by
    intro i e hl
    rw [hsame.sink]
    exact h.agrees i e ((hsame.shell.live i e).mp hl)
  sunk := by
    intro r hr
    rw [hsame.active] at hr
    rw [hsame.sink]
    exact h.sunk r hr
  registered := by
    intro r hr
    rw [hsame.shell.registered] at hr
    unfold System.Held
    rw [hsame.shell.server]
    exact h.registered r hr

theorem state_of_states {σ τ : System} (h : τ.states = σ.states) (r : Nat) :
    τ.state r = σ.state r := by
  unfold System.state
  rw [h]

/-- HTTPD's handlers run while the server does. -/
theorem Served.running {σ : System} (h : Served σ) {r : Nat} (hr : r ∈ σ.registered) :
    σ.server.server ≠ none := by
  intro hstopped
  rw [h.settled.stopped hstopped] at hr
  cases hr

theorem Served.server {σ : System} (h : Served σ) {server : Server} {registered : List Nat}
    (abandoned : List Nat) (hsettled : server.starting = false)
    (hstopped : server.server = none → registered = [])
    (hregistered : ∀ r ∈ registered, r ∈ server.webSocketBindings) :
    Served { σ with server := server, registered := registered, abandoned := abandoned } :=
  ⟨⟨hsettled, hstopped⟩, h.agrees, h.sunk, hregistered⟩

/-- A binding state is written back with the sink it had. -/
theorem Served.setState {σ : System} (h : Served σ) {r : Nat} {b : BindingState}
    (hsink : b.sink = (σ.state r).sink) (hsunk : b.active = true → b.sink ≠ none) :
    Served (σ.setState r b) := by
  have hsame : ∀ q, ((σ.setState r b).state q).sink = (σ.state q).sink := by
    intro q
    rw [System.state_setState]
    split
    · rename_i heq
      rw [← heq.1, hsink]
    · rfl
  refine ⟨⟨h.settled.settled, h.settled.stopped⟩, fun i e hl => ?_, fun q hq => ?_, h.registered⟩
  · rw [hsame]
    exact h.agrees i e hl
  · rw [System.state_setState] at hq ⊢
    split at hq
    · rename_i heq
      rw [if_pos heq]
      exact hsunk hq
    · rename_i hne
      rw [if_neg hne]
      exact h.sunk q hq

theorem beginStart_cases (σ : System) :
    (∃ result, beginStart σ.info σ.server = (σ.server, .error result)) ∨
      (σ.server.server = none ∧
        beginStart σ.info σ.server =
          ({ purgeInactive σ.info σ.server with starting := true },
            .ok ((purgeInactive σ.info σ.server).webSocketBindings,
              nativeConfiguration σ.server.configuration
                (purgeInactive σ.info σ.server).webSocketBindings))) := by
  unfold beginStart
  by_cases hidle : σ.server.idle = false
  · rw [if_pos hidle]
    exact Or.inl ⟨_, rfl⟩
  · rw [if_neg hidle]
    split
    · exact Or.inl ⟨_, rfl⟩
    · exact Or.inr ⟨((idle_iff _).mp (by simpa using hidle)).1, rfl⟩

theorem Served.startServer {σ : System} (h : Served σ) (n : StartNatives) :
    Served (σ.startServer n).1 := by
  unfold System.startServer
  rcases beginStart_cases σ with ⟨result, hbegin⟩ | ⟨hstopped, hbegin⟩
  · rw [hbegin]
    exact h
  · rw [hbegin]
    dsimp only
    have hnone := h.settled.stopped hstopped
    have habort : ∀ abandoned, Served { σ with
        server := abortStart { purgeInactive σ.info σ.server with starting := true }
        abandoned := abandoned } := by
      intro abandoned
      refine h.server abandoned rfl (fun _ => hnone) fun r hr => ?_
      rw [hnone] at hr
      cases hr
    split
    · exact habort σ.abandoned
    · split
      · exact habort _
      · exact h.server σ.abandoned rfl nofun fun r hr => hr

theorem prepare_sink (b : BindingState) (configuration : Configuration) :
    (b.prepare configuration).1.sink = b.sink ∧
      (b.prepare configuration).1.sockets = b.sockets := by
  rcases prepare_cases b configuration with ⟨error, native, heq⟩ | heq <;> rw [heq] <;>
    exact ⟨rfl, rfl⟩

/-- What was tracked is tracked: no socket is dropped, no sink cleared, and no
binding state let go that tracks a socket. -/
structure KeepsSessions (σ τ : System) : Prop where
  sockets : ∀ r, (τ.state r).sockets = (σ.state r).sockets
  sink : ∀ r, (σ.state r).sink ≠ none → (τ.state r).sink ≠ none
  held : ∀ r, (σ.state r).sockets ≠ [] → σ.Held r → τ.Held r

theorem KeepsSessions.refl (σ : System) : KeepsSessions σ σ :=
  ⟨fun _ => rfl, fun _ h => h, fun _ _ h => h⟩

theorem KeepsSessions.trans {σ τ υ : System} (h : KeepsSessions σ τ) (k : KeepsSessions τ υ) :
    KeepsSessions σ υ :=
  ⟨fun r => (k.sockets r).trans (h.sockets r), fun r hr => k.sink r (h.sink r hr),
    fun r hr hheld => k.held r (by rw [h.sockets]; exact hr) (h.held r hr hheld)⟩

theorem keepsSessions_setState (σ : System) {r : Nat} {b : BindingState}
    (hsockets : b.sockets = (σ.state r).sockets)
    (hsink : (σ.state r).sink ≠ none → b.sink ≠ none) : KeepsSessions σ (σ.setState r b) := by
  refine ⟨fun q => ?_, fun q => ?_, fun _ _ hq => hq⟩ <;>
    rw [System.state_setState] <;> split
  · rename_i heq
    rw [← heq.1, hsockets]
  · rfl
  · rename_i heq
    rw [← heq.1]
    exact hsink
  · exact fun h => h

theorem Served.bind {σ : System} (h : Served σ) (hbindings : Bindings σ) {i : Nat} {e : Endpoint}
    (hl : σ.Live i e) (hsink : e.sink ≠ none) (configuration : Configuration) :
    Served (σ.bind e configuration).1 ∧ KeepsSessions σ (σ.bind e configuration).1 := by
  unfold System.bind
  by_cases hactive : (σ.state e.state).active = true
  · simp only [hactive, if_true]
    exact ⟨h, .refl σ⟩
  · simp only [hactive, Bool.false_eq_true, if_false]
    obtain ⟨hkeep, hsockets⟩ := prepare_sink (σ.state e.state) configuration
    generalize (σ.state e.state).prepare configuration = p at hkeep hsockets ⊢
    obtain ⟨b, result⟩ := p
    have hsome : b.sink ≠ none := by
      rw [hkeep, h.agrees i e hl]
      exact hsink
    have hwritten : ∀ b' : BindingState, b'.sink = b.sink → b'.sockets = b.sockets →
        KeepsSessions σ (σ.setState e.state b') := by
      intro b' hs hk
      exact keepsSessions_setState σ (hk.trans hsockets) fun _ => hs ▸ hsome
    cases result with
    | failure error native =>
        exact ⟨h.setState hkeep fun _ => hsome, hwritten b rfl rfl⟩
    | success =>
        dsimp only
        have hactivated : Served (σ.setState e.state b.activate) := h.setState hkeep fun _ => hsome
        have hunheld : e.state ∉ (σ.setState e.state b.activate).server.webSocketBindings :=
          hbindings.current_unheld ⟨e, hl, rfl⟩ (Bool.eq_false_iff.mpr hactive)
        rcases hp : addWebSocketBinding (σ.setState e.state b.activate).info
          (σ.setState e.state b.activate).server e.state with ⟨server, result⟩
        cases result with
        | failure error native =>
            dsimp only
            rw [setState_setState]
            exact ⟨h.setState hkeep nofun, hwritten b.deactivate rfl rfl⟩
        | success =>
            obtain ⟨rfl, -⟩ := addWebSocketBinding_success hp hunheld
            obtain ⟨hsockets', hsink', -⟩ := hwritten b.activate rfl rfl
            refine ⟨hactivated.server _ h.settled.settled h.settled.stopped fun r hr => ?_,
              hsockets', hsink', fun r _ hr => ?_⟩
            · exact List.mem_append_left _ (h.registered r hr)
            · exact List.mem_append_left _ hr

/-- A fresh state for an endpoint that keeps its sink, or a new endpoint. -/
theorem Served.makeState {σ : System} (h : Served σ)
    (hheap : ∀ i e, σ.Live i e → e.state < σ.states.length) (sink : Option Nat) :
    Served (σ.makeState sink).1 := by
  refine ⟨⟨h.settled.settled, h.settled.stopped⟩, fun i e hl => ?_, fun r hr => ?_, h.registered⟩
  · rw [System.state_makeState, if_neg (Nat.ne_of_lt (hheap i e hl))]
    exact h.agrees i e hl
  · rw [System.state_makeState] at hr ⊢
    split at hr
    · cases hr
    · rename_i hne
      rw [if_neg hne]
      exact h.sunk r hr

theorem sockets_makeState (σ : System) (sink : Option Nat) (r : Nat) :
    ((σ.makeState sink).1.state r).sockets = (σ.state r).sockets := by
  rw [System.state_makeState]
  split
  · rename_i heq
    unfold System.state
    rw [List.getD_eq_getElem?_getD, List.getElem?_eq_none (Nat.le_of_eq heq.symm)]
    rfl
  · rfl

theorem Served.construct {σ : System} (h : Served σ) (hbindings : Bindings σ) :
    Served σ.construct := by
  have hmade := h.makeState (fun i e hl => hbindings.inHeap i e.state ⟨e, hl, rfl⟩) none
  refine ⟨⟨hmade.settled.settled, hmade.settled.stopped⟩, fun i e hl => ?_, hmade.sunk,
    hmade.registered⟩
  rcases live_construct.mp hl with hl | ⟨-, rfl⟩
  · exact hmade.agrees i e hl
  · change ((σ.makeState none).1.state σ.states.length).sink = none
    rw [System.state_makeState, if_pos rfl]
    rfl

/-- A live endpoint is given a state with its sink. -/
theorem Served.setEndpoint {σ : System} (h : Served σ) {i : Nat} {e : Endpoint}
    (hsink : (σ.state e.state).sink = e.sink) : Served (σ.setEndpoint i e) := by
  refine ⟨⟨h.settled.settled, h.settled.stopped⟩, fun j f hf => ?_, h.sunk, h.registered⟩
  rcases live_setEndpoint hf with ⟨-, rfl, -⟩ | ⟨-, hf⟩
  · exact hsink
  · exact h.agrees j f hf

theorem released_of_running {info : Nat → BindingInfo} {s : Server} (r : Nat)
    (h : s.server ≠ none) : releaseWebSocketBinding info s r = s := by
  have hidle : s.idle = false := by
    by_contra hidle
    exact h ((idle_iff s).mp (by simpa using hidle)).1
  unfold releaseWebSocketBinding
  rw [if_pos hidle]

theorem Served.release {σ : System} (h : Served σ) (r : Nat) :
    Served { σ with server := releaseWebSocketBinding σ.info σ.server r } := by
  obtain ⟨hserver, hstarting, -⟩ := releaseWebSocketBinding_keeps σ.info σ.server r
  refine h.server σ.abandoned (hstarting.trans h.settled.settled)
    (fun hnone => h.settled.stopped (hserver ▸ hnone)) fun q hq => ?_
  by_cases hrunning : σ.server.server = none
  · rw [h.settled.stopped hrunning] at hq
    cases hq
  · rw [released_of_running r hrunning]
    exact h.registered q hq

/-- A state is released that tracks nothing, and none is let go with it that does. -/
theorem keepsSessions_release (σ : System) {r : Nat}
    (hkept : σ.server.server = none → ∀ q, (σ.state q).sockets ≠ [] → σ.Held q →
      q ≠ r ∧ (σ.state q).active = true) :
    KeepsSessions σ { σ with server := releaseWebSocketBinding σ.info σ.server r } := by
  refine ⟨fun _ => rfl, fun _ h => h, fun q hq hheld => ?_⟩
  unfold System.Held
  by_cases hrunning : σ.server.server = none
  · obtain ⟨hne, hactive⟩ := hkept hrunning q hq hheld
    unfold releaseWebSocketBinding
    split
    · exact hheld
    · exact List.mem_filter.mpr ⟨hheld, by simpa [System.info, hne] using hactive⟩
  · rw [released_of_running r hrunning]
    exact hheld

theorem keepsSessions_makeState (σ : System) (sink : Option Nat) :
    KeepsSessions σ (σ.makeState sink).1 := by
  refine ⟨sockets_makeState σ sink, fun r hr => ?_, fun _ _ h => h⟩
  rw [System.state_makeState]
  split
  · rename_i heq
    unfold System.state at hr
    rw [List.getD_eq_getElem?_getD, List.getElem?_eq_none (Nat.le_of_eq heq.symm)] at hr
    exact absurd rfl hr
  · exact hr

/-- **`Unbind`** retires a state with the sockets that it tracks.  While the
platform holds no server it lets the state go, and inactive ones with it. -/
theorem Served.unbind {σ : System} (h : Served σ) (hbindings : Bindings σ) (i : Nat)
    {e : Endpoint}
    (hkeeps : σ.server.server = none → ∀ q, (σ.state q).sockets ≠ [] → σ.Held q →
      q ≠ e.state ∧ (σ.state q).active = true) (natives : Nat → SendNatives) :
    Served (σ.unbind i e natives).1 ∧ KeepsSessions σ (σ.unbind i e natives).1 ∧
      told (σ.unbind i e natives).2.2 = [] := by
  unfold System.unbind
  by_cases hinactive : (σ.state e.state).active = false
  · simp only [hinactive, if_true]
    exact ⟨h.release e.state, keepsSessions_release σ hkeeps, rfl⟩
  · simp only [if_neg hinactive]
    obtain ⟨hrest, hsockets, htold⟩ := closeAll_keeps (σ.state e.state) natives 1001
      (ascii "endpoint unbound")
    generalize (σ.state e.state).closeAll natives 1001 (ascii "endpoint unbound") = p
      at hrest hsockets htold ⊢
    obtain ⟨closed, result, effects⟩ := p
    have hsink : closed.sink = (σ.state e.state).sink := by
      change (closed, result, effects).1.sink = _
      rw [hrest]
    have hretired : Served (σ.setState e.state closed.deactivate) := h.setState hsink nofun
    have hkept := keepsSessions_setState σ (b := closed.deactivate) hsockets
      fun hne => hsink ▸ hne
    have hheaps : ∀ j f, (σ.setState e.state closed.deactivate).Live j f →
        f.state < (σ.setState e.state closed.deactivate).states.length := by
      intro j f hf
      simpa [System.setState] using hbindings.inHeap j f.state ⟨f, hf, rfl⟩
    have hkeeps₁ : (σ.setState e.state closed.deactivate).server.server = none → ∀ q,
        ((σ.setState e.state closed.deactivate).state q).sockets ≠ [] →
        (σ.setState e.state closed.deactivate).Held q →
          q ≠ e.state ∧ ((σ.setState e.state closed.deactivate).state q).active = true := by
      intro hstopped q hq hheld
      rw [hkept.sockets] at hq
      obtain ⟨hne, hactive⟩ := hkeeps hstopped q hq hheld
      rw [System.state_setState, if_neg fun heq => hne heq.1.symm]
      exact ⟨hne, hactive⟩
    dsimp only
    generalize σ.setState e.state closed.deactivate = σ₁ at hretired hkept hheaps hkeeps₁ ⊢
    have hmade := (hretired.release e.state).makeState hheaps e.sink
    have hkept' := (hkept.trans (keepsSessions_release σ₁ hkeeps₁)).trans
      (keepsSessions_makeState _ e.sink)
    refine ⟨hmade.setEndpoint ?_, ⟨hkept'.sockets, hkept'.sink, hkept'.held⟩, ?_⟩
    · rw [System.state_makeState]
      exact congrArg BindingState.sink (if_pos rfl)
    · rw [told_append, htold]
      exact told_activity e.sink _

theorem Served.setSink {σ : System} (h : Served σ) (hbindings : Bindings σ) {i : Nat}
    {e : Endpoint} (hl : σ.Live i e) {sink : Option Nat} (hsink : sink ≠ none) :
    Served (σ.setSink i e sink) ∧ KeepsSessions σ (σ.setSink i e sink) := by
  have hheap := hbindings.inHeap i e.state ⟨e, hl, rfl⟩
  have hkept := keepsSessions_setState σ (b := (σ.state e.state).setSink sink)
    (sockets_setSink (σ.state e.state) sink) fun _ => hsink
  refine ⟨⟨⟨h.settled.settled, h.settled.stopped⟩, fun j f hf => ?_, fun q hq => ?_,
    h.registered⟩, hkept.sockets, hkept.sink, hkept.held⟩
  · change ((σ.setState e.state ((σ.state e.state).setSink sink)).state f.state).sink = f.sink
    rw [System.state_setState]
    rcases live_setEndpoint hf with ⟨-, rfl, -⟩ | ⟨hj, hf⟩
    · rw [if_pos ⟨rfl, hheap⟩]
      rfl
    · have hne : e.state ≠ f.state := fun heq =>
        hj (hbindings.distinct j i f.state ⟨f, hf, rfl⟩ ⟨e, hl, heq⟩)
      rw [if_neg fun heq => hne heq.1]
      exact h.agrees j f hf
  · have hq' : ((σ.setState e.state ((σ.state e.state).setSink sink)).state q).active = true := hq
    change ((σ.setState e.state ((σ.state e.state).setSink sink)).state q).sink ≠ none
    rw [System.state_setState] at hq' ⊢
    split
    · exact hsink
    · rename_i hne
      rw [if_neg hne] at hq'
      exact h.sunk q hq'

/-! ## Starting and stopping -/

theorem told_bind (σ : System) (e : Endpoint) (configuration : Configuration) :
    told (σ.bind e configuration).2.2 = [] := by
  unfold System.bind
  dsimp only
  split
  · rfl
  · split
    · simp [Endpoint.notifyActivity]
    · split <;> simp [Endpoint.notifyActivity]

/-- A purge lets go of inactive states. -/
theorem keepsSessions_purge (σ : System) {server : Server} (registered abandoned : List Nat)
    (hlist : server.webSocketBindings = (purgeInactive σ.info σ.server).webSocketBindings)
    (hkept : ∀ q, (σ.state q).sockets ≠ [] → σ.Held q → (σ.state q).active = true) :
    KeepsSessions σ
      { σ with server := server, registered := registered, abandoned := abandoned } := by
  refine ⟨fun _ => rfl, fun _ h => h, fun q hq hheld => ?_⟩
  unfold System.Held
  rw [hlist]
  exact mem_purgeInactive.mpr ⟨hheld, hkept q hq hheld⟩

theorem keepsSessions_startServer (σ : System) (n : StartNatives)
    (hkept : σ.server.server = none → ∀ q, (σ.state q).sockets ≠ [] → σ.Held q →
      (σ.state q).active = true) : KeepsSessions σ (σ.startServer n).1 := by
  unfold System.startServer
  rcases beginStart_cases σ with ⟨result, hbegin⟩ | ⟨hnone, hbegin⟩
  · rw [hbegin]
    exact .refl σ
  · rw [hbegin]
    dsimp only
    split
    · exact keepsSessions_purge σ σ.registered _ rfl (hkept hnone)
    · split
      · exact keepsSessions_purge σ σ.registered _ rfl (hkept hnone)
      · exact keepsSessions_purge σ _ _ rfl (hkept hnone)

/-- A server that is not running has nothing to stop. -/
theorem stopServer_stopped {σ : System} (h : Settled σ) (hserver : σ.server.server = none)
    (n : StopNatives) : σ.stopServer n = (σ, .success, []) := by
  unfold System.stopServer
  rw [beginStop_stopped h.settled hserver]

/-- The server while `httpd_stop` runs. -/
def System.halted (σ : System) : System :=
  { σ with server := { σ.server with server := none } }

theorem stopServer_running {σ : System} (h : Settled σ) {handle : Nat}
    (hserver : σ.server.server = some handle) (n : StopNatives) :
    σ.stopServer n =
      ({ (σ.halted.closeSessions n.sessions).1 with
          server := purgeInactive (σ.halted.closeSessions n.sessions).1.info
            (σ.halted.closeSessions n.sessions).1.server
          registered := []
          abandoned := (σ.halted.closeSessions n.sessions).1.abandoned ++
            leftRunning n.stopped (σ.halted.closeSessions n.sessions).1.registered },
        httpResult n.stopped, (σ.halted.closeSessions n.sessions).2) := by
  unfold System.stopServer
  rw [beginStop_running h.settled hserver]
  rfl

end WebSocketEndpoint
