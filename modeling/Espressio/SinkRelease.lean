import Espressio.Runs
import Espressio.EndpointOwnership

/-!
# Released sinks and retired binding states

Over whole runs the question is which binding states the server can still
call.  The current state of a live endpoint agrees with the endpoint, so
`setSink` reaches all of it.  A retired state is out of reach.  If an
`unbind` retires a state that still has a sink and a connection while the
server is running, the close of that session calls the sink, however long ago
its endpoint let it go: `retired_state_calls_released_sink` is such a run.

A native server that `httpd_stop` fails to stop keeps its handlers, while the
platform lets go of their retired states all the same.  A request to such a handler
reads a state that has been freed.

In runs with no such `unbind` and no such request a released sink stays silent:
`released_sink_silent`.
-/

namespace WebSocketEndpoint

open NetworkBytes Web HttpServer Runs

/-- The event installs sink `s` at endpoint `i`. -/
def Event.Installs (i s : Nat) : Event → Prop
  | .setSink j (some t) => j = i ∧ t = s
  | _ => False

/-- The event lets go of whatever sink endpoint `i` has. -/
def Event.Releases (i : Nat) : Event → Prop
  | .setSink j none => j = i
  | .destroy j _ => j = i
  | _ => False

/-- Every `unbind`, and every destructor, of a live endpoint leaves no state
behind, and no handler is called whose state has been freed. -/
def LeavesNothing (σ : System) : Event → Prop
  | .unbind i _ | .destroy i _ => ∀ e, σ.Live i e → ¬ Leaves σ e
  | .request r _ _ => r ∈ σ.contexts → σ.Held r
  | _ => True

/-- What one event preserves, and what it does to the installed sinks. -/
structure StepSpec (σ : System) (e : Event) : Prop where
  owned : Owned (σ.step e).next
  settled : Settled (σ.step e).next
  installed : ∀ i f s, (σ.step e).next.Live i f → f.sink = some s →
    ((∃ f', σ.Live i f' ∧ f'.sink = some s) ∧ ¬ e.Releases i) ∨ e.Installs i s

theorem StepSpec.of_keepsEndpoints {σ : System} {e : Event}
    (h : KeepsEndpoints σ (σ.step e).next) (hrel : ∀ i, ¬ e.Releases i) : StepSpec σ e := by
  refine ⟨h.1, h.2.1, ?_⟩
  intro i f s hf hs
  refine Or.inl ⟨⟨f, ?_, hs⟩, hrel i⟩
  unfold System.Live at hf ⊢
  rwa [← h.2.2]

/-- An event on an endpoint: nothing happens unless the endpoint is live. -/
theorem onEndpoint_cases (σ : System) (i : Nat) (op : Endpoint → System × WebResult × List Effect) :
    ((σ.onEndpoint i op).next = σ ∧ (σ.onEndpoint i op).callbacks = [] ∧ ∀ e, ¬ σ.Live i e) ∨
      ∃ e, σ.Live i e ∧ (σ.onEndpoint i op).next = (op e).1 ∧
        (σ.onEndpoint i op).callbacks = [] := by
  rcases onEndpoint_eq σ i op with ⟨heq, hdead⟩ | ⟨e, hl, heq⟩
  · exact Or.inl ⟨by rw [heq], by rw [heq], hdead⟩
  · exact Or.inr ⟨e, hl, by rw [heq], by rw [heq]⟩

/-- **Callbacks call installed sinks only**, whatever the event. -/
theorem callbacks_installed {σ : System} (h : Owned σ) (hs : Settled σ) {ev : Event}
    (hleaves : LeavesNothing σ ev) : CallsInstalled σ (σ.step ev).callbacks := by
  have hendpoint : ∀ i op, CallsInstalled σ (σ.onEndpoint i op).callbacks := by
    intro i op
    rcases onEndpoint_cases σ i op with ⟨-, hcalls, -⟩ | ⟨e, -, -, hcalls⟩
    · exact hcalls ▸ .nil σ
    · exact hcalls ▸ .nil σ
  cases ev with
  | construct | initializeServer | startServer => exact .nil σ
  | destroy | setSink | bind | unbind => exact hendpoint _ _
  | stopServer natives => exact (h.stopServer hs natives).2
  | resetServer natives => exact (h.resetServer hs natives).2
  | request r natives q => exact (h.dispatchRequest hleaves natives q).2.2
  | sessionClosed socket => exact (h.sessionClosed socket).2.2
  | sendCompleted socket closeAfterSend =>
      intro s call hc
      cases closeAfterSend <;> simp [System.step, sendCompleted] at hc

/-- **Step lemma.** -/
theorem step_spec {σ : System} {ev : Event} (h : Owned σ) (hs : Settled σ)
    (hleaves : LeavesNothing σ ev) : StepSpec σ ev := by
  -- An event that names an endpoint which is not live changes nothing.
  have hidle : ∀ i op, σ.step ev = σ.onEndpoint i op → (σ.onEndpoint i op).next = σ →
      (∀ e, ¬ σ.Live i e) →
      (∀ j, ev.Releases j → j = i) → StepSpec σ ev := by
    intro i op hstep hnext hdead hrel
    refine ⟨by rw [hstep, hnext]; exact h, by rw [hstep, hnext]; exact hs, ?_⟩
    intro j f s hf hsink
    rw [hstep, hnext] at hf
    exact Or.inl ⟨⟨f, hf, hsink⟩, fun hr => hdead f (hrel j hr ▸ hf)⟩
  cases ev with
  | construct =>
      refine ⟨h.construct, ⟨hs.settled, hs.stopped⟩, ?_⟩
      intro i f s hf hsink
      rcases live_construct.mp hf with hf | ⟨-, rfl⟩
      · exact Or.inl ⟨⟨f, hf, hsink⟩, id⟩
      · cases hsink
  | destroy i natives =>
      rcases onEndpoint_cases σ i fun e => ((σ.destroy i e natives).1, .success,
        (σ.destroy i e natives).2) with ⟨hnext, -, hdead⟩ | ⟨e, hl, hnext, -⟩
      · exact hidle i _ rfl hnext hdead fun j hj => hj.symm
      · obtain ⟨howned, hsettled, hlive⟩ := h.destroy hs hl (hleaves e hl) natives
        refine ⟨hnext ▸ howned, hnext ▸ hsettled, ?_⟩
        intro j f s hf hsink
        have hn : (σ.step (.destroy i natives)).next = (σ.destroy i e natives).1 := hnext
        rw [hn] at hf
        obtain ⟨hj, hf⟩ := hlive j f hf
        exact Or.inl ⟨⟨f, hf, hsink⟩, fun hr => hj hr.symm⟩
  | setSink i sink =>
      rcases onEndpoint_cases σ i fun e => (σ.setSink i e sink, .success, []) with
        ⟨hnext, -, hdead⟩ | ⟨e, hl, hnext, -⟩
      · apply hidle i _ rfl hnext hdead
        intro j hj
        cases sink with
        | none => exact hj.symm
        | some t => cases hj
      · refine ⟨hnext ▸ h.setSink hl sink, hnext ▸ ⟨hs.settled, hs.stopped⟩, ?_⟩
        intro j f s hf hsink
        have hf' : (σ.setSink i e sink).Live j f := by
          have hn : (σ.step (.setSink i sink)).next = σ.setSink i e sink := hnext
          rwa [hn] at hf
        rcases live_setEndpoint hf' with ⟨hj, rfl, -⟩ | ⟨hj, hf'⟩
        · right
          obtain rfl : sink = some s := hsink
          exact ⟨hj.symm, rfl⟩
        · refine Or.inl ⟨⟨f, hf', hsink⟩, fun hr => ?_⟩
          cases sink with
          | none => exact hj hr.symm
          | some t => cases hr
  | bind i configuration =>
      rcases onEndpoint_cases σ i fun e => σ.bind e configuration with
        ⟨hnext, -, hdead⟩ | ⟨e, hl, hnext, -⟩
      · exact hidle i _ rfl hnext hdead fun j hj => hj.elim
      · exact .of_keepsEndpoints (hnext ▸ h.bind hs hl configuration)
          fun j hj => hj
  | unbind i natives =>
      rcases onEndpoint_cases σ i fun e => σ.unbind i e natives with
        ⟨hnext, -, hdead⟩ | ⟨e, hl, hnext, -⟩
      · exact hidle i _ rfl hnext hdead fun j hj => hj.elim
      · obtain ⟨howned, hsettled, hother, e', hl', hsink', -⟩ :=
          h.unbind hs hl (hleaves e hl) natives
        refine ⟨hnext ▸ howned, hnext ▸ hsettled, ?_⟩
        intro j f s hf hsink
        have hf' : (σ.unbind i e natives).1.Live j f := by
          have hn : (σ.step (.unbind i natives)).next = (σ.unbind i e natives).1 := hnext
          rwa [hn] at hf
        by_cases hj : j = i
        · subst hj
          obtain rfl := Owned.live_inj hf' hl'
          exact Or.inl ⟨⟨e, hl, hsink' ▸ hsink⟩, id⟩
        · exact Or.inl ⟨⟨f, (hother j f hj).mp hf', hsink⟩, id⟩
  | initializeServer configuration dispatcher =>
      exact .of_keepsEndpoints (h.initializeServer hs configuration dispatcher) fun _ => id
  | startServer natives => exact .of_keepsEndpoints (h.startServer hs natives) fun _ => id
  | stopServer natives =>
      exact .of_keepsEndpoints (h.stopServer hs natives).1 fun _ => id
  | resetServer natives =>
      exact .of_keepsEndpoints (h.resetServer hs natives).1 fun _ => id
  | request r natives q =>
      obtain ⟨howned, hshell, -⟩ := h.dispatchRequest hleaves natives q
      exact .of_keepsEndpoints ⟨howned, hs.of_shell hshell, hshell.endpoints⟩ fun _ => id
  | sessionClosed socket =>
      obtain ⟨howned, hshell, -⟩ := h.sessionClosed socket
      exact .of_keepsEndpoints ⟨howned, hs.of_shell hshell, hshell.endpoints⟩ fun _ => id
  | sendCompleted socket closeAfterSend => exact .of_keepsEndpoints ⟨h, hs, rfl⟩ fun _ => id

/-- The invariant, and sink `s` only where `p` says. -/
structure InstalledOnly (p : Nat → Prop) (s : Nat) (σ : System) : Prop where
  owned : Owned σ
  settled : Settled σ
  installed : ∀ i f, σ.Live i f → f.sink = some s → p i

/-- Events that install `s` nowhere else keep it where it is. -/
theorem InstalledOnly.run {p : Nat → Prop} {s : Nat} {σ τ : System} {events : List Event}
    (h : InstalledOnly p s σ) (hrun : Run (Guarded LeavesNothing System.Steps) σ events τ)
    (hevents : ∀ e ∈ events, ∀ j, e.Installs j s → p j) : InstalledOnly p s τ := by
  refine (hrun.guard hevents).invariant ?_ h
  intro σ e _ hσ hparts
  obtain ⟨hinstalls, hleaves, rfl⟩ := hparts
  obtain ⟨howned, hsettled, hinstalled⟩ := step_spec hσ.owned hσ.settled hleaves
  refine ⟨howned, hsettled, fun i f hf hs => ?_⟩
  rcases hinstalled i f s hf hs with ⟨⟨f', hf', hs'⟩, -⟩ | hi
  · exact hσ.installed i f' hf' hs'
  · exact hinstalls i hi

theorem installedOnly_fresh (p : Nat → Prop) (s : Nat) (defaults : HttpServer.Configuration) :
    InstalledOnly p s (.fresh defaults) := by
  have hnone : ∀ i e, ¬ (System.fresh defaults).Live i e := by
    intro i e hl
    simp [System.Live, System.fresh] at hl
  refine ⟨⟨fun i e hl => (hnone i e hl).elim, fun i e hl => (hnone i e hl).elim,
    fun i j e f hl => (hnone i e hl).elim, ?_⟩, ⟨rfl, fun _ => rfl⟩,
    fun i f hl => (hnone i f hl).elim⟩
  intro r hr
  cases hr

/-- **Released sinks are silent.**  Once endpoint `i` has let go of its sinks,
no callback of HTTPD calls a sink `s` that only `i` ever had: in every run in
which no `unbind` of a bound endpoint leaves a state with a sink and a
connection to a running server, and no callback reads a freed state. -/
theorem released_sink_silent (defaults : HttpServer.Configuration) (before after : List Event)
    (release last : Event) (σ : System) (i s : Nat)
    (hrun : Run (Guarded LeavesNothing System.Steps) (.fresh defaults)
      (before ++ release :: after) σ)
    (hrel : release.Releases i) (hbefore : ∀ e ∈ before, ∀ j, e.Installs j s → j = i)
    (hafter : ∀ e ∈ after, ∀ j, ¬ e.Installs j s) (hlast : LeavesNothing σ last)
    (call : SinkCall) : Effect.sinkCall s call ∉ (σ.step last).callbacks := by
  intro hcall
  obtain ⟨σ₁, hrun₁, hrun₂⟩ := hrun.split_append
  have h₁ : InstalledOnly (· = i) s σ₁ := (installedOnly_fresh _ s defaults).run hrun₁ hbefore
  -- The release empties the only endpoint that could have `s`.
  cases hrun₂ with
  | cons head tail =>
      obtain ⟨hleaves, rfl⟩ := head
      obtain ⟨howned, hsettled, hinstalled⟩ := step_spec h₁.owned h₁.settled hleaves
      have h₂ : InstalledOnly (fun _ => False) s (σ₁.step release).next := by
        refine ⟨howned, hsettled, fun j f hf hs => ?_⟩
        rcases hinstalled j f s hf hs with ⟨⟨f', hf', hs'⟩, hnot⟩ | hi
        · obtain rfl := h₁.installed j f' hf' hs'
          exact hnot hrel
        · cases release with
          | setSink k sink =>
              cases sink with
              | none => exact hi
              | some t => exact hrel
          | _ => exact hi
      have h₃ := h₂.run tail hafter
      obtain ⟨j, f, hf, hs⟩ := callbacks_installed h₃.owned h₃.settled hlast s call hcall
      exact h₃.installed j f hf hs

/-- An endpoint with sink `0` is bound and the server started. -/
def boundRun : List Event :=
  [.construct, .setSink 0 (some 0), .bind 0 ⟨[47], []⟩,
    .initializeServer ⟨.plain, 80, 4, true⟩ 0, .startServer ⟨.ok, .ok, 0, .ok, 1⟩]

theorem bound_endpoint_silent : Effect.sinkCall 0 (.disconnected 7 1000 []) ∉
    (((boundRun ++ [Event.setSink 0 none]).foldl (fun σ e => (System.step σ e).next)
      (.fresh ⟨.plain, 80, 4, true⟩)).step (.sessionClosed 7)).callbacks := by
  refine released_sink_silent ⟨.plain, 80, 4, true⟩ boundRun [] (.setSink 0 none)
    (.sessionClosed 7) _ 0 0 ?_ rfl (by simp [boundRun, Event.Installs]) (by simp)
    trivial _
  exact Run.cons ⟨trivial, rfl⟩ (Run.cons ⟨trivial, rfl⟩ (Run.cons ⟨trivial, rfl⟩
    (Run.cons ⟨trivial, rfl⟩ (Run.cons ⟨trivial, rfl⟩ (Run.cons ⟨trivial, rfl⟩ (Run.nil _))))))

/-- Then a client connects on socket `7`, and the endpoint is unbound. -/
def leakingRun : List Event :=
  boundRun ++ [.request 0 .allOk ⟨true, some 1, 7, ⟨.text, true, []⟩⟩,
    .unbind 0 fun _ => ⟨true, .succeeded, .ok⟩]

/-- After `setSink none` the close of the session still calls the sink. -/
theorem retired_state_calls_released_sink : ¬ ∀ (defaults : HttpServer.Configuration)
    (before after : List Event) (release last : Event) (σ : System) (i s : Nat),
    Run System.Steps (.fresh defaults) (before ++ release :: after) σ → release.Releases i →
    (∀ e ∈ before, ∀ j, e.Installs j s → j = i) → (∀ e ∈ after, ∀ j, ¬ e.Installs j s) →
    ∀ call, Effect.sinkCall s call ∉ (σ.step last).callbacks := by
  intro h
  have hrun : Run System.Steps _ _ _ := Run.of_foldl (fun σ e => (System.step σ e).next)
    (leakingRun ++ [.setSink 0 none]) (.fresh ⟨.plain, 80, 4, true⟩)
  refine h ⟨.plain, 80, 4, true⟩ leakingRun [] (.setSink 0 none) (.sessionClosed 7) _ 0 0
    hrun rfl ?_ (by simp) (.disconnected 7 1001 (ascii "endpoint unbound")) ?_
  · simp [leakingRun, boundRun, Event.Installs]
  · decide

end WebSocketEndpoint
