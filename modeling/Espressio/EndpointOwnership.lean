import Espressio.SinkOwnership
import Espressio.WebSocketEndpoint

/-!
# Who holds which binding state

The current state of a live endpoint agrees with the endpoint's sink, no two
endpoints share a state, and every other state the server can still call is
harmless: `Owned`.  Every operation of the server and of the endpoints keeps
this but one: an `unbind` that retires a state with a sink and a connection
while the server is running (`Leaves`).
-/

namespace WebSocketEndpoint

open NetworkBytes Web HttpServer

/-- Endpoint `i` is alive and has these members. -/
def System.Live (σ : System) (i : Nat) (e : Endpoint) : Prop :=
  σ.endpoints[i]? = some e ∧ e.alive = true

/-- **The invariant.**  The current state of a live endpoint agrees with the
endpoint's sink, no two endpoints share one, and every other state the server
holds is harmless. -/
structure Owned (σ : System) : Prop where
  agrees : ∀ i e, σ.Live i e → Uniform (σ.state e.state) e.sink
  inHeap : ∀ i e, σ.Live i e → e.state < σ.states.length
  distinct : ∀ i j e f, σ.Live i e → σ.Live j f → e.state = f.state → i = j
  held : ∀ r, σ.Held r → (∃ i e, σ.Live i e ∧ e.state = r) ∨ Harmless (σ.state r)

/-- Between operations no start is under way, and a stopped server has no
handlers registered. -/
structure Settled (σ : System) : Prop where
  settled : σ.server.starting = false
  stopped : σ.server.server = none → σ.registered = []

/-- Every sink called is the current sink of a live endpoint. -/
def CallsInstalled (σ : System) (es : List Effect) : Prop :=
  ∀ s call, Effect.sinkCall s call ∈ es → ∃ i e, σ.Live i e ∧ e.sink = some s

theorem CallsInstalled.append {σ : System} {es fs : List Effect} (h : CallsInstalled σ es)
    (k : CallsInstalled σ fs) : CallsInstalled σ (es ++ fs) := by
  intro s call hc
  rcases List.mem_append.mp hc with hc | hc
  · exact h s call hc
  · exact k s call hc

theorem CallsInstalled.nil (σ : System) : CallsInstalled σ [] := by
  simp [CallsInstalled]

/-- Two systems that differ in their binding states at most. -/
structure SameShell (σ τ : System) : Prop where
  server : τ.server = σ.server
  registered : τ.registered = σ.registered
  abandoned : τ.abandoned = σ.abandoned
  endpoints : τ.endpoints = σ.endpoints

theorem SameShell.refl (σ : System) : SameShell σ σ := ⟨rfl, rfl, rfl, rfl⟩

theorem Settled.of_shell {σ τ : System} (h : Settled σ) (hshell : SameShell σ τ) : Settled τ :=
  ⟨by rw [hshell.server]; exact h.settled,
    by rw [hshell.server, hshell.registered]; exact h.stopped⟩

theorem SameShell.live {σ τ : System} (h : SameShell σ τ) (i : Nat) (e : Endpoint) :
    τ.Live i e ↔ σ.Live i e := by
  unfold System.Live
  rw [h.endpoints]

theorem SameShell.held {σ τ : System} (h : SameShell σ τ) (r : Nat) : τ.Held r ↔ σ.Held r := by
  unfold System.Held
  rw [h.server]

theorem SameShell.trans {σ τ υ : System} (h : SameShell σ τ) (k : SameShell τ υ) :
    SameShell σ υ :=
  ⟨k.server.trans h.server, k.registered.trans h.registered, k.abandoned.trans h.abandoned,
    k.endpoints.trans h.endpoints⟩

theorem CallsInstalled.of_shell {σ τ : System} {es : List Effect} (h : SameShell σ τ)
    (k : CallsInstalled τ es) : CallsInstalled σ es := by
  intro s call hc
  obtain ⟨i, e, hl, hs⟩ := k s call hc
  exact ⟨i, e, (h.live i e).mp hl, hs⟩

/-- An operation on an endpoint happens when the endpoint is live, and not
otherwise. -/
theorem onEndpoint_eq (σ : System) (i : Nat) (op : Endpoint → System × WebResult × List Effect) :
    (σ.onEndpoint i op = ⟨σ, .success, [], []⟩ ∧ ∀ e, ¬ σ.Live i e) ∨
      ∃ e, σ.Live i e ∧ σ.onEndpoint i op = ⟨(op e).1, (op e).2.1, (op e).2.2, []⟩ := by
  unfold System.onEndpoint
  cases he : σ.endpoints[i]? with
  | none => exact Or.inl ⟨rfl, fun e hl => by simp [System.Live, he] at hl⟩
  | some e =>
      by_cases halive : e.alive = true
      · simp only [halive, if_true]
        exact Or.inr ⟨e, ⟨he, halive⟩, rfl⟩
      · simp only [if_neg halive]
        refine Or.inl ⟨trivial, fun f hl => ?_⟩
        obtain rfl : e = f := by simpa [he] using hl.1
        exact halive hl.2

theorem live_setEndpoint {σ : System} {i j : Nat} {e f : Endpoint}
    (h : (σ.setEndpoint i e).Live j f) :
    (j = i ∧ f = e ∧ e.alive = true) ∨ (j ≠ i ∧ σ.Live j f) := by
  obtain ⟨hf, halive⟩ := h
  simp only [System.setEndpoint, List.getElem?_set] at hf
  by_cases hij : i = j
  · subst hij
    rw [if_pos rfl] at hf
    split at hf
    · obtain rfl : e = f := by simpa using hf
      exact Or.inl ⟨rfl, rfl, halive⟩
    · simp at hf
  · rw [if_neg hij] at hf
    exact Or.inr ⟨fun k => hij k.symm, hf, halive⟩

theorem live_setEndpoint_other {σ : System} {i j : Nat} {e f : Endpoint} (h : σ.Live j f)
    (hij : j ≠ i) : (σ.setEndpoint i e).Live j f := by
  refine ⟨?_, h.2⟩
  simp only [System.setEndpoint, List.getElem?_set]
  rw [if_neg fun k => hij k.symm]
  exact h.1

theorem live_setEndpoint_self {σ : System} {i : Nat} {e e' : Endpoint} (h : σ.Live i e)
    (halive : e'.alive = true) : (σ.setEndpoint i e').Live i e' := by
  have hlen : i < σ.endpoints.length := (List.getElem?_eq_some_iff.mp h.1).1
  exact ⟨by simp [System.setEndpoint, hlen], halive⟩

theorem live_setEndpoint_iff {σ : System} {i : Nat} {e e' : Endpoint} (h : σ.Live i e)
    (halive : e'.alive = true) (j : Nat) (f : Endpoint) :
    (σ.setEndpoint i e').Live j f ↔ (j = i ∧ f = e') ∨ (j ≠ i ∧ σ.Live j f) := by
  constructor
  · intro hf
    exact (live_setEndpoint hf).imp (fun hk => ⟨hk.1, hk.2.1⟩) id
  · intro hf
    rcases hf with ⟨rfl, rfl⟩ | ⟨hj, hf⟩
    · exact live_setEndpoint_self h halive
    · exact live_setEndpoint_other hf hj

theorem Owned.live_inj {σ : System} {i : Nat} {e f : Endpoint} (h : σ.Live i e)
    (k : σ.Live i f) : e = f := by
  simpa using h.1.symm.trans k.1

/-- Changing the server without holding more keeps the invariant. -/
theorem Owned.of_held {σ τ : System} (h : Owned σ) (hstates : τ.states = σ.states)
    (hend : τ.endpoints = σ.endpoints) (hheld : ∀ r, τ.Held r → σ.Held r) : Owned τ := by
  have hlive : ∀ i e, τ.Live i e ↔ σ.Live i e := fun i e => by unfold System.Live; rw [hend]
  have hstate : ∀ r, τ.state r = σ.state r := fun r => by unfold System.state; rw [hstates]
  refine ⟨?_, ?_, ?_, ?_⟩
  · intro i e hl
    rw [hstate]
    exact h.agrees i e ((hlive i e).mp hl)
  · intro i e hl
    rw [hstates]
    exact h.inHeap i e ((hlive i e).mp hl)
  · intro i j e f hi hj
    exact h.distinct i j e f ((hlive i e).mp hi) ((hlive j f).mp hj)
  · intro r hr
    rw [hstate]
    rcases h.held r (hheld r hr) with ⟨i, e, hl, he⟩ | hq
    · exact Or.inl ⟨i, e, (hlive i e).mpr hl, he⟩
    · exact Or.inr hq

theorem sameShell_setState (σ : System) (r : Nat) (b : BindingState) :
    SameShell σ (σ.setState r b) := ⟨rfl, rfl, rfl, rfl⟩

/-- A change of one binding state that keeps its sink pointers together, and
keeps it harmless if it was. -/
theorem Owned.setState {σ : System} (h : Owned σ) {r : Nat} {b : BindingState}
    (hkeep : ∀ i e, σ.Live i e → e.state = r → Uniform b e.sink)
    (hquiet : Harmless (σ.state r) → Harmless b) : Owned (σ.setState r b) := by
  have hshell := sameShell_setState σ r b
  refine ⟨?_, ?_, ?_, ?_⟩
  · intro i e hl
    have hl' := (hshell.live i e).mp hl
    rw [System.state_setState]
    split
    · rename_i hr
      exact hkeep i e hl' hr.1.symm
    · exact h.agrees i e hl'
  · intro i e hl
    simpa [System.setState] using h.inHeap i e ((hshell.live i e).mp hl)
  · intro i j e f hi hj
    exact h.distinct i j e f ((hshell.live i e).mp hi) ((hshell.live j f).mp hj)
  · intro q hq
    rcases h.held q ((hshell.held q).mp hq) with ⟨i, e, hl, he⟩ | hharm
    · exact Or.inl ⟨i, e, (hshell.live i e).mpr hl, he⟩
    · right
      rw [System.state_setState]
      split
      · rename_i hr
        obtain ⟨rfl, -⟩ := hr
        exact hquiet hharm
      · exact hharm

/-- A state that the server holds tells installed sinks only. -/
theorem Owned.sessionClosed_binding {σ : System} (h : Owned σ) {r : Nat} (hr : σ.Held r)
    (socket : Nat) :
    Owned (σ.setState r ((σ.state r).onHttpSessionClosed socket).1) ∧
      CallsInstalled σ ((σ.state r).onHttpSessionClosed socket).2 := by
  refine ⟨h.setState ?_ fun hq => (hq.onHttpSessionClosed socket).1, ?_⟩
  · rintro i e hl rfl
    exact (onHttpSessionClosed_keeps (h.agrees i e hl) socket).1
  · intro s call hc
    rcases h.held r hr with ⟨i, e, hl, rfl⟩ | hq
    · exact ⟨i, e, hl, (onHttpSessionClosed_keeps (h.agrees i e hl) socket).2 s call hc⟩
    · exact absurd ((hq.onHttpSessionClosed socket).2 s call hc) (by simp)

theorem Owned.notifySessionClosed {σ : System} (h : Owned σ) (socket : Nat) {rs : List Nat}
    (hrs : ∀ r ∈ rs, σ.Held r) :
    let out := σ.notifySessionClosed socket rs
    Owned out.1 ∧ SameShell σ out.1 ∧ CallsInstalled σ out.2 := by
  induction rs generalizing σ with
  | nil => exact ⟨h, .refl σ, .nil σ⟩
  | cons r rest ih =>
      obtain ⟨hr, hrest⟩ := List.forall_mem_cons.mp hrs
      obtain ⟨howned, hcalls⟩ := h.sessionClosed_binding hr socket
      have hshell := sameShell_setState σ r ((σ.state r).onHttpSessionClosed socket).1
      obtain ⟨howned', hshell', hcalls'⟩ := ih howned
        (fun q hq => (hshell.held q).mpr (hrest q hq))
      exact ⟨howned', hshell.trans hshell', hcalls.append (hcalls'.of_shell hshell)⟩

theorem Owned.sessionClosed {σ : System} (h : Owned σ) (socket : Nat) :
    Owned (σ.sessionClosed socket).1 ∧ SameShell σ (σ.sessionClosed socket).1 ∧
      CallsInstalled σ (σ.sessionClosed socket).2 :=
  h.notifySessionClosed socket fun _ hr => hr

theorem Owned.closeSessions {σ : System} (h : Owned σ) (sockets : List Nat) :
    Owned (σ.closeSessions sockets).1 ∧ SameShell σ (σ.closeSessions sockets).1 ∧
      CallsInstalled σ (σ.closeSessions sockets).2 := by
  induction sockets generalizing σ with
  | nil => exact ⟨h, .refl σ, .nil σ⟩
  | cons socket rest ih =>
      obtain ⟨howned, hshell, hcalls⟩ := h.sessionClosed socket
      obtain ⟨howned', hshell', hcalls'⟩ := ih howned
      exact ⟨howned', hshell.trans hshell', hcalls.append (hcalls'.of_shell hshell)⟩

/-- A request to a handler whose state the server still holds. -/
theorem Owned.dispatchRequest {σ : System} (h : Owned σ) {r : Nat}
    (hheld : r ∈ σ.contexts → σ.Held r) (n : RequestNatives) (q : Request) :
    Owned (σ.dispatchRequest r n q).1 ∧ SameShell σ (σ.dispatchRequest r n q).1 ∧
      CallsInstalled σ (σ.dispatchRequest r n q).2 := by
  unfold System.dispatchRequest
  split
  · rename_i hr
    refine ⟨h.setState ?_ ?_, sameShell_setState .., ?_⟩
    · rintro i e hl rfl
      exact (handleWebSocketRequest_keeps (h.agrees i e hl) n q).1
    · exact fun hq => absurd hr.2 (by simp [hq.1])
    · intro s call hc
      rcases h.held r (hheld hr.1) with ⟨i, e, hl, rfl⟩ | hq
      · exact ⟨i, e, hl, (handleWebSocketRequest_keeps (h.agrees i e hl) n q).2 s call hc⟩
      · exact absurd hr.2 (by simp [hq.1])
  · exact ⟨h, .refl σ, .nil σ⟩

/-! ## The server's operations -/

/-- An operation of the server that does not touch the endpoints. -/
def KeepsEndpoints (σ τ : System) : Prop := Owned τ ∧ Settled τ ∧ τ.endpoints = σ.endpoints

theorem Owned.setServer {σ : System} (h : Owned σ) (hs : Settled σ) {server : Server}
    (abandoned : List Nat)
    (hbindings : ∀ r ∈ server.webSocketBindings, r ∈ σ.server.webSocketBindings)
    (hstarting : server.starting = σ.server.starting) (hserver : server.server = σ.server.server) :
    KeepsEndpoints σ { σ with server := server, abandoned := abandoned } :=
  ⟨h.of_held rfl rfl hbindings,
    ⟨hstarting.trans hs.settled, fun hnone => hs.stopped (hserver.symm.trans hnone)⟩, rfl⟩

theorem Owned.initializeServer {σ : System} (h : Owned σ) (hs : Settled σ)
    (configuration : HttpServer.Configuration) (dispatcher : Nat) :
    KeepsEndpoints σ
      { σ with
        server := (HttpServer.initializeServer σ.server configuration dispatcher).1 } := by
  refine h.setServer hs _ ?_ ?_ ?_ <;> unfold HttpServer.initializeServer <;>
    split <;> try split
  all_goals simp

theorem Owned.startServer {σ : System} (h : Owned σ) (hs : Settled σ) (n : StartNatives) :
    KeepsEndpoints σ (σ.startServer n).1 := by
  unfold System.startServer beginStart
  by_cases hidle : σ.server.idle = false
  · rw [if_pos hidle]
    exact ⟨h, hs, rfl⟩
  · rw [if_neg hidle]
    by_cases hdispatcher : σ.server.dispatcher = none
    · rw [if_pos hdispatcher]
      exact ⟨h, hs, rfl⟩
    · rw [if_neg hdispatcher]
      have habort : ∀ abandoned, KeepsEndpoints σ
          { σ with
            server := abortStart { purgeInactive σ.info σ.server with starting := true }
            abandoned := abandoned } := fun abandoned =>
        h.setServer hs abandoned (fun r hr => (mem_purgeInactive.mp hr).1)
          (by simp [abortStart, hs.settled]) rfl
      by_cases hstarted : n.started ≠ .ok
      · simp only [if_pos hstarted]
        exact habort σ.abandoned
      · simp only [if_neg hstarted]
        by_cases hregistered : n.registration ≠ .ok
        · simp only [if_pos hregistered]
          exact habort _
        · simp only [if_neg hregistered]
          refine ⟨h.of_held rfl rfl fun r hr => ?_, ⟨rfl, by simp [publishStart]⟩, rfl⟩
          exact (mem_purgeInactive.mp hr).1

theorem Owned.stopServer {σ : System} (h : Owned σ) (hs : Settled σ) (n : StopNatives) :
    KeepsEndpoints σ (σ.stopServer n).1 ∧ CallsInstalled σ (σ.stopServer n).2.2 := by
  unfold System.stopServer
  cases hserver : σ.server.server with
  | none =>
      rw [beginStop_stopped hs.settled hserver]
      exact ⟨⟨h, hs, rfl⟩, .nil σ⟩
  | some handle =>
      rw [beginStop_running hs.settled hserver]
      have hdown : Owned { σ with server := { σ.server with server := none } } :=
        h.of_held rfl rfl fun r hr => hr
      obtain ⟨howned, hshell, hcalls⟩ := hdown.closeSessions n.sessions
      refine ⟨⟨howned.of_held rfl rfl fun r hr => ?_, ⟨?_, fun _ => rfl⟩, hshell.endpoints⟩, hcalls⟩
      · exact (mem_purgeInactive.mp hr).1
      · exact (congrArg Server.starting hshell.server).trans hs.settled

theorem Owned.resetServer {σ : System} (h : Owned σ) (hs : Settled σ) (n : StopNatives) :
    KeepsEndpoints σ (σ.resetServer n).1 ∧ CallsInstalled σ (σ.resetServer n).2 := by
  obtain ⟨⟨howned, hsettled, hend⟩, hcalls⟩ := h.stopServer hs n
  refine ⟨?_, hcalls⟩
  have hfinish : KeepsEndpoints (σ.stopServer n).1 (σ.resetServer n).1 :=
    howned.setServer hsettled _ (fun r hr => mem_of_mem_finishReset hr)
      (finishReset_starting _ _ _) (finishReset_server _ _ _)
  exact ⟨hfinish.1, hfinish.2.1, hfinish.2.2.trans hend⟩

/-! ## The endpoints' operations -/

/-- Adding a state to the heap and giving it to a new or an existing endpoint:
`τ` has one more state than `σ`, fresh and inactive, and endpoint `i` has it
with the sink it was made for. -/
theorem Owned.adopt {σ τ : System} (h : Owned σ) (i : Nat) (sink : Option Nat)
    (hstates : τ.states = σ.states ++ [.make sink])
    (hnew : ∀ e, τ.Live i e → e.sink = sink ∧ e.state = σ.states.length)
    (hother : ∀ j e, j ≠ i → (τ.Live j e ↔ σ.Live j e))
    (hlive : ∃ e, τ.Live i e)
    (hheld : ∀ r, τ.Held r →
      (∃ j e, j ≠ i ∧ σ.Live j e ∧ e.state = r) ∨ Harmless (σ.state r)) : Owned τ := by
  have hstate : ∀ r, τ.state r = if r = σ.states.length then .make sink else σ.state r := by
    intro r
    rw [← System.state_makeState]
    unfold System.state
    rw [hstates]
    rfl
  refine ⟨?_, ?_, ?_, ?_⟩
  · intro j e hl
    rw [hstate]
    by_cases hj : j = i
    · subst hj
      obtain ⟨hs, hst⟩ := hnew e hl
      rw [if_pos hst, hs]
      exact Uniform.make sink
    · have hl' := (hother j e hj).mp hl
      rw [if_neg (Nat.ne_of_lt (h.inHeap j e hl'))]
      exact h.agrees j e hl'
  · intro j e hl
    rw [hstates, List.length_append, List.length_singleton]
    by_cases hj : j = i
    · subst hj
      rw [(hnew e hl).2]
      exact Nat.lt_succ_self _
    · exact Nat.lt_succ_of_lt (h.inHeap j e ((hother j e hj).mp hl))
  · intro j k e f hj hk heq
    by_cases hji : j = i <;> by_cases hki : k = i
    · rw [hji, hki]
    · subst hji
      have := h.inHeap k f ((hother k f hki).mp hk)
      rw [← heq, (hnew e hj).2] at this
      exact absurd this (Nat.lt_irrefl _)
    · subst hki
      have := h.inHeap j e ((hother j e hji).mp hj)
      rw [heq, (hnew f hk).2] at this
      exact absurd this (Nat.lt_irrefl _)
    · exact h.distinct j k e f ((hother j e hji).mp hj) ((hother k f hki).mp hk) heq
  · intro r hr
    rcases hheld r hr with ⟨j, e, hj, hl, he⟩ | hq
    · exact Or.inl ⟨j, e, (hother j e hj).mpr hl, he⟩
    · by_cases hr' : r = σ.states.length
      · obtain ⟨e, he⟩ := hlive
        exact Or.inl ⟨i, e, he, (hnew e he).2.trans hr'.symm⟩
      · right
        rw [hstate, if_neg hr']
        exact hq

theorem live_construct {σ : System} {j : Nat} {e : Endpoint} :
    σ.construct.Live j e ↔
      σ.Live j e ∨ (j = σ.endpoints.length ∧ e = ⟨true, none, σ.states.length⟩) := by
  simp only [System.Live, System.construct, System.makeState, List.getElem?_append]
  by_cases hj : j < σ.endpoints.length
  · simp [hj, Nat.ne_of_lt hj]
  · rw [if_neg hj, List.getElem?_singleton,
      List.getElem?_eq_none (by omega : σ.endpoints.length ≤ j)]
    by_cases hj' : j = σ.endpoints.length
    · simp [hj']
      grind
    · rw [if_neg (by omega)]
      simp [hj']

theorem Owned.construct {σ : System} (h : Owned σ) : Owned σ.construct := by
  have hnot : ∀ e, ¬ σ.Live σ.endpoints.length e := by
    intro e hl
    exact absurd (List.getElem?_eq_some_iff.mp hl.1).1 (Nat.lt_irrefl _)
  refine h.adopt σ.endpoints.length none rfl ?_ ?_ ?_ ?_
  · intro e hl
    rcases live_construct.mp hl with hl | ⟨-, rfl⟩
    · exact absurd hl (hnot e)
    · exact ⟨rfl, rfl⟩
  · intro j e hj
    rw [live_construct]
    simp [hj]
  · exact ⟨_, live_construct.mpr (Or.inr ⟨rfl, rfl⟩)⟩
  · intro r hr
    rcases h.held r hr with ⟨j, e, hl, he⟩ | hq
    · exact Or.inl ⟨j, e, fun hj => hnot e (hj ▸ hl), hl, he⟩
    · exact Or.inr hq

/-- Giving a live endpoint another sink together with its current state, or
ending its life, keeps the invariant as long as the state agrees. -/
theorem Owned.replace {σ : System} {i : Nat} {e e' : Endpoint} {b : BindingState}
    (h : Owned σ) (hl : σ.Live i e) (hstate : e'.state = e.state)
    (hb : e'.alive = true → Uniform b e'.sink) (hdead : e'.alive = false → Harmless b) :
    Owned ((σ.setState e.state b).setEndpoint i e') := by
  have hheap := h.inHeap i e hl
  have hst : ∀ r, ((σ.setState e.state b).setEndpoint i e').state r =
      if e.state = r ∧ e.state < σ.states.length then b else σ.state r :=
    fun r => System.state_setState σ e.state r b
  have hshell := sameShell_setState σ e.state b
  have hcases : ∀ j f, ((σ.setState e.state b).setEndpoint i e').Live j f →
      (j = i ∧ f = e') ∨ (j ≠ i ∧ σ.Live j f ∧ f.state ≠ e.state) := by
    intro j f hf
    rcases live_setEndpoint hf with ⟨hj, rfl, -⟩ | ⟨hj, hf⟩
    · exact Or.inl ⟨hj, rfl⟩
    · have hf' := (hshell.live j f).mp hf
      exact Or.inr ⟨hj, hf', fun heq => hj (h.distinct j i f e hf' hl heq)⟩
  refine ⟨?_, ?_, ?_, ?_⟩
  · intro j f hf
    rw [hst]
    rcases hcases j f hf with ⟨-, rfl⟩ | ⟨-, hf', hne⟩
    · rw [if_pos ⟨hstate.symm, hheap⟩]
      exact hb hf.2
    · rw [if_neg fun k => hne k.1.symm]
      exact h.agrees j f hf'
  · intro j f hf
    change f.state < (σ.states.set e.state b).length
    rw [List.length_set]
    rcases hcases j f hf with ⟨-, rfl⟩ | ⟨-, hf', -⟩
    · exact hstate ▸ hheap
    · exact h.inHeap j f hf'
  · intro j k f g hf hg heq
    rcases hcases j f hf with ⟨hj, rfl⟩ | ⟨hj, hf', hne⟩ <;>
      rcases hcases k g hg with ⟨hk, rfl⟩ | ⟨hk, hg', hne'⟩
    · rw [hj, hk]
    · exact absurd (heq.symm.trans hstate) hne'
    · exact absurd (heq.trans hstate) hne
    · exact h.distinct j k f g hf' hg' heq
  · intro r hr
    rw [hst]
    rcases h.held r ((hshell.held r).mp hr) with ⟨j, f, hf, rfl⟩ | hq
    · by_cases hj : j = i
      · subst hj
        obtain rfl := Owned.live_inj hf hl
        by_cases halive : e'.alive = true
        · exact Or.inl ⟨j, e', live_setEndpoint_self ((hshell.live j f).mpr hf) halive, hstate⟩
        · right
          rw [if_pos ⟨rfl, hheap⟩]
          exact hdead (by simpa using halive)
      · exact Or.inl ⟨j, f, live_setEndpoint_other ((hshell.live j f).mpr hf) hj, rfl⟩
    · by_cases hre : e.state = r
      · by_cases halive : e'.alive = true
        · exact Or.inl ⟨i, e', live_setEndpoint_self ((hshell.live i e).mpr hl) halive,
            hstate.trans hre⟩
        · right
          rw [if_pos ⟨hre, hheap⟩]
          exact hdead (by simpa using halive)
      · right
        rw [if_neg fun k => hre k.1]
        exact hq

theorem Owned.setSink {σ : System} {i : Nat} {e : Endpoint} (h : Owned σ) (hl : σ.Live i e)
    (sink : Option Nat) : Owned (σ.setSink i e sink) := by
  unfold System.setSink
  refine h.replace hl rfl (fun _ => Uniform.setSink _ sink) ?_
  intro hdead
  exact absurd hl.2 (by simpa using hdead)

theorem prepare_keeps (b : BindingState) (configuration : Configuration) :
    (b.prepare configuration).1.sink = b.sink ∧
      (b.prepare configuration).1.connections = b.connections := by
  unfold BindingState.prepare
  split
  · exact ⟨rfl, rfl⟩
  · split <;> exact ⟨rfl, rfl⟩

theorem addWebSocketBinding_keeps (info : Nat → BindingInfo) (s : Server) (r : Nat) :
    (addWebSocketBinding info s r).1.server = s.server ∧
      (addWebSocketBinding info s r).1.starting = s.starting ∧
      ∀ q ∈ (addWebSocketBinding info s r).1.webSocketBindings,
        q ∈ s.webSocketBindings ∨ q = r := by
  unfold addWebSocketBinding addLocked
  split
  · exact ⟨rfl, rfl, fun q hq => Or.inl hq⟩
  · split
    · exact ⟨rfl, rfl, fun q hq => Or.inl hq⟩
    · split
      · exact ⟨rfl, rfl, fun q hq => Or.inl hq⟩
      · exact ⟨rfl, rfl, fun q hq => by simpa using hq⟩

/-- Writing the current state of a live endpoint. -/
theorem Owned.setCurrent {σ : System} {i : Nat} {e : Endpoint} {b : BindingState}
    (h : Owned σ) (hl : σ.Live i e) (hb : Uniform b e.sink) :
    Owned (σ.setState e.state b) ∧ (σ.setState e.state b).Live i e := by
  refine ⟨?_, hl⟩
  have hshell := sameShell_setState σ e.state b
  refine ⟨?_, ?_, ?_, ?_⟩
  · intro j f hf
    rw [System.state_setState]
    split
    · rename_i heq
      obtain rfl := h.distinct j i f e hf hl heq.1.symm
      obtain rfl := Owned.live_inj hf hl
      exact hb
    · exact h.agrees j f hf
  · intro j f hf
    simpa [System.setState] using h.inHeap j f hf
  · exact fun j k f g hf hg => h.distinct j k f g hf hg
  · intro r hr
    rcases h.held r hr with hr | hq
    · exact Or.inl hr
    · by_cases hre : e.state = r
      · exact Or.inl ⟨i, e, hl, hre⟩
      · right
        rw [System.state_setState, if_neg fun k => hre k.1]
        exact hq

theorem Owned.bind {σ : System} {i : Nat} {e : Endpoint} (h : Owned σ) (hs : Settled σ)
    (hl : σ.Live i e) (configuration : Configuration) :
    KeepsEndpoints σ (σ.bind e configuration).1 := by
  unfold System.bind
  by_cases hactive : (σ.state e.state).active = true
  · simp only [hactive, if_true]
    exact ⟨h, hs, rfl⟩
  · simp only [hactive, Bool.false_eq_true, if_false]
    have hkeep := prepare_keeps (σ.state e.state) configuration
    generalize (σ.state e.state).prepare configuration = p at hkeep ⊢
    obtain ⟨b', result⟩ := p
    have hb' : ∀ b, b.sink = b'.sink → b.connections = b'.connections → Uniform b e.sink :=
      fun b k k' => (h.agrees i e hl).congr (k.trans hkeep.1) (k'.trans hkeep.2)
    cases result with
    | failure error native =>
        exact ⟨(h.setCurrent hl (hb' b' rfl rfl)).1, ⟨hs.settled, hs.stopped⟩, rfl⟩
    | success =>
        obtain ⟨h', hl'⟩ := h.setCurrent hl (hb' b'.activate rfl rfl)
        have hs' : Settled (σ.setState e.state b'.activate) := ⟨hs.settled, hs.stopped⟩
        dsimp only
        have hadd := addWebSocketBinding_keeps (σ.setState e.state b'.activate).info
          (σ.setState e.state b'.activate).server e.state
        generalize addWebSocketBinding (σ.setState e.state b'.activate).info
          (σ.setState e.state b'.activate).server e.state = p at hadd ⊢
        obtain ⟨server, result⟩ := p
        obtain ⟨hserver, hstarting, hmem⟩ := hadd
        cases result with
        | failure error native =>
            exact ⟨(h'.setCurrent hl' (hb' b'.deactivate rfl rfl)).1,
              ⟨hs'.settled, hs'.stopped⟩, rfl⟩
        | success =>
            refine ⟨⟨h'.agrees, h'.inHeap, h'.distinct, ?_⟩, ⟨?_, ?_⟩, rfl⟩
            · intro r hr
              rcases hmem r hr with hr | rfl
              · exact h'.held r hr
              · exact Or.inl ⟨i, e, hl', rfl⟩
            · exact hstarting.trans hs'.settled
            · exact fun hnone => hs'.stopped (hserver.symm.trans hnone)

theorem releaseWebSocketBinding_keeps (info : Nat → BindingInfo) (s : Server) (r : Nat) :
    (releaseWebSocketBinding info s r).server = s.server ∧
      (releaseWebSocketBinding info s r).starting = s.starting ∧
      (∀ q ∈ (releaseWebSocketBinding info s r).webSocketBindings, q ∈ s.webSocketBindings) ∧
      (s.idle = true → r ∉ (releaseWebSocketBinding info s r).webSocketBindings) := by
  unfold releaseWebSocketBinding
  split
  · rename_i hidle
    exact ⟨rfl, rfl, fun q hq => hq, fun k => by simp [k] at hidle⟩
  · exact ⟨rfl, rfl, fun q hq => (List.mem_filter.mp hq).1, fun _ => by simp⟩

/-- An `unbind` of a bound endpoint that leaves the running server a state
with a sink and a connection. -/
def Leaves (σ : System) (e : Endpoint) : Prop :=
  (σ.state e.state).active = true ∧ σ.server.server ≠ none ∧ e.sink ≠ none ∧
    (σ.state e.state).connections ≠ []

theorem closeAll_connections {b : BindingState} (h : b.connections = [])
    (natives : Nat → SendNatives) (code : UInt16) (reason : Bytes) :
    (b.closeAll natives code reason).1.connections = [] := by
  simp [BindingState.closeAll, h, closeConnections]

/-- A stopped server lets go of the state. -/
theorem released_unheld {σ : System} (hs : Settled σ) (hstopped : σ.server.server = none)
    (r : Nat) :
    ¬ System.Held { σ with server := releaseWebSocketBinding σ.info σ.server r } r :=
  (releaseWebSocketBinding_keeps σ.info σ.server r).2.2.2
    ((idle_iff _).mpr ⟨hstopped, hs.settled⟩)

/-- A state that is closed and deactivated calls no sink, if it has none or had
no connection. -/
theorem Uniform.retired {b : BindingState} {sink : Option Nat} (h : Uniform b sink)
    (hquiet : sink = none ∨ b.connections = []) (natives : Nat → SendNatives) (code : UInt16)
    (reason : Bytes) : Harmless (b.closeAll natives code reason).1.deactivate := by
  refine ⟨rfl, ?_⟩
  rcases hquiet with rfl | hnone
  · exact Or.inr ((h.closeAll natives code reason).congr rfl rfl)
  · exact Or.inl (closeAll_connections hnone natives code reason)

/-- **Unbinding.**  Unless it leaves a state behind, an `unbind` keeps the
invariant; the endpoint then has an inactive state and the sink it had. -/
theorem Owned.unbind {σ : System} {i : Nat} {e : Endpoint} (h : Owned σ) (hs : Settled σ)
    (hl : σ.Live i e) (hleaves : ¬ Leaves σ e) (natives : Nat → SendNatives) :
    let τ := (σ.unbind i e natives).1
    Owned τ ∧ Settled τ ∧ (∀ j f, j ≠ i → (τ.Live j f ↔ σ.Live j f)) ∧
      ∃ e', τ.Live i e' ∧ e'.sink = e.sink ∧ (τ.state e'.state).active = false := by
  unfold System.unbind
  by_cases hactive : (σ.state e.state).active = false
  · simp only [hactive, if_true]
    obtain ⟨hserver, hstarting, hsub, -⟩ :=
      releaseWebSocketBinding_keeps σ.info σ.server e.state
    obtain ⟨howned, hsettled, -⟩ := h.setServer hs _ hsub hstarting hserver
    exact ⟨howned, hsettled, fun j f _ => Iff.rfl, e, hl, rfl, hactive⟩
  · simp only [if_neg hactive]
    -- The old state is closed, retired and released; then a fresh one is made.
    have hagrees := h.agrees i e hl
    have hclosed := hagrees.closeAll natives 1001 (ascii "endpoint unbound")
    have hquiet : e.sink = none ∨ (σ.state e.state).connections = [] → _ := fun hnone =>
      hagrees.retired hnone natives 1001 (ascii "endpoint unbound")
    generalize (σ.state e.state).closeAll natives 1001 (ascii "endpoint unbound") = p
      at hclosed hquiet ⊢
    obtain ⟨closed, result, effects⟩ := p
    have hdown : Uniform closed.deactivate e.sink := hclosed.congr rfl rfl
    obtain ⟨hretired, hl'⟩ := h.setCurrent hl hdown
    dsimp only
    have hs₁ : Settled (σ.setState e.state closed.deactivate) := ⟨hs.settled, hs.stopped⟩
    have hstate₁ : (σ.setState e.state closed.deactivate).state e.state = closed.deactivate := by
      rw [System.state_setState, if_pos ⟨rfl, h.inHeap i e hl⟩]
    have hserver₁ : (σ.setState e.state closed.deactivate).server.server = σ.server.server := rfl
    have hlive₁ : ∀ j f, (σ.setState e.state closed.deactivate).Live j f ↔ σ.Live j f :=
      fun j f => Iff.rfl
    generalize σ.setState e.state closed.deactivate = σ₁
      at hretired hl' hs₁ hstate₁ hserver₁ hlive₁ ⊢
    have hunheld := released_unheld (r := e.state) hs₁
    obtain ⟨hserver, hstarting, hsub, -⟩ :=
      releaseWebSocketBinding_keeps σ₁.info σ₁.server e.state
    obtain ⟨howned, hsettled, -⟩ := hretired.setServer hs₁ _ hsub hstarting hserver
    generalize hσ₂ : ({ σ₁ with
      server := releaseWebSocketBinding σ₁.info σ₁.server e.state } : System) = σ₂
      at hunheld howned hsettled ⊢
    have hlive₂ : ∀ j f, σ₂.Live j f ↔ σ.Live j f := by
      rw [← hσ₂]
      exact hlive₁
    have hstate₂ : σ₂.state e.state = closed.deactivate := by
      rw [← hσ₂]
      exact hstate₁
    have hl₂ : (σ₂.makeState e.sink).1.Live i e := (hlive₂ i e).mpr hl
    have halive : ({ e with state := σ₂.states.length } : Endpoint).alive = true := hl.2
    have hlive := live_setEndpoint_iff hl₂ halive
    have hself := (hlive i _).mpr (Or.inl ⟨rfl, rfl⟩)
    have hother : ∀ j f, j ≠ i → (((σ₂.makeState e.sink).1.setEndpoint i
        { e with state := σ₂.states.length }).Live j f ↔ σ₂.Live j f) := by
      intro j f hj
      rw [hlive]
      exact ⟨fun hf => (hf.resolve_left fun hi => hj hi.1).2, fun hf => Or.inr ⟨hj, hf⟩⟩
    refine ⟨howned.adopt i e.sink rfl ?_ hother ⟨_, hself⟩ ?_,
      ⟨hsettled.settled, hsettled.stopped⟩,
      fun j f hj => (hother j f hj).trans (hlive₂ j f), _, hself, rfl, ?_⟩
    · intro f hf
      obtain rfl := Owned.live_inj hf hself
      exact ⟨rfl, rfl⟩
    · intro r hr
      rcases howned.held r hr with ⟨j, f, hf, rfl⟩ | hq
      · by_cases hj : j = i
        · subst hj
          obtain rfl := Owned.live_inj hf ((hlive₂ j e).mpr hl)
          right
          rw [hstate₂]
          apply hquiet
          by_contra hloud
          rw [not_or] at hloud
          have hrunning : σ.server.server ≠ none := fun hnone =>
            hunheld (hserver₁.trans hnone) hr
          exact hleaves ⟨by simpa using hactive, hrunning, hloud.1, hloud.2⟩
        · exact Or.inl ⟨j, f, hj, hf, rfl⟩
      · exact Or.inr hq
    · have hfresh := System.state_makeState σ₂ e.sink σ₂.states.length
      rw [if_pos rfl] at hfresh
      exact congrArg BindingState.active hfresh

/-- The destructor is an `unbind` and the end of the endpoint's life. -/
theorem Owned.destroy {σ : System} {i : Nat} {e : Endpoint} (h : Owned σ) (hs : Settled σ)
    (hl : σ.Live i e) (hleaves : ¬ Leaves σ e) (natives : Nat → SendNatives) :
    let τ := (σ.destroy i e natives).1
    Owned τ ∧ Settled τ ∧ ∀ j f, τ.Live j f → j ≠ i ∧ σ.Live j f := by
  obtain ⟨howned, hsettled, hother, e', hl', hsink, hactive⟩ :=
    h.unbind hs hl hleaves natives
  have hcurrent : (((σ.unbind i e natives).1.endpoints.getD i e)).state = e'.state := by
    rw [List.getD_eq_getElem?_getD, hl'.1]
    rfl
  unfold System.destroy
  dsimp only
  rw [hcurrent]
  have hnull : Uniform (((σ.unbind i e natives).1.state e'.state).setSink none) none :=
    Uniform.setSink _ none
  refine ⟨?_, ⟨hsettled.settled, hsettled.stopped⟩, ?_⟩
  · exact howned.replace hl' rfl (fun halive => by cases halive)
      fun _ => ⟨hactive, Or.inr hnull⟩
  · intro j f hf
    rcases live_setEndpoint hf with ⟨-, -, hdead⟩ | ⟨hj, hf⟩
    · cases hdead
    · exact ⟨hj, (hother j f hj).mp hf⟩

end WebSocketEndpoint
