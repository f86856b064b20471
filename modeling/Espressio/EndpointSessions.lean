import Espressio.EndpointLedger
import Espressio.EndpointServing

/-!
# Connected, messages, Disconnected: one WebSocket session

HTTPD runs sessions, each on one socket and with one handler, and uses a
socket again after it has closed it.  The log of a run has what the sinks
were told of the sessions, and where HTTPD closed one.  Read for one socket,
it is always in order: Connected at most once in a session and before its
messages; Disconnected once after Connected, in the callback that closes the
session, and not otherwise.

A session may outlive the binding it was made for.  Its binding state is
retired then, and the platform keeps it until its server is stopped.  It does not
ask whether `httpd_stop` has succeeded, though, and a session that is still open
then is never told to be gone: `unclosed_session_forgotten` is such a run.  In runs
in which no state is let go that tracks a session all is in order:
`sessions_in_order`.
-/

namespace WebSocketEndpoint

open NetworkBytes Web HttpServer

inductive Entry
  | told (call : SinkCall)
  | closing (socket : Nat)
  deriving DecidableEq, Repr

/-- The session an entry is about. -/
def Entry.socket : Entry → Option Nat
  | .told (.activity _) => none
  | .told (.connected id) => some id
  | .told (.text id _) => some id
  | .told (.binary id _) => some id
  | .told (.disconnected id _ _) => some id
  | .closing socket => some socket

/-- Where the entries about a socket have left its session: the sink knows of
none, or of one that is connected, or of one that HTTPD is closing. -/
inductive SessionPhase
  | quiet
  | announced
  | owed
  deriving DecidableEq, Repr

/-- The next entry about a socket; `none` where it is out of order. -/
def advance : Option SessionPhase → Entry → Option SessionPhase
  | some .quiet, .told (.connected _) => some .announced
  | some .quiet, .closing _ => some .quiet
  | some .announced, .told (.text _ _) => some .announced
  | some .announced, .told (.binary _ _) => some .announced
  | some .announced, .closing _ => some .owed
  | some .owed, .told (.disconnected _ _ _) => some .quiet
  | _, _ => none

def phase (socket : Nat) (log : List Entry) : Option SessionPhase :=
  (log.filter fun entry => entry.socket = some socket).foldl advance (some .quiet)

/-- The endpoints and their server, the binding that HTTPD serves each open
session with, and the log. -/
structure Hosting where
  system : System
  session : Nat → Option Nat
  log : List Entry

def Hosting.fresh (defaults : HttpServer.Configuration) : Hosting :=
  ⟨.fresh defaults, fun _ => none, []⟩

/-- The sessions that HTTPD closes in an event. -/
def System.closes (σ : System) : Event → List Nat
  | .sessionClosed socket => [socket]
  | .stopServer natives => if σ.server.server = none then [] else natives.sessions
  | .resetServer natives => if σ.server.server = none then [] else natives.sessions
  | _ => []

def Hosting.step (σ : Hosting) (e : Event) : Hosting where
  system := (σ.system.step e).next
  session := fun socket => match e with
    | .request r _ q => if q.socket = socket then some r else σ.session socket
    | _ => if socket ∈ σ.system.closes e then none else σ.session socket
  log := σ.log ++ (σ.system.closes e).map .closing ++
    (told ((σ.system.step e).effects ++ (σ.system.step e).callbacks)).map .told

/-- What HTTPD and the application promise.  A request goes to a handler of a
native server that runs, and every request of a session to the same one; a session
is closed once.  Sinks are not null, and an endpoint has one before it is bound.
Endpoints are not destroyed. -/
def Hosts (σ : Hosting) : Event → Prop
  | .request r _ q => r ∈ σ.system.contexts ∧
      ∀ socket : Nat, q.socket = socket →
        σ.session socket = none ∨ σ.session socket = some r
  | .stopServer natives => natives.sessions.Nodup
  | .resetServer natives => natives.sessions.Nodup
  | .setSink _ sink => sink ≠ none
  | .bind i _ => ∀ e, σ.system.Live i e → e.sink ≠ none
  | .destroy _ _ => False
  | _ => True

/-- A retired state that the server holds tracks a session besides these. -/
def System.Forgets (σ : System) (sessions : List Nat) : Prop :=
  ∃ r, σ.Held r ∧ (σ.state r).active = false ∧ ∃ socket ∈ (σ.state r).sockets, socket ∉ sessions

instance (σ : System) (sessions : List Nat) : Decidable (σ.Forgets sessions) :=
  inferInstanceAs (Decidable (∃ r, r ∈ σ.server.webSocketBindings ∧ (σ.state r).active = false ∧
    ∃ socket, socket ∈ (σ.state r).sockets ∧ socket ∉ sessions))

/-- The event lets go of a binding state that tracks a session which HTTPD does
not close in it, or calls a handler whose state has been let go. -/
def LetsGo (σ : System) : Event → Prop
  | .unbind i _ => σ.server.server = none ∧
      (σ.Forgets [] ∨ ∃ e, σ.Live i e ∧ σ.Held e.state ∧ (σ.state e.state).sockets ≠ [])
  | .startServer _ => σ.server.server = none ∧ σ.Forgets []
  | .stopServer n => σ.server.server ≠ none ∧ σ.Forgets n.sessions
  | .resetServer n => σ.Forgets (σ.closes (.resetServer n))
  | .request r _ _ => ¬σ.Held r
  | _ => False

/-- **Sessions in order.** -/
structure SessionsInOrder (σ : Hosting) : Prop where
  order : ∀ socket, phase socket σ.log = some .quiet ∨ phase socket σ.log = some .announced
  unique : ∀ r, (σ.system.state r).sockets.Nodup

theorem phase_append (socket : Nat) (log more : List Entry) :
    phase socket (log ++ more) =
      (more.filter fun entry => entry.socket = some socket).foldl advance (phase socket log) := by
  unfold phase
  rw [List.filter_append, List.foldl_append]

/-! ## Closing sessions -/

/-- Which binding states track which sockets: every socket at most once, in a
state that the server holds and that has a sink. -/
structure Tracked (σ : System) : Prop where
  unique : ∀ r, (σ.state r).sockets.Nodup
  single : ∀ r q socket, socket ∈ (σ.state r).sockets → socket ∈ (σ.state q).sockets → r = q
  held : ∀ r, ∀ socket ∈ (σ.state r).sockets, σ.Held r ∧ (σ.state r).sink ≠ none

theorem setState_self (σ : System) (r : Nat) : σ.setState r (σ.state r) = σ := by
  unfold System.setState System.state
  rw [List.getD_eq_getElem?_getD]
  cases hr : σ.states[r]? with
  | none =>
      rw [List.set_eq_of_length_le (List.getElem?_eq_none_iff.mp hr)]
  | some b =>
      obtain ⟨hlt, rfl⟩ := List.getElem?_eq_some_iff.mp hr
      simp

theorem notifySessionClosed_untracked {σ : System} {socket : Nat} {rs : List Nat}
    (h : ∀ r ∈ rs, socket ∉ (σ.state r).sockets) :
    σ.notifySessionClosed socket rs = (σ, []) := by
  induction rs with
  | nil => rfl
  | cons r rest ih =>
      obtain ⟨hr, hrest⟩ := List.forall_mem_cons.mp h
      unfold System.notifySessionClosed
      simp only [onHttpSessionClosed_untracked hr, setState_self, ih hrest, List.append_nil]

theorem notifySessionClosed_tracked {σ : System} {socket r : Nat} {rs : List Nat}
    (hnodup : rs.Nodup) (hr : r ∈ rs) (hother : ∀ q ∈ rs, q ≠ r → socket ∉ (σ.state q).sockets) :
    σ.notifySessionClosed socket rs =
      (σ.setState r ((σ.state r).onHttpSessionClosed socket).1,
        ((σ.state r).onHttpSessionClosed socket).2) := by
  induction rs with
  | nil => cases hr
  | cons q rest ih =>
      obtain ⟨hq, hrest⟩ := List.nodup_cons.mp hnodup
      unfold System.notifySessionClosed
      by_cases hqr : q = r
      · subst hqr
        have huntracked : ∀ k ∈ rest, socket ∉
            ((σ.setState q ((σ.state q).onHttpSessionClosed socket).1).state k).sockets := by
          intro k hk
          have hne : q ≠ k := fun heq => hq (heq ▸ hk)
          rw [System.state_setState, if_neg fun heq => hne heq.1]
          exact hother k (List.mem_cons_of_mem q hk) hne.symm
        simp only [notifySessionClosed_untracked huntracked, List.append_nil]
      · have hqs := hother q List.mem_cons_self hqr
        have hmem : r ∈ rest := (List.mem_cons.mp hr).resolve_left (Ne.symm hqr)
        simp only [onHttpSessionClosed_untracked hqs, setState_self, List.nil_append]
        exact ih hrest hmem fun k hk => hother k (List.mem_cons_of_mem q hk)

/-- What closing some sessions comes to: their sockets are tracked no more,
and the sink is told once of each that was. -/
structure Closes (σ τ : System) (sessions : List Nat) (calls : List SinkCall) : Prop where
  routes : SameRoutes σ τ
  sockets : ∀ r socket, socket ∈ (τ.state r).sockets ↔
    socket ∈ (σ.state r).sockets ∧ socket ∉ sessions
  quiet : ∀ socket, (socket ∉ sessions ∨ ∀ r, socket ∉ (σ.state r).sockets) →
    calls.filter (fun call => (Entry.told call).socket = some socket) = []
  told : ∀ socket ∈ sessions, (∃ r, socket ∈ (σ.state r).sockets) →
    ∃ code reason, calls.filter (fun call => (Entry.told call).socket = some socket) =
      [.disconnected socket code reason]

/-- The one binding state that tracks a socket drops it. -/
theorem Tracked.sockets_erase {σ : System} (h : Tracked σ) {r socket : Nat}
    (hr : socket ∈ (σ.state r).sockets) {b : BindingState}
    (hsockets : b.sockets = (σ.state r).sockets.erase socket) (q t : Nat) :
    t ∈ ((σ.setState r b).state q).sockets ↔ t ∈ (σ.state q).sockets ∧ t ≠ socket := by
  rw [System.state_setState]
  split
  · rename_i heq
    obtain ⟨rfl, -⟩ := heq
    rw [hsockets, (h.unique r).mem_erase_iff]
    exact and_comm
  · rename_i hne
    refine ⟨fun ht => ⟨ht, fun heq => ?_⟩, fun ht => ht.1⟩
    subst heq
    obtain rfl := h.single q r t ht hr
    refine hne ⟨rfl, ?_⟩
    by_contra hlen
    unfold System.state at hr
    rw [List.getD_eq_getElem?_getD, List.getElem?_eq_none (Nat.le_of_not_lt hlen)] at hr
    cases hr

theorem Tracked.sessionClosed {σ : System} (h : Tracked σ)
    (hnodup : σ.server.webSocketBindings.Nodup) (socket : Nat) :
    Tracked (σ.sessionClosed socket).1 ∧
      Closes σ (σ.sessionClosed socket).1 [socket] (told (σ.sessionClosed socket).2) := by
  unfold System.sessionClosed
  by_cases htracked : ∃ r, socket ∈ (σ.state r).sockets
  · obtain ⟨r, hr⟩ := htracked
    obtain ⟨hheld, hsink⟩ := h.held r socket hr
    have hother : ∀ q ∈ σ.server.webSocketBindings, q ≠ r → socket ∉ (σ.state q).sockets :=
      fun q _ hne hq => hne (h.single q r socket hq hr)
    rw [notifySessionClosed_tracked hnodup hheld hother]
    obtain ⟨hrest, hsockets, code, reason, htold⟩ := onHttpSessionClosed_tracked hr
    rw [if_pos (by simpa [Option.isSome_iff_ne_none] using hsink)] at htold
    generalize (σ.state r).onHttpSessionClosed socket = p at hrest hsockets htold ⊢
    obtain ⟨b, effects⟩ := p
    have hroutes := sameRoutes_connections σ r hrest
    have hmem := h.sockets_erase hr hsockets
    refine ⟨⟨fun q => ?_, ?_, fun q t ht => ?_⟩, hroutes, ?_, ?_, ?_⟩
    · rw [System.state_setState]
      split
      · rw [hsockets]
        exact (h.unique r).erase socket
      · exact h.unique q
    · exact fun q k t hq hk => h.single q k t ((hmem q t).mp hq).1 ((hmem k t).mp hk).1
    · rw [hroutes.sink]
      exact h.held q t ((hmem q t).mp ht).1
    · intro q t
      rw [hmem, List.mem_singleton]
    · intro t ht
      have hne : socket ≠ t := by
        intro heq
        subst heq
        rcases ht with ht | ht
        · exact ht (List.mem_singleton_self _)
        · exact ht r hr
      simp [htold, Entry.socket, hne]
    · intro t ht _
      obtain rfl := List.mem_singleton.mp ht
      exact ⟨code, reason, by simp [htold, Entry.socket]⟩
  · have hnone : ∀ r, socket ∉ (σ.state r).sockets := fun r hr => htracked ⟨r, hr⟩
    rw [notifySessionClosed_untracked fun r _ => hnone r]
    refine ⟨h, .refl σ, fun r t => ?_, fun _ _ => rfl, fun t ht hex => ?_⟩
    · rw [List.mem_singleton]
      exact ⟨fun ht => ⟨ht, fun heq => hnone r (heq ▸ ht)⟩, fun ht => ht.1⟩
    · obtain rfl := List.mem_singleton.mp ht
      obtain ⟨r, hr⟩ := hex
      exact absurd hr (hnone r)

theorem Tracked.closeSessions {σ : System} (h : Tracked σ)
    (hnodup : σ.server.webSocketBindings.Nodup) (sessions : List Nat) :
    Tracked (σ.closeSessions sessions).1 ∧
      Closes σ (σ.closeSessions sessions).1 sessions (told (σ.closeSessions sessions).2) := by
  induction sessions generalizing σ with
  | nil => exact ⟨h, .refl σ, fun r t => by simp [System.closeSessions], fun _ _ => rfl, nofun⟩
  | cons socket rest ih =>
      obtain ⟨htracked, hfirst⟩ := h.sessionClosed hnodup socket
      obtain ⟨htracked', hrest⟩ := ih htracked (by rw [hfirst.routes.shell.server]; exact hnodup)
      unfold System.closeSessions
      dsimp only
      generalize σ.sessionClosed socket = p at hfirst hrest htracked' ⊢
      obtain ⟨σ₁, effects⟩ := p
      generalize σ₁.closeSessions rest = p at hrest htracked' ⊢
      obtain ⟨σ₂, more⟩ := p
      refine ⟨htracked', hfirst.routes.trans hrest.routes, fun r t => ?_, fun t ht => ?_,
        fun t ht hex => ?_⟩
      · rw [hrest.sockets, hfirst.sockets, List.mem_singleton, List.mem_cons, not_or, and_assoc]
      · rw [told_append, List.filter_append]
        rcases ht with ht | ht
        · rw [List.mem_cons, not_or] at ht
          rw [hfirst.quiet t (Or.inl (by simpa using ht.1)), hrest.quiet t (Or.inl ht.2)]
          rfl
        · rw [hfirst.quiet t (Or.inr ht), hrest.quiet t (Or.inr fun r hr => ?_)]
          · rfl
          · exact ht r ((hfirst.sockets r t).mp hr).1
      · -- The first close of a tracked session tells of it, and no later one does.
        rw [told_append, List.filter_append]
        by_cases heq : t = socket
        · subst heq
          obtain ⟨code, reason, htold⟩ := hfirst.told t (List.mem_singleton_self t) hex
          refine ⟨code, reason, ?_⟩
          rw [htold, hrest.quiet t (Or.inr fun r hr => ?_), List.append_nil]
          exact ((hfirst.sockets r t).mp hr).2 (List.mem_singleton_self t)
        · have hnot : t ∉ [socket] := by simpa using heq
          obtain ⟨r, hr⟩ := hex
          obtain ⟨code, reason, htold⟩ := hrest.told t
            ((List.mem_cons.mp ht).resolve_left heq) ⟨r, (hfirst.sockets r t).mpr ⟨hr, hnot⟩⟩
          exact ⟨code, reason, by rw [hfirst.quiet t (Or.inl hnot), htold, List.nil_append]⟩

/-! ## The invariant -/

/-- **The invariant.**  A tracked socket has an open session with the binding
that tracks it, and the log says that a session is connected exactly when its
socket is tracked. -/
structure SessionsInv (σ : Hosting) : Prop where
  ledger : ∃ bound unbound, LedgerInv ⟨σ.system, bound, unbound⟩
  served : Served σ.system
  tracked : Tracked σ.system
  session : ∀ r, ∀ socket ∈ (σ.system.state r).sockets, σ.session socket = some r
  quiet : ∀ socket, (∀ r, socket ∉ (σ.system.state r).sockets) →
    phase socket σ.log = some .quiet
  announced : ∀ r, ∀ socket ∈ (σ.system.state r).sockets,
    phase socket σ.log = some .announced

theorem sessionsInv_fresh (defaults : HttpServer.Configuration) :
    SessionsInv (Hosting.fresh defaults) where
  ledger := ⟨[], [], ledgerInv_fresh defaults⟩
  served := served_fresh defaults
  tracked := ⟨fun _ => List.nodup_nil, nofun, nofun⟩
  session := nofun
  quiet := fun _ _ => rfl
  announced := nofun

theorem SessionsInv.inOrder {σ : Hosting} (h : SessionsInv σ) : SessionsInOrder σ where
  order := by
    intro socket
    by_cases htracked : ∃ r, socket ∈ (σ.system.state r).sockets
    · obtain ⟨r, hr⟩ := htracked
      exact Or.inr (h.announced r socket hr)
    · exact Or.inl (h.quiet socket fun r hr => htracked ⟨r, hr⟩)
  unique := h.tracked.unique

theorem SessionsInv.bindings {σ : Hosting} (h : SessionsInv σ) : Bindings σ.system := by
  obtain ⟨bound, unbound, hledger⟩ := h.ledger
  exact hledger.bindings

/-- An operation that tells the sinks nothing of any session, and that keeps
track of what was tracked. -/
theorem SessionsInv.silent {σ : Hosting} (h : SessionsInv σ) {τ : System}
    (hledger : ∃ bound unbound, LedgerInv ⟨τ, bound, unbound⟩) (hserved : Served τ)
    (hkept : KeepsSessions σ.system τ) : SessionsInv ⟨τ, σ.session, σ.log⟩ := by
  refine ⟨hledger, hserved, ⟨fun r => ?_, fun r q socket hr hq => ?_, fun r socket hr => ?_⟩,
    fun r socket hr => ?_, fun socket hnone => h.quiet socket fun r => ?_, fun r socket hr => ?_⟩
  · rw [hkept.sockets]
    exact h.tracked.unique r
  · rw [hkept.sockets] at hr hq
    exact h.tracked.single r q socket hr hq
  · rw [hkept.sockets] at hr
    obtain ⟨hheld, hsink⟩ := h.tracked.held r socket hr
    exact ⟨hkept.held r (List.ne_nil_of_mem hr) hheld, hkept.sink r hsink⟩
  · exact h.session r socket (by rw [← hkept.sockets]; exact hr)
  · rw [← hkept.sockets]
    exact hnone r
  · exact h.announced r socket (by rw [← hkept.sockets]; exact hr)

theorem filter_closing {sessions : List Nat} (hnodup : sessions.Nodup) (socket : Nat) :
    (sessions.map Entry.closing).filter (fun entry => entry.socket = some socket) =
      if socket ∈ sessions then [.closing socket] else [] := by
  induction sessions with
  | nil => rfl
  | cons s rest ih =>
      obtain ⟨hs, hrest⟩ := List.nodup_cons.mp hnodup
      rw [List.map_cons]
      by_cases heq : s = socket
      · subst heq
        rw [List.filter_cons_of_pos (by simp [Entry.socket]), ih hrest, if_neg hs,
          if_pos List.mem_cons_self]
      · rw [List.filter_cons_of_neg (by simpa [Entry.socket] using heq), ih hrest]
        simp [Ne.symm heq]

theorem filter_told (calls : List SinkCall) (socket : Nat) :
    (calls.map Entry.told).filter (fun entry => entry.socket = some socket) =
      (calls.filter fun call => (Entry.told call).socket = some socket).map Entry.told :=
  List.filter_map

/-- HTTPD closes some sessions. -/
theorem SessionsInv.close {σ : Hosting} (h : SessionsInv σ) {τ : System} {sessions : List Nat}
    {calls : List SinkCall} (hledger : ∃ bound unbound, LedgerInv ⟨τ, bound, unbound⟩)
    (hserved : Served τ) (hnodup : sessions.Nodup) {σ₀ σ₁ : System} (htracked : Tracked σ₁)
    (hcloses : Closes σ₀ σ₁ sessions calls) (hσ₀ : σ₀.states = σ.system.states)
    (hσ₁ : τ.states = σ₁.states)
    (hkept : ∀ r, ∀ socket ∈ (σ.system.state r).sockets, socket ∉ sessions → τ.Held r) :
    SessionsInv ⟨τ, fun socket => if socket ∈ sessions then none else σ.session socket,
      σ.log ++ sessions.map .closing ++ calls.map .told⟩ := by
  have hsockets : ∀ r socket, socket ∈ (τ.state r).sockets ↔
      socket ∈ (σ.system.state r).sockets ∧ socket ∉ sessions := by
    intro r socket
    rw [state_of_states hσ₁, hcloses.sockets, state_of_states hσ₀]
  have hphase : ∀ socket, phase socket (σ.log ++ sessions.map .closing ++ calls.map .told) =
      ((if socket ∈ sessions then [Entry.closing socket] else []) ++
        (calls.filter fun call => (Entry.told call).socket = some socket).map Entry.told).foldl
          advance (phase socket σ.log) := by
    intro socket
    rw [List.append_assoc, phase_append, List.filter_append, filter_closing hnodup, filter_told]
  refine ⟨hledger, hserved, ⟨fun r => ?_, fun r q socket hr hq => ?_, fun r socket hr => ?_⟩,
    fun r socket hr => ?_, fun socket hnone => ?_, fun r socket hr => ?_⟩
  · rw [state_of_states hσ₁]
    exact htracked.unique r
  · exact h.tracked.single r q socket ((hsockets r socket).mp hr).1 ((hsockets q socket).mp hq).1
  · obtain ⟨hr, hnot⟩ := (hsockets r socket).mp hr
    obtain ⟨-, hsink⟩ := h.tracked.held r socket hr
    refine ⟨hkept r socket hr hnot, ?_⟩
    rw [state_of_states hσ₁, hcloses.routes.sink, state_of_states hσ₀]
    exact hsink
  · obtain ⟨hr, hnot⟩ := (hsockets r socket).mp hr
    exact (if_neg hnot).trans (h.session r socket hr)
  · rw [hphase]
    by_cases htracked : ∃ r, socket ∈ (σ.system.state r).sockets
    · obtain ⟨r, hr⟩ := htracked
      have hin : socket ∈ sessions := by
        by_contra hnot
        exact hnone r ((hsockets r socket).mpr ⟨hr, hnot⟩)
      obtain ⟨code, reason, htold⟩ := hcloses.told socket hin
        ⟨r, by rw [state_of_states hσ₀]; exact hr⟩
      rw [if_pos hin, htold, h.announced r socket hr]
      rfl
    · have huntracked : ∀ r, socket ∉ (σ.system.state r).sockets := fun r hr => htracked ⟨r, hr⟩
      rw [hcloses.quiet socket (Or.inr fun r => by rw [state_of_states hσ₀]; exact huntracked r),
        h.quiet socket huntracked]
      split <;> rfl
  · obtain ⟨hr, hnot⟩ := (hsockets r socket).mp hr
    rw [hphase, if_neg hnot, hcloses.quiet socket (Or.inl hnot), h.announced r socket hr]
    rfl

theorem phase_of_others {socket t : Nat} (hne : t ≠ socket) {calls : List SinkCall}
    (hcalls : ∀ call ∈ calls, (Entry.told call).socket = some socket) (log : List Entry) :
    phase t (log ++ calls.map .told) = phase t log := by
  have hnone : (calls.filter fun call => (Entry.told call).socket = some t) = [] := by
    apply List.filter_eq_nil_iff.mpr
    intro call hcall
    simp [hcalls call hcall, Ne.symm hne]
  rw [phase_append, filter_told, hnone]
  rfl

theorem socket_of_message {socket : Nat} {call : SinkCall} (h : IsMessage socket call) :
    (Entry.told call).socket = some socket := by
  cases call with
  | text id payload => exact congrArg some h
  | binary id payload => exact congrArg some h
  | activity a => exact h.elim
  | connected id => exact h.elim
  | disconnected id code reason => exact h.elim

/-- Messages come in order while their session is announced. -/
theorem phase_messages {socket : Nat} {calls : List SinkCall}
    (hcalls : ∀ call ∈ calls, IsMessage socket call) {log : List Entry}
    (hlog : phase socket log = some .announced) :
    phase socket (log ++ calls.map .told) = some .announced := by
  induction calls generalizing log with
  | nil => simpa using hlog
  | cons call rest ih =>
      obtain ⟨hcall, hrest⟩ := List.forall_mem_cons.mp hcalls
      have hnext : phase socket (log ++ [.told call]) = some .announced := by
        rw [phase_append, List.filter_cons_of_pos (by simpa using socket_of_message hcall), hlog]
        cases call with
        | text id payload => rfl
        | binary id payload => rfl
        | activity a => exact hcall.elim
        | connected id => exact hcall.elim
        | disconnected id code reason => exact hcall.elim
      have := ih hrest hnext
      rwa [List.append_assoc] at this

/-- What a callback for one socket comes to: the socket may be tracked from
now on, and is announced then. -/
structure Announces (b b' : BindingState) (socket : Nat) (calls : List SinkCall) : Prop where
  unique : b.sockets.Nodup → b'.sockets.Nodup
  kept : ∀ t ∈ b.sockets, t ∈ b'.sockets
  new : ∀ t ∈ b'.sockets, t ∈ b.sockets ∨ t = socket
  others : ∀ t log, t ≠ socket → phase t (log ++ calls.map .told) = phase t log
  known : socket ∈ b.sockets → ∀ log, phase socket log = some .announced →
    phase socket (log ++ calls.map .told) = some .announced
  made : socket ∉ b.sockets → socket ∈ b'.sockets → ∀ log, phase socket log = some .quiet →
    phase socket (log ++ calls.map .told) = some .announced
  refused : socket ∉ b'.sockets → calls = []

theorem Serves.announces {b b' : BindingState} {socket : Nat} {calls : List SinkCall}
    (h : Serves b b' socket calls) (hsink : b.sink ≠ none) : Announces b b' socket calls := by
  cases h with
  | tracked known follows =>
      refine ⟨fun hnodup => follows.sockets ▸ hnodup, fun t ht => follows.sockets ▸ ht,
        fun t ht => Or.inl (follows.sockets ▸ ht), fun t log hne => ?_, fun _ log hlog => ?_,
        fun hnot => absurd known hnot, fun hnot => ?_⟩
      · have hcalls : ∀ call ∈ calls, (Entry.told call).socket = some socket :=
          fun call hcall => socket_of_message (follows.messages call hcall)
        exact phase_of_others hne hcalls log
      · exact phase_messages follows.messages hlog
      · rw [follows.sockets] at hnot
        exact absurd known hnot
  | @made calls unknown rest sockets messages =>
      have hconnected : connectedCall b.sink socket = [.connected socket] := by
        unfold connectedCall
        rw [if_pos (by simpa [Option.isSome_iff_ne_none] using hsink)]
      rw [hconnected]
      refine ⟨fun hnodup => ?_, fun t ht => ?_, fun t ht => ?_, fun t log hne => ?_,
        fun hin => absurd hin unknown, fun _ _ log hlog => ?_, fun hnot => ?_⟩
      · rw [sockets]
        refine List.nodup_append.mpr ⟨hnodup, by simp, fun t ht s hs heq => ?_⟩
        rw [heq, List.mem_singleton.mp hs] at ht
        exact unknown ht
      · rw [sockets]
        exact List.mem_append_left _ ht
      · rw [sockets] at ht
        simpa using ht
      · refine phase_of_others hne (fun call hcall => ?_) log
        rcases List.mem_cons.mp hcall with rfl | hcall
        · rfl
        · exact socket_of_message (messages call hcall)
      · have hfirst : phase socket (log ++ [.told (.connected socket)]) = some .announced := by
          rw [phase_append, List.filter_cons_of_pos (by simp [Entry.socket]), hlog]
          rfl
        have := phase_messages messages hfirst
        rw [List.append_assoc] at this
        exact this
      · rw [sockets] at hnot
        exact absurd (List.mem_append_right _ (List.mem_singleton_self socket)) hnot
  | refused unchanged =>
      subst unchanged
      refine ⟨id, fun t ht => ht, fun t ht => Or.inl ht, fun t log _ => ?_, fun _ log hlog => ?_,
        fun hnot hin => absurd hin hnot, fun _ => rfl⟩
      · rw [List.map_nil, List.append_nil]
      · rw [List.map_nil, List.append_nil]
        exact hlog

/-- What serving a session comes to: no socket is dropped, and that of the
session may be tracked from now on. -/
structure Opens (σ τ : System) (r socket : Nat) : Prop where
  routes : SameRoutes σ τ
  unique : ∀ q, (σ.state q).sockets.Nodup → (τ.state q).sockets.Nodup
  kept : ∀ q, ∀ t ∈ (σ.state q).sockets, t ∈ (τ.state q).sockets
  new : ∀ q, ∀ t ∈ (τ.state q).sockets, t ∈ (σ.state q).sockets ∨ (q = r ∧ t = socket)

theorem Announces.opens {σ : System} {r socket : Nat} {b : BindingState} {calls : List SinkCall}
    (h : Announces (σ.state r) b socket calls)
    (hrest : b = { σ.state r with connections := b.connections }) :
    Opens σ (σ.setState r b) r socket := by
  refine ⟨sameRoutes_connections σ r hrest, fun q => ?_, fun q t => ?_, fun q t => ?_⟩ <;>
    rw [System.state_setState] <;> split
  · rename_i heq
    rw [← heq.1]
    exact h.unique
  · exact id
  · rename_i heq
    rw [← heq.1]
    exact h.kept t
  · exact id
  · rename_i heq
    rw [← heq.1]
    exact fun ht => (h.new t ht).imp_right fun hs => ⟨rfl, hs⟩
  · exact Or.inl

theorem Tracked.opens {σ τ : System} (h : Tracked σ) {r socket : Nat} (hopens : Opens σ τ r socket)
    (hother : ∀ q, socket ∈ (σ.state q).sockets → q = r) (hheld : σ.Held r)
    (hsink : (σ.state r).sink ≠ none) : Tracked τ := by
  refine ⟨fun q => hopens.unique q (h.unique q), fun q k t hq hk => ?_, fun q t hq => ?_⟩
  · rcases hopens.new q t hq with hq' | ⟨hqr, hs⟩ <;>
      rcases hopens.new k t hk with hk' | ⟨hkr, hs'⟩
    · exact h.single q k t hq' hk'
    · rw [hkr]
      exact hother q (hs' ▸ hq')
    · rw [hqr]
      exact (hother k (hs ▸ hk')).symm
    · rw [hqr, hkr]
  · unfold System.Held
    rw [hopens.routes.sink, hopens.routes.shell.server]
    rcases hopens.new q t hq with hq' | ⟨rfl, -⟩
    · exact h.held q t hq'
    · exact ⟨hheld, hsink⟩

/-- A socket with no session, or one of this binding, is tracked by no other. -/
theorem SessionsInv.exclusive {σ : Hosting} (h : SessionsInv σ) {r socket : Nat}
    (hsession : σ.session socket = none ∨ σ.session socket = some r) {q : Nat}
    (hq : socket ∈ (σ.system.state q).sockets) : q = r := by
  have hopen := h.session q socket hq
  rcases hsession with hnone | hsome
  · rw [hnone] at hopen
    cases hopen
  · rw [hsome] at hopen
    exact (Option.some.inj hopen).symm

/-- A handler that is no longer active refuses a request. -/
theorem SessionsInv.refuse {σ : Hosting} (h : SessionsInv σ) {r socket : Nat}
    (hsession : σ.session socket = none ∨ σ.session socket = some r) :
    SessionsInv ⟨σ.system, fun s => if s = socket then some r else σ.session s, σ.log⟩ := by
  refine ⟨h.ledger, h.served, h.tracked, fun q t hq => ?_, h.quiet, h.announced⟩
  change (if t = socket then some r else σ.session t) = some q
  split
  · rename_i hs
    have hqr : q = r := h.exclusive hsession (hs ▸ hq)
    rw [hqr]
  · exact h.session q t hq

/-- A handler's callback for one socket. -/
theorem SessionsInv.serve {σ : Hosting} (h : SessionsInv σ) {r socket : Nat} {b : BindingState}
    {calls : List SinkCall}
    (hledger : ∃ bound unbound, LedgerInv ⟨σ.system.setState r b, bound, unbound⟩)
    (hheld : σ.system.Held r) (hactive : (σ.system.state r).active = true)
    (hsession : σ.session socket = none ∨ σ.session socket = some r)
    (hserves : Serves (σ.system.state r) b socket calls) :
    SessionsInv ⟨σ.system.setState r b,
      fun s => if s = socket then some r else σ.session s, σ.log ++ calls.map .told⟩ := by
  have hsink := h.served.sunk r hactive
  have hannounces := hserves.announces hsink
  have hopens := hannounces.opens hserves.rest
  have hother : ∀ q, socket ∈ (σ.system.state q).sockets → q = r := fun q hq =>
    h.exclusive hsession hq
  have hheap : r < σ.system.states.length := by
    by_contra hlen
    have hinactive := Bindings.fresh_inactive (Nat.le_of_not_lt hlen)
    rw [show (σ.system.info r).active = (σ.system.state r).active from rfl, hactive] at hinactive
    cases hinactive
  have hstate : (σ.system.setState r b).state r = b := by
    rw [System.state_setState]
    exact if_pos ⟨rfl, hheap⟩
  refine ⟨hledger, h.served.routes hopens.routes,
    h.tracked.opens hopens hother hheld hsink, fun q t hq => ?_, fun t hnone => ?_,
    fun q t hq => ?_⟩
  · change (if t = socket then some r else σ.session t) = some q
    rcases hopens.new q t hq with hq | ⟨rfl, rfl⟩
    · split
      · rename_i hs
        rw [hother q (hs ▸ hq)]
      · exact h.session q t hq
    · rw [if_pos rfl]
  · have hquiet := h.quiet t fun q hq => hnone q (hopens.kept q t hq)
    by_cases hs : t = socket
    · subst hs
      have hgone := hnone r
      rw [hstate] at hgone
      rw [hannounces.refused hgone]
      simpa using hquiet
    · exact (hannounces.others t σ.log hs).trans hquiet
  · by_cases hs : t = socket
    · subst hs
      obtain rfl : q = r := (hopens.new q t hq).elim (hother q) fun hboth => hboth.1
      by_cases hbefore : t ∈ (σ.system.state q).sockets
      · exact hannounces.known hbefore σ.log (h.announced q t hbefore)
      · rw [hstate] at hq
        refine hannounces.made hbefore hq σ.log (h.quiet t fun k hk => ?_)
        exact hbefore (hother k hk ▸ hk)
    · rw [hannounces.others t σ.log hs]
      exact h.announced q t ((hopens.new q t hq).resolve_right fun hboth => hs hboth.2)

/-! ## Steps -/

/-- An event in which HTTPD closes nothing and the sinks are told nothing. -/
theorem Hosting.step_silent {σ : Hosting} {e : Event} (hcloses : σ.system.closes e = [])
    (htold : told ((σ.system.step e).effects ++ (σ.system.step e).callbacks) = [])
    (hrequest : ∀ r n q, e ≠ .request r n q) :
    σ.step e = ⟨(σ.system.step e).next, σ.session, σ.log⟩ := by
  have hsession : (σ.step e).session = σ.session := by
    funext socket
    cases e <;> first
      | exact absurd rfl (hrequest _ _ _)
      | simp [Hosting.step, hcloses]
  have hlog : (σ.step e).log = σ.log := by
    simp only [Hosting.step, hcloses, htold, List.map_nil, List.append_nil]
  rw [← hsession, ← hlog]
  rfl

theorem SessionsInv.nextLedger {σ : Hosting} (h : SessionsInv σ) (e : Event) :
    ∃ bound unbound, LedgerInv ⟨(σ.system.step e).next, bound, unbound⟩ := by
  obtain ⟨bound, unbound, hledger⟩ := h.ledger
  exact ⟨_, _, hledger.step e⟩

theorem SessionsInv.stepSilent {σ : Hosting} (h : SessionsInv σ) {e : Event}
    (hserved : Served (σ.system.step e).next)
    (hkept : KeepsSessions σ.system (σ.system.step e).next) (hcloses : σ.system.closes e = [])
    (htold : told ((σ.system.step e).effects ++ (σ.system.step e).callbacks) = [])
    (hrequest : ∀ r n q, e ≠ .request r n q) : SessionsInv (σ.step e) := by
  rw [Hosting.step_silent hcloses htold hrequest]
  exact h.silent (h.nextLedger e) hserved hkept

/-- Operations on an endpoint that tell of no session. -/
theorem SessionsInv.stepEndpoint {σ : Hosting} (h : SessionsInv σ) {e : Event} (i : Nat)
    (op : Endpoint → System × WebResult × List Effect)
    (hstep : σ.system.step e = σ.system.onEndpoint i op)
    (hop : ∀ f, σ.system.Live i f →
      Served (op f).1 ∧ KeepsSessions σ.system (op f).1 ∧ told (op f).2.2 = [])
    (hcloses : σ.system.closes e = []) (hrequest : ∀ r n q, e ≠ .request r n q) :
    SessionsInv (σ.step e) := by
  have hall : Served (σ.system.step e).next ∧ KeepsSessions σ.system (σ.system.step e).next ∧
      told ((σ.system.step e).effects ++ (σ.system.step e).callbacks) = [] := by
    rw [hstep]
    rcases onEndpoint_eq σ.system i op with ⟨heq, -⟩ | ⟨f, hl, heq⟩ <;> rw [heq]
    · exact ⟨h.served, .refl σ.system, rfl⟩
    · simpa using hop f hl
  exact h.stepSilent hall.1 hall.2.1 hcloses hall.2.2 hrequest

/-- What an operation lets go of is inactive, or is the state it names. -/
theorem System.not_forgets {σ : System} {sessions : List Nat} (h : ¬σ.Forgets sessions)
    {r socket : Nat} (hheld : σ.Held r) (hr : socket ∈ (σ.state r).sockets)
    (hnot : socket ∉ sessions) : (σ.state r).active = true := by
  by_contra hactive
  exact h ⟨r, hheld, Bool.eq_false_iff.mpr hactive, socket, hr, hnot⟩

theorem System.active_of_tracking {σ : System} (h : ¬σ.Forgets []) {r : Nat}
    (hr : (σ.state r).sockets ≠ []) (hheld : σ.Held r) : (σ.state r).active = true := by
  obtain ⟨socket, hsocket⟩ := List.exists_mem_of_ne_nil _ hr
  exact System.not_forgets h hheld hsocket List.not_mem_nil

/-- A server that is stopped closes some sessions and purges its list. -/
theorem SessionsInv.stopRunning {σ : Hosting} (h : SessionsInv σ) {n : StopNatives} {handle : Nat}
    (hserver : σ.system.server.server = some handle) (hnodup : n.sessions.Nodup)
    (hkept : ¬σ.system.Forgets n.sessions) :
    SessionsInv (σ.step (.stopServer n)) ∧
      (σ.step (.stopServer n)).system.server.server = none ∧
      ∀ r, (σ.step (.stopServer n)).system.Held r →
        ((σ.step (.stopServer n)).system.state r).active = true := by
  have hledger := h.nextLedger (.stopServer n)
  have hcloses : σ.system.closes (.stopServer n) = n.sessions := by
    simp [System.closes, hserver]
  have hdown : Tracked σ.system.halted := ⟨h.tracked.unique, h.tracked.single, h.tracked.held⟩
  obtain ⟨htracked, hclosed⟩ := hdown.closeSessions h.bindings.nodup n.sessions
  have hstop := stopServer_running h.served.settled hserver n
  generalize σ.system.halted.closeSessions n.sessions = p at htracked hclosed hstop
  obtain ⟨σ₁, effects⟩ := p
  have hstep : σ.step (.stopServer n) =
      ⟨{ σ₁ with
          server := purgeInactive σ₁.info σ₁.server
          registered := []
          abandoned := σ₁.abandoned ++ leftRunning n.stopped σ₁.registered },
        fun socket => if socket ∈ n.sessions then none else σ.session socket,
        σ.log ++ n.sessions.map .closing ++ (told effects).map .told⟩ := by
    simp only [Hosting.step, System.step, hcloses, hstop, List.nil_append]
  have hserved : Served { σ₁ with
      server := purgeInactive σ₁.info σ₁.server
      registered := []
      abandoned := σ₁.abandoned ++ leftRunning n.stopped σ₁.registered } := by
    refine ⟨⟨?_, fun _ => rfl⟩, fun i e hl => ?_, fun r hr => ?_,
      fun _ hr => absurd hr List.not_mem_nil⟩
    · change σ₁.server.starting = false
      rw [hclosed.routes.shell.server]
      exact h.served.settled.settled
    · have hl' : σ.system.Live i e := (hclosed.routes.shell.live i e).mp hl
      exact (hclosed.routes.sink e.state).trans (h.served.agrees i e hl')
    · have hr' : (σ.system.state r).active = true := (hclosed.routes.active r).symm.trans hr
      intro hnone
      exact h.served.sunk r hr' ((hclosed.routes.sink r).symm.trans hnone)
  rw [hstep]
  refine ⟨h.close ?_ hserved hnodup htracked hclosed rfl rfl ?_, ?_, ?_⟩
  · simpa only [System.step, hstop] using hledger
  · intro r socket hr hnot
    have hheld := (h.tracked.held r socket hr).1
    have hactive := System.not_forgets hkept hheld hr hnot
    refine mem_purgeInactive.mpr ⟨?_, (hclosed.routes.active r).trans hactive⟩
    rw [hclosed.routes.shell.server]
    exact hheld
  · change σ₁.server.server = none
    rw [hclosed.routes.shell.server]
    rfl
  · exact fun r hr => (mem_purgeInactive.mp hr).2

theorem SessionsInv.stopIdle {σ : Hosting} (h : SessionsInv σ)
    (hserver : σ.system.server.server = none) (n : StopNatives) :
    σ.step (.stopServer n) = σ := by
  have hstop := stopServer_stopped h.served.settled hserver n
  rw [Hosting.step_silent (by simp [System.closes, hserver]) (by simp [System.step, hstop])
    (by simp)]
  simp [System.step, hstop]

theorem SessionsInv.stop {σ : Hosting} (h : SessionsInv σ) {n : StopNatives}
    (hosts : Hosts σ (.stopServer n)) (hkept : ¬LetsGo σ.system (.stopServer n)) :
    SessionsInv (σ.step (.stopServer n)) := by
  cases hserver : σ.system.server.server with
  | none =>
      rw [h.stopIdle hserver]
      exact h
  | some handle =>
      have hforgets : ¬σ.system.Forgets n.sessions := fun hforgets =>
        hkept ⟨by rw [hserver]; exact Option.some_ne_none handle, hforgets⟩
      exact (h.stopRunning hserver hosts hforgets).1

/-- The last section of `Reset` finds the server stopped, and purges once more. -/
theorem SessionsInv.finishReset {σ τ : Hosting} (hinv : SessionsInv τ) {n : StopNatives}
    (hτ : τ = σ.step (.stopServer n)) (hstopped : τ.system.server.server = none)
    (hkept : ∀ r, (τ.system.state r).sockets ≠ [] → τ.system.Held r →
      (τ.system.state r).active = true)
    (hledger : ∃ bound unbound,
      LedgerInv ⟨(σ.system.step (.resetServer n)).next, bound, unbound⟩) :
    SessionsInv (σ.step (.resetServer n)) := by
  have hnone := hinv.served.settled.stopped hstopped
  have hstep : σ.step (.resetServer n) =
      ⟨(σ.system.resetServer n).1, τ.session, τ.log⟩ := by
    rw [hτ]
    simp [Hosting.step, System.step, System.resetServer, System.closes]
  have hsystem : (σ.system.resetServer n).1 = { τ.system with
      server := HttpServer.finishReset τ.system.info τ.system.defaults τ.system.server } := by
    rw [hτ]
    rfl
  rw [hstep]
  refine hinv.silent hledger ?_ ?_
  · rw [hsystem]
    refine hinv.served.server τ.system.abandoned ?_ (fun _ => hnone) fun r hr => ?_
    · exact (finishReset_starting _ _ _).trans hinv.served.settled.settled
    · rw [hnone] at hr
      cases hr
  · rw [hsystem]
    refine keepsSessions_purge τ.system τ.system.registered τ.system.abandoned ?_ hkept
    rw [HttpServer.finishReset, if_neg (by simp [hinv.served.settled.settled])]
    rfl

/-- `Reset` is a `Stop` and a last purge of the stopped server. -/
theorem SessionsInv.reset {σ : Hosting} (h : SessionsInv σ) {n : StopNatives}
    (hosts : Hosts σ (.resetServer n)) (hkept : ¬LetsGo σ.system (.resetServer n)) :
    SessionsInv (σ.step (.resetServer n)) := by
  have hledger := h.nextLedger (.resetServer n)
  cases hserver : σ.system.server.server with
  | none =>
      have hforgets : ¬σ.system.Forgets [] := by
        simpa [LetsGo, System.closes, hserver] using hkept
      exact h.finishReset (h.stopIdle hserver n).symm hserver
        (fun r hr hheld => System.active_of_tracking hforgets hr hheld) hledger
  | some handle =>
      have hforgets : ¬σ.system.Forgets n.sessions := by
        simpa [LetsGo, System.closes, hserver] using hkept
      obtain ⟨hstop, hstopped, hactive⟩ := h.stopRunning hserver hosts hforgets
      exact hstop.finishReset rfl hstopped (fun r _ hheld => hactive r hheld) hledger

theorem SessionsInv.request {σ : Hosting} (h : SessionsInv σ) {r : Nat} {n : RequestNatives}
    {q : Request} (hosts : Hosts σ (.request r n q)) (hkept : ¬LetsGo σ.system (.request r n q)) :
    SessionsInv (σ.step (.request r n q)) := by
  obtain ⟨hcontext, hsession⟩ := hosts
  have hheld : σ.system.Held r := not_not.mp hkept
  have hledger := h.nextLedger (.request r n q)
  have hlog : (σ.step (.request r n q)).log =
      σ.log ++ (told (σ.system.dispatchRequest r n q).2).map .told := by
    simp [Hosting.step, System.step, System.closes]
  have hstep : σ.step (.request r n q) = ⟨(σ.system.dispatchRequest r n q).1,
      fun socket => if q.socket = socket then some r else σ.session socket,
      σ.log ++ (told (σ.system.dispatchRequest r n q).2).map .told⟩ := by
    rw [← hlog]
    rfl
  rw [hstep]
  change ∃ bound unbound, LedgerInv ⟨(σ.system.dispatchRequest r n q).1, bound, unbound⟩ at hledger
  by_cases hnegative : q.socket < 0
  · -- HTTPD has no socket for the request.
    have hnone : σ.system.dispatchRequest r n q = (σ.system, []) := by
      unfold System.dispatchRequest BindingState.handleWebSocketRequest
      simp only [hnegative, or_true, if_true, setState_self, ite_self]
    have hsame : (fun socket : Nat => if q.socket = socket then some r else σ.session socket) =
        σ.session := by
      funext socket
      rw [if_neg (by omega)]
    rw [hnone, hsame, told_nil, List.map_nil, List.append_nil]
    exact h
  · have hopen := hsession q.socket.toNat (by omega)
    have hsame : (fun socket : Nat => if q.socket = socket then some r else σ.session socket) =
        fun socket => if socket = q.socket.toNat then some r else σ.session socket := by
      funext socket
      have hiff : q.socket = socket ↔ socket = q.socket.toNat := by omega
      simp only [hiff]
    rw [hsame]
    unfold System.dispatchRequest at hledger ⊢
    by_cases hactive : (σ.system.state r).active = true
    · rw [if_pos ⟨hcontext, hactive⟩] at hledger ⊢
      exact h.serve hledger hheld hactive hopen (handleWebSocketRequest_serves _ n q)
    · rw [if_neg fun hboth => hactive hboth.2]
      rw [told_nil, List.map_nil, List.append_nil]
      exact h.refuse hopen

theorem SessionsInv.closed {σ : Hosting} (h : SessionsInv σ) (socket : Nat) :
    SessionsInv (σ.step (.sessionClosed socket)) := by
  have hledger := h.nextLedger (.sessionClosed socket)
  obtain ⟨htracked, hclosed⟩ := h.tracked.sessionClosed h.bindings.nodup socket
  have hstep : σ.step (.sessionClosed socket) =
      ⟨(σ.system.sessionClosed socket).1,
        fun s => if s ∈ [socket] then none else σ.session s,
        σ.log ++ [socket].map .closing ++ (told (σ.system.sessionClosed socket).2).map .told⟩ := by
    simp [Hosting.step, System.step, System.closes]
  rw [hstep]
  refine h.close hledger (h.served.routes hclosed.routes) (by simp) htracked hclosed rfl rfl ?_
  intro r t hr _
  exact (hclosed.routes.shell.held r).mpr (h.tracked.held r t hr).1

/-- **Step lemma.** -/
theorem SessionsInv.step {σ : Hosting} (h : SessionsInv σ) {e : Event} (hosts : Hosts σ e)
    (hkept : ¬LetsGo σ.system e) : SessionsInv (σ.step e) := by
  have hbindings := h.bindings
  cases e with
  | construct =>
      have hmade := keepsSessions_makeState σ.system none
      exact h.stepSilent (h.served.construct hbindings)
        ⟨hmade.sockets, hmade.sink, hmade.held⟩ rfl rfl (by simp)
  | destroy i natives => exact hosts.elim
  | setSink i sink =>
      refine h.stepEndpoint i (fun f => (σ.system.setSink i f sink, .success, [])) rfl
        (fun f hl => ?_) rfl (by simp)
      obtain ⟨hserved, hkept⟩ := h.served.setSink hbindings hl hosts
      exact ⟨hserved, hkept, rfl⟩
  | bind i configuration =>
      refine h.stepEndpoint i (fun f => σ.system.bind f configuration) rfl
        (fun f hl => ?_) rfl (by simp)
      obtain ⟨hserved, hkept⟩ := h.served.bind hbindings hl (hosts f hl) configuration
      exact ⟨hserved, hkept, told_bind σ.system f configuration⟩
  | unbind i natives =>
      refine h.stepEndpoint i (fun f => σ.system.unbind i f natives) rfl (fun f hl => ?_) rfl
        (by simp)
      refine h.served.unbind hbindings i (fun hstopped q hq hheld => ⟨fun heq => ?_, ?_⟩) natives
      · subst heq
        exact hkept ⟨hstopped, Or.inr ⟨f, hl, hheld, hq⟩⟩
      · exact System.active_of_tracking (fun hforgets => hkept ⟨hstopped, Or.inl hforgets⟩) hq hheld
  | initializeServer configuration dispatcher =>
      obtain ⟨hserver, hstarting, hlist⟩ :=
        initializeServer_keeps σ.system.server configuration dispatcher
      refine h.stepSilent ?_ ⟨fun _ => rfl, fun _ hr => hr, fun r _ hr => ?_⟩ rfl rfl (by simp)
      · exact h.served.server σ.system.abandoned (hstarting.trans h.served.settled.settled)
          (fun hnone => h.served.settled.stopped (hserver ▸ hnone))
          fun r hr => (congrArg (r ∈ ·) hlist).mpr (h.served.registered r hr)
      · exact (congrArg (r ∈ ·) hlist).mpr hr
  | startServer natives =>
      have hkeeps := keepsSessions_startServer σ.system natives fun hstopped q hq hheld =>
        System.active_of_tracking (fun hforgets => hkept ⟨hstopped, hforgets⟩) hq hheld
      exact h.stepSilent (h.served.startServer natives) hkeeps rfl rfl (by simp)
  | stopServer natives => exact h.stop hosts hkept
  | resetServer natives => exact h.reset hosts hkept
  | request r natives q => exact h.request hosts hkept
  | sessionClosed socket => exact h.closed socket
  | sendCompleted socket closeAfterSend =>
      refine h.stepSilent h.served (.refl σ.system) rfl ?_ (by simp)
      cases closeAfterSend <;> rfl

/-- **Sessions in order**, in every run of HTTPD's callbacks and the operations of
the server and of endpoints with sinks that lets go of no state with a session. -/
theorem sessions_in_order (defaults : HttpServer.Configuration) {events : List Event} {σ : Hosting}
    (h : Runs.Run (Runs.Guarded (fun σ e => Hosts σ e ∧ ¬LetsGo σ.system e)
        fun σ e τ => Hosting.step σ e = τ) (Hosting.fresh defaults) events σ) :
    SessionsInOrder σ := by
  have hinv : SessionsInv σ := by
    refine h.invariant ?_ (sessionsInv_fresh defaults)
    intro s e t hs hstep
    obtain ⟨⟨hosts, hkept⟩, rfl⟩ := hstep
    exact hs.step hosts hkept
  exact hinv.inOrder

/-! ## Servers that are stopped -/

/-- The native server of the platform, and those that it has lost, are as they were. -/
def SameNatives (σ τ : System) : Prop :=
  τ.server.server = σ.server.server ∧ τ.abandoned = σ.abandoned

theorem sameNatives_bind (σ : System) (e : Endpoint) (configuration : Configuration) :
    SameNatives σ (σ.bind e configuration).1 := by
  unfold System.bind
  dsimp only
  split
  · exact ⟨rfl, rfl⟩
  · split
    · exact ⟨rfl, rfl⟩
    · rename_i b _
      have hserver := (addWebSocketBinding_keeps (σ.setState e.state b.activate).info
        (σ.setState e.state b.activate).server e.state).1
      split
      · exact ⟨rfl, rfl⟩
      · rename_i heq
        rw [heq] at hserver
        exact ⟨hserver, rfl⟩

theorem sameNatives_unbind (σ : System) (i : Nat) (e : Endpoint) (natives : Nat → SendNatives) :
    SameNatives σ (σ.unbind i e natives).1 := by
  unfold System.unbind
  dsimp only
  split
  · exact ⟨(releaseWebSocketBinding_keeps σ.info σ.server e.state).1, rfl⟩
  · refine ⟨?_, rfl⟩
    exact (releaseWebSocketBinding_keeps _ _ e.state).1

/-- Only the server's own operations start and stop native servers. -/
theorem SessionsInv.sameNatives {σ : Hosting} (h : SessionsInv σ) {e : Event} (hosts : Hosts σ e)
    (hstart : ∀ n, e ≠ .startServer n) (hstop : ∀ n, e ≠ .stopServer n)
    (hreset : ∀ n, e ≠ .resetServer n) : SameNatives σ.system (σ.step e).system := by
  have hendpoint : ∀ i op, (∀ f, SameNatives σ.system (op f).1) →
      SameNatives σ.system (σ.system.onEndpoint i op).next := by
    intro i op hop
    rcases onEndpoint_eq σ.system i op with ⟨heq, -⟩ | ⟨f, -, heq⟩ <;> rw [heq]
    · exact ⟨rfl, rfl⟩
    · exact hop f
  cases e with
  | construct => exact ⟨rfl, rfl⟩
  | destroy i natives => exact hosts.elim
  | setSink i sink => exact hendpoint i _ fun f => ⟨rfl, rfl⟩
  | bind i configuration =>
      exact hendpoint i _ fun f => sameNatives_bind σ.system f configuration
  | unbind i natives => exact hendpoint i _ fun f => sameNatives_unbind σ.system i f natives
  | initializeServer configuration dispatcher =>
      exact ⟨(initializeServer_keeps σ.system.server configuration dispatcher).1, rfl⟩
  | startServer natives => exact absurd rfl (hstart natives)
  | stopServer natives => exact absurd rfl (hstop natives)
  | resetServer natives => exact absurd rfl (hreset natives)
  | request r natives q =>
      change SameNatives σ.system (σ.system.dispatchRequest r natives q).1
      unfold System.dispatchRequest
      split <;> exact ⟨rfl, rfl⟩
  | sessionClosed socket =>
      have hshell := (h.tracked.sessionClosed h.bindings.nodup socket).2.routes.shell
      exact ⟨congrArg Server.server hshell.server, hshell.abandoned⟩
  | sendCompleted socket closeAfterSend => exact ⟨rfl, rfl⟩

/-- What HTTPD does in a Start, a Stop or a Reset: `httpd_stop` succeeds, and the
sessions that were open are closed then. -/
def Stops (σ : Hosting) : Event → Prop
  | .startServer natives => natives.stopped = .ok
  | .stopServer natives | .resetServer natives => natives.stopped = .ok ∧
      ∀ socket, σ.session socket ≠ none → socket ∈ natives.sessions
  | _ => True

/-- No native server is lost, and one runs while a session is open. -/
structure Unabandoned (σ : Hosting) : Prop where
  inv : SessionsInv σ
  abandoned : σ.system.abandoned = []
  running : ∀ socket, σ.session socket ≠ none → σ.system.server.server ≠ none

/-- A state that tracks a session is not let go then. -/
theorem Unabandoned.keeps {σ : Hosting} (h : Unabandoned σ) {e : Event} (hosts : Hosts σ e)
    (hstops : Stops σ e) : ¬LetsGo σ.system e := by
  have hopen : ∀ r, ∀ socket ∈ (σ.system.state r).sockets, σ.session socket ≠ none := by
    intro r socket hr
    rw [h.inv.session r socket hr]
    exact Option.some_ne_none r
  have hrunning : σ.system.Forgets [] → σ.system.server.server ≠ none := by
    intro hforgets
    obtain ⟨r, -, -, socket, hr, -⟩ := hforgets
    exact h.running socket (hopen r socket hr)
  have hclosed : ∀ sessions : List Nat, (∀ socket, σ.session socket ≠ none → socket ∈ sessions) →
      ¬σ.system.Forgets sessions := by
    intro sessions hall hforgets
    obtain ⟨r, -, -, socket, hr, hnot⟩ := hforgets
    exact hnot (hall socket (hopen r socket hr))
  intro hgo
  cases e with
  | unbind i natives =>
      obtain ⟨hstopped, hforgets | ⟨f, -, -, hf⟩⟩ := hgo
      · exact hrunning hforgets hstopped
      · obtain ⟨socket, hsocket⟩ := List.exists_mem_of_ne_nil _ hf
        exact h.running socket (hopen f.state socket hsocket) hstopped
  | startServer natives => exact hrunning hgo.2 hgo.1
  | stopServer natives => exact hclosed _ hstops.2 hgo.2
  | resetServer natives =>
      by_cases hstopped : σ.system.server.server = none
      · simp only [LetsGo, System.closes, if_pos hstopped] at hgo
        exact hrunning hgo hstopped
      · simp only [LetsGo, System.closes, if_neg hstopped] at hgo
        exact hclosed _ hstops.2 hgo
  | request r natives q =>
      have hcontext : r ∈ σ.system.registered ++ σ.system.abandoned := hosts.1
      rw [h.abandoned, List.append_nil] at hcontext
      exact hgo (h.inv.served.registered r hcontext)
  | construct | destroy | setSink | bind | initializeServer | sessionClosed | sendCompleted =>
      exact hgo

theorem System.startServer_natives (σ : System) {n : StartNatives} (hstopped : n.stopped = .ok) :
    (σ.startServer n).1.abandoned = σ.abandoned ∧
      (σ.server.server ≠ none → (σ.startServer n).1.server.server ≠ none) := by
  unfold System.startServer
  rcases beginStart_cases σ with ⟨result, hbegin⟩ | ⟨hnone, hbegin⟩
  · rw [hbegin]
    exact ⟨rfl, id⟩
  · rw [hbegin]
    refine ⟨?_, fun hserver => absurd hnone hserver⟩
    dsimp only
    split
    · rfl
    · split
      · simp [leftRunning, hstopped]
      · rfl

theorem SessionsInv.stopServer_abandoned {σ : Hosting} (h : SessionsInv σ) {n : StopNatives}
    (hstopped : n.stopped = .ok) :
    (σ.system.stopServer n).1.abandoned = σ.system.abandoned := by
  cases hserver : σ.system.server.server with
  | none => rw [stopServer_stopped h.served.settled hserver]
  | some handle =>
      have hdown : Tracked σ.system.halted := ⟨h.tracked.unique, h.tracked.single, h.tracked.held⟩
      have hshell := (hdown.closeSessions h.bindings.nodup n.sessions).2.routes.shell
      rw [stopServer_running h.served.settled hserver]
      simp only [leftRunning, if_pos hstopped, List.append_nil]
      exact hshell.abandoned

/-- After a Stop or a Reset no session is open. -/
theorem Hosting.closed_of_stop {σ : Hosting} {e : Event} {sessions : List Nat}
    (hcloses : σ.system.closes e = if σ.system.server.server = none then [] else sessions)
    (hrequest : ∀ r n q, e ≠ .request r n q)
    (hrunning : ∀ socket, σ.session socket ≠ none → σ.system.server.server ≠ none)
    (hall : ∀ socket, σ.session socket ≠ none → socket ∈ sessions) (socket : Nat) :
    (σ.step e).session socket = none := by
  have hsession : (σ.step e).session socket =
      if socket ∈ σ.system.closes e then none else σ.session socket := by
    cases e with
    | request r n q => exact absurd rfl (hrequest r n q)
    | _ => rfl
  rw [hsession, hcloses]
  by_contra hopen
  have hopen' : σ.session socket ≠ none := by
    intro hnone
    rw [hnone, ite_self] at hopen
    exact hopen rfl
  rw [if_neg (hrunning socket hopen'), if_pos (hall socket hopen')] at hopen
  exact hopen rfl

theorem Unabandoned.step {σ : Hosting} (h : Unabandoned σ) {e : Event} (hosts : Hosts σ e)
    (hstops : Stops σ e) : Unabandoned (σ.step e) := by
  have hinv := h.inv.step hosts (h.keeps hosts hstops)
  have hsame := h.inv.sameNatives hosts
  -- An event that starts and stops nothing, and opens no session.
  have hkept : SameNatives σ.system (σ.step e).system →
      (∀ socket, (σ.step e).session socket ≠ none → σ.session socket ≠ none) →
      Unabandoned (σ.step e) := by
    intro hnatives hsession
    refine ⟨hinv, hnatives.2.trans h.abandoned, fun socket hopen => ?_⟩
    rw [hnatives.1]
    exact h.running socket (hsession socket hopen)
  cases e with
  | startServer n =>
      obtain ⟨habandoned, hserver⟩ := σ.system.startServer_natives hstops
      refine ⟨hinv, habandoned.trans h.abandoned, fun socket hopen => ?_⟩
      exact hserver (h.running socket hopen)
  | stopServer n =>
      have habandoned := h.inv.stopServer_abandoned hstops.1
      refine ⟨hinv, habandoned.trans h.abandoned, fun socket hopen => ?_⟩
      exact absurd (Hosting.closed_of_stop rfl (by simp) h.running hstops.2 socket) hopen
  | resetServer n =>
      have habandoned := h.inv.stopServer_abandoned hstops.1
      refine ⟨hinv, habandoned.trans h.abandoned, fun socket hopen => ?_⟩
      exact absurd (Hosting.closed_of_stop rfl (by simp) h.running hstops.2 socket) hopen
  | request r n q =>
      have hnatives := hsame (by simp) (by simp) (by simp)
      have hcontext : r ∈ σ.system.registered ++ σ.system.abandoned := hosts.1
      rw [h.abandoned, List.append_nil] at hcontext
      refine ⟨hinv, hnatives.2.trans h.abandoned, fun _ _ => ?_⟩
      rw [hnatives.1]
      exact h.inv.served.running hcontext
  | sessionClosed socket =>
      refine hkept (hsame (by simp) (by simp) (by simp)) fun t hopen hnone => hopen ?_
      change (if t ∈ [socket] then none else σ.session t) = none
      rw [hnone, ite_self]
  | construct | destroy | setSink | bind | unbind | initializeServer | sendCompleted =>
      refine hkept (hsame (by simp) (by simp) (by simp)) fun t hopen hnone => hopen ?_
      simpa [Hosting.step, System.closes] using hnone

/-- Where every `httpd_stop` stops its server, no state with a session is ever let
go, and all sessions are in order. -/
theorem stopped_sessions_in_order (defaults : HttpServer.Configuration) {events : List Event}
    {σ : Hosting} (h : Runs.Run (Runs.Guarded (fun σ e => Hosts σ e ∧ Stops σ e)
        fun σ e τ => Hosting.step σ e = τ) (Hosting.fresh defaults) events σ) :
    SessionsInOrder σ := by
  have hfresh : Unabandoned (Hosting.fresh defaults) := ⟨sessionsInv_fresh defaults, rfl, nofun⟩
  have hinv : Unabandoned σ := by
    refine h.invariant ?_ hfresh
    intro s e t hs hstep
    obtain ⟨⟨hosts, hstops⟩, rfl⟩ := hstep
    exact hs.step hosts hstops
  exact hinv.inv.inOrder

/-- A client connects on socket `7` and sends a message, the endpoint is
unbound, and then the session is closed. -/
def outlivedRun : List Event :=
  [.construct, .setSink 0 (some 0), .bind 0 ⟨[47], []⟩,
    .initializeServer ⟨.plain, 80, 4, true⟩ 0, .startServer ⟨.ok, .ok, 0, .ok, 1⟩,
    .request 0 .allOk ⟨true, some 1, 7, ⟨.text, true, []⟩⟩,
    .request 0 .allOk ⟨false, some 1, 7, ⟨.text, true, [104, 105]⟩⟩,
    .unbind 0 fun _ => ⟨true, .succeeded, .ok⟩, .sessionClosed 7]

example : (outlivedRun.foldl Hosting.step (.fresh ⟨.plain, 80, 4, true⟩)).log.filter
      (fun entry => entry.socket = some 7) =
    [.told (.connected 7), .told (.text 7 [104, 105]), .closing 7,
      .told (.disconnected 7 1001 (ascii "endpoint unbound"))] := by decide

theorem hosts_bind_of_sink {σ : Hosting} {i : Nat} {configuration : Configuration}
    (h : (σ.system.endpoints[i]?).all (fun e => e.sink.isSome) = true) :
    Hosts σ (.bind i configuration) := by
  intro e hlive
  obtain ⟨hget, -⟩ := hlive
  rw [hget] at h
  exact Option.isSome_iff_ne_none.mp h

theorem hosts_request_of_session {σ : Hosting} {r : Nat} {n : RequestNatives} {q : Request}
    (socket : Nat) (hcontext : r ∈ σ.system.contexts) (hsocket : q.socket = socket)
    (hsession : σ.session socket = none ∨ σ.session socket = some r) :
    Hosts σ (.request r n q) := by
  refine ⟨hcontext, fun t ht => ?_⟩
  obtain rfl : socket = t := by omega
  exact hsession

theorem sessions_in_order_outlived :
    SessionsInOrder (outlivedRun.foldl Hosting.step (.fresh ⟨.plain, 80, 4, true⟩)) := by
  suffices h : Runs.Run (Runs.Guarded (fun σ e => Hosts σ e ∧ ¬LetsGo σ.system e)
      fun σ e τ => Hosting.step σ e = τ)
      (.fresh ⟨.plain, 80, 4, true⟩) outlivedRun _ from sessions_in_order _ h
  have hstart : ∀ σ : System, ¬σ.Forgets [] → ∀ n, ¬LetsGo σ (.startServer n) :=
    fun _ hkept _ hgo => hkept hgo.2
  have hrequest : ∀ (σ : System) r n q, r ∈ σ.server.webSocketBindings →
    ¬LetsGo σ (.request r n q) := fun _ _ _ _ hheld hgo => hgo hheld
  have hunbind : ∀ σ : System, σ.server.server ≠ none → ∀ i n, ¬LetsGo σ (.unbind i n) :=
    fun _ hrun _ _ hgo => hrun hgo.1
  refine .cons ⟨⟨trivial, id⟩, rfl⟩ (.cons ⟨⟨nofun, id⟩, rfl⟩
    (.cons ⟨⟨hosts_bind_of_sink (by decide), id⟩, rfl⟩ (.cons ⟨⟨trivial, id⟩, rfl⟩
      (.cons ⟨⟨trivial, hstart _ (by decide) _⟩, rfl⟩ (.cons ⟨⟨?_, ?_⟩, rfl⟩ (.cons ⟨⟨?_, ?_⟩, rfl⟩
        (.cons ⟨⟨trivial, hunbind _ (by decide) _ _⟩, rfl⟩
          (.cons ⟨⟨trivial, id⟩, rfl⟩ (.nil _)))))))))
  · exact hosts_request_of_session 7 (by decide) rfl (Or.inl rfl)
  · exact hrequest _ _ _ _ (by decide)
  · exact hosts_request_of_session 7 (by decide) rfl (Or.inr rfl)
  · exact hrequest _ _ _ _ (by decide)

/-- The same session outlives its binding, and then the server is stopped, which
`httpd_stop` fails to do. -/
def forgottenRun : List Event :=
  [.construct, .setSink 0 (some 0), .bind 0 ⟨[47], []⟩,
    .initializeServer ⟨.plain, 80, 4, true⟩ 0, .startServer ⟨.ok, .ok, 0, .ok, 1⟩,
    .request 0 .allOk ⟨true, some 1, 7, ⟨.text, true, []⟩⟩,
    .unbind 0 fun _ => ⟨true, .succeeded, .ok⟩, .stopServer ⟨[], .fail⟩, .sessionClosed 7]

/-- The session's close reaches no binding state: its sink is never told. -/
theorem unclosed_session_forgotten :
    ¬∀ (defaults : HttpServer.Configuration) (events : List Event) (σ : Hosting),
      Runs.Run (Runs.Guarded Hosts fun σ e τ => Hosting.step σ e = τ) (.fresh defaults) events σ →
        SessionsInOrder σ := by
  intro hall
  have hrun : Runs.Run (Runs.Guarded Hosts fun σ e τ => Hosting.step σ e = τ)
      (.fresh ⟨.plain, 80, 4, true⟩) forgottenRun
      (forgottenRun.foldl Hosting.step (.fresh ⟨.plain, 80, 4, true⟩)) := by
    refine .cons ⟨trivial, rfl⟩ (.cons ⟨nofun, rfl⟩
      (.cons ⟨hosts_bind_of_sink (by decide), rfl⟩ (.cons ⟨trivial, rfl⟩
        (.cons ⟨trivial, rfl⟩ (.cons ⟨?_, rfl⟩ (.cons ⟨trivial, rfl⟩
          (.cons ⟨List.nodup_nil, rfl⟩ (.cons ⟨trivial, rfl⟩ (.nil _)))))))))
    exact hosts_request_of_session 7 (by decide) rfl (Or.inl rfl)
  have howed : phase 7 (forgottenRun.foldl Hosting.step (.fresh ⟨.plain, 80, 4, true⟩)).log =
      some .owed := by decide
  rcases (hall _ _ _ hrun).order 7 with hquiet | hannounced
  · rw [howed] at hquiet
    cases hquiet
  · rw [howed] at hannounced
    cases hannounced

end WebSocketEndpoint
