import Espressio.EndpointBindings

/-!
# Which endpoints are bound, over whole runs

A `Ledger` is kept beside a run of operations: the endpoints that `Bind` has
bound and nothing has unbound since, by the results of the operations, and
the binding states that have been unbound.  In every run the ledger agrees
with what the endpoints and the server hold.
-/

namespace WebSocketEndpoint

open NetworkBytes Web HttpServer

structure Ledger where
  system : System
  bound : List Nat
  unbound : List Nat

def Ledger.fresh (defaults : HttpServer.Configuration) : Ledger :=
  ⟨.fresh defaults, [], []⟩

/-- The binding state of endpoint `i`, if the endpoint is bound. -/
def System.boundState (σ : System) (i : Nat) : List Nat :=
  match σ.endpoints[i]? with
  | some e => if e.alive && σ.isBound e then [e.state] else []
  | none => []

def Ledger.step (σ : Ledger) (e : Event) : Ledger where
  system := (σ.system.step e).next
  bound := match e with
    | .bind i _ =>
        if (σ.system.endpoints[i]?).any (·.alive) ∧ (σ.system.step e).result = .success then
          i :: σ.bound
        else σ.bound
    | .unbind i _ => σ.bound.filter (· ≠ i)
    | .destroy i _ => σ.bound.filter (· ≠ i)
    | _ => σ.bound
  unbound := match e with
    | .unbind i _ => σ.unbound ++ σ.system.boundState i
    | .destroy i _ => σ.unbound ++ σ.system.boundState i
    | _ => σ.unbound

/-- The active binding states that the server holds. -/
def System.activeBindings (σ : System) : List Nat :=
  σ.server.webSocketBindings.filter fun r => (σ.info r).active

/-- **Bindings in order.**  An endpoint is bound, by the results of its
operations, if and only if its state is active and the server holds it; no two
active states held have one path; a `Start` that succeeds registers exactly
the active states, each once; and a state once unbound is not active. -/
structure InOrder (σ : Ledger) : Prop where
  bound : ∀ i e, σ.system.Live i e →
    (σ.system.isBound e = true ↔ i ∈ σ.bound) ∧
      (σ.system.isBound e = true ↔
        (σ.system.info e.state).active = true ∧ σ.system.Held e.state)
  paths : σ.system.activeBindings.Pairwise fun r q =>
    cString (σ.system.info r).path ≠ cString (σ.system.info q).path
  started : ∀ n, (σ.system.step (.startServer n)).result = .success →
    let τ := (σ.system.step (.startServer n)).next
    τ.registered.Nodup ∧ ∀ r, r ∈ τ.registered ↔ (τ.info r).active = true
  unbound : ∀ r ∈ σ.unbound, (σ.system.info r).active = false

structure LedgerInv (σ : Ledger) : Prop where
  bindings : Bindings σ.system
  known : ∀ i ∈ σ.bound, i < σ.system.endpoints.length
  bound : ∀ i r, σ.system.Current i r → ((σ.system.info r).active = true ↔ i ∈ σ.bound)
  gone : ∀ r ∈ σ.unbound, r < σ.system.states.length ∧ ∀ i, ¬σ.system.Current i r

theorem ledgerInv_fresh (defaults : HttpServer.Configuration) :
    LedgerInv (Ledger.fresh defaults) where
  bindings := bindings_fresh defaults
  known := nofun
  bound := by
    intro i r hr
    obtain ⟨e, hl, -⟩ := hr
    cases hl.1
  gone := nofun

/-- What a `Start` that succeeds has registered. -/
theorem startServer_registered {σ : System} {n : StartNatives}
    (h : (σ.startServer n).2 = .success) :
    (σ.startServer n).1.registered = (σ.startServer n).1.activeBindings := by
  unfold System.startServer beginStart at h ⊢
  by_cases hidle : σ.server.idle = false
  · rw [if_pos hidle] at h
    cases h
  · rw [if_neg hidle] at h ⊢
    by_cases hdispatcher : σ.server.dispatcher = none
    · rw [if_pos hdispatcher] at h
      cases h
    · rw [if_neg hdispatcher] at h ⊢
      dsimp only at h ⊢
      by_cases hstarted : n.started ≠ .ok
      · rw [if_pos hstarted] at h
        exact absurd (httpResult_success.mp h) hstarted
      · rw [if_neg hstarted] at h ⊢
        by_cases hregistration : n.registration ≠ .ok
        · rw [if_pos hregistration] at h
          exact absurd (httpResult_success.mp h) hregistration
        · rw [if_neg hregistration]
          change _ = List.filter (fun r => (σ.info r).active)
            (σ.server.webSocketBindings.filter fun r => (σ.info r).active)
          rw [List.filter_filter]
          simp only [Bool.and_self]
          rfl

theorem LedgerInv.inOrder {σ : Ledger} (h : LedgerInv σ) : InOrder σ where
  bound := by
    intro i e hl
    have hbound := h.bound i e.state ⟨e, hl, rfl⟩
    refine ⟨hbound, fun hactive => ⟨hactive, (h.bindings.active _ hactive).1⟩, fun hboth => hboth.1⟩
  paths := by
    apply (h.bindings.nodup.filter _).imp_of_mem
    intro r q hr hq hne
    exact h.bindings.paths r q hne (List.mem_filter.mp hr).2 (List.mem_filter.mp hq).2
  started := by
    intro n hresult
    have hafter := h.bindings.same (sameBindings_startServer σ.system n)
    change (σ.system.startServer n).1.registered.Nodup ∧
      ∀ r, r ∈ (σ.system.startServer n).1.registered ↔ _
    rw [startServer_registered hresult]
    refine ⟨hafter.nodup.filter _, fun r => ⟨fun hr => (List.mem_filter.mp hr).2, fun hr => ?_⟩⟩
    exact List.mem_filter.mpr ⟨(hafter.active r hr).1, hr⟩
  unbound := by
    intro r hr
    by_contra hactive
    obtain ⟨-, i, hi⟩ := h.bindings.active r (by simpa using hactive)
    exact (h.gone r hr).2 i hi

/-! ## Steps -/

theorem LedgerInv.same {σ : Ledger} {τ : System} (h : LedgerInv σ)
    (hsame : SameBindings σ.system τ) : LedgerInv ⟨τ, σ.bound, σ.unbound⟩ where
  bindings := h.bindings.same hsame
  known := fun i hi => Nat.lt_of_lt_of_le (h.known i hi) hsame.endpoints
  bound := by
    intro i r hr
    rw [hsame.active]
    exact h.bound i r ((hsame.current i r).mp hr)
  gone := by
    intro r hr
    obtain ⟨hlt, hgone⟩ := h.gone r hr
    rw [← hsame.states] at hlt
    exact ⟨hlt, fun i hi => hgone i ((hsame.current i r).mp hi)⟩

theorem LedgerInv.bind {σ : Ledger} {τ : System} {i r : Nat} (h : LedgerInv σ)
    (hbind : Binds σ.system i r τ) : LedgerInv ⟨τ, i :: σ.bound, σ.unbound⟩ where
  bindings := h.bindings.bind hbind
  known := by
    intro j hj
    refine Nat.lt_of_lt_of_le ?_ hbind.endpoints
    rcases List.mem_cons.mp hj with rfl | hj
    · obtain ⟨e, hl, -⟩ := hbind.own
      exact (List.getElem?_eq_some_iff.mp hl.1).1
    · exact h.known j hj
  bound := by
    intro j q hq
    have hq' := (hbind.current j q).mp hq
    rw [hbind.active, h.bound j q hq', List.mem_cons]
    refine or_congr ⟨fun heq => ?_, fun heq => ?_⟩ Iff.rfl
    · exact h.bindings.distinct j i r (heq ▸ hq') hbind.own
    · subst heq
      obtain ⟨e, hl, rfl⟩ := hbind.own
      exact (current_of_live hl q).mp hq'
  gone := by
    intro q hq
    obtain ⟨hlt, hgone⟩ := h.gone q hq
    rw [← hbind.states] at hlt
    exact ⟨hlt, fun j hj => hgone j ((hbind.current j q).mp hj)⟩

theorem LedgerInv.renew {σ : Ledger} {τ : System} {i : Nat} (h : LedgerInv σ)
    (hrenew : Renews σ.system i τ) (more : List Nat) (hmore : ∀ r ∈ more, σ.system.Current i r) :
    LedgerInv ⟨τ, σ.bound.filter (· ≠ i), σ.unbound ++ more⟩ where
  bindings := h.bindings.renew hrenew
  known := fun j hj => Nat.lt_of_lt_of_le (h.known j (List.mem_filter.mp hj).1) hrenew.endpoints
  bound := by
    intro j q hq
    rw [hrenew.active, List.mem_filter]
    rcases (hrenew.current j q).mp hq with ⟨rfl, rfl⟩ | ⟨hne, hq⟩
    · rw [Bindings.fresh_inactive (Nat.le_refl _)]
      simp
    · have hother : ¬σ.system.Current i q := fun hi => hne (h.bindings.distinct j i q hq hi)
      simp [hother, hne, h.bound j q hq]
  gone := by
    intro q hq
    have hlt : q < σ.system.states.length ∧ ∀ j, j ≠ i → ¬σ.system.Current j q := by
      rcases List.mem_append.mp hq with hq | hq
      · obtain ⟨hlt, hgone⟩ := h.gone q hq
        exact ⟨hlt, fun j _ => hgone j⟩
      · have hi := hmore q hq
        exact ⟨h.bindings.inHeap i q hi, fun j hj hc => hj (h.bindings.distinct j i q hc hi)⟩
    refine ⟨by rw [hrenew.states]; exact Nat.lt_succ_of_lt hlt.1, fun j hj => ?_⟩
    rcases (hrenew.current j q).mp hj with ⟨-, rfl⟩ | ⟨hne, hj⟩
    · exact absurd hlt.1 (Nat.lt_irrefl _)
    · exact hlt.2 j hne hj

theorem LedgerInv.bury {σ : Ledger} {τ : System} {i : Nat} (h : LedgerInv σ)
    (hbury : Buries σ.system i τ) : LedgerInv ⟨τ, σ.bound.filter (· ≠ i), σ.unbound⟩ where
  bindings := h.bindings.bury hbury
  known := fun j hj => Nat.lt_of_lt_of_le (h.known j (List.mem_filter.mp hj).1) hbury.endpoints
  bound := by
    intro j q hq
    obtain ⟨hne, hq⟩ := (hbury.current j q).mp hq
    rw [hbury.info, List.mem_filter, h.bound j q hq]
    simp [hne]
  gone := by
    intro q hq
    obtain ⟨hlt, hgone⟩ := h.gone q hq
    rw [← hbury.states] at hlt
    exact ⟨hlt, fun j hj => hgone j ((hbury.current j q).mp hj).2⟩

theorem filter_ne_of_unbound {i : Nat} {bound : List Nat} (h : i ∉ bound) :
    bound.filter (· ≠ i) = bound := by
  apply List.filter_eq_self.mpr
  intro j hj
  have hne : j ≠ i := fun heq => h (heq ▸ hj)
  simpa using hne

/-- What `unbind` comes to for the ledger. -/
theorem LedgerInv.unbind {σ : Ledger} (h : LedgerInv σ) {i : Nat} {e : Endpoint}
    (hl : σ.system.Live i e) {τ : System}
    (hcases : (σ.system.isBound e = false ∧ SameBindings σ.system τ) ∨
      (σ.system.isBound e = true ∧ Renews σ.system i τ)) :
    LedgerInv ⟨τ, σ.bound.filter (· ≠ i), σ.unbound ++ σ.system.boundState i⟩ := by
  have hstate : σ.system.boundState i = if σ.system.isBound e then [e.state] else [] := by
    unfold System.boundState
    rw [hl.1]
    simp [hl.2]
  rw [hstate]
  rcases hcases with ⟨hunbound, hsame⟩ | ⟨hbound, hrenew⟩
  · have hnot : i ∉ σ.bound := by
      intro hi
      have hactive := (h.bound i e.state ⟨e, hl, rfl⟩).mpr hi
      unfold System.isBound at hunbound
      rw [show (σ.system.info e.state).active = (σ.system.state e.state).active from rfl,
        hunbound] at hactive
      cases hactive
    rw [filter_ne_of_unbound hnot, hunbound]
    simpa using h.same hsame
  · rw [hbound, if_pos rfl]
    apply h.renew hrenew [e.state]
    intro r hr
    rw [List.mem_singleton.mp hr]
    exact ⟨e, hl, rfl⟩

/-- An operation on an endpoint that is not live changes nothing. -/
theorem LedgerInv.dead {σ : Ledger} (h : LedgerInv σ) {i : Nat}
    (hdead : ∀ e, ¬σ.system.Live i e) :
    LedgerInv ⟨σ.system, σ.bound.filter (· ≠ i), σ.unbound ++ σ.system.boundState i⟩ := by
  have hstate : σ.system.boundState i = [] := by
    unfold System.boundState
    cases he : σ.system.endpoints[i]? with
    | none => rfl
    | some e =>
        have halive : e.alive = false := by
          by_contra halive
          exact hdead e ⟨he, by simpa using halive⟩
        simp [halive]
  rw [hstate, List.append_nil]
  refine ⟨h.bindings, fun j hj => h.known j (List.mem_filter.mp hj).1, fun j r hr => ?_, h.gone⟩
  have hne : j ≠ i := by
    intro heq
    obtain ⟨e, hl, -⟩ := hr
    exact hdead e (heq ▸ hl)
  rw [List.mem_filter, h.bound j r hr]
  simp [hne]

theorem live_iff_any {σ : System} {i : Nat} :
    (σ.endpoints[i]?).any (·.alive) = true ↔ ∃ e, σ.Live i e := by
  unfold System.Live
  cases σ.endpoints[i]? <;> simp

theorem LedgerInv.stepBind {σ : Ledger} (h : LedgerInv σ) (i : Nat)
    (configuration : Configuration) : LedgerInv (σ.step (.bind i configuration)) := by
  rcases onEndpoint_eq σ.system i fun e => σ.system.bind e configuration with
    ⟨heq, hdead⟩ | ⟨e, hl, heq⟩
  · have hstep : σ.step (.bind i configuration) = σ := by
      have hany : ¬(σ.system.endpoints[i]?).any (·.alive) = true := by
        rw [live_iff_any]
        intro hlive
        obtain ⟨e, hl⟩ := hlive
        exact hdead e hl
      simp only [Ledger.step, System.step, heq, hany, Bool.false_eq_true, false_and, if_false]
    rw [hstep]
    exact h
  · have hany : (σ.system.endpoints[i]?).any (·.alive) = true := live_iff_any.mpr ⟨e, hl⟩
    rcases bind_cases h.bindings hl configuration with ⟨hfailed, hsame⟩ | ⟨hsuccess, hbind⟩
    · have := h.same hsame
      simpa only [Ledger.step, System.step, heq, hfailed, and_false, if_false] using this
    · have := h.bind hbind
      simpa only [Ledger.step, System.step, heq, hany, hsuccess, and_self, if_true] using this

/-- **Step lemma.** -/
theorem LedgerInv.step {σ : Ledger} (h : LedgerInv σ) (e : Event) : LedgerInv (σ.step e) := by
  cases e with
  | construct =>
      have hrenew := h.renew (renews_construct σ.system) [] nofun
      rw [List.append_nil, filter_ne_of_unbound] at hrenew
      · exact hrenew
      · exact fun hknown => Nat.lt_irrefl _ (h.known _ hknown)
  | destroy i natives =>
      rcases onEndpoint_eq σ.system i fun e => ((σ.system.destroy i e natives).1, .success,
        (σ.system.destroy i e natives).2) with ⟨heq, hdead⟩ | ⟨e, hl, heq⟩
      · have := h.dead hdead
        simpa only [Ledger.step, System.step, heq] using this
      · obtain ⟨τ, hcases, hbury⟩ := destroy_cases h.bindings hl natives
        have := (h.unbind hl hcases).bury hbury
        rw [List.filter_filter] at this
        simpa only [Ledger.step, System.step, heq, Bool.and_self] using this
  | setSink i sink =>
      rcases onEndpoint_eq σ.system i fun e => (σ.system.setSink i e sink, .success, []) with
        ⟨heq, -⟩ | ⟨e, hl, heq⟩
      · simpa only [Ledger.step, System.step, heq] using h
      · have := h.same (sameBindings_setSink hl sink)
        simpa only [Ledger.step, System.step, heq] using this
  | bind i configuration => exact h.stepBind i configuration
  | unbind i natives =>
      rcases onEndpoint_eq σ.system i fun e => σ.system.unbind i e natives with
        ⟨heq, hdead⟩ | ⟨e, hl, heq⟩
      · have := h.dead hdead
        simpa only [Ledger.step, System.step, heq] using this
      · have := h.unbind hl (unbind_cases h.bindings hl natives)
        simpa only [Ledger.step, System.step, heq] using this
  | initializeServer configuration dispatcher =>
      exact h.same (sameBindings_initializeServer σ.system configuration dispatcher)
  | startServer natives => exact h.same (sameBindings_startServer σ.system natives)
  | stopServer natives => exact h.same (sameBindings_stopServer σ.system natives)
  | resetServer natives => exact h.same (sameBindings_resetServer σ.system natives)
  | request r natives q => exact h.same (sameBindings_dispatchRequest σ.system r natives q)
  | sessionClosed socket =>
      exact h.same (sameBindings_notifySessionClosed σ.system socket _)
  | sendCompleted socket closeAfterSend => exact h.same (.refl σ.system)

/-- **Bindings in order**, in every run of operations on any number of
endpoints and their server, whatever the native calls answer. -/
theorem bindings_in_order (defaults : HttpServer.Configuration) (events : List Event) :
    InOrder (events.foldl Ledger.step (Ledger.fresh defaults)) := by
  have hrun := Runs.Run.of_foldl Ledger.step events (Ledger.fresh defaults)
  have hinv : LedgerInv (events.foldl Ledger.step (Ledger.fresh defaults)) := by
    refine hrun.invariant ?_ (ledgerInv_fresh defaults)
    intro σ e τ hσ hstep
    rw [← hstep]
    exact hσ.step e
  exact hinv.inOrder

end WebSocketEndpoint
