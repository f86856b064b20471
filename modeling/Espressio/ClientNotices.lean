import Espressio.ClientTasks

/-!
# Connected and Disconnected notifications in turn

`Connect` and `Disconnect` follow one another, called by any tasks, while the
native client raises its events in a task of its own.  An event falls anywhere
between the locked sections and the native calls of a `Disconnect`.

The second locked section of `Disconnect` reports a disconnect that no event
has reported, but only when the first one found the platform connected.  A
CONNECTED between the two is reported to the sink and then forgotten.
-/

namespace WebSocketClient

open NetworkBytes Web
open PlatformResults (EspErr)

/-- The next notice, after notices that left a connection announced or none.
The two kinds have to come in turn. -/
def follow : Option Bool → SinkCall → Option Bool
  | some false, .connected _ => some true
  | some true, .disconnected _ _ => some false
  | _, _ => none

/-- Whether a connection stands announced after these notices; `none` where
they do not alternate, with Connected first. -/
def standing (notices : List SinkCall) : Option Bool := notices.foldl follow (some false)

def SinkCall.isConnected : SinkCall → Bool
  | .connected _ => true
  | _ => false

def SinkCall.isDisconnected : SinkCall → Bool
  | .disconnected _ _ => true
  | _ => false

/-- The tasks, whether the native client has raised CONNECTED and neither
DISCONNECTED nor CLOSED since, and whether the last step was the return of a
`Disconnect` that destroyed the client. -/
structure Linked where
  tasks : Tasks
  up : Bool
  returned : Bool

def Linked.initial (sink : Option Nat) : Linked := ⟨Tasks.initial sink, false, false⟩

/-- A `Disconnect` that has destroyed its client. -/
def TaskState.hasDestroyed : TaskState → Bool
  | .finishing _ _ _ => true
  | .notifying _ => true
  | _ => false

def Linked.step (σ : Linked) (e : TaskEvent) : Linked where
  tasks := σ.tasks.step e
  up := match e with
    | .link _ .connected => true
    | .link _ _ => false
    -- A client that has just been made is not connected.
    | .connect _ _ => if σ.tasks.platform.state.client = none then false else σ.up
    | _ => σ.up
  returned := match e with
    | .advance t answer =>
        (σ.tasks.task t).hasDestroyed && ((σ.tasks.advance t answer).task t == .idle)
    | _ => false

/-- The application calls one operation at a time, `Connect` or `Disconnect`.
The native client raises events one at a time, while it exists, and no second
CONNECTED before the connection has gone down.  It is destroyed only when its
task has left the event handler. -/
def Faithful (σ : Linked) : TaskEvent → Prop
  | .connect _ _ => ∀ u, σ.tasks.task u = .idle
  | .disconnect _ _ _ => ∀ u, σ.tasks.task u = .idle
  | .advance t _ => ∀ closing stopped, σ.tasks.task t = .destroying closing stopped →
      σ.tasks.pending = none
  | .link _ .connected => σ.tasks.pending = none ∧ (∃ h, σ.tasks.Live h) ∧ σ.up = false
  | .link _ _ => σ.tasks.pending = none ∧ ∃ h, σ.tasks.Live h
  | .tell => True
  | _ => False

/-- The second locked section of a `Disconnect` finds no connection announced
unless the first one found the platform connected. -/
def Foreseen (σ : Linked) : TaskEvent → Prop
  | .advance t _ => ∀ closing stopped destroyed,
      σ.tasks.task t = .finishing closing stopped destroyed →
        closing.wasConnected = true ∨ σ.tasks.platform.state.disconnectNotified = true
  | _ => True

/-- **Notifications in turn.**  Connected and Disconnected alternate, and there
are as many of the one as of the other when a `Disconnect` that destroyed the
client returns. -/
structure InTurn (σ : Linked) : Prop where
  alternate : standing σ.tasks.notices ≠ none
  matched : σ.returned = true →
    σ.tasks.notices.countP SinkCall.isConnected = σ.tasks.notices.countP SinkCall.isDisconnected

/-! ## The notices of a list -/

theorem standing_append (notices more : List SinkCall) :
    standing (notices ++ more) = more.foldl follow (standing notices) := List.foldl_append

theorem foldl_follow_none (notices : List SinkCall) : notices.foldl follow none = none := by
  induction notices with
  | nil => rfl
  | cons call rest ih => exact ih

/-- Notices that alternate do so from their beginning. -/
theorem standing_of_append {notices : List SinkCall} (more : List SinkCall)
    (h : standing (notices ++ more) ≠ none) : standing notices ≠ none := by
  intro hnone
  rw [standing_append, hnone] at h
  exact h (foldl_follow_none more)

theorem foldl_follow_count (notices : List SinkCall) {up down : Bool}
    (h : notices.foldl follow (some up) = some down) :
    notices.countP SinkCall.isConnected + up.toNat =
      notices.countP SinkCall.isDisconnected + down.toNat := by
  induction notices generalizing up with
  | nil =>
      obtain rfl : up = down := by simpa using h
      rfl
  | cons call rest ih =>
      rw [List.foldl_cons] at h
      rw [List.countP_cons, List.countP_cons]
      cases call with
      | connected id =>
          cases up with
          | true => simp [follow, foldl_follow_none] at h
          | false =>
              have := ih h
              simp only [SinkCall.isConnected, SinkCall.isDisconnected, Bool.toNat_true,
                Bool.toNat_false, if_true, Bool.false_eq_true, if_false] at this ⊢
              omega
      | disconnected code reason =>
          cases up with
          | false => simp [follow, foldl_follow_none] at h
          | true =>
              have := ih h
              simp only [SinkCall.isConnected, SinkCall.isDisconnected, Bool.toNat_true,
                Bool.toNat_false, if_true, Bool.false_eq_true, if_false] at this ⊢
              omega
      | text id payload => cases up <;> simp [follow, foldl_follow_none] at h
      | binary id payload => cases up <;> simp [follow, foldl_follow_none] at h

/-- Where no connection stands announced, there are as many notices of the one
kind as of the other. -/
theorem count_of_standing {notices : List SinkCall} (h : standing notices = some false) :
    notices.countP SinkCall.isConnected = notices.countP SinkCall.isDisconnected := by
  simpa using foldl_follow_count notices h

/-! ## The invariant -/

/-- Whether the sink has been told of a connection and not of its end. -/
def ClientState.announced (s : ClientState) : Bool := !s.disconnectNotified && s.sink.isSome

/-- With the notice a handler is about to give, the sink knows what the
platform takes it to know. -/
def Told (σ : Tasks) : Prop :=
  standing (σ.notices ++ σ.pending.toList) = some σ.platform.state.announced

/-- What holds of the notices while the one task that is not idle is in a
state. -/
def Phase (σ : Tasks) : TaskState → Prop
  | .sending _ _ => False
  | .notifying call => σ.platform.state.client = none ∧ σ.pending = none ∧
      standing (σ.notices ++ [call]) = some false
  | .finishing _ _ _ => σ.pending = none ∧ Told σ
  | _ => Told σ

/-- **The invariant.** -/
structure NoticesInv (σ : Linked) : Prop where
  tasks : TasksInv σ.tasks
  busy : ∃ t, (∀ u, u ≠ t → σ.tasks.task u = .idle) ∧ Phase σ.tasks (σ.tasks.task t)
  connection : σ.tasks.platform.state.client ≠ none → σ.tasks.platform.state.connection ≠ none
  closed : σ.tasks.platform.state.client = none →
    σ.tasks.platform.state.disconnectNotified = true
  down : ∀ h, σ.tasks.Live h → σ.up = false → σ.tasks.platform.state.disconnectNotified = true
  returned : σ.returned = true → standing σ.tasks.notices = some false

theorem noticesInv_initial (sink : Option Nat) : NoticesInv (Linked.initial sink) where
  tasks := tasksInv_initial sink
  busy := ⟨0, fun _ _ => rfl, rfl⟩
  connection := nofun
  closed := fun _ => rfl
  down := fun _ _ _ => rfl
  returned := nofun

theorem Phase.alternate {σ : Tasks} {state : TaskState} (h : Phase σ state) :
    standing σ.notices ≠ none := by
  have htold : Told σ → standing σ.notices ≠ none := by
    intro htold
    apply standing_of_append σ.pending.toList
    rw [htold]
    simp
  cases state with
  | sending client send => exact h.elim
  | notifying call =>
      apply standing_of_append [call]
      rw [h.2.2]
      simp
  | finishing closing stopped destroyed => exact htold h.2
  | idle => exact htold h
  | mayDisconnect code reason => exact htold h
  | asking closing => exact htold h
  | stopping closing connected => exact htold h
  | destroying closing stopped => exact htold h

theorem NoticesInv.inTurn {σ : Linked} (h : NoticesInv σ) : InTurn σ where
  alternate := by
    obtain ⟨t, -, hphase⟩ := h.busy
    exact hphase.alternate
  matched := fun hreturned => count_of_standing (h.returned hreturned)

/-! ## Steps -/

theorem phase_iff {σ : Tasks} {state : TaskState} (hdestroyed : state.hasDestroyed = false)
    (hsends : state.sends = none) : Phase σ state ↔ Told σ := by
  cases state with
  | sending client send => cases hsends
  | notifying call => cases hdestroyed
  | finishing closing stopped destroyed => cases hdestroyed
  | idle => exact Iff.rfl
  | mayDisconnect code reason => exact Iff.rfl
  | asking closing => exact Iff.rfl
  | stopping closing connected => exact Iff.rfl
  | destroying closing stopped => exact Iff.rfl

theorem Phase.sends {σ : Tasks} {state : TaskState} (h : Phase σ state) :
    state.sends = none := by
  cases state with
  | sending client send => exact h.elim
  | _ => rfl

/-- No handler is between its locked section and its notice once the client
has been destroyed. -/
theorem Phase.pending {σ : Tasks} {state : TaskState} (h : Phase σ state)
    (hdestroyed : state.hasDestroyed = true) : σ.pending = none := by
  cases state with
  | notifying call => exact h.2.1
  | finishing closing stopped destroyed => exact h.1
  | _ => cases hdestroyed

/-- Nothing that the notices depend on is different. -/
structure SameNotices (σ τ : Tasks) : Prop where
  notices : τ.notices = σ.notices
  pending : τ.pending = σ.pending
  client : τ.platform.state.client = σ.platform.state.client
  connection : τ.platform.state.connection = σ.platform.state.connection
  notified : τ.platform.state.disconnectNotified = σ.platform.state.disconnectNotified
  sink : τ.platform.state.sink = σ.platform.state.sink

theorem SameNotices.told {σ τ : Tasks} (h : SameNotices σ τ) (htold : Told σ) : Told τ := by
  unfold Told ClientState.announced
  rw [h.notices, h.pending, h.notified, h.sink]
  exact htold

theorem SameNotices.phase {σ τ : Tasks} (h : SameNotices σ τ) {state : TaskState}
    (hphase : Phase σ state) : Phase τ state := by
  cases state with
  | sending client send => exact hphase
  | notifying call =>
      obtain ⟨hclient, hpending, hstanding⟩ := hphase
      refine ⟨h.client.trans hclient, h.pending.trans hpending, ?_⟩
      rw [h.notices]
      exact hstanding
  | finishing closing stopped destroyed => exact ⟨h.pending.trans hphase.1, h.told hphase.2⟩
  | idle => exact h.told hphase
  | mayDisconnect code reason => exact h.told hphase
  | asking closing => exact h.told hphase
  | stopping closing connected => exact h.told hphase
  | destroying closing stopped => exact h.told hphase

theorem NoticesInv.frame {σ : Linked} (h : NoticesInv σ) {τ : Tasks} (htasks : TasksInv τ)
    (hsame : SameNotices σ.tasks τ) (hlive : ∀ k, τ.Live k → σ.tasks.Live k) {t : Nat}
    (hothers : ∀ u, u ≠ t → τ.task u = .idle) (hphase : Phase τ (τ.task t)) {r : Bool}
    (hreturned : r = true → standing τ.notices = some false) : NoticesInv ⟨τ, σ.up, r⟩ where
  tasks := htasks
  busy := ⟨t, hothers, hphase⟩
  connection := by
    change τ.platform.state.client ≠ none → τ.platform.state.connection ≠ none
    rw [hsame.client, hsame.connection]
    exact h.connection
  closed := by
    change τ.platform.state.client = none → τ.platform.state.disconnectNotified = true
    rw [hsame.client, hsame.notified]
    exact h.closed
  down := fun k hk hup => hsame.notified.trans (h.down k (hlive k hk) hup)
  returned := hreturned

theorem NoticesInv.exclusive {σ : Linked} (h : NoticesInv σ) {e : TaskEvent}
    (hfaithful : Faithful σ e) : Exclusive σ.tasks e := by
  cases e with
  | advance t answer =>
      intro closing _ _ u hsends
      obtain ⟨t, hothers, hphase⟩ := h.busy
      by_cases hu : u = t
      · rw [hu, hphase.sends] at hsends
        cases hsends
      · rw [hothers u hu] at hsends
        cases hsends
  | sendBinary t connection data size => exact hfaithful.elim
  | sendText t connection text => exact hfaithful.elim
  | _ => trivial

/-- The first locked section of `Disconnect` changes nothing the notices depend
on. -/
theorem Tasks.disconnect_frame (σ : Tasks) (t : Nat) (code : UInt16) (reason : Bytes) :
    SameNotices σ (σ.disconnect t code reason) ∧
      (σ.disconnect t code reason).calls = σ.calls ∧
      (∀ u, u ≠ t → (σ.disconnect t code reason).task u = σ.task u) ∧
      ((σ.disconnect t code reason).task t).hasDestroyed = false ∧
      ((σ.disconnect t code reason).task t).sends = none := by
  unfold Tasks.disconnect
  split
  · refine ⟨⟨rfl, rfl, rfl, rfl, rfl, rfl⟩, rfl, fun u hu => if_neg hu, ?_, ?_⟩ <;> simp <;> rfl
  · rename_i platform closing hbegin
    have hstate : platform.state.client = σ.platform.state.client ∧
        platform.state.connection = σ.platform.state.connection ∧
        platform.state.disconnectNotified = σ.platform.state.disconnectNotified ∧
        platform.state.sink = σ.platform.state.sink := by
      unfold Platform.beginDisconnect at hbegin
      split at hbegin
      · cases hbegin
      · split at hbegin
        · cases hbegin
        · split at hbegin
          · cases hbegin
          · cases hbegin
            exact ⟨rfl, rfl, rfl, rfl⟩
    obtain ⟨hclient, hconnection, hnotified, hsink⟩ := hstate
    refine ⟨⟨rfl, rfl, hclient, hconnection, hnotified, hsink⟩, rfl, fun u hu => if_neg hu,
      ?_, ?_⟩ <;> simp <;> rfl

theorem NoticesInv.disconnect {σ : Linked} (h : NoticesInv σ) {t : Nat}
    (hothers : ∀ u, u ≠ t → σ.tasks.task u = .idle)
    (hdestroyed : (σ.tasks.task t).hasDestroyed = false)
    (hphase : Phase σ.tasks (σ.tasks.task t)) {code : UInt16} {reason : Bytes}
    (htasks : TasksInv (σ.tasks.disconnect t code reason)) :
    NoticesInv ⟨σ.tasks.disconnect t code reason, σ.up, false⟩ := by
  obtain ⟨hsame, hcalls, hrest, hnot, hsends⟩ := σ.tasks.disconnect_frame t code reason
  refine h.frame htasks hsame (fun k hk => ?_) (fun u hu => (hrest u hu).trans (hothers u hu))
    ?_ nofun
  · unfold Tasks.Live at hk ⊢
    rwa [hcalls] at hk
  · rw [phase_iff hnot hsends]
    exact hsame.told ((phase_iff hdestroyed hphase.sends).mp hphase)

/-- `Connect` makes a new session where there was no client, or does nothing. -/
theorem Tasks.connect_cases (σ : Tasks) (n : ConnectNatives) :
    σ.connect n = σ ∨
      (σ.platform.state.client = none ∧ (σ.connect n).task = σ.task ∧
        (σ.connect n).notices = σ.notices ∧ (σ.connect n).pending = σ.pending ∧
        ((σ.connect n).platform.state.disconnectNotified = true ∨
          (σ.connect n).platform.state.disconnectNotified =
            σ.platform.state.disconnectNotified) ∧
        ((σ.connect n).platform.state.client ≠ none →
          (σ.connect n).platform.state.connection ≠ none)) := by
  simp only [Tasks.connect, Platform.connect]
  split
  · left
    simp
  · rename_i hopen
    have hclient : σ.platform.state.client = none := by
      by_contra hne
      exact hopen (Or.inl hne)
    right
    refine ⟨hclient, trivial, trivial, trivial, ?_⟩
    cases n.prepared with
    | failure error native => exact ⟨Or.inr rfl, fun hne => absurd hclient hne⟩
    | success =>
        cases n.client with
        | none => exact ⟨Or.inr rfl, fun hne => absurd hclient hne⟩
        | some _ =>
            simp only [Option.map_some]
            split
            · exact ⟨Or.inr rfl, fun hne => absurd hclient hne⟩
            · split
              · exact ⟨Or.inl rfl, fun hne => absurd rfl hne⟩
              · exact ⟨Or.inl rfl, fun _ => by simp [establish]⟩

theorem NoticesInv.connect {σ : Linked} (h : NoticesInv σ) (hidle : ∀ u, σ.tasks.task u = .idle)
    {n : ConnectNatives} (htasks : TasksInv (σ.tasks.connect n)) :
    NoticesInv ⟨σ.tasks.connect n,
      if σ.tasks.platform.state.client = none then false else σ.up, false⟩ := by
  obtain ⟨t, -, hphase⟩ := h.busy
  have htold : Told σ.tasks := by
    rw [hidle t] at hphase
    exact hphase
  rcases σ.tasks.connect_cases n with heq | ⟨hclient, htask, hnotices, hpending, hnotified, hconn⟩
  · rw [heq]
    refine ⟨h.tasks, h.busy, h.connection, h.closed, fun k hk hup => ?_, nofun⟩
    by_cases hclient : σ.tasks.platform.state.client = none
    · exact h.closed hclient
    · exact h.down k hk (by simpa [hclient] using hup)
  · have hbefore := h.closed hclient
    have hafter : (σ.tasks.connect n).platform.state.disconnectNotified = true :=
      hnotified.elim id fun heq => heq.trans hbefore
    refine ⟨htasks, ⟨t, fun u _ => ?_, ?_⟩, hconn, fun _ => hafter, fun _ _ _ => hafter, nofun⟩
    · exact (congrFun htask u).trans (hidle u)
    · have hidle' : (σ.tasks.connect n).task t = .idle := (congrFun htask t).trans (hidle t)
      change Phase (σ.tasks.connect n) ((σ.tasks.connect n).task t)
      rw [hidle']
      change standing _ = _
      rw [hnotices, hpending, htold]
      simp [ClientState.announced, hbefore, hafter]

/-- A handler gives the notice that brings the sink to know what the platform
takes it to know. -/
theorem handleLinkEvent_told {p : Platform} {t : Nat} {e : LinkEvent}
    (hconnected : e = .connected → p.state.client ≠ none ∧ p.state.connection ≠ none ∧
      p.state.disconnectNotified = true)
    {notices : List SinkCall} (h : standing notices = some p.state.announced) :
    standing (notices ++ (p.handleLinkEvent t e).2.head?.toList) =
      some (p.handleLinkEvent t e).1.state.announced := by
  have hdown : ∀ clean, standing (notices ++ (handleDisconnected p.state clean).2.head?.toList) =
      some (handleDisconnected p.state clean).1.announced := by
    intro clean
    unfold handleDisconnected
    unfold ClientState.announced at h ⊢
    cases hnotified : p.state.disconnectNotified with
    | true => simpa [hnotified] using h
    | false =>
        cases hsink : p.state.sink with
        | none => simpa [hnotified, hsink] using h
        | some sink =>
            simp only [hnotified, hsink] at h
            simp [standing_append, h, follow]
  cases e with
  | disconnected => exact hdown false
  | closed => exact hdown true
  | connected =>
      obtain ⟨hclient, hconnection, hnotified⟩ := hconnected rfl
      obtain ⟨client, hclient⟩ := Option.ne_none_iff_exists'.mp hclient
      obtain ⟨id, hconnection⟩ := Option.ne_none_iff_exists'.mp hconnection
      change standing (notices ++ (handleConnected p.state).2.head?.toList) =
        some (handleConnected p.state).1.announced
      unfold handleConnected
      unfold ClientState.announced at h ⊢
      simp only [hclient, hconnection]
      cases hsink : p.state.sink with
      | none => simpa [hsink, hnotified] using h
      | some sink =>
          simp only [hsink, hnotified] at h
          simp [standing_append, h, follow]

theorem handleLinkEvent_connection (p : Platform) (t : Nat) (e : LinkEvent) :
    (p.handleLinkEvent t e).1.state.connection = p.state.connection := by
  have hdown : ∀ clean, (handleDisconnected p.state clean).1.connection = p.state.connection := by
    intro clean
    rw [handleDisconnected_state]
  cases e with
  | connected =>
      change (handleConnected p.state).1.connection = p.state.connection
      unfold handleConnected
      split <;> rfl
  | disconnected => exact hdown false
  | closed => exact hdown true

theorem NoticesInv.link {σ : Linked} (h : NoticesInv σ) {t : Nat} {e : LinkEvent}
    (hpending : σ.tasks.pending = none) (hlive : ∃ k, σ.tasks.Live k)
    (hup : e = .connected → σ.up = false) (htasks : TasksInv (σ.tasks.step (.link t e))) :
    NoticesInv (σ.step (.link t e)) := by
  obtain ⟨k, hk⟩ := hlive
  have hclient := h.tasks.live k ((h.tasks.made k).mp hk.1) hk.2
  have hsome : σ.tasks.platform.state.client ≠ none := by simp [hclient]
  obtain ⟨u, hothers, hphase⟩ := h.busy
  have hstate : (σ.tasks.task u).hasDestroyed = false := by
    cases hu : σ.tasks.task u with
    | finishing closing stopped destroyed =>
        rw [hu] at hphase
        obtain ⟨-, hc, hfree⟩ := h.tasks.closing u closing (by rw [hu]; rfl)
        obtain rfl : closing.client = k := Option.some.inj (hc.symm.trans hclient)
        have := hfree.mpr hk.2
        rw [hu] at this
        cases this
    | notifying call =>
        rw [hu] at hphase
        exact absurd hphase.1 hsome
    | _ => rfl
  have htold := (phase_iff hstate hphase.sends).mp hphase
  have hstep : σ.tasks.step (.link t e) =
      { σ.tasks with
        platform := (σ.tasks.platform.handleLinkEvent t e).1
        pending := (σ.tasks.platform.handleLinkEvent t e).2.head? } := by
    simp only [Tasks.step, if_pos hpending]
  unfold Told at htold
  rw [hpending, Option.toList_none, List.append_nil] at htold
  have hstate' := handleLinkEvent_told (p := σ.tasks.platform) (t := t) (e := e)
    (fun he => ⟨hsome, h.connection hsome, h.down k hk (hup he)⟩) htold
  obtain ⟨hclient', -⟩ := handleLinkEvent_frame σ.tasks.platform t e
  have hconnection' := handleLinkEvent_connection σ.tasks.platform t e
  rw [← hclient'] at hsome
  refine ⟨htasks, ⟨u, ?_, ?_⟩, ?_, ?_, ?_, fun hr => absurd hr Bool.false_ne_true⟩
  · change ∀ v, v ≠ u → (σ.tasks.step (.link t e)).task v = .idle
    rw [hstep]
    exact hothers
  · change Phase (σ.tasks.step (.link t e)) ((σ.tasks.step (.link t e)).task u)
    rw [hstep]
    exact (phase_iff hstate hphase.sends).mpr hstate'
  · change (σ.tasks.step (.link t e)).platform.state.client ≠ none →
      (σ.tasks.step (.link t e)).platform.state.connection ≠ none
    rw [hstep]
    intro _
    rw [hconnection']
    exact h.connection (by simp [hclient])
  · change (σ.tasks.step (.link t e)).platform.state.client = none → _
    rw [hstep]
    exact fun hnone => absurd hnone hsome
  · intro j _ hdown
    change (σ.tasks.step (.link t e)).platform.state.disconnectNotified = true
    rw [hstep]
    cases e with
    | connected => cases hdown
    | disconnected =>
        exact congrArg ClientState.disconnectNotified
          (handleDisconnected_state σ.tasks.platform.state false)
    | closed =>
        exact congrArg ClientState.disconnectNotified
          (handleDisconnected_state σ.tasks.platform.state true)

theorem Tasks.step_tell_of_none {σ : Tasks} (h : σ.pending = none) : σ.step .tell = σ := by
  cases σ
  cases h
  simp [Tasks.step]

theorem NoticesInv.tell {σ : Linked} (h : NoticesInv σ)
    (htasks : TasksInv (σ.tasks.step .tell)) : NoticesInv (σ.step .tell) := by
  obtain ⟨t, hothers, hphase⟩ := h.busy
  refine ⟨htasks, ⟨t, hothers, ?_⟩, h.connection, h.closed, h.down,
    fun hr => absurd hr Bool.false_ne_true⟩
  cases hpending : σ.tasks.pending with
  | none =>
      change Phase (σ.tasks.step .tell) ((σ.tasks.step .tell).task t)
      rw [Tasks.step_tell_of_none hpending]
      exact hphase
  | some call =>
      have hnot : (σ.tasks.task t).hasDestroyed = false := by
        by_contra hd
        have hnone := hphase.pending (by simpa using hd)
        rw [hpending] at hnone
        cases hnone
      apply (phase_iff hnot hphase.sends).mpr
      have htold := (phase_iff hnot hphase.sends).mp hphase
      change standing (σ.tasks.notices ++ σ.tasks.pending.toList ++ []) = _
      rw [List.append_nil]
      exact htold

/-- A native call of a `Disconnect`, and where it leaves the task. -/
theorem NoticesInv.call {σ : Linked} (h : NoticesInv σ) {t : Nat}
    (hothers : ∀ u, u ≠ t → σ.tasks.task u = .idle) {call : NativeCall}
    (hinit : ∀ k, call ≠ .init (some k)) {state : TaskState} (hphase : Phase σ.tasks state)
    (htasks : TasksInv ((σ.tasks.call call).set t state)) :
    NoticesInv ⟨(σ.tasks.call call).set t state, σ.up, false⟩ := by
  have hsame : SameNotices σ.tasks ((σ.tasks.call call).set t state) :=
    ⟨rfl, rfl, rfl, rfl, rfl, rfl⟩
  refine h.frame htasks hsame (fun k hk => ?_) (t := t)
    (fun u hu => (if_neg hu).trans (hothers u hu)) ?_ nofun
  · obtain ⟨hmade, hdestroyed⟩ := hk
    refine ⟨?_, fun hin => hdestroyed (List.mem_append_left _ hin)⟩
    rcases List.mem_append.mp hmade with hmade | hmade
    · exact hmade
    · exact absurd (List.mem_singleton.mp hmade).symm (hinit k)
  · rw [Tasks.task_set, if_pos rfl]
    exact hsame.phase hphase

/-- What the second locked section owes the sink ends the connection that the
sink knows of. -/
theorem finishDisconnect_told {p : Platform} {c : Closing}
    (hforeseen : c.wasConnected = true ∨ p.state.disconnectNotified = true)
    {notices : List SinkCall} (h : standing notices = some p.state.announced) :
    (p.finishDisconnect c).1.state.disconnectNotified = true ∧
      standing (notices ++ (p.finishDisconnect c).2.toList) = some false := by
  unfold Platform.finishDisconnect
  unfold ClientState.announced at h
  simp only
  split
  · rename_i howed
    refine ⟨rfl, ?_⟩
    rw [howed.2] at h
    cases hsink : p.state.sink with
    | none => simpa [hsink] using h
    | some sink =>
        simp only [hsink] at h
        simp [standing_append, h, follow]
  · rename_i howed
    have hnotified : p.state.disconnectNotified = true := by
      rcases hforeseen with hwas | hnotified
      · by_contra hnot
        exact howed ⟨hwas, by simpa using hnot⟩
      · exact hnotified
    refine ⟨hnotified, ?_⟩
    simpa [hnotified] using h

/-- A `Disconnect` leaves the platform without a client. -/
theorem NoticesInv.leave {σ : Linked} {t : Nat} (hothers : ∀ u, u ≠ t → σ.tasks.task u = .idle)
    {p : Platform} (hclient : p.state.client = none)
    (hnotified : p.state.disconnectNotified = true) {state : TaskState}
    (hphase : Phase { σ.tasks with platform := p } state)
    (htasks : TasksInv ({ σ.tasks with platform := p }.set t state)) {r : Bool}
    (hreturned : r = true → standing σ.tasks.notices = some false) :
    NoticesInv ⟨{ σ.tasks with platform := p }.set t state, σ.up, r⟩ where
  tasks := htasks
  busy := by
    refine ⟨t, fun u hu => (if_neg hu).trans (hothers u hu), ?_⟩
    change Phase _ (if t = t then state else _)
    rw [if_pos rfl]
    exact SameNotices.phase ⟨rfl, rfl, rfl, rfl, rfl, rfl⟩ hphase
  connection := fun hne => absurd hclient hne
  closed := fun _ => hnotified
  down := fun _ _ _ => hnotified
  returned := hreturned

/-- The second locked section of `Disconnect`.  Either the sink knows of no
connection, or the notice that it is owed ends the one it knows of. -/
theorem NoticesInv.finish {σ : Linked} (h : NoticesInv σ) {t : Nat}
    (hothers : ∀ u, u ≠ t → σ.tasks.task u = .idle) {c : Closing} {stopped destroyed : EspErr}
    (ht : σ.tasks.task t = .finishing c stopped destroyed)
    (hphase : Phase σ.tasks (.finishing c stopped destroyed))
    (hforeseen : c.wasConnected = true ∨ σ.tasks.platform.state.disconnectNotified = true)
    {answer : NativeAnswer} (htasks : TasksInv (σ.tasks.advance t answer)) :
    NoticesInv (σ.step (.advance t answer)) := by
  obtain ⟨hpending, htold⟩ := hphase
  have hclient := finishDisconnect_client (h.tasks.closing t c (by rw [ht]; rfl)).2.1
  unfold Told at htold
  rw [hpending, Option.toList_none, List.append_nil] at htold
  obtain ⟨hnotified, hstanding⟩ := finishDisconnect_told hforeseen htold
  change NoticesInv ⟨σ.tasks.advance t answer, σ.up,
    (σ.tasks.task t).hasDestroyed && ((σ.tasks.advance t answer).task t == .idle)⟩
  cases howed : (σ.tasks.platform.finishDisconnect c).2 with
  | none =>
      have hadvance : σ.tasks.advance t answer =
          { σ.tasks with platform := (σ.tasks.platform.finishDisconnect c).1 }.set t .idle := by
        simp only [Tasks.advance, ht, howed]
      rw [howed, Option.toList_none, List.append_nil] at hstanding
      rw [hadvance] at htasks ⊢
      refine NoticesInv.leave hothers hclient hnotified ?_ htasks fun _ => hstanding
      change standing (σ.tasks.notices ++ σ.tasks.pending.toList) = _
      rw [hpending, Option.toList_none, List.append_nil, hstanding]
      simp [ClientState.announced, hnotified]
  | some call =>
      have hadvance : σ.tasks.advance t answer =
          { σ.tasks with platform := (σ.tasks.platform.finishDisconnect c).1 }.set t
            (.notifying call) := by
        simp only [Tasks.advance, ht, howed]
      rw [howed, Option.toList_some] at hstanding
      rw [hadvance] at htasks ⊢
      refine NoticesInv.leave hothers hclient hnotified ?_ htasks ?_
      · exact ⟨hclient, hpending, hstanding⟩
      · rw [Tasks.task_set, if_pos rfl]
        simp

theorem NoticesInv.advance {σ : Linked} (h : NoticesInv σ) {t : Nat} {answer : NativeAnswer}
    (hfaithful : Faithful σ (.advance t answer)) (hforeseen : Foreseen σ (.advance t answer))
    (htasks : TasksInv (σ.tasks.advance t answer)) :
    NoticesInv (σ.step (.advance t answer)) := by
  by_cases hidle : σ.tasks.task t = .idle
  · have hadvance : σ.tasks.advance t answer = σ.tasks := by
      simp only [Tasks.advance, hidle]
    change NoticesInv ⟨σ.tasks.advance t answer, σ.up, (σ.tasks.task t).hasDestroyed && _⟩
    rw [hadvance, hidle]
    exact ⟨h.tasks, h.busy, h.connection, h.closed, h.down, nofun⟩
  · obtain ⟨u, hothers, hphase⟩ := h.busy
    obtain rfl : t = u := by
      by_contra hne
      exact hidle (hothers t hne)
    change NoticesInv ⟨σ.tasks.advance t answer, σ.up,
      (σ.tasks.task t).hasDestroyed && ((σ.tasks.advance t answer).task t == .idle)⟩
    cases ht : σ.tasks.task t with
    | idle => exact absurd ht hidle
    | sending client send =>
        rw [ht] at hphase
        exact hphase.elim
    | mayDisconnect code reason =>
        have hadvance : σ.tasks.advance t answer = σ.tasks.disconnect t code reason := by
          simp only [Tasks.advance, ht]
        rw [hadvance] at htasks ⊢
        exact h.disconnect hothers (by rw [ht]; rfl) hphase htasks
    | asking c =>
        have hadvance : σ.tasks.advance t answer =
            (σ.tasks.call (.isConnected c.client)).set t (.stopping c answer.connected) := by
          simp only [Tasks.advance, ht]
        rw [ht] at hphase
        rw [hadvance] at htasks ⊢
        exact h.call hothers (by nofun) hphase htasks
    | stopping c connected =>
        have hadvance : σ.tasks.advance t answer =
            (σ.tasks.call (c.stopCall connected)).set t (.destroying c answer.error) := by
          simp only [Tasks.advance, ht]
        rw [ht] at hphase
        rw [hadvance] at htasks ⊢
        exact h.call hothers (by cases connected <;> nofun) hphase htasks
    | destroying c stopped =>
        have hadvance : σ.tasks.advance t answer =
            (σ.tasks.call (.destroy c.client)).set t (.finishing c stopped answer.error) := by
          simp only [Tasks.advance, ht]
        rw [ht] at hphase
        rw [hadvance] at htasks ⊢
        exact h.call hothers (by nofun) ⟨hfaithful c stopped ht, hphase⟩ htasks
    | finishing c stopped destroyed =>
        rw [ht] at hphase
        have := h.finish hothers ht hphase (hforeseen c stopped destroyed ht) htasks
        simpa only [Linked.step, Tasks.step, ht] using this
    | notifying call =>
        rw [ht] at hphase
        obtain ⟨hclient, hpending, hstanding⟩ := hphase
        have hadvance : σ.tasks.advance t answer =
            { σ.tasks with notices := σ.tasks.notices ++ [call] }.set t .idle := by
          simp only [Tasks.advance, ht]
        have hnotified := h.closed hclient
        rw [hadvance] at htasks ⊢
        refine ⟨htasks, ⟨t, fun u hu => (if_neg hu).trans (hothers u hu), ?_⟩, h.connection,
          h.closed, fun _ _ _ => hnotified, fun _ => hstanding⟩
        change Phase _ (if t = t then TaskState.idle else _)
        rw [if_pos rfl]
        change standing (σ.tasks.notices ++ [call] ++ σ.tasks.pending.toList) = some _
        rw [hpending, Option.toList_none, List.append_nil, hstanding]
        simp [ClientState.announced, Tasks.set, hnotified]

theorem NoticesInv.step {σ : Linked} (h : NoticesInv σ) {e : TaskEvent}
    (hfaithful : Faithful σ e) (hforeseen : Foreseen σ e) : NoticesInv (σ.step e) := by
  have htasks := h.tasks.step e (h.exclusive hfaithful)
  cases e with
  | advance t answer => exact h.advance hfaithful hforeseen htasks
  | tell => exact h.tell htasks
  | closeConnection t connection code reason => exact hfaithful.elim
  | sendBinary t connection data size => exact hfaithful.elim
  | sendText t connection text => exact hfaithful.elim
  | link t e =>
      cases e with
      | connected => exact h.link hfaithful.1 hfaithful.2.1 (fun _ => hfaithful.2.2) htasks
      | disconnected => exact h.link hfaithful.1 hfaithful.2 nofun htasks
      | closed => exact h.link hfaithful.1 hfaithful.2 nofun htasks
  | connect t natives =>
      have hstep : σ.tasks.step (.connect t natives) = σ.tasks.connect natives := by
        simp only [Tasks.step, if_pos (hfaithful t)]
      change NoticesInv ⟨σ.tasks.step (.connect t natives), _, false⟩
      rw [hstep] at htasks ⊢
      exact h.connect hfaithful htasks
  | disconnect t code reason =>
      have hstep : σ.tasks.step (.disconnect t code reason) =
          σ.tasks.disconnect t code reason := by
        simp only [Tasks.step, if_pos (hfaithful t)]
      obtain ⟨u, -, hphase⟩ := h.busy
      change NoticesInv ⟨σ.tasks.step (.disconnect t code reason), σ.up, false⟩
      rw [hstep] at htasks ⊢
      refine h.disconnect (fun v _ => hfaithful v) (by rw [hfaithful t]; rfl) ?_ htasks
      rw [hfaithful t, ← hfaithful u]
      exact hphase

/-- **Notifications in turn**, in every run of `Connect` and `Disconnect` in
which no second locked section finds a connection announced that the first one
did not know of. -/
theorem in_turn_of_foreseen (sink : Option Nat) {events : List TaskEvent} {σ : Linked}
    (h : Runs.Run (Runs.Guarded Foreseen (Runs.Guarded Faithful fun σ e τ => Linked.step σ e = τ))
      (Linked.initial sink) events σ) : InTurn σ := by
  have hinv : NoticesInv σ := by
    refine h.invariant ?_ (noticesInv_initial sink)
    intro s e t hs hstep
    obtain ⟨hforeseen, hfaithful, rfl⟩ := hstep
    exact hs.step hfaithful hforeseen
  exact hinv.inTurn

/-- The client is connected when `Disconnect` begins, and `stop` raises no
event. -/
def disconnectWhileConnected : List TaskEvent :=
  [.connect 0 connects, .link 9 .connected, .tell, .disconnect 0 1000 [],
    .advance 0 ⟨false, .ok⟩, .advance 0 answers, .advance 0 answers, .advance 0 answers,
    .advance 0 answers]

theorem in_turn_disconnect_while_connected :
    InTurn (disconnectWhileConnected.foldl Linked.step (Linked.initial (some 0))) := by
  have hrun : Runs.Run
      (Runs.Guarded Foreseen (Runs.Guarded Faithful fun σ e τ => Linked.step σ e = τ))
      (Linked.initial (some 0)) disconnectWhileConnected
      (disconnectWhileConnected.foldl Linked.step (Linked.initial (some 0))) := by
    refine .cons ⟨trivial, fun _ => rfl, rfl⟩ (.cons ⟨trivial, ⟨rfl, ⟨0, ?_, ?_⟩, rfl⟩, rfl⟩
      (.cons ⟨trivial, trivial, rfl⟩ (.cons ⟨trivial, fun _ => rfl, rfl⟩
        (.cons ⟨nofun, nofun, rfl⟩ (.cons ⟨nofun, nofun, rfl⟩
          (.cons ⟨nofun, fun _ _ _ => rfl, rfl⟩ (.cons ⟨?_, nofun, rfl⟩
            (.cons ⟨nofun, nofun, rfl⟩ (.nil _)))))))))
    · decide +kernel
    · decide +kernel
    · intro closing stopped destroyed hfinishing
      cases hfinishing
      exact Or.inl rfl
  exact in_turn_of_foreseen (some 0) hrun

/-- The connection comes up between the first locked section of `Disconnect`
and the native calls, and the close raises no event. -/
def connectedDuringDisconnect : List TaskEvent :=
  [.connect 0 connects, .disconnect 0 1000 [], .link 9 .connected, .tell,
    .advance 0 answers, .advance 0 answers, .advance 0 answers, .advance 0 answers]

/-- `Disconnect` returns, and the sink has been told of the connection only. -/
theorem connected_left_unmatched :
    ∃ σ, Runs.Run (Runs.Guarded Faithful fun σ e τ => Linked.step σ e = τ)
      (Linked.initial (some 0)) connectedDuringDisconnect σ ∧ ¬InTurn σ := by
  refine ⟨connectedDuringDisconnect.foldl Linked.step (Linked.initial (some 0)), ?_, ?_⟩
  · refine .cons ⟨fun _ => rfl, rfl⟩ (.cons ⟨fun _ => rfl, rfl⟩
      (.cons ⟨⟨rfl, ⟨0, ?_, ?_⟩, rfl⟩, rfl⟩ (.cons ⟨trivial, rfl⟩ (.cons ⟨nofun, rfl⟩
        (.cons ⟨nofun, rfl⟩ (.cons ⟨fun _ _ _ => rfl, rfl⟩ (.cons ⟨nofun, rfl⟩ (.nil _))))))))
    · decide +kernel
    · decide +kernel
  · intro h
    have hmatched := h.matched (by decide +kernel)
    revert hmatched
    decide +kernel

end WebSocketClient
