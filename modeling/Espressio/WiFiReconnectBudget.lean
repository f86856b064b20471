import Espressio.WiFiOperations

/-!
# The budget of automatic reconnects

The attempts the platform makes on its own between two events that fill the
budget up again: an `Apply` or `ConnectClient` call, or a poll that finds the
client connected.

`_reconnectAttempts` counts what has been scheduled, not what has been made.
The invariant (`Budget`) is that there were no more attempts than schedules,
and fewer while one is pending.  `ConnectClient` zeroes the counter and leaves
the deadline of an earlier schedule standing; it is harmless because the client
is `connecting` then, and only a new schedule makes it `reconnecting`.
-/

namespace WiFi

open Runs

variable {p q : Platform} {made : Nat} (defaults : Defaults) (backoff : Backoff)

/-- The attempts an operation makes that nobody asked for. -/
def automaticAttempts (p : Platform) : Op → Nat
  | .poll readings => attemptsStarted (pollStep defaults backoff p readings).2
  | _ => 0

/-- The same over the steps of a run. -/
def attemptsMade : List (Platform × Op) → Nat
  | [] => 0
  | x :: rest => automaticAttempts defaults backoff x.1 x.2 + attemptsMade rest

/-- A call of `Apply` or `ConnectClient`. -/
def Op.Asks : Op → Prop
  | .apply _ _ | .connectClient _ _ | .connectProfile _ _ _ => True
  | _ => False

/-- The events that fill the budget up. -/
def Refills (p : Platform) : Op → Prop
  | .poll readings => p.Observes readings.reconnect
  | op => op.Asks

/-- The policy, the deadline and the counter are the same, and nothing is
pending that was not. -/
structure KeepsReconnect (p q : Platform) : Prop where
  policy : q.configuration.reconnect = p.configuration.reconnect
  deadline : q.nextReconnectMilliseconds = p.nextReconnectMilliseconds
  attempts : q.reconnectAttempts = p.reconnectAttempts
  pending : q.ReconnectPending → p.ReconnectPending

theorem KeepsReconnect.refl (p : Platform) : KeepsReconnect p p := ⟨rfl, rfl, rfl, id⟩

theorem Keeps.reconnect (k : Keeps p q) (h : q.ReconnectPending → p.ReconnectPending) :
    KeepsReconnect p q :=
  ⟨by rw [k.configuration], k.deadline, k.attempts, h⟩

theorem Keeps.reconnect_of_client (k : Keeps p q ∧ q.state.client = p.state.client) :
    KeepsReconnect p q :=
  k.1.reconnect (k.1.pending (by rw [k.2]))

/-- Only polls and what somebody asked for matter to reconnects. -/
theorem keepsReconnect_step {op : Op} (hasks : ¬op.Asks) (hpoll : ∀ r, op ≠ .poll r) :
    KeepsReconnect p (step defaults backoff p op).1 := by
  cases op with
  | apply c n => exact absurd trivial hasks
  | connectClient config now => exact absurd trivial hasks
  | connectProfile profile config now => exact absurd trivial hasks
  | disable modeOk =>
      simp only [step, Platform.disable]
      split
      · exact ⟨rfl, rfl, rfl, fun h => ⟨h.usesClient, h.state, h.deadline⟩⟩
      · exact ⟨rfl, rfl, rfl, fun h => by cases h.usesClient⟩
  | disconnectClient ok =>
      simp only [step, Platform.disconnectClient]
      split
      · exact KeepsReconnect.refl p
      · exact ⟨rfl, rfl, rfl, fun h => by cases h.state⟩
  | startAccessPoint modeOk n => exact Keeps.reconnect_of_client (keeps_startAccessPoint p modeOk n)
  | stopAccessPoint disconnectOk modeOk =>
      exact Keeps.reconnect_of_client (keeps_stopAccessPoint defaults p disconnectOk modeOk)
  | startScan failed => exact Keeps.reconnect_of_client (keeps_startScan p failed)
  | poll readings => exact absurd rfl (hpoll readings)

/-! ## The budget -/

/-- Of the attempts scheduled, `made` have been made, and not the pending one. -/
structure Budget (p : Platform) (made : Nat) : Prop where
  limit : p.reconnectAttempts.toNat ≤ p.configuration.reconnect.maximumAttempts.toNat
  scheduled : made ≤ p.reconnectAttempts.toNat
  pending : p.ReconnectPending → made < p.reconnectAttempts.toNat

theorem Budget.keeps (h : Budget p made) (k : KeepsReconnect p q) : Budget q made where
  limit := by
    rw [k.attempts, k.policy]
    exact h.limit
  scheduled := by
    rw [k.attempts]
    exact h.scheduled
  pending hq := by
    rw [k.attempts]
    exact h.pending (k.pending hq)

theorem Budget.zero (h : Budget p made) : Budget p 0 :=
  ⟨h.limit, Nat.zero_le _, fun hp => Nat.zero_lt_of_lt (h.pending hp)⟩

/-- Nothing is scheduled yet. -/
theorem budget_zero (hzero : p.reconnectAttempts = 0) (hpending : ¬p.ReconnectPending) :
    Budget p 0 where
  limit := by
    rw [hzero]
    exact Nat.zero_le _
  scheduled := Nat.zero_le _
  pending hp := absurd hp hpending

/-- A schedule adds one, as long as there is one left. -/
theorem Budget.schedule (h : Budget p made)
    (hmax : p.configuration.reconnect.maximumAttempts ≠ 0) (now : UInt32) :
    Budget (p.scheduleReconnect backoff now) made := by
  obtain ⟨hlimit, hmade, -⟩ := h
  unfold Platform.scheduleReconnect
  split
  · exact ⟨hlimit, hmade, fun hp => by cases hp.state⟩
  · split
    · exact ⟨hlimit, hmade, fun hp => by cases hp.state⟩
    · rename_i hleft
      have hless : p.reconnectAttempts.toNat <
          p.configuration.reconnect.maximumAttempts.toNat := by
        rw [not_and, UInt32.not_le] at hleft
        exact UInt32.lt_iff_toNat_lt.mp (hleft hmax)
      have hbound := p.configuration.reconnect.maximumAttempts.toNat_lt
      have hnext : (p.reconnectAttempts + 1).toNat = p.reconnectAttempts.toNat + 1 := by
        rw [UInt32.toNat_add]
        exact Nat.mod_eq_of_lt (by simp; omega)
      refine ⟨?_, ?_, fun _ => ?_⟩
      · exact hnext ▸ hless
      · exact hnext ▸ Nat.le_succ_of_le hmade
      · exact hnext ▸ Nat.lt_succ_of_le hmade

/-- **A poll** pays for its attempt with the one that was pending, unless it
finds the client connected and starts anew. -/
theorem Budget.poll (h : Budget p made)
    (hmax : p.configuration.reconnect.maximumAttempts ≠ 0) (r : PollReadings) :
    Budget (pollStep defaults backoff p r).1
        (made + attemptsStarted (pollStep defaults backoff p r).2) ∨
      (p.Observes r.reconnect ∧ Budget (pollStep defaults backoff p r).1 0) := by
  obtain ⟨hkeeps, hpending, hcalls⟩ := pollStep_spec defaults backoff p r
  have hkept := hkeeps.reconnect hpending
  rw [hcalls]
  have houtcome := pollReconnect_outcome backoff p r.reconnect
  generalize p.pollReconnect backoff r.reconnect = out at houtcome hkept ⊢
  cases houtcome with
  | idle => exact Or.inl (h.keeps hkept)
  | observed hobserved =>
      exact Or.inr ⟨hobserved, (budget_zero rfl fun hp => hp.deadline rfl).keeps hkept⟩
  | scheduled now => exact Or.inl ((h.schedule backoff hmax now).keeps hkept)
  | attempted due =>
      have hbegun : ({ p with nextReconnectMilliseconds := 0 } : Platform).activeSSID ≠ [] :=
        due.ssid
      rw [Platform.beginClient, if_neg hbegun] at hkept ⊢
      refine Or.inl (Budget.keeps ?_ hkept)
      exact ⟨h.limit, h.pending due.pending, fun hp => absurd rfl hp.deadline⟩

/-- **One operation** that is no such event. -/
theorem Budget.step (h : Budget p made)
    (hmax : p.configuration.reconnect.maximumAttempts ≠ 0) {op : Op} (hno : ¬Refills p op) :
    Budget (step defaults backoff p op).1 (made + automaticAttempts defaults backoff p op) := by
  cases op with
  | apply c n => exact absurd trivial hno
  | connectClient config now => exact absurd trivial hno
  | connectProfile profile config now => exact absurd trivial hno
  | poll readings =>
      rcases h.poll defaults backoff hmax readings with hpaid | ⟨hobserved, -⟩
      · exact hpaid
      · exact absurd hobserved hno
  | _ => exact h.keeps (keepsReconnect_step defaults backoff id (by simp))

/-! ## Whatever has been done -/

/-- The budget is in order, and without automatic reconnects there is no
deadline. -/
structure ReconnectInv (p : Platform) : Prop where
  budget : p.configuration.reconnect.maximumAttempts ≠ 0 → Budget p 0
  disabled : p.configuration.reconnect.enabled = false → p.nextReconnectMilliseconds = 0

theorem ReconnectInv.keeps (h : ReconnectInv p) (k : KeepsReconnect p q) : ReconnectInv q where
  budget := by
    rw [k.policy]
    exact fun hmax => (h.budget hmax).keeps k
  disabled := by
    rw [k.policy, k.deadline]
    exact h.disabled

/-- Counter and deadline at zero. -/
theorem reconnectInv_zero (hattempts : p.reconnectAttempts = 0)
    (hdeadline : p.nextReconnectMilliseconds = 0) : ReconnectInv p :=
  ⟨fun _ => budget_zero hattempts fun hp => hp.deadline hdeadline, fun _ => hdeadline⟩

/-- The end of a `ConnectClient`. -/
theorem ReconnectInv.connect (h : ReconnectInv p) (address : Bool × List Call) (now : UInt32) :
    ReconnectInv (p.connectConfigured address now).1 := by
  rcases connectConfigured_cases p address now with ⟨-, heq⟩ | ⟨-, heq⟩
  · rw [heq]
    exact h
  · rw [heq]
    have hkeeps := keeps_beginClient { p with manualDisconnect := false, reconnectAttempts := 0 }
      false now
    refine ⟨fun _ => budget_zero hkeeps.attempts (not_pending_beginClient _ now), ?_⟩
    rw [hkeeps.configuration, hkeeps.deadline]
    exact h.disabled

theorem ReconnectInv.poll (h : ReconnectInv p) (r : PollReadings) :
    ReconnectInv (pollStep defaults backoff p r).1 := by
  obtain ⟨hkeeps, -, -⟩ := pollStep_spec defaults backoff p r
  obtain ⟨hframe, hdeadline⟩ := pollReconnect_frame backoff p r.reconnect
  have hpolicy : (pollStep defaults backoff p r).1.configuration = p.configuration :=
    hkeeps.configuration.trans hframe.configuration
  refine ⟨?_, ?_⟩
  · rw [hpolicy]
    intro hmax
    rcases (h.budget hmax).poll defaults backoff hmax r with hpaid | ⟨-, hanew⟩
    · exact hpaid.zero
    · exact hanew
  · rw [hpolicy, hkeeps.deadline]
    intro hoff
    rcases hdeadline with hzero | hsame | henabled
    · exact hzero
    · exact hsame.trans (h.disabled hoff)
    · rw [hoff] at henabled
      cases henabled

theorem reconnectInv_step (p : Platform) (op : Op) (h : ReconnectInv p) :
    ReconnectInv (step defaults backoff p op).1 := by
  cases op with
  | apply c n =>
      cases hvalid : validate c with
      | false => simpa [WiFi.step, apply_refused defaults p hvalid n] using h
      | true =>
          have hkeeps := keeps_apply defaults p hvalid n
          exact reconnectInv_zero hkeeps.attempts hkeeps.deadline
  | connectClient config now =>
      simp only [WiFi.step, Platform.connectClient]
      split
      · exact h
      · apply ReconnectInv.connect
        exact h.keeps ⟨rfl, rfl, rfl, fun hp => ⟨hp.usesClient, hp.state, hp.deadline⟩⟩
  | connectProfile profile config now =>
      simp only [WiFi.step, Platform.connectProfile]
      split
      · exact h
      · split
        · exact h
        · apply ReconnectInv.connect
          exact h.keeps ⟨rfl, rfl, rfl, fun hp => ⟨hp.usesClient, hp.state, hp.deadline⟩⟩
  | poll readings => exact h.poll defaults backoff readings
  | _ => exact h.keeps (keepsReconnect_step defaults backoff id (by simp))

/-! ## No attempts at all -/

/-- The client is disconnected on purpose, or the radio turned off. -/
def Parts (p : Platform) : Op → Prop
  | .disconnectClient _ => p.configuration.mode.usesClient = true
  | .disable _ => True
  | _ => False

theorem automaticAttempts_of_not (h : p.manualDisconnect = true ∨ p.nextReconnectMilliseconds = 0)
    (op : Op) : automaticAttempts defaults backoff p op = 0 := by
  cases op with
  | poll readings =>
      obtain ⟨-, -, hcalls⟩ := pollStep_spec defaults backoff p readings
      rw [automaticAttempts, hcalls]
      have houtcome := pollReconnect_outcome backoff p readings.reconnect
      generalize p.pollReconnect backoff readings.reconnect = out at houtcome ⊢
      cases houtcome with
      | idle => rfl
      | observed hobserved => rfl
      | scheduled now => rfl
      | attempted due =>
          rcases h with hmanual | hzero
          · rw [due.wanted] at hmanual
            cases hmanual
          · exact absurd hzero due.pending.deadline
  | _ => rfl

theorem manualDisconnect_of_parts {op : Op} (h : Parts p op) :
    (step defaults backoff p op).1.manualDisconnect = true := by
  cases op with
  | disable modeOk =>
      simp only [step, Platform.disable]
      split <;> rfl
  | disconnectClient ok =>
      have hmode : p.configuration.mode.usesClient = true := h
      simp [step, Platform.disconnectClient, hmode, Platform.enterClient]
  | _ => exact absurd h id

/-- Only somebody who asks undoes a disconnect on purpose. -/
theorem manualDisconnect_step (h : p.manualDisconnect = true) {op : Op} (hasks : ¬op.Asks) :
    (step defaults backoff p op).1.manualDisconnect = true := by
  cases op with
  | apply c n => exact absurd trivial hasks
  | connectClient config now => exact absurd trivial hasks
  | connectProfile profile config now => exact absurd trivial hasks
  | disable modeOk => exact manualDisconnect_of_parts defaults backoff trivial
  | disconnectClient ok =>
      simp only [step, Platform.disconnectClient]
      split
      · exact h
      · rfl
  | startAccessPoint modeOk n =>
      exact (keeps_startAccessPoint p modeOk n).1.manualDisconnect.trans h
  | stopAccessPoint disconnectOk modeOk =>
      exact (keeps_stopAccessPoint defaults p disconnectOk modeOk).1.manualDisconnect.trans h
  | startScan failed => exact (keeps_startScan p failed).1.manualDisconnect.trans h
  | poll readings =>
      obtain ⟨hkeeps, -, -⟩ := pollStep_spec defaults backoff p readings
      obtain ⟨hframe, -⟩ := pollReconnect_frame backoff p readings.reconnect
      exact (hkeeps.manualDisconnect.trans hframe.manualDisconnect).trans h

/-! ## Runs -/

/-- The platform after some operations. -/
def after (ops : List Op) : Platform :=
  (feed (step defaults backoff) (Platform.fresh defaults) ops).1

theorem reconnectInv_after (ops : List Op) : ReconnectInv (after defaults backoff ops) := by
  have hfresh : ReconnectInv (Platform.fresh defaults) := reconnectInv_zero rfl rfl
  exact feed_keeps (reconnectInv_step defaults backoff) hfresh ops

/-- The policy is that of the last `Apply`. -/
theorem policy_step {op : Op} (hno : ¬Refills p op) :
    (step defaults backoff p op).1.configuration.reconnect = p.configuration.reconnect := by
  cases op with
  | apply c n => exact absurd trivial hno
  | connectClient config now => exact absurd trivial hno
  | connectProfile profile config now => exact absurd trivial hno
  | poll readings =>
      obtain ⟨hkeeps, -, -⟩ := pollStep_spec defaults backoff p readings
      obtain ⟨hframe, -⟩ := pollReconnect_frame backoff p readings.reconnect
      rw [step, hkeeps.configuration, hframe.configuration]
  | _ => exact (keepsReconnect_step defaults backoff id (by simp)).policy

/-- The attempts made from one such event to the next. -/
theorem Budget.window (h : Budget p made)
    (hmax : p.configuration.reconnect.maximumAttempts ≠ 0) (window : List Op)
    (hno : ∀ x ∈ trace (WiFi.step defaults backoff) p window, ¬Refills x.1 x.2) :
    made + attemptsMade defaults backoff (trace (WiFi.step defaults backoff) p window) ≤
      p.configuration.reconnect.maximumAttempts.toNat := by
  induction window generalizing p made with
  | nil => exact h.scheduled.trans h.limit
  | cons op rest ih =>
      obtain ⟨hop, hrest⟩ := List.forall_mem_cons.mp hno
      have hpolicy := policy_step defaults backoff hop
      have hbound := ih (h.step defaults backoff hmax hop) (by rwa [hpolicy]) hrest
      rw [hpolicy] at hbound
      calc
        made + attemptsMade defaults backoff (trace (WiFi.step defaults backoff) p (op :: rest))
            = made + automaticAttempts defaults backoff p op +
              attemptsMade defaults backoff (trace (WiFi.step defaults backoff)
                (WiFi.step defaults backoff p op).1 rest) := by
          rw [trace, attemptsMade, Nat.add_assoc]
        _ ≤ p.configuration.reconnect.maximumAttempts.toNat := hbound

theorem attemptsMade_of_manual (h : p.manualDisconnect = true) (window : List Op)
    (hno : ∀ op ∈ window, ¬op.Asks) :
    attemptsMade defaults backoff (trace (step defaults backoff) p window) = 0 := by
  induction window generalizing p with
  | nil => rfl
  | cons op rest ih =>
      obtain ⟨hop, hrest⟩ := List.forall_mem_cons.mp hno
      have hthen := ih (manualDisconnect_step defaults backoff h hop) hrest
      rw [trace, attemptsMade, hthen]
      exact automaticAttempts_of_not defaults backoff (Or.inl h) op

/-- **Automatic attempts.**  Whatever has been done `before`: in a `window`
between two events that fill the budget up there are no more than the policy
allows, if it sets a limit; none after a disconnect on purpose until somebody
asks; and none while automatic reconnects are disabled. -/
theorem automaticAttempts_bounded (before window : List Op) :
    let p := after defaults backoff before
    let run := trace (step defaults backoff) p window
    (p.configuration.reconnect.maximumAttempts ≠ 0 → (∀ x ∈ run, ¬Refills x.1 x.2) →
        attemptsMade defaults backoff run ≤
          p.configuration.reconnect.maximumAttempts.toNat) ∧
      (∀ op, Parts p op → (∀ later ∈ window, ¬later.Asks) →
        attemptsMade defaults backoff
          (trace (step defaults backoff) (step defaults backoff p op).1 window) = 0) ∧
      ∀ x ∈ run, x.1.configuration.reconnect.enabled = false →
        automaticAttempts defaults backoff x.1 x.2 = 0 := by
  intro p run
  have hinv : ReconnectInv p := reconnectInv_after defaults backoff before
  refine ⟨?_, ?_, ?_⟩
  · intro hmax hno
    have hbound := (hinv.budget hmax).window defaults backoff hmax window hno
    rwa [Nat.zero_add] at hbound
  · intro op hparts hno
    exact attemptsMade_of_manual defaults backoff
      (manualDisconnect_of_parts defaults backoff hparts) window hno
  · intro x hx hdisabled
    have hreached := trace_invariant (reconnectInv_step defaults backoff) hinv window x hx
    exact automaticAttempts_of_not defaults backoff (Or.inr (hreached.disabled hdisabled)) x.2

/-- Of the two attempts a policy allows one is made. -/
example : attemptsMade sampleDefaults doubling
    (trace (step sampleDefaults doubling) startedClient
      [.poll (unanswered 20), .poll (unanswered 1020), .poll (unanswered 9000)]) = 1 := by
  decide +kernel

end WiFi
