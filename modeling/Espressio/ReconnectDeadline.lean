import Espressio.WiFiReconnect

/-!
# The deadline of a reconnect

`ScheduleReconnect` adds the delay to a clock of 32 bits, and `PollReconnect`
asks for the signed difference, so that the sum may wrap.  Times here are real
ones, in milliseconds, and the clock shows them modulo 2^32.

That way of comparing is right for delays of up to 2^31 ms: a longer one is in
the past as soon as it is scheduled.  And the sum may be anything but 0, which
marks that no reconnect is scheduled.  `startsOnTime_iff`: with these two
exceptions the attempt starts on time.
-/

namespace WiFi

variable {p : Platform} {policy : ReconnectPolicy}

/-! ## Comparing times -/

theorem timeReached_ofNat (now target : Nat) :
    timeReached (UInt32.ofNat now) (UInt32.ofNat target) = true ↔
      (now + (4294967296 - target % 4294967296)) % 4294967296 < 2147483648 := by
  rw [timeReached, decide_eq_true_eq, UInt32.toNat_sub, UInt32.toNat_ofNat', UInt32.toNat_ofNat']
  omega

/-- Up to 2^31 ms ahead of its time a deadline has not been reached. -/
theorem not_timeReached {now target : Nat} (hearly : now < target)
    (hahead : target ≤ now + 2147483648) :
    timeReached (UInt32.ofNat now) (UInt32.ofNat target) = false := by
  rw [← Bool.not_eq_true, timeReached_ofNat]
  omega

/-- Less than 2^31 ms after its time it has. -/
theorem timeReached_of_le {now target : Nat} (hle : target ≤ now)
    (hlate : now < target + 2147483648) :
    timeReached (UInt32.ofNat now) (UInt32.ofNat target) = true := by
  rw [timeReached_ofNat]
  omega

/-- And so it seems more than 2^31 ms ahead. -/
theorem timeReached_of_far {now target : Nat} (hfar : now + 2147483648 < target)
    (hbound : target < now + 4294967296) :
    timeReached (UInt32.ofNat now) (UInt32.ofNat target) = true := by
  rw [timeReached_ofNat]
  omega

/-! ## A reconnect that is scheduled -/

variable (defaults : Defaults) (backoff : Backoff)

/-- At the time `t` a poll comes to `ScheduleReconnect`, because the connection
is lost or the attempt has failed, and the policy allows one more. -/
structure Schedules (policy : ReconnectPolicy) (p : Platform) (r : PollReadings) (t : Nat) :
    Prop where
  ready : Ready policy p
  unconnected : r.Unconnected
  enabled : policy.enabled = true
  left : policy.maximumAttempts = 0 ∨ p.reconnectAttempts < policy.maximumAttempts
  clock : (p.state.client.state = .connected ∧ r.reconnect.clock = UInt32.ofNat t) ∨
    (p.state.client.state = .connecting ∧ p.attemptFailed r.reconnect = true ∧
      r.reconnect.laterClock = UInt32.ofNat t)

/-- The delay of the next attempt. -/
def nextDelay (policy : ReconnectPolicy) (p : Platform) : Nat :=
  (reconnectDelay backoff policy (p.reconnectAttempts + 1)).toNat

theorem Schedules.pollReconnect {r : PollReadings} {t : Nat} (h : Schedules policy p r t) :
    p.pollReconnect backoff r.reconnect =
      (p.scheduleReconnect backoff (UInt32.ofNat t), []) := by
  obtain ⟨hmode, hclient, hssid, hwanted, rfl⟩ := h.ready
  have hguard : ¬ (p.configuration.mode.usesClient = false ∨
      p.configuration.client.enabled = false ∨ p.manualDisconnect ∨ p.activeSSID = []) := by
    simp [hmode, hclient, hwanted, hssid]
  rw [Platform.pollReconnect, if_neg hguard, if_neg h.unconnected.1]
  rcases h.clock with ⟨hstate, hclock⟩ | ⟨hstate, hfailed, hclock⟩
  · rw [if_pos hstate, hclock]
  · rw [if_neg (by simp [hstate]), if_pos hstate, if_pos hfailed, hclock]

/-- The poll leaves the reconnect scheduled for the sum, as it wraps. -/
theorem Schedules.scheduled {r : PollReadings} {t : Nat} (h : Schedules policy p r t) :
    Scheduled policy (UInt32.ofNat (t + nextDelay backoff policy p))
      (pollStep defaults backoff p r).1 := by
  have hpoll := h.pollReconnect backoff
  obtain ⟨hmode, hclient, hssid, hwanted, rfl⟩ := h.ready
  have hleft : ¬ (p.configuration.reconnect.maximumAttempts ≠ 0 ∧
      p.configuration.reconnect.maximumAttempts ≤ p.reconnectAttempts) := by
    rintro ⟨hmax, hle⟩
    exact UInt32.not_lt.mpr hle (h.left.resolve_left hmax)
  rw [Platform.scheduleReconnect, if_neg (by simp [hwanted, h.enabled]), if_neg hleft] at hpoll
  have hcontrol := pollStep_control defaults backoff (p := p) h.unconnected
    (by rw [hpoll]; exact hmode) (by rw [hpoll]; exact hwanted)
  rw [hpoll] at hcontrol
  obtain ⟨hsame, -⟩ := hcontrol
  refine ⟨Ready.congr ?_ hsame, hsame.state, ?_⟩
  · exact ⟨hmode, hclient, hssid, hwanted, rfl⟩
  · rw [hsame.deadline, UInt32.ofNat_add, nextDelay, UInt32.ofNat_toNat]

/-! ## Polls in time -/

/-- Polls and their times, each less than 2^31 ms after the one before it, and
none that reads a connection. -/
def Paced : Nat → List (Nat × PollReadings) → Prop
  | _, [] => True
  | last, x :: rest =>
      (last ≤ x.1 ∧ x.1 < last + 2147483648 ∧ x.2.Unconnected ∧
        x.2.reconnect.clock = UInt32.ofNat x.1) ∧ Paced x.1 rest

/-- From the time `t` on, with a delay `d`: of the polls before the deadline
none starts the attempt, and the next one does if the deadline has come. -/
def StartsOnTime (q : Platform) (t d : Nat) : Prop :=
  ∀ (waiting : List (Nat × PollReadings)) (next : Nat × PollReadings),
    Paced t (waiting ++ [next]) → (∀ x ∈ waiting, x.1 < t + d) →
    attemptsStarted (polls defaults backoff q (waiting.map Prod.snd)).2 = 0 ∧
      attemptsStarted (pollStep defaults backoff
          (polls defaults backoff q (waiting.map Prod.snd)).1 next.2).2 =
        if t + d ≤ next.1 then 1 else 0

/-- While the deadline is no more than 2^31 ms ahead, the polls are on time. -/
theorem Scheduled.onTime {q : Platform} {last deadline : Nat}
    (h : Scheduled policy (UInt32.ofNat deadline) q) (hle : last ≤ deadline)
    (hahead : deadline ≤ last + 2147483648) (hne : UInt32.ofNat deadline ≠ 0)
    {waiting : List (Nat × PollReadings)} {next : Nat × PollReadings}
    (hpaced : Paced last (waiting ++ [next])) (hwaiting : ∀ x ∈ waiting, x.1 < deadline) :
    attemptsStarted (polls defaults backoff q (waiting.map Prod.snd)).2 = 0 ∧
      attemptsStarted (pollStep defaults backoff
          (polls defaults backoff q (waiting.map Prod.snd)).1 next.2).2 =
        if deadline ≤ next.1 then 1 else 0 := by
  induction waiting generalizing q last with
  | nil =>
      obtain ⟨⟨hafter, hgap, hunconnected, hclock⟩, -⟩ := hpaced
      refine ⟨rfl, ?_⟩
      by_cases hdue : deadline ≤ next.1
      · have hreached := timeReached_of_le hdue (by omega)
        rw [← hclock] at hreached
        have hcalls := (h.due defaults backoff hunconnected hreached).2
        rw [if_neg hne] at hcalls
        rw [if_pos hdue]
        exact hcalls
      · have hearly := not_timeReached (Nat.lt_of_not_le hdue) (by omega)
        rw [← hclock] at hearly
        rw [if_neg hdue]
        exact (h.wait defaults backoff hunconnected hearly).2
  | cons x rest ih =>
      obtain ⟨⟨hafter, hgap, hunconnected, hclock⟩, hrest⟩ := hpaced
      obtain ⟨hbefore, hothers⟩ := List.forall_mem_cons.mp hwaiting
      have hearly := not_timeReached hbefore (by omega)
      rw [← hclock] at hearly
      obtain ⟨hkept, hcalls⟩ := h.wait defaults backoff hunconnected hearly
      obtain ⟨hnone, hnext⟩ := ih hkept hbefore.le (by omega) hrest hothers
      refine ⟨?_, hnext⟩
      simp only [polls, attemptsStarted] at hnone hcalls
      simp only [polls, List.map_cons, Runs.feed_cons, attemptsStarted, List.countP_append]
      exact Nat.add_eq_zero_iff.mpr ⟨hcalls, hnone⟩

/-- A poll that reads no connection, at its time. -/
def unansweredAt (time : Nat) : Nat × PollReadings := (time, unanswered (UInt32.ofNat time))

theorem unansweredAt_unconnected (time : Nat) : (unansweredAt time).2.Unconnected :=
  ⟨by simp [unansweredAt, unanswered], by simp [unansweredAt, unanswered, unansweredRefresh]⟩

theorem paced_unansweredAt {last time : Nat} {rest : List (Nat × PollReadings)}
    (hafter : last ≤ time) (hgap : time < last + 2147483648) (hrest : Paced time rest) :
    Paced last (unansweredAt time :: rest) :=
  ⟨⟨hafter, hgap, unansweredAt_unconnected time, rfl⟩, hrest⟩

/-- Polls by which any deadline comes, and all but the last before it. -/
def waitingPolls (t d : Nat) : List (Nat × PollReadings) :=
  if d = 0 then [] else [unansweredAt (t + d / 3), unansweredAt (t + 2 * (d / 3))]

theorem waitingPolls_fit (t : Nat) {d : Nat} (hd : d < 4294967296) :
    Paced t (waitingPolls t d ++ [unansweredAt (t + d)]) ∧
      ∀ x ∈ waitingPolls t d, x.1 < t + d ∧ x.2.Unconnected := by
  unfold waitingPolls
  split
  · rename_i hzero
    refine ⟨paced_unansweredAt (by omega) (by omega) trivial, ?_⟩
    exact fun x hx => absurd hx List.not_mem_nil
  · rename_i hpositive
    constructor
    · exact paced_unansweredAt (by omega) (by omega) (paced_unansweredAt (by omega) (by omega)
        (paced_unansweredAt (by omega) (by omega) trivial))
    · intro x hx
      rcases List.mem_pair.mp hx with rfl | rfl
      · exact ⟨by simp only [unansweredAt]; omega, unansweredAt_unconnected _⟩
      · exact ⟨by simp only [unansweredAt]; omega, unansweredAt_unconnected _⟩

/-- A deadline of 0 is none: however long it is waited for, nothing starts. -/
theorem Lost.late {q : Platform} (h : Lost policy q) {t d : Nat} (hd : d < 4294967296) :
    ¬StartsOnTime defaults backoff q t d := by
  intro hontime
  obtain ⟨hpaced, hwaiting⟩ := waitingPolls_fit t hd
  have hnext := (hontime _ _ hpaced fun x hx => (hwaiting x hx).1).2
  have hunconnected : ∀ r ∈ (waitingPolls t d).map Prod.snd, r.Unconnected :=
    List.forall_mem_map.mpr fun x hx => (hwaiting x hx).2
  have hlost := (h.polls defaults backoff hunconnected).1
  have hnever := (hlost.stay defaults backoff (unansweredAt_unconnected (t + d))).2
  have hcome : t + d ≤ (unansweredAt (t + d)).1 := le_rfl
  rw [if_pos hcome, hnever] at hnext
  cases hnext

/-- A deadline more than 2^31 ms ahead is taken for one in the past. -/
theorem Scheduled.early {q : Platform} {t d : Nat}
    (h : Scheduled policy (UInt32.ofNat (t + d)) q) (hne : UInt32.ofNat (t + d) ≠ 0)
    (hfar : 2147483648 < d) (hd : d < 4294967296) : ¬StartsOnTime defaults backoff q t d := by
  intro hontime
  have hpaced : Paced t [unansweredAt t] := paced_unansweredAt le_rfl (by omega) trivial
  have hreached : timeReached (unansweredAt t).2.reconnect.clock (UInt32.ofNat (t + d)) = true :=
    timeReached_of_far (by omega) (by omega)
  have hcalls := (h.due defaults backoff (unansweredAt_unconnected t) hreached).2
  have hnext := (hontime [] (unansweredAt t) hpaced (by simp)).2
  have hbefore : ¬t + d ≤ (unansweredAt t).1 := by
    simp only [unansweredAt]
    omega
  rw [if_neg hbefore] at hnext
  rw [if_neg hne] at hcalls
  exact absurd (hcalls.symm.trans hnext) (by decide)

/-- **The deadline.**  The attempt that a poll schedules starts on time exactly
if its delay is at most 2^31 ms and the sum is not 0 on the clock. -/
theorem startsOnTime_iff {r : PollReadings} {t : Nat} (h : Schedules policy p r t) :
    StartsOnTime defaults backoff (pollStep defaults backoff p r).1 t
        (nextDelay backoff policy p) ↔
      nextDelay backoff policy p ≤ 2147483648 ∧
        (t + nextDelay backoff policy p) % 4294967296 ≠ 0 := by
  have hscheduled := h.scheduled defaults backoff
  have hd : nextDelay backoff policy p < 4294967296 := UInt32.toNat_lt _
  generalize nextDelay backoff policy p = d at hscheduled hd ⊢
  have hzero : UInt32.ofNat (t + d) = 0 ↔ (t + d) % 4294967296 = 0 := by
    rw [← UInt32.toNat_inj, UInt32.toNat_ofNat']
    rfl
  rw [Ne, ← hzero]
  constructor
  · intro hontime
    have hne : UInt32.ofNat (t + d) ≠ 0 := by
      intro hsum
      have hlost : Lost policy (pollStep defaults backoff p r).1 :=
        ⟨hscheduled.ready, hscheduled.state, hscheduled.deadline.trans hsum⟩
      exact hlost.late defaults backoff hd hontime
    refine ⟨Nat.le_of_not_lt fun hfar => ?_, hne⟩
    exact hscheduled.early defaults backoff hne hfar hd hontime
  · rintro ⟨hle, hne⟩
    intro waiting next hpaced hwaiting
    exact hscheduled.onTime defaults backoff (Nat.le_add_right t d) (by omega) hne hpaced hwaiting

/-- The first attempt of a client fails at whatever time. -/
theorem startedClient_schedules (t : Nat) :
    Schedules twoAttempts.reconnect startedClient (unansweredAt t).2 t where
  ready := ⟨by decide +kernel, by decide +kernel, by decide +kernel, by decide +kernel,
    by decide +kernel⟩
  unconnected := unansweredAt_unconnected t
  enabled := rfl
  left := by decide +kernel
  clock := Or.inr ⟨by decide +kernel, rfl, rfl⟩

theorem startedClient_startsOnTime :
    StartsOnTime sampleDefaults doubling
        (pollStep sampleDefaults doubling startedClient (unansweredAt 20).2).1 20
        (nextDelay doubling twoAttempts.reconnect startedClient) ↔
      nextDelay doubling twoAttempts.reconnect startedClient ≤ 2147483648 ∧
        (20 + nextDelay doubling twoAttempts.reconnect startedClient) % 4294967296 ≠ 0 :=
  startsOnTime_iff sampleDefaults doubling (startedClient_schedules 20)

/-- A second before the clock wraps a reconnect in a second is scheduled, and
never attempted. -/
theorem reconnect_forgotten : ¬ ∀ (defaults : Defaults) (backoff : Backoff)
    (policy : ReconnectPolicy) (p : Platform) (r : PollReadings) (t : Nat),
    1 ≤ policy.backoffMultiplier →
    policy.initialDelayMilliseconds ≤ policy.maximumDelayMilliseconds →
    Schedules policy p r t →
    StartsOnTime defaults backoff (pollStep defaults backoff p r).1 t
      (nextDelay backoff policy p) := by
  intro h
  have hontime := h sampleDefaults doubling twoAttempts.reconnect startedClient _ 4294966296
    (by decide +kernel) (by decide) (startedClient_schedules _)
  have hdelay : nextDelay doubling twoAttempts.reconnect startedClient = 1000 := by
    decide +kernel
  rw [hdelay] at hontime
  have hnext := (hontime [] (unansweredAt 4294967296)
    (paced_unansweredAt (by decide) (by decide) trivial) (by simp)).2
  revert hnext
  decide +kernel

end WiFi
