import Espressio.MemoryProvider

/-!
# The statistics of the memory provider

What the sixteen counters count, said of the calls and not of the counters.  A
call has its policy and the size it allocates with; its log says which
preference it found when it last looked and whether the heap met its request
for PSRAM.  `countedIn` tells from these which counters a call belongs to.

* `added_finished`: a finished call has added to each counter what it should,
  also when it throws.
* `placed_of_returned`: what a call returns is where its policy, or the success
  it counted, says.
* `counters_quiescent`: when no call is under way a counter is the sum over all
  calls of what each should have added.
-/

namespace MemoryProvider

open AtomicCalls Runs

variable {build : Build} {region : Nat → Region}

abbrev LogEntry := Entry Action.Answer Members

abbrev MemoryCall := Call Action.Answer Outcome Members Request

abbrev MemorySystem := System Action.Answer Outcome Members Request

/-! ## What a call is counted in -/

@[simp]
def Request.policy : Request → Option MemoryPolicy
  | .allocate _ _ policy => some policy
  | .configure _ => none

/-- The size that is allocated. -/
@[simp]
def Request.size : Request → Nat
  | .allocate bytes _ _ => effectiveBytes bytes
  | .configure _ => 0

/-- The size as a counter takes it. -/
@[simp]
def Request.clampedSize (r : Request) : Nat := min r.size 4294967295

/-- The preference is in force for a size. -/
def Members.prefersExternal (m : Members) (size : Nat) : Bool :=
  m.preferenceEnabled && decide (m.thresholdBytes.toNat ≤ size)

/-- A look at the preference. -/
def looksAtPreference : Action → Bool
  | .loadEnabled | .loadThreshold => true
  | _ => false

/-- The members when the preference was last looked at. -/
def lastLook : List LogEntry → Option Members
  | [] => none
  | e :: log => (lastLook log).or (if looksAtPreference e.action then some e.before else none)

def isNull (address : Nat) : Bool := decide (address = 0)

/-- A request for PSRAM that the heap met. -/
def metExternally (e : LogEntry) : Bool :=
  match e with
  | ⟨.allocate _ _ capabilities, address, _⟩ =>
      decide (.spiram ∈ capabilities) && !isNull address
  | _ => false

/-- An automatic request whose size reached the threshold in force. -/
def reachedThreshold (c : MemoryCall) : Bool :=
  decide (c.request.policy = some .automatic) &&
    (lastLook c.log).any fun m => m.prefersExternal c.request.size

def servedExternally (c : MemoryCall) : Bool := c.log.any metExternally

/-- The calls a counter is about. -/
def countedIn (counter : Counter) (c : MemoryCall) : Bool :=
  match counter with
  | .automaticRequests | .automaticBytes => decide (c.request.policy = some .automatic)
  | .automaticExternalSuccesses | .automaticExternalBytes =>
      reachedThreshold c && servedExternally c
  | .automaticExternalFallbacks | .automaticExternalFallbackBytes =>
      reachedThreshold c && !servedExternally c
  | .internalRequests | .internalBytes => decide (c.request.policy = some .internal)
  | .externalRequiredRequests | .externalRequiredBytes =>
      decide (c.request.policy = some .externalRequired)
  | .externalPreferredRequests | .externalPreferredBytes =>
      decide (c.request.policy = some .externalPreferred)
  | .externalPreferredExternalSuccesses | .externalPreferredExternalBytes =>
      decide (c.request.policy = some .externalPreferred) && servedExternally c
  | .externalPreferredInternalFallbacks | .externalPreferredInternalFallbackBytes =>
      decide (c.request.policy = some .externalPreferred) && !servedExternally c

@[simp]
def Counter.ofBytes : Counter → Bool
  | .automaticBytes | .automaticExternalBytes | .automaticExternalFallbackBytes
  | .internalBytes | .externalRequiredBytes | .externalPreferredBytes
  | .externalPreferredExternalBytes | .externalPreferredInternalFallbackBytes => true
  | _ => false

/-- What a call should have added to a counter. -/
def share (counter : Counter) (c : MemoryCall) : Nat :=
  if countedIn counter c then (if counter.ofBytes then c.request.clampedSize else 1) else 0

/-- The external success counters. -/
def countsSuccess : Action → Bool
  | .fetchAdd .automaticExternalSuccesses _ => true
  | .fetchAdd .externalPreferredExternalSuccesses _ => true
  | _ => false

/-- An external success was counted. -/
def countedSuccess (log : List LogEntry) : Bool := log.any fun e => countsSuccess e.action

theorem countedSuccess_cons (e : LogEntry) (log : List LogEntry) :
    countedSuccess (e :: log) = (countsSuccess e.action || countedSuccess log) :=
  rfl

theorem countedSuccess_append (log rest : List LogEntry) :
    countedSuccess (log ++ rest) = (countedSuccess log || countedSuccess rest) :=
  List.any_append

theorem countsSuccess_allocate (alignment : Option Nat) (bytes : Nat)
    (capabilities : List Capability) :
    countsSuccess (.allocate alignment bytes capabilities) = false :=
  rfl

/-! ## What a call adds -/

/-- What an action adds to a counter. -/
def added (counter : Counter) (e : LogEntry) : Nat :=
  match e.action with
  | .fetchAdd other amount => if other = counter then amount.toNat else 0
  | _ => 0

@[simp]
theorem clampToUint32_toNat (value : Nat) :
    (clampToUint32 value).toNat = min value 4294967295 := by
  unfold clampToUint32
  by_cases h : 4294967295 < value
  · rw [if_pos h, Nat.min_eq_right (Nat.le_of_lt h)]
    rfl
  · rw [if_neg h, Nat.min_eq_left (Nat.le_of_not_lt h), UInt32.toNat_ofNat']
    exact Nat.mod_eq_of_lt (by omega)

/-- Each action moves a counter by what it adds. -/
theorem counters_exec (counter : Counter) (before : Members) (a : Action) (reply : a.Answer)
    (after : Members) (n : Nat) (h : before.counters counter = UInt32.ofNat n)
    (hexec : exec region before a reply after) :
    after.counters counter = UInt32.ofNat (n + added counter ⟨a, reply, before⟩) := by
  cases a with
  | fetchAdd other amount =>
      obtain ⟨-, rfl⟩ := hexec
      by_cases hsame : other = counter
      · subst hsame
        simp [added, Members.add, h, UInt32.ofNat_add]
      · have hother : counter ≠ other := fun he => hsame he.symm
        simp [added, Members.add, hsame, Function.update_of_ne hother, h]
  | loadEnabled | loadThreshold | allocate =>
      obtain ⟨-, rfl⟩ := hexec
      simpa [added] using h
  | storeThreshold | storeEnabled | totalSize | extmemEnable =>
      cases hexec
      simpa [added] using h

/-- An enabled preference is never disabled. -/
theorem keeps_enabled :
    Keeps (exec region) fun m m' => m.preferenceEnabled = true → m'.preferenceEnabled = true where
  trans := fun _ _ _ hrs hst h => hst (hrs h)
  step := by
    intro m a reply m' hexec h
    cases a with
    | fetchAdd | loadEnabled | loadThreshold | allocate =>
        obtain ⟨-, rfl⟩ := hexec
        exact h
    | storeThreshold | totalSize | extmemEnable =>
        cases hexec
        exact h
    | storeEnabled =>
        cases hexec
        rfl

/-! ## The paths of the operations -/

variable {log : List LogEntry} {r : Outcome} {next : Code}

theorem fetchAdd_path {counter : Counter} {amount : UInt32}
    (h : Reaches (fetchAdd counter amount next) log (.ret r)) :
    ∃ (old : UInt32) (before : Members) (rest : List LogEntry),
      log = ⟨.fetchAdd counter amount, old, before⟩ :: rest ∧ Reaches next rest (.ret r) := by
  obtain ⟨old, before, rest, hlog, hrest⟩ := h.of_act
  exact ⟨old, before, rest, hlog, hrest⟩

theorem tryAllocateWithCaps_path {bytes alignment : Nat} {capabilities : List Capability}
    {next : Nat → Code}
    (h : Reaches (tryAllocateWithCaps build bytes alignment capabilities next) log (.ret r)) :
    ∃ (aligned : Option Nat) (address : Nat) (before : Members) (rest : List LogEntry),
      log = ⟨.allocate aligned bytes capabilities, address, before⟩ :: rest ∧
        Reaches (next address) rest (.ret r) := by
  obtain ⟨address, before, rest, hlog, hrest⟩ := h.of_act
  exact ⟨_, address, before, rest, hlog, hrest⟩

theorem allocateWithCaps_path {bytes alignment : Nat} {capabilities : List Capability}
    (h : Reaches (allocateWithCaps build bytes alignment capabilities) log (.ret r)) :
    ∃ (aligned : Option Nat) (address : Nat) (before : Members),
      log = [⟨.allocate aligned bytes capabilities, address, before⟩] ∧
        r = if address = 0 then .badAlloc else .returned address := by
  obtain ⟨aligned, address, before, rest, rfl, hrest⟩ := tryAllocateWithCaps_path h
  refine ⟨aligned, address, before, ?_⟩
  by_cases hnull : address = 0
  · rw [if_pos hnull] at hrest ⊢
    obtain ⟨rfl, rfl⟩ := hrest.of_ret
    exact ⟨rfl, rfl⟩
  · rw [if_neg hnull] at hrest ⊢
    obtain ⟨rfl, rfl⟩ := hrest.of_ret
    exact ⟨rfl, rfl⟩

/-- A request and its bytes, counted one after the other. -/
theorem counted_path {requests bytes : Counter} {amount : UInt32}
    (h : Reaches (fetchAdd requests 1 <| fetchAdd bytes amount next) log (.ret r)) :
    ∃ (old old' : UInt32) (m m' : Members) (rest : List LogEntry),
      log = ⟨.fetchAdd requests 1, old, m⟩ :: ⟨.fetchAdd bytes amount, old', m'⟩ :: rest ∧
        Reaches next rest (.ret r) := by
  obtain ⟨old, m, rest, rfl, hrest⟩ := fetchAdd_path h
  obtain ⟨old', m', rest', rfl, hrest'⟩ := fetchAdd_path hrest
  exact ⟨old, old', m, m', rest', rfl, hrest'⟩

/-- Memory with some capabilities was served, or refused. -/
theorem external_path {bytes alignment : Nat} {successes successBytes fallbacks fallbackBytes :
    Counter} {amount : UInt32} {capabilities : List Capability}
    (h : Reaches (tryAllocateWithCaps build bytes alignment [.spiram, .bits8] fun result =>
      if result ≠ 0 then
        fetchAdd successes 1 <| fetchAdd successBytes amount <| .ret (.returned result)
      else
        fetchAdd fallbacks 1 <| fetchAdd fallbackBytes amount <|
        allocateWithCaps build bytes alignment capabilities) log (.ret r)) :
    (∃ (aligned : Option Nat) (address : Nat) (before m m' : Members) (old old' : UInt32),
      address ≠ 0 ∧ r = .returned address ∧
      log = [⟨.allocate aligned bytes [.spiram, .bits8], address, before⟩,
        ⟨.fetchAdd successes 1, old, m⟩, ⟨.fetchAdd successBytes amount, old', m'⟩]) ∨
    ∃ (aligned aligned' : Option Nat) (address : Nat) (before before' m m' : Members)
      (old old' : UInt32),
      r = (if address = 0 then .badAlloc else .returned address) ∧
      log = [⟨.allocate aligned bytes [.spiram, .bits8], (0 : Nat), before⟩,
        ⟨.fetchAdd fallbacks 1, old, m⟩, ⟨.fetchAdd fallbackBytes amount, old', m'⟩,
        ⟨.allocate aligned' bytes capabilities, address, before'⟩] := by
  obtain ⟨aligned, address, before, rest, rfl, hrest⟩ := tryAllocateWithCaps_path h
  by_cases hnull : address = 0
  · subst hnull
    obtain ⟨old, old', m, m', rest', rfl, hrest'⟩ := counted_path hrest
    obtain ⟨aligned', address, before', rfl, hr⟩ := allocateWithCaps_path hrest'
    exact .inr ⟨aligned, aligned', address, before, before', m, m', old, old', hr, rfl⟩
  · rw [if_pos hnull] at hrest
    obtain ⟨old, old', m, m', rest', rfl, hrest'⟩ := counted_path hrest
    obtain ⟨rfl, rfl⟩ := hrest'.of_ret
    exact .inl ⟨aligned, address, before, m, m', old, old', hnull, rfl, rfl⟩

/-! ## Each policy -/

/-- The policies that ask the heap once. -/
theorem added_asking_once {bytes alignment : Nat} {policy : MemoryPolicy}
    (hpolicy : policy = .internal ∨ policy = .externalRequired)
    (h : Reaches (allocate build bytes alignment policy) log (.ret r)) (counter : Counter) :
    sumOf (added counter) log = share counter ⟨.allocate bytes alignment policy, log, .ret r⟩ := by
  obtain rfl | rfl := hpolicy
  all_goals
    obtain ⟨old, old', m, m', rest, rfl, hrest⟩ := counted_path h
    obtain ⟨aligned, address, before, rfl, -⟩ := allocateWithCaps_path hrest
    cases counter <;> simp [sumOf, added, share, countedIn, reachedThreshold]

theorem added_externalPreferred {bytes alignment : Nat}
    (h : Reaches (allocate build bytes alignment .externalPreferred) log (.ret r))
    (counter : Counter) :
    sumOf (added counter) log =
      share counter ⟨.allocate bytes alignment .externalPreferred, log, .ret r⟩ := by
  obtain ⟨old, old', m, m', rest, rfl, hrest⟩ := counted_path h
  rcases external_path hrest with hserved | hrefused
  · obtain ⟨aligned, address, before, n, n', old₂, old₂', hnull, rfl, rfl⟩ := hserved
    cases counter <;>
      simp [sumOf, added, share, countedIn, reachedThreshold, servedExternally, metExternally,
        isNull, hnull]
  · obtain ⟨aligned, aligned', address, before, before', n, n', old₂, old₂', rfl, rfl⟩ := hrefused
    cases counter <;>
      simp [sumOf, added, share, countedIn, reachedThreshold, servedExternally, metExternally,
        isNull]

/-- The paths of an automatic request by the preference it found. -/
theorem automatic_path {bytes alignment : Nat}
    (h : Reaches (allocate build bytes alignment .automatic) log (.ret r))
    (hhappened : ∀ e ∈ log, ∃ after, exec region e.before e.action e.reply after)
    (horder : log.Pairwise fun e f =>
      e.before.preferenceEnabled = true → f.before.preferenceEnabled = true) :
    ∃ (old old' : UInt32) (m m' look : Members) (looks rest : List LogEntry),
      log = ⟨.fetchAdd .automaticRequests 1, old, m⟩ ::
          ⟨.fetchAdd .automaticBytes (clampToUint32 (effectiveBytes bytes)), old', m'⟩ ::
          (looks ++ rest) ∧
        (∀ e ∈ looks, looksAtPreference e.action = true) ∧ lastLook looks = some look ∧
        if look.prefersExternal (effectiveBytes bytes) then
          Reaches (tryAllocateWithCaps build (effectiveBytes bytes) alignment [.spiram, .bits8]
            fun result =>
              if result ≠ 0 then
                fetchAdd .automaticExternalSuccesses 1 <|
                fetchAdd .automaticExternalBytes (clampToUint32 (effectiveBytes bytes)) <|
                .ret (.returned result)
              else
                fetchAdd .automaticExternalFallbacks 1 <|
                fetchAdd .automaticExternalFallbackBytes (clampToUint32 (effectiveBytes bytes)) <|
                allocateWithCaps build (effectiveBytes bytes) alignment [.bits8]) rest (.ret r)
        else Reaches (allocateWithCaps build (effectiveBytes bytes) alignment [.bits8]) rest
          (.ret r) := by
  obtain ⟨old, old', m, m', rest, rfl, hrest⟩ := counted_path h
  obtain ⟨enabled, seen, rest₁, rfl, hrest₁⟩ := hrest.of_act
  have henabled : enabled = seen.preferenceEnabled :=
    (hhappened _ (.tail _ (.tail _ (.head _)))).elim fun _ hexec => hexec.1
  cases hon : (enabled : Bool) with
  | false =>
      rw [hon] at hrest₁
      refine ⟨old, old', m, m', seen, [⟨.loadEnabled, (false : Bool), seen⟩], rest₁, rfl, ?_, rfl,
        ?_⟩
      · simp [looksAtPreference]
      · simpa [Members.prefersExternal, ← henabled, hon] using hrest₁
  | true =>
      rw [hon] at hrest₁
      obtain ⟨threshold, seen', rest₂, rfl, hrest₂⟩ := Reaches.of_act hrest₁
      have hthreshold : threshold = seen'.thresholdBytes :=
        (hhappened _ (.tail _ (.tail _ (.tail _ (.head _))))).elim fun _ hexec => hexec.1
      have hstill : seen'.preferenceEnabled = true := by
        simp only [List.pairwise_cons] at horder
        exact horder.2.2.1 _ List.mem_cons_self (henabled.symm.trans hon)
      refine ⟨old, old', m, m', seen',
        [⟨.loadEnabled, (true : Bool), seen⟩, ⟨.loadThreshold, threshold, seen'⟩], rest₂, rfl, ?_,
        rfl, ?_⟩
      · simp [looksAtPreference]
      · subst hthreshold
        by_cases hreach : seen'.thresholdBytes.toNat ≤ effectiveBytes bytes
        · simpa [Members.prefersExternal, hstill, hreach] using hrest₂
        · simpa [Members.prefersExternal, hstill, hreach] using hrest₂

theorem lastLook_append (log rest : List LogEntry) :
    lastLook (log ++ rest) = (lastLook rest).or (lastLook log) := by
  induction log with
  | nil => simp [lastLook]
  | cons e log ih => simp [lastLook, ih, Option.or_assoc]

/-- Looking adds nothing and is no request to the heap. -/
theorem looks_idle {e : LogEntry} (h : looksAtPreference e.action = true) :
    (∀ counter, added counter e = 0) ∧ metExternally e = false ∧
      countsSuccess e.action = false := by
  obtain ⟨action, reply, before⟩ := e
  cases action with
  | loadEnabled | loadThreshold => exact ⟨fun _ => rfl, rfl, rfl⟩
  | fetchAdd | storeThreshold | storeEnabled | allocate | totalSize | extmemEnable =>
      simp [looksAtPreference] at h

theorem added_looks {looks : List LogEntry}
    (h : ∀ e ∈ looks, looksAtPreference e.action = true) (counter : Counter) :
    sumOf (added counter) looks = 0 := by
  induction looks with
  | nil => rfl
  | cons e looks ih =>
      obtain ⟨he, hlooks⟩ := List.forall_mem_cons.mp h
      rw [sumOf, (looks_idle he).1, ih hlooks]

theorem metExternally_looks {looks : List LogEntry}
    (h : ∀ e ∈ looks, looksAtPreference e.action = true) : looks.any metExternally = false := by
  refine List.any_eq_false.mpr fun e he => ?_
  simp [(looks_idle (h e he)).2.1]

theorem countedSuccess_looks {looks : List LogEntry}
    (h : ∀ e ∈ looks, looksAtPreference e.action = true) : countedSuccess looks = false := by
  refine List.any_eq_false.mpr fun e he => ?_
  simp [(looks_idle (h e he)).2.2]

theorem added_automatic {bytes alignment : Nat}
    (h : Reaches (allocate build bytes alignment .automatic) log (.ret r))
    (hhappened : ∀ e ∈ log, ∃ after, exec region e.before e.action e.reply after)
    (horder : log.Pairwise fun e f =>
      e.before.preferenceEnabled = true → f.before.preferenceEnabled = true) (counter : Counter) :
    sumOf (added counter) log =
      share counter ⟨.allocate bytes alignment .automatic, log, .ret r⟩ := by
  obtain ⟨old, old', m, m', look, looks, rest, rfl, hlooks, hlast, hpath⟩ :=
    automatic_path h hhappened horder
  have hidle := added_looks hlooks counter
  have hunmet := metExternally_looks hlooks
  by_cases hreached : look.prefersExternal (effectiveBytes bytes) = true
  · rw [if_pos hreached] at hpath
    rcases external_path hpath with hserved | hrefused
    · obtain ⟨aligned, address, before, n, n', old₂, old₂', hnull, rfl, rfl⟩ := hserved
      cases counter <;>
        simp [sumOf, sumOf_append, hidle, added, share, countedIn, reachedThreshold,
          servedExternally, metExternally, isNull, hnull, lastLook, lastLook_append, hlast,
          looksAtPreference, hreached]
    · obtain ⟨aligned, aligned', address, before, before', n, n', old₂, old₂', rfl, rfl⟩ :=
        hrefused
      cases counter <;>
        simp [sumOf, sumOf_append, hidle, added, share, countedIn, reachedThreshold,
          servedExternally, metExternally, isNull, hunmet, lastLook, lastLook_append, hlast,
          looksAtPreference, hreached]
  · rw [if_neg hreached] at hpath
    obtain ⟨aligned, address, before, rfl, -⟩ := allocateWithCaps_path hpath
    cases counter <;>
      simp [sumOf, sumOf_append, hidle, added, share, countedIn, reachedThreshold,
        lastLook, lastLook_append, hlast, looksAtPreference, hreached]

/-- Configuring adds to no counter and returns no memory. -/
theorem configure_path {minimumBytes : Nat}
    (h : Reaches (configureAutomaticExternalPreference build minimumBytes) log (.ret r)) :
    (∀ counter, sumOf (added counter) log = 0) ∧ ∃ done, r = .configured done := by
  unfold configureAutomaticExternalPreference at h
  by_cases hmalloc : build.spiramUseMalloc = true
  · rw [if_pos hmalloc] at h
    obtain ⟨(size : Nat), before, rest, rfl, hrest⟩ := h.of_act
    by_cases hnone : size = 0
    · subst hnone
      obtain ⟨rfl, rfl⟩ := Reaches.of_ret hrest
      exact ⟨fun _ => rfl, false, rfl⟩
    · rw [if_neg hnone] at hrest
      obtain ⟨_, _, _, rfl, hrest₁⟩ := Reaches.of_act hrest
      obtain ⟨_, _, _, rfl, hrest₂⟩ := hrest₁.of_act
      obtain ⟨_, _, _, rfl, hrest₃⟩ := hrest₂.of_act
      obtain ⟨rfl, rfl⟩ := hrest₃.of_ret
      exact ⟨fun _ => rfl, true, rfl⟩
  · rw [if_neg hmalloc] at h
    obtain ⟨rfl, rfl⟩ := h.of_ret
    exact ⟨fun _ => rfl, false, rfl⟩

theorem share_configure (minimumBytes : Nat) (counter : Counter) :
    share counter ⟨.configure minimumBytes, log, .ret r⟩ = 0 := by
  cases counter <;> simp [share, countedIn, reachedThreshold]

variable {shared : Members} {c : MemoryCall}

/-- A call sound in what it has done and found. -/
abbrev MemorySound (build : Build) (region : Nat → Region) (shared : Members)
    (c : MemoryCall) : Prop :=
  SoundCall (code build) (exec region)
    (fun m m' => m.preferenceEnabled = true → m'.preferenceEnabled = true) shared c

/-- A finished call has added to every counter its share. -/
theorem added_finished (hsound : MemorySound build region shared c) (hdone : c.now = .ret r)
    (counter : Counter) : sumOf (added counter) c.log = share counter c := by
  obtain ⟨request, log, now⟩ := c
  obtain rfl : now = .ret r := hdone
  obtain ⟨hreaches, hhappened, horder, -⟩ := hsound
  cases request with
  | configure minimumBytes =>
      rw [share_configure]
      exact (configure_path hreaches).1 counter
  | allocate bytes alignment policy =>
      cases policy with
      | automatic => exact added_automatic hreaches hhappened horder counter
      | internal => exact added_asking_once (.inl rfl) hreaches counter
      | externalPreferred => exact added_externalPreferred hreaches counter
      | externalRequired => exact added_asking_once (.inr rfl) hreaches counter

/-! ## Where the memory is -/

/-- Of a returned address: it is not null, and it is where it has to be. -/
structure Placed (region : Nat → Region) (c : MemoryCall) (address : Nat) : Prop where
  notNull : address ≠ 0
  external : (c.request.policy = some .externalRequired ∨ countedSuccess c.log = true) →
    region address = .psram
  internal : c.request.policy = some .internal → region address = .internal

/-- What `AllocateWithCaps` returns is memory it asked for. -/
theorem honours_returned {bytes alignment : Nat} {capabilities : List Capability} {address : Nat}
    (h : Reaches (allocateWithCaps build bytes alignment capabilities) log
      (.ret (.returned address)))
    (hhappened : ∀ e ∈ log, ∃ after, exec region e.before e.action e.reply after) :
    address ≠ 0 ∧ Honours region address capabilities ∧ countedSuccess log = false := by
  obtain ⟨aligned, answer, before, rfl, hr⟩ := allocateWithCaps_path h
  by_cases hnull : answer = 0
  · rw [if_pos hnull] at hr
    cases hr
  · rw [if_neg hnull] at hr
    cases hr
    obtain ⟨_, hanswers, -⟩ := hhappened _ List.mem_cons_self
    exact ⟨hnull, hanswers.resolve_left hnull, rfl⟩

/-- What is returned after a request for PSRAM: if a success was counted, PSRAM. -/
theorem honours_external {bytes alignment : Nat} {successes successBytes fallbacks fallbackBytes :
    Counter} {amount : UInt32} {capabilities : List Capability} {address : Nat}
    (h : Reaches (tryAllocateWithCaps build bytes alignment [.spiram, .bits8] fun result =>
      if result ≠ 0 then
        fetchAdd successes 1 <| fetchAdd successBytes amount <| .ret (.returned result)
      else
        fetchAdd fallbacks 1 <| fetchAdd fallbackBytes amount <|
        allocateWithCaps build bytes alignment capabilities) log (.ret (.returned address)))
    (hhappened : ∀ e ∈ log, ∃ after, exec region e.before e.action e.reply after)
    (hfallbacks : countsSuccess (.fetchAdd fallbacks 1) = false)
    (hfallbackBytes : countsSuccess (.fetchAdd fallbackBytes amount) = false) :
    address ≠ 0 ∧ (countedSuccess log = true → region address = .psram) := by
  rcases external_path h with hserved | hrefused
  · obtain ⟨aligned, answer, before, m, m', old, old', hnull, hr, rfl⟩ := hserved
    cases hr
    obtain ⟨_, hanswers, -⟩ := hhappened _ List.mem_cons_self
    exact ⟨hnull, fun _ => (hanswers.resolve_left hnull).1 (by simp)⟩
  · obtain ⟨aligned, aligned', answer, before, before', m, m', old, old', hr, rfl⟩ := hrefused
    by_cases hnull : answer = 0
    · rw [if_pos hnull] at hr
      cases hr
    · rw [if_neg hnull] at hr
      cases hr
      refine ⟨hnull, fun hcounted => ?_⟩
      simp only [countedSuccess_cons, hfallbacks, hfallbackBytes, countsSuccess_allocate]
        at hcounted
      cases hcounted

theorem placed_of_returned (hsound : MemorySound build region shared c) {address : Nat}
    (hdone : c.now = .ret (.returned address)) : Placed region c address := by
  obtain ⟨request, log, now⟩ := c
  obtain rfl : now = .ret (.returned address) := hdone
  obtain ⟨hreaches, hhappened, horder, -⟩ := hsound
  cases request with
  | configure minimumBytes =>
      obtain ⟨-, done, hdone⟩ := configure_path hreaches
      cases hdone
  | allocate bytes alignment policy =>
      cases policy with
      | internal =>
          obtain ⟨old, old', m, m', rest, rfl, hrest⟩ := counted_path hreaches
          obtain ⟨hnull, hhonours, hquiet⟩ := honours_returned hrest fun e he =>
            hhappened e (.tail _ (.tail _ he))
          refine ⟨hnull, fun hexternal => ?_, fun _ => hhonours.2 (by simp)⟩
          simp [countedSuccess_cons, countsSuccess, hquiet] at hexternal
      | externalRequired =>
          obtain ⟨old, old', m, m', rest, rfl, hrest⟩ := counted_path hreaches
          obtain ⟨hnull, hhonours, -⟩ := honours_returned hrest fun e he =>
            hhappened e (.tail _ (.tail _ he))
          exact ⟨hnull, fun _ => hhonours.1 (by simp), by simp⟩
      | externalPreferred =>
          obtain ⟨old, old', m, m', rest, rfl, hrest⟩ := counted_path hreaches
          obtain ⟨hnull, hexternal⟩ := honours_external hrest
            (fun e he => hhappened e (.tail _ (.tail _ he))) rfl rfl
          refine ⟨hnull, fun hcounted => hexternal ?_, by simp⟩
          simpa [countedSuccess_cons, countsSuccess] using hcounted
      | automatic =>
          obtain ⟨old, old', m, m', look, looks, rest, rfl, hlooks, -, hpath⟩ :=
            automatic_path hreaches hhappened horder
          have hrest : ∀ e ∈ rest, ∃ after, exec region e.before e.action e.reply after :=
            fun e he => hhappened e (.tail _ (.tail _ (List.mem_append_right _ he)))
          have hquiet := countedSuccess_looks hlooks
          by_cases hreached : look.prefersExternal (effectiveBytes bytes) = true
          · rw [if_pos hreached] at hpath
            obtain ⟨hnull, hexternal⟩ := honours_external hpath hrest rfl rfl
            refine ⟨hnull, fun hcounted => hexternal ?_, by simp⟩
            simpa [countedSuccess_cons, countedSuccess_append, countsSuccess,
              hquiet] using hcounted
          · rw [if_neg hreached] at hpath
            obtain ⟨hnull, -, hnone⟩ := honours_returned hpath hrest
            refine ⟨hnull, fun hcounted => ?_, by simp⟩
            simp [countedSuccess_cons, countedSuccess_append, countsSuccess,
              hquiet, hnone] at hcounted

/-! ## Conservation -/

/-- The counters balance, and each is a count of calls or a sum of their sizes. -/
structure Conserved (s : MemorySystem) : Prop where
  preferredRequests : s.shared.counters .externalPreferredRequests =
    s.shared.counters .externalPreferredExternalSuccesses +
      s.shared.counters .externalPreferredInternalFallbacks
  preferredBytes : s.shared.counters .externalPreferredBytes =
    s.shared.counters .externalPreferredExternalBytes +
      s.shared.counters .externalPreferredInternalFallbackBytes
  automatic : s.shared.counters .automaticExternalSuccesses +
      s.shared.counters .automaticExternalFallbacks =
    UInt32.ofNat (s.calls.countP reachedThreshold)
  requests : ∀ counter : Counter, counter.ofBytes = false →
    s.shared.counters counter = UInt32.ofNat (s.calls.countP (countedIn counter))
  bytes : ∀ counter : Counter, counter.ofBytes = true → s.shared.counters counter =
    UInt32.ofNat (sumOf (fun c => c.request.clampedSize) (s.calls.filter (countedIn counter)))

variable {moves : List (Option Request)} {s : MemorySystem}

/-- When no call is under way a counter is the sum of the shares of all calls. -/
theorem counters_quiescent
    (hrun : Run (Step (code build) (exec region)) ⟨Members.initial, []⟩ moves s)
    (hquiet : s.Quiescent) (counter : Counter) :
    s.shared.counters counter = UInt32.ofNat (sumOf (share counter) s.calls) := by
  have hcounts := counts_run (fun m n => m.counters counter = UInt32.ofNat n) (added counter)
    (fun before a reply after n h hexec =>
      counters_exec counter before a reply after n h hexec) rfl hrun
  rw [hcounts, weighed]
  congr 1
  refine sumOf_congr fun c hc => ?_
  obtain ⟨r, hdone⟩ := hquiet c hc
  exact added_finished (Sound.run keeps_enabled hrun c hc) hdone counter

theorem share_preferredRequests (c : MemoryCall) :
    share .externalPreferredRequests c = share .externalPreferredExternalSuccesses c +
      share .externalPreferredInternalFallbacks c := by
  cases hserved : servedExternally c <;> simp [share, countedIn, hserved]

theorem share_preferredBytes (c : MemoryCall) :
    share .externalPreferredBytes c = share .externalPreferredExternalBytes c +
      share .externalPreferredInternalFallbackBytes c := by
  cases hserved : servedExternally c <;> simp [share, countedIn, hserved]

theorem share_automatic (c : MemoryCall) :
    share .automaticExternalSuccesses c + share .automaticExternalFallbacks c =
      if reachedThreshold c then 1 else 0 := by
  cases hserved : servedExternally c <;> simp [share, countedIn, hserved]

theorem conserved_quiescent
    (hrun : Run (Step (code build) (exec region)) ⟨Members.initial, []⟩ moves s)
    (hquiet : s.Quiescent) : Conserved s where
  preferredRequests := by
    rw [counters_quiescent hrun hquiet, counters_quiescent hrun hquiet,
      counters_quiescent hrun hquiet, ← UInt32.ofNat_add, ← sumOf_add]
    exact congrArg UInt32.ofNat (sumOf_congr fun c _ => share_preferredRequests c)
  preferredBytes := by
    rw [counters_quiescent hrun hquiet, counters_quiescent hrun hquiet,
      counters_quiescent hrun hquiet, ← UInt32.ofNat_add, ← sumOf_add]
    exact congrArg UInt32.ofNat (sumOf_congr fun c _ => share_preferredBytes c)
  automatic := by
    rw [counters_quiescent hrun hquiet, counters_quiescent hrun hquiet, ← UInt32.ofNat_add,
      ← sumOf_add, sumOf_congr fun c _ => share_automatic c, sumOf_filter, sumOf_one,
      List.countP_eq_length_filter]
  requests := by
    intro counter hrequests
    rw [counters_quiescent hrun hquiet, List.countP_eq_length_filter, ← sumOf_one, ← sumOf_filter]
    exact congrArg UInt32.ofNat (sumOf_congr fun c _ => by rw [share, hrequests]; rfl)
  bytes := by
    intro counter hbytes
    rw [counters_quiescent hrun hquiet, ← sumOf_filter]
    exact congrArg UInt32.ofNat (sumOf_congr fun c _ => by rw [share, hbytes]; rfl)

/-- **Conservation.**  However allocations and configurations are interleaved and
whatever the heap answers: whenever no call is under way the counters balance,
and what was returned is not null and is where it has to be. -/
theorem conserved_run
    (hrun : Run (Step (code build) (exec region)) ⟨Members.initial, []⟩ moves s) :
    (s.Quiescent → Conserved s) ∧
      ∀ c ∈ s.calls, ∀ address, c.now = .ret (.returned address) → Placed region c address :=
  ⟨conserved_quiescent hrun, fun c hc _ hdone =>
    placed_of_returned (Sound.run keeps_enabled hrun c hc) hdone⟩

/-- PSRAM refuses sixteen bytes and internal memory gives them. -/
def fallenBack : MemorySystem :=
  let m₁ := Members.initial.add .externalPreferredRequests 1
  let m₂ := m₁.add .externalPreferredBytes 16
  let m₃ := m₂.add .externalPreferredInternalFallbacks 1
  let m₄ := m₃.add .externalPreferredInternalFallbackBytes 16
  ⟨m₄, [⟨.allocate 16 8 .externalPreferred,
    [⟨.fetchAdd .externalPreferredRequests 1, (0 : UInt32), .initial⟩,
      ⟨.fetchAdd .externalPreferredBytes 16, (0 : UInt32), m₁⟩,
      ⟨.allocate (some 8) 16 [.spiram, .bits8], (0 : Nat), m₂⟩,
      ⟨.fetchAdd .externalPreferredInternalFallbacks 1, (0 : UInt32), m₂⟩,
      ⟨.fetchAdd .externalPreferredInternalFallbackBytes 16, (0 : UInt32), m₃⟩,
      ⟨.allocate (some 8) 16 [.internal, .bits8], (4096 : Nat), m₄⟩],
    .ret (.returned 4096)⟩]⟩

theorem fallenBack_run :
    Run (Step (code ⟨true, true⟩) (exec fun _ => .internal)) ⟨Members.initial, []⟩
      [some (.allocate 16 8 .externalPreferred), none, none, none, none, none, none]
      fallenBack := by
  refine .cons (.begins _ _) ?_
  refine .cons (.acts [] [] _ [] _ (0 : UInt32) ⟨rfl, rfl⟩) ?_
  refine .cons (.acts [] [] _ _ _ (0 : UInt32) ⟨rfl, rfl⟩) ?_
  refine .cons (.acts [] [] _ _ _ (0 : Nat) ⟨.inl rfl, rfl⟩) ?_
  refine .cons (.acts [] [] _ _ _ (0 : UInt32) ⟨rfl, rfl⟩) ?_
  refine .cons (.acts [] [] _ _ _ (0 : UInt32) ⟨rfl, rfl⟩) ?_
  refine .cons (.acts [] [] _ _ _ (4096 : Nat) ⟨.inr (by simp [Honours]), rfl⟩) ?_
  exact .nil _

theorem fallenBack_conserved : Conserved fallenBack ∧
    ∀ c ∈ fallenBack.calls, ∀ address, c.now = .ret (.returned address) →
      Placed (fun _ => .internal) c address := by
  have h := conserved_run fallenBack_run
  refine ⟨h.1 fun c hc => ?_, h.2⟩
  obtain rfl := List.mem_singleton.mp hc
  exact ⟨_, rfl⟩

end MemoryProvider
