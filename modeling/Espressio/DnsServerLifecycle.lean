import Espressio.DnsServer
import Espressio.Runs

/-!
# The life of a DNS server's pcb

`Initialize`, `Start`, `Stop` and `Reset` of `ESP32DnsServerPlatform`, with the
pcbs that lwIP holds for it.  `Start` and `Stop` have their work done on lwIP's
own thread, by a call that may fail and then has done nothing.

No pcb is lost or removed twice, and a listening server has one that is bound
and receives for it: `Lifecycle.owned_run`.  But `Stop` clears the listening
flag before its call, and does nothing when the flag is clear.  So after a call
that failed the pcb stays with lwIP, and the next `Stop` reports success all the
same: `stop_keeps_pcb`.  `stop_releases_iff` is how a run avoids that.
-/

namespace Dns

open Web Runs

/-! ## lwIP's side -/

/-- A `udp_pcb`: the port it is bound to, and whether it receives with
`ReceivePacket` for this platform. -/
structure Pcb where
  id : Nat
  port : Option UInt16
  receives : Bool
  deriving DecidableEq, Repr

/-- The pcbs that lwIP holds, how many have been created, and which have been
removed. -/
structure Udp where
  pcbs : List Pcb
  created : Nat
  removed : List Nat
  deriving DecidableEq, Repr

/-- `udp_new_ip_type`.  The new pcb's name is the number of those before it. -/
def Udp.new (u : Udp) : Udp :=
  { u with pcbs := u.pcbs ++ [⟨u.created, none, false⟩], created := u.created + 1 }

def Udp.update (u : Udp) (id : Nat) (change : Pcb → Pcb) : Udp :=
  { u with pcbs := u.pcbs.map fun pcb => if pcb.id = id then change pcb else pcb }

/-- `udp_bind`, when it succeeds. -/
def Udp.bind (u : Udp) (id : Nat) (port : UInt16) : Udp :=
  u.update id fun pcb => { pcb with port := some port }

/-- `udp_recv`, with `ReceivePacket` and this platform or with null. -/
def Udp.recv (u : Udp) (id : Nat) (receives : Bool) : Udp :=
  u.update id fun pcb => { pcb with receives := receives }

/-- `udp_remove`. -/
def Udp.remove (u : Udp) (id : Nat) : Udp :=
  { u with pcbs := u.pcbs.filter fun pcb => pcb.id ≠ id, removed := u.removed ++ [id] }

/-! ## The platform -/

/-- `DnsServerConfiguration`. -/
structure Configuration where
  port : UInt16
  deriving DecidableEq, Repr

/-- The platform's members, and lwIP beside it. -/
structure Lifecycle where
  udp : Udp
  configuration : Configuration
  dispatcher : Option Nat
  listening : Bool
  pcb : Option Nat
  deriving DecidableEq, Repr

/-- The answers of lwIP while a server is started: to `tcpip_api_call`, to
`udp_new_ip_type` and to `udp_bind`. -/
structure StartNatives where
  invoked : LwipErr
  created : Bool
  bound : LwipErr
  deriving DecidableEq, Repr

inductive LifecycleOp
  | initializePlatform (configuration : Configuration) (dispatcher : Nat)
  | start (natives : StartNatives)
  | stop (invoked : LwipErr)
  | reset (invoked : LwipErr)
  deriving DecidableEq, Repr

namespace Lifecycle

/-- A platform that has just been constructed. -/
def fresh (defaults : Configuration) : Lifecycle := ⟨⟨[], 0, []⟩, defaults, none, false, none⟩

/-- What both functions on lwIP's thread begin with. -/
def releasePcb (s : Lifecycle) : Lifecycle :=
  match s.pcb with
  | none => s
  | some id => { s with udp := (s.udp.recv id false).remove id, pcb := none }

/-- `StartOnTcpipThread`, with the result it leaves in the call. -/
def startOnTcpipThread (s : Lifecycle) (port : UInt16) (n : StartNatives) :
    Lifecycle × LwipErr :=
  let s := s.releasePcb
  if n.created = false then (s, .mem)
  else
    let id := s.udp.created
    let s := { s with udp := s.udp.new, pcb := some id }
    if n.bound ≠ .ok then ({ s with udp := s.udp.remove id, pcb := none }, n.bound)
    else ({ s with udp := (s.udp.bind id port).recv id true }, .ok)

/-- `StopOnTcpipThread`. -/
def stopOnTcpipThread (s : Lifecycle) : Lifecycle := s.releasePcb

/-- `Initialize`. -/
def initializePlatform (s : Lifecycle) (configuration : Configuration) (dispatcher : Nat) :
    Lifecycle × WebResult :=
  if s.listening then (s, .failure .invalidState .none)
  else ({ s with configuration := configuration, dispatcher := some dispatcher }, .success)

/-- `Start`. -/
def start (s : Lifecycle) (n : StartNatives) : Lifecycle × WebResult :=
  if s.listening then (s, .failure .alreadyRunning .none)
  else if s.dispatcher = none then (s, .failure .invalidState .none)
  else
    let (s, result) :=
      if n.invoked = .ok then s.startOnTcpipThread s.configuration.port n else (s, n.invoked)
    if result ≠ .ok then (s, .failure (dnsLwipError result) result.native)
    else ({ s with listening := true }, .success)

/-- `Stop`. -/
def stop (s : Lifecycle) (invoked : LwipErr) : Lifecycle × WebResult :=
  if s.listening = false then (s, .success)
  else
    let s := { s with listening := false }
    if invoked = .ok then (s.stopOnTcpipThread, .success)
    else (s, .failure (dnsLwipError invoked) invoked.native)

/-- `Reset`, which is also what the destructor does. -/
def reset (defaults : Configuration) (s : Lifecycle) (invoked : LwipErr) : Lifecycle :=
  { (s.stop invoked).1 with dispatcher := none, configuration := defaults }

/-- One call, and what it returns. -/
def step (defaults : Configuration) (s : Lifecycle) (op : LifecycleOp) :
    Lifecycle × List WebResult :=
  match op with
  | .initializePlatform configuration dispatcher =>
      let (s, result) := s.initializePlatform configuration dispatcher
      (s, [result])
  | .start n =>
      let (s, result) := s.start n
      (s, [result])
  | .stop invoked =>
      let (s, result) := s.stop invoked
      (s, [result])
  | .reset invoked => (s.reset defaults invoked, [])

end Lifecycle

/-- The `Stop` that a call makes, with the answer of its `tcpip_api_call`. -/
def LifecycleOp.stops : LifecycleOp → Option LwipErr
  | .stop invoked => some invoked
  | .reset invoked => some invoked
  | _ => none

/-! ## What is asked of a call -/

namespace Lifecycle

/-- Every pcb created is the current one, or has been removed once. -/
def Accounted (s : Lifecycle) : Prop :=
  ∀ id < s.udp.created,
    (s.pcb = some id ∧ s.udp.removed.count id = 0) ∨
      (s.pcb ≠ some id ∧ s.udp.removed.count id = 1)

/-- A listening server has a pcb that is bound and receives for it. -/
def Reachable (s : Lifecycle) : Prop :=
  s.listening = true → ∃ pcb ∈ s.udp.pcbs, pcb.port ≠ none ∧ pcb.receives = true

/-- Of a call: pcbs are accounted for after it, a listening server has one that
is bound and receives for it, and if the call stops the server and that
succeeds, lwIP has no pcb left that receives for it. -/
def Sound (defaults : Configuration) (s : Lifecycle) (op : LifecycleOp) : Prop :=
  (s.step defaults op).1.Accounted ∧ (s.step defaults op).1.Reachable ∧
    ∀ invoked, op.stops = some invoked → (s.stop invoked).2 = .success →
      ∀ pcb ∈ (s.step defaults op).1.udp.pcbs, pcb.receives = false

/-- The call is a `Stop` of a listening server whose `tcpip_api_call` fails. -/
def stopFails (s : Lifecycle) (op : LifecycleOp) : Bool :=
  s.listening &&
    match op.stops with
    | some invoked => decide (invoked ≠ .ok)
    | none => false

/-- The call is a `Start` that comes to run on lwIP's thread. -/
def startRuns (s : Lifecycle) : LifecycleOp → Bool
  | .start n => !s.listening && s.dispatcher.isSome && decide (n.invoked = .ok)
  | _ => false

/-- A `Stop` that has failed is behind the platform until a `Start` runs. -/
def failedAfter (failed : Bool) (s : Lifecycle) (op : LifecycleOp) : Bool :=
  s.stopFails op || failed && !s.startRuns op

/-- Between a `Stop` or `Reset` that fails and the next one, a `Start` runs.
`failed` tells whether one that failed is behind the platform. -/
def Retried (defaults : Configuration) : Bool → Lifecycle → List LifecycleOp → Prop
  | _, _, [] => True
  | failed, s, op :: ops =>
      (failed = true → op.stops = none) ∧
        Retried defaults (failedAfter failed s op) (s.step defaults op).1 ops

/-! ## The invariant -/

/-- The pcb the platform has is all that lwIP holds for it, and is ready to
receive. -/
structure Held (s : Lifecycle) : Prop where
  pcbs : (s.pcb = none ∧ s.udp.pcbs = []) ∨
    ∃ id port, s.pcb = some id ∧ s.udp.pcbs = [⟨id, some port, true⟩]
  accounted : s.Accounted
  current : ∀ id, s.pcb = some id → id < s.udp.created
  unused : ∀ id, s.udp.created ≤ id → s.udp.removed.count id = 0

/-- **The invariant** between calls. -/
structure Owned (s : Lifecycle) : Prop extends Held s where
  listening : s.listening = true → s.pcb ≠ none

/-- The fields that are none of lwIP's business stay as they are. -/
def SameMembers (s s' : Lifecycle) : Prop :=
  s'.configuration = s.configuration ∧ s'.dispatcher = s.dispatcher ∧ s'.listening = s.listening

theorem Held.congr {s s' : Lifecycle} (h : Held s) (hudp : s'.udp = s.udp)
    (hpcb : s'.pcb = s.pcb) : Held s' := by
  refine ⟨?_, ?_, ?_, ?_⟩
  · rw [hudp, hpcb]
    exact h.pcbs
  · intro id
    rw [hudp, hpcb]
    exact h.accounted id
  · rw [hudp, hpcb]
    exact h.current
  · rw [hudp]
    exact h.unused

/-- **Releasing** leaves nothing with lwIP, and counts the pcb as removed. -/
theorem Held.releasePcb {s : Lifecycle} (h : Held s) :
    Held s.releasePcb ∧ s.releasePcb.pcb = none ∧ s.releasePcb.udp.pcbs = [] ∧
      SameMembers s s.releasePcb := by
  rcases h.pcbs with ⟨hnone, hempty⟩ | ⟨id, port, hpcb, hone⟩
  · have hsame : s.releasePcb = s := by
      unfold Lifecycle.releasePcb
      rw [hnone]
    rw [hsame]
    exact ⟨h, hnone, hempty, rfl, rfl, rfl⟩
  · have hreleased : s.releasePcb =
        { s with udp := ⟨[], s.udp.created, s.udp.removed ++ [id]⟩, pcb := none } := by
      unfold Lifecycle.releasePcb
      rw [hpcb]
      simp [Udp.recv, Udp.update, Udp.remove, hone]
    rw [hreleased]
    refine ⟨⟨Or.inl ⟨rfl, rfl⟩, ?_, ?_, ?_⟩, rfl, rfl, rfl, rfl, rfl⟩
    · intro other hother
      refine Or.inr ⟨by simp, ?_⟩
      simp only [List.count_append, List.count_singleton, beq_iff_eq]
      rcases h.accounted other hother with ⟨hcurrent, hcount⟩ | ⟨hcurrent, hcount⟩
      · rw [hpcb] at hcurrent
        rw [hcount, if_pos (Option.some.inj hcurrent)]
      · rw [hcount, if_neg fun heq => hcurrent (by rw [hpcb, heq])]
    · intro other hother
      cases hother
    · intro other hother
      have hlt := h.current id hpcb
      have hne : id ≠ other := by
        rintro rfl
        exact absurd hlt (Nat.not_lt.mpr hother)
      simp only [List.count_append, List.count_singleton, beq_iff_eq, if_neg hne]
      exact h.unused other hother

/-- **The work of `Start`**: a new pcb takes the place of the old one, or there
is none. -/
theorem Held.startOnTcpipThread {s : Lifecycle} (h : Held s) (port : UInt16) (n : StartNatives) :
    Held (s.startOnTcpipThread port n).1 ∧ SameMembers s (s.startOnTcpipThread port n).1 ∧
      ((s.startOnTcpipThread port n).2 = .ok ↔ (s.startOnTcpipThread port n).1.pcb ≠ none) := by
  obtain ⟨hheld, hnone, hempty, hsame⟩ := h.releasePcb
  unfold Lifecycle.startOnTcpipThread
  generalize s.releasePcb = r at hheld hnone hempty hsame
  dsimp only
  have hremoved : ∀ id < r.udp.created, r.udp.removed.count id = 1 := by
    intro id hid
    rcases hheld.accounted id hid with ⟨hcurrent, -⟩ | ⟨-, hcount⟩
    · rw [hnone] at hcurrent
      cases hcurrent
    · exact hcount
  have hfresh := hheld.unused r.udp.created (Nat.le_refl _)
  by_cases hcreated : n.created = false
  · rw [if_pos hcreated]
    exact ⟨hheld, hsame, iff_of_false (by simp) (not_not.mpr hnone)⟩
  · rw [if_neg hcreated]
    by_cases hbound : n.bound = .ok
    · rw [if_neg (not_not.mpr hbound)]
      refine ⟨⟨Or.inr ⟨r.udp.created, port, rfl, ?_⟩, ?_, ?_, ?_⟩, hsame, iff_of_true rfl (by simp)⟩
      · simp [Udp.recv, Udp.bind, Udp.update, Udp.new, hempty]
      · intro id hid
        have hid' : id < r.udp.created + 1 := hid
        by_cases hnew : id = r.udp.created
        · exact Or.inl ⟨by rw [hnew], by rw [hnew]; exact hfresh⟩
        · refine Or.inr ⟨fun heq => hnew (Option.some.inj heq).symm, ?_⟩
          exact hremoved id (by omega)
      · intro id hid
        obtain rfl : r.udp.created = id := Option.some.inj hid
        exact Nat.lt_succ_self _
      · intro id hid
        have hid' : r.udp.created + 1 ≤ id := hid
        exact hheld.unused id (by omega)
    · rw [if_pos hbound]
      refine ⟨⟨Or.inl ⟨rfl, ?_⟩, ?_, ?_, ?_⟩, hsame, iff_of_false hbound (by simp)⟩
      · simp [Udp.remove, Udp.new, hempty]
      · intro id hid
        have hid' : id < r.udp.created + 1 := hid
        refine Or.inr ⟨by simp, ?_⟩
        simp only [Udp.remove, Udp.new, List.count_append, List.count_singleton, beq_iff_eq]
        by_cases hnew : r.udp.created = id
        · rw [if_pos hnew, ← hnew, hfresh]
        · rw [if_neg hnew, hremoved id (by omega)]
      · intro id hid
        cases hid
      · intro id hid
        have hid' : r.udp.created + 1 ≤ id := hid
        simp only [Udp.remove, Udp.new, List.count_append, List.count_singleton, beq_iff_eq]
        rw [if_neg (by omega), hheld.unused id (by omega)]

section Owned

variable {s : Lifecycle} {failed : Bool}

/-- A failed `Stop` shows: the server does not listen, and still has a pcb. -/
def Behind (failed : Bool) (s : Lifecycle) : Prop :=
  failed = true ↔ s.listening = false ∧ s.pcb ≠ none

theorem Behind.of_listening (h : Behind failed s) (hon : s.listening = true) : failed = false := by
  refine Bool.eq_false_iff.mpr fun hyes => ?_
  have hoff := (h.mp hyes).1
  rw [hon] at hoff
  cases hoff

theorem Behind.of_pcb (h : Behind failed s) (hnone : s.pcb = none) : failed = false :=
  Bool.eq_false_iff.mpr fun hyes => (h.mp hyes).2 hnone

/-- **What a `Stop` comes to.** -/
theorem Owned.stop_cases (h : Owned s) (invoked : LwipErr) :
    (s.listening = false ∧ s.stop invoked = (s, .success)) ∨
      (s.listening = true ∧ invoked = .ok ∧ (s.stop invoked).1.udp.pcbs = [] ∧
        (s.stop invoked).1.pcb = none ∧ Owned (s.stop invoked).1) ∨
      (s.listening = true ∧ invoked ≠ .ok ∧ (s.stop invoked).2 ≠ .success ∧
        (s.stop invoked).1 = { s with listening := false } ∧ Owned (s.stop invoked).1) := by
  unfold stop
  by_cases hoff : s.listening = false
  · exact Or.inl ⟨hoff, if_pos hoff⟩
  · have hon : s.listening = true := by simpa using hoff
    have hheld : Held { s with listening := false } := h.toHeld.congr rfl rfl
    rw [if_neg hoff]
    dsimp only
    by_cases hok : invoked = .ok
    · rw [if_pos hok]
      obtain ⟨hreleased, hnone, hempty, -, -, hlistening⟩ := hheld.releasePcb
      refine Or.inr (Or.inl ⟨hon, hok, hempty, hnone, hreleased, ?_⟩)
      intro hagain
      rw [stopOnTcpipThread, hlistening] at hagain
      cases hagain
    · rw [if_neg hok]
      refine Or.inr (Or.inr ⟨hon, hok, by simp, rfl, hheld, ?_⟩)
      intro hagain
      cases hagain

/-- **What a `Start` comes to**: nothing, or a server that listens if it now
has a pcb. -/
theorem Owned.start_cases (h : Owned s) (n : StartNatives) :
    (s.startRuns (.start n) = false ∧ (s.start n).1 = s) ∨
      (s.startRuns (.start n) = true ∧ Owned (s.start n).1 ∧
        ((s.start n).1.pcb ≠ none → (s.start n).1.listening = true)) := by
  unfold start
  by_cases hon : s.listening = true
  · exact Or.inl ⟨by simp [startRuns, hon], by rw [if_pos hon]⟩
  · have hoff : s.listening = false := Bool.eq_false_iff.mpr hon
    rw [if_neg hon]
    by_cases hnone : s.dispatcher = none
    · exact Or.inl ⟨by simp [startRuns, hnone], by rw [if_pos hnone]⟩
    · rw [if_neg hnone]
      by_cases hrun : n.invoked = .ok
      · rw [if_pos hrun]
        have hstarts : s.startRuns (.start n) = true := by
          simp [startRuns, hoff, hrun, Option.isSome_iff_ne_none, hnone]
        obtain ⟨hheld, ⟨-, -, hlistening⟩, hresult⟩ :=
          h.toHeld.startOnTcpipThread s.configuration.port n
        generalize s.startOnTcpipThread s.configuration.port n = done at hheld hlistening hresult
        obtain ⟨s', result⟩ := done
        dsimp only at hheld hlistening hresult ⊢
        refine Or.inr ⟨hstarts, ?_⟩
        by_cases hok : result = .ok
        · rw [if_neg (not_not.mpr hok)]
          exact ⟨⟨hheld.congr rfl rfl, fun _ => hresult.mp hok⟩, fun _ => rfl⟩
        · rw [if_pos hok]
          refine ⟨⟨hheld, fun hagain => ?_⟩, fun hpcb => absurd (hresult.mpr hpcb) hok⟩
          dsimp only at hagain
          rw [hlistening, hoff] at hagain
          cases hagain
      · rw [if_neg hrun]
        refine Or.inl ⟨by simp [startRuns, hrun], ?_⟩
        dsimp only
        rw [if_pos hrun]

/-- What `Reset` adds to `Stop` is none of lwIP's business. -/
theorem Owned.members (h : Owned s) (configuration : Configuration) (dispatcher : Option Nat) :
    Owned { s with configuration := configuration, dispatcher := dispatcher } :=
  ⟨h.toHeld.congr rfl rfl, h.listening⟩

theorem Owned.stop (h : Owned s) (invoked : LwipErr) : Owned (s.stop invoked).1 := by
  rcases h.stop_cases invoked with ⟨-, hsame⟩ | ⟨-, -, -, -, hnext⟩ | ⟨-, -, -, -, hnext⟩
  · rw [hsame]
    exact h
  · exact hnext
  · exact hnext

/-- **Step lemma.** -/
theorem Owned.step (h : Owned s) (defaults : Configuration) (op : LifecycleOp) :
    Owned (s.step defaults op).1 := by
  cases op with
  | initializePlatform configuration dispatcher =>
      simp only [Lifecycle.step, initializePlatform]
      split
      · exact h
      · exact h.members configuration (some dispatcher)
  | start n =>
      simp only [Lifecycle.step]
      rcases h.start_cases n with ⟨-, hsame⟩ | ⟨-, hnext, -⟩
      · rw [hsame]
        exact h
      · exact hnext
  | stop invoked => exact h.stop invoked
  | reset invoked => exact (h.stop invoked).members defaults none

/-- A `Stop`, of itself or in `Reset`, and the flag. -/
theorem Behind.stop (hfailed : Behind failed s) (h : Owned s) {op : LifecycleOp}
    {invoked : LwipErr} (hstops : op.stops = some invoked) (hstart : s.startRuns op = false) :
    Behind (failedAfter failed s op) (s.stop invoked).1 := by
  unfold failedAfter stopFails
  rw [hstops, hstart]
  rcases h.stop_cases invoked with ⟨hoff, hsame⟩ | ⟨hon, hok, -, hnone, -⟩ |
    ⟨hon, hfails, -, hsame, -⟩
  · simpa [hoff, hsame] using hfailed
  · have hnot := hfailed.of_listening hon
    subst hok
    simp [Behind, hnone, hnot]
  · simpa [Behind, hon, hfails, hsame] using h.listening hon

theorem Behind.step (hfailed : Behind failed s) (h : Owned s) (defaults : Configuration)
    (op : LifecycleOp) : Behind (failedAfter failed s op) (s.step defaults op).1 := by
  cases op with
  | initializePlatform configuration dispatcher =>
      simp only [Lifecycle.step, initializePlatform]
      have hflag :
          failedAfter failed s (.initializePlatform configuration dispatcher) = failed := by
        simp [failedAfter, stopFails, startRuns, LifecycleOp.stops]
      rw [hflag]
      split
      · exact hfailed
      · exact hfailed
  | start n =>
      simp only [Lifecycle.step]
      have hstops : s.stopFails (.start n) = false := by simp [stopFails, LifecycleOp.stops]
      unfold Behind failedAfter at *
      rcases h.start_cases n with ⟨hruns, hsame⟩ | ⟨hruns, -, hlistens⟩
      · simpa [hstops, hruns, hsame] using hfailed
      · rw [hstops, hruns]
        refine iff_of_false (by simp) ?_
        intro hboth
        obtain ⟨hoff, hpcb⟩ := hboth
        rw [hlistens hpcb] at hoff
        cases hoff
  | stop invoked => exact hfailed.stop h rfl rfl
  | reset invoked => exact hfailed.stop h rfl rfl

theorem Owned.reachable (h : Owned s) : s.Reachable := by
  intro hon
  rcases h.pcbs with ⟨hnone, -⟩ | ⟨id, port, -, hone⟩
  · exact absurd hnone (h.listening hon)
  · rw [hone]
    exact ⟨_, List.mem_singleton_self _, by simp, rfl⟩

/-- A `Stop` that reports success has released the pcb, unless one that failed
is behind the platform. -/
theorem Owned.stop_releases (h : Owned s) (hfailed : Behind failed s) (invoked : LwipErr) :
    ((s.stop invoked).2 = .success → ∀ pcb ∈ (s.stop invoked).1.udp.pcbs, pcb.receives = false) ↔
      failed = false := by
  rcases h.stop_cases invoked with ⟨hoff, hsame⟩ | ⟨hon, -, hempty, -⟩ |
    ⟨hon, -, hfails, -⟩
  · rw [hsame]
    rcases h.pcbs with ⟨hnone, hempty⟩ | ⟨id, port, hpcb, hone⟩
    · simp [hempty, hfailed.of_pcb hnone]
    · have hyes : failed = true := hfailed.mpr ⟨hoff, by simp [hpcb]⟩
      simp [hone, hyes]
  · simp [hempty, hfailed.of_listening hon]
  · simp [hfails, hfailed.of_listening hon]

/-- **One call.** -/
theorem Owned.sound_iff (h : Owned s) (hfailed : Behind failed s) (defaults : Configuration)
    (op : LifecycleOp) : s.Sound defaults op ↔ (failed = true → op.stops = none) := by
  have hnext := h.step defaults op
  have hrest : s.Sound defaults op ↔
      ∀ invoked, op.stops = some invoked → (s.stop invoked).2 = .success →
        ∀ pcb ∈ (s.step defaults op).1.udp.pcbs, pcb.receives = false :=
    ⟨fun hsound => hsound.2.2, fun hstops => ⟨hnext.accounted, hnext.reachable, hstops⟩⟩
  rw [hrest]
  have hsame : ∀ invoked, op.stops = some invoked →
      (s.step defaults op).1.udp = (s.stop invoked).1.udp := by
    intro invoked hstops
    cases op with
    | stop e | reset e =>
        cases hstops
        rfl
    | initializePlatform | start => cases hstops
  cases hstops : op.stops with
  | none => simp
  | some invoked =>
      have hreleases := h.stop_releases hfailed invoked
      rw [← hsame invoked hstops] at hreleases
      simpa using hreleases

theorem owned_fresh (defaults : Configuration) : Owned (fresh defaults) :=
  ⟨⟨Or.inl ⟨rfl, rfl⟩, fun _ hid => absurd hid (Nat.not_lt_zero _), fun _ hid => (by cases hid),
    fun _ _ => rfl⟩, fun hon => (by cases hon)⟩

/-- **No pcb is lost or removed twice**, and a listening server can be reached,
after any calls with any answers of lwIP. -/
theorem owned_run (defaults : Configuration) (ops : List LifecycleOp) :
    (feed (Lifecycle.step defaults) (fresh defaults) ops).1.Accounted ∧
      (feed (Lifecycle.step defaults) (fresh defaults) ops).1.Reachable := by
  have hstep : ∀ s op, Owned s → Owned (s.step defaults op).1 := fun s op h => h.step defaults op
  have h := feed_keeps hstep (owned_fresh defaults) ops
  exact ⟨h.accounted, h.reachable⟩

theorem Owned.run_iff (h : Owned s) (hfailed : Behind failed s) (defaults : Configuration)
    (ops : List LifecycleOp) :
    (∀ x ∈ trace (Lifecycle.step defaults) s ops, x.1.Sound defaults x.2) ↔
      Retried defaults failed s ops := by
  induction ops generalizing s failed with
  | nil => simp [trace, Retried]
  | cons op ops ih =>
      rw [trace, List.forall_mem_cons, Retried, h.sound_iff hfailed]
      exact and_congr_right fun _ => ih (h.step defaults op) (hfailed.step h defaults op)

end Owned

end Lifecycle

/-- **When a `Stop` that reports success leaves no pcb behind.**  In a run of
any calls, with any answers of lwIP, pcbs are always accounted for and a
listening server always has one; that every successful `Stop` has released it,
and so the one of `Reset` and of the destructor, holds exactly if after every
`Stop` or `Reset` whose `tcpip_api_call` fails a `Start` runs before the next
one. -/
theorem stop_releases_iff (defaults : Configuration) (ops : List LifecycleOp) :
    (∀ x ∈ trace (Lifecycle.step defaults) (Lifecycle.fresh defaults) ops,
        x.1.Sound defaults x.2) ↔
      Lifecycle.Retried defaults false (Lifecycle.fresh defaults) ops := by
  have hbehind : Lifecycle.Behind false (Lifecycle.fresh defaults) :=
    iff_of_false Bool.false_ne_true fun hboth => hboth.2 rfl
  exact (Lifecycle.owned_fresh defaults).run_iff hbehind defaults ops

/-- A server is started; the first `Stop` fails, and the second reports success
with the pcb still in place. -/
theorem stop_keeps_pcb :
    ¬ ∀ (defaults : Configuration) (ops : List LifecycleOp),
      ∀ x ∈ trace (Lifecycle.step defaults) (Lifecycle.fresh defaults) ops,
        x.1.Sound defaults x.2 := by
  intro h
  have hsound := h ⟨53⟩ [.initializePlatform ⟨53⟩ 0, .start ⟨.ok, true, .ok⟩, .stop (.other (-3)),
    .stop .ok] _ (List.mem_cons_of_mem _ (List.mem_cons_of_mem _ (List.mem_cons_of_mem _
      List.mem_cons_self)))
  have hlost := hsound.2.2 .ok rfl (by decide) ⟨0, some 53, true⟩ (by decide)
  cases hlost

end Dns
