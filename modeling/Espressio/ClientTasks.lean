import Espressio.ClientPlatform
import Espressio.Runs

/-!
# The native client's handle between tasks

Any number of tasks call `Connect`, `Disconnect`, `SendBinary`, `SendText` and
`Close` of the connection on one platform.  A task is somewhere between the
locked sections and the native calls of its operation; it has taken the handle
along from a locked section.  An event is one locked section or one native
call of one task, so that a list of events is an interleaving.

The native client's own task raises events meanwhile.  The locked section of
a handler and the sink call after it are two steps.

Handles and connections are numbered in the order in which they are made.
-/

namespace WebSocketClient

open NetworkBytes Web
open PlatformResults (EspErr)

/-- Where a task is: before which native call or locked section. -/
inductive TaskState
  | idle
  | sending (client : Nat) (send : Send)
  | mayDisconnect (code : UInt16) (reason : Bytes)
  | asking (closing : Closing)
  | stopping (closing : Closing) (connected : Bool)
  | destroying (closing : Closing) (stopped : EspErr)
  | finishing (closing : Closing) (stopped destroyed : EspErr)
  | notifying (call : SinkCall)
  deriving DecidableEq, Repr

/-- What a native call answers, whichever it is. -/
structure NativeAnswer where
  connected : Bool
  error : EspErr
  deriving DecidableEq, Repr

/-- The platform, the tasks, the number of handles made, all native calls
made, the sink call a handler is about to make, and the sink calls made. -/
structure Tasks where
  platform : Platform
  task : Nat → TaskState
  created : Nat
  calls : List NativeCall
  pending : Option SinkCall
  notices : List SinkCall

def Tasks.initial (sink : Option Nat) : Tasks :=
  ⟨Platform.initial sink, fun _ => .idle, 0, [], none, []⟩

def Tasks.set (σ : Tasks) (t : Nat) (state : TaskState) : Tasks :=
  { σ with task := fun u => if u = t then state else σ.task u }

inductive TaskEvent
  | connect (task : Nat) (natives : ConnectNatives)
  | disconnect (task : Nat) (code : UInt16) (reason : Bytes)
  | closeConnection (task : Nat) (connection : Nat) (code : UInt16) (reason : Bytes)
  | sendBinary (task : Nat) (connection : Nat) (data : Option Bytes) (size : Nat)
  | sendText (task : Nat) (connection : Nat) (text : Bytes)
  | advance (task : Nat) (answer : NativeAnswer)
  | link (task : Nat) (e : LinkEvent)
  | tell

/-- `Connect`, which is one locked section. -/
def Tasks.connect (σ : Tasks) (n : ConnectNatives) : Tasks :=
  let n := { n with client := n.client.map fun _ => σ.created }
  let (platform, _, calls) := σ.platform.connect n σ.created
  { σ with
    platform := platform
    created := if .init (some σ.created) ∈ calls then σ.created + 1 else σ.created
    calls := σ.calls ++ calls }

/-- The first locked section of `Disconnect`. -/
def Tasks.disconnect (σ : Tasks) (t : Nat) (code : UInt16) (reason : Bytes) : Tasks :=
  match σ.platform.beginDisconnect t code reason with
  | (_, .error _) => σ.set t .idle
  | (platform, .ok closing) => { σ with platform := platform }.set t (.asking closing)

/-- A send up to the end of its locked section. -/
def Tasks.send (σ : Tasks) (t : Nat) : Except WebResult (Nat × Send) → Tasks
  | .error _ => σ
  | .ok (client, send) => σ.set t (.sending client send)

def Tasks.call (σ : Tasks) (call : NativeCall) : Tasks := { σ with calls := σ.calls ++ [call] }

/-- The next native call, or the next locked section, of a task. -/
def Tasks.advance (σ : Tasks) (t : Nat) (answer : NativeAnswer) : Tasks :=
  match σ.task t with
  | .idle => σ
  | .sending client send => (σ.call (send.call client)).set t .idle
  | .mayDisconnect code reason => σ.disconnect t code reason
  | .asking closing =>
      (σ.call (.isConnected closing.client)).set t (.stopping closing answer.connected)
  | .stopping closing connected =>
      (σ.call (closing.stopCall connected)).set t (.destroying closing answer.error)
  | .destroying closing stopped =>
      (σ.call (.destroy closing.client)).set t (.finishing closing stopped answer.error)
  | .finishing closing _ _ =>
      let (platform, owed) := σ.platform.finishDisconnect closing
      { σ with platform := platform }.set t (match owed with
        | some call => .notifying call
        | none => .idle)
  | .notifying call => { σ with notices := σ.notices ++ [call] }.set t .idle

/-- One step of an interleaving.  A task begins an operation when it is done
with the last one, and the native client an event when its handler is. -/
def Tasks.step (σ : Tasks) : TaskEvent → Tasks
  | .connect t natives => if σ.task t = .idle then σ.connect natives else σ
  | .disconnect t code reason => if σ.task t = .idle then σ.disconnect t code reason else σ
  | .closeConnection t connection code reason =>
      if σ.task t = .idle ∧ σ.platform.mayClose connection then
        σ.set t (.mayDisconnect code reason)
      else σ
  | .sendBinary t connection data size =>
      if σ.task t = .idle then σ.send t (σ.platform.beginSendBinary connection data size) else σ
  | .sendText t connection text =>
      if σ.task t = .idle then σ.send t (σ.platform.beginSendText connection text) else σ
  | .advance t answer => σ.advance t answer
  | .link t e =>
      if σ.pending = none then
        let (platform, calls) := σ.platform.handleLinkEvent t e
        { σ with platform := platform, pending := calls.head? }
      else σ
  | .tell => { σ with pending := none, notices := σ.notices ++ σ.pending.toList }

/-- The handle was made and has not been destroyed. -/
def Tasks.Live (σ : Tasks) (h : Nat) : Prop :=
  .init (some h) ∈ σ.calls ∧ .destroy h ∉ σ.calls

/-- No call is made on a handle after it was destroyed. -/
def UsesLive (calls : List NativeCall) : Prop :=
  calls.Pairwise fun earlier later => ∀ h, earlier = .destroy h → later.handle ≠ some h

/-- **The handle's lifetime.**  One native client at a time; a handle that was
made is destroyed once or is the current one; and a destroyed handle is not
used. -/
structure HandlesSound (σ : Tasks) : Prop where
  single : ∀ h k, σ.Live h → σ.Live k → h = k
  accounted : ∀ h, .init (some h) ∈ σ.calls →
    σ.calls.count (.destroy h) = 1 ∨
      (σ.platform.state.client = some h ∧ σ.calls.count (.destroy h) = 0)
  usesLive : UsesLive σ.calls

/-- The `Disconnect` that a task is in, from its first locked section to the
end of its second. -/
def TaskState.closing : TaskState → Option Closing
  | .asking closing => some closing
  | .stopping closing _ => some closing
  | .destroying closing _ => some closing
  | .finishing closing _ _ => some closing
  | _ => none

def TaskState.sends : TaskState → Option Nat
  | .sending client _ => some client
  | _ => none

/-- The handle has been destroyed and is still `_client`. -/
def TaskState.isFinishing : TaskState → Bool
  | .finishing _ _ _ => true
  | _ => false

/-- A send neither holds a handle while it is destroyed nor takes one that has
been. -/
def Exclusive (σ : Tasks) : TaskEvent → Prop
  | .advance t _ => ∀ closing stopped, σ.task t = .destroying closing stopped →
      ∀ u, (σ.task u).sends ≠ some closing.client
  | .sendBinary t connection data size => σ.task t = .idle →
      (∃ u, (σ.task u).isFinishing = true) →
      ∀ taken, σ.platform.beginSendBinary connection data size ≠ .ok taken
  | .sendText t connection text => σ.task t = .idle → (∃ u, (σ.task u).isFinishing = true) →
      ∀ taken, σ.platform.beginSendText connection text ≠ .ok taken
  | _ => True

/-- **The invariant.** -/
structure TasksInv (σ : Tasks) : Prop where
  made : ∀ h, .init (some h) ∈ σ.calls ↔ h < σ.created
  destroyed : ∀ h, .destroy h ∈ σ.calls → h < σ.created
  client : ∀ h, σ.platform.state.client = some h → h < σ.created
  live : ∀ h, h < σ.created → .destroy h ∉ σ.calls → σ.platform.state.client = some h
  current : ∀ h, σ.platform.state.client = some h →
    (∀ t, (σ.task t).isFinishing = false) → .destroy h ∉ σ.calls
  closing : ∀ t c, (σ.task t).closing = some c → σ.platform.disconnecting = true ∧
    σ.platform.state.client = some c.client ∧
      ((σ.task t).isFinishing = false ↔ .destroy c.client ∉ σ.calls)
  alone : ∀ t u c d, (σ.task t).closing = some c → (σ.task u).closing = some d → t = u
  sending : ∀ t h, (σ.task t).sends = some h → h < σ.created ∧ .destroy h ∉ σ.calls
  usesLive : UsesLive σ.calls

theorem tasksInv_initial (sink : Option Nat) : TasksInv (Tasks.initial sink) where
  made := by simp [Tasks.initial]
  destroyed := by simp [Tasks.initial]
  client := nofun
  live := nofun
  current := nofun
  closing := nofun
  alone := nofun
  sending := nofun
  usesLive := List.Pairwise.nil

theorem UsesLive.append {calls : List NativeCall} {call : NativeCall} (h : UsesLive calls)
    (hcall : ∀ handle, call.handle = some handle → .destroy handle ∉ calls) :
    UsesLive (calls ++ [call]) := by
  refine List.pairwise_append.mpr ⟨h, List.pairwise_singleton _ _, ?_⟩
  intro earlier hearlier later hlater handle heq hhandle
  obtain rfl := List.mem_singleton.mp hlater
  exact hcall handle hhandle (heq ▸ hearlier)

theorem UsesLive.count_destroy {calls : List NativeCall} (h : UsesLive calls) (handle : Nat) :
    calls.count (.destroy handle) ≤ 1 := by
  induction calls with
  | nil => exact Nat.zero_le _
  | cons call rest ih =>
      obtain ⟨hhead, htail⟩ := List.pairwise_cons.mp h
      by_cases heq : call = .destroy handle
      · have hnone : rest.count (.destroy handle) = 0 := by
          rw [List.count_eq_zero]
          intro hmem
          exact hhead _ hmem handle heq rfl
        have hone : (call :: rest).count (.destroy handle) = 1 := by
          rw [heq, List.count_cons_self, hnone]
        exact Nat.le_of_eq hone
      · rw [List.count_cons_of_ne heq]
        exact ih htail

theorem TasksInv.sound {σ : Tasks} (h : TasksInv σ) : HandlesSound σ where
  single := by
    intro a b ha hb
    have hclient := h.live a ((h.made a).mp ha.1) ha.2
    rw [h.live b ((h.made b).mp hb.1) hb.2] at hclient
    exact (Option.some.inj hclient).symm
  accounted := by
    intro a ha
    by_cases hd : .destroy a ∈ σ.calls
    · left
      have hle := h.usesLive.count_destroy a
      have hpos := List.count_pos_iff.mpr hd
      omega
    · exact Or.inr ⟨h.live a ((h.made a).mp ha) hd, List.count_eq_zero.mpr hd⟩
  usesLive := h.usesLive

/-! ## Steps -/

section Steps

variable {σ : Tasks} {t : Nat}

@[simp] theorem Tasks.task_set (state : TaskState) (u : Nat) :
    (σ.set t state).task u = if u = t then state else σ.task u := rfl

theorem TaskState.isFinishing_closing {state : TaskState} (h : state.isFinishing = true) :
    ∃ c, state.closing = some c := by
  cases state <;> simp_all [TaskState.isFinishing, TaskState.closing]

/-- A task goes on, within its `Disconnect` or out of one it has not finished
yet, and perhaps with a live handle to send with. -/
theorem TasksInv.setTask (h : TasksInv σ) {state : TaskState}
    (hold : (σ.task t).isFinishing = false) (hnew : state.isFinishing = false)
    (hclosing : ∀ c, state.closing = some c → (σ.task t).closing = some c)
    (hsends : ∀ k, state.sends = some k → k < σ.created ∧ .destroy k ∉ σ.calls) :
    TasksInv (σ.set t state) := by
  have hclose : ∀ u c, ((σ.set t state).task u).closing = some c →
      (σ.task u).closing = some c := by
    intro u c hu
    rw [Tasks.task_set] at hu
    split at hu
    · rename_i heq
      rw [heq]
      exact hclosing c hu
    · exact hu
  have hfinishing : ∀ u, ((σ.set t state).task u).isFinishing = (σ.task u).isFinishing := by
    intro u
    rw [Tasks.task_set]
    split
    · rename_i heq
      rw [heq, hold, hnew]
    · rfl
  refine ⟨h.made, h.destroyed, h.client, h.live, ?_, ?_, ?_, ?_, h.usesLive⟩
  · exact fun k hk hfree => h.current k hk fun u => (hfinishing u).symm.trans (hfree u)
  · intro u c hu
    obtain ⟨hdis, hclient, hlive⟩ := h.closing u c (hclose u c hu)
    rw [hfinishing]
    exact ⟨hdis, hclient, hlive⟩
  · exact fun u v c d hu hv => h.alone u v c d (hclose u c hu) (hclose v d hv)
  · intro u k hu
    rw [Tasks.task_set] at hu
    split at hu
    · exact hsends k hu
    · exact h.sending u k hu

/-- A call that neither makes nor destroys a client, on a live handle. -/
theorem TasksInv.call (h : TasksInv σ) (call : NativeCall)
    (hinit : ∀ k, call ≠ .init (some k)) (hdestroy : ∀ k, call ≠ .destroy k)
    (hlive : ∀ k, call.handle = some k → .destroy k ∉ σ.calls) : TasksInv (σ.call call) := by
  have hold : ∀ k, .destroy k ∈ (σ.call call).calls ↔ .destroy k ∈ σ.calls := by
    intro k
    simp only [Tasks.call, List.mem_append, List.mem_singleton]
    exact ⟨fun hk => hk.resolve_right fun heq => hdestroy k heq.symm, Or.inl⟩
  have hmade : ∀ k, .init (some k) ∈ (σ.call call).calls ↔ .init (some k) ∈ σ.calls := by
    intro k
    simp only [Tasks.call, List.mem_append, List.mem_singleton]
    exact ⟨fun hk => hk.resolve_right fun heq => hinit k heq.symm, Or.inl⟩
  refine ⟨fun k => (hmade _).trans (h.made k), fun k hk => h.destroyed k ((hold k).mp hk),
    h.client, fun k hk hd => h.live k hk fun hin => hd ((hold k).mpr hin), ?_, ?_, h.alone, ?_,
    h.usesLive.append hlive⟩
  · intro k hclient hfree hin
    exact h.current k hclient hfree ((hold k).mp hin)
  · intro u c hu
    obtain ⟨hdis, hclient, hfresh⟩ := h.closing u c hu
    exact ⟨hdis, hclient, hfresh.trans (not_congr (hold _)).symm⟩
  · intro u k hu
    obtain ⟨hlt, hd⟩ := h.sending u k hu
    exact ⟨hlt, fun hin => hd ((hold k).mp hin)⟩

/-- An event handler changes neither the client nor who may disconnect. -/
theorem TasksInv.setPlatform (h : TasksInv σ) {p : Platform}
    (hclient : p.state.client = σ.platform.state.client)
    (hdisconnecting : p.disconnecting = σ.platform.disconnecting) (pending : Option SinkCall)
    (notices : List SinkCall) :
    TasksInv { σ with platform := p, pending := pending, notices := notices } := by
  refine ⟨h.made, h.destroyed, ?_, ?_, ?_, ?_, h.alone, h.sending, h.usesLive⟩
  · intro k hk
    exact h.client k (hclient ▸ hk)
  · intro k hk hd
    exact hclient.trans (h.live k hk hd)
  · intro k hk
    exact h.current k (hclient ▸ hk)
  · intro u c hu
    obtain ⟨hdis, hc, hlive⟩ := h.closing u c hu
    exact ⟨hdisconnecting.trans hdis, hclient.trans hc, hlive⟩

/-- While no `Disconnect` is under way the current handle is live. -/
theorem TasksInv.current_live (h : TasksInv σ) (hfree : σ.platform.disconnecting = false)
    {k : Nat} (hk : σ.platform.state.client = some k) : .destroy k ∉ σ.calls := by
  apply h.current k hk
  intro u
  by_contra hu
  obtain ⟨c, hc⟩ := TaskState.isFinishing_closing (by simpa using hu)
  have := (h.closing u c hc).1
  rw [hfree] at this
  cases this

theorem TasksInv.disconnect (h : TasksInv σ) (hold : (σ.task t).closing = none) (code : UInt16)
    (reason : Bytes) : TasksInv (σ.disconnect t code reason) := by
  have hfinishing : (σ.task t).isFinishing = false := by
    by_contra hf
    obtain ⟨c, hc⟩ := TaskState.isFinishing_closing (by simpa using hf)
    rw [hold] at hc
    cases hc
  unfold Tasks.disconnect Platform.beginDisconnect
  split
  · exact h.setTask hfinishing rfl nofun nofun
  · rename_i platform closing hbegin
    split at hbegin
    · cases hbegin
    · rename_i client hclient
      split at hbegin
      · cases hbegin
      · rename_i hfree
        split at hbegin
        · cases hbegin
        · cases hbegin
          have hlive := h.current_live (by simpa using hfree) hclient
          have hnone : ∀ u, (σ.task u).closing = none := by
            intro u
            cases hc : (σ.task u).closing with
            | none => rfl
            | some c => exact absurd (h.closing u c hc).1 hfree
          have hclose : ∀ u c, ((σ.set t (.asking ⟨client, σ.platform.state.connected, code,
              reason⟩)).task u).closing = some c → u = t ∧ c.client = client := by
            intro u c hu
            rw [Tasks.task_set] at hu
            split at hu
            · obtain rfl := Option.some.inj hu
              exact ⟨‹_›, rfl⟩
            · rw [hnone u] at hu
              cases hu
          refine ⟨h.made, h.destroyed, h.client, h.live, ?_, ?_, ?_, ?_, h.usesLive⟩
          · intro k hk _
            obtain rfl : client = k := Option.some.inj (hclient.symm.trans hk)
            exact hlive
          · intro u c hu
            obtain ⟨rfl, hc⟩ := hclose u c hu
            refine ⟨rfl, hclient.trans (congrArg some hc.symm), fun _ => hc ▸ hlive, fun _ => ?_⟩
            change ((σ.set u _).task u).isFinishing = false
            rw [Tasks.task_set, if_pos rfl]
            rfl
          · intro u v c d hu hv
            exact (hclose u c hu).1.trans (hclose v d hv).1.symm
          · intro u k hu
            change ((σ.set t _).task u).sends = some k at hu
            rw [Tasks.task_set] at hu
            split at hu
            · cases hu
            · exact h.sending u k hu

/-- What a send takes along is the current handle. -/
theorem Platform.taken_binary {p : Platform} {connection size : Nat} {data : Option Bytes}
    {client : Nat} {send : Send}
    (h : p.beginSendBinary connection data size = .ok (client, send)) :
    p.sendHandle connection = some client := by
  unfold Platform.beginSendBinary at h
  split at h
  · cases h
  · split at h
    · cases h
    · split at h
      · cases h
      · cases h
        assumption

theorem Platform.taken_text {p : Platform} {connection : Nat} {text : Bytes} {client : Nat}
    {send : Send} (h : p.beginSendText connection text = .ok (client, send)) :
    p.sendHandle connection = some client := by
  unfold Platform.beginSendText at h
  split at h
  · cases h
  · split at h
    · cases h
    · split at h
      · cases h
      · cases h
        assumption

theorem Platform.sendHandle_client {p : Platform} {connection client : Nat}
    (h : p.sendHandle connection = some client) : p.state.client = some client := by
  unfold Platform.sendHandle at h
  split at h
  · exact h
  · cases h

theorem TasksInv.send (h : TasksInv σ) (hidle : σ.task t = .idle)
    {taken : Except WebResult (Nat × Send)}
    (hclient : ∀ client send, taken = .ok (client, send) →
      σ.platform.state.client = some client)
    (hfree : (∃ u, (σ.task u).isFinishing = true) → ∀ pair, taken ≠ .ok pair) :
    TasksInv (σ.send t taken) := by
  cases taken with
  | error result => exact h
  | ok pair =>
      obtain ⟨client, send⟩ := pair
      have hcurrent := hclient client send rfl
      have hlive : .destroy client ∉ σ.calls := by
        apply h.current client hcurrent
        intro u
        by_contra hu
        exact hfree ⟨u, by simpa using hu⟩ _ rfl
      refine h.setTask (by rw [hidle]; rfl) rfl nofun ?_
      intro k hk
      obtain rfl := Option.some.inj hk
      exact ⟨h.client _ hcurrent, hlive⟩

/-- The native call that destroys the handle. -/
theorem TasksInv.destroy (h : TasksInv σ) {c : Closing} {stopped : EspErr}
    (ht : σ.task t = .destroying c stopped)
    (hfree : ∀ u, (σ.task u).sends ≠ some c.client) (destroyed : EspErr) :
    TasksInv ((σ.call (.destroy c.client)).set t (.finishing c stopped destroyed)) := by
  have hc : (σ.task t).closing = some c := by rw [ht]; rfl
  obtain ⟨hdis, hclient, hlive⟩ := h.closing t c hc
  have hfresh : .destroy c.client ∉ σ.calls := hlive.mp (by rw [ht]; rfl)
  have hcalls : ∀ k, .destroy k ∈ σ.calls ++ [.destroy c.client] ↔
      .destroy k ∈ σ.calls ∨ k = c.client := by
    intro k
    simp
  have hclose : ∀ u d, (((σ.call (.destroy c.client)).set t
      (.finishing c stopped destroyed)).task u).closing = some d → u = t ∧ d = c := by
    intro u d hu
    rw [Tasks.task_set] at hu
    split at hu
    · exact ⟨‹_›, (Option.some.inj hu).symm⟩
    · rename_i hne
      exact absurd (h.alone u t d c hu hc) hne
  refine ⟨?_, ?_, h.client, ?_, ?_, ?_, ?_, ?_, h.usesLive.append ?_⟩
  · intro k
    refine Iff.trans ?_ (h.made k)
    simp [Tasks.call, Tasks.set]
  · intro k hk
    rcases (hcalls k).mp hk with hk | rfl
    · exact h.destroyed k hk
    · exact h.client _ hclient
  · intro k hk hd
    exact h.live k hk fun hin => hd ((hcalls k).mpr (Or.inl hin))
  · intro k _ hnone
    have := hnone t
    rw [Tasks.task_set, if_pos rfl] at this
    cases this
  · intro u d hu
    obtain ⟨rfl, rfl⟩ := hclose u d hu
    refine ⟨hdis, hclient, fun hf => ?_, fun hin => ?_⟩
    · rw [Tasks.task_set, if_pos rfl] at hf
      cases hf
    · exact absurd ((hcalls _).mpr (Or.inr rfl)) hin
  · intro u v d e hu hv
    exact (hclose u d hu).1.trans (hclose v e hv).1.symm
  · intro u k hu
    rw [Tasks.task_set] at hu
    split at hu
    · cases hu
    · obtain ⟨hlt, hd⟩ := h.sending u k hu
      refine ⟨hlt, fun hin => ?_⟩
      rcases (hcalls k).mp hin with hin | rfl
      · exact hd hin
      · exact hfree u hu
  · intro k hk
    obtain rfl := Option.some.inj hk
    exact hfresh

/-- The second locked section of `Disconnect`: no handle is current. -/
theorem TasksInv.finish (h : TasksInv σ) {c : Closing} {stopped destroyed : EspErr}
    (ht : σ.task t = .finishing c stopped destroyed) {p : Platform}
    (hclient : p.state.client = none) {state : TaskState} (hclosing : state.closing = none)
    (hsends : state.sends = none) : TasksInv ({ σ with platform := p }.set t state) := by
  have hc : (σ.task t).closing = some c := by rw [ht]; rfl
  obtain ⟨-, hcurrent, hlive⟩ := h.closing t c hc
  have hgone : .destroy c.client ∈ σ.calls := by
    by_contra hin
    have := hlive.mpr hin
    rw [ht] at this
    cases this
  have hnone : ∀ u d, (({ σ with platform := p }.set t state).task u).closing ≠ some d := by
    intro u d hu
    rw [Tasks.task_set] at hu
    split at hu
    · rw [hclosing] at hu
      cases hu
    · rename_i hne
      exact hne (h.alone u t d c hu hc)
  refine ⟨h.made, h.destroyed, fun k hk => ?_, fun k hk hd => ?_, fun k hk => ?_,
    fun u d hu => absurd hu (hnone u d), fun u _ d _ hu => absurd hu (hnone u d), ?_, h.usesLive⟩
  · exact absurd (hclient.symm.trans hk) (by simp)
  · have := h.live k hk hd
    rw [hcurrent] at this
    obtain rfl := Option.some.inj this
    exact absurd hgone hd
  · exact absurd (hclient.symm.trans hk) (by simp)
  · intro u k hu
    rw [Tasks.task_set] at hu
    split at hu
    · rw [hsends] at hu
      cases hu
    · exact h.sending u k hu

theorem finishDisconnect_client {p : Platform} {c : Closing}
    (h : p.state.client = some c.client) : (p.finishDisconnect c).1.state.client = none := by
  unfold Platform.finishDisconnect
  simp only [h, if_true]
  split <;> rfl

theorem TasksInv.advance (h : TasksInv σ) (answer : NativeAnswer)
    (hallowed : Exclusive σ (.advance t answer)) : TasksInv (σ.advance t answer) := by
  unfold Tasks.advance
  split
  · exact h
  · rename_i client send ht
    have hlive := (h.sending t client (by rw [ht]; rfl)).2
    have hcall : TasksInv (σ.call (send.call client)) := by
      cases send <;> exact h.call _ nofun nofun fun k hk => Option.some.inj hk ▸ hlive
    refine hcall.setTask ?_ rfl nofun nofun
    change (σ.task t).isFinishing = false
    rw [ht]
    rfl
  · rename_i ht
    exact h.disconnect (by rw [ht]; rfl) _ _
  · rename_i c ht
    have hc : (σ.task t).closing = some c := by rw [ht]; rfl
    have hf : (σ.task t).isFinishing = false := by rw [ht]; rfl
    have hlive := (h.closing t c hc).2.2.mp hf
    exact (h.call (.isConnected c.client) nofun nofun
      fun k hk => Option.some.inj hk ▸ hlive).setTask hf rfl (fun d hd => hd ▸ hc) nofun
  · rename_i c connected ht
    have hc : (σ.task t).closing = some c := by rw [ht]; rfl
    have hf : (σ.task t).isFinishing = false := by rw [ht]; rfl
    have hlive := (h.closing t c hc).2.2.mp hf
    have hcall : TasksInv (σ.call (c.stopCall connected)) := by
      cases connected <;> exact h.call _ nofun nofun fun k hk => Option.some.inj hk ▸ hlive
    exact hcall.setTask hf rfl (fun d hd => hd ▸ hc) nofun
  · rename_i c stopped ht
    exact h.destroy ht (hallowed c stopped ht) answer.error
  · rename_i c stopped destroyed ht
    have hclient := (h.closing t c (by rw [ht]; rfl)).2.1
    refine h.finish ht (finishDisconnect_client hclient) ?_ ?_ <;> split <;> rfl
  · rename_i call ht
    refine (h.setPlatform (p := σ.platform) rfl rfl σ.pending (σ.notices ++ [call])).setTask ?_
      rfl nofun nofun
    change (σ.task t).isFinishing = false
    rw [ht]
    rfl

/-- Without a client and a `Disconnect` under way, no task has a handle. -/
theorem TasksInv.nobody (h : TasksInv σ) (hclient : σ.platform.state.client = none)
    (hfree : σ.platform.disconnecting = false) :
    (∀ u, (σ.task u).closing = none) ∧ ∀ u, (σ.task u).sends = none := by
  refine ⟨fun u => ?_, fun u => ?_⟩
  · cases hc : (σ.task u).closing with
    | none => rfl
    | some c =>
        have := (h.closing u c hc).1
        rw [hfree] at this
        cases this
  · cases hs : (σ.task u).sends with
    | none => rfl
    | some k =>
        obtain ⟨hlt, hd⟩ := h.sending u k hs
        rw [h.live k hlt hd] at hclient
        cases hclient

/-- A client is made. -/
theorem TasksInv.create (h : TasksInv σ) (hclient : σ.platform.state.client = none)
    (hfree : σ.platform.disconnecting = false) {p : Platform}
    (hp : p.state.client = some σ.created) :
    TasksInv { σ with
      platform := p
      created := σ.created + 1
      calls := σ.calls ++ [.init (some σ.created)] } := by
  obtain ⟨hclosing, hsends⟩ := h.nobody hclient hfree
  have hcalls : ∀ k, .destroy k ∈ σ.calls ++ [.init (some σ.created)] ↔
      .destroy k ∈ σ.calls := by simp
  refine ⟨fun k => ?_, fun k hk => ?_, fun k hk => ?_, fun k hk hd => ?_, fun k hk _ hin => ?_,
    fun u c hu => ?_, fun u _ c _ hu => ?_, fun u k hu => ?_, h.usesLive.append nofun⟩
  · have := h.made k
    simp only [List.mem_append, List.mem_singleton, NativeCall.init.injEq, Option.some.injEq,
      this]
    omega
  · exact Nat.lt_succ_of_lt (h.destroyed k ((hcalls k).mp hk))
  · obtain rfl : σ.created = k := Option.some.inj (hp.symm.trans hk)
    exact Nat.lt_succ_self _
  · rcases Nat.lt_succ_iff_lt_or_eq.mp hk with hlt | rfl
    · have := h.live k hlt fun hin => hd ((hcalls k).mpr hin)
      rw [hclient] at this
      cases this
    · exact hp
  · obtain rfl : σ.created = k := Option.some.inj (hp.symm.trans hk)
    exact Nat.lt_irrefl _ (h.destroyed _ ((hcalls _).mp hin))
  · rw [hclosing u] at hu
    cases hu
  · rw [hclosing u] at hu
    cases hu
  · rw [hsends u] at hu
    cases hu

/-- `Connect` gives up the client it has just made. -/
theorem TasksInv.abandon (h : TasksInv σ) (client : Nat)
    (hclient : σ.platform.state.client = some client)
    (hfresh : .destroy client ∉ σ.calls) (hclosing : ∀ u, (σ.task u).closing = none)
    (hsends : ∀ u, (σ.task u).sends = none) {p : Platform} (hp : p.state.client = none) :
    TasksInv { σ with platform := p, calls := σ.calls ++ [.destroy client] } := by
  refine ⟨fun k => ?_, fun k hk => ?_, fun k hk => ?_, fun k hk hd => ?_, fun k hk => ?_,
    fun u c hu => ?_, fun u _ c _ hu => ?_, fun u k hu => ?_, h.usesLive.append fun k hk => ?_⟩
  · exact Iff.trans (by simp) (h.made k)
  · rcases List.mem_append.mp hk with hk | hk
    · exact h.destroyed k hk
    · obtain rfl : k = client := by simpa using hk
      exact h.client _ hclient
  · exact absurd (hp.symm.trans hk) (by simp)
  · have := h.live k hk fun hin => hd (List.mem_append_left _ hin)
    rw [hclient] at this
    obtain rfl := Option.some.inj this
    exact absurd (List.mem_append_right _ (List.mem_singleton_self _)) hd
  · exact absurd (hp.symm.trans hk) (by simp)
  · rw [hclosing u] at hu
    cases hu
  · rw [hclosing u] at hu
    cases hu
  · rw [hsends u] at hu
    cases hu
  · obtain rfl := Option.some.inj hk
    exact hfresh

theorem TasksInv.connect (h : TasksInv σ) (n : ConnectNatives) : TasksInv (σ.connect n) := by
  simp only [Tasks.connect, Platform.connect]
  split
  · simpa using h
  · rename_i hopen
    have hclient : σ.platform.state.client = none := by
      by_contra hne
      exact hopen (Or.inl hne)
    have hfree : σ.platform.disconnecting = false := by
      by_contra hne
      exact hopen (Or.inr (by simpa using hne))
    obtain ⟨hclosing, hsends⟩ := h.nobody hclient hfree
    cases n.prepared with
    | failure error native => simpa using h
    | success =>
        cases n.client with
        | none =>
            have := h.call (.init none) nofun nofun nofun
            simpa [Tasks.call] using this
        | some _ =>
            -- The client that is made, with its events registered.
            let established := establish σ.platform.state σ.created σ.created
            let p : Platform := { σ.platform with state := established, eventTask := none }
            have hmade := h.create hclient hfree (p := p) rfl
            have hfresh : .destroy σ.created ∉ σ.calls := fun hin =>
              Nat.lt_irrefl _ (h.destroyed _ hin)
            have hregistered := hmade.call (.registerEvents σ.created) nofun nofun
              fun k hk => by
                obtain rfl := Option.some.inj hk
                simpa using hfresh
            have hstarted := hregistered.call (.start σ.created) nofun nofun
              fun k hk => by
                obtain rfl := Option.some.inj hk
                simpa [Tasks.call] using hfresh
            simp only [Option.map_some]
            split
            · have := hregistered.abandon σ.created rfl
                (by simpa [Tasks.call] using hfresh) hclosing hsends (p := σ.platform) hclient
              simpa [Tasks.call] using this
            · split
              · have := hstarted.abandon σ.created rfl
                  (by simpa [Tasks.call] using hfresh) hclosing hsends
                  (p := { σ.platform with
                    state := { established with client := none, connection := none }
                    eventTask := none }) rfl
                simpa [Tasks.call, established] using this
              · simpa [Tasks.call, p, established] using hstarted

theorem TasksInv.step (h : TasksInv σ) (e : TaskEvent) (hallowed : Exclusive σ e) :
    TasksInv (σ.step e) := by
  cases e with
  | advance u answer => exact h.advance answer hallowed
  | tell => exact h.setPlatform (p := σ.platform) rfl rfl _ _
  | connect u natives =>
      simp only [Tasks.step]
      split
      · exact h.connect natives
      · exact h
  | disconnect u code reason =>
      simp only [Tasks.step]
      split
      · rename_i hidle
        exact h.disconnect (by rw [hidle]; rfl) code reason
      · exact h
  | closeConnection u connection code reason =>
      simp only [Tasks.step]
      split
      · rename_i hidle
        exact h.setTask (by rw [hidle.1]; rfl) rfl nofun nofun
      · exact h
  | sendBinary u connection data size =>
      simp only [Tasks.step]
      split
      · rename_i hidle
        exact h.send hidle
          (fun _ _ htaken => Platform.sendHandle_client (Platform.taken_binary htaken))
          (hallowed hidle)
      · exact h
  | sendText u connection text =>
      simp only [Tasks.step]
      split
      · rename_i hidle
        exact h.send hidle
          (fun _ _ htaken => Platform.sendHandle_client (Platform.taken_text htaken))
          (hallowed hidle)
      · exact h
  | link u e =>
      simp only [Tasks.step]
      split
      · obtain ⟨hclient, hdisconnecting⟩ := handleLinkEvent_frame σ.platform u e
        exact h.setPlatform hclient hdisconnecting _ _
      · exact h

end Steps

/-- **The handle's lifetime**, in every interleaving in which no send is
between its locked section and its native call when a `Disconnect` destroys
the handle, and none takes the handle before that `Disconnect` has cleared
it. -/
theorem handles_sound_of_exclusive (sink : Option Nat) {events : List TaskEvent} {σ : Tasks}
    (h : Runs.Run (Runs.Guarded Exclusive fun σ e τ => Tasks.step σ e = τ)
      (Tasks.initial sink) events σ) : HandlesSound σ := by
  have hinv : TasksInv σ := by
    refine h.invariant ?_ (tasksInv_initial sink)
    intro s e t hs hstep
    obtain ⟨hallowed, rfl⟩ := hstep
    exact hs.step e hallowed
  exact hinv.sound

/-- All native calls of a `Connect` succeed. -/
def connects : ConnectNatives := ⟨.success, some 0, .ok, .ok⟩

/-- The native client answers that it is connected and that the call went
well. -/
def answers : NativeAnswer := ⟨true, .ok⟩

/-- Task 0 connects, task 1 sends, and task 0 disconnects when the send is
done. -/
def sendBeforeDisconnect : List TaskEvent :=
  [.connect 0 connects, .link 9 .connected, .tell,
    .sendBinary 1 0 (some [1]) 1, .advance 1 answers,
    .disconnect 0 1000 [], .advance 0 answers, .advance 0 answers, .advance 0 answers,
    .advance 0 answers]

/-- Task 1 has taken the handle for its send when task 0 disconnects and
destroys it. -/
def sendAcrossDisconnect : List TaskEvent :=
  [.connect 0 connects, .link 9 .connected, .tell,
    .sendBinary 1 0 (some [1]) 1,
    .disconnect 0 1000 [], .advance 0 answers, .advance 0 answers, .advance 0 answers,
    .advance 1 answers]

theorem handles_sound_of_send_before_disconnect :
    HandlesSound (sendBeforeDisconnect.foldl Tasks.step (Tasks.initial (some 0))) := by
  have hrun : Runs.Run (Runs.Guarded Exclusive fun σ e τ => Tasks.step σ e = τ)
      (Tasks.initial (some 0)) sendBeforeDisconnect
      (sendBeforeDisconnect.foldl Tasks.step (Tasks.initial (some 0))) := by
    refine .cons ⟨trivial, rfl⟩ (.cons ⟨trivial, rfl⟩ (.cons ⟨trivial, rfl⟩
      (.cons ⟨?_, rfl⟩ (.cons ⟨nofun, rfl⟩ (.cons ⟨trivial, rfl⟩ (.cons ⟨nofun, rfl⟩
        (.cons ⟨nofun, rfl⟩ (.cons ⟨?_, rfl⟩ (.cons ⟨nofun, rfl⟩ (.nil _))))))))))
    · intro _ hfinishing
      obtain ⟨u, hu⟩ := hfinishing
      exact nomatch hu
    · intro closing stopped _ u
      have hidle : ∀ u, ((((sendBeforeDisconnect.take 8).foldl Tasks.step
          (Tasks.initial (some 0))).task u).sends) = none := by
        intro u
        rcases u with _ | _ | u <;> rfl
      exact fun hu => nomatch (hidle u).symm.trans hu
  exact handles_sound_of_exclusive (some 0) hrun

/-- The send goes out on a handle that has been destroyed. -/
theorem send_on_destroyed_handle :
    ¬HandlesSound (sendAcrossDisconnect.foldl Tasks.step (Tasks.initial (some 0))) := by
  intro h
  have huses := h.usesLive
  have hcalls : (sendAcrossDisconnect.foldl Tasks.step (Tasks.initial (some 0))).calls =
      [.init (some 0), .registerEvents 0, .start 0, .isConnected 0,
        .closeWithCode 0 1000 [], .destroy 0, .sendBinary 0 [1]] := by
    decide +kernel
  rw [hcalls] at huses
  simp [UsesLive, NativeCall.handle] at huses

end WebSocketClient
