import Espressio.HttpServer
import Espressio.Runs

/-!
# Tasks on one HTTP server

Any number of tasks call `Start`, `Stop`, `AddWebSocketBinding`,
`ReleaseWebSocketBinding`, `Reset` and `Initialize`.  A task's program
counter stands between two atomic pieces of its call: a locked section of
`Espressio.HttpServer`, or one native call.  The native servers that have been
started and not yet stopped are listed with the bindings registered as their
handler contexts.

`Stop` gives up the handle before it stops the native server, and purges the
bindings when other tasks may long have gone on.  `servers_sound` says what is
needed of the other tasks meanwhile; `second_server_while_stopping` is a run
that shows it is needed.
-/

namespace HttpServer

open Web Runs
open PlatformResults (EspErr)

/-- A native server that runs. -/
structure Native where
  handle : Nat
  contexts : List Nat
  deriving DecidableEq, Repr

/-- Where a task stands: before the named piece of its call. -/
inductive Pc
  | idle
  /-- `Start`: before `httpd_start`. -/
  | launching (bindings : List Nat) (native : NativeConfiguration)
  /-- `Start`: before the registration of these bindings, and then of this
  many methods. -/
  | registering (handle : Nat) (bindings : List Nat) (methods : Nat)
  /-- `failStart`: before `httpd_stop`. -/
  | unwinding (handle : Nat) (error : EspErr)
  /-- A failed `Start`: before its last section. -/
  | aborting (error : EspErr)
  /-- `Start`: before the section that publishes the handle. -/
  | publishing (handle : Nat)
  /-- `AddWebSocketBinding`: after its checks, before the mutex. -/
  | adding (binding : Nat)
  /-- `Stop`: before `httpd_stop`. -/
  | stopping (handle : Nat) (resets : Bool)
  /-- `Stop`: before the section that purges the bindings. -/
  | purging (stopped : EspErr) (resets : Bool)
  /-- `Reset`: before its own section. -/
  | resetting
  deriving DecidableEq, Repr

structure World where
  server : Server
  defaults : Configuration
  info : Nat → BindingInfo
  natives : List Native
  nextHandle : Nat
  pc : Nat → Pc

def World.fresh (defaults : Configuration) (info : Nat → BindingInfo) : World where
  server := .fresh defaults
  defaults := defaults
  info := info
  natives := []
  nextHandle := 0
  pc := fun _ => .idle

inductive Operation
  | initializeServer (configuration : Configuration) (dispatcher : Nat)
  | start
  | stop
  | add (binding : Nat)
  | release (binding : Nat)
  | reset

/-- A task makes a call, or runs the next piece of it with this native
answer, or an endpoint changes what a binding shows. -/
inductive Event
  | call (task : Nat) (operation : Operation)
  | advance (task : Nat) (native : EspErr)
  | rebind (binding : Nat) (info : BindingInfo)

def World.goto (w : World) (task : Nat) (pc : Pc) : World :=
  { w with pc := fun t => if t = task then pc else w.pc t }

def World.setServer (w : World) (server : Server) : World := { w with server := server }

/-- `Stop` and the `Stop` inside `Reset`: the first section. -/
def World.callStop (w : World) (task : Nat) (resets : Bool) : World :=
  match beginStop w.server with
  | (_, .error _) => if resets then w.goto task .resetting else w
  | (server, .ok handle) => (w.setServer server).goto task (.stopping handle resets)

def World.call (w : World) (task : Nat) : Operation → World
  | .initializeServer configuration dispatcher =>
      w.setServer (HttpServer.initializeServer w.server configuration dispatcher).1
  | .start =>
      match beginStart w.info w.server with
      | (_, .error _) => w
      | (server, .ok (bindings, native)) =>
          (w.setServer server).goto task (.launching bindings native)
  | .stop => w.callStop task false
  | .add binding => if bindable (w.info binding) then w.goto task (.adding binding) else w
  | .release binding => w.setServer (releaseWebSocketBinding w.info w.server binding)
  | .reset => w.callStop task true

/-- `httpd_register_uri_handler` with a binding as context. -/
def register (handle binding : Nat) (natives : List Native) : List Native :=
  natives.map fun n =>
    if n.handle = handle then { n with contexts := n.contexts ++ [binding] } else n

/-- `httpd_stop`: a server that it fails to stop goes on running. -/
def stopNative (handle : Nat) (stopped : EspErr) (natives : List Native) : List Native :=
  if stopped = .ok then natives.filter fun n => n.handle ≠ handle else natives

/-- The next piece of a task's call. -/
def World.advance (w : World) (task : Nat) (native : EspErr) : World :=
  match w.pc task with
  | .idle => w
  | .launching bindings _ =>
      if native = .ok then
        { w.goto task (.registering w.nextHandle bindings supportedMethodCount) with
          natives := w.natives ++ [⟨w.nextHandle, []⟩]
          nextHandle := w.nextHandle + 1 }
      else w.goto task (.aborting native)
  | .registering handle (binding :: rest) methods =>
      if native = .ok then
        { w.goto task (.registering handle rest methods) with
          natives := register handle binding w.natives }
      else w.goto task (.unwinding handle native)
  | .registering handle [] (methods + 1) =>
      if native = .ok then w.goto task (.registering handle [] methods)
      else w.goto task (.unwinding handle native)
  | .registering handle [] 0 => w.goto task (.publishing handle)
  | .unwinding handle error =>
      { w.goto task (.aborting error) with natives := stopNative handle native w.natives }
  | .aborting _ => (w.setServer (abortStart w.server)).goto task .idle
  | .publishing handle => (w.setServer (publishStart w.server handle)).goto task .idle
  | .adding binding => (w.setServer (addLocked w.info w.server binding).1).goto task .idle
  | .stopping handle resets =>
      { w.goto task (.purging native resets) with
        natives := stopNative handle native w.natives }
  | .purging _ resets =>
      (w.setServer (purgeInactive w.info w.server)).goto task
        (if resets then .resetting else .idle)
  | .resetting => (w.setServer (finishReset w.info w.defaults w.server)).goto task .idle

/-- A task that is in a call does not make another one. -/
def World.step (w : World) : Event → World
  | .call task operation => if w.pc task = .idle then w.call task operation else w
  | .advance task native => w.advance task native
  | .rebind binding info =>
      { w with info := fun b => if b = binding then info else w.info b }

def World.Steps (w : World) (e : Event) (w' : World) : Prop := w.step e = w'

/-- At most one native server runs, and the server still holds every binding
that one has for a context. -/
structure Sound (w : World) : Prop where
  one : w.natives.length ≤ 1
  held : ∀ n ∈ w.natives, ∀ b ∈ n.contexts, b ∈ w.server.webSocketBindings

/-- No native server runs: all that were started have been stopped. -/
def Quiet (w : World) : Prop := w.natives = []

/-- The sections that may drop a binding or go on to start a server run only
while no native server runs, and those that check no flag themselves only
while no start is under way. -/
def Unhurried (w : World) : Event → Prop
  | .call _ .start | .call _ (.release _) => w.server.idle = true → Quiet w
  | .advance task _ =>
      match w.pc task with
      | .purging _ _ | .resetting => Quiet w ∧ w.server.starting = false
      | _ => True
  | _ => True

/-- The program counters inside a `Start` that has marked itself under way. -/
def Pc.isStart : Pc → Bool
  | .launching _ _ | .registering _ _ _ | .unwinding _ _ | .aborting _ | .publishing _ => true
  | _ => false

/-- What a `Start` relies on where it stands: the bindings it will register
are held, and before `httpd_start` no native server runs. -/
def Ready (w : World) : Pc → Prop
  | .launching bindings _ => Quiet w ∧ ∀ b ∈ bindings, b ∈ w.server.webSocketBindings
  | .registering _ bindings _ => ∀ b ∈ bindings, b ∈ w.server.webSocketBindings
  | _ => True

/-- **The invariant.** -/
structure Inv (w : World) : Prop where
  sound : Sound w
  ready : ∀ t, (w.pc t).isStart = true → w.server.starting = true ∧ Ready w (w.pc t)
  unique : ∀ t u, (w.pc t).isStart = true → (w.pc u).isStart = true → t = u

/-- What a step of task `t` has to show: the result is sound, the task is
ready where it goes, and either no other task is in a `Start`, or this task
does not enter one and leaves the `Start` of the others alone. -/
theorem Inv.step_of {w w' : World} {t : Nat} (h : Inv w) (hsound : Sound w')
    (hpc : ∀ u, u ≠ t → w'.pc u = w.pc u)
    (hself : (w'.pc t).isStart = true → w'.server.starting = true ∧ Ready w' (w'.pc t))
    (hothers : (∀ u, u ≠ t → (w.pc u).isStart = false) ∨
      ((w'.pc t).isStart = false ∧ (w.server.starting = true →
        w'.server.starting = true ∧ (Quiet w → Quiet w') ∧
          ∀ b ∈ w.server.webSocketBindings, b ∈ w'.server.webSocketBindings))) : Inv w' := by
  refine ⟨hsound, ?_, ?_⟩
  · intro u hu
    by_cases hut : u = t
    · exact hut ▸ hself (hut ▸ hu)
    · rw [hpc u hut] at hu ⊢
      rcases hothers with hnone | ⟨-, hkeep⟩
      · simp [hnone u hut] at hu
      · obtain ⟨hstarting, hready⟩ := h.ready u hu
        obtain ⟨hstarting', hquiet, hbindings⟩ := hkeep hstarting
        refine ⟨hstarting', ?_⟩
        cases hp : w.pc u with
        | launching bindings native =>
            rw [hp] at hready
            exact ⟨hquiet hready.1, fun b hb => hbindings b (hready.2 b hb)⟩
        | registering handle bindings methods =>
            rw [hp] at hready
            exact fun b hb => hbindings b (hready b hb)
        | _ => trivial
  · intro u v hu hv
    by_cases hut : u = t <;> by_cases hvt : v = t
    · rw [hut, hvt]
    · rw [hpc v hvt] at hv
      rcases hothers with hnone | ⟨hnot, -⟩
      · simp [hnone v hvt] at hv
      · rw [hut, hnot] at hu
        cases hu
    · rw [hpc u hut] at hu
      rcases hothers with hnone | ⟨hnot, -⟩
      · simp [hnone u hut] at hu
      · rw [hvt, hnot] at hv
        cases hv
    · rw [hpc u hut] at hu
      rw [hpc v hvt] at hv
      exact h.unique u v hu hv

@[simp] theorem goto_pc_self (w : World) (t : Nat) (pc : Pc) : (w.goto t pc).pc t = pc := by
  simp [World.goto]

theorem goto_pc_other (w : World) {t u : Nat} (pc : Pc) (h : u ≠ t) :
    (w.goto t pc).pc u = w.pc u := by
  simp [World.goto, h]

/-- While one task is in a `Start` no other task is. -/
theorem Inv.others {w : World} (h : Inv w) {t : Nat} (ht : (w.pc t).isStart = true) :
    ∀ u, u ≠ t → (w.pc u).isStart = false := by
  intro u hu
  by_contra hstart
  exact hu (h.unique u t (by simpa using hstart) ht)

/-- While no start is under way no task is in one. -/
theorem Inv.noStart {w : World} (h : Inv w) (hs : w.server.starting = false) (u : Nat) :
    (w.pc u).isStart = false := by
  by_contra hstart
  have := (h.ready u (by simpa using hstart)).1
  rw [hs] at this
  cases this

theorem Sound.of_quiet {w : World} (h : Quiet w) : Sound w :=
  ⟨by rw [h]; simp, by rw [h]; simp⟩

/-- Holding more bindings is as good. -/
theorem Sound.mono {w w' : World} (h : Sound w) (hn : w'.natives = w.natives)
    (hb : ∀ b ∈ w.server.webSocketBindings, b ∈ w'.server.webSocketBindings) : Sound w' :=
  ⟨hn ▸ h.one, fun n hmem b hctx => hb b (h.held n (hn ▸ hmem) b hctx)⟩

theorem stopNative_subset {handle : Nat} {stopped : EspErr} {natives : List Native} {n : Native}
    (h : n ∈ stopNative handle stopped natives) : n ∈ natives := by
  unfold stopNative at h
  split at h
  · exact (List.mem_filter.mp h).1
  · exact h

theorem Sound.stopNative {w w' : World} (h : Sound w) {handle : Nat} {stopped : EspErr}
    (hn : w'.natives = stopNative handle stopped w.natives) (hs : w'.server = w.server) :
    Sound w' := by
  refine ⟨?_, ?_⟩
  · rw [hn]
    unfold HttpServer.stopNative
    split
    · exact Nat.le_trans (List.length_filter_le _ _) h.one
    · exact h.one
  · intro n hmem b hctx
    rw [hs]
    exact h.held n (stopNative_subset (hn ▸ hmem)) b hctx

/-- A task that goes to a place outside `Start` and leaves the flag, the native
servers and the bindings of a `Start` under way alone. -/
theorem Inv.leave {w : World} (h : Inv w) (t : Nat) (server : Server) (natives : List Native)
    {pc : Pc} (hpc : pc.isStart = false)
    (hsound : Sound { w.setServer server with natives := natives })
    (hkeep : w.server.starting = true → server.starting = true ∧ (Quiet w → natives = []) ∧
      ∀ b ∈ w.server.webSocketBindings, b ∈ server.webSocketBindings) :
    Inv { (w.setServer server).goto t pc with natives := natives } := by
  have hself : ({ (w.setServer server).goto t pc with natives := natives } : World).pc t = pc :=
    goto_pc_self _ t pc
  refine h.step_of ⟨hsound.one, hsound.held⟩ (fun u hu => goto_pc_other _ pc hu) ?_
    (Or.inr ⟨by rw [hself, hpc], hkeep⟩)
  intro hstart
  rw [hself, hpc] at hstart
  cases hstart

theorem beginStop_keeps (s : Server) :
    (beginStop s).1.starting = s.starting ∧
      (beginStop s).1.webSocketBindings = s.webSocketBindings := by
  unfold beginStop
  split
  · exact ⟨rfl, rfl⟩
  · split <;> exact ⟨rfl, rfl⟩

theorem Inv.callStop {w : World} (h : Inv w) (t : Nat) (resets : Bool) :
    Inv (w.callStop t resets) := by
  have hkeeps := beginStop_keeps w.server
  unfold World.callStop
  generalize beginStop w.server = p at hkeeps ⊢
  obtain ⟨server, result⟩ := p
  obtain ⟨hstarting, hbindings⟩ := hkeeps
  cases result with
  | error result =>
      cases resets
      · exact h
      · exact h.leave t w.server w.natives rfl h.sound fun hs => ⟨hs, id, fun b hb => hb⟩
  | ok handle =>
      exact h.leave t server w.natives rfl (h.sound.mono rfl fun b hb => hbindings ▸ hb)
        fun hs => ⟨hstarting.trans hs, id, fun b hb => hbindings ▸ hb⟩

theorem releaseWebSocketBinding_starting (info : Nat → BindingInfo) (s : Server) (b : Nat) :
    (releaseWebSocketBinding info s b).starting = s.starting := by
  unfold releaseWebSocketBinding
  split <;> rfl

theorem addLocked_keeps (info : Nat → BindingInfo) (s : Server) (binding : Nat) :
    (addLocked info s binding).1.starting = s.starting ∧
      ∀ b ∈ s.webSocketBindings, b ∈ (addLocked info s binding).1.webSocketBindings := by
  unfold addLocked
  split
  · exact ⟨rfl, fun b hb => hb⟩
  · split
    · exact ⟨rfl, fun b hb => hb⟩
    · exact ⟨rfl, fun b hb => List.mem_append_left _ hb⟩

/-- A change of the members alone. -/
theorem Inv.setServer {w : World} (h : Inv w) {server : Server}
    (hsound : Sound (w.setServer server))
    (hkeep : w.server.starting = true → server.starting = true ∧
      ∀ b ∈ w.server.webSocketBindings, b ∈ server.webSocketBindings) :
    Inv (w.setServer server) := by
  refine ⟨hsound, ?_, h.unique⟩
  intro t ht
  obtain ⟨hstarting, hready⟩ := h.ready t ht
  obtain ⟨hstarting', hbindings⟩ := hkeep hstarting
  refine ⟨hstarting', ?_⟩
  change Ready (w.setServer server) (w.pc t)
  cases hp : w.pc t with
  | launching bindings native =>
      rw [hp] at hready
      exact ⟨hready.1, fun b hb => hbindings b (hready.2 b hb)⟩
  | registering handle bindings methods =>
      rw [hp] at hready
      exact fun b hb => hbindings b (hready b hb)
  | _ => trivial

theorem Inv.call {w : World} (h : Inv w) {t : Nat} (operation : Operation)
    (hun : Unhurried w (.call t operation)) :
    Inv (w.call t operation) := by
  cases operation with
  | initializeServer configuration dispatcher =>
      obtain ⟨-, hstarting, hbindings⟩ := initializeServer_keeps w.server configuration dispatcher
      exact h.setServer (h.sound.mono rfl fun b hb => hbindings ▸ hb)
        fun hs => ⟨hstarting.trans hs, fun b hb => hbindings ▸ hb⟩
  | start =>
      simp only [World.call, beginStart]
      by_cases hserver : w.server.idle = false
      · simp only [if_pos hserver]
        exact h
      · simp only [if_neg hserver]
        have hquiet : Quiet w := hun (by simpa using hserver)
        have hnot : w.server.starting = false :=
          ((idle_iff w.server).mp (by simpa using hserver)).2
        by_cases hdispatcher : w.server.dispatcher = none
        · simp only [if_pos hdispatcher]
          exact h
        · simp only [if_neg hdispatcher]
          refine h.step_of (t := t) (Sound.of_quiet hquiet) (fun u hu => goto_pc_other _ _ hu) ?_
            (Or.inl fun u _ => h.noStart hnot u)
          intro _
          rw [goto_pc_self]
          exact ⟨rfl, hquiet, fun b hb => hb⟩
  | stop => exact h.callStop t false
  | reset => exact h.callStop t true
  | add binding =>
      simp only [World.call]
      split
      · exact h.leave t w.server w.natives rfl h.sound fun hs => ⟨hs, id, fun b hb => hb⟩
      · exact h
  | release binding =>
      have hstarting := releaseWebSocketBinding_starting w.info w.server binding
      by_cases hserver : w.server.idle = true
      · refine h.setServer (Sound.of_quiet (hun hserver)) ?_
        intro hs
        rw [((idle_iff w.server).mp hserver).2] at hs
        cases hs
      · have hsame : releaseWebSocketBinding w.info w.server binding = w.server := by
          simp [releaseWebSocketBinding, hserver]
        exact h.setServer (by rw [hsame]; exact h.sound)
          fun hs => ⟨hstarting.trans hs, by rw [hsame]; exact fun b hb => hb⟩

theorem length_register (handle binding : Nat) (natives : List Native) :
    (register handle binding natives).length = natives.length := by
  simp [register]

/-- The contexts after a registration: those before it, and the binding. -/
theorem contexts_register {handle binding : Nat} {natives : List Native} {n : Native} {b : Nat}
    (hn : n ∈ register handle binding natives) (hb : b ∈ n.contexts) :
    b = binding ∨ ∃ m ∈ natives, b ∈ m.contexts := by
  obtain ⟨m, hm, rfl⟩ := List.mem_map.mp hn
  split at hb
  · rcases List.mem_append.mp hb with hb | hb
    · exact Or.inr ⟨m, hm, hb⟩
    · exact Or.inl (List.mem_singleton.mp hb)
  · exact Or.inr ⟨m, hm, hb⟩

/-- A step of the one task that is in a `Start` and stays there. -/
theorem Inv.stay {w w' : World} {t : Nat} (h : Inv w) (ht : (w.pc t).isStart = true)
    (hpc : ∀ u, u ≠ t → w'.pc u = w.pc u) (hsound : Sound w')
    (hstarting : w'.server.starting = w.server.starting) (hready : Ready w' (w'.pc t)) : Inv w' :=
  h.step_of hsound hpc (fun _ => ⟨hstarting.trans (h.ready t ht).1, hready⟩)
    (Or.inl (h.others ht))

/-- Such a step that only moves on. -/
theorem Inv.hop {w : World} {t : Nat} {pc : Pc} (h : Inv w) (ht : (w.pc t).isStart = true)
    (hready : Ready w pc) : Inv (w.goto t pc) :=
  h.stay ht (fun _ hu => goto_pc_other _ _ hu) ⟨h.sound.one, h.sound.held⟩ rfl
    ((goto_pc_self w t pc).symm ▸ hready)

/-- The last step of a `Start`. -/
theorem Inv.finish {w : World} {t : Nat} {server : Server} (h : Inv w)
    (ht : (w.pc t).isStart = true)
    (hbindings : server.webSocketBindings = w.server.webSocketBindings) :
    Inv ((w.setServer server).goto t .idle) := by
  refine h.step_of (h.sound.mono rfl fun b hb => hbindings ▸ hb)
    (fun u hu => goto_pc_other _ _ hu) ?_ (Or.inl (h.others ht))
  rw [goto_pc_self]
  exact fun hstart => by cases hstart

theorem Inv.advance {w : World} (h : Inv w) {t : Nat} {native : EspErr}
    (hun : Unhurried w (.advance t native)) : Inv (w.advance t native) := by
  unfold World.advance
  cases hp : w.pc t with
  | idle => exact h
  | launching bindings configuration =>
      have ht : (w.pc t).isStart = true := by rw [hp]; rfl
      obtain ⟨-, hready⟩ := h.ready t ht
      rw [hp] at hready
      obtain ⟨hquiet, hheld⟩ := hready
      dsimp only
      split
      · refine h.stay ht (fun u hu => goto_pc_other _ _ hu) ?_ rfl ?_
        · have hnone : w.natives = [] := hquiet
          exact ⟨by simp [hnone], by simp [hnone]⟩
        · exact (goto_pc_self w t _).symm ▸ hheld
      · exact h.hop ht trivial
  | registering handle bindings methods =>
      have ht : (w.pc t).isStart = true := by rw [hp]; rfl
      obtain ⟨-, hready⟩ := h.ready t ht
      rw [hp] at hready
      cases bindings with
      | cons binding rest =>
          obtain ⟨hbinding, hrest⟩ := List.forall_mem_cons.mp hready
          dsimp only
          split
          · refine h.stay ht (fun u hu => goto_pc_other _ _ hu) ⟨?_, ?_⟩ rfl ?_
            · exact Nat.le_trans (Nat.le_of_eq (length_register ..)) h.sound.one
            · intro n hn b hb
              rcases contexts_register hn hb with rfl | ⟨m, hm, hb⟩
              · exact hbinding
              · exact h.sound.held m hm b hb
            · exact (goto_pc_self w t _).symm ▸ hrest
          · exact h.hop ht trivial
      | nil =>
          cases methods with
          | zero => exact h.hop ht trivial
          | succ methods =>
              dsimp only
              split
              · exact h.hop ht hready
              · exact h.hop ht trivial
  | unwinding handle error =>
      have ht : (w.pc t).isStart = true := by rw [hp]; rfl
      exact h.stay ht (fun u hu => goto_pc_other _ _ hu) (h.sound.stopNative rfl rfl) rfl
        ((goto_pc_self w t _).symm ▸ trivial)
  | aborting error => exact h.finish (by rw [hp]; rfl) rfl
  | publishing handle => exact h.finish (by rw [hp]; rfl) rfl
  | adding binding =>
      obtain ⟨hstarting, hbindings⟩ := addLocked_keeps w.info w.server binding
      exact h.leave t _ w.natives rfl (h.sound.mono rfl hbindings)
        fun hs => ⟨hstarting.trans hs, id, hbindings⟩
  | stopping handle resets =>
      refine h.leave t w.server _ rfl (h.sound.stopNative rfl rfl)
        fun hs => ⟨hs, ?_, fun b hb => hb⟩
      intro hquiet
      rw [show w.natives = [] from hquiet]
      unfold stopNative
      split <;> rfl
  | purging stopped resets =>
      simp only [Unhurried, hp] at hun
      refine h.leave t _ w.natives (by cases resets <;> rfl) (Sound.of_quiet hun.1) ?_
      intro hs
      rw [hun.2] at hs
      cases hs
  | resetting =>
      simp only [Unhurried, hp] at hun
      refine h.leave t _ w.natives rfl (Sound.of_quiet hun.1) ?_
      intro hs
      rw [hun.2] at hs
      cases hs

/-- **Step lemma.** -/
theorem Inv.step {w : World} (h : Inv w) (e : Event) (hun : Unhurried w e) : Inv (w.step e) := by
  cases e with
  | call task operation =>
      simp only [World.step]
      split
      · exact h.call operation hun
      · exact h
  | advance task native => exact h.advance hun
  | rebind binding info => exact ⟨⟨h.sound.one, h.sound.held⟩, h.ready, h.unique⟩

theorem inv_fresh (defaults : Configuration) (info : Nat → BindingInfo) :
    Inv (.fresh defaults info) := by
  refine ⟨⟨by simp [World.fresh], by simp [World.fresh]⟩, ?_, ?_⟩
  · intro t ht
    simp [World.fresh, Pc.isStart] at ht
  · intro t u ht
    simp [World.fresh, Pc.isStart] at ht

/-- **One native server, and its contexts held**, in every run in which no
task goes on to start a server, or drops bindings, while another task still
has a native server to stop. -/
theorem servers_sound (defaults : Configuration) (info : Nat → BindingInfo) (events : List Event)
    (w : World) (hrun : Run (Guarded Unhurried World.Steps) (.fresh defaults info) events w) :
    Sound w := by
  have hinv : Inv w := by
    refine hrun.invariant ?_ (inv_fresh defaults info)
    intro w e w' h hstep
    obtain ⟨hun, rfl⟩ := hstep
    exact h.step e hun
  exact hinv.sound

/-- Task `0` calls `Start` and gets as far as `httpd_start`. -/
def launchRun : List Event :=
  [.call 0 (.initializeServer ⟨.plain, 80, 4, true⟩ 0), .call 0 .start, .advance 0 .ok]

theorem launched_server_sound :
    Sound (launchRun.foldl World.step (.fresh ⟨.plain, 80, 4, true⟩ fun _ => ⟨true, [47]⟩)) := by
  refine servers_sound ⟨.plain, 80, 4, true⟩ (fun _ => ⟨true, [47]⟩) launchRun _ ?_
  refine Run.cons ⟨trivial, rfl⟩ (Run.cons ⟨?_, rfl⟩ (Run.cons ⟨trivial, rfl⟩ (Run.nil _)))
  intro _
  rfl

/-- Task `0` starts the server. -/
def startedRun : List Event :=
  .call 0 (.initializeServer ⟨.plain, 80, 4, true⟩ 0) :: .call 0 .start ::
    List.replicate 12 (.advance 0 .ok)

/-- Task `1` takes the handle to stop the server; before it calls
`httpd_stop`, task `2` starts another one. -/
theorem second_server_while_stopping : ¬ ∀ (defaults : Configuration)
    (info : Nat → BindingInfo) (events : List Event) (w : World),
    Run World.Steps (.fresh defaults info) events w → Sound w := by
  intro h
  have hrun : Run World.Steps _ _ _ := Run.of_foldl World.step
    (startedRun ++ [.call 1 .stop, .call 2 .start, .advance 2 .ok])
    (.fresh ⟨.plain, 80, 4, true⟩ fun _ => ⟨false, []⟩)
  have hone := (h _ _ _ _ hrun).one
  revert hone
  decide

end HttpServer
