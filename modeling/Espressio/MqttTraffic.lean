import Espressio.MqttSubscription
import Espressio.NativeProtocols

/-!
# What a broker's client is asked for, and when

The calls `MQTTEventTransport` makes of its client, in the order in which they
happen whatever tasks make them.  A connect that succeeds is followed at once by
the subscription, and the session is open from then to the next connect or the
disconnect.  The loop, publications and the packets that come back out of the
loop belong into an open session; the security settings belong outside.

`calls_in_session` says that every run keeps to that, with topics that are not
empty and packets of a permitted size.
-/

namespace Sockets
namespace MqttTransport

open NetworkBytes Runs LockTraces NativeProtocols

/-- How far a session with the broker is. -/
inductive Session
  | closed
  | connected
  | subscribed
  deriving DecidableEq, Repr

variable {maximumPacketSize : Nat} {s : MqttTransport} {n : MqttNatives} {session : Session}

/-- A packet that may be sent or handed over. -/
def Permitted (maximumPacketSize : Nat) (packet : Bytes) : Prop :=
  packet ≠ [] ∧ packet.length ≤ maximumPacketSize

instance (packet : Bytes) : Decidable (Permitted maximumPacketSize packet) :=
  inferInstanceAs (Decidable (_ ∧ _))

/-- What becomes of the session, if the call may be made in it. -/
def acceptCall (maximumPacketSize : Nat) : Session → MqttEvent → Option Session
  | .closed, .configure _ => some .closed
  | .closed, .connect _ _ connected => some (if connected then .connected else .closed)
  | .closed, .disconnect => some .closed
  | .connected, .subscribe topic _ _ => if topic ≠ [] then some .subscribed else none
  | .subscribed, .connect _ _ connected => some (if connected then .connected else .closed)
  | .subscribed, .disconnect => some .closed
  | .subscribed, .loop => some .subscribed
  | .subscribed, .publish topic data _ _ =>
      if topic ≠ [] ∧ Permitted maximumPacketSize data then some .subscribed else none
  | .subscribed, .deliver _ packet =>
      if Permitted maximumPacketSize packet then some .subscribed else none
  | _, _ => none

/-- The transport leaves no connect without its subscription and takes no session
for open that is not.  While it is initialised it has a client and topics. -/
structure InStep (s : MqttTransport) (session : Session) : Prop where
  asked : session ≠ .connected
  opened : s.session.isSome = true → session = .subscribed
  client : s.mqtt = false → session = .closed
  topics : s.mqtt = true → s.config.inboundTopic ≠ [] ∧ s.config.outboundTopic ≠ []
  initialized : s.initialized = false → s.mqtt = false

theorem InStep.cases (h : InStep s session) : session = .closed ∨ session = .subscribed := by
  cases session with
  | closed => exact .inl rfl
  | connected => exact absurd rfl h.asked
  | subscribed => exact .inr rfl

/-- Without a client no session is open. -/
theorem InStep.idle (hsession : s.session = none) (hmqtt : s.mqtt = false) : InStep s .closed :=
  ⟨by decide, by simp [hsession], fun _ => rfl, by simp [hmqtt], fun _ => hmqtt⟩

theorem InStep.accept_connect (h : InStep s session) (maximumPacketSize : Nat) (clientId : Bytes)
    (credentials : Option (Bytes × Bytes)) (connected : Bool) :
    acceptCall maximumPacketSize session (.connect clientId credentials connected) =
      some (if connected then .connected else .closed) := by
  rcases h.cases with rfl | rfl <;> rfl

theorem InStep.accept_disconnect (h : InStep s session) :
    acceptCall maximumPacketSize session .disconnect = some .closed := by
  rcases h.cases with rfl | rfl <;> rfl

/-- Calls that leave an open session open. -/
theorem accepts_open {calls : List MqttEvent}
    (h : ∀ call ∈ calls, acceptCall maximumPacketSize .subscribed call = some .subscribed) :
    accepts (acceptCall maximumPacketSize) .subscribed calls = some .subscribed := by
  induction calls with
  | nil => rfl
  | cons call rest ih =>
      obtain ⟨hcall, hrest⟩ := List.forall_mem_cons.mp h
      rw [accepts_cons hcall, ih hrest]

/-- **Making sure of the connection** makes calls that are accepted, and says
that there is a connection only in an open session. -/
theorem InStep.ensureConnectedLocked (h : InStep s session) (maximumPacketSize : Nat)
    (n : MqttNatives) :
    let r := s.ensureConnectedLocked n
    ∃ session', accepts (acceptCall maximumPacketSize) session r.2.2 = some session' ∧
      InStep r.1 session' ∧ (r.2.1 = true → session' = .subscribed) := by
  simp only [MqttTransport.ensureConnectedLocked]
  by_cases hfast : (s.mqtt && s.session.isSome && n.alive) = true
  · rw [if_pos hfast]
    simp only [Bool.and_eq_true] at hfast
    exact ⟨session, rfl, h, fun _ => h.opened hfast.1.2⟩
  · rw [if_neg hfast]
    have hnone : ∀ last, InStep { s with session := none, lastConnectAttempt := last } session :=
      fun _ => ⟨h.asked, fun hs => (Bool.false_ne_true hs).elim, h.client, h.topics, h.initialized⟩
    split
    · exact ⟨session, rfl, hnone _, fun hconnected => by cases hconnected⟩
    · cases hmqtt : s.mqtt with
      | false =>
          exact ⟨session, rfl, by simpa [hmqtt] using hnone n.now,
            fun hconnected => by cases hconnected⟩
      | true =>
          obtain ⟨hinbound, houtbound⟩ := h.topics hmqtt
          have hstays : ∀ (open' : Option Bool) (session' : Session), session' ≠ .connected →
              (open'.isSome = true → session' = .subscribed) →
              InStep { s with session := open', lastConnectAttempt := n.now } session' :=
            fun open' session' hasked hopen =>
              ⟨hasked, hopen, fun hm => absurd (hmqtt.symm.trans hm) (by decide),
                h.topics, h.initialized⟩
          cases hconnects : n.connects with
          | false =>
              refine ⟨.closed, ?_, by simpa [hmqtt] using hstays none .closed (by decide) (by simp),
                fun hconnected => by cases hconnected⟩
              simpa using h.accept_connect maximumPacketSize _ _ false
          | true =>
              have hconnect := h.accept_connect maximumPacketSize s.config.clientId
                (if s.config.username ≠ [] then some (s.config.username, s.config.password)
                  else none) true
              refine ⟨.subscribed, ?_, ?_, fun _ => rfl⟩
              · simp only [hinbound, Bool.not_true, Bool.false_eq_true, if_false]
                rw [accepts_cons hconnect]
                simp [acceptCall, hinbound]
              · simpa [hinbound, hmqtt] using
                  hstays (some n.subscribes) .subscribed (by decide) fun _ => rfl

/-- The packets that come out of the loop. -/
theorem receiveMQTT_calls (s : MqttTransport) (message : MqttMessage) :
    ∀ call ∈ events (s.receiveMQTT maximumPacketSize message),
      acceptCall maximumPacketSize .subscribed call = some .subscribed := by
  intro call hcall
  rw [MqttTransport.receiveMQTT] at hcall
  split at hcall
  · split at hcall
    · cases hcall
    · rename_i hpermitted
      simp only [Bool.or_eq_true, decide_eq_true_eq, not_or, Nat.not_lt] at hpermitted
      rw [events_append, events_guarded, events_map_event] at hcall
      simp only [events_nil, List.nil_append, List.mem_map] at hcall
      obtain ⟨receiver, -, rfl⟩ := hcall
      simp [acceptCall, Permitted, hpermitted]
  · cases hcall

theorem events_flatMap {α : Type} (f : α → List MqttAction) (xs : List α) :
    events (xs.flatMap f) = xs.flatMap fun x => events (f x) := by
  induction xs with
  | nil => rfl
  | cons x rest ih => rw [List.flatMap_cons, events_append, ih, List.flatMap_cons]

/-- The settings are made outside a session. -/
theorem accepts_configured (calls : List SecurityCall) :
    accepts (acceptCall maximumPacketSize) .closed (calls.map MqttEvent.configure) =
      some .closed := by
  induction calls with
  | nil => rfl
  | cons call rest ih => exact ih

theorem permitted_of_accepted {packet : Option Bytes} {data : Bytes}
    (h : s.accepted maximumPacketSize packet = some data) : Permitted maximumPacketSize data := by
  rw [accepted] at h
  split at h
  · obtain ⟨hsendable, -⟩ := Option.filter_eq_some_iff.mp h
    obtain ⟨-, hpermitted⟩ := Option.filter_eq_some_iff.mp hsendable
    simpa [Permitted] using hpermitted
  · cases h

/-- One operation with its calls, in their order. -/
def callStep (maximumPacketSize : Nat) (s : MqttTransport) (op : Op) :
    MqttTransport × List MqttEvent :=
  ((step maximumPacketSize s op).1, events (step maximumPacketSize s op).2)

/-- The calls of an operation are accepted, and the transport stays in step. -/
def StaysInStep (maximumPacketSize : Nat) (s : MqttTransport) (session : Session) (op : Op) :
    Prop :=
  ∃ session', accepts (acceptCall maximumPacketSize) session
      (callStep maximumPacketSize s op).2 = some session' ∧
    InStep (callStep maximumPacketSize s op).1 session'

theorem InStep.initializeTransport (h : InStep s session) (config : MqttConfig) (started : Bool) :
    StaysInStep maximumPacketSize s session (.initializeTransport config started) := by
  simp only [StaysInStep, callStep, MqttTransport.step, MqttTransport.initializeTransport]
  by_cases hinitialized : s.initialized = true
  · rw [if_pos hinitialized]
    exact ⟨session, rfl, h⟩
  · rw [if_neg hinitialized]
    split
    · exact ⟨session, rfl, h⟩
    · rename_i hchecks
      simp only [Bool.or_eq_true, decide_eq_true_eq, not_or] at hchecks
      obtain rfl := h.client (h.initialized (Bool.eq_false_iff.mpr hinitialized))
      have hconfigured : accepts (acceptCall maximumPacketSize) .closed
          (events ((configureTLS config).map fun call =>
            (Action.event (.configure call) : MqttAction))) = some .closed := by
        rw [show (fun call => (Action.event (.configure call) : MqttAction)) =
          Action.event ∘ MqttEvent.configure from rfl, ← List.map_map, events_map_event]
        exact accepts_configured _
      split
      · exact ⟨.closed, hconfigured, .idle rfl rfl⟩
      · exact ⟨.closed, hconfigured,
          ⟨h.asked, fun hs => (Bool.false_ne_true hs).elim, fun _ => rfl,
            fun _ => ⟨hchecks.2, hchecks.1.2⟩, fun hi => (Bool.false_ne_true hi.symm).elim⟩⟩

theorem InStep.shutdown (h : InStep s session) :
    StaysInStep maximumPacketSize s session .shutdown := by
  simp only [StaysInStep, callStep, MqttTransport.step, MqttTransport.shutdown]
  split
  · exact ⟨session, rfl, h⟩
  · refine ⟨.closed, ?_, .idle rfl rfl⟩
    rw [events_append, events_guarded, events_guarded]
    cases hmqtt : s.mqtt with
    | true => simpa [events] using h.accept_disconnect
    | false => simp [h.client hmqtt]

theorem InStep.iterate (h : InStep s session) (natives : MqttNatives)
    (messages : List MqttMessage) :
    StaysInStep maximumPacketSize s session (.iterate natives messages) := by
  simp only [StaysInStep, callStep, MqttTransport.step, MqttTransport.iterate]
  split
  · exact ⟨session, rfl, h⟩
  · obtain ⟨session', hcalls, hnext, hopen⟩ :=
      h.ensureConnectedLocked maximumPacketSize natives
    generalize s.ensureConnectedLocked natives = r at hcalls hnext hopen
    obtain ⟨t, connected, calls⟩ := r
    dsimp only at hcalls hnext hopen ⊢
    rw [events_guarded, events_append, events_map_event]
    split
    · rename_i hconnected
      simp only [Bool.and_eq_true] at hconnected
      obtain rfl := hopen hconnected.1
      refine ⟨.subscribed, ?_, hnext⟩
      rw [accepts_append hcalls]
      refine accepts_open fun call hcall => ?_
      rw [mem_events, List.mem_cons, ← mem_events, events_flatMap] at hcall
      rcases hcall with hloop | hmessage
      · cases hloop
        rfl
      · obtain ⟨message, -, hdelivered⟩ := List.mem_flatMap.mp hmessage
        exact receiveMQTT_calls t message call hdelivered
    · exact ⟨session', by simpa using hcalls, hnext⟩

theorem InStep.send (h : InStep s session) (packet : Option Bytes) (natives : MqttNatives)
    (published : Bool) :
    StaysInStep maximumPacketSize s session (.send packet natives published) := by
  simp only [StaysInStep, callStep, MqttTransport.step, MqttTransport.send]
  cases haccepted : s.accepted maximumPacketSize packet with
  | none => exact ⟨session, rfl, h⟩
  | some data =>
      have hpermitted := permitted_of_accepted haccepted
      obtain ⟨session', hcalls, hnext, hopen⟩ :=
        h.ensureConnectedLocked maximumPacketSize natives
      generalize s.ensureConnectedLocked natives = r at hcalls hnext hopen
      obtain ⟨t, connected, calls⟩ := r
      dsimp only at hcalls hnext hopen ⊢
      split
      · exact ⟨session', by simpa using hcalls, hnext⟩
      · rename_i hconnected
        simp only [Bool.or_eq_true, Bool.not_eq_true', not_or, Bool.not_eq_false] at hconnected
        obtain rfl := hopen hconnected.1
        refine ⟨.subscribed, ?_, hnext⟩
        rw [events_guarded, events_map_event, accepts_append hcalls]
        refine accepts_open fun call hcall => ?_
        obtain rfl := List.mem_singleton.mp hcall
        simp [acceptCall, (hnext.topics hconnected.2).2, hpermitted]

theorem InStep.getIsConnected (h : InStep s session) (alive : Bool) :
    StaysInStep maximumPacketSize s session (.getIsConnected alive) := by
  have hsilent : (callStep maximumPacketSize s (.getIsConnected alive)).2 = [] := by
    simp [callStep, MqttTransport.step, MqttTransport.getIsConnected]
  refine ⟨session, by rw [hsilent]; rfl, h.asked, ?_, h.client, h.topics, h.initialized⟩
  intro hs
  simp only [callStep, MqttTransport.step, MqttTransport.getIsConnected] at hs
  split at hs
  · exact h.opened hs
  · cases hs

/-- **One operation** makes calls that are accepted. -/
theorem InStep.step (h : InStep s session) (op : Op) :
    StaysInStep maximumPacketSize s session op := by
  cases op with
  | initializeTransport config started => exact h.initializeTransport config started
  | shutdown => exact h.shutdown
  | iterate natives messages => exact h.iterate natives messages
  | send packet natives published => exact h.send packet natives published
  | setReceiver receiver =>
      exact ⟨session, rfl, h.asked, h.opened, h.client, h.topics, h.initialized⟩
  | getIsConnected alive => exact h.getIsConnected alive

/-- **Calls of a broker's client.**  In every run of any tasks, a connect that
succeeds is followed at once by one subscription; the loop runs, packets are
published and packets are handed over only in a session so opened; and the
security settings are made only outside of one. -/
theorem calls_in_session (maximumPacketSize : Nat) (config : MqttConfig) (ops : List Op) :
    let run := feed (callStep maximumPacketSize) (fresh config) ops
    ∃ session, accepts (acceptCall maximumPacketSize) .closed run.2 = some session ∧
      InStep run.1 session := by
  have hstep : ∀ s session op, InStep s session →
      ∃ session', accepts (acceptCall maximumPacketSize) session
          (callStep maximumPacketSize s op).2 = some session' ∧
        InStep (callStep maximumPacketSize s op).1 session' :=
    fun _ _ op h => h.step op
  exact accepts_feed hstep (.idle rfl rfl : InStep (fresh config) .closed) ops

end MqttTransport
end Sockets
