import Espressio.MqttTransport

/-!
# Sessions without their subscription

Whoever needs the broker asks `EnsureConnectedLocked`.  Its slow path connects
and then subscribes, and fails if either does.  Its fast path only asks whether
there is a connection.  So a subscription that fails after its connect is
reported once: the session stays, and the next caller finds it.

Here: whenever the answer is that there is a connection, the session is
subscribed, except where the fast path meets a session whose subscription has
failed.
-/

namespace Sockets
namespace MqttTransport

open NetworkBytes Runs

variable {maximumPacketSize : Nat} {s : MqttTransport} {n : MqttNatives} {op : Op}

/-- A client has a topic to subscribe to, and a session belongs to a client. -/
structure SessionInv (s : MqttTransport) : Prop where
  topic : s.mqtt = true → s.config.inboundTopic ≠ []
  client : s.session.isSome = true → s.mqtt = true

theorem sessionInv_of_none (hm : s.mqtt = false) (hs : s.session = none) : SessionInv s := by
  constructor
  · rw [hm]
    intro h
    cases h
  · rw [hs]
    intro h
    cases h

/-! ### Making sure of the connection -/

/-- Only the clock and the session change. -/
theorem ensureConnectedLocked_frame (s : MqttTransport) (n : MqttNatives) :
    ∃ last session, (s.ensureConnectedLocked n).1 =
      { s with lastConnectAttempt := last, session := session } := by
  simp only [ensureConnectedLocked]
  split_ifs <;> exact ⟨_, _, rfl⟩

theorem ensureConnectedLocked_of_resumed (hm : s.mqtt = true) (hs : s.session.isSome = true)
    (ha : n.alive = true) : s.ensureConnectedLocked n = (s, true, []) := by
  simp [ensureConnectedLocked, hm, hs, ha]

/-- There is a session only if there is a client. -/
theorem ensureConnectedLocked_client
    (hs : (s.ensureConnectedLocked n).1.session.isSome = true) : s.mqtt = true := by
  by_contra hno
  rw [Bool.not_eq_true] at hno
  simp only [ensureConnectedLocked, hno, Bool.not_false, ↓reduceIte, Bool.false_and,
    Bool.false_eq_true] at hs
  split_ifs at hs <;> cases hs

/-- The slow path returns true only in a session of its own making, which it
has subscribed if there is a topic. -/
theorem ensureConnectedLocked_subscribed (h : (s.mqtt && s.session.isSome && n.alive) = false)
    (ht : s.mqtt = true → s.config.inboundTopic ≠ [])
    (hreturned : (s.ensureConnectedLocked n).2.1 = true) :
    (s.ensureConnectedLocked n).1.session = some true := by
  revert hreturned
  simp only [ensureConnectedLocked, h]
  split_ifs with hsoon hmqtt hconnects htopic
  all_goals simp_all

theorem SessionInv.ensureConnectedLocked (h : SessionInv s) (n : MqttNatives) :
    SessionInv (s.ensureConnectedLocked n).1 := by
  obtain ⟨last, session, hframe⟩ := ensureConnectedLocked_frame s n
  refine ⟨?_, fun hsome => ?_⟩
  · rw [hframe]
    exact h.topic
  · have hmqtt := ensureConnectedLocked_client hsome
    rw [hframe]
    exact hmqtt

/-- **The two paths.**  The answer that there is a connection is one about a
subscribed session, except on the fast path in a session that is not. -/
theorem ensureConnectedLocked_subscribed_iff (h : SessionInv s) (n : MqttNatives) :
    ((s.ensureConnectedLocked n).2.1 = true →
        (s.ensureConnectedLocked n).1.session = some true) ↔
      ¬(s.session = some false ∧ n.alive = true) := by
  cases hfast : s.mqtt && s.session.isSome && n.alive with
  | true =>
      simp only [Bool.and_eq_true] at hfast
      obtain ⟨⟨hm, hs⟩, ha⟩ := hfast
      rw [ensureConnectedLocked_of_resumed hm hs ha]
      obtain ⟨subscribed, hsession⟩ := Option.isSome_iff_exists.mp hs
      cases subscribed <;> simp [hsession, ha]
  | false =>
      refine iff_of_true ?_ ?_
      · exact ensureConnectedLocked_subscribed hfast h.topic
      · rintro ⟨hsession, ha⟩
        have hmqtt := h.client (by rw [hsession]; rfl)
        simp [hmqtt, hsession, ha] at hfast

/-! ### Runs -/

theorem SessionInv.step (h : SessionInv s) (op : Op) :
    SessionInv (step maximumPacketSize s op).1 := by
  cases op with
  | initializeTransport config started =>
      simp only [MqttTransport.step, initializeTransport]
      split_ifs with hinit hchecks hstarted
      · exact h
      · exact h
      · exact sessionInv_of_none rfl rfl
      · refine ⟨fun _ => ?_, fun hs => by cases hs⟩
        simp only [Bool.or_eq_true, decide_eq_true_eq, not_or] at hchecks
        exact hchecks.2
  | shutdown =>
      rw [MqttTransport.step, shutdown]
      split
      · exact h
      · exact sessionInv_of_none rfl rfl
  | iterate natives messages =>
      rw [MqttTransport.step, iterate]
      split
      · exact h
      · exact h.ensureConnectedLocked natives
  | send packet natives published =>
      simp only [MqttTransport.step, send]
      cases s.accepted maximumPacketSize packet with
      | none => exact h
      | some data =>
          dsimp only
          split_ifs <;> exact h.ensureConnectedLocked natives
  | setReceiver receiver => exact ⟨h.topic, h.client⟩
  | getIsConnected alive =>
      refine ⟨h.topic, fun hs => h.client ?_⟩
      simp only [MqttTransport.step, getIsConnected] at hs
      split_ifs at hs with hconnected
      · exact hs
      · cases hs

/-- The native answers with which an operation asks `EnsureConnectedLocked`, if
it does. -/
def ensures (maximumPacketSize : Nat) (s : MqttTransport) : Op → Option MqttNatives
  | .iterate natives _ => if s.running then some natives else none
  | .send packet natives _ => (s.accepted maximumPacketSize packet).map fun _ => natives
  | _ => none

/-- If an operation is told that there is a connection, its session is
subscribed. -/
def ConnectedSubscribed (maximumPacketSize : Nat) (s : MqttTransport) (op : Op) : Prop :=
  ∀ n ∈ ensures maximumPacketSize s op, (s.ensureConnectedLocked n).2.1 = true →
    (s.ensureConnectedLocked n).1.session = some true

instance : Decidable (ConnectedSubscribed maximumPacketSize s op) :=
  inferInstanceAs (Decidable (∀ n ∈ ensures maximumPacketSize s op,
    (s.ensureConnectedLocked n).2.1 = true →
      (s.ensureConnectedLocked n).1.session = some true))

/-- An operation asks while the client is still connected in a session whose
subscription failed. -/
def ResumesUnsubscribed (maximumPacketSize : Nat) (s : MqttTransport) (op : Op) : Prop :=
  ∃ n ∈ ensures maximumPacketSize s op, s.session = some false ∧ n.alive = true

theorem connectedSubscribed_iff (h : SessionInv s) (op : Op) :
    ConnectedSubscribed maximumPacketSize s op ↔ ¬ResumesUnsubscribed maximumPacketSize s op := by
  rw [ConnectedSubscribed, ResumesUnsubscribed, not_exists]
  refine forall_congr' fun n => ?_
  rw [not_and, ensureConnectedLocked_subscribed_iff h n]

/-- **Sessions stay subscribed** in exactly the runs in which nobody resumes a
session whose subscription failed. -/
theorem connectedSubscribed_run_iff (maximumPacketSize : Nat) (config : MqttConfig)
    (ops : List Op) :
    (∀ x ∈ trace (MqttTransport.step maximumPacketSize) (fresh config) ops,
        ConnectedSubscribed maximumPacketSize x.1 x.2) ↔
      ∀ x ∈ trace (MqttTransport.step maximumPacketSize) (fresh config) ops,
        ¬ResumesUnsubscribed maximumPacketSize x.1 x.2 := by
  have hfresh : SessionInv (fresh config) := sessionInv_of_none rfl rfl
  have hstep : ∀ (s : MqttTransport) (op : Op), SessionInv s →
      SessionInv (MqttTransport.step maximumPacketSize s op).1 := fun _ op h => h.step op
  have hinv := trace_invariant hstep hfresh ops
  exact forall₂_congr fun x hx => connectedSubscribed_iff (hinv x hx) x.2

/-- A broker without TLS, and topics of one letter each. -/
def plainConfig : MqttConfig where
  host := [104]
  port := 1883
  clientId := [99]
  username := []
  password := []
  outboundTopic := [111]
  inboundTopic := [105]
  subscribeQoS := 1
  retainOutbound := false
  secure := false
  insecure := false
  caCertificate := none
  clientCertificate := none
  clientPrivateKey := none
  bufferSize := 256
  reconnectIntervalMilliseconds := 1000

/-- The broker takes the connection and refuses the subscription; at the next
iteration it is still connected. -/
theorem unsubscribed_resumed :
    ¬∀ maximumPacketSize config ops,
      ∀ x ∈ trace (MqttTransport.step maximumPacketSize) (fresh config) ops,
        ConnectedSubscribed maximumPacketSize x.1 x.2 := by
  intro h
  let ops : List Op :=
    [.initializeTransport plainConfig true, .iterate ⟨false, 5000, true, false⟩ [],
      .iterate ⟨true, 5010, true, true⟩ []]
  exact absurd (h 256 plainConfig ops) (by decide +kernel)

end MqttTransport
end Sockets
