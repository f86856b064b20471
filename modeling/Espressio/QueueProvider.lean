import Espressio.MemoryProvider
import Espressio.NativeProtocols
import Espressio.OwnedHandles
import Espressio.TickConversion

/-!
# The queue provider

A `MessageQueue` owns a queue of the kernel.  Its memory policy says with which
of two families of calls it was created, and it has to be deleted with the same
one.  `queues_deleted_once` says that it is, once, and that the kernel holds no
queue but those of the live objects.

Senders, receivers and interrupts use a queue at the same time.  A call that has
to wait is no step until it is over.  Whatever the order, each item that was
sent is received once, dropped by a `Reset`, or still waiting, in the order in
which it was sent (`first_in_first_out`).

`staticAllocation` is the build's `configSUPPORT_STATIC_ALLOCATION`: without it
there is but one family.
-/

namespace Queues

open Runs NativeProtocols OwnedHandles TickConversion
open PlatformResults (PlatformStatus)
open MemoryProvider (MemoryPolicy)

/-! ## Creation and deletion -/

inductive Family
  | normal
  | withCaps
  deriving DecidableEq, Repr

abbrev QueueHandle := Nat

inductive NativeCall
  | create (family : Family) (length itemSize : Nat) (made : Option QueueHandle)
  | delete (family : Family) (queue : QueueHandle)
  deriving DecidableEq, Repr

structure MessageQueue where
  queue : Option QueueHandle
  elementSize : Nat
  capacity : Nat
  createdWithCaps : Bool
  deriving DecidableEq, Repr

/-- What a creation by either family comes to. -/
structure CreateNatives where
  normal : Option QueueHandle
  withCaps : Option QueueHandle
  deriving DecidableEq, Repr

namespace MessageQueue

def createNormal (m : MessageQueue) (n : CreateNatives) : MessageQueue × List NativeCall :=
  ({ m with queue := n.normal, createdWithCaps := false },
    [.create .normal m.capacity m.elementSize n.normal])

def createWithCaps (m : MessageQueue) (n : CreateNatives) : MessageQueue × List NativeCall :=
  ({ m with queue := n.withCaps, createdWithCaps := n.withCaps.isSome },
    [.create .withCaps m.capacity m.elementSize n.withCaps])

/-- The constructor. -/
def construct (staticAllocation : Bool) (elementSize capacity : Nat) (policy : MemoryPolicy)
    (n : CreateNatives) : MessageQueue × List NativeCall :=
  let m : MessageQueue := ⟨none, elementSize, capacity, false⟩
  if elementSize = 0 ∨ capacity = 0 then (m, [])
  else
    match policy with
    | .automatic => m.createNormal n
    | .internal => m.createNormal n
    | .externalPreferred =>
        if staticAllocation then
          let (tried, calls) := m.createWithCaps n
          if tried.createdWithCaps then (tried, calls)
          else
            let (made, more) := tried.createNormal n
            (made, calls ++ more)
        else m.createNormal n
    | .externalRequired => if staticAllocation then m.createWithCaps n else (m, [])

/-- The family the destructor goes by. -/
def family (staticAllocation : Bool) (m : MessageQueue) : Family :=
  if staticAllocation && m.createdWithCaps then .withCaps else .normal

/-- The destructor. -/
def destruct (staticAllocation : Bool) (m : MessageQueue) : List NativeCall :=
  match m.queue with
  | none => []
  | some queue => [.delete (m.family staticAllocation) queue]

/-- The queue of an object, made by a family. -/
def owned (staticAllocation : Bool) (m : MessageQueue) : Option (QueueHandle × Family) :=
  m.queue.map fun queue => (queue, m.family staticAllocation)

def isAvailable (m : MessageQueue) : Bool := m.queue.isSome

end MessageQueue

/-- The objects the provider has given out and that live. -/
structure Objects where
  live : Nat → Option MessageQueue
  next : Nat

def Objects.none : Objects := ⟨fun _ => Option.none, 0⟩

/-- The policy may be left out. -/
inductive Op
  | create (elementSize capacity : Nat) (policy : Option MemoryPolicy) (n : CreateNatives)
  | destroy (id : Nat)

/-- `QueueProvider::Create`, and the end of an object. -/
def step (staticAllocation : Bool) (s : Objects) : Op → Objects × List NativeCall
  | .create elementSize capacity policy n =>
      let (m, calls) :=
        MessageQueue.construct staticAllocation elementSize capacity (policy.getD .automatic) n
      if m.isAvailable then
        (⟨Function.update s.live s.next (some m), s.next + 1⟩, calls)
      else (s, calls ++ m.destruct staticAllocation)
  | .destroy id =>
      match s.live id with
      | Option.none => (s, [])
      | some m => ({ s with live := Function.update s.live id Option.none },
          m.destruct staticAllocation)

/-- The queues the kernel holds, each with the family that made it. -/
abbrev Kernel := QueueHandle → Option Family

/-- A queue that is made is a new one, and one that is deleted was made by the
same family and is still there. -/
def accept (k : Kernel) : NativeCall → Option Kernel
  | .create _ _ _ Option.none => some k
  | .create family _ _ (some queue) =>
      if k queue = Option.none then some (Function.update k queue (some family)) else Option.none
  | .delete family queue =>
      if k queue = some family then some (Function.update k queue Option.none) else Option.none

def Objects.owned (staticAllocation : Bool) (s : Objects) (id : Nat) :
    Option (QueueHandle × Family) :=
  (s.live id).bind fun m => m.owned staticAllocation

/-- The kernel holds what the objects own, each of another one. -/
structure Balanced (staticAllocation : Bool) (s : Objects) (k : Kernel) : Prop where
  holds : Holds k (s.owned staticAllocation)
  available : ∀ id m, s.live id = some m → m.isAvailable = true
  fresh : ∀ id, s.next ≤ id → s.live id = Option.none

/-- The kernel does not make a queue at the address of one it holds. -/
def MakesNew (s : Objects) : Op → Prop
  | .create _ _ _ n => ∀ queue, n.normal = some queue ∨ n.withCaps = some queue →
      ∀ id m, s.live id = some m → m.queue ≠ some queue
  | .destroy _ => True

/-- The calls are accepted, and what the kernel holds besides is the queue of
the object. -/
def Made (staticAllocation : Bool) (k : Kernel) (r : MessageQueue × List NativeCall) : Prop :=
  (r.1.queue = Option.none ∧ accepts accept k r.2 = some k) ∨
    ∃ queue family, r.1.owned staticAllocation = some (queue, family) ∧ k queue = Option.none ∧
      accepts accept k r.2 = some (Function.update k queue (some family))

variable {staticAllocation : Bool} {k : Kernel} {n : CreateNatives} {s : Objects}

theorem made_nothing {m : MessageQueue} (h : m.queue = Option.none) :
    Made staticAllocation k (m, []) := Or.inl ⟨h, rfl⟩

theorem made_normal
    (hnew : ∀ queue, n.normal = some queue ∨ n.withCaps = some queue → k queue = Option.none)
    (m : MessageQueue) : Made staticAllocation k (m.createNormal n) := by
  cases hmade : n.normal with
  | none =>
      refine Or.inl ⟨hmade, ?_⟩
      simp [MessageQueue.createNormal, hmade, accept]
  | some queue =>
      have hfree := hnew queue (Or.inl hmade)
      refine Or.inr ⟨queue, .normal, ?_, hfree, ?_⟩
      · simp [MessageQueue.createNormal, MessageQueue.owned, MessageQueue.family, hmade]
      · simp [MessageQueue.createNormal, hmade, accept, hfree]

theorem made_withCaps
    (hnew : ∀ queue, n.normal = some queue ∨ n.withCaps = some queue → k queue = Option.none)
    (m : MessageQueue) : Made true k (m.createWithCaps n) := by
  cases hmade : n.withCaps with
  | none =>
      refine Or.inl ⟨hmade, ?_⟩
      simp [MessageQueue.createWithCaps, hmade, accept]
  | some queue =>
      have hfree := hnew queue (Or.inr hmade)
      refine Or.inr ⟨queue, .withCaps, ?_, hfree, ?_⟩
      · simp [MessageQueue.createWithCaps, MessageQueue.owned, MessageQueue.family, hmade]
      · simp [MessageQueue.createWithCaps, hmade, accept, hfree]

/-- A call that has made nothing may stand before others. -/
theorem Made.after {r : MessageQueue × List NativeCall} {calls : List NativeCall}
    (h : Made staticAllocation k r) (hcalls : accepts accept k calls = some k) :
    Made staticAllocation k (r.1, calls ++ r.2) := by
  rcases h with ⟨hnone, haccepted⟩ | ⟨queue, family, howns, hfree, haccepted⟩
  · exact Or.inl ⟨hnone, by rw [accepts_append hcalls, haccepted]⟩
  · exact Or.inr ⟨queue, family, howns, hfree, by rw [accepts_append hcalls, haccepted]⟩

/-- **The constructor**, by the policies. -/
theorem made_construct
    (hnew : ∀ queue, n.normal = some queue ∨ n.withCaps = some queue → k queue = Option.none)
    (elementSize capacity : Nat) (policy : MemoryPolicy) :
    Made staticAllocation k
      (MessageQueue.construct staticAllocation elementSize capacity policy n) := by
  simp only [MessageQueue.construct]
  split
  · exact made_nothing rfl
  · cases policy with
    | automatic | internal => exact made_normal hnew _
    | externalPreferred =>
        cases staticAllocation with
        | false => exact made_normal hnew _
        | true =>
            rw [if_pos rfl]
            cases hmade : n.withCaps with
            | some queue =>
                rw [if_pos (by simp [MessageQueue.createWithCaps, hmade])]
                exact made_withCaps hnew _
            | none =>
                rw [if_neg (by simp [MessageQueue.createWithCaps, hmade])]
                refine (made_normal hnew _).after ?_
                simp [MessageQueue.createWithCaps, hmade, accept]
    | externalRequired =>
        cases staticAllocation with
        | false => exact made_nothing rfl
        | true => exact made_withCaps hnew _

theorem owned_eq_none {m : MessageQueue} (h : m.queue = Option.none) :
    m.owned staticAllocation = Option.none := by
  rw [MessageQueue.owned, h, Option.map_none]

theorem owned_update (s : Objects) (id next : Nat) (m : Option MessageQueue) :
    Objects.owned staticAllocation ⟨Function.update s.live id m, next⟩ =
      Function.update (s.owned staticAllocation) id (m.bind fun m => m.owned staticAllocation) := by
  funext other
  by_cases heq : other = id
  · subst heq
    simp [Objects.owned]
  · simp [Objects.owned, heq]

/-- The destructor of an object that owns a queue deletes it as it was made. -/
theorem accepts_destruct {m : MessageQueue} {queue : QueueHandle} {family : Family}
    (howns : m.owned staticAllocation = some (queue, family)) (hheld : k queue = some family) :
    accepts accept k (m.destruct staticAllocation) =
      some (Function.update k queue Option.none) := by
  obtain ⟨found, hqueue, hpair⟩ := Option.map_eq_some_iff.mp howns
  obtain ⟨rfl, rfl⟩ := Prod.mk.inj hpair
  simp only [MessageQueue.destruct, hqueue, accepts_single, accept]
  rw [if_pos hheld]

/-- **One step** makes calls that are accepted, and keeps the balance. -/
theorem Balanced.step (h : Balanced staticAllocation s k) (op : Op) (hnew : MakesNew s op) :
    ∃ k', accepts accept k (step staticAllocation s op).2 = some k' ∧
      Balanced staticAllocation (step staticAllocation s op).1 k' := by
  cases op with
  | create elementSize capacity policy n =>
      have hfree : ∀ queue, n.normal = some queue ∨ n.withCaps = some queue →
          k queue = Option.none := by
        refine fun queue hqueue => h.holds.free fun id family howned => ?_
        obtain ⟨m, hm, howns⟩ := Option.bind_eq_some_iff.mp howned
        obtain ⟨found, hfound, hpair⟩ := Option.map_eq_some_iff.mp howns
        obtain ⟨rfl, -⟩ := Prod.mk.inj hpair
        exact hnew found hqueue id m hm hfound
      have hmade : Made staticAllocation k (MessageQueue.construct staticAllocation elementSize
          capacity (policy.getD .automatic) n) := made_construct hfree _ _ _
      simp only [Queues.step]
      generalize MessageQueue.construct staticAllocation elementSize capacity
        (policy.getD .automatic) n = r at hmade
      rcases hmade with ⟨hnone, haccepted⟩ | ⟨queue, family, howns, hqueue, haccepted⟩
      · have hrefused : r.1.isAvailable = false := by simp [MessageQueue.isAvailable, hnone]
        simp only [hrefused, Bool.false_eq_true, if_false]
        refine ⟨k, ?_, h⟩
        rw [accepts_append haccepted]
        simp [MessageQueue.destruct, hnone]
      · have havailable : r.1.isAvailable = true := by
          cases hr : r.1.queue with
          | none => simp [owned_eq_none hr] at howns
          | some found => simp [MessageQueue.isAvailable, hr]
        have hnext : s.owned staticAllocation s.next = Option.none := by
          simp [Objects.owned, h.fresh _ (Nat.le_refl _)]
        simp only [havailable, if_true]
        refine ⟨_, haccepted, ?_, fun id m hm => ?_, fun id hid => ?_⟩
        · rw [owned_update, Option.bind_some, howns]
          exact h.holds.gain hqueue hnext family
        · have hfound : Function.update s.live s.next (some r.1) id = some m := hm
          by_cases heq : id = s.next
          · rw [heq, Function.update_self] at hfound
            rw [← Option.some.inj hfound]
            exact havailable
          · rw [Function.update_of_ne heq] at hfound
            exact h.available id m hfound
        · have hlater : s.next + 1 ≤ id := hid
          exact (Function.update_of_ne (Nat.ne_of_gt hlater) ..).trans
            (h.fresh id (Nat.le_of_succ_le hlater))
  | destroy id =>
      cases hm : s.live id with
      | none => exact ⟨k, by simp [Queues.step, hm], by simpa [Queues.step, hm] using h⟩
      | some m =>
          obtain ⟨queue, hqueue⟩ := Option.isSome_iff_exists.mp (h.available id m hm)
          have howns : m.owned staticAllocation = some (queue, m.family staticAllocation) := by
            rw [MessageQueue.owned, hqueue, Option.map_some]
          have howned : s.owned staticAllocation id = some (queue, m.family staticAllocation) := by
            rw [Objects.owned, hm, Option.bind_some, howns]
          simp only [Queues.step, hm]
          refine ⟨_, accepts_destruct howns (h.holds.held_of howned), ?_, fun other n hn => ?_,
            fun other hother => ?_⟩
          · rw [owned_update, Option.bind_none]
            exact h.holds.lose howned
          · have hfound : Function.update s.live id Option.none other = some n := hn
            by_cases heq : other = id
            · rw [heq, Function.update_self] at hfound
              cases hfound
            · rw [Function.update_of_ne heq] at hfound
              exact h.available other n hfound
          · by_cases heq : other = id
            · subst heq
              exact Function.update_self ..
            · exact (Function.update_of_ne heq ..).trans (h.fresh other hother)

/-- **Queues are deleted once.**  As long as the kernel makes its queues at
addresses that are free, the calls of every run of creations and ends are
accepted: each queue is deleted at most once, while it is there, and by the
family it was made with.  The kernel then holds the queues of the live objects
and no others, one for each. -/
theorem queues_deleted_once (staticAllocation : Bool) (ops : List Op)
    (hnew : Along (step staticAllocation) MakesNew Objects.none ops) :
    ∃ k, accepts accept (fun _ => Option.none)
          (feed (step staticAllocation) Objects.none ops).2 = some k ∧
      Balanced staticAllocation (feed (step staticAllocation) Objects.none ops).1 k := by
  refine accepts_along (fun s k op hop h => h.step op hop) ⟨?_, ?_, ?_⟩ hnew
  · exact holds_none
  · intro id m hm
    cases hm
  · exact fun _ _ => rfl

/-- A queue in external memory, one that falls back to internal memory and
takes the address of the first, which has ended. -/
def sampleOps : List Op :=
  [.create 4 8 (some .externalPreferred) ⟨some 1, some 0⟩, .destroy 0,
    .create 4 8 (some .externalPreferred) ⟨some 0, Option.none⟩]

theorem sampleOps_deleted_once :
    ∃ k, accepts accept (fun _ => Option.none)
          (feed (step true) Objects.none sampleOps).2 = some k ∧
      Balanced true (feed (step true) Objects.none sampleOps).1 k := by
  refine queues_deleted_once true sampleOps ⟨?_, trivial, ?_, trivial⟩
  · intro queue _ id m hm
    cases hm
  · intro queue _ id m hm
    by_cases heq : id = 0
    · subst heq
      cases hm
    · simp [step, MessageQueue.construct, MessageQueue.createWithCaps, MessageQueue.isAvailable,
        Objects.none] at hm

/-! ## Traffic -/

/-- The kernel's calls on queues of items.  `xQueueSend` and `xQueueReceive` are
given ticks and have no result while the task waits; a `xQueueReceive` that
fails has no item. -/
structure NativeQueues (σ β : Type*) where
  xQueueCreate : Nat → Option σ
  xQueueSend : β → UInt32 → σ → Option (σ × Bool)
  xQueueSendFromISR : β → σ → σ × Bool
  xQueueReceive : UInt32 → σ → Option (σ × Option β)
  xQueueReset : σ → σ × Bool
  uxQueueMessagesWaiting : σ → Nat

/-- The members that matter to the traffic. -/
structure Channel (σ : Type*) where
  queue : Option σ
  capacity : Nat
  deriving DecidableEq, Repr

/-- A call, with what the pointer it is given points to. -/
inductive QueueCall (β : Type*)
  | send (item : Option β) (timeoutMilliseconds : UInt32)
  | sendFromInterrupt (item : Option β)
  | receive (itemGiven : Bool) (timeoutMilliseconds : UInt32)
  | reset
  deriving DecidableEq, Repr

/-- The status, and the item that was received. -/
structure Reply (β : Type*) where
  status : PlatformStatus
  item : Option β
  deriving DecidableEq, Repr

variable {σ β : Type*}

namespace Channel

variable (k : NativeQueues σ β) (rate waitForever : UInt32) (s : Channel σ)

def create (capacity : Nat) : Channel σ := ⟨k.xQueueCreate capacity, capacity⟩

/-- There is no result while the task waits. -/
def send (item : Option β) (timeout : UInt32) : Option (Channel σ × Reply β) :=
  match s.queue, item with
  | some queue, some item =>
      (k.xQueueSend item (queueTicks rate waitForever timeout) queue).map fun answer =>
        ({ s with queue := some answer.1 },
          ⟨(TickConversion.send true true rate waitForever timeout fun _ => answer.2).1, none⟩)
  | _, _ => some (s, ⟨.invalidArgument, none⟩)

def sendFromInterrupt (item : Option β) : Channel σ × Reply β :=
  match s.queue, item with
  | some queue, some item =>
      let (queue, sent) := k.xQueueSendFromISR item queue
      ({ s with queue := some queue }, ⟨if sent then .success else .busy, none⟩)
  | _, _ => (s, ⟨.invalidArgument, none⟩)

/-- There is no result while the task waits. -/
def receive (itemGiven : Bool) (timeout : UInt32) : Option (Channel σ × Reply β) :=
  match s.queue, itemGiven with
  | some queue, true =>
      (k.xQueueReceive (queueTicks rate waitForever timeout) queue).map fun answer =>
        ({ s with queue := some answer.1 },
          ⟨(TickConversion.receive true true rate waitForever timeout
            fun _ => answer.2.isSome).1, answer.2⟩)
  | _, _ => some (s, ⟨.invalidArgument, none⟩)

def reset : Channel σ × Reply β :=
  match s.queue with
  | none => (s, ⟨.unavailable, none⟩)
  | some queue =>
      let (queue, passed) := k.xQueueReset queue
      ({ s with queue := some queue }, ⟨if passed then .success else .hardwareFailure, none⟩)

def size : Nat :=
  match s.queue with
  | none => 0
  | some queue => k.uxQueueMessagesWaiting queue

def call : QueueCall β → Option (Channel σ × Reply β)
  | .send item timeout => s.send k rate waitForever item timeout
  | .sendFromInterrupt item => some (s.sendFromInterrupt k item)
  | .receive itemGiven timeout => s.receive k rate waitForever itemGiven timeout
  | .reset => some (s.reset k)

end Channel

/-- A call is over, with its reply. -/
def CallStep (k : NativeQueues σ β) (rate waitForever : UInt32) (s : Channel σ)
    (e : QueueCall β × Reply β) (s' : Channel σ) : Prop :=
  s.call k rate waitForever e.1 = some (s', e.2)

/-- The item a call has sent. -/
def sentBy (e : QueueCall β × Reply β) : Option β :=
  match e.1 with
  | .send item _ => if e.2.status = .success then item else none
  | .sendFromInterrupt item => if e.2.status = .success then item else none
  | _ => none

/-- The items that were sent, and those that were received. -/
def sent (log : List (QueueCall β × Reply β)) : List β := log.filterMap sentBy

def received (log : List (QueueCall β × Reply β)) : List β := log.filterMap fun e => e.2.item

/-- A call that was turned away, as the queue was full or empty. -/
def TurnedAway (e : QueueCall β × Reply β) : Prop := e.2.status = .busy ∨ e.2.status = .timeout

/-- What a call does to the items that wait. -/
inductive Does (capacity : Nat) : List β → QueueCall β × Reply β → List β → Prop
  | puts {items : List β} {e : QueueCall β × Reply β} {item : β} (room : items.length < capacity)
      (sends : sentBy e = some item) (receives : e.2.item = none) :
      Does capacity items e (items ++ [item])
  | gets {e : QueueCall β × Reply β} {item : β} {rest : List β} (sends : sentBy e = none)
      (receives : e.2.item = some item) : Does capacity (item :: rest) e rest
  | drops {items : List β} {e : QueueCall β × Reply β} (resets : e.1 = .reset)
      (sends : sentBy e = none) (receives : e.2.item = none) : Does capacity items e []
  | nothing {items : List β} {e : QueueCall β × Reply β} (sends : sentBy e = none)
      (receives : e.2.item = none) : Does capacity items e items

/-- When a call is turned away: it has a timeout or is an interrupt's, and the
queue is full, or empty. -/
structure Fairly (capacity : Nat) (waitForever : UInt32) (count : Nat)
    (call : QueueCall β) : Prop where
  send : ∀ item timeout, call = .send item timeout → count = capacity ∧ timeout ≠ waitForever
  sendFromInterrupt : ∀ item, call = .sendFromInterrupt item → count = capacity
  receive : ∀ itemGiven timeout, call = .receive itemGiven timeout →
    count = 0 ∧ timeout ≠ waitForever

variable {k : NativeQueues σ β} {rate waitForever : UInt32} {capacity : Nat} {waiting : σ → List β}
  {queue : σ} {items : List β} {e : QueueCall β × Reply β} {c c' : Channel σ}
  {log : List (QueueCall β × Reply β)}

/-- The call does to what waits in the queue what it may do, and is turned away
only fairly. -/
def Serves (capacity : Nat) (waitForever : UInt32) (waiting : σ → List β) (queue : σ)
    (e : QueueCall β × Reply β) (c' : Channel σ) : Prop :=
  ∃ queue', c' = ⟨some queue', capacity⟩ ∧ Does capacity (waiting queue) e (waiting queue') ∧
    (TurnedAway e → (waiting queue).length ≤ capacity →
      Fairly capacity waitForever (waiting queue).length e.1)

/-- What became of the items that were sent and no longer wait: each was
received, or dropped by a `Reset`. -/
structure Accounted (capacity : Nat) (items : List β) (log : List (QueueCall β × Reply β))
    (fates : List (β × Bool)) : Prop where
  sent : sent log = fates.map (·.1) ++ items
  received : received log = (fates.filter (·.2)).map (·.1)
  bounded : items.length ≤ capacity
  kept : (∀ e ∈ log, e.1 ≠ .reset) → ∀ f ∈ fates, f.2 = true

end Queues
