import Mathlib.Logic.Function.Basic
import Espressio.AtomicCalls

/-!
# The memory provider

`MemoryProvider` places allocations by their policy in internal memory or in
PSRAM, and keeps sixteen counters of the traffic.  It takes no lock: tasks
allocate at the same time, and what they share are atomics.  Each operation is
therefore a program of the atomic actions it makes, in its order, and its calls
interleave in any way.

The heap is not modelled but for what its answers are: null, or the address of
memory that has the capabilities that were asked for.  `region` is the memory
map.  The atomics are sequentially consistent here.
-/

namespace MemoryProvider

open AtomicCalls

inductive MemoryPolicy
  | automatic
  | internal
  | externalPreferred
  | externalRequired
  deriving DecidableEq, Repr

/-- The sixteen counters. -/
inductive Counter
  | automaticRequests
  | automaticBytes
  | automaticExternalSuccesses
  | automaticExternalBytes
  | automaticExternalFallbacks
  | automaticExternalFallbackBytes
  | internalRequests
  | internalBytes
  | externalRequiredRequests
  | externalRequiredBytes
  | externalPreferredRequests
  | externalPreferredBytes
  | externalPreferredExternalSuccesses
  | externalPreferredExternalBytes
  | externalPreferredInternalFallbacks
  | externalPreferredInternalFallbackBytes
  deriving DecidableEq, Repr

/-- The members, all of them atomic. -/
structure Members where
  counters : Counter → UInt32
  thresholdBytes : UInt32
  preferenceEnabled : Bool

def Members.initial : Members := ⟨fun _ => 0, 0, false⟩

def Members.add (m : Members) (counter : Counter) (amount : UInt32) : Members :=
  { m with counters := Function.update m.counters counter (m.counters counter + amount) }

inductive Capability
  | internal
  | spiram
  | bits8
  deriving DecidableEq, Repr

inductive Region
  | internal
  | psram
  deriving DecidableEq, Repr

/-- What the build selects: whether `malloc` may use PSRAM, and whether the heap
takes an alignment. -/
structure Build where
  spiramUseMalloc : Bool
  alignedHeap : Bool
  deriving DecidableEq, Repr

/-- The atomic actions, and the calls into the heap.  The preference is only ever
stored as `true`. -/
inductive Action
  | fetchAdd (counter : Counter) (amount : UInt32)
  | loadEnabled
  | loadThreshold
  | storeThreshold (value : UInt32)
  | storeEnabled
  | allocate (alignment : Option Nat) (bytes : Nat) (capabilities : List Capability)
  | totalSize (capabilities : List Capability)
  | extmemEnable (minimumBytes : Nat)
  deriving DecidableEq, Repr

/-- What an action replies; an address is a number, and zero is null. -/
def Action.Answer : Action → Type
  | fetchAdd _ _ => UInt32
  | loadEnabled => Bool
  | loadThreshold => UInt32
  | storeThreshold _ => Unit
  | storeEnabled => Unit
  | allocate _ _ _ => Nat
  | totalSize _ => Nat
  | extmemEnable _ => Unit

/-- Memory with these capabilities. -/
def Honours (region : Nat → Region) (address : Nat) (capabilities : List Capability) : Prop :=
  (.spiram ∈ capabilities → region address = .psram) ∧
    (.internal ∈ capabilities → region address = .internal)

/-- What the heap may answer: null, or memory as it was asked for. -/
def Answers (region : Nat → Region) (capabilities : List Capability) (address : Nat) : Prop :=
  address = 0 ∨ Honours region address capabilities

/-- An action in the shared members, its reply, and the members after it. -/
def exec (region : Nat → Region) (m : Members) : (a : Action) → a.Answer → Members → Prop
  | .fetchAdd counter amount, old, m' =>
      old = m.counters counter ∧ m' = m.add counter amount
  | .loadEnabled, value, m' => value = m.preferenceEnabled ∧ m' = m
  | .loadThreshold, value, m' => value = m.thresholdBytes ∧ m' = m
  | .storeThreshold value, _, m' => m' = { m with thresholdBytes := value }
  | .storeEnabled, _, m' => m' = { m with preferenceEnabled := true }
  | .allocate _ _ capabilities, address, m' =>
      Answers region capabilities address ∧ m' = m
  | .totalSize _, _, m' => m' = m
  | .extmemEnable _, _, m' => m' = m

/-- How an operation ends. -/
inductive Outcome
  | returned (address : Nat)
  | badAlloc
  | configured (done : Bool)
  deriving DecidableEq, Repr

abbrev Code := Program Action.Answer Outcome

/-! ## The operations -/

def clampToUint32 (value : Nat) : UInt32 :=
  if 4294967295 < value then 4294967295 else UInt32.ofNat value

/-- `fetch_add`, whose result nobody reads. -/
def fetchAdd (counter : Counter) (amount : UInt32) (next : Code) : Code :=
  .act (.fetchAdd counter amount) fun _ => next

def tryAllocateWithCaps (build : Build) (bytes alignment : Nat) (capabilities : List Capability)
    (next : Nat → Code) : Code :=
  .act (.allocate (if build.alignedHeap then some (if alignment < 4 then 4 else alignment)
    else none) bytes capabilities) next

def allocateWithCaps (build : Build) (bytes alignment : Nat) (capabilities : List Capability) :
    Code :=
  tryAllocateWithCaps build bytes alignment capabilities fun result =>
    if result = 0 then .ret .badAlloc else .ret (.returned result)

/-- The size an allocation is made with. -/
def effectiveBytes (bytes : Nat) : Nat := if bytes = 0 then 1 else bytes

/-- `Allocate`. -/
def allocate (build : Build) (bytes alignment : Nat) (policy : MemoryPolicy) : Code :=
  let bytes := effectiveBytes bytes
  let recordedBytes := clampToUint32 bytes
  match policy with
  | .internal =>
      fetchAdd .internalRequests 1 <|
      fetchAdd .internalBytes recordedBytes <|
      allocateWithCaps build bytes alignment [.internal, .bits8]
  | .externalRequired =>
      fetchAdd .externalRequiredRequests 1 <|
      fetchAdd .externalRequiredBytes recordedBytes <|
      allocateWithCaps build bytes alignment [.spiram, .bits8]
  | .externalPreferred =>
      fetchAdd .externalPreferredRequests 1 <|
      fetchAdd .externalPreferredBytes recordedBytes <|
      tryAllocateWithCaps build bytes alignment [.spiram, .bits8] fun result =>
        if result ≠ 0 then
          fetchAdd .externalPreferredExternalSuccesses 1 <|
          fetchAdd .externalPreferredExternalBytes recordedBytes <|
          .ret (.returned result)
        else
          fetchAdd .externalPreferredInternalFallbacks 1 <|
          fetchAdd .externalPreferredInternalFallbackBytes recordedBytes <|
          allocateWithCaps build bytes alignment [.internal, .bits8]
  | .automatic =>
      let ordinary := allocateWithCaps build bytes alignment [.bits8]
      let external :=
        tryAllocateWithCaps build bytes alignment [.spiram, .bits8] fun result =>
          if result ≠ 0 then
            fetchAdd .automaticExternalSuccesses 1 <|
            fetchAdd .automaticExternalBytes recordedBytes <|
            .ret (.returned result)
          else
            fetchAdd .automaticExternalFallbacks 1 <|
            fetchAdd .automaticExternalFallbackBytes recordedBytes <|
            ordinary
      fetchAdd .automaticRequests 1 <|
      fetchAdd .automaticBytes recordedBytes <|
      .act .loadEnabled fun (enabled : Bool) =>
        if enabled then
          .act .loadThreshold fun (threshold : UInt32) =>
            if threshold.toNat ≤ bytes then external else ordinary
        else ordinary

/-- `ConfigureAutomaticExternalPreference`. -/
def configureAutomaticExternalPreference (build : Build) (minimumBytes : Nat) : Code :=
  if build.spiramUseMalloc then
    .act (.totalSize [.spiram, .bits8]) fun (size : Nat) =>
      if size = 0 then .ret (.configured false)
      else
        .act (.extmemEnable minimumBytes) fun _ =>
        .act (.storeThreshold (clampToUint32 minimumBytes)) fun _ =>
        .act .storeEnabled fun _ =>
        .ret (.configured true)
  else .ret (.configured false)

inductive Request
  | allocate (bytes alignment : Nat) (policy : MemoryPolicy)
  | configure (minimumBytes : Nat)
  deriving DecidableEq, Repr

def code (build : Build) : Request → Code
  | .allocate bytes alignment policy => allocate build bytes alignment policy
  | .configure minimumBytes => configureAutomaticExternalPreference build minimumBytes

end MemoryProvider
