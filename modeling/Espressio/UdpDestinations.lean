import Espressio.OrderedSets
import Espressio.UdpTransport

/-!
# The destinations of a transport over datagrams

`UDPEventTransport` keeps its destinations in the first entries of an array and
counts them.  To its callers they are an ordered set with limited room, and a
`Send` is one datagram to each of them.

`Registry` is that view, and has no array.  It gives the answers of all calls
as well.  The array gives the same ones: `refines_add` and `refines_remove` say
so of the loops over it, `answer_send` of the loop that sends, and
`answerStep_refines` of every operation.
-/

namespace Sockets

open NetworkBytes LockTraces Runs OrderedSets

variable {ι : Type*}

/-- A datagram that goes out whole. -/
def DatagramNatives.succeeds (n : DatagramNatives) (data : Bytes) : Bool :=
  n.begun && n.written == data.length && n.ended

/-- What a caller learns: whether the endpoint is or was a destination, and of
a `Send` whether it succeeded and whom it tried to send to. -/
inductive Answer (ι : Type*)
  | added (accepted : Bool)
  | removed (found : Bool)
  | sent (success : Bool) (attempted : List ι)
  deriving DecidableEq, Repr

/-! ## The destinations as a set -/

/-- What the transport is to its callers. -/
structure Registry (valid : ι → Bool) (capacity : Nat) where
  initialized : Bool
  destinations : OrderedSet valid capacity

namespace Registry

variable {valid : ι → Bool} {capacity : Nat}

def fresh : Registry valid capacity := ⟨false, .empty⟩

/-- A `Send` that is not refused goes to every destination, and succeeds if
there is one and no datagram fails. -/
def send (maximumPacketSize : Nat) (a : Registry valid capacity) (packet : Option Bytes)
    (natives : Nat → DatagramNatives) : Answer ι :=
  match a.initialized, sendable maximumPacketSize packet with
  | true, some data =>
      let count := a.destinations.elements.length
      .sent (decide (0 < count ∧ ∀ i < count, (natives i).succeeds data = true))
        a.destinations.elements
  | _, _ => .sent false []

def step [DecidableEq ι] (maximumPacketSize : Nat) (a : Registry valid capacity) :
    UdpTransport.Op ι → Registry valid capacity × List (Answer ι)
  | .initializeTransport port begun started | .initializeMulticast port begun started =>
      ({ a with initialized := a.initialized || (port ≠ 0 && begun && started) }, [])
  | .shutdown => (if a.initialized then fresh else a, [])
  | .addDestination endpoint =>
      let added := a.destinations.add endpoint
      ({ a with destinations := added.1 }, [.added added.2])
  | .removeDestination endpoint =>
      let removed := a.destinations.remove endpoint
      ({ a with destinations := removed.1 }, [.removed removed.2])
  | .clearDestinations => ({ a with destinations := .empty }, [])
  | .send packet natives => (a, [a.send maximumPacketSize packet natives])
  | .iterate _ | .dispatch | .setReceiver _ => (a, [])

end Registry

namespace UdpTransport

/-! ## The answers of the transport -/

/-- The destinations a datagram was begun for. -/
def attempted (es : List (UdpEvent ι)) : List ι :=
  es.filterMap fun
    | .beginPacket endpoint => some endpoint
    | _ => none

def answers [DecidableEq ι] (maximumPacketSize : Nat) (valid : ι → Bool) (s : UdpTransport ι) :
    Op ι → List (Answer ι)
  | .addDestination endpoint => [.added (s.addDestination valid endpoint).2.1]
  | .removeDestination endpoint => [.removed (s.removeDestination endpoint).2.1]
  | .send packet natives =>
      let sent := s.send maximumPacketSize packet natives
      [.sent sent.1 (attempted (events sent.2))]
  | _ => []

def answerStep [DecidableEq ι] (maximumPacketSize : Nat) (valid : ι → Bool) (s : UdpTransport ι)
    (op : Op ι) : UdpTransport ι × List (Answer ι) :=
  ((step maximumPacketSize valid s op).1, answers maximumPacketSize valid s op)

/-! ## The array holds the set -/

variable {valid : ι → Bool} {capacity : Nat}

/-- The array begins with the elements, counts them, and has its size. -/
structure Refines (s : UdpTransport ι) (a : Registry valid capacity) : Prop where
  initialized : s.initialized = a.initialized
  array : ∃ unused, s.destinations = a.destinations.elements ++ unused
  count : s.destinationCount = a.destinations.elements.length
  size : s.destinations.length = capacity

variable {s : UdpTransport ι} {a : Registry valid capacity}

theorem Refines.inUse (h : Refines s a) : s.inUse = a.destinations.elements := by
  obtain ⟨unused, harray⟩ := h.array
  rw [UdpTransport.inUse, harray, h.count, List.take_left]

theorem refines_fresh (capacity : Nat) (unset : ι) :
    Refines (fresh capacity unset) (Registry.fresh : Registry valid capacity) :=
  ⟨rfl, ⟨_, rfl⟩, rfl, List.length_replicate⟩

/-- Only the array, its count and the flag matter. -/
theorem Refines.congr {t : UdpTransport ι} (h : Refines s a) {initialized : Bool}
    (hinitialized : t.initialized = initialized) (harray : t.destinations = s.destinations)
    (hcount : t.destinationCount = s.destinationCount) :
    Refines t { a with initialized := initialized } :=
  ⟨hinitialized, by rw [harray]; exact h.array, by rw [hcount]; exact h.count,
    by rw [harray]; exact h.size⟩

theorem Refines.same {t : UdpTransport ι} (h : Refines s a)
    (hinitialized : t.initialized = s.initialized) (harray : t.destinations = s.destinations)
    (hcount : t.destinationCount = s.destinationCount) : Refines t a :=
  h.congr (hinitialized.trans h.initialized) harray hcount

theorem refines_initialize (h : Refines s a) (port : UInt16) (begun started : Bool) :
    Refines (s.initializeTransport port begun started).1
      { a with initialized := a.initialized || (port ≠ 0 && begun && started) } := by
  unfold initializeTransport
  cases hinitialized : s.initialized with
  | true => exact h.congr (by simp [← h.initialized, hinitialized]) rfl rfl
  | false =>
      have hfresh : a.initialized = false := h.initialized.symm.trans hinitialized
      by_cases hport : port = 0
      · exact h.congr (by simp [hfresh, hinitialized, hport]) (by simp [hport]) (by simp [hport])
      · cases begun <;> cases started <;>
          exact h.congr (by simp [hfresh, hinitialized, hport]) (by simp [hport])
            (by simp [hport])

theorem refines_shutdown (h : Refines s a) :
    Refines s.shutdown.1 (if a.initialized then Registry.fresh else a) := by
  unfold shutdown
  rw [h.initialized]
  cases hinitialized : a.initialized with
  | true => exact ⟨rfl, ⟨_, rfl⟩, rfl, h.size⟩
  | false => exact h

theorem refines_iterate (h : Refines s a) (maximumPacketSize : Nat) (n : UdpNatives) :
    Refines (s.iterate maximumPacketSize n).1 a := by
  unfold iterate
  split_ifs <;> exact h.same rfl rfl rfl

theorem refines_dispatch (h : Refines s a) : Refines s.dispatch.1 a := by
  unfold dispatch
  split <;> exact h.same rfl rfl rfl

/-- The entry after the last one in use. -/
theorem set_append (elements : List ι) (entry : ι) {unused : List ι} (h : unused ≠ []) :
    (elements ++ unused).set elements.length entry = elements ++ [entry] ++ unused.tail := by
  cases unused with
  | nil => exact absurd rfl h
  | cons old rest => simp

/-- **The shift.**  What follows a removed entry moves one place down, and the
last place keeps an entry that is no longer in use. -/
theorem moveDown_append (before after unused : List ι) (removed : ι) :
    ∃ stale, moveDown (before ++ removed :: (after ++ unused)) (before.length + 1) after.length =
      before ++ after ++ stale :: unused := by
  induction after generalizing before removed with
  | nil => exact ⟨removed, by simp [moveDown]⟩
  | cons next after ih =>
      obtain ⟨stale, hmoved⟩ := ih (before ++ [next]) next
      refine ⟨stale, ?_⟩
      have hnext : (before ++ removed :: (next :: after ++ unused))[before.length + 1]? =
          some next := by simp
      have hset : (before ++ removed :: (next :: after ++ unused)).set before.length next =
          before ++ [next] ++ next :: (after ++ unused) := by simp
      rw [List.length_cons, moveDown, hnext]
      simp only [Nat.add_sub_cancel, hset]
      rw [List.length_append, List.length_singleton] at hmoved
      rw [hmoved]
      simp

/-! ## Sending -/

theorem sendDatagram_spec (endpoint : ι) (data : Bytes) (n : DatagramNatives) :
    (sendDatagram endpoint data n).1 = n.succeeds data ∧
      attempted (sendDatagram endpoint data n).2 = [endpoint] := by
  unfold sendDatagram DatagramNatives.succeeds
  cases n.begun with
  | false => exact ⟨rfl, rfl⟩
  | true =>
      by_cases hwritten : n.written = data.length
      · simp [hwritten, attempted]
      · simp [hwritten, attempted]

/-- **The loop** goes on past a failure: it begins one datagram for each
destination, and succeeds if all of them do. -/
theorem sendAll_attempts (data : Bytes) (natives : Nat → DatagramNatives) (index : Nat)
    (elements : List ι) :
    attempted (sendAll data natives index elements).2 = elements ∧
      ((sendAll data natives index elements).1 = true ↔
        ∀ i < elements.length, (natives (index + i)).succeeds data = true) := by
  induction elements generalizing index with
  | nil => simp [sendAll, attempted]
  | cons endpoint rest ih =>
      obtain ⟨hsuccess, hone⟩ := sendDatagram_spec endpoint data (natives index)
      obtain ⟨hothers, hall⟩ := ih (index + 1)
      constructor
      · rw [sendAll, attempted, List.filterMap_append]
        exact congrArg₂ (· ++ ·) hone hothers
      · rw [sendAll, Bool.and_eq_true, hsuccess, hall]
        constructor
        · rintro ⟨hfirst, hrest⟩ i hi
          cases i with
          | zero => exact hfirst
          | succ i =>
              rw [Nat.add_comm i 1, ← Nat.add_assoc]
              exact hrest i (Nat.lt_of_succ_lt_succ hi)
        · intro h
          refine ⟨h 0 (Nat.succ_pos _), fun i hi => ?_⟩
          rw [Nat.add_assoc, Nat.add_comm 1 i]
          exact h (i + 1) (Nat.succ_lt_succ hi)

theorem answer_send (h : Refines s a) (maximumPacketSize : Nat) (packet : Option Bytes)
    (natives : Nat → DatagramNatives) :
    let sent := s.send maximumPacketSize packet natives
    Answer.sent sent.1 (attempted (events sent.2)) =
      a.send maximumPacketSize packet natives := by
  dsimp only
  unfold UdpTransport.send Registry.send
  rw [h.initialized]
  cases a.initialized with
  | false => rfl
  | true =>
      cases sendable maximumPacketSize packet with
      | none => rfl
      | some data =>
          obtain ⟨hattempted, hsuccess⟩ :=
            sendAll_attempts data natives 0 a.destinations.elements
          by_cases hnone : s.destinationCount = 0
          · have hempty : a.destinations.elements = [] :=
              List.eq_nil_of_length_eq_zero (h.count.symm.trans hnone)
            simp [hnone, hempty, attempted]
          · have hsome : 0 < a.destinations.elements.length := by
              rw [← h.count]
              exact Nat.pos_of_ne_zero hnone
            simp only [hnone, if_false, h.inUse, events_append, events_guarded, events_nil,
              events_map_event, List.nil_append, hattempted]
            congr 1
            rw [Bool.eq_iff_iff, hsuccess, decide_eq_true_iff]
            simp [hsome]

/-! ## Changing the destinations -/

variable [DecidableEq ι]

theorem refines_add (h : Refines s a) (endpoint : ι) :
    (s.addDestination valid endpoint).2.1 = (a.destinations.add endpoint).2 ∧
      Refines (s.addDestination valid endpoint).1
        { a with destinations := (a.destinations.add endpoint).1 } := by
  unfold addDestination
  rw [h.inUse]
  by_cases hvalid : valid endpoint = true
  · rw [if_neg (by simp [hvalid])]
    by_cases hpresent : endpoint ∈ a.destinations.elements
    · rw [if_pos hpresent, OrderedSet.add_present _ hpresent]
      exact ⟨rfl, h⟩
    · rw [if_neg hpresent, h.size, h.count]
      by_cases hroom : a.destinations.elements.length < capacity
      · obtain ⟨unused, harray⟩ := h.array
        have hunused : unused ≠ [] := by
          rintro rfl
          have hsize := h.size
          rw [harray, List.append_nil] at hsize
          omega
        rw [if_neg (Nat.not_le.mpr hroom), OrderedSet.add_new _ hvalid hpresent hroom]
        refine ⟨rfl, h.initialized, ⟨unused.tail, ?_⟩, ?_, ?_⟩
        · rw [harray, set_append _ _ hunused]
          rfl
        · show a.destinations.elements.length + 1 = (a.destinations.elements ++ [endpoint]).length
          rw [List.length_append, List.length_singleton]
        · rw [List.length_set, h.size]
      · rw [if_pos (Nat.not_lt.mp hroom), OrderedSet.add_full _ hpresent (Nat.not_lt.mp hroom)]
        exact ⟨rfl, h⟩
  · rw [if_pos (by simp [hvalid]), OrderedSet.add_invalid _ (by simpa using hvalid)]
    exact ⟨rfl, h⟩

/-- The index the loop of `RemoveDestination` finds splits the list. -/
theorem split_of_findIdx {elements : List ι} {endpoint : ι} {i : Nat}
    (h : elements.findIdx? (· = endpoint) = some i) :
    ∃ before after, elements = before ++ endpoint :: after ∧ before.length = i := by
  obtain ⟨hlt, hfound, -⟩ := List.findIdx?_eq_some_iff_getElem.mp h
  refine ⟨elements.take i, elements.drop (i + 1), ?_, by rw [List.length_take]; omega⟩
  rw [← of_decide_eq_true hfound, ← List.drop_eq_getElem_cons hlt, List.take_append_drop]

theorem refines_remove (h : Refines s a) (endpoint : ι) :
    (s.removeDestination endpoint).2.1 = (a.destinations.remove endpoint).2 ∧
      Refines (s.removeDestination endpoint).1
        { a with destinations := (a.destinations.remove endpoint).1 } := by
  unfold removeDestination
  rw [h.inUse]
  cases hfound : a.destinations.elements.findIdx? (· = endpoint) with
  | none =>
      have habsent : endpoint ∉ a.destinations.elements := fun hmem => by
        simpa using List.findIdx?_eq_none_iff.mp hfound endpoint hmem
      rw [OrderedSet.remove_absent _ habsent]
      exact ⟨rfl, h⟩
  | some i =>
      dsimp only
      obtain ⟨before, after, hsplit, rfl⟩ := split_of_findIdx hfound
      obtain ⟨unused, harray⟩ := h.array
      obtain ⟨hleft, hremoved⟩ := OrderedSet.elements_remove _ hsplit
      have hcount : s.destinationCount = before.length + (after.length + 1) := by
        rw [h.count, hsplit, List.length_append, List.length_cons]
      obtain ⟨stale, hmoved⟩ := moveDown_append before after unused endpoint
      have harray' : moveDown s.destinations (before.length + 1)
          (s.destinationCount - (before.length + 1)) = before ++ after ++ stale :: unused := by
        rw [← hmoved, harray, hsplit, List.append_assoc, List.cons_append, hcount,
          show before.length + (after.length + 1) - (before.length + 1) = after.length by omega]
      refine ⟨hremoved.symm, h.initialized, ⟨stale :: unused, ?_⟩, ?_, ?_⟩
      · rw [harray', hleft]
      · show s.destinationCount - 1 = (a.destinations.remove endpoint).1.elements.length
        rw [hcount, hleft, List.length_append]
        omega
      · have hsize := h.size
        rw [harray, hsplit] at hsize
        rw [harray']
        simp only [List.length_append, List.length_cons] at hsize ⊢
        omega

/-! ## Runs -/

/-- **One operation** gives the answers of the set, and the array holds the set
after it. -/
theorem answerStep_refines (maximumPacketSize : Nat) (h : Refines s a) (op : Op ι) :
    (answerStep maximumPacketSize valid s op).2 = (a.step maximumPacketSize op).2 ∧
      Refines (answerStep maximumPacketSize valid s op).1 (a.step maximumPacketSize op).1 := by
  cases op with
  | initializeTransport port begun started => exact ⟨rfl, refines_initialize h port begun started⟩
  | initializeMulticast port joined started => exact ⟨rfl, refines_initialize h port joined started⟩
  | shutdown => exact ⟨rfl, refines_shutdown h⟩
  | iterate natives => exact ⟨rfl, refines_iterate h maximumPacketSize natives⟩
  | dispatch => exact ⟨rfl, refines_dispatch h⟩
  | addDestination endpoint =>
      obtain ⟨hanswer, hrefines⟩ := refines_add h endpoint
      exact ⟨congrArg (fun b => [Answer.added b]) hanswer, hrefines⟩
  | removeDestination endpoint =>
      obtain ⟨hanswer, hrefines⟩ := refines_remove h endpoint
      exact ⟨congrArg (fun b => [Answer.removed b]) hanswer, hrefines⟩
  | clearDestinations =>
      exact ⟨rfl, h.initialized, ⟨_, rfl⟩, rfl, h.size⟩
  | send packet natives =>
      exact ⟨congrArg (fun answer => [answer]) (answer_send h maximumPacketSize packet natives), h⟩
  | setReceiver receiver => exact ⟨rfl, h.same rfl rfl rfl⟩

/-- **The destinations** over any operations on a transport as it is
constructed.  The answers of all calls are those of the ordered set, and the
array's first entries, as many as are counted, are its elements. -/
theorem destinations_refine (capacity : Nat) (unset : ι) (valid : ι → Bool)
    (maximumPacketSize : Nat) (ops : List (Op ι)) :
    let run := feed (answerStep maximumPacketSize valid) (fresh capacity unset) ops
    let set := feed (Registry.step maximumPacketSize)
      (Registry.fresh : Registry valid capacity) ops
    run.2 = set.2 ∧ run.1.destinations.length = capacity ∧
      run.1.destinationCount = set.1.destinations.elements.length ∧
      run.1.destinations.take run.1.destinationCount = set.1.destinations.elements := by
  intro run set
  have hstep : ∀ (s : UdpTransport ι) (a : Registry valid capacity) op, Refines s a →
      (answerStep maximumPacketSize valid s op).2 = (a.step maximumPacketSize op).2 ∧
        Refines (answerStep maximumPacketSize valid s op).1 (a.step maximumPacketSize op).1 :=
    fun _ _ op h => answerStep_refines maximumPacketSize h op
  have hstart : Refines (fresh capacity unset) (Registry.fresh : Registry valid capacity) :=
    refines_fresh capacity unset
  obtain ⟨hanswers, hrefines⟩ := feed_simulation hstep hstart ops
  exact ⟨hanswers, hrefines.size, hrefines.count, hrefines.inUse⟩

/-- Destinations are accepted before `Initialize`, and nothing is sent to them. -/
theorem uninitialized_send_attempts_none : ¬ ∀ (capacity unset : Nat) (valid : Nat → Bool)
    (maximumPacketSize : Nat) (ops : List (Op Nat)) (data : Bytes)
    (natives : Nat → DatagramNatives),
    let s := (feed (answerStep maximumPacketSize valid) (fresh capacity unset) ops).1
    let sent := s.send maximumPacketSize (some data) natives
    attempted (events sent.2) = s.inUse ∧
      (sent.1 = true ↔
        s.inUse ≠ [] ∧ ∀ i < s.inUse.length, (natives i).succeeds data = true) := by
  intro h
  have hattempted := (h 4 0 (fun _ => true) 512 [.addDestination 7] [1] fun _ => ⟨true, 1, true⟩).1
  revert hattempted
  decide

end UdpTransport
end Sockets
