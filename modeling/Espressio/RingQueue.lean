import Mathlib.Data.List.Basic

/-!
# Ring queues with one spare slot

A queue in `depth` slots that are used in turn.  `read` is the slot of its
front and `write` the slot its next element goes to; a queue of `depth - 1`
elements is full, so that `read = write` means empty.

The slots that are not in use may hold anything.  `Represents` only says what
is in those in use, through a relation `holds` between a slot and the element
it stands for.  Writing to the slot at `write` keeps it (`Represents.update`),
step by step if need be, until `Represents.publish` makes the slot a part of
the queue.
-/

namespace RingQueue

variable {α β : Type*} {depth : Nat} {holds : α → β → Prop} {slots : Nat → α}
  {read write : Nat} {queue : List β}

def next (depth index : Nat) : Nat := (index + 1) % depth

structure Represents (depth : Nat) (holds : α → β → Prop) (slots : Nat → α)
    (read write : Nat) (queue : List β) : Prop where
  read_lt : read < depth
  room : queue.length < depth
  write_eq : write = (read + queue.length) % depth
  stored : ∀ i x, queue[i]? = some x → holds (slots ((read + i) % depth)) x

/-- Two offsets less than a turn apart are the same slot only if equal. -/
theorem slot_inj {i j : Nat} (hread : read < depth) (hi : i < depth) (hj : j < depth)
    (h : (read + i) % depth = (read + j) % depth) : i = j := by
  have hslot : ∀ k, k < depth →
      (read + k) % depth = if read + k < depth then read + k else read + k - depth := by
    intro k hk
    split
    · exact Nat.mod_eq_of_lt ‹_›
    · rw [Nat.mod_eq_sub_mod (by omega), Nat.mod_eq_of_lt (by omega)]
  rw [hslot i hi, hslot j hj] at h
  split at h <;> split at h <;> omega

theorem next_slot (i : Nat) : next depth ((read + i) % depth) = (read + (i + 1)) % depth := by
  rw [next, Nat.mod_add_mod, Nat.add_assoc]

theorem Represents.write_lt (h : Represents depth holds slots read write queue) :
    write < depth := by
  rw [h.write_eq]
  exact Nat.mod_lt _ (Nat.zero_lt_of_lt h.read_lt)

/-- The empty queue, at any slot. -/
theorem represents_empty (hread : read < depth) : Represents depth holds slots read read [] :=
  ⟨hread, Nat.zero_lt_of_lt hread, by simp [Nat.mod_eq_of_lt hread], by simp⟩

/-- The empty queue, at slot zero. -/
theorem represents_nil (hdepth : 0 < depth) : Represents depth holds slots 0 0 [] :=
  represents_empty hdepth

/-- The slot to write to is not in use. -/
theorem Represents.unused (h : Represents depth holds slots read write queue) {i : Nat}
    (hi : i < queue.length) : (read + i) % depth ≠ write := by
  intro heq
  rw [h.write_eq] at heq
  have := slot_inj h.read_lt (by have := h.room; omega) h.room heq
  omega

theorem Represents.empty_iff (h : Represents depth holds slots read write queue) :
    read = write ↔ queue = [] := by
  constructor
  · intro heq
    by_contra hne
    have hpos : 0 < queue.length := List.length_pos_of_ne_nil hne
    have := h.unused hpos
    rw [Nat.add_zero, Nat.mod_eq_of_lt h.read_lt] at this
    exact this heq
  · rintro rfl
    rw [h.write_eq, List.length_nil, Nat.add_zero, Nat.mod_eq_of_lt h.read_lt]

theorem Represents.full_iff (h : Represents depth holds slots read write queue) :
    next depth write = read ↔ queue.length + 1 = depth := by
  rw [h.write_eq, next_slot]
  constructor
  · intro heq
    by_contra hne
    have hzero : (read + (queue.length + 1)) % depth = (read + 0) % depth := by
      rw [heq, Nat.add_zero, Nat.mod_eq_of_lt h.read_lt]
    have := slot_inj h.read_lt (by have := h.room; omega) (by have := h.room; omega) hzero
    omega
  · intro hfull
    rw [hfull, Nat.add_mod_right, Nat.mod_eq_of_lt h.read_lt]

/-- What is written to the unused slot changes nothing. -/
theorem Represents.update (h : Represents depth holds slots read write queue)
    {slots' : Nat → α} (hslots : ∀ j, j ≠ write → slots' j = slots j) :
    Represents depth holds slots' read write queue := by
  refine ⟨h.read_lt, h.room, h.write_eq, ?_⟩
  intro i x hx
  obtain ⟨hi, -⟩ := List.getElem?_eq_some_iff.mp hx
  rw [hslots _ (h.unused hi)]
  exact h.stored i x hx

/-- The slot just written becomes the queue's last element. -/
theorem Represents.publish (h : Represents depth holds slots read write queue) {x : β}
    (hx : holds (slots write) x) (hroom : queue.length + 1 < depth) :
    Represents depth holds slots read (next depth write) (queue ++ [x]) := by
  refine ⟨h.read_lt, by simpa using hroom, ?_, ?_⟩
  · rw [h.write_eq, next_slot, List.length_append, List.length_singleton]
  · intro i y hy
    by_cases hi : i < queue.length
    · rw [List.getElem?_append_left hi] at hy
      exact h.stored i y hy
    · have hlast : i = queue.length ∧ x = y := by
        obtain ⟨hlt, hget⟩ := List.getElem?_eq_some_iff.mp hy
        have hlen : i = queue.length := by
          simp only [List.length_append, List.length_singleton] at hlt
          omega
        subst hlen
        exact ⟨rfl, by simpa using hget⟩
      obtain ⟨rfl, rfl⟩ := hlast
      rw [← h.write_eq]
      exact hx

/-- The front of the queue is in the slot at `read`. -/
theorem Represents.front {x : β} {rest : List β}
    (h : Represents depth holds slots read write (x :: rest)) : holds (slots read) x := by
  have := h.stored 0 x rfl
  rwa [Nat.add_zero, Nat.mod_eq_of_lt h.read_lt] at this

/-- The front's slot is given back. -/
theorem Represents.release {x : β} {rest : List β}
    (h : Represents depth holds slots read write (x :: rest)) :
    Represents depth holds slots (next depth read) write rest := by
  have hroom := h.room
  have hadd : ∀ i, (next depth read + i) % depth = (read + (i + 1)) % depth := by
    intro i
    rw [next, Nat.mod_add_mod, Nat.add_assoc, Nat.add_comm 1 i]
  rw [List.length_cons] at hroom
  refine ⟨Nat.mod_lt _ (by omega), by omega, ?_, ?_⟩
  · rw [hadd, h.write_eq, List.length_cons]
  · intro i y hy
    rw [hadd]
    exact h.stored (i + 1) y (by simpa using hy)

/-- The first `k` elements are given up. -/
theorem Represents.skip (h : Represents depth holds slots read write queue) {k : Nat}
    (hk : k ≤ queue.length) :
    Represents depth holds slots ((read + k) % depth) write (queue.drop k) := by
  induction k with
  | zero => simpa [Nat.mod_eq_of_lt h.read_lt] using h
  | succ k ih =>
      have hlt : k < queue.length := by omega
      have hprevious := ih (by omega)
      rw [List.drop_eq_getElem_cons hlt] at hprevious
      rw [← next_slot]
      exact hprevious.release

end RingQueue
