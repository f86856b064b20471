import Mathlib.Data.List.Nodup

/-!
# Ordered sets with limited room

A set whose elements stand in the order they were added in.  Elements have to
be valid, and there is room for so many of them.  All of this is part of the
type, so whatever is a set here is in order.

Both operations answer whether the element is in the set, or was in it.
-/

namespace OrderedSets

/-- Different valid elements, no more than there is room for. -/
structure OrderedSet {α : Type*} (valid : α → Bool) (capacity : Nat) where
  elements : List α
  distinct : elements.Nodup
  allValid : ∀ x ∈ elements, valid x = true
  fits : elements.length ≤ capacity

namespace OrderedSet

variable {α : Type*} {valid : α → Bool} {capacity : Nat}

def empty : OrderedSet valid capacity := ⟨[], List.nodup_nil, by simp, Nat.zero_le _⟩

/-- A valid element with room for it, at the end. -/
def append (s : OrderedSet valid capacity) (x : α) (hvalid : valid x = true)
    (hnew : x ∉ s.elements) (hroom : s.elements.length < capacity) : OrderedSet valid capacity where
  elements := s.elements ++ [x]
  distinct := by
    rw [← List.concat_eq_append]
    exact (List.nodup_concat _ _).mpr ⟨hnew, s.distinct⟩
  allValid := by
    intro y hy
    rcases List.mem_append.mp hy with hold | hlast
    · exact s.allValid y hold
    · rw [List.mem_singleton.mp hlast]
      exact hvalid
  fits := by
    rw [List.length_append]
    exact hroom

variable [DecidableEq α]

/-- Add an element: nothing is done if it is there, and it is refused if it is
not valid or there is no room. -/
def add (s : OrderedSet valid capacity) (x : α) : OrderedSet valid capacity × Bool :=
  if x ∈ s.elements then (s, true)
  else if h : valid x = true ∧ x ∉ s.elements ∧ s.elements.length < capacity then
    (s.append x h.1 h.2.1 h.2.2, true)
  else (s, false)

/-- Remove an element.  The others keep their order. -/
def remove (s : OrderedSet valid capacity) (x : α) : OrderedSet valid capacity × Bool where
  fst :=
    { elements := s.elements.filter (· ≠ x)
      distinct := s.distinct.filter _
      allValid := fun y hy => s.allValid y (List.mem_of_mem_filter hy)
      fits := Nat.le_trans (List.length_filter_le _ _) s.fits }
  snd := decide (x ∈ s.elements)

variable (s : OrderedSet valid capacity) {x : α}

theorem add_invalid (h : valid x = false) : s.add x = (s, false) := by
  have hnew : x ∉ s.elements := fun hmem => by simp [s.allValid x hmem] at h
  rw [add, if_neg hnew, dif_neg (by simp [h])]

theorem add_present (h : x ∈ s.elements) : s.add x = (s, true) := if_pos h

theorem add_full (hnew : x ∉ s.elements) (h : capacity ≤ s.elements.length) :
    s.add x = (s, false) := by
  rw [add, if_neg hnew, dif_neg fun hroom => Nat.not_le.mpr hroom.2.2 h]

theorem add_new (hvalid : valid x = true) (hnew : x ∉ s.elements)
    (hroom : s.elements.length < capacity) : s.add x = (s.append x hvalid hnew hroom, true) := by
  rw [add, if_neg hnew, dif_pos ⟨hvalid, hnew, hroom⟩]

/-- What was not in the set cannot be removed. -/
theorem remove_absent (h : x ∉ s.elements) : s.remove x = (s, false) := by
  have hall : s.elements.filter (· ≠ x) = s.elements := by
    exact List.filter_eq_self.mpr fun y hy => decide_eq_true (ne_of_mem_of_not_mem hy h)
  simp only [remove, hall, h, decide_false]

/-- What is left of a set that is split around the removed element. -/
theorem elements_remove {before after : List α} (h : s.elements = before ++ x :: after) :
    (s.remove x).1.elements = before ++ after ∧ (s.remove x).2 = true := by
  have hdistinct := s.distinct
  rw [h, List.nodup_middle, List.nodup_cons] at hdistinct
  have hothers : ∀ y ∈ before ++ after, decide (y ≠ x) = true := fun y hy =>
    decide_eq_true (ne_of_mem_of_not_mem hy hdistinct.1)
  have hbefore : before.filter (· ≠ x) = before :=
    List.filter_eq_self.mpr fun y hy => hothers y (List.mem_append_left _ hy)
  have hafter : after.filter (· ≠ x) = after :=
    List.filter_eq_self.mpr fun y hy => hothers y (List.mem_append_right _ hy)
  constructor
  · show s.elements.filter (· ≠ x) = before ++ after
    rw [h, List.filter_append, hbefore, List.filter_cons_of_neg (by simp), hafter]
  · exact decide_eq_true (h ▸ List.mem_append_right before List.mem_cons_self)

end OrderedSet
end OrderedSets
