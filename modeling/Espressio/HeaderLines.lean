import Mathlib.Data.List.Basic

/-!
# Texts made of lines

A text protocol ends its lines with two elements standing one after the other,
and separates the name of a field from its value in the same way.  `cut` parts
a text at the first such pair, `segments` at every one.

The pair `c`, `d` is of different elements.  Then no new pair forms where a
text is put in front of one (`segments_append`), whatever the text holds, and a
text that does not hold `c` at all is one segment.
-/

namespace HeaderLines

variable {α : Type*} {c d : α}

/-- The texts each followed by the pair. -/
def joined (c d : α) (texts : List (List α)) : List α := texts.flatMap fun t => t ++ [c, d]

@[simp] theorem joined_nil : joined c d [] = [] := rfl

@[simp] theorem joined_cons (t : List α) (texts : List (List α)) :
    joined c d (t :: texts) = t ++ c :: d :: joined c d texts := by
  simp [joined]

variable [DecidableEq α]

/-- The text before and after the first place where `c` and `d` stand one
after the other. -/
def cut (c d : α) : List α → Option (List α × List α)
  | [] => none
  | [_] => none
  | x :: y :: rest =>
      if x = c ∧ y = d then some ([], rest)
      else (cut c d (y :: rest)).map fun parts => (x :: parts.1, parts.2)

/-- The texts between the places where `c` and `d` stand one after the other. -/
def segments (c d : α) : List α → List (List α)
  | [] => [[]]
  | [x] => [[x]]
  | x :: y :: rest =>
      if x = c ∧ y = d then [] :: segments c d rest
      else (segments c d (y :: rest)).modifyHead (x :: ·)

theorem segments_ne_nil (t : List α) : segments c d t ≠ [] := by
  induction t using segments.induct c d with
  | case1 => simp [segments]
  | case2 x => simp [segments]
  | case3 x y rest h ih => simp [segments, h]
  | case4 x y rest h ih => simpa [segments, h, List.modifyHead_eq_nil_iff] using ih

/-- What stands before a pair is parted by itself. -/
theorem segments_append (hne : c ≠ d) (t rest : List α) :
    segments c d (t ++ c :: d :: rest) = segments c d t ++ segments c d rest := by
  induction t using segments.induct c d with
  | case1 => simp [segments]
  | case2 x => simp [segments, hne]
  | case3 x y tail h ih => simp [segments, h, ih]
  | case4 x y tail h ih =>
      obtain ⟨first, others, hparts⟩ := List.exists_cons_of_ne_nil
        (segments_ne_nil (c := c) (d := d) (y :: tail))
      simp only [List.cons_append] at ih ⊢
      simp [segments, h, ih, hparts]

theorem segments_of_not_mem {t : List α} (h : c ∉ t) : segments c d t = [t] := by
  induction t using segments.induct c d with
  | case1 => rfl
  | case2 x => rfl
  | case3 x y rest hpair ih => exact absurd (by simp [hpair.1]) h
  | case4 x y rest hpair ih =>
      have hrest : c ∉ y :: rest := fun hmem => h (List.mem_cons_of_mem _ hmem)
      simp [segments, hpair, ih hrest]

/-- A text without `c` stands in front of the first segment. -/
theorem segments_prepend {t : List α} (h : c ∉ t) (rest : List α) :
    segments c d (t ++ rest) = (segments c d rest).modifyHead (t ++ ·) := by
  obtain ⟨first, others, hparts⟩ := List.exists_cons_of_ne_nil
    (segments_ne_nil (c := c) (d := d) rest)
  rw [hparts, List.modifyHead_cons]
  induction t with
  | nil => exact hparts
  | cons x t ih =>
      obtain ⟨hx, ht⟩ := not_or.mp (mt List.mem_cons.mpr h)
      cases hrest : t ++ rest with
      | nil =>
          obtain ⟨rfl, rfl⟩ := List.append_eq_nil_iff.mp hrest
          simp_all [segments]
      | cons y tail =>
          have hparted := ih ht
          rw [hrest] at hparted
          simp [segments, hrest, hparted, Ne.symm hx]

/-- A text is its segments, with the pair behind each but the last. -/
theorem eq_joined_of_segments {t last : List α} {texts : List (List α)}
    (h : segments c d t = texts ++ [last]) : t = joined c d texts ++ last := by
  induction t using segments.induct c d generalizing texts last with
  | case1 =>
      have hlen := congrArg List.length h
      have : texts = [] := by
        rw [← List.length_eq_zero_iff]
        simpa [segments] using hlen
      subst this
      simpa [segments] using h
  | case2 x =>
      have hlen := congrArg List.length h
      have : texts = [] := by
        rw [← List.length_eq_zero_iff]
        simpa [segments] using hlen
      subst this
      simpa [segments] using h
  | case3 x y rest hpair ih =>
      cases texts with
      | nil => simp [segments, hpair, segments_ne_nil] at h
      | cons first others =>
          simp only [segments, hpair, and_self, ↓reduceIte, List.cons_append,
            List.cons.injEq] at h
          rw [← h.1, hpair.1, hpair.2, ih h.2]
          simp
  | case4 x y rest hpair ih =>
      obtain ⟨head, tail, hparts⟩ := List.exists_cons_of_ne_nil
        (segments_ne_nil (c := c) (d := d) (y :: rest))
      rw [segments, if_neg hpair, hparts, List.modifyHead_cons] at h
      cases texts with
      | nil =>
          simp only [List.nil_append, List.cons.injEq] at h
          have hrest : y :: rest = joined c d [] ++ head := ih (by simp [hparts, h.2])
          rw [← h.1, hrest]
          rfl
      | cons first others =>
          simp only [List.cons_append, List.cons.injEq] at h
          have hrest : y :: rest = joined c d (head :: others) ++ last :=
            ih (by simp [hparts, h.2])
          rw [hrest, ← h.1]
          simp

/-- A text that holds no `c` is all that stands before the first pair. -/
theorem cut_append {t : List α} (h : c ∉ t) (rest : List α) :
    cut c d (t ++ c :: d :: rest) = some (t, rest) := by
  induction t with
  | nil => simp [cut]
  | cons x t ih =>
      obtain ⟨hx, ht⟩ := not_or.mp (mt List.mem_cons.mpr h)
      cases t with
      | nil => simp [cut, Ne.symm hx]
      | cons y t => simp_all [cut, eq_comm]

theorem eq_of_cut {t first rest : List α} (h : cut c d t = some (first, rest)) :
    t = first ++ c :: d :: rest := by
  induction t using cut.induct c d generalizing first with
  | case1 => simp [cut] at h
  | case2 x => simp [cut] at h
  | case3 x y tail hpair => simp_all [cut]
  | case4 x y tail hpair ih =>
      rw [cut, if_neg hpair, Option.map_eq_some_iff] at h
      obtain ⟨⟨before, after⟩, hcut, hparts⟩ := h
      cases hparts
      rw [ih hcut]
      rfl

/-- Every element of a list is read, and what each is read as. -/
theorem mapM_eq_some_iff {β γ : Type*} {f : β → Option γ} {texts : List β} {fields : List γ} :
    texts.mapM f = some fields ↔ texts.map f = fields.map some := by
  induction texts generalizing fields with
  | nil => cases fields <;> simp
  | cons t texts ih =>
      cases fields with
      | nil => simp [List.mapM_cons, Option.bind_eq_some_iff]
      | cons field fields => simp [List.mapM_cons, Option.bind_eq_some_iff, ih]

/-- Texts that are parted are their parts with the pair between them. -/
theorem eq_map_of_cut {texts : List (List α)} {fields : List (List α × List α)}
    (h : texts.map (cut c d) = fields.map some) :
    texts = fields.map fun field => field.1 ++ c :: d :: field.2 := by
  induction texts generalizing fields with
  | nil => cases fields <;> simp_all
  | cons t texts ih =>
      cases fields with
      | nil => simp at h
      | cons field fields =>
          simp only [List.map_cons, List.cons.injEq] at h
          rw [List.map_cons, ← ih h.2, ← eq_of_cut h.1]

omit [DecidableEq α] in
/-- Comparing two texts element by element after a map. -/
theorem zip_all_iff_map_eq {β : Type*} [DecidableEq β] (f : α → β) (left right : List α) :
    (left.length = right.length ∧ (left.zip right).all (fun p => f p.1 = f p.2) = true) ↔
      left.map f = right.map f := by
  induction left generalizing right with
  | nil => cases right <;> simp
  | cons x left ih =>
      cases right with
      | nil => simp
      | cons y right => simp [← ih, and_left_comm]

end HeaderLines
