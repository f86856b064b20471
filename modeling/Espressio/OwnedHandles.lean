import Mathlib.Logic.Function.Basic

/-!
# Handles and their owners

A kernel holds resources under handles, each in some state.  Objects own them:
`owned` gives the handle and the state an object takes it to be in.  The kernel
`Holds` what is owned if it has these handles and no others, in these states,
and no two objects own the same.

What an object gains, changes or gives up, the kernel does in the same step.
-/

namespace OwnedHandles

variable {ι η σ : Type*} {k : η → Option σ} {owned : ι → Option (η × σ)} {id : ι} {handle : η}
  {state : σ}

structure Holds (k : η → Option σ) (owned : ι → Option (η × σ)) : Prop where
  held : ∀ handle state, k handle = some state ↔ ∃ id, owned id = some (handle, state)
  apart : ∀ id other handle state state', owned id = some (handle, state) →
    owned other = some (handle, state') → id = other

theorem holds_none : Holds (fun _ : η => (none : Option σ)) (fun _ : ι => none) :=
  ⟨fun _ _ => by simp, fun _ _ _ _ _ h => by cases h⟩

/-- What is free is owned by nobody. -/
theorem Holds.unowned (h : Holds k owned) (hfree : k handle = none) (other : ι) (state : σ) :
    owned other ≠ some (handle, state) := by
  intro howned
  rw [(h.held handle state).mpr ⟨other, howned⟩] at hfree
  cases hfree

/-- What an object owns is held. -/
theorem Holds.held_of (h : Holds k owned) (hid : owned id = some (handle, state)) :
    k handle = some state := (h.held handle state).mpr ⟨id, hid⟩

/-- What nobody owns is free. -/
theorem Holds.free (h : Holds k owned) (hnone : ∀ id state, owned id ≠ some (handle, state)) :
    k handle = none := by
  cases hk : k handle with
  | none => rfl
  | some state =>
      obtain ⟨id, howned⟩ := (h.held handle state).mp hk
      exact absurd howned (hnone id state)

variable [DecidableEq ι] [DecidableEq η]

/-- An object becomes the owner of a handle that was free. -/
theorem Holds.gain (h : Holds k owned) (hfree : k handle = none) (hid : owned id = none)
    (state : σ) :
    Holds (Function.update k handle (some state))
      (Function.update owned id (some (handle, state))) := by
  have hcases : ∀ other x st, Function.update owned id (some (handle, state)) other = some (x, st) ↔
      (other = id ∧ x = handle ∧ st = state) ∨ (other ≠ id ∧ owned other = some (x, st)) := by
    intro other x st
    by_cases heq : other = id
    · subst heq
      simp [eq_comm]
    · simp [heq]
  refine ⟨fun x st => ?_, fun i j x st st' hi hj => ?_⟩
  · simp only [hcases]
    by_cases hx : x = handle
    · subst hx
      rw [Function.update_self]
      constructor
      · intro hst
        exact ⟨id, Or.inl ⟨rfl, rfl, (Option.some.inj hst).symm⟩⟩
      · rintro ⟨other, ⟨-, -, rfl⟩ | ⟨-, howned⟩⟩
        · rfl
        · exact absurd howned (h.unowned hfree other st)
    · rw [Function.update_of_ne hx, h.held]
      constructor
      · rintro ⟨other, howned⟩
        refine ⟨other, Or.inr ⟨?_, howned⟩⟩
        rintro rfl
        rw [hid] at howned
        cases howned
      · rintro ⟨other, ⟨-, hx', -⟩ | ⟨-, howned⟩⟩
        · exact absurd hx' hx
        · exact ⟨other, howned⟩
  · rcases (hcases i x st).mp hi with ⟨hinew, hx, -⟩ | ⟨-, hiold⟩
    · rcases (hcases j x st').mp hj with ⟨hjnew, -, -⟩ | ⟨-, hjold⟩
      · exact hinew.trans hjnew.symm
      · exact absurd (hx ▸ hjold) (h.unowned hfree j st')
    · rcases (hcases j x st').mp hj with ⟨-, hx, -⟩ | ⟨-, hjold⟩
      · exact absurd (hx ▸ hiold) (h.unowned hfree i st)
      · exact h.apart i j x st st' hiold hjold

/-- An owner gives its handle up. -/
theorem Holds.lose (h : Holds k owned) (hid : owned id = some (handle, state)) :
    Holds (Function.update k handle none) (Function.update owned id none) := by
  have hcases : ∀ other x st, Function.update owned id none other = some (x, st) ↔
      other ≠ id ∧ owned other = some (x, st) := by
    intro other x st
    by_cases heq : other = id
    · subst heq
      simp
    · simp [heq]
  refine ⟨fun x st => ?_, fun i j x st st' hi hj =>
    h.apart i j x st st' ((hcases i x st).mp hi).2 ((hcases j x st').mp hj).2⟩
  simp only [hcases]
  by_cases hx : x = handle
  · subst hx
    rw [Function.update_self]
    refine iff_of_false (fun hnone => by cases hnone) ?_
    rintro ⟨other, hne, howned⟩
    exact hne (h.apart other id x st state howned hid)
  · rw [Function.update_of_ne hx, h.held]
    constructor
    · rintro ⟨other, howned⟩
      refine ⟨other, ?_, howned⟩
      rintro rfl
      rw [hid] at howned
      exact hx (congrArg Prod.fst (Option.some.inj howned)).symm
    · rintro ⟨other, -, howned⟩
      exact ⟨other, howned⟩

/-- A handle that is owned changes its state. -/
theorem Holds.change (h : Holds k owned) (hid : owned id = some (handle, state)) (state' : σ) :
    Holds (Function.update k handle (some state'))
      (Function.update owned id (some (handle, state'))) := by
  have hgain := (h.lose hid).gain (Function.update_self ..) (Function.update_self ..) state'
  rwa [Function.update_idem, Function.update_idem] at hgain

end OwnedHandles
