import Mathlib.Logic.Function.Basic
import Mathlib.Order.Basic

/-!
# Names from a counter

Whoever gives out names in increasing order gives none of them twice, and need not remember who has
which: it is enough to know the last one.  Names may be passed over; the order is all that counts.
-/

set_option autoImplicit false

/-! ## Giving something to somebody -/

section Update

variable {ι α : Type*} [DecidableEq ι] {holds : ι → Option α} {i j : ι} {a : α} {given : Option α}

/-- Who has something keeps it when something is given to somebody who has nothing. -/
theorem update_eq_some_of_none (hi : holds i = none) (hj : holds j = some a) :
    Function.update holds i given j = some a := by
  rw [Function.update_of_ne]
  · exact hj
  · rintro rfl
    cases hi.symm.trans hj

/-- Who has something was given it, or had it already. -/
theorem update_eq_some (h : Function.update holds i given j = some a) :
    j = i ∧ given = some a ∨ holds j = some a := by
  rw [Function.update_apply] at h
  split_ifs at h with hji
  · exact .inl ⟨hji, h⟩
  · exact .inr h

end Update

/-! ## Giving names in order -/

variable {ι α : Type*} [Preorder α] {holds : ι → Option α} {last last' a : α}

/-- The names given out so far are at most `last`, and no two have the same one. -/
structure Issued (holds : ι → Option α) (last : α) : Prop where
  le_last : ∀ {i a}, holds i = some a → a ≤ last
  injective : ∀ {i j a}, holds i = some a → holds j = some a → i = j

namespace Issued

theorem none (last : α) : Issued (fun _ : ι ↦ Option.none) last := ⟨nofun, nofun⟩

/-- Names are passed over. -/
theorem skip (h : Issued holds last) (hle : last ≤ last') : Issued holds last' :=
  ⟨fun ha ↦ (h.le_last ha).trans hle, h.injective⟩

/-- A name beyond the last one is new. -/
theorem issue [DecidableEq ι] (h : Issued holds last) (i : ι) (hlt : last < a) :
    Issued (Function.update holds i (some a)) a := by
  have hnew : ∀ j, holds j ≠ some a := fun j hj ↦ (h.le_last hj).not_gt hlt
  refine ⟨fun {j b} hj ↦ ?_, fun {j k b} hj hk ↦ ?_⟩
  · rcases update_eq_some hj with ⟨-, hb⟩ | hj
    · exact (Option.some.inj hb).ge
    · exact (h.le_last hj).trans hlt.le
  · rcases update_eq_some hj with ⟨hji, hb⟩ | hj <;> rcases update_eq_some hk with ⟨hki, hb'⟩ | hk
    · exact hji.trans hki.symm
    · exact absurd (hk.trans hb.symm) (hnew k)
    · exact absurd (hj.trans hb'.symm) (hnew j)
    · exact h.injective hj hk

end Issued
