import Mathlib.Data.List.Basic

/-!
# Transition systems and their runs

A system is a relation `step s a s'`: in state `s` the action `a` can be taken and leads to `s'`.
Who takes the action (a caller, a task, the scheduler, the network) is for the client to say; a
run is any sequence of actions, so a statement about all runs is a statement about all schedules.

Two kinds of statements are supported.

* `Reachable step C s₀` is what can be reached from `s₀` by steps that meet `C`, a condition on the
  state before the step and the action.  Its recursor is the invariant rule; `Reachable.invariant`
  and `Reachable.mono` are the two forms it is used in, and `Reachable.simulates` carries what is
  known of an abstract system over to the one at hand.
* `Run step s tr` is a run with all its intermediate states.  `Run.always_iff` is for a property
  that each step keeps *exactly* when it meets `C`: then the property holds all along a run exactly
  when every step of the run meets `C`; `Run.always_iff_of_invariant` is the same with an invariant
  behind the property.  `Run.absorbing_iff` is for a property that is never left again.
-/

set_option autoImplicit false

namespace Transition

variable {S A : Type*}

/-- The states reached from `s₀` by steps that meet `C`. -/
inductive Reachable (step : S → A → S → Prop) (C : S → A → Prop) (s₀ : S) : S → Prop
  | start : Reachable step C s₀ s₀
  | next {s s' : S} {a : A} (hr : Reachable step C s₀ s) (hc : C s a) (hs : step s a s') :
      Reachable step C s₀ s'

/-- **The invariant rule.** -/
theorem Reachable.invariant {step : S → A → S → Prop} {C : S → A → Prop} {s₀ s : S}
    (h : Reachable step C s₀ s) {P : S → Prop} (h₀ : P s₀)
    (hstep : ∀ {s a s'}, P s → C s a → step s a s' → P s') : P s := by
  induction h with
  | start => exact h₀
  | next _ hc hs ih => exact hstep ih hc hs

theorem Reachable.trans {step : S → A → S → Prop} {C : S → A → Prop} {s₀ s₁ s : S}
    (h₁ : Reachable step C s₀ s₁) (h : Reachable step C s₁ s) : Reachable step C s₀ s :=
  h.invariant h₁ fun hr hc hs ↦ hr.next hc hs

theorem Reachable.mono {step : S → A → S → Prop} {C C' : S → A → Prop} {s₀ s : S}
    (h : Reachable step C s₀ s) (hC : ∀ {s a}, C s a → C' s a) : Reachable step C' s₀ s := by
  induction h with
  | start => exact .start
  | next _ hc hs ih => exact .next ih (hC hc) hs

/-- **The simulation rule.**  Each step of the first system is none or one of the second, as far as `f`
can see. -/
theorem Reachable.simulates {T B : Type*} {step : S → A → S → Prop} {C : S → A → Prop} {s₀ s : S}
    (h : Reachable step C s₀ s) {step' : T → B → T → Prop} {C' : T → B → Prop} {I : S → Prop}
    (f : S → T) (h₀ : I s₀) (hinv : ∀ {s a s'}, I s → C s a → step s a s' → I s')
    (hsim : ∀ {s a s'}, I s → C s a → step s a s' →
      f s' = f s ∨ ∃ b, C' (f s) b ∧ step' (f s) b (f s')) :
    Reachable step' C' (f s₀) (f s) := by
  have hboth := h.invariant (P := fun s ↦ I s ∧ Reachable step' C' (f s₀) (f s)) ⟨h₀, .start⟩
    fun hs hc hstep ↦ ⟨hinv hs.1 hc hstep, ?_⟩
  · exact hboth.2
  · rcases hsim hs.1 hc hstep with heq | ⟨b, hb, hstep'⟩
    · exact heq ▸ hs.2
    · exact hs.2.next hb hstep'

/-! ## Runs -/

/-- A run from `s`: the actions taken, each with the state it led to. -/
inductive Run (step : S → A → S → Prop) : S → List (A × S) → Prop
  | nil (s : S) : Run step s []
  | cons {s s' : S} {a : A} {tr : List (A × S)} (hs : step s a s') (ht : Run step s' tr) :
      Run step s ((a, s') :: tr)

/-- The state a run ends in. -/
def last (s : S) : List (A × S) → S
  | [] => s
  | x :: tr => last x.2 tr

/-- `P` holds in every state of the run. -/
def Always (P : S → Prop) (s : S) (tr : List (A × S)) : Prop := P s ∧ ∀ x ∈ tr, P x.2

/-- Every step of the run meets `C`. -/
def EachStep (C : S → A → Prop) : S → List (A × S) → Prop
  | _, [] => True
  | s, x :: tr => C s x.1 ∧ EachStep C x.2 tr

@[simp] theorem always_nil {P : S → Prop} {s : S} : Always (A := A) P s [] ↔ P s := by
  simp [Always]

theorem always_cons {P : S → Prop} {s : S} {x : A × S} {tr : List (A × S)} :
    Always P s (x :: tr) ↔ P s ∧ Always P x.2 tr := by
  simp [Always]

/-- **An invariant `I` that the steps meeting `C` keep, and a property `P` of it that the others break.**
Then `P` holds all along a run exactly when every step of the run meets `C`. -/
theorem Run.always_iff_of_invariant {step : S → A → S → Prop} {C : S → A → Prop} {I P : S → Prop}
    {s : S} {tr : List (A × S)} (h : Run step s tr) (h₀ : I s) (hP : ∀ {s}, I s → P s)
    (hkeep : ∀ {s a s'}, I s → C s a → step s a s' → I s')
    (hbreak : ∀ {s a s'}, I s → step s a s' → P s' → C s a) :
    Always P s tr ↔ EachStep C s tr := by
  induction h with
  | nil => exact ⟨fun _ ↦ trivial, fun _ ↦ always_nil.2 (hP h₀)⟩
  | cons hs _ ih =>
    rw [always_cons, EachStep]
    constructor
    · rintro ⟨-, hal⟩
      have hc := hbreak h₀ hs hal.1
      exact ⟨hc, (ih (hkeep h₀ hc hs)).1 hal⟩
    · rintro ⟨hc, hes⟩
      exact ⟨hP h₀, (ih (hkeep h₀ hc hs)).2 hes⟩

/-- **A property kept exactly by the steps that meet `C`** holds all along a run exactly when
every step of the run meets `C`. -/
theorem Run.always_iff {step : S → A → S → Prop} {C : S → A → Prop} {P : S → Prop} {s : S}
    {tr : List (A × S)} (h : Run step s tr) (h₀ : P s)
    (hstep : ∀ {s a s'}, P s → step s a s' → (P s' ↔ C s a)) :
    Always P s tr ↔ EachStep C s tr :=
  h.always_iff_of_invariant h₀ (fun hs ↦ hs) (fun hs hc hstep' ↦ (hstep hs hstep').2 hc)
    fun hs hstep' ↦ (hstep hs hstep').1

/-- What each step preserves holds all along a run. -/
theorem Run.always {step : S → A → S → Prop} {P : S → Prop} {s : S} {tr : List (A × S)}
    (h : Run step s tr) (h₀ : P s) (hstep : ∀ {s a s'}, P s → step s a s' → P s') :
    Always P s tr := by
  induction h with
  | nil => exact always_nil.2 h₀
  | cons hs _ ih => exact always_cons.2 ⟨h₀, ih (hstep h₀ hs)⟩

/-- A run of steps that are, with an invariant `I`, steps of another system. -/
theorem Run.mono_of_invariant {step step' : S → A → S → Prop} {I : S → Prop} {s : S}
    {tr : List (A × S)} (h : Run step s tr) (h₀ : I s)
    (hstep : ∀ {s a s'}, I s → step s a s' → step' s a s' ∧ I s') : Run step' s tr := by
  induction h with
  | nil s => exact .nil s
  | cons hs _ ih => exact .cons (hstep h₀ hs).1 (ih (hstep h₀ hs).2)

theorem Run.mono {step step' : S → A → S → Prop} {s : S} {tr : List (A × S)} (h : Run step s tr)
    (hstep : ∀ {s a s'}, step s a s' → step' s a s') : Run step' s tr :=
  h.mono_of_invariant (I := fun _ ↦ True) trivial fun _ hs ↦ ⟨hstep hs, trivial⟩

/-- **A run of one system is a run of another** exactly when every step of it meets `C`, if with an
invariant `I` those steps are steps of the other system as well, and the others are not. -/
theorem Run.refines_iff {step step' : S → A → S → Prop} {C : S → A → Prop} {I : S → Prop} {s : S}
    {tr : List (A × S)} (h : Run step s tr) (h₀ : I s)
    (hkeep : ∀ {s a s'}, I s → C s a → step s a s' → step' s a s' ∧ I s')
    (hbreak : ∀ {s a s'}, I s → step s a s' → step' s a s' → C s a) :
    Run step' s tr ↔ EachStep C s tr := by
  induction h with
  | nil s => exact ⟨fun _ ↦ trivial, fun _ ↦ .nil s⟩
  | cons hs _ ih =>
    rw [EachStep]
    constructor
    · rintro (_ | ⟨hs', ht'⟩)
      have hc := hbreak h₀ hs hs'
      exact ⟨hc, (ih (hkeep h₀ hc hs).2).1 ht'⟩
    · rintro ⟨hc, hes⟩
      obtain ⟨hs', hi⟩ := hkeep h₀ hc hs
      exact .cons hs' ((ih hi).2 hes)

/-- What a step between two states that have `P` meets, every step of a run meets that has `P` all
along. -/
theorem Run.eachStep_of_always {step : S → A → S → Prop} {C : S → A → Prop} {P : S → Prop} {s : S}
    {tr : List (A × S)} (h : Run step s tr) (hal : Always P s tr)
    (hC : ∀ {s a s'}, P s → P s' → step s a s' → C s a) : EachStep C s tr := by
  induction h with
  | nil => trivial
  | cons hs _ ih =>
    rw [always_cons] at hal
    exact ⟨hC hal.1 hal.2.1 hs, ih hal.2⟩

/-- `P` is not left, once entered, except by an action that `resets`: on every stretch `tr₂` of
the run that starts in `P` and has no resetting action, `P` holds at the end. -/
def Absorbing (P : S → Prop) (resets : A → Prop) (s : S) (tr : List (A × S)) : Prop :=
  ∀ tr₁ tr₂ tr₃, tr = tr₁ ++ tr₂ ++ tr₃ → P (last s tr₁) → (∀ x ∈ tr₂, ¬ resets x.1) →
    P (last s (tr₁ ++ tr₂))

section Absorbing

variable {step : S → A → S → Prop} {C : S → A → Prop} {P : S → Prop} {resets : A → Prop}

/-- The steps that matter to `Absorbing`: those taken inside `P` and not meant to leave it. -/
def Guarded (C : S → A → Prop) (P : S → Prop) (resets : A → Prop) (s : S) (a : A) : Prop :=
  P s → ¬ resets a → C s a

/-- From inside `P`, steps that meet `C` stay inside. -/
theorem Run.stays {s : S} {tr₂ tr₃ : List (A × S)} (h : Run step s (tr₂ ++ tr₃))
    (hstep : ∀ {s a s'}, P s → ¬ resets a → step s a s' → C s a → P s')
    (hC : EachStep (Guarded C P resets) s (tr₂ ++ tr₃)) (hP : P s)
    (hr : ∀ x ∈ tr₂, ¬ resets x.1) : P (last s tr₂) := by
  induction tr₂ generalizing s with
  | nil => exact hP
  | cons x tr₂ ih =>
    rw [List.cons_append] at h hC
    cases h with
    | cons hs ht =>
      rw [List.forall_mem_cons] at hr
      exact ih ht hC.2 (hstep hP hr.1 hs (hC.1 hP hr.1)) hr.2

/-- **A property that a step leaves exactly when it does not meet `C`** is absorbing along a run
exactly when every step taken inside it, and not meant to leave it, meets `C`. -/
theorem Run.absorbing_iff {s : S} {tr : List (A × S)} (h : Run step s tr)
    (hstep : ∀ {s a s'}, P s → ¬ resets a → step s a s' → (P s' ↔ C s a)) :
    Absorbing P resets s tr ↔ EachStep (Guarded C P resets) s tr := by
  induction h with
  | nil s =>
    refine ⟨fun _ ↦ trivial, fun _ tr₁ tr₂ tr₃ htr hP _ ↦ ?_⟩
    obtain ⟨rfl, rfl, -⟩ : tr₁ = [] ∧ tr₂ = [] ∧ tr₃ = [] := by simpa using htr.symm
    exact hP
  | @cons s s' a tr hs ht ih =>
    rw [EachStep, ← ih]
    constructor
    · intro hab
      refine ⟨fun hP hr ↦ (hstep hP hr hs).1 ?_, fun tr₁ tr₂ tr₃ htr ↦ ?_⟩
      · exact hab [] [(a, s')] tr rfl hP (by simpa using hr)
      · exact hab ((a, s') :: tr₁) tr₂ tr₃ (by rw [htr]; rfl)
    · rintro ⟨hc, hab⟩ tr₁ tr₂ tr₃ htr hP hr
      cases tr₁ with
      | nil =>
        refine (htr ▸ Run.cons hs ht).stays (fun hP hr hs ↦ (hstep hP hr hs).2) ?_ hP hr
        exact htr ▸ ⟨hc, ih.1 hab⟩
      | cons x tr₁ =>
        obtain ⟨rfl, rfl⟩ : (a, s') = x ∧ tr = tr₁ ++ tr₂ ++ tr₃ := by simpa using htr
        exact hab tr₁ tr₂ tr₃ rfl hP hr

end Absorbing

end Transition
