import Mathlib.Data.List.Basic
import Mathlib.Data.List.Count
import Mathlib.Data.List.Perm.Basic

/-!
# Loops that go on after an error

An operation is attempted for each key of a list.  An error does not end the loop: it is put on a
list with its key, and the next key is attempted.

* `calls` runs the operation once for each key and keeps every answer; `attemptEach` keeps the errors
  only.  The two do the same (`attemptEach_eq`).
* When the operation for a key looks at, and changes, nothing but a part of the state that belongs to
  this key (`Local`), then what becomes of this part is determined by the part itself and by how often
  the key is listed, and so are the errors of this key (`Local.attemptEach`).  So the order of the
  keys does not matter (`Local.attemptEach_perm`).
-/

set_option autoImplicit false

namespace Attempts

variable {κ σ τ ε : Type}

/-- The operation is called once for each key; the answers are listed with their keys. -/
def calls (f : κ → σ → Except ε Unit × σ) : List κ → σ → List (κ × Except ε Unit) × σ
  | [], s => ([], s)
  | k :: ks, s =>
    let (r, s) := f k s
    let (rs, s) := calls f ks s
    ((k, r) :: rs, s)

/-- The calls that failed, with their errors. -/
def failures (rs : List (κ × Except ε Unit)) : List (κ × ε) :=
  rs.filterMap fun
    | (k, .error e) => some (k, e)
    | (_, .ok ()) => none

/-- The operation is attempted for each key; the errors are listed with their keys. -/
def attemptEach (f : κ → σ → Except ε Unit × σ) : List κ → σ → List (κ × ε) × σ
  | [], s => ([], s)
  | k :: ks, s =>
    match f k s with
    | (.ok (), s) => attemptEach f ks s
    | (.error e, s) =>
      let (errs, s) := attemptEach f ks s
      ((k, e) :: errs, s)

section

variable {f : κ → σ → Except ε Unit × σ} {ks ks' : List κ} {k : κ} {s : σ}

theorem calls_cons : calls f (k :: ks) s =
    ((k, (f k s).1) :: (calls f ks (f k s).2).1, (calls f ks (f k s).2).2) := rfl

/-- Every key is attempted, in the order of the list. -/
theorem map_fst_calls : (calls f ks s).1.map Prod.fst = ks := by
  induction ks generalizing s with
  | nil => rfl
  | cons k ks ih => rw [calls_cons, List.map_cons, ih]

/-- The loop is the single calls one after the other. -/
theorem attemptEach_eq (f : κ → σ → Except ε Unit × σ) (ks : List κ) (s : σ) :
    attemptEach f ks s = (failures (calls f ks s).1, (calls f ks s).2) := by
  induction ks generalizing s with
  | nil => rfl
  | cons k ks ih =>
    rw [calls_cons, attemptEach]
    rcases hf : f k s with ⟨r | ⟨⟨⟩⟩, s'⟩ <;> simp only [ih] <;> rfl

theorem failures_eq_nil {rs : List (κ × Except ε Unit)} :
    failures rs = [] ↔ ∀ x ∈ rs, x.2 = .ok () := by
  rw [failures, List.filterMap_eq_nil_iff]
  refine forall₂_congr fun x _ ↦ ?_
  rcases x with ⟨k, e | ⟨⟨⟩⟩⟩ <;> simp

end

/-! ## Operations on separate parts of the state -/

/-- The operation for a key is `g` on the part of the state that belongs to the key. -/
structure Local (f : κ → σ → Except ε Unit × σ) (part : κ → σ → τ)
    (g : κ → τ → Except ε Unit × τ) : Prop where
  answer : ∀ k s, (f k s).1 = (g k (part k s)).1
  own : ∀ k s, part k (f k s).2 = (g k (part k s)).2
  other : ∀ k k' s, k' ≠ k → part k' (f k s).2 = part k' s

/-- So many attempts of one operation; the errors are listed. -/
def repeats (g : τ → Except ε Unit × τ) : ℕ → τ → List ε × τ
  | 0, t => ([], t)
  | n + 1, t =>
    match g t with
    | (.ok (), t) => repeats g n t
    | (.error e, t) =>
      let (errs, t) := repeats g n t
      (e :: errs, t)

section Local

variable [DecidableEq κ] {f : κ → σ → Except ε Unit × σ} {part : κ → σ → τ}
  {g : κ → τ → Except ε Unit × τ}

/-- **What happens to a key.**  The part that belongs to the key is changed as if the operation had
been attempted on it alone, as often as the key is listed, and these are the errors of the key. -/
theorem Local.attemptEach (hf : Local f part g) (ks : List κ) (k : κ) (s : σ) :
    part k (attemptEach f ks s).2 = (repeats (g k) (ks.count k) (part k s)).2 ∧
      (Attempts.attemptEach f ks s).1.filter (·.1 = k) =
        (repeats (g k) (ks.count k) (part k s)).1.map (k, ·) := by
  induction ks generalizing s with
  | nil => exact ⟨rfl, rfl⟩
  | cons k' ks ih =>
    obtain ⟨hpart, herrs⟩ := ih (f k' s).2
    by_cases hk : k' = k
    · subst hk
      have hanswer := hf.answer k' s
      have hown := hf.own k' s
      rw [List.count_cons_self, Attempts.attemptEach, repeats]
      rcases hg : g k' (part k' s) with ⟨r, t⟩
      rcases hfk : f k' s with ⟨r', s'⟩
      rw [hfk, hg] at hanswer hown
      rw [hfk] at hpart herrs
      obtain rfl : r' = r := hanswer
      obtain rfl : part k' s' = t := hown
      rcases r' with e | ⟨⟨⟩⟩
      · refine ⟨hpart, ?_⟩
        simp only [List.filter_cons, herrs, decide_true, if_true, List.map_cons]
      · exact ⟨hpart, herrs⟩
    · rw [hf.other k' k s (Ne.symm hk)] at hpart herrs
      rw [List.count_cons_of_ne hk, Attempts.attemptEach]
      rcases hfk : f k' s with ⟨e | ⟨⟨⟩⟩, s'⟩ <;> rw [hfk] at hpart herrs
      · refine ⟨hpart, ?_⟩
        simp only [List.filter_cons, decide_eq_true_eq, if_neg hk, herrs]
      · exact ⟨hpart, herrs⟩

/-- Lists that agree on the entries of each key are permutations of each other. -/
theorem perm_of_filter_fst_eq {l l' : List (κ × ε)}
    (h : ∀ k, l.filter (·.1 = k) = l'.filter (·.1 = k)) : l.Perm l' := by
  classical
  refine List.perm_iff_count.2 fun x ↦ ?_
  have hcount : ∀ l : List (κ × ε), (l.filter (·.1 = x.1)).count x = l.count x := fun l ↦
    List.count_filter (decide_eq_true rfl)
  rw [← hcount l, ← hcount l', h]

/-- **The order of the keys does not matter**, not even when a key is listed more than once. -/
theorem Local.attemptEach_perm (hf : Local f part g) {ks ks' : List κ} (h : ks'.Perm ks) (s : σ) :
    (∀ k, part k (Attempts.attemptEach f ks' s).2 = part k (Attempts.attemptEach f ks s).2) ∧
      (Attempts.attemptEach f ks' s).1.Perm (Attempts.attemptEach f ks s).1 := by
  refine ⟨fun k ↦ ?_, perm_of_filter_fst_eq fun k ↦ ?_⟩
  · rw [(hf.attemptEach ks' k s).1, (hf.attemptEach ks k s).1, h.count_eq]
  · rw [(hf.attemptEach ks' k s).2, (hf.attemptEach ks k s).2, h.count_eq]

end Local

end Attempts
