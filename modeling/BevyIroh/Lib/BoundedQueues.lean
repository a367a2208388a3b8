import Mathlib.Data.List.Basic
import Mathlib.Logic.Function.Basic

/-!
# An array of bounded queues

For each key there is a first-in first-out queue with a capacity of its own, or there is none:
`limit : κ → Option ℕ`.  A value offered under a key is put at the end of the queue of this key, or
refused, because the queue is full or because there is no such queue.

The queues are independent by construction, as an operation looks at and changes the queue of one key.
For a whole list of offers this is a theorem (`offerAll_at`): what becomes of the queue of a key is
determined by this queue and the values offered under the key, and so are the refusals
(`refusals_at`).  No queue is ever longer than its limit (`Bounded`).
-/

set_option autoImplicit false

namespace BoundedQueues

variable {κ α : Type} [DecidableEq κ]

/-- Why a value is refused. -/
inductive Refusal where
  | full
  | noQueue
deriving DecidableEq, Repr

/-! ## Operations -/

/-- A value is offered under a key. -/
def offer (limit : κ → Option ℕ) (q : κ → List α) (x : κ × α) : Option Refusal × (κ → List α) :=
  match limit x.1 with
  | none => (some .noQueue, q)
  | some n =>
    if (q x.1).length < n then (none, Function.update q x.1 (q x.1 ++ [x.2]))
    else (some .full, q)

/-- Values are offered one after the other; the refusals are listed with their keys. -/
def offerAll (limit : κ → Option ℕ) : (κ → List α) → List (κ × α) →
    List (κ × Refusal) × (κ → List α)
  | q, [] => ([], q)
  | q, x :: xs =>
    let (refusal, q) := offer limit q x
    let (refusals, q) := offerAll limit q xs
    ((refusal.map (x.1, ·)).toList ++ refusals, q)

/-- The first value of the queue of a key is taken. -/
def take (q : κ → List α) (k : κ) : Option α × (κ → List α) :=
  ((q k).head?, Function.update q k (q k).tail)

/-- No queue is longer than its limit, and there is nothing where there is no queue. -/
def Bounded (limit : κ → Option ℕ) (q : κ → List α) : Prop :=
  ∀ k, (q k).length ≤ (limit k).getD 0

/-! ## What they do to the queue of one key -/

/-- How many more values the queue of a key can take. -/
def room (limit : κ → Option ℕ) (q : κ → List α) (k : κ) : ℕ := (limit k).getD 0 - (q k).length

/-- Why the queue of a key takes no more values. -/
def reason (limit : κ → Option ℕ) (k : κ) : Refusal := (limit k).elim .noQueue fun _ ↦ .full

/-- The values offered under a key. -/
def offeredTo (k : κ) (xs : List (κ × α)) : List α := (xs.filter (·.1 = k)).map Prod.snd

variable {limit : κ → Option ℕ} {q : κ → List α} {k : κ} {x : κ × α} {xs : List (κ × α)}

theorem offer_of_room (h : 0 < room limit q x.1) :
    offer limit q x = (none, Function.update q x.1 (q x.1 ++ [x.2])) := by
  rw [room] at h
  rw [offer]
  split <;> rename_i hlimit <;> rw [hlimit] at h
  · simp at h
  · exact if_pos (Nat.lt_of_sub_pos h)

theorem offer_of_no_room (h : room limit q x.1 = 0) :
    offer limit q x = (some (reason limit x.1), q) := by
  rw [room] at h
  rw [offer, reason]
  split <;> rename_i hlimit <;> rw [hlimit] at h ⊢
  · rfl
  · exact if_neg (Nat.not_lt.2 (Nat.le_of_sub_eq_zero h))

/-- An offer leaves the queues of all other keys alone. -/
theorem offer_at_of_ne (h : k ≠ x.1) : (offer limit q x).2 k = q k := by
  rcases Nat.eq_zero_or_pos (room limit q x.1) with hroom | hroom
  · rw [offer_of_no_room hroom]
  · rw [offer_of_room hroom]
    exact Function.update_of_ne h _ _

theorem room_of_ne (h : k ≠ x.1) : room limit (offer limit q x).2 k = room limit q k := by
  rw [room, offer_at_of_ne h, room]

theorem room_update (a : α) :
    room limit (Function.update q k (q k ++ [a])) k = room limit q k - 1 := by
  rw [room, Function.update_self, List.length_append, List.length_singleton, room]
  omega

@[simp] theorem offeredTo_nil : offeredTo k ([] : List (κ × α)) = [] := rfl

theorem offeredTo_cons_self (a : α) : offeredTo k ((k, a) :: xs) = a :: offeredTo k xs := by
  simp [offeredTo]

theorem offeredTo_cons_of_ne (h : k ≠ x.1) : offeredTo k (x :: xs) = offeredTo k xs := by
  simp [offeredTo, Ne.symm h]

theorem offerAll_cons : offerAll limit q (x :: xs) =
    (((offer limit q x).1.map (x.1, ·)).toList ++ (offerAll limit (offer limit q x).2 xs).1,
      (offerAll limit (offer limit q x).2 xs).2) := rfl

/-- **The queue of a key takes what is offered under this key, as long as it has room.**  Nothing else
matters. -/
theorem offerAll_at (limit : κ → Option ℕ) (q : κ → List α) (xs : List (κ × α)) (k : κ) :
    (offerAll limit q xs).2 k = q k ++ (offeredTo k xs).take (room limit q k) := by
  induction xs generalizing q with
  | nil => simp [offerAll]
  | cons x xs ih =>
    rw [offerAll_cons, ih]
    by_cases hx : k = x.1
    · obtain ⟨k', a⟩ := x
      obtain rfl : k = k' := hx
      rw [offeredTo_cons_self]
      rcases Nat.eq_zero_or_pos (room limit q k) with hroom | hroom
      · rw [offer_of_no_room hroom, hroom, List.take_zero, List.take_zero]
      · obtain ⟨n, hn⟩ := Nat.exists_eq_add_of_lt hroom
        rw [offer_of_room hroom, room_update, hn, Nat.zero_add, Nat.add_sub_cancel,
          List.take_succ_cons]
        simp only [Function.update_self, List.append_assoc, List.singleton_append]
    · rw [offer_at_of_ne hx, room_of_ne hx, offeredTo_cons_of_ne hx]

/-- **The refusals of a key are those of the values its queue has no room for.** -/
theorem refusals_at (limit : κ → Option ℕ) (q : κ → List α) (xs : List (κ × α)) (k : κ) :
    (offerAll limit q xs).1.filter (·.1 = k) =
      List.replicate ((offeredTo k xs).length - room limit q k) (k, reason limit k) := by
  induction xs generalizing q with
  | nil => simp [offerAll]
  | cons x xs ih =>
    rw [offerAll_cons, List.filter_append, ih]
    by_cases hx : k = x.1
    · obtain ⟨k', a⟩ := x
      obtain rfl : k = k' := hx
      rw [offeredTo_cons_self, List.length_cons]
      rcases Nat.eq_zero_or_pos (room limit q k) with hroom | hroom
      · rw [offer_of_no_room hroom, hroom, Nat.sub_zero, Nat.sub_zero, List.replicate_succ]
        simp
      · rw [offer_of_room hroom, room_update]
        have hsame : (offeredTo k xs).length - (room limit q k - 1) =
            (offeredTo k xs).length + 1 - room limit q k := by omega
        rw [hsame]
        rfl
    · rw [room_of_ne hx, offeredTo_cons_of_ne hx]
      have hnone : ((offer limit q x).1.map (x.1, ·)).toList.filter (·.1 = k) = [] := by
        cases (offer limit q x).1 <;> simp [Ne.symm hx]
      rw [hnone, List.nil_append]

/-- Where nothing fits, everything is refused. -/
theorem length_refusals (h : ∀ k, (limit k).getD 0 = 0) (q : κ → List α) (xs : List (κ × α)) :
    (offerAll limit q xs).1.length = xs.length := by
  induction xs generalizing q with
  | nil => rfl
  | cons x xs ih =>
    have hroom : room limit q x.1 = 0 := by rw [room, h, Nat.zero_sub]
    rw [offerAll_cons, List.length_append, ih, offer_of_no_room hroom, List.length_cons, Nat.add_comm]
    rfl

/-! ## The limits are kept -/

theorem Bounded.offerAll (h : Bounded limit q) (xs : List (κ × α)) :
    Bounded limit (BoundedQueues.offerAll limit q xs).2 := by
  intro k
  have hk := h k
  rw [offerAll_at, List.length_append, List.length_take, room]
  omega

theorem Bounded.take (h : Bounded limit q) (k : κ) : Bounded limit (BoundedQueues.take q k).2 := by
  intro j
  by_cases hj : j = k
  · subst hj
    simp only [BoundedQueues.take, Function.update_self, List.length_tail]
    exact Nat.le_trans (Nat.sub_le _ _) (h j)
  · simp only [BoundedQueues.take, Function.update_of_ne hj]
    exact h j

omit [DecidableEq κ] in
theorem bounded_nil (limit : κ → Option ℕ) : Bounded limit fun _ ↦ ([] : List α) :=
  fun _ ↦ Nat.zero_le _

end BoundedQueues
