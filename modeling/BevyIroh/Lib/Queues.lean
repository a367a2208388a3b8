import Mathlib.Data.List.Basic

/-!
# Queues between tasks

Two kinds of queue that asynchronous programs hand values over with.

* `Mpsc` is a bounded first-in first-out queue with many senders and one receiver.  A send that
  does not wait fails when the queue is full or the receiver is gone; the receiver sees the end of
  the queue when it is empty and no sender is left.  The values already received are kept, so that
  `Mpsc.sent`, everything that was ever accepted, is a component of the state and not a matter of
  history.
* `Broadcast` hands each value to every receiver there is.  It is the log of the values sent; a
  receiver is a `Cursor` into the log, the position of the next value it will see.  A receiver made
  by `resubscribe` starts at the end of the log, so it sees only what is sent after it was made.
-/

set_option autoImplicit false

variable {α : Type}

/-! ## Bounded queues -/

/-- A bounded queue, with what is known about its two ends. -/
structure Mpsc (α : Type) where
  /-- How many values can wait. -/
  capacity : ℕ
  /-- The values received so far, oldest first. -/
  received : List α := []
  /-- The values waiting, oldest first. -/
  queued : List α := []
  /-- Some sender is left. -/
  sender : Bool := true
  /-- The receiver is left. -/
  receiver : Bool := true
deriving DecidableEq, Repr

/-- Why a send that does not wait failed. -/
inductive TrySendError where
  | full
  | closed
deriving DecidableEq, Repr

namespace Mpsc

/-- Everything that was ever accepted, oldest first. -/
def sent (q : Mpsc α) : List α := q.received ++ q.queued

/-- The queue with one more value at its end. -/
def push (q : Mpsc α) (a : α) : Mpsc α := { q with queued := q.queued ++ [a] }

/-- `Sender::try_send`. -/
def trySend (q : Mpsc α) (a : α) : Except TrySendError (Mpsc α) :=
  if !q.receiver then .error .closed
  else if q.capacity ≤ q.queued.length then .error .full
  else .ok (q.push a)

/-- `Sender::blocking_send`: it waits for room, so it fails only when the receiver is gone. -/
def blockingSend (q : Mpsc α) (a : α) : Except Unit (Mpsc α) :=
  if q.receiver then .ok (q.push a) else .error ()

/-- The next value, if one is waiting: `Receiver::try_recv`, or `Receiver::recv` when it does not
have to wait. -/
def recv (q : Mpsc α) : Option (α × Mpsc α) :=
  match q.queued with
  | [] => none
  | a :: rest => some (a, { q with received := q.received ++ [a], queued := rest })

/-- `Receiver::recv` answers `None`: nothing is waiting and no sender is left. -/
def finished (q : Mpsc α) : Bool := q.queued.isEmpty && !q.sender

/-- The last sender is dropped. -/
def dropSender (q : Mpsc α) : Mpsc α := { q with sender := false }

/-- The receiver is dropped. -/
def dropReceiver (q : Mpsc α) : Mpsc α := { q with receiver := false }

@[simp] theorem sent_push (q : Mpsc α) (a : α) : (q.push a).sent = q.sent ++ [a] := by
  simp [sent, push]

@[simp] theorem sent_dropSender (q : Mpsc α) : q.dropSender.sent = q.sent := rfl

/-- There is room and a receiver, so that a send need not wait and does not fail. -/
def Ready (q : Mpsc α) : Prop := q.receiver = true ∧ q.queued.length < q.capacity

instance (q : Mpsc α) : Decidable q.Ready := inferInstanceAs (Decidable (_ ∧ _))

theorem trySend_of_ready {q : Mpsc α} (h : q.Ready) (a : α) : q.trySend a = .ok (q.push a) := by
  rw [trySend, if_neg (by simp [h.1]), if_neg (Nat.not_le.2 h.2)]

theorem trySend_of_not_ready {q : Mpsc α} (h : ¬ q.Ready) (a : α) :
    ∃ e, q.trySend a = .error e := by
  rw [trySend]
  split_ifs with hr hc
  · exact ⟨_, rfl⟩
  · exact ⟨_, rfl⟩
  · exact absurd ⟨by simpa using hr, Nat.lt_of_not_le hc⟩ h

theorem recv_eq_some {q q' : Mpsc α} {a : α} :
    q.recv = some (a, q') ↔ ∃ rest, q.queued = a :: rest ∧
      q' = { q with received := q.received ++ [a], queued := rest } := by
  rw [recv]
  cases q.queued with
  | nil => simp
  | cons b rest =>
    constructor
    · rintro ⟨⟩
      exact ⟨rest, rfl, rfl⟩
    · rintro ⟨rest', ⟨⟩, rfl⟩
      rfl

/-- Receiving does not change what was accepted. -/
theorem sent_of_recv {q q' : Mpsc α} {a : α} (h : q.recv = some (a, q')) : q'.sent = q.sent := by
  obtain ⟨rest, hq, rfl⟩ := recv_eq_some.1 h
  simp [sent, hq]

theorem mem_queued_of_recv {q q' : Mpsc α} {a : α} (h : q.recv = some (a, q')) : a ∈ q.queued := by
  obtain ⟨rest, hq, -⟩ := recv_eq_some.1 h
  exact hq ▸ List.mem_cons_self

theorem sender_of_recv {q q' : Mpsc α} {a : α} (h : q.recv = some (a, q')) :
    q'.sender = q.sender := by
  obtain ⟨rest, -, rfl⟩ := recv_eq_some.1 h
  rfl

theorem received_of_recv {q q' : Mpsc α} {a : α} (h : q.recv = some (a, q')) :
    q'.received = q.received ++ [a] := by
  obtain ⟨rest, -, rfl⟩ := recv_eq_some.1 h
  rfl

end Mpsc

/-! ## Broadcast -/

/-- A broadcast channel: the log of the values sent. -/
structure Broadcast (α : Type) where
  /-- How far behind the end of the log a receiver may fall. -/
  capacity : ℕ
  /-- The values sent, oldest first. -/
  log : List α := []
  /-- Some sender is left. -/
  sender : Bool := true
deriving DecidableEq, Repr

/-- A receiver of a broadcast channel: the position in the log of the next value it sees. -/
abbrev Cursor := ℕ

/-- What `Receiver::recv` of a broadcast channel answers when it does not have to wait. -/
inductive BroadcastRecv (α : Type) where
  | value (a : α)
  /-- `Err(Lagged)`: values were overwritten before they were seen. -/
  | lagged
  /-- `Err(Closed)`: no sender is left. -/
  | closed
deriving DecidableEq, Repr

namespace Broadcast

/-- `Sender::send`.  It fails when there is no receiver at all. -/
def send (b : Broadcast α) (receivers : Bool) (a : α) : Except Unit (Broadcast α) :=
  if receivers then .ok { b with log := b.log ++ [a] } else .error ()

/-- `Receiver::resubscribe`: a receiver that sees what is sent from now on. -/
def resubscribe (b : Broadcast α) : Cursor := b.log.length

/-- `Receiver::recv`; `none` when it has to wait. -/
def recv (b : Broadcast α) (c : Cursor) : Option (BroadcastRecv α) :=
  if b.capacity < b.log.length - c then some .lagged
  else match b.log[c]? with
    | some a => some (.value a)
    | none => if b.sender then none else some .closed

/-- Only what was sent is received. -/
theorem mem_log_of_recv {b : Broadcast α} {c : Cursor} {a : α} (h : b.recv c = some (.value a)) :
    a ∈ b.log := by
  rw [recv] at h
  split at h
  · cases h
  · split at h
    · rename_i a' hget
      obtain rfl : a' = a := by simpa using h
      exact List.mem_of_getElem? hget
    · split at h <;> cases h

/-- A receiver that need not wait has something to see, or has seen the last sender go. -/
theorem log_ne_nil_of_recv {b : Broadcast α} {c : Cursor} {r : BroadcastRecv α}
    (h : b.recv c = some r) : b.log ≠ [] ∨ b.sender = false := by
  by_cases hlog : b.log = []
  · obtain ⟨hsender, -⟩ : b.sender = false ∧ _ := by simpa [recv, hlog] using h
    exact .inr hsender
  · exact .inl hlog

/-- A receiver that is behind the end of the log does not have to wait. -/
theorem recv_isSome_of_lt {b : Broadcast α} {c : Cursor} (h : c < b.log.length) :
    (b.recv c).isSome := by
  rw [recv, List.getElem?_eq_getElem h]
  split <;> rfl

/-- Nobody has to wait when no sender is left. -/
theorem recv_isSome_of_closed {b : Broadcast α} (h : b.sender = false) (c : Cursor) :
    (b.recv c).isSome := by
  rw [recv, h]
  split
  · rfl
  · split <;> rfl

end Broadcast
