import BevyIroh.Shared.Tasks.Healthy
import BevyIroh.Shared.Tasks.Progress

/-!
# Tasks at rest

A channel task waits only for a payload.  Wherever else it is, it can go on by itself, as long as
nothing fails: so when no task can go on, their queues are empty, and everything they received is on
their streams (`Link.HealthyInv.allWritten`).  Nothing has to be closed for that; while the connection
is open the spawner goes on making tasks, and a channel without one is a reason to go on, too.
-/

set_option autoImplicit false

namespace BevyIroh

open FramedWrite

section Steps

variable {close : Broadcast CloseReason} {v : TaskView} {id : ChannelId} {m : ℕ}

/-- A payload that waits can be taken, in the loop or after it. -/
theorem queued_eq_nil_of_rest {signals : Bool}
    (hphase : v.task.phase = .selecting .idle ∧ signals = true ∨
      v.task.phase = .draining none ∧ signals = false)
    (htakes : ∀ p, ∃ r t, v.task.Takes signals p false r t)
    (hrest : ∀ v', ¬ TaskStep close v false v') : v.queues.bytes.queued = [] := by
  cases hq : v.queues.bytes.queued with
  | nil => rfl
  | cons p rest =>
    have hrecv := Mpsc.recv_eq_some.2 ⟨rest, hq, rfl⟩
    obtain ⟨r, t, ht⟩ := htakes p
    rcases hphase with ⟨hphase, rfl⟩ | ⟨hphase, rfl⟩
    · exact absurd (.recv hphase hrecv ht) (hrest _)
    · exact absurd (.drain hphase hrecv ht) (hrest _)

/-- An ordered channel that cannot go on. -/
theorem OrderedAt.rest {total : Bytes} (hw : OrderedAt v.task.id m total v.task.phase v.task.sender)
    (hc : v.task.config = .orderedReliable m) (hrest : ∀ v', ¬ TaskStep close v false v') :
    (∃ w, v.task.sender = some w ∧ w.stream.bytes = total) ∧
      (v.queues.bytes.queued = [] ∨ v.task.phase = .ended) := by
  generalize hphase : v.task.phase = phase at hw
  generalize hsender : v.task.sender = sender at hw
  cases hw with
  | opening => exact absurd (.opened hc hphase) (hrest _)
  | @idle w h =>
    refine ⟨⟨w, rfl, by rw [h.stream]⟩, .inl ?_⟩
    exact queued_eq_nil_of_rest (.inl ⟨hphase, rfl⟩) (fun p ↦ ⟨_, _, .ordered hc hsender⟩) hrest
  | @sending w h =>
    obtain ⟨r, w', hp⟩ : ∃ r w', (QuinnetProtocolCodecEncoder.new v.task.id m).Progress w .flushing
      false r w' := exists_progress w _
    exact absurd (.sending hc hphase hsender hp) (hrest _)
  | @draining w h =>
    have hq := queued_eq_nil_of_rest (.inr ⟨hphase, rfl⟩) (fun p ↦ ⟨_, _, .ordered hc hsender⟩) hrest
    exact absurd (.drained hc hphase hq) (hrest _)
  | @drainSending w s h =>
    obtain ⟨r, w', hp⟩ : ∃ r w', (QuinnetProtocolCodecEncoder.new v.task.id m).Progress w s
      false r w' := exists_progress w s
    exact absurd (.drainSending hc hphase hsender hp) (hrest _)
  | @flushing w h =>
    by_cases hbuf : w.buffer = []
    · exact absurd (.finish hphase hsender hbuf) (hrest _)
    · exact absurd (.flushWrite hphase hsender Nat.one_pos (List.length_pos_of_ne_nil hbuf)) (hrest _)
  | ended => exact ⟨⟨_, rfl, rfl⟩, .inr rfl⟩

/-- A channel without a stream of its own that cannot go on. -/
theorem PlainAt.rest (hw : PlainAt v.task.phase) (hc : ∀ m, v.task.config ≠ .orderedReliable m)
    (hrest : ∀ v', ¬ TaskStep close v false v') :
    v.queues.bytes.queued = [] ∨ v.task.phase = .ended := by
  have htakes : ∀ signals p, ∃ r t, v.task.Takes signals p false r t := by
    intro signals p
    cases hconfig : v.task.config with
    | orderedReliable m => exact absurd hconfig (hc m)
    | unorderedReliable m => exact ⟨_, _, .unordered hconfig⟩
    | unreliable => exact ⟨_, _, .datagram hconfig⟩
  generalize hphase : v.task.phase = phase at hw
  cases hw with
  | idle => exact .inl (queued_eq_nil_of_rest (.inl ⟨hphase, rfl⟩) (htakes true) hrest)
  | draining => exact .inl (queued_eq_nil_of_rest (.inr ⟨hphase, rfl⟩) (htakes false) hrest)
  | ended => exact .inr rfl

/-- A message task that cannot go on. -/
theorem MessageAt.rest {total : Bytes} {mt : MessageTask} {q : Mpsc ChannelAsyncMessage}
    (hw : MessageAt id m total mt.phase mt.sender)
    (hrest : ∀ mt' q', ¬ MessageStep (.new id m) mt q false mt' q') :
    ∃ w, mt.sender = some w ∧ w.stream.bytes = total := by
  generalize hphase : mt.phase = phase at hw
  generalize hsender : mt.sender = sender at hw
  cases hw with
  | opening => exact absurd (.opened hphase) (hrest _ _)
  | @sending w s h =>
    obtain ⟨r, w', hp⟩ : ∃ r w', (QuinnetProtocolCodecEncoder.new id m).Progress w s false r w' :=
      exists_progress w s
    exact absurd (.sending hphase hsender hp) (hrest _ _)
  | ended => exact ⟨_, rfl, rfl⟩

end Steps

namespace Link

variable {S : Type} {l : Link S}

/-- Neither the spawner nor a task can go on. -/
def AtRest (l : Link S) : Prop := ∀ a l', a.Internal → ¬ Step l a l'

/-- The task waits for a payload, and so do those it spawned for nothing. -/
structure Waits (l : Link S) (h : ℕ) (t : ChannelTask) : Prop where
  phase : t.phase = .selecting .idle
  order : l.conn.closeSend.recv t.closeRecv = none
  bytes : (l.conn.queues h).bytes.recv = none ∧ (l.conn.queues h).bytes.finished = false
  close : (l.conn.queues h).close.recv = none ∧ (l.conn.queues h).close.finished = false
  messages : ∀ mt ∈ t.messages, mt.phase = .ended

theorem Waits.not_step {h : ℕ} {t : ChannelTask} (hw : l.Waits h t) {v : TaskView} :
    ¬ TaskStep l.conn.closeSend (l.view h t) false v := by
  have hphase : (l.view h t).task.phase = .selecting .idle := hw.phase
  intro hstep
  cases hstep with
  | close hp hr => exact nomatch hw.order.symm.trans hr
  | channelClose hp hq => exact nomatch hw.close.1.symm.trans hq
  | channelCloseDropped hp hq => exact nomatch hw.close.2.symm.trans hq
  | recv hp hq => exact nomatch hw.bytes.1.symm.trans hq
  | bytesFinished hp hq => exact nomatch hw.bytes.2.symm.trans hq
  | opened _ hp | sending _ hp | signal hp | signalFailed hp | drain hp | drainSending _ hp
  | drained _ hp | drainedEnd _ hp | flushWrite hp | finish hp => exact nomatch hphase.symm.trans hp

end Link

end BevyIroh
