import BevyIroh.Lib.Inevitable
import BevyIroh.Shared.Tasks.Streams
import Mathlib.Algebra.BigOperators.Group.Finset.Piecewise
import Mathlib.Algebra.Order.BigOperators.Ring.Finset

/-!
# The work of the tasks

The spawner and the channel tasks work by themselves, but not forever: a task that goes on writes
something, takes a payload, or comes nearer to its end.  `Link.left` measures what there is left to do:
for each channel the bytes that are to be written, the payloads that are to be taken, and the phases
that are to be gone through.  Every step of the spawner or of a task makes it smaller, faults of the
transport included (`Link.Step.left_lt`), and what a call of the application adds is bounded
(`Link.Step.left_le`).  So the steps of the tasks in a whole run are paid for by the calls in it
(`Link.task_steps_le`).
-/

set_option autoImplicit false

namespace BevyIroh

open FramedWrite Transition

/-! ## What a task has before it -/

/-- The bytes of the frame of a payload. -/
def payloadSize (p : Bytes) : ℕ := reliableFrameTotalHeaderLen + p.length

theorem QuinnetProtocolCodecEncoder.growsBy (enc : QuinnetProtocolCodecEncoder) :
    GrowsBy enc.encode payloadSize := by
  intro p buf
  by_cases h : enc.Accepts p
  · rw [encode_of_accepts h, List.length_append, length_frame]
    exact Nat.le_refl _
  · rw [encode_of_not_accepts h]
    exact Nat.le_add_right _ _

theorem QuinnetProtocolCodecEncoder.left_startSend (enc : QuinnetProtocolCodecEncoder)
    (w : FramedWrite U8) (p : Bytes) :
    (enc.startSend w p).2.buffer.length + resultLeft payloadSize (enc.startSend w p).1 ≤
      w.buffer.length + (payloadSize p + 2) :=
  FramedWrite.left_startSend enc.growsBy w p

theorem QuinnetProtocolCodecEncoder.left_progress {enc : QuinnetProtocolCodecEncoder}
    {w w' : FramedWrite U8} {s : SendProgress Bytes} {fault : Bool} {r : SendResult Bytes}
    (h : enc.Progress w s fault r w') :
    w'.buffer.length + resultLeft payloadSize r < w.buffer.length + progressLeft payloadSize s :=
  FramedWrite.Progress.left_lt enc.growsBy backpressureBoundary_pos h

/-- The bytes in the buffer in front of a stream. -/
def buffered (sender : Option (FramedWrite U8)) : ℕ := sender.elim 0 (·.buffer.length)

def MessagePhase.left (payload : Bytes) : MessagePhase → ℕ
  | .opening => payloadSize payload + 5
  | .sending s => progressLeft payloadSize s + 2
  | .signaling => 1
  | .ended => 0

def MessageTask.left (t : MessageTask) : ℕ := t.phase.left t.payload + buffered t.sender

def TaskPhase.left : TaskPhase → ℕ
  | .opening => 6
  | .selecting .idle => 3
  | .selecting .signaling => 4
  | .selecting (.sending s) => progressLeft payloadSize s + 5
  | .draining none => 2
  | .draining (some s) => progressLeft payloadSize s + 3
  | .flushing => 1
  | .ended => 0

namespace ChannelTask

/-- What is in the buffer of the stream, and what the tasks that were spawned have before them. -/
def carried (t : ChannelTask) : ℕ := buffered t.sender + (t.messages.map MessageTask.left).sum

def left (t : ChannelTask) : ℕ := t.phase.left + t.carried

end ChannelTask

/-- The payloads that wait will have to be taken. -/
def queueLeft (q : Mpsc Bytes) : ℕ := (q.queued.map fun p ↦ payloadSize p + 8).sum

def TaskView.left (v : TaskView) : ℕ := v.task.left + queueLeft v.queues.bytes

theorem queueLeft_recv {q q' : Mpsc Bytes} {p : Bytes} (h : q.recv = some (p, q')) :
    queueLeft q = payloadSize p + 8 + queueLeft q' := by
  obtain ⟨rest, hqueued, rfl⟩ := Mpsc.recv_eq_some.1 h
  rw [queueLeft, hqueued, List.map_cons, List.sum_cons]
  rfl

theorem queueLeft_push (q : Mpsc Bytes) (p : Bytes) :
    queueLeft (q.push p) = queueLeft q + (payloadSize p + 8) := by
  simp [queueLeft, Mpsc.push]

/-! ### Message tasks -/

theorem MessageTask.left_afterSend (t : MessageTask) (w : FramedWrite U8) (r : SendResult Bytes) :
    (t.afterSend w r).left ≤ w.buffer.length + resultLeft payloadSize r + 2 := by
  cases r with
  | pending s =>
    simp only [left, afterSend, MessagePhase.left, buffered, Option.elim, resultLeft]
    omega
  | done =>
    simp only [left, afterSend, MessagePhase.left, buffered, Option.elim, finish, resultLeft]
    omega
  | failed =>
    rw [afterSend]
    split_ifs <;>
    · simp only [left, MessagePhase.left, buffered, Option.elim, finish, resultLeft]
      omega

/-- **A message task that goes on has less before it.** -/
theorem MessageStep.left_lt {encoder : QuinnetProtocolCodecEncoder} {t t' : MessageTask}
    {q q' : Mpsc ChannelAsyncMessage} {fault : Bool} (h : MessageStep encoder t q fault t' q') :
    t'.left < t.left := by
  cases h with
  | opened hp =>
    have hstart := encoder.left_startSend {} t.payload
    have hafter := t.left_afterSend (encoder.startSend {} t.payload).2 (encoder.startSend {} t.payload).1
    have hleft : t.left = payloadSize t.payload + 5 + buffered t.sender := by
      rw [MessageTask.left, hp, MessagePhase.left]
    rw [List.length_nil] at hstart
    omega
  | @sending s w w' _ r hp hw hprogress =>
    have hless := QuinnetProtocolCodecEncoder.left_progress hprogress
    have hafter := t.left_afterSend w' r
    have hleft : t.left = progressLeft payloadSize s + 2 + w.buffer.length := by
      rw [MessageTask.left, hp, hw]
      rfl
    omega
  | openFailed hp =>
    refine Nat.add_lt_add_right (k := buffered t.sender) ?_
    rw [hp]
    exact Nat.zero_lt_succ _
  | signal hp | signalFailed hp =>
    rw [MessageTask.left, MessageTask.left, hp, MessagePhase.left, MessagePhase.left]
    cases hs : t.sender <;> simp [buffered, finish]

/-! ### Channel tasks -/

theorem TaskPhase.left_afterSend (r : SendResult Bytes) :
    (TaskPhase.selecting (.afterSend r)).left ≤ resultLeft payloadSize r + 5 := by
  cases r <;> simp [Inner.afterSend, TaskPhase.left, resultLeft]

theorem TaskPhase.left_afterDrainSend (r : SendResult Bytes) :
    (TaskPhase.afterDrainSend r).left ≤ resultLeft payloadSize r + 3 := by
  cases r <;> simp [TaskPhase.afterDrainSend, TaskPhase.left, resultLeft]

theorem TaskPhase.left_selecting (inner : Inner) :
    (TaskPhase.draining none).left < (TaskPhase.selecting inner).left := by
  cases inner <;> simp [TaskPhase.left]

/-- What a task does with a payload is no more than the payload is worth. -/
theorem ChannelTask.Takes.left_le {t t' : ChannelTask} {signals fault : Bool} {p : Bytes}
    {r : SendResult Bytes} (h : t.Takes signals p fault r t') :
    t'.carried + resultLeft payloadSize r ≤ t.carried + (payloadSize p + 5) := by
  cases h with
  | @ordered m w hc hw =>
    have hstart := (QuinnetProtocolCodecEncoder.new t.id m).left_startSend w p
    rw [carried, carried, hw]
    simp only [buffered, Option.elim]
    omega
  | unordered hc =>
    simp only [carried, List.map_append, List.sum_append, List.map_cons, List.map_nil,
      List.sum_cons, List.sum_nil, MessageTask.left, MessagePhase.left, buffered, Option.elim, resultLeft]
    omega
  | datagram | datagramRefused | datagramLost => exact Nat.le_add_right _ _

/-- A task with a stream carries what is in the buffer of it. -/
theorem ChannelTask.carried_withSender (t : ChannelTask) (phase : TaskPhase) (w : FramedWrite U8) :
    carried { t with phase, sender := some w } = w.buffer.length + (t.messages.map MessageTask.left).sum :=
  rfl

/-- **A task that goes on has less before it**, whether or not the transport fails. -/
theorem TaskStep.left_lt {close : Broadcast CloseReason} {v v' : TaskView} {fault : Bool}
    (h : TaskStep close v fault v') : v'.left < v.left := by
  have hphase : ∀ {phase phase' : TaskPhase} {w : TaskView}, v.task.phase = phase →
      w.task.phase = phase' →
      w.task.carried + queueLeft w.queues.bytes ≤ v.task.carried + queueLeft v.queues.bytes →
      phase'.left < phase.left → w.left < v.left := by
    rintro phase phase' w rfl rfl hle hlt
    simp only [TaskView.left, ChannelTask.left]
    omega
  have hsender : ∀ {w}, v.task.sender = some w →
      v.task.carried = w.buffer.length + (v.task.messages.map MessageTask.left).sum := by
    intro w hw
    rw [ChannelTask.carried, hw]
    rfl
  cases h with
  | opened hc hp =>
    refine hphase hp rfl (Nat.add_le_add_right ?_ _) (by simp [TaskPhase.left])
    rw [ChannelTask.carried_withSender, List.length_nil, Nat.zero_add]
    exact Nat.le_add_left _ _
  | openFailed hp => exact hphase hp rfl (Nat.le_refl _) (Nat.zero_lt_succ _)
  | @close inner r hp hr =>
    have hlt := TaskPhase.left_selecting inner
    have hended : v.ended.left < v.left := hphase hp rfl (Nat.le_refl _) (Nat.zero_lt_of_lt hlt)
    have hdrain : TaskView.left { v with task.phase := .draining none } < v.left :=
      hphase hp rfl (Nat.le_refl _) hlt
    cases r with
    | value reason => cases reason <;> assumption
    | _ => exact hdrain
  | channelClose hp hq => exact hphase hp rfl (Nat.le_refl _) (TaskPhase.left_selecting _)
  | channelCloseDropped hp hq => exact hphase hp rfl (Nat.le_refl _) (TaskPhase.left_selecting _)
  | @recv p q fault r t hp hq ht =>
    have htakes := ht.left_le
    have hafter := TaskPhase.left_afterSend r
    have hqueue := queueLeft_recv hq
    have hleft : v.left = 3 + v.task.carried + queueLeft v.queues.bytes := by
      rw [TaskView.left, ChannelTask.left, hp]
      rfl
    show (TaskPhase.selecting (.afterSend r)).left + t.carried + queueLeft q < v.left
    omega
  | bytesFinished hp hq => exact hphase hp rfl (Nat.le_refl _) (by simp [TaskPhase.left])
  | @sending m s w w' fault r hc hp hw hprogress =>
    have hless := QuinnetProtocolCodecEncoder.left_progress hprogress
    have hafter := TaskPhase.left_afterSend r
    have hleft : v.left = progressLeft payloadSize s + 5 + v.task.carried + queueLeft v.queues.bytes := by
      rw [TaskView.left, ChannelTask.left, hp]
      rfl
    rw [hsender hw] at hleft
    rw [TaskView.left, ChannelTask.left, ChannelTask.carried_withSender]
    simp only at hafter ⊢
    omega
  | signal hp hq => exact hphase hp rfl (Nat.le_refl _) (by simp [TaskPhase.left])
  | signalFailed hp hq => exact hphase hp rfl (Nat.le_refl _) (Nat.zero_lt_succ _)
  | @drain p q fault r t hp hq ht =>
    have htakes := ht.left_le
    have hafter := TaskPhase.left_afterDrainSend r
    have hqueue := queueLeft_recv hq
    have hleft : v.left = 2 + v.task.carried + queueLeft v.queues.bytes := by
      rw [TaskView.left, ChannelTask.left, hp]
      rfl
    show (TaskPhase.afterDrainSend r).left + t.carried + queueLeft q < v.left
    omega
  | @drainSending m s w w' fault r hc hp hw hprogress =>
    have hless := QuinnetProtocolCodecEncoder.left_progress hprogress
    have hafter := TaskPhase.left_afterDrainSend r
    have hleft : v.left = progressLeft payloadSize s + 3 + v.task.carried + queueLeft v.queues.bytes := by
      rw [TaskView.left, ChannelTask.left, hp]
      rfl
    rw [hsender hw] at hleft
    rw [TaskView.left, ChannelTask.left, ChannelTask.carried_withSender]
    simp only at hafter ⊢
    omega
  | drained hc hp hq => exact hphase hp rfl (Nat.le_refl _) (by simp [TaskPhase.left])
  | drainedEnd hc hp hq => exact hphase hp rfl (Nat.le_refl _) (Nat.zero_lt_succ _)
  | @flushWrite w n hp hw hpos hle =>
    rw [TaskView.left, TaskView.left, ChannelTask.left, ChannelTask.left, hsender hw,
      ChannelTask.carried_withSender, write, List.length_drop]
    simp only
    omega
  | flushFailed hp hw hbuf | finish hp hw hbuf =>
    refine hphase hp rfl (Nat.add_le_add_right ?_ _) (by simp [TaskPhase.left, TaskView.ended])
    simp [TaskView.ended, ChannelTask.carried, hw, buffered, FramedWrite.finish]

/-! ## What a connection has before it -/

def Spawner.left : Spawner → ℕ
  | .listening _ => 2
  | .waiting => 1
  | _ => 0

def Watcher.left : Watcher → ℕ
  | .waiting => 2
  | .signaling => 1
  | _ => 0

def Transport.left : Transport → ℕ
  | .established => 1
  | _ => 0

namespace LinkAct

/-- What the tasks will have to do for a call: for a channel its task, for a payload what it is worth. -/
def cost : LinkAct → ℕ
  | .create _ _ => 7
  | .send _ payload => payloadSize payload + 8
  | .spawn _ => 2
  | _ => 0

instance : DecidablePred OfTasks
  | .listenClose | .listenCreate | .listenEnded | .closeConnection | .task .. | .message .. =>
    isTrue trivial
  | .create .. | .send .. | .closeChannel .. | .close .. | .drop | .dropCloseSend | .owner | .spawn .. =>
    isFalse not_false

end LinkAct

namespace Link

variable {S : Type} {l l' : Link S} {a : LinkAct} {h : ℕ} {t : ChannelTask}

/-- What there is to do for the channel of these queues. -/
def placeLeft (l : Link S) (h : ℕ) : ℕ :=
  (l.tasks h).elim 7 ChannelTask.left + queueLeft (l.conn.queues h).bytes

def left (l : Link S) : ℕ := l.spawner.left + ∑ h ∈ Finset.range l.conn.created, l.placeLeft h

theorem placeLeft_of_task (ht : l.tasks h = some t) : l.placeLeft h = (l.view h t).left := by
  rw [placeLeft, ht]
  rfl

theorem placeLeft_congr (htask : l'.tasks h = l.tasks h)
    (hqueued : (l'.conn.queues h).bytes.queued = (l.conn.queues h).bytes.queued) :
    l'.placeLeft h = l.placeLeft h := by
  rw [placeLeft, placeLeft, htask, queueLeft, queueLeft, hqueued]

/-- One channel has less before it. -/
theorem left_lt_of_place (hcreated : l'.conn.created = l.conn.created) (hspawner : l'.spawner = l.spawner)
    (hother : ∀ k, k ≠ h → l'.placeLeft k = l.placeLeft k) (hlt : h < l.conn.created)
    (hless : l'.placeLeft h < l.placeLeft h) : l'.left < l.left := by
  rw [left, left, hcreated, hspawner]
  refine Nat.add_lt_add_left (Finset.sum_lt_sum (fun k _ ↦ ?_) ⟨h, Finset.mem_range.2 hlt, hless⟩) _
  by_cases hk : k = h
  · rw [hk]
    exact Nat.le_of_lt hless
  · exact Nat.le_of_eq (hother k hk)

/-- The channels have the same before them. -/
theorem left_of_places (hcreated : l'.conn.created = l.conn.created)
    (hplace : ∀ k, l'.placeLeft k = l.placeLeft k) :
    l'.left = l'.spawner.left + ∑ k ∈ Finset.range l.conn.created, l.placeLeft k := by
  rw [left, hcreated, Finset.sum_congr rfl fun k _ ↦ hplace k]

theorem left_lt_of_spawner (hcreated : l'.conn.created = l.conn.created)
    (hplace : ∀ k, l'.placeLeft k = l.placeLeft k) (hless : l'.spawner.left < l.spawner.left) :
    l'.left < l.left := by
  rw [left_of_places hcreated hplace, left]
  exact Nat.add_lt_add_right hless _

theorem placeLeft_withView_of_ne {v : TaskView} {k : ℕ} (hk : k ≠ h) :
    (l.withView h v).placeLeft k = l.placeLeft k :=
  placeLeft_congr (Function.update_of_ne hk _ _) (by simp only [withView, Function.update_of_ne hk])

theorem placeLeft_withView (l : Link S) (h : ℕ) (v : TaskView) :
    (l.withView h v).placeLeft h = v.left := by
  simp only [placeLeft, withView, Function.update_self]
  rfl

/-- **The spawner and the tasks use up what there is to do.** -/
theorem Step.left_lt (hs : l.Sound) (hstep : Step l a l') (ha : a.OfTasks) : l'.left < l.left := by
  cases hstep with
  | listenClose hlisten | listenEnded hlisten =>
    refine left_lt_of_spawner rfl (fun _ ↦ rfl) ?_
    rw [hlisten]
    exact Nat.one_lt_two
  | @listenCreate closeRecv msg q hlisten hq =>
    have hmsg := Mpsc.mem_queued_of_recv hq
    have hnone := hs.task_none_of_queued hmsg
    refine left_lt_of_place (h := msg.queues) rfl rfl (fun k hk ↦ ?_)
      (hs.conn.msg_lt (List.mem_append_right _ hmsg)) ?_
    · exact placeLeft_congr (Function.update_of_ne hk _ _) rfl
    · rw [placeLeft, placeLeft, hnone]
      simp only [spawnTask, Function.update_self]
      refine Nat.add_lt_add_right ?_ _
      cases hc : msg.config <;>
        simp [ChannelTask.left, ChannelTask.new, ChannelTask.carried, TaskPhase.left, buffered]
  | closeConnection hwaiting hdone =>
    refine left_lt_of_spawner rfl (fun k ↦ placeLeft_congr rfl ?_) ?_
    · rcases queues_dropCreations l k with hq | hq <;> simp only [hq]
      rfl
    · rw [hwaiting]
      exact Nat.one_pos
  | @task h t fault v ht htask =>
    refine left_lt_of_place (h := h) rfl rfl (fun k hk ↦ placeLeft_withView_of_ne hk) (hs.task_lt ht) ?_
    rw [placeLeft_withView, placeLeft_of_task ht]
    exact htask.left_lt
  | @message h k m t mt mt' fault signals ht hc hm hmessage =>
    refine left_lt_of_place (h := h) rfl rfl (fun k hk ↦ placeLeft_withView_of_ne hk) (hs.task_lt ht) ?_
    rw [placeLeft_withView, placeLeft_of_task ht]
    refine Nat.add_lt_add_right (Nat.add_lt_add_left (Nat.add_lt_add_left ?_ _) _) _
    exact sum_map_set_lt hm hmessage.left_lt
  | _ => exact ha.elim

/-! ### What the others add -/

/-- Nothing has changed but senders. -/
theorem left_eq (hcreated : l'.conn.created = l.conn.created) (hspawner : l'.spawner = l.spawner)
    (htasks : l'.tasks = l.tasks)
    (hqueued : ∀ k, (l'.conn.queues k).bytes.queued = (l.conn.queues k).bytes.queued) :
    l'.left = l.left := by
  rw [left_of_places hcreated fun k ↦ placeLeft_congr (congrFun htasks k) (hqueued k), hspawner, left]

/-- One channel has more before it. -/
theorem left_le_of_place {n : ℕ} (hcreated : l'.conn.created = l.conn.created)
    (hspawner : l'.spawner = l.spawner) (hother : ∀ k, k ≠ h → l'.placeLeft k = l.placeLeft k)
    (hmore : l'.placeLeft h = l.placeLeft h + n) : l'.left ≤ l.left + n := by
  have hplace : ∀ k, l'.placeLeft k = l.placeLeft k + if k = h then n else 0 := by
    intro k
    split_ifs with hk
    · rw [hk, hmore]
    · exact hother k hk
  rw [left, left, hcreated, hspawner, Finset.sum_congr rfl fun k _ ↦ hplace k, Finset.sum_add_distrib,
    Finset.sum_ite_eq', Nat.add_assoc]
  split_ifs <;> omega

theorem left_create_le (hs : l.Sound) (id : ChannelId) (config : ChannelConfig) :
    left { l with conn := (l.conn.createConnectionChannel id config).2 } ≤ l.left + 7 := by
  by_cases hr : l.conn.toChannels.Ready
  · have hcreated := (PeerConnection.createConnectionChannel_of_ready (i := id) hr config).2.2.1
    have hold : ∀ k ∈ Finset.range l.conn.created,
        placeLeft { l with conn := (l.conn.createConnectionChannel id config).2 } k = l.placeLeft k := by
      intro k hk
      refine placeLeft_congr rfl ?_
      have hne := Nat.ne_of_lt (Finset.mem_range.1 hk)
      rcases PeerConnection.queues_create_of_ne hne id config with hq | ⟨-, -, -, hq⟩ <;> simp only [hq]
      rfl
    have hnone : l.tasks l.conn.created = none := by
      cases ht : l.tasks l.conn.created with
      | none => rfl
      | some t => exact absurd (hs.task_lt ht) (Nat.lt_irrefl _)
    have hnew : placeLeft { l with conn := (l.conn.createConnectionChannel id config).2 } l.conn.created =
        7 := by
      rw [placeLeft, hnone, hs.conn.queues_create_new hr]
      rfl
    rw [left, left, hcreated, Finset.sum_range_succ, Finset.sum_congr rfl hold, hnew, Nat.add_assoc]
  · rw [PeerConnection.createConnectionChannel_of_not_ready hr]
    exact Nat.le_add_right _ _

theorem left_send_le (l : Link S) (id : ChannelId) (p : Bytes) :
    left { l with conn := (l.conn.internalSendPayload id p).2 } ≤ l.left + (payloadSize p + 8) := by
  have hcreated := (PeerConnection.internalSendPayload_frame (s := l.conn) (i := id) p).2.2.2
  rcases l.conn.internalSendPayload_cases (i := id) p with ⟨c, -, -, -, hqueues⟩ | ⟨-, -, hqueues⟩
  · refine left_le_of_place (h := c.queues) hcreated rfl (fun k hk ↦ ?_) ?_
    · exact placeLeft_congr rfl (by simp only [hqueues, Function.update_of_ne hk])
    · rw [placeLeft, placeLeft, hqueues, Function.update_self, queueLeft_push, Nat.add_assoc]
  · have hsame : left { l with conn := (l.conn.internalSendPayload id p).2 } = l.left :=
      left_eq hcreated rfl rfl fun k ↦ by simp only [hqueues]
    rw [hsame]
    exact Nat.le_add_right _ _

theorem left_drop (l : Link S) : left { l with conn := l.conn.drop } = l.left := by
  refine left_eq rfl rfl rfl fun k ↦ ?_
  show (PeerConnection.dropChannels _ _ k).bytes.queued = _
  rcases PeerConnection.dropChannels_apply l.conn.sendChannels l.conn.queues k with hq | hq <;> rw [hq]
  rfl

theorem left_dropCreations (l : Link S) : l.dropCreations.left = l.left := by
  refine left_eq rfl rfl rfl fun k ↦ ?_
  rcases queues_dropCreations l k with hq | hq <;> rw [hq]
  rfl

theorem left_spawn_le (l : Link S) (closeRecv : Cursor) :
    left { l with spawner := .listening closeRecv } ≤ l.left + 2 := by
  have hspawner : left { l with spawner := .listening closeRecv } =
      2 + ∑ h ∈ Finset.range l.conn.created, l.placeLeft h := rfl
  rw [hspawner, left]
  omega

/-- **The others add no more than they cost.** -/
theorem Step.left_le (hs : l.Sound) (hstep : Step l a l') (ha : ¬ a.OfTasks) :
    l'.left ≤ l.left + a.cost := by
  cases hstep with
  | create id config => exact left_create_le hs id config
  | send id payload => exact left_send_le l id payload
  | closeChannel id =>
    refine Nat.le_of_eq (left_eq PeerConnection.internalCloseChannel_frame.2.2 rfl rfl fun k ↦ ?_)
    rcases PeerConnection.queues_internalCloseChannel (s := l.conn) (i := id) k with hq | ⟨-, -, -, hq⟩ <;>
      simp only [hq]
    rfl
  | close receivers => cases receivers <;> exact Nat.le_of_eq (left_eq rfl rfl rfl fun _ ↦ rfl)
  | drop => exact Nat.le_of_eq l.left_drop
  | dropCloseSend => exact Nat.le_refl _
  | owner hsame =>
    exact Nat.le_of_eq (left_eq hsame.created rfl rfl fun k ↦ by simp only [hsame.queues])
  | spawn closeRecv => exact l.left_spawn_le closeRecv
  | _ => exact absurd trivial ha

/-- **The tasks do what they are called for, and no more.**  In every run of a connection, whatever the
application does and whenever the transport fails, the spawner and the tasks take together no more steps
than the calls in the run have given them to do: a fixed number for each channel that is created, and
for each payload that is sent one for each byte of its frame, and a fixed number besides. -/
theorem task_steps_le {specific : S} {cfg : RecvChannelsConfiguration} {tr : List (LinkAct × Link S)}
    (h : Run Step (fresh specific cfg) tr) :
    tr.countP (fun x ↦ x.1.OfTasks) ≤ (tr.map fun x ↦ x.1.cost).sum := by
  have hpaid := h.work_le left LinkAct.cost (fun a ↦ a.OfTasks) (sound_fresh specific cfg)
    (fun hs hstep ↦ hs.step hstep) fun {l a l'} hs hstep ↦ by
      by_cases ha : a.OfTasks
      · rw [if_pos (decide_eq_true ha)]
        exact Nat.le_trans (hstep.left_lt hs ha) (Nat.le_add_right _ _)
      · rw [if_neg (by simpa using ha)]
        exact hstep.left_le hs ha
  have hnone : (fresh specific cfg).left = 0 := rfl
  omega

/-- A channel is created and a payload sent on it; its task is spawned, opens its stream and writes the
frame in two pieces. -/
theorem task_steps_le_sent : ∃ tr : List (LinkAct × Link Unit), Run Step (fresh () {}) tr ∧
    tr.countP (fun x ↦ x.1.OfTasks) = 6 ∧
      tr.countP (fun x ↦ x.1.OfTasks) ≤ (tr.map fun x ↦ x.1.cost).sum := by
  have h : Run Step (fresh () {}) _ := .cons (.create _ 0 (.orderedReliable 4) rfl)
    (.cons (.send _ 0 [7] rfl) (.cons (.spawn 0 rfl) (.cons (.listenCreate rfl rfl)
      (.cons (.task (h := 0) rfl (.opened rfl rfl))
        (.cons (.task (h := 0) rfl (.recv rfl rfl (.ordered rfl rfl)))
          (.cons (.task (h := 0) rfl (.sending rfl rfl rfl (.write (n := 2) (by decide) (by decide))))
            (.cons (.task (h := 0) rfl (.sending rfl rfl rfl (.write (n := 4) (by decide) (by decide))))
              (.cons (.task (h := 0) rfl (.sending rfl rfl rfl (.flushed rfl))) (.nil _)))))))))
  exact ⟨_, h, rfl, task_steps_le h⟩

end Link

end BevyIroh
