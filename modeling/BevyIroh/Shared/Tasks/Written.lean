import BevyIroh.Shared.Reliable.RoundTrip
import BevyIroh.Shared.Tasks.Invariant

/-!
# What a channel task has written

`ChannelTask.Written` relates a channel task to the payloads it has received: their frames are on the
stream, or in the buffer in front of it; an unordered channel has one task for each of them.  It says
at every phase just as much as abandoning the loop at that point leaves true, so that the close
orders, which may be taken at any phase of the loop, need no argument of their own.

A step that is not a fault keeps it, if the payloads fit the channel (`ChannelTask.Written.step`).
Only the end of the peer, which makes an ordered channel stop at once, leaves less: `CutOff`.
-/

set_option autoImplicit false

namespace BevyIroh

open FramedWrite Transition

/-- The payload is not too long for a channel of this configuration. -/
def ChannelConfig.Fits : ChannelConfig → Bytes → Prop
  | .orderedReliable maxFrameSize, p => p.length ≤ maxFrameSize
  | .unorderedReliable maxFrameSize, p => p.length ≤ maxFrameSize
  | .unreliable, _ => True

theorem encodesAs_frame (id : ChannelId) (m : ℕ) :
    EncodesAs (QuinnetProtocolCodecEncoder.new id m).encode (frame id)
      (QuinnetProtocolCodecEncoder.new id m).Accepts :=
  fun _ hp dst ↦ QuinnetProtocolCodecEncoder.encode_of_accepts hp dst

theorem frames_singleton (c : ChannelId) (p : Bytes) : frames c [p] = frame c p := by
  simp [frames]

/-! ## What a task has written -/

/-- A sender that is finished with all of `total` on its stream. -/
def finishedWith (total : Bytes) : Option (FramedWrite U8) := some ⟨⟨total, true⟩, []⟩

/-- The phases of an ordered channel, with what its stream and its buffer hold. -/
inductive OrderedAt (id : ChannelId) (m : ℕ) (total : Bytes) :
    TaskPhase → Option (FramedWrite U8) → Prop
  | opening (h : total = []) : OrderedAt id m total .opening none
  | idle {w : FramedWrite U8} (h : w.Idle total) : OrderedAt id m total (.selecting .idle) (some w)
  /-- The payload was encoded when `send` was polled for the first time. -/
  | sending {w : FramedWrite U8}
      (h : w.Writing (frame id) (QuinnetProtocolCodecEncoder.new id m).Accepts .flushing total) :
      OrderedAt id m total (.selecting (.sending .flushing)) (some w)
  | draining {w : FramedWrite U8} (h : w.Buffered total) :
      OrderedAt id m total (.draining none) (some w)
  | drainSending {w : FramedWrite U8} {s : SendProgress Bytes}
      (h : w.Writing (frame id) (QuinnetProtocolCodecEncoder.new id m).Accepts s total) :
      OrderedAt id m total (.draining (some s)) (some w)
  | flushing {w : FramedWrite U8} (h : w.Buffered total) : OrderedAt id m total .flushing (some w)
  | ended : OrderedAt id m total .ended (finishedWith total)

/-- The phases of a message task, with what its stream and its buffer hold. -/
inductive MessageAt (id : ChannelId) (m : ℕ) (total : Bytes) :
    MessagePhase → Option (FramedWrite U8) → Prop
  | opening : MessageAt id m total .opening none
  | sending {w : FramedWrite U8} {s : SendProgress Bytes}
      (h : w.Writing (frame id) (QuinnetProtocolCodecEncoder.new id m).Accepts s total) :
      MessageAt id m total (.sending s) (some w)
  | ended : MessageAt id m total .ended (finishedWith total)

/-- The phases of a channel that has no stream of its own. -/
inductive PlainAt : TaskPhase → Prop
  | idle : PlainAt (.selecting .idle)
  | draining : PlainAt (.draining none)
  | ended : PlainAt .ended

/-- What the task has done with the payloads it received. -/
def ChannelTask.Written (t : ChannelTask) (received : List Bytes) : Prop :=
  match t.config with
  | .orderedReliable m => OrderedAt t.id m (frames t.id received) t.phase t.sender ∧ t.messages = []
  | .unorderedReliable m => (PlainAt t.phase ∧ t.sender = none) ∧
      t.messages.map (·.payload) = received ∧
      ∀ mt ∈ t.messages, MessageAt t.id m (frame t.id mt.payload) mt.phase mt.sender
  | .unreliable => (PlainAt t.phase ∧ t.sender = none) ∧ t.messages = []

/-- An ordered channel that the end of the peer has cut off: what is on its stream is all there will
be. -/
structure ChannelTask.CutOff (t : ChannelTask) (received : List Bytes) : Prop where
  config : ∃ m, t.config = .orderedReliable m
  ended : t.phase = .ended
  messages : t.messages = []
  stream : ∀ w, t.sender = some w → w.stream.bytes <+: frames t.id received

/-- The task has left its loop. -/
def TaskPhase.Leaving : TaskPhase → Prop
  | .opening => False
  | .selecting _ => False
  | _ => True

/-- The task has seen its queue empty. -/
def TaskPhase.Drained : TaskPhase → Prop
  | .flushing => True
  | .ended => True
  | _ => False

theorem TaskPhase.Drained.leaving {phase : TaskPhase} (h : phase.Drained) : phase.Leaving := by
  cases phase with
  | flushing | ended => trivial
  | _ => exact h.elim

theorem ChannelTask.not_leaving_new (id : ChannelId) (config : ChannelConfig) (closeRecv : Cursor) :
    ¬ (new id config closeRecv).phase.Leaving := by
  cases config <;> exact fun h ↦ h

/-! ## Sending -/

theorem backpressureBoundary_pos : 0 < backpressureBoundary := by decide

section Send

variable {id : ChannelId} {m : ℕ} {total : Bytes} {inner : Inner} {sender : Option (FramedWrite U8)}
  {w w' : FramedWrite U8} {s : SendProgress Bytes} {r : SendResult Bytes} {p : Bytes}

/-- The stream holds nothing that should not be there. -/
theorem OrderedAt.stream_le {phase : TaskPhase} (h : OrderedAt id m total phase (some w)) :
    w.stream.bytes <+: total := by
  generalize hsender : some w = sender at h
  cases h with
  | opening => cases hsender
  | idle h => exact Option.some.inj hsender ▸ h.toBuffered.stream_le
  | sending h => exact Option.some.inj hsender ▸ h.stream_le
  | draining h => exact Option.some.inj hsender ▸ h.stream_le
  | drainSending h => exact Option.some.inj hsender ▸ h.stream_le
  | flushing h => exact Option.some.inj hsender ▸ h.stream_le
  | ended => exact Option.some.inj hsender ▸ List.prefix_rfl

theorem MessageAt.stream_le {phase : MessagePhase} (h : MessageAt id m total phase (some w)) :
    w.stream.bytes <+: total := by
  generalize hsender : some w = sender at h
  cases h with
  | opening => cases hsender
  | sending h => exact Option.some.inj hsender ▸ h.stream_le
  | ended => exact Option.some.inj hsender ▸ List.prefix_rfl

/-- Wherever the loop is left, nothing is lost. -/
theorem OrderedAt.leave (h : OrderedAt id m total (.selecting inner) sender) :
    OrderedAt id m total (.draining none) sender := by
  cases h with
  | idle h => exact .draining h.toBuffered
  | sending h => exact .draining h.buffered

/-- In the loop the buffer is empty before a payload is sent, so the first poll encodes it. -/
theorem OrderedAt.recv (h : OrderedAt id m total (.selecting .idle) (some w)) (hp : p.length ≤ m) :
    OrderedAt id m (total ++ frame id p)
      (.selecting (.afterSend ((QuinnetProtocolCodecEncoder.new id m).startSend w p).1))
      (some ((QuinnetProtocolCodecEncoder.new id m).startSend w p).2) := by
  cases h with
  | idle h =>
    obtain ⟨hr, hw⟩ := h.startSend (encodesAs_frame id m) backpressureBoundary_pos hp
    rw [hr]
    exact .sending hw

/-- In the last loop the buffer may still be full of what the first loop left. -/
theorem OrderedAt.drain (h : OrderedAt id m total (.draining none) (some w)) (hp : p.length ≤ m) :
    OrderedAt id m (total ++ frame id p)
      (.afterDrainSend ((QuinnetProtocolCodecEncoder.new id m).startSend w p).1)
      (some ((QuinnetProtocolCodecEncoder.new id m).startSend w p).2) := by
  cases h with
  | draining h =>
    obtain ⟨s, hr, hw⟩ := h.startSend (encodesAs_frame id m) hp backpressureBoundary
    rw [hr]
    exact .drainSending hw

theorem OrderedAt.sending_progress
    (h : OrderedAt id m total (.selecting (.sending s)) (some w))
    (hp : (QuinnetProtocolCodecEncoder.new id m).Progress w s false r w') :
    OrderedAt id m total (.selecting (.afterSend r)) (some w') := by
  cases h with
  | sending h =>
    rcases h.progress (encodesAs_frame id m) hp with ⟨rfl, hw⟩ | ⟨s', rfl, hw, hs⟩
    · exact .idle hw
    · obtain rfl := hs rfl
      exact .sending hw

theorem OrderedAt.drain_progress (h : OrderedAt id m total (.draining (some s)) (some w))
    (hp : (QuinnetProtocolCodecEncoder.new id m).Progress w s false r w') :
    OrderedAt id m total (.afterDrainSend r) (some w') := by
  cases h with
  | drainSending h =>
    rcases h.progress (encodesAs_frame id m) hp with ⟨rfl, hw⟩ | ⟨s', rfl, hw, -⟩
    · exact .draining hw.toBuffered
    · exact .drainSending hw

/-- A buffer that is written out leaves everything on the stream. -/
theorem finish_eq_finishedWith (h : w.Buffered total) (hbuf : w.buffer = []) :
    some w.finish = finishedWith total := by
  have hidle : w.Idle total := ⟨h, hbuf⟩
  rw [FramedWrite.finish, hidle.stream, hbuf]
  rfl

/-- A message task that goes on without a fault. -/
theorem MessageAt.afterSend {mt : MessageTask}
    (h : (r = .done ∧ w.Idle total) ∨ ∃ s', r = .pending s' ∧
      w.Writing (frame id) (QuinnetProtocolCodecEncoder.new id m).Accepts s' total) :
    MessageAt id m total (mt.afterSend w r).phase (mt.afterSend w r).sender := by
  rcases h with ⟨rfl, hw⟩ | ⟨s', rfl, hw⟩
  · rw [MessageTask.afterSend, finish_eq_finishedWith hw.toBuffered hw.buffer]
    exact .ended
  · exact .sending hw

/-- The first poll decides what a message task writes. -/
theorem MessageAt.step {mt mt' : MessageTask} {q q' : Mpsc ChannelAsyncMessage}
    (h : MessageAt id m total mt.phase mt.sender)
    (hopened : MessageAt id m total
      (mt.afterSend ((QuinnetProtocolCodecEncoder.new id m).startSend {} mt.payload).2
        ((QuinnetProtocolCodecEncoder.new id m).startSend {} mt.payload).1).phase
      (mt.afterSend ((QuinnetProtocolCodecEncoder.new id m).startSend {} mt.payload).2
        ((QuinnetProtocolCodecEncoder.new id m).startSend {} mt.payload).1).sender)
    (hstep : MessageStep (.new id m) mt q false mt' q') :
    MessageAt id m total mt'.phase mt'.sender := by
  cases hstep with
  | opened => exact hopened
  | @sending s w w' _ r hphase hsender hprogress =>
    rw [hphase, hsender] at h
    cases h with
    | sending h =>
      have hw := h.progress (encodesAs_frame id m) hprogress
      exact .afterSend (hw.imp_right fun ⟨s', hr, hw, _⟩ ↦ ⟨s', hr, hw⟩)
  | signal hphase | signalFailed hphase =>
    rw [hphase] at h
    cases h

/-- A payload that fits is on its way from the first poll on. -/
theorem MessageAt.opened (mt : MessageTask) (hp : mt.payload.length ≤ m) :
    MessageAt id m (frame id mt.payload)
      (mt.afterSend ((QuinnetProtocolCodecEncoder.new id m).startSend {} mt.payload).2
        ((QuinnetProtocolCodecEncoder.new id m).startSend {} mt.payload).1).phase
      (mt.afterSend ((QuinnetProtocolCodecEncoder.new id m).startSend {} mt.payload).2
        ((QuinnetProtocolCodecEncoder.new id m).startSend {} mt.payload).1).sender := by
  obtain ⟨hr, hw⟩ := idle_new.startSend (encodesAs_frame id m) backpressureBoundary_pos hp
  exact .afterSend (.inr ⟨_, hr, hw⟩)

/-- One task for each payload, of which `P` holds. -/
def OneEach (P : MessageTask → Prop) (messages : List MessageTask) (received : List Bytes) : Prop :=
  messages.map (·.payload) = received ∧ ∀ mt ∈ messages, P mt

theorem OneEach.append {P : MessageTask → Prop} {messages : List MessageTask}
    {received : List Bytes} {mt : MessageTask} (h : OneEach P messages received) (hmt : P mt) :
    OneEach P (messages ++ [mt]) (received ++ [mt.payload]) := by
  refine ⟨?_, fun x hx ↦ ?_⟩
  · rw [List.map_append, h.1]
    rfl
  · rcases List.mem_append.1 hx with hx | hx
    · exact h.2 x hx
    · exact List.mem_singleton.1 hx ▸ hmt

theorem OneEach.set {P : MessageTask → Prop} {messages : List MessageTask} {received : List Bytes}
    {k : ℕ} {mt mt' : MessageTask} (h : OneEach P messages received) (hmt : messages[k]? = some mt)
    (hpayload : mt'.payload = mt.payload) (hmt' : P mt') :
    OneEach P (messages.set k mt') received := by
  refine ⟨?_, fun x hx ↦ ?_⟩
  · rw [List.map_set, hpayload, ← h.1]
    refine List.ext_getElem? fun i ↦ ?_
    by_cases hi : k = i
    · subst hi
      rw [List.getElem?_set_self', List.getElem?_map, hmt]
      rfl
    · rw [List.getElem?_set_ne hi]
  · rcases List.mem_or_eq_of_mem_set hx with hx | rfl
    · exact h.2 x hx
    · exact hmt'

/-- Only an ordered channel has a stream of its own. -/
theorem ChannelTask.Written.stream_le {t : ChannelTask} {received : List Bytes}
    (hw : t.Written received) (hsender : t.sender = some w) :
    (∃ m, t.config = .orderedReliable m) ∧ w.stream.bytes <+: frames t.id received := by
  rw [Written] at hw
  cases hc : t.config with
  | orderedReliable m =>
    rw [hc, hsender] at hw
    exact ⟨⟨m, rfl⟩, hw.1.stream_le⟩
  | unorderedReliable m =>
    rw [hc] at hw
    cases hsender.symm.trans hw.1.2
  | unreliable =>
    rw [hc] at hw
    cases hsender.symm.trans hw.1.2

/-- Only an unordered channel has a stream for each payload. -/
theorem ChannelTask.Written.message_le {t : ChannelTask} {received : List Bytes} {mt : MessageTask}
    (hw : t.Written received) (hmt : mt ∈ t.messages) (hsender : mt.sender = some w) :
    (∃ m, t.config = .unorderedReliable m) ∧ mt.payload ∈ received ∧
      w.stream.bytes <+: frame t.id mt.payload := by
  rw [Written] at hw
  cases hc : t.config with
  | orderedReliable m =>
    rw [hc] at hw
    rw [hw.2] at hmt
    cases hmt
  | unorderedReliable m =>
    rw [hc] at hw
    obtain ⟨-, hpayloads, hat⟩ := hw
    exact ⟨⟨m, rfl⟩, hpayloads ▸ List.mem_map_of_mem hmt, (hsender ▸ hat mt hmt).stream_le⟩
  | unreliable =>
    rw [hc] at hw
    rw [hw.2] at hmt
    cases hmt

end Send

/-! ## One step of a channel task -/

section Step

variable {close : Broadcast CloseReason} {v v' : TaskView} {m : ℕ}

/-- The close order of the connection leads to the last loop, if it is not the peer's. -/
theorem TaskView.closed_eq (v : TaskView) {r : BroadcastRecv CloseReason}
    (hr : r ≠ .value .peerClosed) : v.closed r = { v with task.phase := .draining none } := by
  cases r with
  | value reason =>
    cases reason with
    | localOrder => rfl
    | peerClosed => exact absurd rfl hr
  | _ => rfl

/-- **An ordered channel keeps what it receives on its stream or in its buffer**, until the end of the
peer makes it stop.  It receives at most one payload in a step. -/
theorem OrderedAt.step {total : Bytes} (hc : v.task.config = .orderedReliable m)
    (ho : OrderedAt v.task.id m total v.task.phase v.task.sender)
    (hfits : ∀ p q, v.queues.bytes.recv = some (p, q) → v'.queues.bytes = q →
      v.task.phase = .selecting .idle ∨ v.task.phase = .draining none → p.length ≤ m)
    (hstep : TaskStep close v false v') :
    v'.task.messages = v.task.messages ∧
      ((∃ added, v'.queues.bytes.received = v.queues.bytes.received ++ added ∧
          (∀ p ∈ added, p.length ≤ m) ∧
          OrderedAt v.task.id m (total ++ frames v.task.id added) v'.task.phase v'.task.sender) ∨
        .peerClosed ∈ close.log ∧ v' = v.ended) := by
  -- most steps receive nothing
  have hnone : ∀ {phase sender}, OrderedAt v.task.id m total phase sender →
      ∃ added, v.queues.bytes.received = v.queues.bytes.received ++ added ∧
        (∀ p ∈ added, p.length ≤ m) ∧
        OrderedAt v.task.id m (total ++ frames v.task.id added) phase sender := by
    intro phase sender ho'
    refine ⟨[], (List.append_nil _).symm, by simp, ?_⟩
    rwa [frames_nil, List.append_nil]
  have hone : ∀ {p q phase sender}, v.queues.bytes.recv = some (p, q) → p.length ≤ m →
      OrderedAt v.task.id m (total ++ frame v.task.id p) phase sender →
      ∃ added, q.received = v.queues.bytes.received ++ added ∧ (∀ p ∈ added, p.length ≤ m) ∧
        OrderedAt v.task.id m (total ++ frames v.task.id added) phase sender := by
    intro p q phase sender hq hp ho'
    refine ⟨[p], Mpsc.received_of_recv hq, fun p' hp' ↦ ?_, ?_⟩
    · rwa [List.mem_singleton.1 hp']
    · rwa [frames_singleton]
  cases hstep with
  | opened hc' h =>
    rw [h] at ho
    generalize v.task.sender = sender at ho
    cases ho with
    | opening hnil => exact ⟨rfl, .inl (hnone (.idle (hnil ▸ idle_new)))⟩
  | @close inner r h hr =>
    by_cases hpeer : r = .value .peerClosed
    · subst hpeer
      exact ⟨rfl, .inr ⟨Broadcast.mem_log_of_recv hr, rfl⟩⟩
    · rw [TaskView.closed_eq v hpeer]
      exact ⟨rfl, .inl (hnone (h ▸ ho).leave)⟩
  | channelClose h | channelCloseDropped h | bytesFinished h =>
    exact ⟨rfl, .inl (hnone (h ▸ ho).leave)⟩
  | recv h hq ht =>
    have hp := hfits _ _ hq rfl (.inl h)
    cases ht with
    | ordered hc' hw =>
      obtain rfl : m = _ := ChannelConfig.orderedReliable.inj (hc.symm.trans hc')
      rw [h, hw] at ho
      exact ⟨rfl, .inl (hone hq hp (ho.recv hp))⟩
    | unordered hc' | datagram hc' | datagramRefused hc' => cases hc.symm.trans hc'
  | sending hc' h hw hp =>
    obtain rfl : m = _ := ChannelConfig.orderedReliable.inj (hc.symm.trans hc')
    rw [h, hw] at ho
    exact ⟨rfl, .inl (hnone (ho.sending_progress hp))⟩
  | signal h =>
    rw [h] at ho
    cases ho
  | signalFailed h =>
    rw [h] at ho
    cases ho
  | drain h hq ht =>
    have hp := hfits _ _ hq rfl (.inr h)
    cases ht with
    | ordered hc' hw =>
      obtain rfl : m = _ := ChannelConfig.orderedReliable.inj (hc.symm.trans hc')
      rw [h, hw] at ho
      exact ⟨rfl, .inl (hone hq hp (ho.drain hp))⟩
    | unordered hc' | datagram hc' | datagramRefused hc' => cases hc.symm.trans hc'
  | drainSending hc' h hw hp =>
    obtain rfl : m = _ := ChannelConfig.orderedReliable.inj (hc.symm.trans hc')
    rw [h, hw] at ho
    exact ⟨rfl, .inl (hnone (ho.drain_progress hp))⟩
  | drained hc' h =>
    rw [h] at ho
    generalize v.task.sender = sender at ho hnone ⊢
    cases ho with
    | draining hbuf => exact ⟨rfl, .inl (hnone (.flushing hbuf))⟩
  | drainedEnd hc' => exact absurd hc (hc' m)
  | flushWrite h hw =>
    rw [h, hw] at ho
    cases ho with
    | flushing hbuf => exact ⟨rfl, .inl (h ▸ hnone (.flushing (hbuf.write _)))⟩
  | finish h hw hbuf =>
    rw [h, hw] at ho
    cases ho with
    | flushing hbuffered =>
      refine ⟨rfl, .inl (hnone ?_)⟩
      simp only [TaskView.ended, finish_eq_finishedWith hbuffered hbuf]
      exact .ended

/-- What a channel without a stream of its own does in one step: it moves between its phases, or
takes a payload. -/
theorem PlainAt.step (hc : ∀ m, v.task.config ≠ .orderedReliable m)
    (hplain : PlainAt v.task.phase ∧ v.task.sender = none) (hstep : TaskStep close v false v') :
    (PlainAt v'.task.phase ∧ v'.task.sender = none) ∧
      ((v'.queues.bytes.received = v.queues.bytes.received ∧ v'.task.messages = v.task.messages) ∨
        ∃ p q signals r t, v.queues.bytes.recv = some (p, q) ∧
          (signals = true → v.task.phase = .selecting .idle) ∧ v.task.Takes signals p false r t ∧
          v'.queues.bytes = q ∧ v'.task.messages = t.messages) := by
  have htakes : ∀ {signals p r t}, v.task.Takes signals p false r t →
      r = .done ∧ t.sender = none := fun ht ↦ by
    cases ht with
    | ordered hc' => exact absurd hc' (hc _)
    | _ => exact ⟨rfl, hplain.2⟩
  cases hstep with
  | opened hc' => exact absurd hc' (hc _)
  | @close inner r h hr =>
    by_cases hpeer : r = .value .peerClosed
    · subst hpeer
      exact ⟨⟨.ended, hplain.2⟩, .inl ⟨rfl, rfl⟩⟩
    · rw [TaskView.closed_eq v hpeer]
      exact ⟨⟨.draining, hplain.2⟩, .inl ⟨rfl, rfl⟩⟩
  | channelClose | channelCloseDropped | bytesFinished =>
    exact ⟨⟨.draining, hplain.2⟩, .inl ⟨rfl, rfl⟩⟩
  | recv h hq ht =>
    obtain ⟨rfl, hsender⟩ := htakes ht
    exact ⟨⟨.idle, hsender⟩, .inr ⟨_, _, true, _, _, hq, fun _ ↦ h, ht, rfl, rfl⟩⟩
  | drain h hq ht =>
    obtain ⟨rfl, hsender⟩ := htakes ht
    exact ⟨⟨.draining, hsender⟩, .inr ⟨_, _, false, _, _, hq, by simp, ht, rfl, rfl⟩⟩
  | signal => exact ⟨⟨.idle, hplain.2⟩, .inl ⟨rfl, rfl⟩⟩
  | drainedEnd => exact ⟨⟨.ended, hplain.2⟩, .inl ⟨rfl, rfl⟩⟩
  | sending hc' | drainSending hc' | drained hc' => exact absurd hc' (hc _)
  | signalFailed h | flushWrite h | finish h =>
    rw [h] at hplain
    cases hplain.1

/-- **A channel task does not lose what it received**, as long as the peer is there. -/
theorem ChannelTask.Written.step (hw : v.task.Written v.queues.bytes.received)
    (hfits : ∀ p ∈ v.queues.bytes.queued, v.task.config.Fits p) (hstep : TaskStep close v false v') :
    v'.task.Written v'.queues.bytes.received ∨
      .peerClosed ∈ close.log ∧ v'.task.CutOff v'.queues.bytes.received := by
  have hid := hstep.frame.id
  have hconfig := hstep.frame.config
  rw [Written, hconfig, hid]
  cases hc : v.task.config with
  | orderedReliable m =>
    rw [Written, hc] at hw
    rw [hc] at hfits
    obtain ⟨hmessages, ⟨added, hreceived, -, ho⟩ | ⟨hpeer, rfl⟩⟩ :=
      hw.1.step hc (fun p q hq _ _ ↦ hfits p (Mpsc.mem_queued_of_recv hq)) hstep
    · rw [← frames_append, ← hreceived] at ho
      exact .inl ⟨ho, hmessages.trans hw.2⟩
    · exact .inr ⟨hpeer, ⟨m, hc⟩, rfl, hmessages.trans hw.2, fun w hsender ↦
        (hsender ▸ hw.1).stream_le⟩
  | unreliable =>
    rw [Written, hc] at hw
    obtain ⟨hplain', h | ⟨p, q, signals, r, t, -, -, ht, -, h⟩⟩ :=
      PlainAt.step (by simp [hc]) hw.1 hstep
    · exact .inl ⟨hplain', h.2.trans hw.2⟩
    · cases ht with
      | datagram | datagramRefused => exact .inl ⟨hplain', h.trans hw.2⟩
      | ordered hc' | unordered hc' => cases hc.symm.trans hc'
  | unorderedReliable m =>
    rw [Written, hc] at hw
    obtain ⟨hplain, hpayloads, hat⟩ := hw
    left
    obtain ⟨hplain', h | ⟨p, q, signals, r, t, hq, -, ht, rfl, h⟩⟩ :=
      PlainAt.step (by simp [hc]) hplain hstep
    · rw [h.1, h.2]
      exact ⟨hplain', hpayloads, hat⟩
    · cases ht with
      | unordered hc' =>
        rw [h, Mpsc.received_of_recv hq]
        exact ⟨hplain', OneEach.append ⟨hpayloads, hat⟩ .opening⟩
      | ordered hc' | datagram hc' | datagramRefused hc' => cases hc.symm.trans hc'

/-- One step of a message task. -/
theorem ChannelTask.Written.message {t : ChannelTask} {received : List Bytes} {k : ℕ}
    {mt mt' : MessageTask} {s s' : Mpsc ChannelAsyncMessage} (hw : t.Written received)
    (hc : t.config = .unorderedReliable m) (hfits : ∀ p ∈ received, p.length ≤ m)
    (hmt : t.messages[k]? = some mt) (hstep : MessageStep (.new t.id m) mt s false mt' s') :
    ChannelTask.Written { t with messages := t.messages.set k mt' } received := by
  rw [Written, hc] at hw
  obtain ⟨hplain, hpayloads, hat⟩ := hw
  have hmem := List.mem_of_getElem? hmt
  have hpayload := hstep.frame.1
  have hmt' := (hat mt hmem).step
    (.opened mt (hfits _ (hpayloads ▸ List.mem_map_of_mem (f := (·.payload)) hmem))) hstep
  rw [Written, hc]
  exact ⟨hplain, OneEach.set ⟨hpayloads, hat⟩ hmt hpayload (hpayload ▸ hmt')⟩

/-! ### Leaving the loop -/

/-- A reason for a task to leave its loop: a close order, or the end of a queue. -/
def TaskView.MayLeave (close : Broadcast CloseReason) (v : TaskView) : Prop :=
  (∃ r, close.recv v.task.closeRecv = some r) ∨ v.queues.close.sent ≠ [] ∨
    v.queues.close.sender = false ∨ v.queues.bytes.sender = false

theorem ChannelTask.Written.not_signaling {t : ChannelTask} {received : List Bytes}
    (hw : t.Written received) : t.phase ≠ .selecting .signaling := by
  intro h
  rw [Written] at hw
  split at hw
  · rw [h] at hw
    cases hw.1
  · rw [h] at hw
    cases hw.1.1
  · rw [h] at hw
    cases hw.1.1

theorem TaskStep.mayLeave (hstep : TaskStep close v false v')
    (hsignal : v.task.phase ≠ .selecting .signaling) (hleft : v'.task.phase.Leaving) :
    v.task.phase.Leaving ∨ v.MayLeave close := by
  cases hstep with
  | opened | recv | sending | signal => exact hleft.elim
  | close h hr => exact .inr (.inl ⟨_, hr⟩)
  | channelClose h hq =>
    obtain ⟨rest, hqueued, -⟩ := Mpsc.recv_eq_some.1 hq
    exact .inr (.inr (.inl (by simp [Mpsc.sent, hqueued])))
  | channelCloseDropped h hq =>
    exact .inr (.inr (.inr (.inl (by simpa using (Bool.and_eq_true_iff.1 hq).2))))
  | bytesFinished h hq =>
    exact .inr (.inr (.inr (.inr (by simpa using (Bool.and_eq_true_iff.1 hq).2))))
  | signalFailed h => exact absurd h hsignal
  | drain h | drainSending _ h | drained _ h | drainedEnd _ h | flushWrite h | finish h =>
    left
    rw [h]
    trivial

theorem TaskStep.queue_drained (hstep : TaskStep close v false v') (hpeer : .peerClosed ∉ close.log)
    (hsignal : v.task.phase ≠ .selecting .signaling)
    (hempty : v.task.phase.Drained → v.queues.bytes.queued = []) (h' : v'.task.phase.Drained) :
    v'.queues.bytes.queued = [] := by
  cases hstep with
  | close h hr =>
    rw [TaskView.closed_eq v fun hr' ↦ hpeer (Broadcast.mem_log_of_recv (hr' ▸ hr))] at h'
    exact h'.elim
  | opened | recv | sending | signal | channelClose | channelCloseDropped | bytesFinished =>
    exact h'.elim
  | @drain p q _ r t h hq ht => cases r <;> exact h'.elim
  | @drainSending m s w w' _ r hc h hw hp => cases r <;> exact h'.elim
  | signalFailed h => exact absurd h hsignal
  | drained hc h hq => exact hq
  | drainedEnd hc h hq => exact hq
  | flushWrite h => exact hempty (h ▸ trivial)
  | finish h => exact hempty (h ▸ trivial)

end Step

end BevyIroh
