import BevyIroh.Lib.FramedWrite
import BevyIroh.Shared.PeerConnection
import BevyIroh.Shared.Reliable.Codec

/-!
# Channel tasks

Each send channel has a task of its own.  All three kinds begin with a `select!` between the close
order of the connection, the close order of the channel, and a loop that sends what comes out of the
queue of payloads; any branch that is ready may be taken, wherever the loop is.  Then the payloads
left in the queue are sent, unless the peer is known to be gone, and the task ends.

They differ in what they do with a payload (`Takes`): an ordered channel writes it to its one stream,
an unordered one spawns a task that writes it to a stream of its own, an unreliable one sends a
datagram.

A step carries a flag that marks a fault of the transport: a stream that cannot be opened, a write
that fails, a datagram that is refused because the connection is lost.
-/

set_option autoImplicit false

namespace BevyIroh

/-- How much a `FramedWrite` buffers before an item has to wait. -/
def backpressureBoundary : ℕ := 8 * 1024

namespace QuinnetProtocolCodecEncoder

/-- The first poll of `frame_sender.send(payload)`. -/
abbrev startSend (self : QuinnetProtocolCodecEncoder) (w : FramedWrite U8) (p : Bytes) :
    SendResult Bytes × FramedWrite U8 :=
  w.startSend self.encode backpressureBoundary p

/-- A later poll of it. -/
abbrev Progress (self : QuinnetProtocolCodecEncoder) (w : FramedWrite U8) (s : SendProgress Bytes)
    (fault : Bool) (r : SendResult Bytes) (w' : FramedWrite U8) : Prop :=
  w.Progress self.encode backpressureBoundary s fault r w'

end QuinnetProtocolCodecEncoder

/-! ## Tasks that send one payload -/

inductive MessagePhase where
  /-- In `open_uni`. -/
  | opening
  | sending (s : SendProgress Bytes)
  /-- Telling the sync side that the connection is lost. -/
  | signaling
  | ended
deriving DecidableEq, Repr

/-- The task an unordered channel spawns for a payload. -/
structure MessageTask where
  payload : Bytes
  /-- A failure is signaled, and not only logged. -/
  signals : Bool
  phase : MessagePhase := .opening
  sender : Option (FramedWrite U8) := none
deriving DecidableEq, Repr

namespace MessageTask

/-- What follows a poll of `send`: the stream is finished when the task ends. -/
def afterSend (self : MessageTask) (sender : FramedWrite U8) : SendResult Bytes → MessageTask
  | .pending s => { self with phase := .sending s, sender := some sender }
  | .done => { self with phase := .ended, sender := some sender.finish }
  | .failed =>
    if self.signals then { self with phase := .signaling, sender := some sender }
    else { self with phase := .ended, sender := some sender.finish }

end MessageTask

/-- One step of a message task, with the queue of signals to the sync side. -/
inductive MessageStep (encoder : QuinnetProtocolCodecEncoder) :
    MessageTask → Mpsc ChannelAsyncMessage → Bool → MessageTask → Mpsc ChannelAsyncMessage → Prop
  | opened {t : MessageTask} {q : Mpsc ChannelAsyncMessage} (h : t.phase = .opening) :
      MessageStep encoder t q false
        (t.afterSend (encoder.startSend {} t.payload).2 (encoder.startSend {} t.payload).1) q
  /-- `expect("Failed to open send stream")`. -/
  | openFailed {t : MessageTask} {q : Mpsc ChannelAsyncMessage} (h : t.phase = .opening) :
      MessageStep encoder t q true { t with phase := .ended } q
  | sending {t : MessageTask} {q : Mpsc ChannelAsyncMessage} {s : SendProgress Bytes}
      {w w' : FramedWrite U8} {fault : Bool} {r : SendResult Bytes} (h : t.phase = .sending s)
      (hw : t.sender = some w)
      (hp : encoder.Progress w s fault r w') :
      MessageStep encoder t q fault (t.afterSend w' r) q
  | signal {t : MessageTask} {q : Mpsc ChannelAsyncMessage} (h : t.phase = .signaling)
      (hq : q.Ready) :
      MessageStep encoder t q false
        { t with phase := .ended, sender := t.sender.map FramedWrite.finish }
        (q.push .lostConnection)
  /-- `expect("Failed to signal connection lost ...")`. -/
  | signalFailed {t : MessageTask} {q : Mpsc ChannelAsyncMessage} (h : t.phase = .signaling)
      (hq : q.receiver = false) : MessageStep encoder t q false { t with phase := .ended } q

/-! ## Channel tasks -/

/-- Where the loop inside the `select!` is. -/
inductive Inner where
  /-- In `bytes_recv.recv`. -/
  | idle
  | sending (s : SendProgress Bytes)
  | signaling
deriving DecidableEq, Repr

def Inner.afterSend : SendResult Bytes → Inner
  | .pending s => .sending s
  | .done => .idle
  | .failed => .signaling

inductive TaskPhase where
  /-- In `open_uni`; ordered channels only. -/
  | opening
  | selecting (inner : Inner)
  /-- In the loop over what is left in the queue. -/
  | draining (sending : Option (SendProgress Bytes))
  /-- In the last `flush`; ordered channels only. -/
  | flushing
  | ended
deriving DecidableEq, Repr

/-- In the last loop a payload that cannot be sent is only logged. -/
def TaskPhase.afterDrainSend : SendResult Bytes → TaskPhase
  | .pending s => .draining (some s)
  | _ => .draining none

structure ChannelTask where
  id : ChannelId
  config : ChannelConfig
  /-- The task's receiver of the close order. -/
  closeRecv : Cursor
  phase : TaskPhase
  /-- The stream of an ordered channel. -/
  sender : Option (FramedWrite U8) := none
  /-- The tasks an unordered channel has spawned. -/
  messages : List MessageTask := []
  /-- The datagrams an unreliable channel has sent. -/
  datagrams : List Bytes := []
deriving DecidableEq, Repr

namespace ChannelTask

def new (id : ChannelId) (config : ChannelConfig) (closeRecv : Cursor) : ChannelTask where
  id := id
  config := config
  closeRecv := closeRecv
  phase := match config with
    | .orderedReliable _ => .opening
    | _ => .selecting .idle

/-- The task and those it spawned have ended. -/
def Done (self : ChannelTask) : Prop :=
  self.phase = .ended ∧ ∀ m ∈ self.messages, m.phase = .ended

/-- What a task does with a payload. -/
inductive Takes (t : ChannelTask) (signals : Bool) (p : Bytes) :
    Bool → SendResult Bytes → ChannelTask → Prop
  | ordered {m : ℕ} {w : FramedWrite U8} (hc : t.config = .orderedReliable m)
      (hw : t.sender = some w) :
      Takes t signals p false ((QuinnetProtocolCodecEncoder.new t.id m).startSend w p).1
        { t with sender := some ((QuinnetProtocolCodecEncoder.new t.id m).startSend w p).2 }
  | unordered {m : ℕ} (hc : t.config = .unorderedReliable m) :
      Takes t signals p false .done
        { t with messages := t.messages ++ [{ payload := p, signals := signals }] }
  | datagram (hc : t.config = .unreliable) :
      Takes t signals p false .done { t with datagrams := t.datagrams ++ [t.id :: p] }
  /-- The datagram is too large, or datagrams are not supported. -/
  | datagramRefused (hc : t.config = .unreliable) : Takes t signals p false .done t
  | datagramLost (hc : t.config = .unreliable) : Takes t signals p true .failed t

end ChannelTask

/-- A task with the queues it works on: those of its channel, and the signals to the sync side. -/
structure TaskView where
  task : ChannelTask
  queues : ChannelQueues
  signals : Mpsc ChannelAsyncMessage

namespace TaskView

/-- The task returns, or panics, and its receivers go with it. -/
def ended (v : TaskView) : TaskView :=
  { v with task.phase := .ended, queues := v.queues.dropReceivers }

/-- The `select!` is left by the close order of the connection.  A receiver that lagged behind or
lost its sender counts as a local order; after the end of the peer nothing is sent any more. -/
def closed (v : TaskView) : BroadcastRecv CloseReason → TaskView
  | .value .peerClosed => v.ended
  | _ => { v with task.phase := .draining none }

end TaskView

/-- One step of a channel task. -/
inductive TaskStep (close : Broadcast CloseReason) : TaskView → Bool → TaskView → Prop
  | opened {v : TaskView} {m : ℕ} (hc : v.task.config = .orderedReliable m)
      (h : v.task.phase = .opening) :
      TaskStep close v false
        { v with task.phase := .selecting .idle, task.sender := some {} }
  /-- `expect("Failed to open send stream")`. -/
  | openFailed {v : TaskView} (h : v.task.phase = .opening) : TaskStep close v true v.ended
  | close {v : TaskView} {inner : Inner} {r : BroadcastRecv CloseReason}
      (h : v.task.phase = .selecting inner) (hr : close.recv v.task.closeRecv = some r) :
      TaskStep close v false (v.closed r)
  | channelClose {v : TaskView} {inner : Inner} {q : Mpsc Unit}
      (h : v.task.phase = .selecting inner) (hq : v.queues.close.recv = some ((), q)) :
      TaskStep close v false { v with task.phase := .draining none, queues.close := q }
  | channelCloseDropped {v : TaskView} {inner : Inner} (h : v.task.phase = .selecting inner)
      (hq : v.queues.close.finished = true) :
      TaskStep close v false { v with task.phase := .draining none }
  | recv {v : TaskView} {p : Bytes} {q : Mpsc Bytes} {fault : Bool} {r : SendResult Bytes}
      {t : ChannelTask} (h : v.task.phase = .selecting .idle)
      (hq : v.queues.bytes.recv = some (p, q)) (ht : v.task.Takes true p fault r t) :
      TaskStep close v fault
        { v with task := { t with phase := .selecting (.afterSend r) }, queues.bytes := q }
  | bytesFinished {v : TaskView} (h : v.task.phase = .selecting .idle)
      (hq : v.queues.bytes.finished = true) :
      TaskStep close v false { v with task.phase := .draining none }
  | sending {v : TaskView} {m : ℕ} {s : SendProgress Bytes} {w w' : FramedWrite U8} {fault : Bool}
      {r : SendResult Bytes} (hc : v.task.config = .orderedReliable m)
      (h : v.task.phase = .selecting (.sending s)) (hw : v.task.sender = some w)
      (hp : (QuinnetProtocolCodecEncoder.new v.task.id m).Progress w s fault r w') :
      TaskStep close v fault
        { v with task.phase := .selecting (.afterSend r), task.sender := some w' }
  | signal {v : TaskView} (h : v.task.phase = .selecting .signaling) (hq : v.signals.Ready) :
      TaskStep close v false
        { v with task.phase := .selecting .idle, signals := v.signals.push .lostConnection }
  /-- `expect("Failed to signal connection lost ...")`. -/
  | signalFailed {v : TaskView} (h : v.task.phase = .selecting .signaling)
      (hq : v.signals.receiver = false) : TaskStep close v false v.ended
  | drain {v : TaskView} {p : Bytes} {q : Mpsc Bytes} {fault : Bool} {r : SendResult Bytes}
      {t : ChannelTask} (h : v.task.phase = .draining none)
      (hq : v.queues.bytes.recv = some (p, q)) (ht : v.task.Takes false p fault r t) :
      TaskStep close v fault
        { v with task := { t with phase := .afterDrainSend r }, queues.bytes := q }
  | drainSending {v : TaskView} {m : ℕ} {s : SendProgress Bytes} {w w' : FramedWrite U8}
      {fault : Bool} {r : SendResult Bytes} (hc : v.task.config = .orderedReliable m)
      (h : v.task.phase = .draining (some s)) (hw : v.task.sender = some w)
      (hp : (QuinnetProtocolCodecEncoder.new v.task.id m).Progress w s fault r w') :
      TaskStep close v fault { v with task.phase := .afterDrainSend r, task.sender := some w' }
  | drained {v : TaskView} {m : ℕ} (hc : v.task.config = .orderedReliable m)
      (h : v.task.phase = .draining none) (hq : v.queues.bytes.queued = []) :
      TaskStep close v false { v with task.phase := .flushing }
  | drainedEnd {v : TaskView} (hc : ∀ m, v.task.config ≠ .orderedReliable m)
      (h : v.task.phase = .draining none) (hq : v.queues.bytes.queued = []) :
      TaskStep close v false v.ended
  | flushWrite {v : TaskView} {w : FramedWrite U8} {n : ℕ} (h : v.task.phase = .flushing)
      (hw : v.task.sender = some w) (hpos : 0 < n) (hle : n ≤ w.buffer.length) :
      TaskStep close v false { v with task.sender := some (w.write n) }
  | flushFailed {v : TaskView} {w : FramedWrite U8} (h : v.task.phase = .flushing)
      (hw : v.task.sender = some w) (hbuf : w.buffer ≠ []) :
      TaskStep close v true (TaskView.ended { v with task.sender := some w.finish })
  | finish {v : TaskView} {w : FramedWrite U8} (h : v.task.phase = .flushing)
      (hw : v.task.sender = some w) (hbuf : w.buffer = []) :
      TaskStep close v false (TaskView.ended { v with task.sender := some w.finish })

/-! ## What a task leaves alone -/

theorem MessageTask.frame_afterSend (t : MessageTask) (w : FramedWrite U8) (r : SendResult Bytes) :
    (t.afterSend w r).payload = t.payload ∧ (t.afterSend w r).signals = t.signals := by
  cases r with
  | pending | done => exact ⟨rfl, rfl⟩
  | failed =>
    rw [afterSend]
    split_ifs <;> exact ⟨rfl, rfl⟩

theorem MessageStep.frame {encoder : QuinnetProtocolCodecEncoder} {t t' : MessageTask}
    {q q' : Mpsc ChannelAsyncMessage} {fault : Bool} (h : MessageStep encoder t q fault t' q') :
    t'.payload = t.payload ∧ t'.signals = t.signals := by
  cases h with
  | opened | sending => exact t.frame_afterSend _ _
  | _ => exact ⟨rfl, rfl⟩

theorem MessageStep.signals_receiver {encoder : QuinnetProtocolCodecEncoder} {t t' : MessageTask}
    {q q' : Mpsc ChannelAsyncMessage} {fault : Bool} (h : MessageStep encoder t q fault t' q') :
    q'.receiver = q.receiver := by
  cases h <;> rfl

theorem TaskStep.signals_receiver {close : Broadcast CloseReason} {v v' : TaskView} {fault : Bool}
    (h : TaskStep close v fault v') : v'.signals.receiver = v.signals.receiver := by
  cases h with
  | @close _ r =>
    cases r with
    | value reason => cases reason <;> rfl
    | _ => rfl
  | _ => rfl

end BevyIroh
