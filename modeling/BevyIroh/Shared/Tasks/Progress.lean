import BevyIroh.Shared.Tasks.Link

/-!
# Channel tasks that are told to close

A channel task that has not ended can always go on once its receiver of the close order has something
for it, and nobody listens to its signals any more: it leaves its loop, sends what is left in its
queue, and ends.  So does a task that was spawned for one payload, although it never looks at the
close order.

What a task needs for that is that its phase and its stream fit together (`ChannelTask.Proper`), which
every step keeps, faults included.  An operation on the transport completes or fails; a task that waits
for it is not at rest.
-/

set_option autoImplicit false

namespace BevyIroh

/-! ## Proper tasks -/

/-- The phases in which a channel task uses a stream. -/
def TaskPhase.Streams : TaskPhase → Prop
  | .opening => True
  | .selecting (.sending _) => True
  | .draining (some _) => True
  | .flushing => True
  | _ => False

/-- A payload is written to a stream that is there. -/
def MessageTask.Proper (t : MessageTask) : Prop := ∀ s, t.phase = .sending s → t.sender.isSome

structure ChannelTask.Proper (t : ChannelTask) : Prop where
  ordered : t.phase.Streams → ∃ m, t.config = .orderedReliable m
  /-- An ordered channel has its stream, once it is opened. -/
  sender : ∀ m, t.config = .orderedReliable m → t.phase = .opening ∨ t.phase = .ended ∨ t.sender.isSome
  unordered : t.messages ≠ [] → ∃ m, t.config = .unorderedReliable m
  messages : ∀ mt ∈ t.messages, mt.Proper

theorem ChannelTask.proper_new (id : ChannelId) (config : ChannelConfig) (closeRecv : Cursor) :
    (ChannelTask.new id config closeRecv).Proper := by
  cases config <;> constructor <;> simp [ChannelTask.new, TaskPhase.Streams]

variable {encoder : QuinnetProtocolCodecEncoder} {close : Broadcast CloseReason}

theorem MessageTask.proper_afterSend (t : MessageTask) (w : FramedWrite U8) (r : SendResult Bytes) :
    (t.afterSend w r).Proper := by
  intro s h
  cases r with
  | pending => rfl
  | done => cases h
  | failed =>
    rw [afterSend] at h
    split_ifs at h

theorem MessageTask.Proper.step {t t' : MessageTask} {q q' : Mpsc ChannelAsyncMessage} {fault : Bool}
    (h : MessageStep encoder t q fault t' q') : t'.Proper := by
  cases h with
  | opened => exact t.proper_afterSend _ _
  | sending => exact t.proper_afterSend _ _
  | openFailed | signal | signalFailed => exact nofun

/-- A message task that nobody listens to ends. -/
theorem MessageTask.Proper.exists_step {t : MessageTask} (ht : t.Proper) {q : Mpsc ChannelAsyncMessage}
    (hq : q.receiver = false) (hne : t.phase ≠ .ended) :
    ∃ t' q', MessageStep encoder t q false t' q' := by
  cases h : t.phase with
  | opening => exact ⟨_, _, .opened h⟩
  | sending s =>
    obtain ⟨w, hw⟩ := Option.isSome_iff_exists.1 (ht s h)
    obtain ⟨r, w', hp⟩ : ∃ r w', encoder.Progress w s false r w' := FramedWrite.exists_progress w s
    exact ⟨_, _, .sending h hw hp⟩
  | signaling => exact ⟨_, _, .signalFailed h hq⟩
  | ended => exact absurd h hne

namespace ChannelTask

variable {v v' : TaskView} {fault : Bool}

theorem Proper.ended (hv : v.task.Proper) : v.ended.task.Proper where
  ordered := False.elim
  sender _ _ := .inr (.inl rfl)
  unordered := hv.unordered
  messages := hv.messages

/-- A task that is left with the stream it has. -/
theorem Proper.leave {t : ChannelTask} (ht : t.Proper) {phase : TaskPhase}
    (hstreams : phase.Streams → ∃ m, t.config = .orderedReliable m)
    (hopened : t.phase ≠ .opening) (hended : t.phase ≠ .ended) :
    Proper { t with phase := phase } where
  ordered := hstreams
  sender m hc := .inr (.inr (((ht.sender m hc).resolve_left hopened).resolve_left hended))
  unordered := ht.unordered
  messages := ht.messages

/-- A task that has written to its stream. -/
theorem Proper.written {t : ChannelTask} (ht : t.Proper) {m : ℕ} (hc : t.config = .orderedReliable m)
    (phase : TaskPhase) (w : FramedWrite U8) :
    Proper { t with phase := phase, sender := some w } where
  ordered _ := ⟨m, hc⟩
  sender _ _ := .inr (.inr rfl)
  unordered := ht.unordered
  messages := ht.messages

/-- A task that has taken a payload is busy with it only if it writes it to its own stream. -/
theorem Proper.takes {t t' : ChannelTask} (ht : t.Proper) {signals : Bool} {p : Bytes}
    {r : SendResult Bytes} (h : t.Takes signals p fault r t') {phase : TaskPhase}
    (hphase : phase.Streams → ∃ s, r = .pending s) : Proper { t' with phase := phase } := by
  have hidle : ¬ ∃ s, (.done : SendResult Bytes) = .pending s := by rintro ⟨s, ⟨⟩⟩
  have hfailed : ¬ ∃ s, (.failed : SendResult Bytes) = .pending s := by rintro ⟨s, ⟨⟩⟩
  cases h with
  | ordered hc hw => exact ht.written hc phase _
  | unordered hc =>
    refine ⟨fun hs ↦ (hidle (hphase hs)).elim, fun m hm ↦ ?_, fun _ ↦ ⟨_, hc⟩, fun mt hmt ↦ ?_⟩
    · exact nomatch hc.symm.trans hm
    · rcases List.mem_append.1 hmt with hmt | hmt
      · exact ht.messages mt hmt
      · rw [List.mem_singleton.1 hmt]
        rintro s ⟨⟩
  | datagram hc | datagramRefused hc =>
    exact ⟨fun hs ↦ (hidle (hphase hs)).elim, fun m hm ↦ (nomatch hc.symm.trans hm), ht.unordered,
      ht.messages⟩
  | datagramLost hc =>
    exact ⟨fun hs ↦ (hfailed (hphase hs)).elim, fun m hm ↦ (nomatch hc.symm.trans hm), ht.unordered,
      ht.messages⟩

/-- **Every step keeps a task proper.** -/
theorem Proper.step (hv : v.task.Proper) (h : TaskStep close v fault v') : v'.task.Proper := by
  have hleave : ∀ {phase inner}, v.task.phase = .selecting inner → ¬ phase.Streams →
      Proper { v.task with phase := phase } := fun h hs ↦
    hv.leave (fun hp ↦ absurd hp hs) (by rw [h]; rintro ⟨⟩) (by rw [h]; rintro ⟨⟩)
  cases h with
  | opened hc h => exact hv.written hc _ _
  | openFailed h => exact hv.ended
  | @close inner r h hr =>
    cases r with
    | value reason =>
      cases reason with
      | peerClosed => exact hv.ended
      | localOrder => exact hleave h not_false
    | _ => exact hleave h not_false
  | channelClose h | channelCloseDropped h | bytesFinished h => exact hleave h not_false
  | @recv p q fault r t h hq ht =>
    refine hv.takes ht fun hs ↦ ?_
    cases r with
    | pending s => exact ⟨s, rfl⟩
    | _ => exact hs.elim
  | sending hc h hw hp => exact hv.written hc _ _
  | signal h => exact hleave h not_false
  | signalFailed h => exact hv.ended
  | @drain p q fault r t h hq ht =>
    refine hv.takes ht fun hs ↦ ?_
    cases r with
    | pending s => exact ⟨s, rfl⟩
    | _ => exact hs.elim
  | drainSending hc h hw hp => exact hv.written hc _ _
  | drained hc h =>
    exact hv.leave (fun _ ↦ ⟨_, hc⟩) (by rw [h]; rintro ⟨⟩) (by rw [h]; rintro ⟨⟩)
  | drainedEnd => exact hv.ended
  | flushWrite h hw =>
    obtain ⟨m, hc⟩ := hv.ordered (by rw [h]; trivial)
    exact hv.written hc _ _
  | flushFailed | finish =>
    exact ⟨False.elim, fun _ _ ↦ .inr (.inl rfl), hv.unordered, hv.messages⟩

/-- A message task takes a step. -/
theorem Proper.message {t : ChannelTask} (ht : t.Proper) {k : ℕ} {mt mt' : MessageTask}
    {q q' : Mpsc ChannelAsyncMessage} (hm : t.messages[k]? = some mt)
    (h : MessageStep encoder mt q fault mt' q') :
    Proper { t with messages := t.messages.set k mt' } where
  ordered := ht.ordered
  sender := ht.sender
  unordered _ := ht.unordered (List.ne_nil_of_mem (List.mem_of_getElem? hm))
  messages mt₁ hmt := by
    rcases List.mem_or_eq_of_mem_set hmt with hmt | rfl
    · exact ht.messages mt₁ hmt
    · exact MessageTask.Proper.step h

/-- **A proper task that has not ended can go on**, once it sees a close order. -/
theorem Proper.exists_step (hv : v.task.Proper) (hclose : (close.recv v.task.closeRecv).isSome)
    (hne : v.task.phase ≠ .ended) : ∃ v', TaskStep close v false v' := by
  obtain ⟨r, hr⟩ := Option.isSome_iff_exists.1 hclose
  have hsender : ∀ {m}, v.task.config = .orderedReliable m → v.task.phase ≠ .opening →
      ∃ w, v.task.sender = some w := fun hc hopened ↦ Option.isSome_iff_exists.1
    (((hv.sender _ hc).resolve_left hopened).resolve_left hne)
  cases h : v.task.phase with
  | opening =>
    obtain ⟨m, hc⟩ := hv.ordered (by rw [h]; trivial)
    exact ⟨_, .opened hc h⟩
  | selecting inner => exact ⟨_, .close h hr⟩
  | draining s =>
    cases s with
    | some s =>
      obtain ⟨m, hc⟩ := hv.ordered (by rw [h]; trivial)
      obtain ⟨w, hw⟩ := hsender hc (by rw [h]; rintro ⟨⟩)
      obtain ⟨r, w', hp⟩ : ∃ r w',
          (QuinnetProtocolCodecEncoder.new v.task.id m).Progress w s false r w' :=
        FramedWrite.exists_progress w s
      exact ⟨_, .drainSending hc h hw hp⟩
    | none =>
      cases hq : v.queues.bytes.queued with
      | nil =>
        cases hc : v.task.config with
        | orderedReliable m => exact ⟨_, .drained hc h hq⟩
        | _ => exact ⟨_, .drainedEnd (by simp [hc]) h hq⟩
      | cons p rest =>
        have hrecv := Mpsc.recv_eq_some.2 ⟨rest, hq, rfl⟩
        cases hc : v.task.config with
        | orderedReliable m =>
          obtain ⟨w, hw⟩ := hsender hc (by rw [h]; rintro ⟨⟩)
          exact ⟨_, .drain h hrecv (.ordered hc hw)⟩
        | unorderedReliable m => exact ⟨_, .drain h hrecv (.unordered hc)⟩
        | unreliable => exact ⟨_, .drain h hrecv (.datagram hc)⟩
  | flushing =>
    obtain ⟨m, hc⟩ := hv.ordered (by rw [h]; trivial)
    obtain ⟨w, hw⟩ := hsender hc (by rw [h]; rintro ⟨⟩)
    by_cases hbuf : w.buffer = []
    · exact ⟨_, .finish h hw hbuf⟩
    · exact ⟨_, .flushWrite h hw Nat.one_pos (List.length_pos_of_ne_nil hbuf)⟩
  | ended => exact absurd h hne

end ChannelTask

/-! ## A connection whose tasks are told to close -/

/-- The steps of the spawner and of the channel tasks in which nothing fails. -/
def LinkAct.Internal : LinkAct → Prop
  | .task _ fault => fault = false
  | .message _ _ fault => fault = false
  | a => a.OfTasks

theorem LinkAct.Internal.ofTasks {a : LinkAct} (ha : a.Internal) : a.OfTasks := by
  cases a <;> trivial

namespace Link

variable {S : Type} {l l' : Link S} {a : LinkAct}

/-- Every channel task is proper. -/
def Proper (l : Link S) : Prop := ∀ {h t}, l.tasks h = some t → t.Proper

theorem Proper.step (hl : l.Proper) (ha : a.OfTasks) (hstep : Step l a l') : l'.Proper := by
  intro h t ht
  cases hstep with
  | listenClose | listenEnded | closeConnection => exact hl ht
  | listenCreate hlisten hq =>
    simp only [spawnTask, Function.update_apply] at ht
    split_ifs at ht
    · obtain rfl := Option.some.inj ht
      exact ChannelTask.proper_new ..
    · exact hl ht
  | task ht₀ hs =>
    simp only [withView, Function.update_apply] at ht
    split_ifs at ht
    · obtain rfl := Option.some.inj ht
      exact (hl ht₀).step (v := l.view _ _) hs
    · exact hl ht
  | message ht₀ hc hm hs =>
    simp only [withView, Function.update_apply] at ht
    split_ifs at ht
    · obtain rfl := Option.some.inj ht
      exact (hl ht₀).message hm hs
    · exact hl ht
  | _ => exact ha.elim

/-- **While a channel task is left, one can go on**, if each of them sees a close order and nobody
listens to their signals. -/
theorem Proper.exists_step (hl : l.Proper) (hsignals : l.conn.fromChannels.receiver = false)
    (hclose : ∀ c, (l.conn.closeSend.recv c).isSome) {h : ℕ} {t : ChannelTask} (ht : l.tasks h = some t)
    (hdone : ¬ t.Done) : ∃ a l', a.Internal ∧ Step l a l' := by
  have hproper := hl ht
  by_cases hended : t.phase = .ended
  · obtain ⟨mt, hmt, hne⟩ : ∃ mt ∈ t.messages, mt.phase ≠ .ended := by
      by_contra hall
      push Not at hall
      exact hdone ⟨hended, hall⟩
    obtain ⟨k, hk⟩ := List.getElem?_of_mem hmt
    obtain ⟨m, hc⟩ := hproper.unordered (List.ne_nil_of_mem hmt)
    obtain ⟨mt', q, hs⟩ : ∃ mt' q, MessageStep (.new t.id m) mt l.conn.fromChannels false mt' q :=
      (hproper.messages mt hmt).exists_step hsignals hne
    exact ⟨.message h k false, _, rfl, .message ht hc hk hs⟩
  · obtain ⟨v, hs⟩ := ChannelTask.Proper.exists_step (v := l.view h t) hproper (hclose _) hended
    exact ⟨.task h false, _, rfl, .task ht hs⟩

/-! ## The spawner -/

/-- The tasks neither spawn the spawner nor undo it. -/
theorem Step.spawner_absent_iff (h : Step l a l') (ha : a.OfTasks) :
    l'.spawner = .absent ↔ l.spawner = .absent := by
  cases h with
  | listenClose h | listenCreate h | listenEnded h | closeConnection h =>
    rw [h]
    simp [spawnTask]
  | task | message => rfl
  | _ => exact ha.elim

theorem Step.of_spawner_closed (h : Step l a l') (ha : a.OfTasks) (hclosed : l'.spawner = .closed) :
    a = .closeConnection ∨ l.spawner = .closed := by
  cases h with
  | closeConnection => exact .inl rfl
  | listenClose | listenEnded => cases hclosed
  | listenCreate | task | message => exact .inr hclosed
  | _ => exact ha.elim

end Link

end BevyIroh
