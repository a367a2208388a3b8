import BevyIroh.Shared.Tasks.Streams

/-!
# Payloads that are too long

The encoder refuses a payload that is longer than `max_frame_size`, with the same error type that a
failing stream has.  What becomes of that depends on where the task is.  In its last loop the error is
logged, and the payloads after it are sent.  In its first loop a reliable channel takes it for the loss
of the connection, and signals that; an unreliable channel signals only `ConnectionLost`.

So a connection on which nothing fails signals no loss as long as no task takes a payload in its first
loop that is too long (`Link.LoopFits`), whatever comes in its last loop; and every payload that is
not too long is sent, `ChannelTask.Sent`.  The condition cannot be weakened: a task that has such a
payload before it can go on to signal the loss (`Link.Refusing.signals`).
-/

set_option autoImplicit false

namespace BevyIroh

open FramedWrite Transition

/-! ## The payloads that fit -/

instance (config : ChannelConfig) : DecidablePred config.Fits := fun p ↦
  match config with
  | .orderedReliable m => inferInstanceAs (Decidable (p.length ≤ m))
  | .unorderedReliable m => inferInstanceAs (Decidable (p.length ≤ m))
  | .unreliable => inferInstanceAs (Decidable True)

namespace ChannelConfig

variable {config : ChannelConfig} {ps qs : List Bytes} {p : Bytes} {m : ℕ}

def fitting (config : ChannelConfig) (ps : List Bytes) : List Bytes := ps.filter (config.Fits ·)

theorem fitting_append : config.fitting (ps ++ qs) = config.fitting ps ++ config.fitting qs :=
  List.filter_append ..

theorem fitting_of_fits (h : ∀ p ∈ ps, config.Fits p) : config.fitting ps = ps :=
  List.filter_eq_self.2 fun p hp ↦ decide_eq_true (h p hp)

theorem fitting_append_refused (h : ¬ config.Fits p) :
    config.fitting (ps ++ [p]) = config.fitting ps := by
  rw [fitting_append, fitting, fitting, List.filter_singleton, decide_eq_false h]
  exact List.append_nil _

/-- The encoder refuses what does not fit. -/
theorem refuses_of_lt (id : ChannelId) (hp : m < p.length) :
    Refuses (QuinnetProtocolCodecEncoder.new id m).encode p := fun buf ↦
  ⟨_, QuinnetProtocolCodecEncoder.encode_of_not_accepts (Nat.not_le.2 hp) buf⟩

end ChannelConfig

/-- A payload that is taken in the first loop is not too long. -/
def TaskView.LoopFits (v v' : TaskView) : Prop :=
  ∀ p q, v.queues.bytes.recv = some (p, q) → v'.queues.bytes = q → v.task.phase = .selecting .idle →
    v.task.config.Fits p

/-! ## What a task sends -/

/-- An ordered channel whose payloads may be too long.  Only in the last loop can such a payload be
waiting for the buffer to be written out. -/
inductive OrderedSent (id : ChannelId) (m : ℕ) (total : Bytes) :
    TaskPhase → Option (FramedWrite U8) → Prop
  | written {phase : TaskPhase} {sender : Option (FramedWrite U8)}
      (h : OrderedAt id m total phase sender) : OrderedSent id m total phase sender
  | refusing {w : FramedWrite U8} {p : Bytes} (hp : m < p.length) (hw : w.Buffered total) :
      OrderedSent id m total (.draining (some (.feeding p))) (some w)

/-- A message task whose payload may be too long: then its stream stays empty, and the task does not
signal. -/
structure MessageTask.Sent (id : ChannelId) (m : ℕ) (mt : MessageTask) : Prop where
  written : MessageAt id m
    (frames id ((ChannelConfig.unorderedReliable m).fitting [mt.payload])) mt.phase mt.sender
  silent : mt.payload.length ≤ m ∨ mt.signals = false

/-- The task has sent what it received and what is not too long. -/
def ChannelTask.Sent (t : ChannelTask) (received : List Bytes) : Prop :=
  match t.config with
  | .orderedReliable m =>
    OrderedSent t.id m (frames t.id ((ChannelConfig.orderedReliable m).fitting received)) t.phase
      t.sender ∧ t.messages = []
  | .unorderedReliable m =>
    (PlainAt t.phase ∧ t.sender = none) ∧ OneEach (MessageTask.Sent t.id m) t.messages received
  | .unreliable => (PlainAt t.phase ∧ t.sender = none) ∧ t.messages = []

theorem ChannelTask.sent_new (id : ChannelId) (config : ChannelConfig) (closeRecv : Cursor) :
    (ChannelTask.new id config closeRecv).Sent [] := by
  cases config with
  | orderedReliable m => exact ⟨.written (.opening rfl), rfl⟩
  | unorderedReliable m => exact ⟨⟨.idle, rfl⟩, rfl, by simp [new]⟩
  | unreliable => exact ⟨⟨.idle, rfl⟩, rfl⟩

/-! ## One step -/

section Step

variable {id : ChannelId} {m : ℕ} {close : Broadcast CloseReason} {v v' : TaskView}

theorem MessageTask.sent_new (id : ChannelId) {p : Bytes} {signals : Bool}
    (h : signals = true → p.length ≤ m) :
    MessageTask.Sent id m { payload := p, signals := signals } where
  written := .opening
  silent := by
    cases signals with
    | true => exact .inl (h rfl)
    | false => exact .inr rfl

/-- With an empty buffer a payload that is too long is refused at once. -/
theorem refused_of_idle {w : FramedWrite U8} {total p : Bytes} (hp : m < p.length)
    (hw : w.Idle total) : (QuinnetProtocolCodecEncoder.new id m).startSend w p = (.failed, w) := by
  refine (ChannelConfig.refuses_of_lt id hp).startSend_of_lt ?_
  rw [hw.buffer]
  exact backpressureBoundary_pos

/-- A message task whose payload is too long ends at once, with nothing on its stream. -/
theorem MessageAt.refused {mt : MessageTask} (hp : m < mt.payload.length)
    (hsignals : mt.signals = false) : MessageAt id m []
      (mt.afterSend ((QuinnetProtocolCodecEncoder.new id m).startSend {} mt.payload).2
        ((QuinnetProtocolCodecEncoder.new id m).startSend {} mt.payload).1).phase
      (mt.afterSend ((QuinnetProtocolCodecEncoder.new id m).startSend {} mt.payload).2
        ((QuinnetProtocolCodecEncoder.new id m).startSend {} mt.payload).1).sender := by
  rw [refused_of_idle hp idle_new, MessageTask.afterSend, if_neg (by simp [hsignals])]
  exact .ended

theorem MessageTask.Sent.step {mt mt' : MessageTask} {q q' : Mpsc ChannelAsyncMessage}
    (h : MessageTask.Sent id m mt) (hstep : MessageStep (.new id m) mt q false mt' q') :
    MessageTask.Sent id m mt' := by
  obtain ⟨hpayload, hsignals⟩ := hstep.frame
  refine ⟨?_, by rw [hpayload, hsignals]; exact h.silent⟩
  rw [hpayload]
  refine h.written.step ?_ hstep
  by_cases hp : mt.payload.length ≤ m
  · rw [ChannelConfig.fitting_of_fits (by simpa [ChannelConfig.Fits] using hp), frames_singleton]
    exact .opened mt hp
  · have hnil : (ChannelConfig.unorderedReliable m).fitting ([] ++ [mt.payload]) = [] :=
      ChannelConfig.fitting_append_refused hp
    rw [List.nil_append] at hnil
    rw [hnil]
    exact .refused (Nat.lt_of_not_le hp) (h.silent.resolve_left hp)

theorem OrderedSent.stream_le {total : Bytes} {phase : TaskPhase} {w : FramedWrite U8}
    (h : OrderedSent id m total phase (some w)) : w.stream.bytes <+: total := by
  cases h with
  | written h => exact h.stream_le
  | refusing hp hw => exact hw.stream_le

/-- A payload that is too long is only logged in the last loop. -/
theorem OrderedSent.refuse {total : Bytes} {w : FramedWrite U8} {p : Bytes}
    (h : OrderedAt id m total (.draining none) (some w)) (hp : m < p.length) :
    OrderedSent id m total
      (.afterDrainSend ((QuinnetProtocolCodecEncoder.new id m).startSend w p).1)
      (some ((QuinnetProtocolCodecEncoder.new id m).startSend w p).2) := by
  obtain ⟨hkept, hr⟩ := (ChannelConfig.refuses_of_lt id hp).startSend w backpressureBoundary
  rw [QuinnetProtocolCodecEncoder.startSend, hkept]
  rcases hr with hr | hr <;> rw [hr]
  · exact .written h
  · cases h with
    | draining hw => exact .refusing hp hw

/-- **An ordered channel sends what fits**, until the end of the peer makes it stop; only the payloads
of its first loop have to fit. -/
theorem OrderedSent.step (hc : v.task.config = .orderedReliable m)
    (ho : OrderedSent v.task.id m
      (frames v.task.id ((ChannelConfig.orderedReliable m).fitting v.queues.bytes.received))
      v.task.phase v.task.sender)
    (hloop : v.LoopFits v') (hstep : TaskStep close v false v') :
    v'.task.messages = v.task.messages ∧
      (OrderedSent v.task.id m
          (frames v.task.id ((ChannelConfig.orderedReliable m).fitting v'.queues.bytes.received))
          v'.task.phase v'.task.sender ∨
        .peerClosed ∈ close.log ∧ v' = v.ended) := by
  generalize hphase : v.task.phase = phase at ho
  generalize hsender : v.task.sender = sender at ho
  cases ho with
  | refusing hp hw =>
    -- the payload goes on waiting, or is given up
    cases hstep with
    | drainSending hc' h hw' hprogress =>
      obtain rfl : m = _ := ChannelConfig.orderedReliable.inj (hc.symm.trans hc')
      cases h.symm.trans hphase
      cases hw'.symm.trans hsender
      obtain ⟨hw, rfl | rfl⟩ := (ChannelConfig.refuses_of_lt _ hp).progress hw hprogress
      · exact ⟨rfl, .inl (.written (.draining hw))⟩
      · exact ⟨rfl, .inl (.refusing hp hw)⟩
    | _ => simp_all
  | written ho =>
    subst hphase hsender
    by_cases hlong : ∃ p q, v.queues.bytes.recv = some (p, q) ∧ v.task.phase = .draining none ∧
        m < p.length
    · obtain ⟨p, q, hq, hphase, hp⟩ := hlong
      cases hstep with
      | drain h hq' ht =>
        cases hq.symm.trans hq'
        cases ht with
        | ordered hc' hw =>
          obtain rfl : m = _ := ChannelConfig.orderedReliable.inj (hc.symm.trans hc')
          rw [hphase, hw] at ho
          have hrefused : ¬ (ChannelConfig.orderedReliable m).Fits p := Nat.not_le.2 hp
          refine ⟨rfl, .inl ?_⟩
          simp only [Mpsc.received_of_recv hq]
          rw [ChannelConfig.fitting_append_refused hrefused]
          exact .refuse ho hp
        | unordered hc' | datagram hc' | datagramRefused hc' => cases hc.symm.trans hc'
      | drained _ _ hnil | drainedEnd _ _ hnil =>
        have hmem := Mpsc.mem_queued_of_recv hq
        rw [hnil] at hmem
        cases hmem
      | _ => simp_all
    · have hfits : ∀ p q, v.queues.bytes.recv = some (p, q) → v'.queues.bytes = q →
          v.task.phase = .selecting .idle ∨ v.task.phase = .draining none → p.length ≤ m := by
        rintro p q hq htaken (hidle | hdraining)
        · have hp := hloop p q hq htaken hidle
          rwa [hc] at hp
        · exact Nat.le_of_not_lt fun hp ↦ hlong ⟨p, q, hq, hdraining, hp⟩
      obtain ⟨hmessages, ⟨added, hreceived, hadded, ho⟩ | hpeer⟩ := ho.step hc hfits hstep
      · have hall : (ChannelConfig.orderedReliable m).fitting added = added :=
          ChannelConfig.fitting_of_fits hadded
        refine ⟨hmessages, .inl (.written ?_)⟩
        rwa [hreceived, ChannelConfig.fitting_append, hall, frames_append]
      · exact ⟨hmessages, .inr hpeer⟩

/-- **A channel task sends what fits**, as long as the peer is there. -/
theorem ChannelTask.Sent.step (hw : v.task.Sent v.queues.bytes.received)
    (hloop : v.LoopFits v') (hstep : TaskStep close v false v') :
    v'.task.Sent v'.queues.bytes.received ∨
      .peerClosed ∈ close.log ∧ v'.task.CutOff (v'.task.config.fitting v'.queues.bytes.received) := by
  have hid := hstep.frame.id
  have hconfig := hstep.frame.config
  rw [Sent, hconfig, hid]
  cases hc : v.task.config with
  | orderedReliable m =>
    simp only [Sent, hc] at hw
    obtain ⟨hmessages, ho | ⟨hpeer, rfl⟩⟩ := OrderedSent.step hc hw.1 hloop hstep
    · exact .inl ⟨ho, hmessages.trans hw.2⟩
    · refine .inr ⟨hpeer, ⟨m, hc⟩, rfl, hmessages.trans hw.2, fun w hsender ↦ ?_⟩
      exact (hsender ▸ hw.1).stream_le
  | unreliable =>
    simp only [Sent, hc] at hw
    obtain ⟨hplain', h | ⟨p, q, signals, r, t, -, -, ht, -, h⟩⟩ :=
      PlainAt.step (by simp [hc]) hw.1 hstep
    · exact .inl ⟨hplain', h.2.trans hw.2⟩
    · cases ht with
      | datagram | datagramRefused => exact .inl ⟨hplain', h.trans hw.2⟩
      | ordered hc' | unordered hc' => cases hc.symm.trans hc'
  | unorderedReliable m =>
    simp only [Sent, hc] at hw
    left
    obtain ⟨hplain', h | ⟨p, q, signals, r, t, hq, hsignals, ht, rfl, h⟩⟩ :=
      PlainAt.step (by simp [hc]) hw.1 hstep
    · rw [h.1, h.2]
      exact ⟨hplain', hw.2⟩
    · cases ht with
      | unordered hc' =>
        rw [h, Mpsc.received_of_recv hq]
        refine ⟨hplain', hw.2.append (MessageTask.sent_new _ fun hs ↦ ?_)⟩
        have hp := hloop p _ hq rfl (hsignals hs)
        rwa [hc] at hp
      | ordered hc' | datagram hc' | datagramRefused hc' => cases hc.symm.trans hc'

/-! ## Signals -/

theorem OrderedAt.not_signaling {total : Bytes} {phase : TaskPhase} {sender : Option (FramedWrite U8)}
    (h : OrderedAt id m total phase sender) : phase ≠ .selecting .signaling := by
  rintro rfl
  cases h

theorem ChannelTask.Sent.not_signaling {t : ChannelTask} {received : List Bytes}
    (hw : t.Sent received) : t.phase ≠ .selecting .signaling := by
  intro h
  rw [Sent, h] at hw
  split at hw
  · cases hw.1 with
    | written ho => exact ho.not_signaling rfl
  · cases hw.1.1
  · cases hw.1.1

/-- The message tasks of an unordered channel do not signal either. -/
theorem MessageTask.Sent.not_signaling {mt : MessageTask} (h : MessageTask.Sent id m mt) :
    mt.phase ≠ .signaling := by
  intro hphase
  have hw := h.written
  rw [hphase] at hw
  cases hw

/-- A task signals only from the state that is for it. -/
theorem TaskStep.signals_eq {fault : Bool} (hstep : TaskStep close v fault v')
    (h : v.task.phase ≠ .selecting .signaling) : v'.signals = v.signals := by
  cases hstep with
  | signal h' => exact absurd h' h
  | @close inner r h' hr =>
    by_cases hpeer : r = .value .peerClosed
    · subst hpeer
      rfl
    · rw [TaskView.closed_eq v hpeer]
  | _ => rfl

theorem MessageStep.signals_eq {encoder : QuinnetProtocolCodecEncoder} {mt mt' : MessageTask}
    {q q' : Mpsc ChannelAsyncMessage} {fault : Bool} (hstep : MessageStep encoder mt q fault mt' q')
    (h : mt.phase ≠ .signaling) : q' = q := by
  cases hstep with
  | signal h' => exact absurd h' h
  | _ => rfl

/-- A payload that is taken in the first loop is handled there. -/
theorem TaskStep.taken {fault : Bool} {p : Bytes} {q : Mpsc Bytes}
    (hstep : TaskStep close v fault v') (hphase : v.task.phase = .selecting .idle)
    (hq : v.queues.bytes.recv = some (p, q)) (htaken : v'.queues.bytes = q) :
    ∃ r t, v.task.Takes true p fault r t ∧
      v'.task = { t with phase := .selecting (.afterSend r) } := by
  have hkept : v'.queues.bytes.received ≠ v.queues.bytes.received := by
    rw [htaken, Mpsc.received_of_recv hq]
    simp
  cases hstep with
  | recv h hq' ht =>
    cases hq.symm.trans hq'
    exact ⟨_, _, ht, rfl⟩
  | @close inner r h' hr =>
    by_cases hpeer : r = .value .peerClosed
    · subst hpeer
      exact absurd rfl hkept
    · rw [TaskView.closed_eq v hpeer] at hkept
      exact absurd rfl hkept
  | channelClose | channelCloseDropped | bytesFinished => exact absurd rfl hkept
  | _ => simp_all

end Step

/-! ## A connection on which nothing fails -/

/-- The transport does not fail in this step. -/
def LinkAct.Faultless : LinkAct → Prop
  | .task _ fault => fault = false
  | .message _ _ fault => fault = false
  | _ => True

namespace Link

variable {S : Type} {l l' : Link S} {a : LinkAct} {h : ℕ} {t : ChannelTask}

/-- No task takes a payload in its first loop that is too long. -/
def LoopFits (l l' : Link S) : Prop :=
  ∀ h t, l.tasks h = some t → (l.view h t).LoopFits (l'.view h t)

/-- What holds in every state of such a run. -/
structure Sending (l : Link S) : Prop extends l.Sound where
  waiting : ∀ {h}, l.tasks h = none → (l.conn.queues h).bytes.received = []
  sent : ∀ {h t}, l.tasks h = some t → t.Sent (l.conn.queues h).bytes.received ∨
    .peerClosed ∈ l.conn.closeSend.log ∧
      t.CutOff (t.config.fitting (l.conn.queues h).bytes.received)

theorem sending_fresh (specific : S) (cfg : RecvChannelsConfiguration) :
    (fresh specific cfg).Sending where
  toSound := sound_fresh specific cfg
  waiting _ := rfl
  sent := nofun

theorem Sending.sent_step (hs : l.Sending) (ha : a.Faultless) (hloop : l.LoopFits l')
    (hstep : Step l a l') (ht : l'.tasks h = some t) : t.Sent (l'.conn.queues h).bytes.received ∨
      .peerClosed ∈ l'.conn.closeSend.log ∧
        t.CutOff (t.config.fitting (l'.conn.queues h).bytes.received) := by
  have hlog := hstep.log_prefix.subset
  refine hstep.task_rule hs.toSound hs.waiting
    (P := fun t received ↦ t.Sent received ∨
      .peerClosed ∈ l.conn.closeSend.log ∧ t.CutOff (t.config.fitting received))
    (Q := fun t received ↦ t.Sent received ∨
      .peerClosed ∈ l'.conn.closeSend.log ∧ t.CutOff (t.config.fitting received))
    hs.sent (fun hP ↦ hP.imp_right fun hcut ↦ ⟨hlog hcut.1, hcut.2⟩)
    (fun id config closeRecv ↦ .inl (ChannelTask.sent_new id config closeRecv)) ?_ ?_ ht
  · intro h t v fault ht₀ heq htask hl hP
    subst heq
    obtain rfl : fault = false := ha
    have hfits : (l.view h t).LoopFits v := fun p q hq htaken ↦ by
      refine hloop h t ht₀ p q hq ?_
      rw [hl]
      simpa [view, withView] using htaken
    rcases hP with hw | ⟨-, hcut⟩
    · exact (ChannelTask.Sent.step (v := l.view h t) hw hfits htask).imp_right
        fun hcut ↦ ⟨hlog hcut.1, hcut.2⟩
    · exact absurd hcut.ended htask.phase_ne_ended
  · intro h t k m mt mt' fault signals ht₀ heq hc hmt hmstep hP
    subst heq
    obtain rfl : fault = false := ha
    rcases hP with hw | ⟨-, hcut⟩
    · refine .inl ?_
      simp only [ChannelTask.Sent, hc] at hw ⊢
      have hmem := List.mem_of_getElem? hmt
      exact ⟨hw.1, hw.2.set hmt hmstep.frame.1 ((hw.2.2 mt hmem).step hmstep)⟩
    · obtain ⟨m', hc'⟩ := hcut.config
      cases hc.symm.trans hc'

theorem Sending.step (hs : l.Sending) (ha : a.Faultless) (hloop : l.LoopFits l')
    (hstep : Step l a l') : l'.Sending where
  toSound := hs.toSound.step hstep
  waiting := hstep.waiting hs.toSound hs.waiting
  sent := hs.sent_step ha hloop hstep

/-- No task is about to signal. -/
theorem Sending.not_signaling (hs : l.Sending) (ht : l.tasks h = some t) :
    t.phase ≠ .selecting .signaling := by
  rcases hs.sent ht with hw | ⟨-, hcut⟩
  · exact hw.not_signaling
  · rw [hcut.ended]
    simp

theorem Sending.message_not_signaling {m : ℕ} {mt : MessageTask} (hs : l.Sending)
    (ht : l.tasks h = some t) (hc : t.config = .unorderedReliable m) (hmt : mt ∈ t.messages) :
    mt.phase ≠ .signaling := by
  rcases hs.sent ht with hw | ⟨-, hcut⟩
  · simp only [ChannelTask.Sent, hc] at hw
    exact (hw.2.2 mt hmt).not_signaling
  · rw [hcut.messages] at hmt
    cases hmt

/-- The tasks signal nothing. -/
theorem Sending.fromChannels_eq (hs : l.Sending) (hstep : Step l a l') (ha : a.OfTasks) :
    l'.conn.fromChannels = l.conn.fromChannels := by
  cases hstep with
  | listenClose | listenCreate | listenEnded | closeConnection => rfl
  | task ht htask => exact htask.signals_eq (hs.not_signaling ht)
  | message ht hc hmt hmstep =>
    exact hmstep.signals_eq (hs.message_not_signaling ht hc (List.mem_of_getElem? hmt))
  | _ => exact ha.elim

/-! ### Where a payload is too long -/

/-- A task is about to signal that the connection is lost. -/
inductive Refusing (l : Link S) : Prop
  | ordered {h : ℕ} {t : ChannelTask} (ht : l.tasks h = some t)
      (hphase : t.phase = .selecting .signaling)
  | message {h m k : ℕ} {t : ChannelTask} {mt : MessageTask} (ht : l.tasks h = some t)
      (hc : t.config = .unorderedReliable m) (hmt : t.messages[k]? = some mt)
      (hlong : m < mt.payload.length) (hsignals : mt.signals = true) (hphase : mt.phase = .opening)

/-- It can go on to do so. -/
theorem Refusing.signals (hr : l.Refusing) (hready : l.conn.fromChannels.Ready) :
    ∃ l', Reachable Step (fun _ a ↦ a.Faultless ∧ a.OfTasks) l l' ∧
      .lostConnection ∈ l'.conn.fromChannels.queued := by
  cases hr with
  | @ordered h t ht hphase =>
    have hfine : (LinkAct.task h false).Faultless ∧ (LinkAct.task h false).OfTasks := ⟨rfl, trivial⟩
    refine ⟨_, Reachable.start.next hfine (.task ht (.signal hphase hready)), ?_⟩
    simp [withView, view, Mpsc.push]
  | @message h m k t mt ht hc hmt hlong hsignals hphase =>
    have hfine : (LinkAct.message h k false).Faultless ∧ (LinkAct.message h k false).OfTasks :=
      ⟨rfl, trivial⟩
    -- the stream is opened and the payload refused, and that is signaled
    have hopened : Reachable Step (fun _ a ↦ a.Faultless ∧ a.OfTasks) l _ :=
      .next .start hfine (.message ht hc hmt (.opened hphase))
    have hlt : k < t.messages.length := (List.getElem?_eq_some_iff.1 hmt).1
    refine ⟨_, hopened.next hfine (.message (h := h) (k := k) (Function.update_self ..) hc
      (List.getElem?_set_self hlt) (.signal ?_ hready)), ?_⟩
    · rw [refused_of_idle hlong idle_new, MessageTask.afterSend, if_pos hsignals]
    · simp [withView, Mpsc.push]

/-- In its first loop an ordered channel has an empty buffer when it takes a payload. -/
theorem Sending.idle_sender {m : ℕ} {w : FramedWrite U8} (hs : l.Sending) (ht : l.tasks h = some t)
    (hphase : t.phase = .selecting .idle) (hc : t.config = .orderedReliable m)
    (hw : t.sender = some w) : ∃ total, w.Idle total := by
  rcases hs.sent ht with hsent | ⟨-, hcut⟩
  · simp only [ChannelTask.Sent, hc, hphase, hw] at hsent
    cases hsent.1 with
    | written ho =>
      cases ho with
      | idle hidle => exact ⟨_, hidle⟩
  · cases hphase.symm.trans hcut.ended

/-- **A payload that is too long and taken in the first loop is about to be signaled as a loss.** -/
theorem Sending.refusing_of_not_loopFits (hs : l.Sending) (ha : a.Faultless) (hstep : Step l a l')
    (hloop : ¬ l.LoopFits l') : l'.Refusing := by
  simp only [LoopFits, TaskView.LoopFits, not_forall] at hloop
  obtain ⟨h, t, ht, p, q, hq, htaken, hphase, hlong⟩ := hloop
  have hreceived : (l'.conn.queues h).bytes.received ≠ (l.conn.queues h).bytes.received := by
    have hq' := Mpsc.received_of_recv hq
    rw [← htaken] at hq'
    simp only [view] at hq'
    rw [hq']
    simp
  rcases hstep.task_cases hs.toSound h with ⟨-, hsame | ⟨hnone, -⟩⟩ | ⟨msg, -, -, hqueues, -⟩ |
    ⟨t₀, v, fault, ht₀, rfl, htask, rfl⟩ | ⟨t₀, k, m, mt, mt', fault, signals, ht₀, -, -, -, -, rfl⟩
  · exact absurd hsame hreceived
  · cases hnone.symm.trans ht
  · exact absurd (by rw [hqueues]) hreceived
  · obtain rfl : fault = false := ha
    obtain rfl := Option.some.inj (ht₀.symm.trans ht)
    obtain ⟨r, t', htakes, htask'⟩ := htask.taken hphase hq (by simpa [view, withView] using htaken)
    have hlong : ¬ t₀.config.Fits p := hlong
    cases htakes with
    | @ordered m w hc hw =>
      have hc : t₀.config = .orderedReliable m := hc
      rw [hc] at hlong
      have hp : m < p.length := Nat.lt_of_not_le hlong
      refine .ordered (t := v.task) (Function.update_self ..) ?_
      have hidle : ∃ total, w.Idle total := hs.idle_sender ht hphase hc hw
      obtain ⟨total, hidle⟩ := hidle
      rw [htask', refused_of_idle hp hidle]
      rfl
    | @unordered m hc =>
      have hc : t₀.config = .unorderedReliable m := hc
      rw [hc] at hlong
      have hp : m < p.length := Nat.lt_of_not_le hlong
      have hmt : v.task.messages[t₀.messages.length]? = some { payload := p, signals := true } := by
        rw [htask']
        simp [view]
      refine .message (t := v.task) (Function.update_self ..) ?_ hmt hp rfl rfl
      rw [htask']
      exact hc
    | datagram hc | datagramRefused hc =>
      have hc : t₀.config = .unreliable := hc
      rw [hc] at hlong
      exact absurd trivial hlong
  · exact absurd (by simp [withView]) hreceived

/-! ### Runs -/

/-- **A payload that is refused is not a lost connection** on which nothing fails, as long as no task
takes in its first loop a payload that is too long.  In every state of such a run the tasks signal
nothing; each has sent what it received and what is not too long, or the end of the peer has cut it
off; and it leaves its last loop with an empty queue.  A step that takes such a payload all the same
leads to a state from which the tasks alone go on to signal a loss. -/
theorem refused_payload_no_loss {specific : S} {cfg : RecvChannelsConfiguration}
    (hr : Reachable (fun l a l' ↦ Step l a l' ∧ l.LoopFits l') (fun _ a ↦ a.Faultless)
      (fresh specific cfg) l) :
    (∀ a l', a.OfTasks → Step l a l' → l'.conn.fromChannels = l.conn.fromChannels) ∧
      (∀ h t, l.tasks h = some t → t.Sent (l.conn.queues h).bytes.received ∨
        .peerClosed ∈ l.conn.closeSend.log ∧
          t.CutOff (t.config.fitting (l.conn.queues h).bytes.received)) ∧
      (∀ h t v, l.tasks h = some t → TaskStep l.conn.closeSend (l.view h t) false v →
        ¬ t.phase.Drained → v.task.phase.Drained →
          v.queues.bytes.queued = [] ∨ .peerClosed ∈ l.conn.closeSend.log) ∧
      ∀ a l', a.Faultless → Step l a l' → ¬ l.LoopFits l' → l'.conn.fromChannels.Ready →
        ∃ l'', Reachable Step (fun _ a ↦ a.Faultless ∧ a.OfTasks) l' l'' ∧
          .lostConnection ∈ l''.conn.fromChannels.queued := by
  have hs : l.Sending := hr.invariant (sending_fresh specific cfg)
    fun hs ha hstep ↦ hs.step ha hstep.2 hstep.1
  refine ⟨fun a l' ha hstep ↦ hs.fromChannels_eq hstep ha, fun h t ht ↦ hs.sent ht,
    fun h t v ht htask hbefore hafter ↦ ?_, fun a l' ha hstep hloop hready ↦ ?_⟩
  · by_cases hpeer : .peerClosed ∈ l.conn.closeSend.log
    · exact .inr hpeer
    · exact .inl (htask.queue_drained hpeer (hs.not_signaling ht) (absurd · hbefore) hafter)
  · exact (hs.refusing_of_not_loopFits ha hstep hloop).signals hready

/-- With tasks at no other place, and none of them taking a payload in its first loop. -/
theorem loopFits_of_one (hother : ∀ h, h ≠ 0 → l.tasks h = none)
    (hone : ∀ t, l.tasks 0 = some t → t.phase = .selecting .idle →
      (l'.conn.queues 0).bytes.received = (l.conn.queues 0).bytes.received) : l.LoopFits l' := by
  intro h t ht p q hq htaken hidle
  by_cases hh : h = 0
  · subst hh
    have hreceived := Mpsc.received_of_recv hq
    rw [← htaken] at hreceived
    simp only [view, hone t ht hidle] at hreceived
    simp at hreceived
  · cases (hother h hh).symm.trans ht

/-- An ordered channel that takes no payload but the empty one, closed with a longer one in its
queue. -/
def refusedAtClose : Link Unit :=
  let created := ((fresh () {}).conn.createConnectionChannel 0 (.orderedReliable 0)).2
  let sent := (created.internalSendPayload 0 [7]).2
  { conn := (sent.internalCloseChannel 0).2, spawner := .absent, tasks := fun _ ↦ none }

theorem reachable_refusedAtClose :
    Reachable (fun l a l' ↦ Step l a l' ∧ l.LoopFits l') (fun _ a ↦ a.Faultless) (fresh () {})
      refusedAtClose := by
  have hfits : ∀ {l l' : Link Unit}, (∀ h, l.tasks h = none) → l.LoopFits l' := by
    intro l l' hnone
    refine loopFits_of_one (fun h _ ↦ hnone h) fun t ht ↦ ?_
    cases (hnone 0).symm.trans ht
  have hstart : Reachable (fun l a l' ↦ Step l a l' ∧ l.LoopFits l') (fun _ a ↦ a.Faultless)
    (fresh () {}) _ := .start
  have hcreated := hstart.next (by trivial) ⟨.create _ 0 (.orderedReliable 0) rfl, hfits fun _ ↦ rfl⟩
  have hsent := hcreated.next (by trivial) ⟨.send _ 0 [7] rfl, hfits fun _ ↦ rfl⟩
  exact hsent.next (by trivial) ⟨.closeChannel _ 0 rfl, hfits fun _ ↦ rfl⟩

/-- Its task only logs that it cannot send the payload. -/
theorem refused_payload_no_loss_drained : ∃ l : Link Unit,
    (l.conn.queues 0).bytes.received = [[7]] ∧
      ∀ a l', a.OfTasks → Step l a l' → l'.conn.fromChannels = l.conn.fromChannels := by
  have hspawned := reachable_refusedAtClose.next (by trivial)
    ⟨.spawn 0 rfl, loopFits_of_one (fun _ _ ↦ rfl) (by rintro t ⟨⟩)⟩
  have htask := hspawned.next (by trivial)
    ⟨.listenCreate rfl rfl, loopFits_of_one (fun _ _ ↦ rfl) (by rintro t ⟨⟩)⟩
  have hopened := htask.next (by rfl) ⟨.task (h := 0) rfl (.opened rfl rfl),
    loopFits_of_one (fun h hh ↦ Function.update_of_ne hh _ _) fun _ _ _ ↦ rfl⟩
  have hleft := hopened.next (by rfl) ⟨.task (h := 0) rfl (.channelClose rfl rfl),
    loopFits_of_one (fun h hh ↦ (Function.update_of_ne hh _ _).trans (Function.update_of_ne hh _ _))
      fun _ _ _ ↦ rfl⟩
  have hrun := hleft.next (by rfl) ⟨.task (h := 0) rfl (.drain rfl rfl (.ordered rfl rfl)),
    loopFits_of_one (fun h hh ↦ (Function.update_of_ne hh _ _).trans
      ((Function.update_of_ne hh _ _).trans (Function.update_of_ne hh _ _))) (by rintro t ⟨⟩ ⟨⟩)⟩
  exact ⟨_, rfl, (refused_payload_no_loss hrun).1⟩

/-- The same channel, open: in its first loop the task takes the refusal for the loss of the
connection, though no stream fails. -/
theorem refused_payload_signals_loss : ∃ l : Link Unit,
    Reachable Step (fun _ a ↦ a.Faultless) (fresh () {}) l ∧
      .lostConnection ∈ l.conn.fromChannels.queued := by
  have hstart : Reachable Step (fun _ a ↦ a.Faultless) (fresh () {}) _ := .start
  have hcreated := hstart.next (by trivial) (.create _ 0 (.orderedReliable 0) rfl)
  have hsent := hcreated.next (by trivial) (.send _ 0 [7] rfl)
  have hspawned := hsent.next (by trivial) (.spawn 0 rfl)
  have htask := hspawned.next (by trivial) (.listenCreate rfl rfl)
  have hopened := htask.next (by rfl) (.task (h := 0) rfl (.opened rfl rfl))
  have hrefused := hopened.next (by rfl) (.task (h := 0) rfl (.recv rfl rfl (.ordered rfl rfl)))
  have hrun := hrefused.next (by rfl) (.task (h := 0) rfl (.signal rfl ⟨rfl, by decide⟩))
  exact ⟨_, hrun, List.mem_cons_self⟩

end Link

end BevyIroh
