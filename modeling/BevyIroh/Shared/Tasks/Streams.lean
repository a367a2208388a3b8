import BevyIroh.Shared.Tasks.Written

/-!
# What is on the streams of a connection

As long as nothing fails and every payload fits its channel, each channel task keeps what it received
(`ChannelTask.Written`), unless the end of the peer cuts it off.  `Link.Streaming` says this of a whole
connection.  It asks for nothing else: channels may be opened, closed and opened again, the connection
may be closed or dropped, and payloads may be accepted that no task will ever take.

What can be read off a stream is therefore the beginning of the frames of what its channel accepted:
`Link.Carries` says which payloads a stream is for, and `Streaming.carries` that they are the ones.
-/

set_option autoImplicit false

namespace BevyIroh

open Transition

/-- A stream of a connection, by the place of its channel's queues; an unordered channel has a stream
for each payload. -/
inductive StreamId where
  | channel (queues : ℕ)
  | message (queues : ℕ) (k : ℕ)
deriving DecidableEq, Repr

theorem ChannelTask.written_new (id : ChannelId) (config : ChannelConfig) (closeRecv : Cursor) :
    (ChannelTask.new id config closeRecv).Written [] := by
  cases config with
  | orderedReliable m => exact ⟨.opening rfl, rfl⟩
  | unorderedReliable m => exact ⟨⟨.idle, rfl⟩, rfl, by simp [new]⟩
  | unreliable => exact ⟨⟨.idle, rfl⟩, rfl⟩

theorem TaskStep.phase_ne_ended {close : Broadcast CloseReason} {v v' : TaskView} {fault : Bool}
    (hstep : TaskStep close v fault v') : v.task.phase ≠ .ended := by
  intro h
  cases hstep <;> simp_all

theorem TaskStep.datagrams_cases {close : Broadcast CloseReason} {v v' : TaskView} {fault : Bool}
    (hstep : TaskStep close v fault v') : v'.task.datagrams = v.task.datagrams ∨
      ∃ p, v.task.config = .unreliable ∧ v'.task.datagrams = v.task.datagrams ++ [v.task.id :: p] := by
  have htakes : ∀ {signals p fault r t}, v.task.Takes signals p fault r t →
      t.datagrams = v.task.datagrams ∨ ∃ p, v.task.config = .unreliable ∧
        t.datagrams = v.task.datagrams ++ [v.task.id :: p] := fun ht ↦ by
    cases ht with
    | datagram hc => exact .inr ⟨_, hc, rfl⟩
    | _ => exact .inl rfl
  cases hstep with
  | @close inner r h hr =>
    by_cases hpeer : r = .value .peerClosed
    · subst hpeer
      exact .inl rfl
    · rw [TaskView.closed_eq v hpeer]
      exact .inl rfl
  | recv h hq ht =>
    have := htakes ht
    exact this
  | drain h hq ht =>
    have := htakes ht
    exact this
  | _ => exact .inl rfl

namespace Link

variable {S : Type} {l l' : Link S} {a : LinkAct} {h : ℕ} {t : ChannelTask}

/-- The step is free of faults, and a payload fits its channel. -/
def Fitting (l : Link S) : LinkAct → Prop
  | .send id payload => ∀ c config, l.conn.slot id = some c →
      .createChannel id config c.queues ∈ l.conn.toChannels.sent → config.Fits payload
  | .task _ fault => fault = false
  | .message _ _ fault => fault = false
  | _ => True

/-- What holds in every state of a run without faults. -/
structure Streaming (l : Link S) : Prop extends l.Sound where
  fits : ∀ {msg}, msg ∈ l.conn.toChannels.sent → ∀ p ∈ (l.conn.queues msg.queues).bytes.sent,
    msg.config.Fits p
  waiting : ∀ {h}, l.tasks h = none → (l.conn.queues h).bytes.received = []
  written : ∀ {h t}, l.tasks h = some t → t.Written (l.conn.queues h).bytes.received ∨
    .peerClosed ∈ l.conn.closeSend.log ∧ t.CutOff (l.conn.queues h).bytes.received

theorem Streaming.task_fits (hs : l.Streaming) (ht : l.tasks h = some t) :
    ∀ p ∈ (l.conn.queues h).bytes.sent, t.config.Fits p :=
  hs.fits (hs.task_sent ht)

theorem Sound.task_lt (hs : l.Sound) (ht : l.tasks h = some t) : h < l.conn.created :=
  hs.conn.msg_lt (hs.task_sent ht)

theorem streaming_fresh (specific : S) (cfg : RecvChannelsConfiguration) :
    (fresh specific cfg).Streaming where
  toSound := sound_fresh specific cfg
  fits h := by simp [fresh, PeerConnection.new, Mpsc.sent] at h
  waiting _ := rfl
  written := nofun

/-- A property of the payloads accepted on each channel, if it holds of a payload that is sent. -/
theorem Step.accepted_cases (hs : l.Sound) (hstep : Step l a l') {Q : ChannelConfig → Bytes → Prop}
    (hold : ∀ msg ∈ l.conn.toChannels.sent, ∀ p ∈ (l.conn.queues msg.queues).bytes.sent,
      Q msg.config p)
    (hnew : ∀ id p, a = .send id p → ∀ c config, l.conn.slot id = some c →
      .createChannel id config c.queues ∈ l.conn.toChannels.sent → Q config p) :
    ∀ msg ∈ l'.conn.toChannels.sent, ∀ p ∈ (l'.conn.queues msg.queues).bytes.sent,
      Q msg.config p := by
  have hkept : ∀ msg ∈ l.conn.toChannels.sent, ∀ p ∈ (l'.conn.queues msg.queues).bytes.sent,
      Q msg.config p := by
    intro msg hmsg p hp
    rcases hstep.queue_cases (hs.conn.msg_lt hmsg) with ⟨hsent, -⟩ | ⟨id, p', c, ha, -, hc, hh, hsent⟩
    · exact hold msg hmsg p (hsent ▸ hp)
    · rcases List.mem_append.1 (hsent ▸ hp) with hp | hp
      · exact hold msg hmsg p hp
      · obtain rfl := List.mem_singleton.1 hp
        obtain ⟨config, hmsg'⟩ := hs.conn.slot_msg hc
        obtain rfl := hs.conn.msg_inj hmsg' hmsg hh
        exact hnew id p ha c config hc hmsg'
  intro msg hmsg p hp
  rcases hstep.creation_cases hs with ⟨hsent, -⟩ | ⟨id, config, -, -, hsent, hqueues, -⟩
  · exact hkept msg (hsent ▸ hmsg) p hp
  · rcases List.mem_append.1 (hsent ▸ hmsg) with hmsg | hmsg
    · exact hkept msg hmsg p hp
    · -- the queues of a new channel are empty
      rw [List.mem_singleton.1 hmsg, ChannelSyncMessage.queues, hqueues] at hp
      cases hp

theorem Streaming.written_step (hs : l.Streaming) (ha : l.Fitting a) (hstep : Step l a l')
    (ht : l'.tasks h = some t) : t.Written (l'.conn.queues h).bytes.received ∨
      .peerClosed ∈ l'.conn.closeSend.log ∧ t.CutOff (l'.conn.queues h).bytes.received := by
  have hlog := hstep.log_prefix.subset
  refine hstep.task_rule hs.toSound hs.waiting
    (P := fun t received ↦ t.Written received ∨ .peerClosed ∈ l.conn.closeSend.log ∧ t.CutOff received)
    (Q := fun t received ↦ t.Written received ∨ .peerClosed ∈ l'.conn.closeSend.log ∧ t.CutOff received)
    hs.written (fun hP ↦ hP.imp_right fun hcut ↦ ⟨hlog hcut.1, hcut.2⟩)
    (fun id config closeRecv ↦ .inl (ChannelTask.written_new id config closeRecv)) ?_ ?_ ht
  · intro h t v fault ht₀ heq htask hl hP
    subst heq
    obtain rfl : fault = false := ha
    rcases hP with hw | ⟨-, hcut⟩
    · refine (ChannelTask.Written.step (v := l.view h t) hw (fun p hp ↦ ?_) htask).imp_right
        fun hcut ↦ ⟨hlog hcut.1, hcut.2⟩
      exact hs.task_fits ht₀ p (List.mem_append_right _ hp)
    · exact absurd hcut.ended htask.phase_ne_ended
  · intro h t k m mt mt' fault signals ht₀ heq hc hmt hmstep hP
    subst heq
    obtain rfl : fault = false := ha
    rcases hP with hw | ⟨-, hcut⟩
    · refine .inl (hw.message hc (fun p hp ↦ ?_) hmt hmstep)
      have hfits := hs.task_fits ht₀ p (List.mem_append_left _ hp)
      rwa [hc] at hfits
    · obtain ⟨m', hc'⟩ := hcut.config
      cases hc.symm.trans hc'

/-- **Every step without a fault keeps the invariant.** -/
theorem Streaming.step (hs : l.Streaming) (ha : l.Fitting a) (hstep : Step l a l') :
    l'.Streaming where
  toSound := hs.toSound.step hstep
  fits {msg} hmsg := by
    refine hstep.accepted_cases hs.toSound (fun _ ↦ hs.fits) (fun id p heq ↦ ?_) msg hmsg
    subst heq
    exact ha
  waiting := hstep.waiting hs.toSound hs.waiting
  written := hs.written_step ha hstep

/-! ## What a stream is for -/

/-- A stream that was opened, with its buffer. -/
def sender (l : Link S) : StreamId → Option (FramedWrite U8)
  | .channel h => (l.tasks h).bind (·.sender)
  | .message h k => ((l.tasks h).bind (·.messages[k]?)).bind (·.sender)

theorem sender_withView (l : Link S) (h : ℕ) (v : TaskView) :
    (l.withView h v).sender (.channel h) = v.task.sender := by
  simp [sender, withView]

/-- The stream is for these payloads, accepted on a channel that was opened under this id. -/
inductive Carries (l : Link S) : StreamId → ChannelId → List Bytes → Prop
  | channel {msg : ChannelSyncMessage} {m : ℕ} (hmsg : msg ∈ l.conn.toChannels.sent)
      (hc : msg.config = .orderedReliable m) :
      Carries l (.channel msg.queues) msg.id (l.conn.queues msg.queues).bytes.sent
  | message {msg : ChannelSyncMessage} {m k : ℕ} {p : Bytes} (hmsg : msg ∈ l.conn.toChannels.sent)
      (hc : msg.config = .unorderedReliable m) (hp : p ∈ (l.conn.queues msg.queues).bytes.sent) :
      Carries l (.message msg.queues k) msg.id [p]

/-- **What is on a stream is the beginning of the frames it is for.** -/
theorem Streaming.carries (hs : l.Streaming) {i : StreamId} {w : FramedWrite U8}
    (hw : l.sender i = some w) : ∃ id ps, l.Carries i id ps ∧ w.stream.bytes <+: frames id ps := by
  cases i with
  | channel h =>
    obtain ⟨t, ht, hsender⟩ := Option.bind_eq_some_iff.1 hw
    obtain ⟨⟨m, hc⟩, hle⟩ : (∃ m, t.config = .orderedReliable m) ∧
        w.stream.bytes <+: frames t.id (l.conn.queues h).bytes.received := by
      rcases hs.written ht with hwritten | ⟨-, hcut⟩
      · exact hwritten.stream_le hsender
      · exact ⟨hcut.config, hcut.stream w hsender⟩
    refine ⟨t.id, _, .channel (hs.task_sent ht) hc, hle.trans ?_⟩
    rw [ChannelSyncMessage.queues, Mpsc.sent, frames_append]
    exact List.prefix_append _ _
  | message h k =>
    obtain ⟨mt, hmt, hsender⟩ := Option.bind_eq_some_iff.1 hw
    obtain ⟨t, ht, hmt⟩ := Option.bind_eq_some_iff.1 hmt
    have hmem := List.mem_of_getElem? hmt
    rcases hs.written ht with hwritten | ⟨-, hcut⟩
    · obtain ⟨⟨m, hc⟩, hp, hle⟩ := hwritten.message_le hmem hsender
      refine ⟨t.id, [mt.payload], .message (hs.task_sent ht) hc (List.mem_append_left _ hp), ?_⟩
      simpa [frames] using hle
    · rw [hcut.messages] at hmem
      cases hmem

/-- What a stream is for only grows. -/
theorem Carries.step {i : StreamId} {id : ChannelId} {ps : List Bytes} (hi : l.Carries i id ps)
    (hs : l.Sound) (hstep : Step l a l') : ∃ ps', l'.Carries i id ps' ∧ ps <+: ps' := by
  have hsent : ∀ msg ∈ l.conn.toChannels.sent,
      (l.conn.queues msg.queues).bytes.sent <+: (l'.conn.queues msg.queues).bytes.sent := by
    intro msg hmsg
    rcases hstep.queue_cases (hs.conn.msg_lt hmsg) with ⟨hsent, -⟩ | ⟨_, _, _, -, -, -, -, hsent⟩ <;>
      rw [hsent]
    exact List.prefix_append _ _
  have hmsgs := (hstep.sent_prefix hs).subset
  cases hi with
  | @channel msg m hmsg hc => exact ⟨_, .channel (hmsgs hmsg) hc, hsent msg hmsg⟩
  | @message msg m k p hmsg hc hp =>
    exact ⟨_, .message (hmsgs hmsg) hc ((hsent msg hmsg).subset hp), List.prefix_rfl⟩

/-! ## Datagrams -/

/-- Only unreliable channels send datagrams, and these begin with the channel's id. -/
def Tagged (l : Link S) : Prop :=
  ∀ h t, l.tasks h = some t → ∀ d ∈ t.datagrams, t.config = .unreliable ∧ ∃ p, d = t.id :: p

theorem Tagged.step (htagged : l.Tagged) (hs : l.Sound) (hstep : Step l a l') : l'.Tagged := by
  intro h t ht
  rcases hstep.task_cases hs h with ⟨htasks, -⟩ | ⟨msg, -, -, -, htasks⟩ |
    ⟨t₀, v, fault, ht₀, -, htask, rfl⟩ | ⟨t₀, _, _, _, mt', _, _, ht₀, -, -, -, -, rfl⟩
  · exact htagged h t (htasks ▸ ht)
  · obtain rfl := Option.some.inj (htasks.symm.trans ht)
    exact fun d hd ↦ absurd hd List.not_mem_nil
  · obtain rfl : v.task = t := by simpa [withView] using ht
    intro d hd
    rw [htask.frame.config, htask.frame.id]
    rcases htask.datagrams_cases with hsame | ⟨p, hc, hnew⟩
    · exact htagged h t₀ ht₀ d (hsame ▸ hd)
    · rcases List.mem_append.1 (hnew ▸ hd) with hd | hd
      · exact htagged h t₀ ht₀ d hd
      · exact ⟨hc, p, List.mem_singleton.1 hd⟩
  · obtain rfl : { t₀ with messages := t₀.messages.set _ mt' } = t := by simpa [withView] using ht
    exact htagged h t₀ ht₀

end Link

end BevyIroh
