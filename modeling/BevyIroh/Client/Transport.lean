import BevyIroh.Client.Disconnect
import BevyIroh.Shared.Tasks.Invariant
import BevyIroh.Shared.Tasks.Progress

/-!
# Whether a disconnected connection leaves its transport open

The transport is closed by the spawner of channel tasks, when it has seen the close order and every
channel task has ended; the channel tasks end when they have seen it, too.  A receiver sees the close
orders that are sent after it was made.  So three things must not happen (`Session.Orderly`):

* the spawner subscribes after the close order was sent, and waits for another one;
* a channel task does, because the spawner still takes a request after the order was sent;
* the connection is made disconnected without any order, by a `ConnectionFailed` that was sent with the
  transport open, as it is when no valid client id arrives.

When none of them does, a disconnected connection whose tasks have come to rest has no open transport
(`Session.transport_closed`).
-/

set_option autoImplicit false

namespace BevyIroh

open Transition

/-! ## Channel tasks that have nothing to send -/

/-- The phases of such a task. -/
def TaskPhase.Calm : TaskPhase → Prop
  | .opening => True
  | .selecting .idle => True
  | .draining none => True
  | .flushing => True
  | .ended => True
  | _ => False

/-- A channel task that was never given a payload. -/
structure ChannelTask.Calm (t : ChannelTask) : Prop where
  phase : t.phase.Calm
  messages : t.messages = []
  /-- An ordered channel has its stream, once it is opened. -/
  sender : ∀ m, t.config = .orderedReliable m → t.phase = .opening ∨ t.phase = .ended ∨
    ∃ w, t.sender = some w ∧ w.buffer = []
  ordered : t.phase = .opening ∨ t.phase = .flushing → ∃ m, t.config = .orderedReliable m

theorem ChannelTask.calm_new (id : ChannelId) (config : ChannelConfig) (closeRecv : Cursor) :
    (ChannelTask.new id config closeRecv).Calm := by
  cases config <;> constructor <;> simp [ChannelTask.new, TaskPhase.Calm]

section Calm

variable {close : Broadcast CloseReason} {v v' : TaskView}

theorem TaskStep.closeRecv_eq {fault : Bool} (hstep : TaskStep close v fault v') :
    v'.task.closeRecv = v.task.closeRecv := by
  have htakes : ∀ {signals p fault r t}, v.task.Takes signals p fault r t →
      t.closeRecv = v.task.closeRecv := fun ht ↦ by cases ht <;> rfl
  cases hstep with
  | @close inner r h hr =>
    cases r with
    | value reason => cases reason <;> rfl
    | _ => rfl
  | recv h hq ht | drain h hq ht =>
    have heq := htakes ht
    exact heq
  | _ => rfl

theorem ChannelTask.Calm.step {fault : Bool} (hv : v.task.Calm) (hq : v.queues.bytes.queued = [])
    (hstep : TaskStep close v fault v') : v'.task.Calm ∧ v'.queues.bytes.queued = [] := by
  have hended : ∀ {u : TaskView}, u.task.messages = [] → u.ended.task.Calm := fun hm ↦
    ⟨trivial, hm, fun _ _ ↦ .inr (.inl rfl), by simp [TaskView.ended]⟩
  have hrecv : ∀ {p q}, v.queues.bytes.recv = some (p, q) → False := fun h ↦ by
    simp [Mpsc.recv, hq] at h
  have hphase : ∀ {phase}, v.task.phase = phase → phase.Calm := fun h ↦ h ▸ hv.phase
  -- the loop is left with the stream as it was
  have hleave : ∀ {inner}, v.task.phase = .selecting inner →
      ChannelTask.Calm { v.task with phase := .draining none } := fun h ↦
    ⟨trivial, hv.messages, fun m hc ↦ by simpa [h] using hv.sender m hc, by simp⟩
  have hwritten : ∀ {m w}, v.task.config = .orderedReliable m → v.task.phase = .flushing →
      v.task.sender = some w → w.buffer = [] := fun {m w} hc h hw ↦ by
    simpa [h, hw] using hv.sender m hc
  cases hstep with
  | opened hc h => exact ⟨⟨trivial, hv.messages, fun _ _ ↦ .inr (.inr ⟨{}, rfl, rfl⟩), by simp⟩, hq⟩
  | openFailed | signalFailed => exact ⟨hended hv.messages, hq⟩
  | @close inner r h hr =>
    cases r with
    | value reason =>
      cases reason with
      | peerClosed => exact ⟨hended hv.messages, hq⟩
      | localOrder => exact ⟨hleave h, hq⟩
    | _ => exact ⟨hleave h, hq⟩
  | channelClose h | channelCloseDropped h | bytesFinished h => exact ⟨hleave h, hq⟩
  | recv h hq' | drain h hq' => exact (hrecv hq').elim
  | sending hc h | drainSending hc h => exact (hphase h).elim
  | signal h => exact (hphase h).elim
  | drained hc h hq' =>
    exact ⟨⟨trivial, hv.messages, fun m hc ↦ by simpa [h] using hv.sender m hc, fun _ ↦ ⟨_, hc⟩⟩, hq⟩
  | drainedEnd => exact ⟨hended hv.messages, hq⟩
  | flushWrite h hw hpos hle =>
    obtain ⟨m, hc⟩ := hv.ordered (.inr h)
    rw [hwritten hc h hw] at hle
    exact absurd hpos (Nat.not_lt.2 hle)
  | flushFailed h hw hbuf =>
    obtain ⟨m, hc⟩ := hv.ordered (.inr h)
    exact absurd (hwritten hc h hw) hbuf
  | finish => exact ⟨hended hv.messages, hq⟩

theorem TaskPhase.Calm.eq_of_streams {phase : TaskPhase} (hc : phase.Calm) (hs : phase.Streams) :
    phase = .opening ∨ phase = .flushing := by
  cases phase with
  | opening => exact .inl rfl
  | selecting inner =>
    cases inner with
    | sending => exact hc.elim
    | _ => exact hs.elim
  | draining s =>
    cases s with
    | some => exact hc.elim
    | none => exact hs.elim
  | flushing => exact .inr rfl
  | ended => exact hs.elim

/-- So it can always go on when it is told to close. -/
theorem ChannelTask.Calm.proper {t : ChannelTask} (ht : t.Calm) : t.Proper where
  ordered h := ht.ordered (ht.phase.eq_of_streams h)
  sender m hc := (ht.sender m hc).imp_right (.imp_right fun ⟨w, hw, _⟩ ↦ by rw [hw]; rfl)
  unordered h := absurd ht.messages h
  messages mt hmt := by simp [ht.messages] at hmt

end Calm

/-- Every channel task of the link is calm, and is subscribed to the close orders from the first one
on. -/
structure Link.Calm (l : Link ClientConnection) : Prop where
  tasks : ∀ {h t}, l.tasks h = some t → t.Calm ∧ t.closeRecv = 0
  queues : ∀ h, (l.conn.queues h).bytes.queued = []

/-- The tasks stay calm, if none is spawned after a close order. -/
theorem Link.Calm.step {l l' : Link ClientConnection} {a : LinkAct} (hs : l.Calm)
    (hstep : Link.Step l a l') (ha : a.OfTasks)
    (hcreate : a = .listenCreate → l.conn.closeSend.log = []) : l'.Calm := by
  cases hstep with
  | listenClose | listenEnded => exact ⟨hs.tasks, hs.queues⟩
  | closeConnection hwaiting hdone =>
    refine ⟨hs.tasks, fun h ↦ ?_⟩
    rcases Link.queues_dropCreations l h with hq | hq <;> rw [hq] <;> exact hs.queues h
  | @listenCreate c msg q hlisten hq =>
    refine ⟨fun {h t} ht ↦ ?_, hs.queues⟩
    simp only [Link.spawnTask, Function.update_apply] at ht
    split_ifs at ht
    · obtain rfl := Option.some.inj ht
      exact ⟨ChannelTask.calm_new .., by simp [ChannelTask.new, Broadcast.resubscribe, hcreate rfl]⟩
    · exact hs.tasks ht
  | @task h t fault v ht hstep =>
    obtain ⟨hcalm, hrecv⟩ := hs.tasks ht
    obtain ⟨hcalm', hq'⟩ := ChannelTask.Calm.step (v := l.view h t) hcalm (hs.queues h) hstep
    refine ⟨fun {h' t'} ht' ↦ ?_, fun h' ↦ ?_⟩
    · simp only [Link.withView, Function.update_apply] at ht'
      split_ifs at ht'
      · obtain rfl := Option.some.inj ht'
        exact ⟨hcalm', hstep.closeRecv_eq.trans hrecv⟩
      · exact hs.tasks ht'
    · simp only [Link.withView, Function.update_apply]
      split_ifs
      · exact hq'
      · exact hs.queues h'
  | message ht hc hm =>
    rw [(hs.tasks ht).1.messages] at hm
    cases hm
  | _ => exact ha.elim

/-- A calm link that was ordered to close and waits for its tasks can go on. -/
theorem Link.Calm.exists_step {l : Link ClientConnection} (hs : l.Calm)
    (hwaiting : l.spawner = .waiting) (hlog : l.conn.closeSend.log ≠ []) :
    ∃ a l', (a = .closeConnection ∨ ∃ h, a = .task h false) ∧ Link.Step l a l' := by
  by_cases hdone : ∀ h t, l.tasks h = some t → t.Done
  · exact ⟨_, _, .inl rfl, .closeConnection hwaiting hdone⟩
  · push Not at hdone
    obtain ⟨h, t, ht, hdone⟩ := hdone
    obtain ⟨hcalm, hrecv⟩ := hs.tasks ht
    have hne : t.phase ≠ .ended := fun hended ↦
      hdone ⟨hended, fun m hm ↦ by simp [hcalm.messages] at hm⟩
    have hclose : (l.conn.closeSend.recv t.closeRecv).isSome := by
      rw [hrecv]
      exact Broadcast.recv_isSome_of_lt (List.length_pos_of_ne_nil hlog)
    obtain ⟨v, hv⟩ := ChannelTask.Proper.exists_step (v := l.view h t) hcalm.proper hclose hne
    exact ⟨_, _, .inr ⟨h, rfl⟩, .task ht hv⟩

/-! ## Sessions -/

/-- The spawner of channel tasks is not spawned yet. -/
def Attempt.Unspawned : Attempt → Prop
  | .connecting => True
  | .connected => True
  | .watched => True
  | .receiving => True
  | _ => False

/-- What the application does here is disconnect, and run `handle_client_events`. -/
def SessionAct.Disconnecting : SessionAct → Prop
  | .call _ => False
  | .reconnect => False
  | _ => True

/-- The steps of the tasks that need nothing from the network. -/
def SessionAct.Internal : SessionAct → Prop
  | .spawnWatcher => True
  | .spawnRecv => True
  | .spawnSpawner => True
  | .receiveClientId r => r = .interrupted
  | .signal => True
  | .transportClosed => True
  | .watcherSignal => True
  | .link (.task _ fault) => fault = false
  | .link (.message _ _ fault) => fault = false
  | .link _ => True
  | _ => False

namespace Session

variable {sharedClientId : Bool} {s s' : Session} {a : SessionAct}

/-- No task of the session can go on. -/
def Quiescent (sharedClientId : Bool) (s : Session) : Prop :=
  ∀ a s', a.Internal → ¬ Step sharedClientId s a s'

/-- The close order is sent, and is sent to those who have to see it. -/
def Orderly (s : Session) : SessionAct → Prop
  | .spawnSpawner => s.conn.closeSend.log = []
  | .link .listenCreate => s.conn.closeSend.log = []
  | .handleAsync _ => ∀ err q,
      s.conn.specific.fromAsyncClient.recv = some (.connectionFailed err, q) →
        s.transport ≠ .established
  | _ => True

/-- What holds along an orderly run. -/
structure Inv (s : Session) : Prop where
  toChannels : s.conn.toChannels.sender = true
  closeSend : s.conn.closeSend.sender = true
  calm : s.link.Calm
  connecting : s.attempt = .connecting → s.transport = .absent ∧ s.watcher = .absent ∧
    s.conn.specific.fromAsyncClient.queued = []
  unspawned : s.attempt.Unspawned → s.link.spawner = .absent
  /-- The close order was sent, if there is or will be a transport to close. -/
  ordered : s.attempt = .connecting ∨ s.transport = .established → s.Disconnected →
    s.conn.closeSend.log ≠ []
  /-- The spawner will see it, or has seen it. -/
  spawner : s.transport = .established → s.attempt.Unspawned ∨ s.link.spawner = .listening 0 ∨
    (s.link.spawner = .waiting ∧ s.conn.closeSend.log ≠ [])

theorem Inv.of_eq (hs : s.Inv) (hlink : s'.link = s.link) (hattempt : s'.attempt = s.attempt)
    (hwatcher : s'.watcher = s.watcher) (htransport : s'.transport = s.transport) : s'.Inv := by
  obtain ⟨link, attempt, watcher, transport, frame, events⟩ := s
  obtain ⟨link', attempt', watcher', transport', frame', events'⟩ := s'
  obtain rfl : link' = link := hlink
  obtain rfl : attempt' = attempt := hattempt
  obtain rfl : watcher' = watcher := hwatcher
  obtain rfl : transport' = transport := htransport
  exact ⟨hs.toChannels, hs.closeSend, hs.calm, hs.connecting, hs.unspawned, hs.ordered, hs.spawner⟩

/-- A message is taken from the queue of the task. -/
theorem Inv.popAsync (hs : s.Inv) {message : ClientAsyncMessage} {q : Mpsc ClientAsyncMessage}
    (hq : s.conn.specific.fromAsyncClient.recv = some (message, q)) :
    (s.withConn (s.conn.withFromAsyncClient q)).Inv ∧ s.attempt ≠ .connecting := by
  have hne : s.attempt ≠ .connecting := fun h ↦ by
    simp [Mpsc.recv, (hs.connecting h).2.2] at hq
  exact ⟨⟨hs.toChannels, hs.closeSend, ⟨hs.calm.tasks, hs.calm.queues⟩, fun h ↦ absurd h hne,
    hs.unspawned, hs.ordered, hs.spawner⟩, hne⟩

theorem subscribed_of_unspawned (h : s.attempt.Unspawned) : s.Subscribed := by
  rw [Subscribed]
  cases hattempt : s.attempt <;> rw [hattempt] at h <;> trivial

theorem subscribed_of_listening {c : Cursor} (h : s.link.spawner = .listening c) :
    s.Subscribed := by
  rw [Subscribed]
  split <;> first | exact ⟨c, h⟩ | trivial

/-- Whoever would have to see the order is subscribed, or has seen one already. -/
theorem Inv.log_of_disconnect (hs : s.Inv) {receivers : Bool} (hr : s.Subscribed → receivers = true)
    (reason : CloseReason) (h : s.attempt = .connecting ∨ s.transport = .established) :
    (s.conn.internalDisconnect receivers reason).2.closeSend.log ≠ [] := by
  rw [ClientSideConnection.internalDisconnect_eq]
  by_cases hd : s.Disconnected
  · rw [if_pos (.inl hd)]
    exact hs.ordered h hd
  · cases receivers with
    | true =>
      rw [if_neg (by simpa [Disconnected] using hd)]
      exact List.append_ne_nil_of_right_ne_nil _ (List.cons_ne_nil _ _)
    | false =>
      have hnot : ¬ s.Subscribed := fun hsub ↦ by cases hr hsub
      rw [if_pos (.inr rfl)]
      rcases h with h | h
      · exact absurd (subscribed_of_unspawned (h ▸ trivial)) hnot
      · rcases hs.spawner h with hun | hlisten | ⟨-, hlog⟩
        · exact absurd (subscribed_of_unspawned hun) hnot
        · exact absurd (subscribed_of_listening hlisten) hnot
        · exact hlog

/-- The connection is disconnected, with a close order for everybody who is subscribed. -/
theorem Inv.disconnect (hs : s.Inv) {receivers : Bool} (hr : s.Subscribed → receivers = true)
    (reason : CloseReason) : (s.withConn (s.conn.internalDisconnect receivers reason).2).Inv := by
  have hlog := hs.log_of_disconnect hr reason
  have heq := s.conn.internalDisconnect_eq receivers reason
  refine ⟨?_, ?_, ⟨hs.calm.tasks, ?_⟩, fun h ↦ ?_, hs.unspawned, fun h _ ↦ hlog h, fun h ↦ ?_⟩
  · simp only [conn, withConn] at heq ⊢
    rw [heq]
    exact hs.toChannels
  · exact (s.conn.closeSender_internalDisconnect receivers reason).trans hs.closeSend
  · simp only [conn, withConn] at heq ⊢
    rw [heq]
    exact hs.calm.queues
  · simp only [conn, withConn] at heq ⊢
    rw [heq]
    exact hs.connecting h
  · exact (hs.spawner h).imp_right fun hspawner ↦ hspawner.imp_right fun hw ↦
      ⟨hw.1, hlog (.inr h)⟩

/-- A loss is handled. -/
theorem Inv.handleLost (hs : s.Inv) {receivers : Bool} (hr : s.Subscribed → receivers = true) :
    (s.withConn (s.conn.handleLost receivers).1).Inv := by
  have hfst : (s.conn.handleLost receivers).1 =
      (s.conn.internalDisconnect receivers .peerClosed).2 := by
    rw [ClientSideConnection.handleLost]
    split
    · rename_i h
      rw [ClientSideConnection.internalDisconnect_snd, if_pos h]
    · rfl
  rw [hfst]
  exact hs.disconnect hr .peerClosed

theorem Inv.handleAsync (hs : s.Inv) {receivers : Bool} {message : ClientAsyncMessage}
    {q : Mpsc ClientAsyncMessage} (hq : s.conn.specific.fromAsyncClient.recv = some (message, q))
    (hr : s.Subscribed → receivers = true)
    (hfailed : ∀ err, message = .connectionFailed err → s.transport ≠ .established) :
    (s.handled ((s.conn.withFromAsyncClient q).handleAsyncMessage receivers message)).Inv := by
  obtain ⟨hpopped, hne⟩ := hs.popAsync hq
  cases message with
  | connected clientId =>
    exact ⟨hs.toChannels, hs.closeSend, ⟨hs.calm.tasks, hs.calm.queues⟩, fun h ↦ absurd h hne,
      hs.unspawned, fun _ h ↦ (nomatch h), hs.spawner⟩
  | connectionFailed err =>
    exact ⟨hs.toChannels, hs.closeSend, ⟨hs.calm.tasks, hs.calm.queues⟩, fun h ↦ absurd h hne,
      hs.unspawned, fun h ↦ absurd h (not_or.2 ⟨hne, hfailed err rfl⟩), hs.spawner⟩
  | connectionClosed => exact (hpopped.handleLost hr).of_eq rfl rfl rfl rfl

theorem Inv.handleChannels (hs : s.Inv) {receivers : Bool} {message : ChannelAsyncMessage}
    {q : Mpsc ChannelAsyncMessage} (hr : s.Subscribed → receivers = true) :
    (s.handled ((s.conn.withFromChannels q).handleChannelMessage receivers message)).Inv := by
  have hpopped : (s.withConn (s.conn.withFromChannels q)).Inv :=
    ⟨hs.toChannels, hs.closeSend, ⟨hs.calm.tasks, hs.calm.queues⟩, hs.connecting, hs.unspawned,
      hs.ordered, hs.spawner⟩
  cases message with
  | lostConnection => exact (hpopped.handleLost hr).of_eq rfl rfl rfl rfl

/-- What the spawner can do while the sync side is there: leave its loop on a close order, and close
the transport. -/
theorem spawner_cases {l l' : Link ClientConnection} {a : LinkAct} (hstep : Link.Step l a l')
    (ha : a.OfTasks) (hsync : l.conn.toChannels.sender = true) :
    (a ≠ .closeConnection ∧ (l'.spawner = l.spawner ∨ ∃ c r, l.spawner = .listening c ∧
      l.conn.closeSend.recv c = some r ∧ l'.spawner = .waiting)) ∨
      (a = .closeConnection ∧ l.spawner = .waiting) := by
  cases hstep with
  | listenClose hlisten hr => exact .inl ⟨nofun, .inr ⟨_, _, hlisten, hr, rfl⟩⟩
  | listenEnded hlisten hq => simp [Mpsc.finished, hsync] at hq
  | closeConnection hwaiting => exact .inr ⟨rfl, hwaiting⟩
  | listenCreate | task | message => exact .inl ⟨nofun, .inl rfl⟩
  | _ => exact ha.elim

theorem Inv.link (hs : s.Inv) {l : Link ClientConnection} {a : LinkAct} (ha : a.OfTasks)
    (hstep : Link.Step s.link a l) (hcreate : a = .listenCreate → s.conn.closeSend.log = []) :
    Inv { s with link := l, transport := if a = .closeConnection then .closed else s.transport } := by
  obtain ⟨hclose, hto, -⟩ := hstep.async_frame ha
  have hspecific := hstep.specific_eq ha
  have hsender : l.conn.toChannels.sender = true := hto.trans hs.toChannels
  have hclosed : l.conn.closeSend.sender = true := hclose ▸ hs.closeSend
  have hcalm := hs.calm.step hstep ha hcreate
  have hconnecting : s.attempt = .connecting → l.conn.specific.fromAsyncClient.queued = [] :=
    fun h ↦ hspecific ▸ (hs.connecting h).2.2
  have hordered : s.attempt = .connecting ∨ s.transport = .established →
      l.conn.specific.state = .disconnected → l.conn.closeSend.log ≠ [] := fun h hd ↦ by
    rw [hspecific] at hd
    exact hclose ▸ hs.ordered h hd
  rcases spawner_cases hstep ha hs.toChannels with ⟨hne, hspawner⟩ | ⟨rfl, hwaiting⟩
  · rw [if_neg hne]
    refine ⟨hsender, hclosed, hcalm, fun h ↦ ⟨(hs.connecting h).1, (hs.connecting h).2.1, hconnecting h⟩,
      fun h ↦ ?_, hordered, fun h ↦ ?_⟩
    · have habsent := hs.unspawned h
      rcases hspawner with hsp | ⟨c, r, hsp, -⟩
      · exact hsp.trans habsent
      · rw [habsent] at hsp
        cases hsp
    · rcases hspawner with hsp | ⟨c, r, -, hr, hsp⟩
      · show _ ∨ l.spawner = _ ∨ l.spawner = _ ∧ l.conn.closeSend.log ≠ []
        rw [hsp, hclose]
        exact hs.spawner h
      · refine .inr (.inr ⟨hsp, ?_⟩)
        show l.conn.closeSend.log ≠ []
        rw [hclose]
        refine (Broadcast.log_ne_nil_of_recv hr).resolve_right fun hsender ↦ ?_
        exact nomatch hs.closeSend.symm.trans hsender
  · have hspawned : ¬ s.attempt.Unspawned := fun h ↦ by
      rw [hs.unspawned h] at hwaiting
      cases hwaiting
    have hconnected : s.attempt ≠ .connecting := fun h ↦ hspawned (h ▸ trivial)
    rw [if_pos rfl]
    exact ⟨hsender, hclosed, hcalm, fun h ↦ absurd h hconnected, fun h ↦ absurd h hspawned,
      fun h ↦ absurd h (not_or.2 ⟨hconnected, nofun⟩), fun h ↦ nomatch h⟩

theorem calm_dropCreations {l : Link ClientConnection} (hs : l.Calm) : l.dropCreations.Calm := by
  refine ⟨hs.tasks, fun h ↦ ?_⟩
  rcases Link.queues_dropCreations l h with hq | hq <;> rw [hq] <;> exact hs.queues h

/-- The task of the connection returns. -/
theorem Inv.attemptEnded (hs : s.Inv) (hspawned : ¬ s.attempt.Unspawned) :
    (attemptEnded s).Inv := by
  have hspawner : s.transport = .established → Attempt.ended.Unspawned ∨
      s.link.spawner = .listening 0 ∨ s.link.spawner = .waiting ∧ s.conn.closeSend.log ≠ [] :=
    fun h ↦ .inr ((hs.spawner h).resolve_left hspawned)
  rw [Session.attemptEnded]
  split_ifs
  · exact ⟨hs.toChannels, hs.closeSend, calm_dropCreations hs.calm, by rintro ⟨⟩, fun h ↦ h.elim,
      fun h ↦ hs.ordered (.inr (h.resolve_left (by rintro ⟨⟩))), hspawner⟩
  · exact ⟨hs.toChannels, hs.closeSend, hs.calm, by rintro ⟨⟩, fun h ↦ h.elim,
      fun h ↦ hs.ordered (.inr (h.resolve_left (by rintro ⟨⟩))), hspawner⟩

/-- **Every orderly step keeps the invariant.** -/
theorem Inv.step (hs : s.Inv) (ha : a.Disconnecting) (ho : s.Orderly a)
    (hstep : Step sharedClientId s a s') : s'.Inv := by
  cases hstep with
  | call | reconnect | reconnectFailed | reconnectIgnored => exact ha.elim
  | disconnect receivers hf hr => exact hs.disconnect hr .localOrder
  | beginFrame | endAsync | endFrame => exact hs.of_eq rfl rfl rfl rfl
  | handleAsync receivers hf hq hr =>
    refine hs.handleAsync hq hr fun err herr ↦ ?_
    subst herr
    exact ho err _ hq
  | handleChannels receivers hf hq hr => exact hs.handleChannels hr
  | established h =>
    exact ⟨hs.toChannels, hs.closeSend, hs.calm, by rintro ⟨⟩, fun _ ↦ hs.unspawned (h ▸ trivial),
      fun _ ↦ hs.ordered (.inl h), fun _ ↦ .inl trivial⟩
  | connectFailed err h =>
    have habsent := (hs.connecting h).1
    refine ⟨hs.toChannels, hs.closeSend, hs.calm, by rintro ⟨⟩, fun h ↦ h.elim, fun _ ↦ hs.ordered (.inl h),
      fun h ↦ ?_⟩
    rw [show s.transport = .established from h] at habsent
    cases habsent
  | spawnWatcher h =>
    exact ⟨hs.toChannels, hs.closeSend, hs.calm, by rintro ⟨⟩, fun _ ↦ hs.unspawned (h ▸ trivial),
      fun h ↦ hs.ordered (.inr (h.resolve_left (by rintro ⟨⟩))), fun _ ↦ .inl trivial⟩
  | spawnRecv h =>
    exact ⟨hs.toChannels, hs.closeSend, hs.calm, by rintro ⟨⟩, fun _ ↦ hs.unspawned (h ▸ trivial),
      fun h ↦ hs.ordered (.inr (h.resolve_left (by rintro ⟨⟩))), fun _ ↦ .inl trivial⟩
  | spawnSpawner h =>
    have hlog : s.conn.closeSend.log = [] := ho
    refine ⟨hs.toChannels, hs.closeSend, ⟨hs.calm.tasks, hs.calm.queues⟩, fun h ↦ ?_, fun h ↦ ?_,
      fun h ↦ hs.ordered (.inr (h.resolve_left fun h ↦ ?_)), fun _ ↦ .inr (.inl ?_)⟩
    · cases sharedClientId <;> cases h
    · cases sharedClientId <;> cases h
    · cases sharedClientId <;> cases h
    · simp [Broadcast.resubscribe, hlog]
  | receiveClientId r h hr =>
    have hspawned : ¬ s.attempt.Unspawned := fun hun ↦ by
      rw [h] at hun
      exact hun
    refine ⟨hs.toChannels, hs.closeSend, hs.calm, fun h ↦ ?_, fun h ↦ ?_,
      fun h ↦ hs.ordered (.inr (h.resolve_left fun h ↦ ?_)),
      fun h ↦ .inr ((hs.spawner h).resolve_left hspawned)⟩
    · cases r <;> cases h
    · cases r <;> cases h
    · cases r <;> cases h
  | @signal message h hq =>
    have hspawned : ¬ s.attempt.Unspawned := fun hun ↦ by
      rw [h] at hun
      exact hun
    have hpushed : Inv (s.withConn
        (s.conn.withFromAsyncClient (s.conn.specific.fromAsyncClient.push message))) :=
      ⟨hs.toChannels, hs.closeSend, ⟨hs.calm.tasks, hs.calm.queues⟩,
        fun hc ↦ absurd (hc ▸ trivial) hspawned, hs.unspawned, hs.ordered, hs.spawner⟩
    exact hpushed.attemptEnded hspawned
  | transportClosed h ht =>
    refine ⟨hs.toChannels, hs.closeSend, hs.calm, fun hc ↦ ?_, hs.unspawned, hs.ordered, hs.spawner⟩
    rw [(hs.connecting hc).2.1] at h
    cases h
  | watcherSignal h hq =>
    refine ⟨hs.toChannels, hs.closeSend, ⟨hs.calm.tasks, hs.calm.queues⟩, fun hc ↦ ?_, hs.unspawned,
      hs.ordered, hs.spawner⟩
    rw [(hs.connecting hc).2.1] at h
    cases h
  | @link a l hl h =>
    refine hs.link hl h fun heq ↦ ?_
    subst heq
    exact ho
  | peerClose h =>
    refine ⟨hs.toChannels, hs.closeSend, hs.calm, fun hc ↦ ?_, hs.unspawned, fun hc ↦ ?_,
      by rintro ⟨⟩⟩
    · rw [(hs.connecting hc).1] at h
      cases h
    · exact hs.ordered (hc.imp_right (by rintro ⟨⟩))

/-- What a connection is like when its task is spawned. -/
structure Opened (c : ClientSideConnection) : Prop where
  toChannels : c.toChannels.sender = true
  closeSend : c.closeSend.sender = true
  queues : ∀ h, (c.queues h).bytes.queued = []
  fromAsyncClient : c.specific.fromAsyncClient.queued = []
  state : c.specific.state = .connecting

theorem Opened.create {c : ClientSideConnection} (hc : Opened c) (id : ChannelId)
    (config : ChannelConfig) : Opened (c.createConnectionChannel id config).2 := by
  by_cases hr : c.toChannels.Ready
  · obtain ⟨hto, hclose, -, hqueues⟩ :=
      PeerConnection.createConnectionChannel_of_ready (i := id) hr config
    have hspecific := PeerConnection.specific_createConnectionChannel (s := c) (i := id) config
    refine ⟨by rw [hto]; exact hc.toChannels, by rw [hclose]; exact hc.closeSend, fun h ↦ ?_,
      by rw [hspecific]; exact hc.fromAsyncClient, by rw [hspecific]; exact hc.state⟩
    have hnew : ∀ h, (Function.update c.queues c.created .new h).bytes.queued = [] := fun h ↦ by
      rw [Function.update_apply]
      split_ifs
      · rfl
      · exact hc.queues h
    rw [hqueues]
    cases c.slot id with
    | none => exact hnew h
    | some old =>
      simp only [Option.elim, Channel.drop]
      rw [Function.update_apply]
      split_ifs
      · exact hnew old.queues
      · exact hnew h
  · rw [PeerConnection.createConnectionChannel_of_not_ready hr]
    exact hc

theorem inv_start {c : ClientSideConnection} (hc : Opened c) : (start c []).Inv where
  toChannels := hc.toChannels
  closeSend := hc.closeSend
  calm := ⟨nofun, hc.queues⟩
  connecting _ := ⟨rfl, rfl, hc.fromAsyncClient⟩
  unspawned _ := rfl
  ordered _ h := nomatch hc.state.symm.trans h
  spawner := nofun

/-- Nothing is left to do for the spawner, and there are no channel tasks. -/
def LinkAtRest (l : Link ClientConnection) : Prop :=
  (l.spawner = .closed ∨ ∃ c, l.spawner = .listening c ∧ l.conn.closeSend.recv c = none ∧
    l.conn.toChannels.queued = [] ∧ l.conn.toChannels.sender = true) ∧ ∀ h, l.tasks h = none

theorem LinkAtRest.idle {l : Link ClientConnection} (hl : LinkAtRest l) : l.Idle := by
  refine ⟨.inr (hl.1.imp_right fun ⟨c, hlisten, hclose, hqueued, hsender⟩ ↦
    ⟨c, hlisten, hclose, ?_, ?_⟩), hl.2⟩
  · rw [Mpsc.recv, hqueued]
  · rw [Mpsc.finished, hsender, Bool.not_true, Bool.and_false]

theorem quiescent_of_atRest (hattempt : s.attempt = .ended)
    (hwatcher : s.watcher = .ended ∨ s.watcher = .waiting ∧ s.transport = .established)
    (hl : LinkAtRest s.link) : Quiescent sharedClientId s := by
  intro a s' ha hstep
  cases hstep with
  | link h hstep => exact hl.idle.not_step h hstep
  | spawnWatcher h | spawnRecv h | spawnSpawner h | receiveClientId _ h | signal h =>
    rw [hattempt] at h
    cases h
  | transportClosed h ht => simp_all
  | watcherSignal h => simp_all
  | _ => exact ha

/-- The application disconnects before the spawner is subscribed: the spawner never sees the order. -/
theorem early_disconnect_leaves_transport_open : ∃ s,
    Reachable (Step true) (fun _ a ↦ a.Disconnecting) (start .opened []) s ∧
      s.Disconnected ∧ Quiescent true s ∧ s.frame = .outside ∧ s.transport = .established := by
  have hstart : Reachable (Step true) (fun _ a ↦ a.Disconnecting) (start .opened []) _ := .start
  have hordered := hstart.next (by trivial) (.disconnect true rfl fun _ ↦ rfl)
  have hestablished := hordered.next (by trivial) (.established rfl)
  have hwatched := hestablished.next (by trivial) (.spawnWatcher rfl)
  have hreceiving := hwatched.next (by trivial) (.spawnRecv rfl)
  have hspawned := hreceiving.next (by trivial) (.spawnSpawner rfl)
  have hrun := hspawned.next (by trivial) (.receiveClientId .interrupted rfl fun _ ↦ rfl)
  exact ⟨_, hrun, rfl, quiescent_of_atRest rfl (.inr ⟨rfl, rfl⟩)
    ⟨.inr ⟨1, rfl, rfl, rfl, rfl⟩, fun _ ↦ rfl⟩, rfl, rfl⟩

end Session

end BevyIroh
