import BevyIroh.Server.Tasks
import BevyIroh.Shared.Tasks.Progress

/-!
# A connection that goes out of scope

A task that subscribes to the close order too late, after the order was sent, has to wait for something
else: it sees the end of the broadcast, once the last sender is gone.  On the server there are two
senders.  One is the sync side's, and the other `client_connection_task`'s, which returns as soon as it
has its answer and has spawned the other tasks.

So when a connection was answered and has gone out of scope, and its tasks are at rest, all of them have
ended and the spawner has closed the transport (`ServerSession.Sound.closed_of_atRest`).  Whether the
close order was ever sent, or in time, does not matter.
-/

set_option autoImplicit false

namespace BevyIroh

/-! ## What holds of one connection -/

/-- The steps of the tasks that need nothing from the network, and those in which the connection goes
out of scope. -/
def ServerSessionAct.Internal : ServerSessionAct → Prop
  | .idOpen _ => False
  | .idSend _ => False
  | .acceptUni _ => False
  | .payload _ _ => False
  | .recvFailed _ => False
  | .peerClose => False
  | .link a => a.Internal
  | _ => True

namespace ServerSession

variable {sharedClientId : Bool} {s t : ServerSession} {a : ServerSessionAct}

structure Sound (s : ServerSession) : Prop where
  proper : s.link.Proper
  receiver : s.sync = .closeSend ∨ s.sync = .gone → s.conn.fromChannels.receiver = false
  /-- Both senders of the close order are dropped. -/
  closed : s.sync = .gone → s.task = .ended → s.conn.closeSend.sender = false
  waiting : s.task = .signaling ∨ s.task = .waiting →
    s.conn.specific.toConnectionSend.received = []
  /-- Only a connection that was never answered does without a spawner. -/
  spawner : s.link.spawner = .absent → s.task = .spawned ∨ s.task = .ended →
    s.conn.specific.toConnectionSend.sent = []
  transport : s.link.spawner = .closed → s.transport = .closed

theorem sound_start (recvChannelsCfg : RecvChannelsConfiguration) : (start recvChannelsCfg).Sound where
  proper := by rintro _ _ ⟨⟩
  receiver := by rintro (⟨⟨⟩⟩ | ⟨⟨⟩⟩)
  closed := by rintro ⟨⟩
  waiting _ := rfl
  spawner _ := by rintro (⟨⟨⟩⟩ | ⟨⟨⟩⟩)
  transport := by rintro ⟨⟩

theorem taskEnded_link (s : ServerSession) :
    s.taskEnded.link.tasks = s.link.tasks ∧ s.taskEnded.link.spawner = s.link.spawner ∧
      s.taskEnded.conn.fromChannels = s.conn.fromChannels ∧
      s.taskEnded.conn.specific.toConnectionSend = s.conn.specific.toConnectionSend.dropReceiver := by
  simp only [taskEnded, conn]
  split <;> exact ⟨rfl, rfl, rfl, rfl⟩

/-- `client_connection_task` returns with the spawner spawned, or unanswered. -/
theorem Sound.taskEnded (hs : s.Sound)
    (hspawner : s.link.spawner = .absent → s.conn.specific.toConnectionSend.sent = []) :
    s.taskEnded.Sound := by
  obtain ⟨htasks, hsp, hfrom, hto⟩ := s.taskEnded_link
  refine ⟨fun {h t} ht ↦ hs.proper (htasks ▸ ht), ?_, ?_, ?_, ?_, ?_⟩
  · rw [hfrom]
    exact hs.receiver
  · intro hgone _
    have hsync : s.sync = .gone := hgone
    show decide (s.sync ≠ .gone) = false
    simp [hsync]
  · rintro (⟨⟨⟩⟩ | ⟨⟨⟩⟩)
  · rw [hsp, hto]
    exact fun habsent _ ↦ hspawner habsent
  · rw [hsp]
    exact hs.transport

/-- **Every step keeps a connection sound.** -/
theorem Sound.step (hs : s.Sound) (h : Step sharedClientId s a t) : t.Sound := by
  cases h with
  | @recvAck clientId q h hq =>
    have hphase : afterAck sharedClientId = .acknowledged ∨ afterAck sharedClientId = .identified := by
      cases sharedClientId
      · exact .inr rfl
      · exact .inl rfl
    refine { hs with closed := fun _ ↦ ?_, waiting := ?_, spawner := fun _ ↦ ?_ }
    all_goals rcases hphase with hphase | hphase <;> simp [hphase]
  | refused h hq =>
    refine hs.taskEnded fun _ ↦ ?_
    have hreceived := hs.waiting (.inr h)
    have hqueued : s.conn.specific.toConnectionSend.queued = [] := by
      simp only [Mpsc.finished, Bool.and_eq_true, List.isEmpty_iff] at hq
      exact hq.1
    rw [Mpsc.sent, hreceived, hqueued]
    rfl
  | returns h => exact hs.taskEnded fun habsent ↦ hs.spawner habsent (.inl h)
  | spawnIdSender | spawnWatcher | spawnStreams | spawnDatagrams =>
    exact { hs with
      closed := by rintro _ ⟨⟩
      waiting := by rintro (⟨⟨⟩⟩ | ⟨⟨⟩⟩)
      spawner := by rintro _ (⟨⟨⟩⟩ | ⟨⟨⟩⟩) }
  | spawnSpawner =>
    exact { hs with
      proper := hs.proper
      closed := by rintro _ ⟨⟩
      waiting := by rintro (⟨⟨⟩⟩ | ⟨⟨⟩⟩)
      spawner := by rintro ⟨⟩
      transport := by rintro ⟨⟩ }
  | @link b l hb h =>
    obtain ⟨hclose, -, hreceiver⟩ := h.async_frame hb
    have hspecific := h.specific_eq hb
    refine ⟨Link.Proper.step hs.proper hb h, fun hsync ↦ ?_, fun hsync htask ↦ ?_, fun htask ↦ ?_,
      fun habsent htask ↦ ?_, fun hclosed ↦ ?_⟩
    · exact hreceiver.trans (hs.receiver hsync)
    · exact (congrArg Broadcast.sender hclose).trans (hs.closed hsync htask)
    · show l.conn.specific.toConnectionSend.received = []
      rw [hspecific]
      exact hs.waiting htask
    · show l.conn.specific.toConnectionSend.sent = []
      rw [hspecific]
      exact hs.spawner ((h.spawner_absent_iff hb).1 habsent) htask
    · rcases h.of_spawner_closed hb hclosed with rfl | hclosed
      · rfl
      · show (if b = .closeConnection then Transport.closed else s.transport) = .closed
        rw [hs.transport hclosed, ite_self]
  | dropSpecific h =>
    refine { hs with proper := hs.proper, receiver := ?_, closed := ?_ }
    · rintro (⟨⟨⟩⟩ | ⟨⟨⟩⟩)
    · rintro ⟨⟩
  | dropChannels h =>
    exact { hs with proper := hs.proper, receiver := fun _ ↦ rfl, closed := by rintro ⟨⟩ }
  | dropCloseSend h =>
    refine { hs with
      proper := hs.proper, receiver := fun _ ↦ hs.receiver (.inl h), closed := fun _ htask ↦ ?_ }
    have hended : s.task = .ended := htask
    show decide (s.task ≠ .ended) = false
    simp [hended]
  | peerClose => exact { hs with transport := fun _ ↦ rfl }
  | idSignal | payload => exact { hs with proper := hs.proper, receiver := hs.receiver }
  | _ => exact { hs with }

/-- A connection that goes out of scope keeps all its ends for now. -/
theorem Sound.leave (hs : s.Sound) : s.leave.Sound :=
  { hs with receiver := by rintro (⟨⟨⟩⟩ | ⟨⟨⟩⟩), closed := by rintro ⟨⟩ }

theorem Sound.close (hs : s.Sound) (receivers : Bool) (reason : CloseReason) :
    (s.close receivers reason).Sound := by
  have hspecific := PeerConnection.specific_close (s := s.conn) receivers reason
  refine ⟨hs.proper, by rintro (⟨⟨⟩⟩ | ⟨⟨⟩⟩), by rintro ⟨⟩, ?_, ?_, hs.transport⟩
  · show _ → (s.conn.close receivers reason).2.specific.toConnectionSend.received = []
    rw [hspecific]
    exact hs.waiting
  · show _ → _ → (s.conn.close receivers reason).2.specific.toConnectionSend.sent = []
    rw [hspecific]
    exact hs.spawner

/-- What a step of the tasks does not change. -/
theorem Step.frame (h : Step sharedClientId s a t) :
    t.conn.specific.toConnectionSend.sent = s.conn.specific.toConnectionSend.sent ∧
      (t.task = .signaling ↔ s.task = .signaling) ∧ (t.sync = .whole → s.sync = .whole) := by
  cases h with
  | @recvAck clientId q h hq =>
    refine ⟨Mpsc.sent_of_recv hq, ?_, id⟩
    cases sharedClientId <;> simp [afterAck, h]
  | refused h | returns h =>
    rw [s.taskEnded_link.2.2.2]
    exact ⟨rfl, by simp [taskEnded, h], id⟩
  | spawnIdSender h | spawnWatcher h | spawnStreams h | spawnDatagrams h | spawnSpawner h =>
    exact ⟨rfl, by simp [h], id⟩
  | link ha h => exact ⟨by rw [conn, h.specific_eq ha]; rfl, Iff.rfl, id⟩
  | dropSpecific | dropChannels | dropCloseSend => exact ⟨rfl, Iff.rfl, by rintro ⟨⟩⟩
  | _ => exact ⟨rfl, Iff.rfl, id⟩

/-- A connection that the endpoint has not handled. -/
def Pending (s : ServerSession) : Prop :=
  (s.task = .signaling ∨ s.task = .waiting) ∧
    ∃ recvChannelsCfg transport, s = { start recvChannelsCfg with task := s.task, transport }

theorem pending_start (recvChannelsCfg : RecvChannelsConfiguration) :
    (start recvChannelsCfg).Pending := ⟨.inl rfl, _, _, rfl⟩

theorem Pending.watcher (hs : s.Pending) : s.watcher = .absent := by
  obtain ⟨-, recvChannelsCfg, transport, heq⟩ := hs
  rw [heq]
  rfl

theorem Pending.sync (hs : s.Pending) : s.sync = .whole := by
  obtain ⟨-, recvChannelsCfg, transport, heq⟩ := hs
  rw [heq]
  rfl

/-- Nothing happens to it, except that the peer closes the transport. -/
theorem Pending.step (hs : s.Pending) (h : Step sharedClientId s a t) : t.Pending := by
  have hsync := hs.sync
  have hwatcher := hs.watcher
  obtain ⟨htask, recvChannelsCfg, transport, heq⟩ := hs
  have hphase : ∀ {phase : ClientTask}, s.task = phase → phase ≠ .signaling → phase ≠ .waiting →
      False := fun h h₁ h₂ ↦ htask.elim (fun ht ↦ h₁ (h ▸ ht)) fun ht ↦ h₂ (h ▸ ht)
  have hid : s.idSender = .absent := by rw [heq]; rfl
  have hrecv : s.recvTasks = [] := by rw [heq]; rfl
  have hlink : s.link = (start recvChannelsCfg).link := by rw [heq]
  cases h with
  | recvAck h hq =>
    rw [conn, hlink] at hq
    cases hq
  | refused h hq =>
    rw [conn, hlink] at hq
    cases hq
  | spawnIdSender h | spawnWatcher h | spawnStreams h | spawnDatagrams h | spawnSpawner h
  | returns h => exact (hphase h (by rintro ⟨⟩) (by rintro ⟨⟩)).elim
  | idOpen fault h | idSend fault h | idSignal h | idSignalFailed h => cases hid.symm.trans h
  | recvClose ht | acceptUni ht | payload m ht | recvFailed ht => simp [hrecv] at ht
  | transportClosed h => cases hwatcher.symm.trans h
  | link ha h =>
    rw [hlink] at h
    cases h with
    | listenClose h | listenCreate h | listenEnded h | closeConnection h => cases h
    | task ht | message ht => cases ht
    | _ => exact ha.elim
  | peerClose h => exact ⟨htask, recvChannelsCfg, .closed, by rw [heq]⟩
  | dropSpecific h | dropChannels h | dropCloseSend h => cases hsync.symm.trans h

/-- It is answered, and has been changed in some other way. -/
theorem Sound.answer (hs : s.Sound) (hp : s.Pending) (conn : ServerSideConnection)
    (message : ServerSyncMessage) : ((s.withConn conn).withToConnection
      (s.conn.specific.toConnectionSend.push message)).Sound := by
  have hsync := hp.sync
  have hrunning : s.task ≠ .spawned ∧ s.task ≠ .ended := by
    rcases hp.1 with h | h <;> rw [h] <;> exact ⟨by rintro ⟨⟩, by rintro ⟨⟩⟩
  refine ⟨hs.proper, ?_, fun _ h ↦ absurd h hrunning.2, hs.waiting, ?_, hs.transport⟩
  · rintro (h | h) <;> cases hsync.symm.trans h
  · rintro - (h | h)
    · exact absurd h hrunning.1
    · exact absurd h hrunning.2

theorem Sound.use (hs : s.Sound) {conn : ServerSideConnection} (h : ServerSessions.Uses s.conn conn) :
    (s.withConn conn).Sound where
  proper := hs.proper
  receiver hsync := h.fromChannels.trans (hs.receiver hsync)
  closed hsync htask := (congrArg Broadcast.sender h.closeSend).trans (hs.closed hsync htask)
  waiting htask := by
    show conn.specific.toConnectionSend.received = []
    rw [h.specific]
    exact hs.waiting htask
  spawner habsent htask := by
    show conn.specific.toConnectionSend.sent = []
    rw [h.specific]
    exact hs.spawner habsent htask
  transport := hs.transport

/-! ## A connection at rest -/

/-- Nothing that belongs to the connection waits any more, and the transport is closed. -/
structure Closed (s : ServerSession) : Prop where
  spawner : s.link.spawner = .closed
  transport : s.transport = .closed
  channelTasks : ∀ h t, s.link.tasks h = some t → t.Done
  recvTasks : ∀ t ∈ s.recvTasks, t.ended = true

/-- No step is left that needs nothing from the network. -/
def AtRest (sharedClientId : Bool) (s : ServerSession) : Prop :=
  ∀ a t, a.Internal → ¬ Step sharedClientId s a t

/-- The connection is out of scope. -/
theorem AtRest.gone (hrest : s.AtRest sharedClientId) (hsync : s.sync ≠ .whole) : s.sync = .gone := by
  cases h : s.sync with
  | whole => exact absurd h hsync
  | specific => exact (hrest _ _ (by trivial) (.dropSpecific h)).elim
  | channels => exact (hrest _ _ (by trivial) (.dropChannels h)).elim
  | closeSend => exact (hrest _ _ (by trivial) (.dropCloseSend h)).elim
  | gone => rfl

/-- `client_connection_task` has returned, since there was an answer for it. -/
theorem AtRest.ended (hrest : s.AtRest sharedClientId) (hs : s.Sound) (hsignaled : s.task ≠ .signaling)
    (hanswered : s.conn.specific.toConnectionSend.sent ≠ []) : s.task = .ended := by
  cases h : s.task with
  | signaling => exact absurd h hsignaled
  | waiting =>
    rw [Mpsc.sent, hs.waiting (.inr h), List.nil_append] at hanswered
    obtain ⟨⟨clientId⟩, rest, hqueued⟩ := List.exists_cons_of_ne_nil hanswered
    exact (hrest _ _ (by trivial) (.recvAck h (Mpsc.recv_eq_some.2 ⟨rest, hqueued, rfl⟩))).elim
  | acknowledged => exact (hrest _ _ (by trivial) (.spawnIdSender h)).elim
  | identified => exact (hrest _ _ (by trivial) (.spawnWatcher h)).elim
  | watched => exact (hrest _ _ (by trivial) (.spawnStreams h)).elim
  | receivingStreams => exact (hrest _ _ (by trivial) (.spawnDatagrams h)).elim
  | receiving => exact (hrest _ _ (by trivial) (.spawnSpawner h)).elim
  | spawned => exact (hrest _ _ (by trivial) (.returns h)).elim
  | ended => rfl

/-- **A connection that was answered and has gone out of scope is closed**, when it is at rest.  With both
senders of the close order gone, whoever listens to it sees something: an order, or the end. -/
theorem Sound.closed_of_atRest (hs : s.Sound) (hrest : s.AtRest sharedClientId)
    (hsignaled : s.task ≠ .signaling) (hanswered : s.conn.specific.toConnectionSend.sent ≠ [])
    (hsync : s.sync ≠ .whole) : s.Closed := by
  have hgone := hrest.gone hsync
  have hended := hrest.ended hs hsignaled hanswered
  have hclose : ∀ c, (s.conn.closeSend.recv c).isSome :=
    Broadcast.recv_isSome_of_closed (hs.closed hgone hended)
  have hdone : ∀ h t, s.link.tasks h = some t → t.Done := by
    by_contra hall
    push Not at hall
    obtain ⟨h, t, ht, hnot⟩ := hall
    obtain ⟨a, l, ha, hstep⟩ :=
      Link.Proper.exists_step hs.proper (hs.receiver (.inr hgone)) hclose ht hnot
    exact hrest (.link a) _ ha (.link ha.ofTasks hstep)
  have hspawner : s.link.spawner = .closed := by
    cases h : s.link.spawner with
    | absent => exact absurd (hs.spawner h (.inr hended)) hanswered
    | listening c =>
      obtain ⟨r, hr⟩ := Option.isSome_iff_exists.1 (hclose c)
      exact (hrest (.link .listenClose) _ (by trivial) (.link (by trivial) (.listenClose h hr))).elim
    | waiting =>
      exact (hrest (.link .closeConnection) _ (by trivial)
        (.link (by trivial) (.closeConnection h hdone))).elim
    | closed => rfl
  refine ⟨hspawner, hs.transport hspawner, hdone, fun t ht ↦ ?_⟩
  by_contra hwaiting
  obtain ⟨i, hi⟩ := List.getElem?_of_mem ht
  exact hrest _ _ (by trivial) (.recvClose hi (Bool.eq_false_iff.2 hwaiting) (hclose _))

end ServerSession

end BevyIroh
