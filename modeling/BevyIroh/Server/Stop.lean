import BevyIroh.Lib.Inevitable
import BevyIroh.Server.Answers

/-!
# Stopping the endpoint

The endpoint of a server lives from `start_endpoint` until the sync side lets go of it: `stop_endpoint`
takes it, closes its clients one after the other and orders `endpoint_task` to return, or it is just
dropped, when `start_endpoint` puts another one in its place or the server is removed.  An endpoint has
its own queues and tasks, so the next one is another life.

In either case it goes out of scope field by field, while its tasks go on: `endpoint_task` may still
accept connections, connections may still be handed over, and those that were are still in the queue when
its receiver is dropped.  They will never be answered, and their `client_connection_task` sees it.

So nothing is left of a stopped endpoint when its tasks are at rest (`stopped_endpoint_leaves_nothing`):
`endpoint_task` has returned, the connections that were answered are closed, and nobody has the others.
-/

set_option autoImplicit false

namespace BevyIroh

open Transition

/-! ## The life of an endpoint -/

/-- What the sync side has of the endpoint. -/
inductive EndpointPhase where
  | opened
  /-- `stop_endpoint` has taken it and closes the clients. -/
  | draining
  /-- It goes out of scope, and next are its clients and its sender of the close order. -/
  | clients
  /-- Next is its receiver of messages. -/
  | receiver
  | gone
deriving DecidableEq, Repr

structure EndpointLife where
  sessions : ServerSessions
  phase : EndpointPhase
  /-- `endpoint_task` is in its `select!`. -/
  accepting : Bool
  closeSender : Broadcast Unit

namespace ServerSessions

/-- A client goes out of scope with the map. -/
def dropClient (self : ServerSessions) (clientId : ClientId) : ServerSessions :=
  { self.replace clientId with clients := self.clients.erase clientId }

/-- The receiver is dropped, and the connections that wait in the queue go out of scope. -/
def dropReceiver (self : ServerSessions) : ServerSessions :=
  { self with
    fromAsyncEndpoint := self.fromAsyncEndpoint.dropReceiver
    conns := fun n ↦
      if .clientConnected n ∈ self.fromAsyncEndpoint.queued then (self.conns n).leave
      else self.conns n }

end ServerSessions

/-- What the endpoint does with the connection of a client: it creates and closes channels, sends, and
receives. -/
def LinkAct.OfEndpoint : LinkAct → Prop
  | .create _ _ => True
  | .send _ _ => True
  | .closeChannel _ => True
  | .owner => True
  | _ => False

namespace EndpointLife

/-- `start_endpoint` has spawned `endpoint_task`. -/
def start (recvChannelsCfg : RecvChannelsConfiguration)
    (openedChannels : HashMap ChannelId ChannelConfig) : EndpointLife where
  sessions := .start recvChannelsCfg openedChannels
  phase := .opened
  accepting := true
  closeSender := { capacity := defaultKillMessageQueueSize }

def closeIncomingConnectionsHandler (self : EndpointLife) :
    Except AsyncChannelError Unit × EndpointLife :=
  match self.closeSender.send self.accepting () with
  | .ok closeSender => (.ok (), { self with closeSender })
  | .error _ => (.error .internalChannelClosed, self)

/-- The tasks of the connections always go on, the sync side only as long as it has the endpoint. -/
def Allows (self : EndpointLife) : ServerSessions.Action → Prop
  | .signal _ => True
  | .session _ _ => True
  | .watcherSignal _ => True
  | .accept => self.accepting = true
  | .use _ => False
  | _ => self.phase = .opened

inductive Action where
  | sessions (a : ServerSessions.Action)
  | use (clientId : ClientId) (a : LinkAct)
  | acceptEnded
  | acceptClosed
  | stop
  | drainClient (clientId : ClientId)
  | drained
  | discard
  | dropClient (clientId : ClientId)
  | dropCloseSender
  | dropReceiver
  | signalFailed (n : ℕ)
  | watcherSkips (n : ℕ)
deriving DecidableEq, Repr

inductive Step (sharedClientId : Bool) : EndpointLife → Action → EndpointLife → Prop
  | sessions {s : EndpointLife} {a : ServerSessions.Action} {t : ServerSessions} (ha : s.Allows a)
      (h : ServerSessions.Step sharedClientId s.sessions a t) :
      Step sharedClientId s (.sessions a) { s with sessions := t }
  | use {s : EndpointLife} {clientId : ClientId} {n : ℕ} {a : LinkAct} {l : Link ServerConnection}
      (hp : s.phase = .opened) (hk : s.sessions.clients.lookup clientId = some n) (ha : a.OfEndpoint)
      (h : Link.Step (s.sessions.conns n).link a l)
      (huses : ServerSessions.Uses (s.sessions.conns n).conn l.conn) :
      Step sharedClientId s (.use clientId a)
        { s with sessions := s.sessions.withSession n ((s.sessions.conns n).withConn l.conn) }
  /-- The raw endpoint is closed, and `accept` answers `None`. -/
  | acceptEnded {s : EndpointLife} (h : s.accepting = true) :
      Step sharedClientId s .acceptEnded { s with accepting := false }
  | acceptClosed {s : EndpointLife} (h : s.accepting = true) (hr : (s.closeSender.recv 0).isSome) :
      Step sharedClientId s .acceptClosed { s with accepting := false }
  | stop {s : EndpointLife} (hp : s.phase = .opened) :
      Step sharedClientId s .stop { s with phase := .draining }
  | drainClient {s : EndpointLife} {clientId : ClientId} (receivers : Bool) (hp : s.phase = .draining)
      (hk : clientId ∈ s.sessions.clients) :
      Step sharedClientId s (.drainClient clientId)
        { s with sessions := s.sessions.remove clientId receivers .localOrder }
  | drained {s : EndpointLife} (hp : s.phase = .draining) (hk : s.sessions.clients = ∅) :
      Step sharedClientId s .drained { s.closeIncomingConnectionsHandler.2 with phase := .clients }
  /-- Another endpoint takes its place, or the server is removed. -/
  | discard {s : EndpointLife} (hp : s.phase = .opened) :
      Step sharedClientId s .discard { s with phase := .clients }
  | dropClient {s : EndpointLife} {clientId : ClientId} (hp : s.phase = .clients)
      (hk : clientId ∈ s.sessions.clients) :
      Step sharedClientId s (.dropClient clientId)
        { s with sessions := s.sessions.dropClient clientId }
  | dropCloseSender {s : EndpointLife} (hp : s.phase = .clients) (hk : s.sessions.clients = ∅) :
      Step sharedClientId s .dropCloseSender
        { s with phase := .receiver, closeSender.sender := false }
  | dropReceiver {s : EndpointLife} (hp : s.phase = .receiver) :
      Step sharedClientId s .dropReceiver { s with phase := .gone, sessions := s.sessions.dropReceiver }
  /-- The connection cannot be handed over.  It comes back with the error, and the task panics. -/
  | signalFailed {s : EndpointLife} {n : ℕ} (hn : n < s.sessions.accepted)
      (h : (s.sessions.conns n).task = .signaling)
      (hq : s.sessions.fromAsyncEndpoint.receiver = false) :
      Step sharedClientId s (.signalFailed n)
        { s with sessions := s.sessions.withSession n (s.sessions.conns n).leave.taskEnded }
  /-- Nobody takes the message of the watcher any more. -/
  | watcherSkips {s : EndpointLife} {n : ℕ} (hn : n < s.sessions.accepted)
      (h : (s.sessions.conns n).watcher = .signaling)
      (hq : s.sessions.fromAsyncEndpoint.receiver = false) :
      Step sharedClientId s (.watcherSkips n)
        { s with sessions := s.sessions.withSession n { s.sessions.conns n with watcher := .ended } }

end EndpointLife

/-! ## Connections that the endpoint has left -/

namespace ServerSession

variable {sharedClientId : Bool} {s t : ServerSession} {a : ServerSessionAct}

/-- A connection that was answered, and that the endpoint does not have any more. -/
structure Removed (s : ServerSession) : Prop where
  sound : s.Sound
  signaled : s.task ≠ .signaling
  answered : s.conn.specific.toConnectionSend.sent ≠ []
  left : s.sync ≠ .whole

theorem Removed.step (hs : s.Removed) (h : Step sharedClientId s a t) : t.Removed := by
  obtain ⟨hsent, htask, hsync⟩ := h.frame
  exact ⟨hs.sound.step h, mt htask.1 hs.signaled, hsent ▸ hs.answered, mt hsync hs.left⟩

/-- A connection that nobody will answer. -/
structure Unanswered (s : ServerSession) : Prop where
  task : s.task = .signaling ∨ s.task = .waiting ∨ s.task = .ended
  /-- It was not handed over, or is out of scope with the queue. -/
  left : s.task ≠ .signaling → s.sync ≠ .whole
  sent : s.conn.specific.toConnectionSend.sent = []
  sender : s.sync ≠ .whole → s.sync ≠ .specific → s.conn.specific.toConnectionSend.sender = false
  spawner : s.link.spawner = .absent
  channelTasks : ∀ h, s.link.tasks h = none
  recvTasks : s.recvTasks = []
  watcher : s.watcher = .absent
  idSender : s.idSender = .absent

/-- A connection that was not handled, when it is not handed over or goes out of scope with the queue. -/
theorem Pending.unanswered (hs : s.Pending) (sync : SyncSide)
    (hleft : s.task ≠ .signaling → sync ≠ .whole) (hsync : sync = .whole ∨ sync = .specific) :
    Unanswered { s with sync } := by
  obtain ⟨htask, recvChannelsCfg, transport, heq⟩ := hs
  exact
    { task := htask.imp_right .inl
      left := hleft
      sent := by rw [heq]; rfl
      sender := fun h h' ↦ (hsync.elim h h').elim
      spawner := by rw [heq]; rfl
      channelTasks := fun h ↦ by rw [heq]; rfl
      recvTasks := by rw [heq]; rfl
      watcher := by rw [heq]; rfl
      idSender := by rw [heq]; rfl }

/-- Its task returns, or panics. -/
theorem Unanswered.taskEnded (hs : s.Unanswered) (hleft : s.sync ≠ .whole) :
    s.taskEnded.Unanswered := by
  obtain ⟨htasks, hspawner, -, hto⟩ := s.taskEnded_link
  exact
    { task := .inr (.inr rfl)
      left := fun _ ↦ hleft
      sent := by rw [hto]; exact hs.sent
      sender := by rw [hto]; exact hs.sender
      spawner := hspawner.trans hs.spawner
      channelTasks := fun h ↦ (congrFun htasks h).trans (hs.channelTasks h)
      recvTasks := hs.recvTasks
      watcher := hs.watcher
      idSender := hs.idSender }

theorem Unanswered.leave (hs : s.Unanswered) : s.leave.Unanswered :=
  { hs with
    left := by rintro - ⟨⟩
    sender := fun _ hne ↦ absurd rfl hne }

theorem Unanswered.step (hs : s.Unanswered) (h : Step sharedClientId s a t) : t.Unanswered := by
  have hphase : ∀ {phase : ClientTask}, s.task = phase → phase ≠ .signaling → phase ≠ .waiting →
      phase ≠ .ended → False := fun h h₁ h₂ h₃ ↦
    hs.task.elim (fun ht ↦ h₁ (h ▸ ht)) fun ht ↦ ht.elim (fun ht ↦ h₂ (h ▸ ht)) fun ht ↦ h₃ (h ▸ ht)
  cases h with
  | recvAck h hq =>
    have hmem := Mpsc.mem_queued_of_recv hq
    have hnone := (List.append_eq_nil_iff.1 hs.sent).2
    rw [hnone] at hmem
    cases hmem
  | refused h => exact hs.taskEnded (hs.left (by rw [h]; rintro ⟨⟩))
  | spawnIdSender h | spawnWatcher h | spawnStreams h | spawnDatagrams h | spawnSpawner h
  | returns h => exact (hphase h (by rintro ⟨⟩) (by rintro ⟨⟩) (by rintro ⟨⟩)).elim
  | idOpen fault h | idSend fault h | idSignal h | idSignalFailed h => cases hs.idSender.symm.trans h
  | recvClose ht | acceptUni ht | payload m ht | recvFailed ht => simp [hs.recvTasks] at ht
  | transportClosed h => cases hs.watcher.symm.trans h
  | link ha h =>
    cases h with
    | listenClose h | listenCreate h | listenEnded h | closeConnection h => cases hs.spawner.symm.trans h
    | task ht | message ht => cases (hs.channelTasks _).symm.trans ht
    | _ => exact ha.elim
  | peerClose => exact { hs with }
  | dropSpecific =>
    exact { hs with
      left := by rintro - ⟨⟩
      sender := fun _ _ ↦ rfl }
  | dropChannels h =>
    have hsender := hs.sender (by rw [h]; rintro ⟨⟩) (by rw [h]; rintro ⟨⟩)
    exact { hs with
      left := by rintro - ⟨⟩
      sender := fun _ _ ↦ hsender }
  | dropCloseSend h =>
    have hsender := hs.sender (by rw [h]; rintro ⟨⟩) (by rw [h]; rintro ⟨⟩)
    exact { hs with
      left := by rintro - ⟨⟩
      sender := fun _ _ ↦ hsender }

/-- A connection of which the endpoint is gone. -/
def Left (s : ServerSession) : Prop := s.Removed ∨ s.Unanswered

theorem Left.step (hs : s.Left) (h : Step sharedClientId s a t) : t.Left :=
  hs.imp (·.step h) (·.step h)

/-- Nobody has the connection. -/
structure Released (s : ServerSession) : Prop where
  task : s.task = .ended
  sync : s.sync = .gone
  spawner : s.link.spawner = .absent
  channelTasks : ∀ h, s.link.tasks h = none
  recvTasks : s.recvTasks = []
  watcher : s.watcher = .absent
  idSender : s.idSender = .absent

/-- Nobody has a connection that was not answered, once it is at rest. -/
theorem Unanswered.released_of_atRest (hs : s.Unanswered) (hrest : s.AtRest sharedClientId)
    (hsignaled : s.task ≠ .signaling) : s.Released := by
  have hgone := hrest.gone (hs.left hsignaled)
  refine ⟨?_, hgone, hs.spawner, hs.channelTasks, hs.recvTasks, hs.watcher, hs.idSender⟩
  rcases hs.task with h | h | h
  · exact absurd h hsignaled
  · have hsender := hs.sender (by rw [hgone]; rintro ⟨⟩) (by rw [hgone]; rintro ⟨⟩)
    have hqueued := (List.append_eq_nil_iff.1 hs.sent).2
    refine (hrest _ _ (by trivial) (.refused h ?_)).elim
    rw [Mpsc.finished, hqueued, hsender]
    rfl
  · exact h

end ServerSession

/-! ## What holds of the endpoint -/

namespace ServerSessions

variable {sharedClientId : Bool} {s s' : ServerSessions} {a : Action}

theorem Sound.dropClient (hs : s.Sound) (clientId : ClientId) : (s.dropClient clientId).Sound := by
  obtain ⟨hr, hleft, -⟩ := hs.replace clientId
  obtain ⟨conns, -, hreplace, -⟩ := s.replace_eq clientId 0 s.fromAsyncEndpoint
  rw [hreplace] at hr hleft
  rw [ServerSessions.dropClient, hreplace]
  refine hr.withClients (fun k m hk ↦ ?_) fun k m hk hm ↦ ?_
  · rw [HashMap.lookup_erase_eq_ite] at hk
    split_ifs at hk
    exact hk
  · rw [HashMap.lookup_erase_eq_ite, if_neg]
    · exact hk
    · rintro rfl
      exact hleft m hk hm

theorem fromAsyncEndpoint_remove (s : ServerSessions) (clientId : ClientId) (receivers : Bool)
    (reason : CloseReason) :
    (s.remove clientId receivers reason).fromAsyncEndpoint = s.fromAsyncEndpoint := by
  rw [ServerSessions.remove]
  split <;> rfl

theorem fromAsyncEndpoint_internalDisconnectClient (s : ServerSessions) (clientId : ClientId)
    (receivers : Bool) (reason : CloseReason) :
    (s.internalDisconnectClient clientId receivers reason).2.fromAsyncEndpoint =
      s.fromAsyncEndpoint := by
  rw [ServerSessions.internalDisconnectClient]
  split
  · simp only
    split <;> exact s.fromAsyncEndpoint_remove clientId receivers reason
  · rfl

/-- The endpoint keeps the receiver of its queue. -/
theorem receiver_step (h : Step sharedClientId s a s') :
    s'.fromAsyncEndpoint.receiver = s.fromAsyncEndpoint.receiver := by
  cases h with
  | @handle m q order receivers hq ho =>
    have hreceiver : q.receiver = s.fromAsyncEndpoint.receiver := by
      obtain ⟨rest, -, rfl⟩ := Mpsc.recv_eq_some.1 hq
      rfl
    cases m with
    | clientConnected n =>
      obtain ⟨c, -, ⟨e, clientIdGen, heq⟩ | heq⟩ :=
        handleNewConnection_cases { s with fromAsyncEndpoint := q } order receivers n
      · rw [handleMessage, heq]
        exact hreceiver
      · obtain ⟨conns, -, -, hreplace⟩ :=
          s.replace_eq ((s.clientIdGen + 1) % 2 ^ 64) ((s.clientIdGen + 1) % 2 ^ 64) q
        simp only [withNextClient, hreplace] at heq
        rw [handleMessage, heq]
        exact hreceiver
    | clientConnectionClosed clientId =>
      rw [handleMessage]
      split
      · rw [tryDisconnectClosedClient, fromAsyncEndpoint_internalDisconnectClient]
        exact hreceiver
      · exact hreceiver
  | disconnectClient => rw [ServerSessions.disconnectClient, fromAsyncEndpoint_internalDisconnectClient]
  | drainClient => rw [fromAsyncEndpoint_remove]
  | _ => rfl

end ServerSessions

namespace EndpointLife

variable {sharedClientId : Bool} {s s' : EndpointLife} {a : Action} {b : ServerSessions.Action}

/-- As long as the endpoint is there its connections are sound.  When it is gone, each of them either was
answered or will not be. -/
structure Sound (s : EndpointLife) : Prop where
  sessions : s.phase ≠ .gone → s.sessions.Sound
  clients : s.phase = .receiver ∨ s.phase = .gone → s.sessions.clients = ∅
  closeSender : s.phase = .receiver ∨ s.phase = .gone → s.closeSender.sender = false
  receiver : s.phase = .gone ↔ s.sessions.fromAsyncEndpoint.receiver = false
  left : s.phase = .gone → ∀ n, (s.sessions.conns n).Left

theorem sound_start (recvChannelsCfg : RecvChannelsConfiguration)
    (openedChannels : HashMap ChannelId ChannelConfig) : (start recvChannelsCfg openedChannels).Sound where
  sessions _ := ServerSessions.sound_start recvChannelsCfg openedChannels
  clients _ := rfl
  closeSender := by rintro (⟨⟨⟩⟩ | ⟨⟨⟩⟩)
  receiver := ⟨by rintro ⟨⟩, by rintro ⟨⟩⟩
  left := by rintro ⟨⟩

/-- Nobody takes a connection from the endpoint that it has not answered. -/
theorem Sound.dropReceiver (hs : s.Sound) (hp : s.phase = .receiver) (n : ℕ) :
    (s.sessions.dropReceiver.conns n).Left := by
  obtain ⟨hsession, hsignaled, -, hpending, hanswered⟩ :=
    (hs.sessions (by rw [hp]; rintro ⟨⟩)).each n
  have hclients := hs.clients (.inl hp)
  simp only [ServerSessions.dropReceiver]
  by_cases hreceived : .clientConnected n ∈ s.sessions.fromAsyncEndpoint.received
  · obtain ⟨hanswered, hwhole⟩ := hanswered hreceived
    have htask := hsignaled.1 (List.mem_append_left _ hreceived)
    left
    split_ifs
    · exact ⟨hsession.leave, htask, hanswered, by rintro ⟨⟩⟩
    · refine ⟨hsession, htask, hanswered, fun h ↦ ?_⟩
      obtain ⟨k, hk⟩ := hwhole h
      simp [hclients] at hk
  · obtain ⟨hpending, -⟩ := hpending hreceived
    right
    split_ifs with hqueued
    · exact hpending.unanswered .specific (by rintro - ⟨⟩) (.inr rfl)
    · refine hpending.unanswered (s.sessions.conns n).sync (fun h ↦ ?_) (.inl hpending.sync)
      exact ((List.mem_append.1 (hsignaled.2 h)).elim hreceived hqueued).elim

theorem left_withSession {s : ServerSessions} (hs : ∀ n, (s.conns n).Left) {n : ℕ} {t : ServerSession}
    (ht : t.Left) (m : ℕ) : ((s.withSession n t).conns m).Left :=
  ServerSessions.forall_withSession (P := fun _ ↦ ServerSession.Left) ht (fun m _ ↦ hs m) m

/-- The steps of the tasks do not touch the clients, and the others need the endpoint. -/
theorem Sound.clients_step (hs : s.Sound) (ha : s.Allows b) {t : ServerSessions}
    (h : ServerSessions.Step sharedClientId s.sessions b t) (hp : s.phase = .receiver ∨ s.phase = .gone) :
    t.clients = ∅ := by
  have hclosed : s.phase ≠ .opened := by rcases hp with hp | hp <;> rw [hp] <;> rintro ⟨⟩
  cases h with
  | accept | signal | session | watcherSignal => exact hs.clients hp
  | use => exact ha.elim
  | _ => exact absurd ha hclosed

/-- Nothing comes through the queue of an endpoint that is gone. -/
theorem Sound.left_step (hs : s.Sound) (ha : s.Allows b) {t : ServerSessions}
    (h : ServerSessions.Step sharedClientId s.sessions b t) (hp : s.phase = .gone) (n : ℕ) :
    (t.conns n).Left := by
  have hclosed : s.phase ≠ .opened := by rw [hp]; rintro ⟨⟩
  have hreceiver := hs.receiver.1 hp
  cases h with
  | accept => exact hs.left hp n
  | signal hn h hq | watcherSignal hn h hid hq => simp [Mpsc.Ready, hreceiver] at hq
  | session hn h => exact left_withSession (hs.left hp) ((hs.left hp _).step h) n
  | use => exact ha.elim
  | _ => exact absurd ha hclosed

/-- The endpoint is still there. -/
theorem Sound.of_present (hs : s.Sound) (hp : s.phase ≠ .gone) (hp' : s'.phase ≠ .gone)
    (hsessions : s'.sessions.Sound)
    (hreceiver : s'.sessions.fromAsyncEndpoint.receiver = s.sessions.fromAsyncEndpoint.receiver)
    (hlast : s'.phase = .receiver → s'.sessions.clients = ∅ ∧ s'.closeSender.sender = false) :
    s'.Sound where
  sessions _ := hsessions
  clients h := (hlast (h.resolve_right hp')).1
  closeSender h := (hlast (h.resolve_right hp')).2
  receiver := by
    rw [hreceiver, ← hs.receiver]
    exact iff_of_false hp' hp
  left h := absurd h hp'

/-- **Every step keeps what holds of the endpoint.** -/
theorem Sound.step (hs : s.Sound) (h : Step sharedClientId s a s') : s'.Sound := by
  have hpresent : ∀ {phase : EndpointPhase}, s.phase = phase → phase ≠ .gone →
      s.phase ≠ .gone ∧ s.sessions.Sound := fun hp hne ↦ ⟨hp ▸ hne, hs.sessions (hp ▸ hne)⟩
  cases h with
  | sessions ha h =>
    exact ⟨fun hp ↦ (hs.sessions hp).step h, hs.clients_step ha h, hs.closeSender,
      hs.receiver.trans (by rw [ServerSessions.receiver_step h]), hs.left_step ha h⟩
  | use hp hk ha h huses =>
    obtain ⟨hpresent, hsessions⟩ := hpresent hp (by rintro ⟨⟩)
    have huse : ServerSessions.Step sharedClientId s.sessions (.use _) _ := .use hk huses
    refine hs.of_present hpresent hpresent (hsessions.step huse) rfl fun h ↦ ?_
    cases hp.symm.trans h
  | acceptEnded | acceptClosed => exact { hs with }
  | stop hp | discard hp =>
    obtain ⟨hpresent, hsessions⟩ := hpresent hp (by rintro ⟨⟩)
    exact hs.of_present hpresent (by rintro ⟨⟩) hsessions rfl (by rintro ⟨⟩)
  | @drainClient clientId receivers hp hk =>
    obtain ⟨hpresent, hsessions⟩ := hpresent hp (by rintro ⟨⟩)
    refine hs.of_present hpresent hpresent (hsessions.remove clientId receivers .localOrder)
      (by rw [ServerSessions.fromAsyncEndpoint_remove]) fun h ↦ ?_
    cases hp.symm.trans h
  | drained hp hk =>
    obtain ⟨hpresent, hsessions⟩ := hpresent hp (by rintro ⟨⟩)
    have hsame : s.closeIncomingConnectionsHandler.2.sessions = s.sessions := by
      rw [closeIncomingConnectionsHandler]
      split <;> rfl
    refine hs.of_present hpresent (by rintro ⟨⟩) ?_ ?_ (by rintro ⟨⟩)
    · exact hsame ▸ hsessions
    · exact congrArg (fun s ↦ s.fromAsyncEndpoint.receiver) hsame
  | @dropClient clientId hp hk =>
    obtain ⟨hpresent, hsessions⟩ := hpresent hp (by rintro ⟨⟩)
    refine hs.of_present hpresent hpresent (hsessions.dropClient clientId) ?_ fun h ↦ ?_
    · rw [ServerSessions.dropClient, ServerSessions.replace]
      split <;> rfl
    · cases hp.symm.trans h
  | dropCloseSender hp hk =>
    obtain ⟨hpresent, hsessions⟩ := hpresent hp (by rintro ⟨⟩)
    exact hs.of_present hpresent (by rintro ⟨⟩) hsessions rfl fun _ ↦ ⟨hk, rfl⟩
  | dropReceiver hp =>
    exact
      { sessions := fun h ↦ absurd rfl h
        clients := fun _ ↦ hs.clients (.inl hp)
        closeSender := fun _ ↦ hs.closeSender (.inl hp)
        receiver := iff_of_true rfl rfl
        left := fun _ ↦ hs.dropReceiver hp }
  | @signalFailed n hn h hq =>
    have hgone := hs.receiver.2 hq
    refine { hs with sessions := fun hp ↦ absurd hgone hp, left := fun hp ↦ ?_ }
    refine left_withSession (hs.left hp) (.inr ?_)
    have hunanswered := (hs.left hp n).resolve_left fun hr ↦ hr.signaled h
    exact hunanswered.leave.taskEnded (by rintro ⟨⟩)
  | @watcherSkips n hn h hq =>
    have hgone := hs.receiver.2 hq
    refine { hs with sessions := fun hp ↦ absurd hgone hp, left := fun hp ↦ ?_ }
    refine left_withSession (hs.left hp) (.inl ?_)
    have hremoved := (hs.left hp n).resolve_right fun hr ↦ by simp [hr.watcher] at h
    exact { hremoved with sound := { hremoved.sound with } }

/-! ## An endpoint at rest -/

/-- The steps of the tasks that need nothing from the network, and those in which the endpoint is closed
and goes out of scope. -/
def Action.Internal : Action → Prop
  | .sessions (.signal _) => True
  | .sessions (.session _ a) => a.Internal
  | .sessions (.watcherSignal _) => True
  | .acceptClosed => True
  | .drainClient _ => True
  | .drained => True
  | .dropClient _ => True
  | .dropCloseSender => True
  | .dropReceiver => True
  | .signalFailed _ => True
  | .watcherSkips _ => True
  | _ => False

def AtRest (sharedClientId : Bool) (s : EndpointLife) : Prop :=
  Exhausted (Step sharedClientId) (fun _ a ↦ a.Internal) s

theorem AtRest.gone (hrest : s.AtRest sharedClientId) (hstopped : s.phase ≠ .opened) :
    s.phase = .gone := by
  cases hp : s.phase with
  | opened => exact absurd hp hstopped
  | draining =>
    have hnone : s.sessions.clients = ∅ := HashMap.eq_empty_of_forall_notMem fun k hk ↦
      hrest (.drainClient k) _ trivial (.drainClient true hp hk)
    exact (hrest _ _ (by trivial) (.drained hp hnone)).elim
  | clients =>
    have hnone : s.sessions.clients = ∅ := HashMap.eq_empty_of_forall_notMem fun k hk ↦
      hrest (.dropClient k) _ trivial (.dropClient hp hk)
    exact (hrest _ _ (by trivial) (.dropCloseSender hp hnone)).elim
  | receiver => exact (hrest _ _ (by trivial) (.dropReceiver hp)).elim
  | gone => rfl

/-- There is nothing left of an endpoint that was stopped and is at rest. -/
theorem Sound.closed_of_atRest (hs : s.Sound) (hstopped : s.phase ≠ .opened)
    (hrest : s.AtRest sharedClientId) : s.accepting = false ∧ ∀ n < s.sessions.accepted,
      (s.sessions.conns n).Closed ∨ (s.sessions.conns n).Released := by
  have hgone := hrest.gone hstopped
  refine ⟨?_, fun n hn ↦ ?_⟩
  · by_contra haccepting
    refine hrest _ _ (by trivial) (.acceptClosed (Bool.of_not_eq_false haccepting) ?_)
    exact Broadcast.recv_isSome_of_closed (hs.closeSender (.inr hgone)) 0
  · have hsession : (s.sessions.conns n).AtRest sharedClientId := fun a t ha h ↦
      hrest (.sessions (.session n a)) _ ha (.sessions (by trivial) (.session hn h))
    rcases hs.left hgone n with hremoved | hunanswered
    · exact .inl (hremoved.sound.closed_of_atRest hsession hremoved.signaled hremoved.answered
        hremoved.left)
    · refine .inr (hunanswered.released_of_atRest hsession fun h ↦ ?_)
      exact hrest _ _ (by trivial) (.signalFailed hn h (hs.receiver.1 hgone))

theorem sound_of_reachable {recvChannelsCfg : RecvChannelsConfiguration}
    {openedChannels : HashMap ChannelId ChannelConfig}
    (hr : Reachable (Step sharedClientId) (fun _ _ ↦ True) (start recvChannelsCfg openedChannels) s) :
    s.Sound :=
  hr.invariant (sound_start recvChannelsCfg openedChannels) fun hs _ hstep ↦ hs.step hstep

end EndpointLife

end BevyIroh
