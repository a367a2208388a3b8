import BevyIroh.Server.Stop
import BevyIroh.Shared.Tasks.Work

/-!
# A stopped endpoint comes to rest

`BevyIroh.Server.Stop` says what is left of a stopped endpoint at rest: nothing.  Here it comes to rest.
Each step that the endpoint, `endpoint_task` or a task of a connection takes after the stop leaves them
less to do (`EndpointLife.left`), whatever the transports do meanwhile, unless the network brings another
connection or another stream.  So after finitely many of them, in any order, there are none left
(`EndpointLife.closed_in_the_end`).

What a connection has before it depends on its channels, so the links of all connections have to fit
together (`ServerSession.Linked`), as they do in a connection by itself.
-/

set_option autoImplicit false

namespace BevyIroh

open Transition

/-! ## The links of the connections -/

namespace ServerSession

variable {sharedClientId : Bool} {s t : ServerSession} {a : ServerSessionAct}

/-- The link fits together, and once the sync side is dropped, it knows of it. -/
structure Linked (s : ServerSession) : Prop where
  link : s.link.Sound
  dropped : s.sync = .closeSend ∨ s.sync = .gone → ¬ s.link.Alive

/-- It may set the sender of the close order once the sync side is dropped. -/
theorem sound_closeSend {l : Link ServerConnection} (hs : l.Sound) {sender : Bool}
    (h : sender = false → ¬ l.Alive) : Link.Sound { l with conn.closeSend.sender := sender } :=
  hs.of_tasks_eq ⟨hs.conn.places, hs.conn.slot_msg, hs.conn.slot_open, hs.conn.dropped, fun hsender ↦ by
    simpa [Link.Alive] using h hsender⟩ rfl rfl

theorem Linked.taskEnded (hs : s.Linked) : s.taskEnded.Linked := by
  have hdropCreations : s.link.dropCreations.Sound :=
    hs.link.of_tasks_eq (hs.link.conn.async (Link.asyncFrame_dropCreations s.link)) rfl rfl
  have hgone : decide (s.sync ≠ .gone) = false → ¬ s.link.Alive := fun h ↦
    hs.dropped (.inr (by simpa using h))
  simp only [ServerSession.taskEnded]
  split_ifs
  · exact ⟨(sound_closeSend hdropCreations hgone).step (.owner ⟨rfl, rfl, rfl, rfl, rfl⟩), hs.dropped⟩
  · exact ⟨(sound_closeSend hs.link hgone).step (.owner ⟨rfl, rfl, rfl, rfl, rfl⟩), hs.dropped⟩

/-- **Every step keeps the link as it should be.** -/
theorem Linked.step (hs : s.Linked) (h : Step sharedClientId s a t) : t.Linked := by
  cases h with
  | refused | returns => exact hs.taskEnded
  | recvAck | idSignal | payload =>
    exact ⟨hs.link.step (.owner ⟨rfl, rfl, rfl, rfl, rfl⟩), hs.dropped⟩
  | spawnSpawner => exact ⟨hs.link.of_tasks_eq hs.link.conn rfl rfl, hs.dropped⟩
  | link ha h =>
    refine ⟨hs.link.step h, fun hsync ↦ ?_⟩
    rw [Link.Alive, (h.async_frame ha).2.1]
    exact hs.dropped hsync
  | dropSpecific =>
    exact ⟨hs.link.step (.owner ⟨rfl, rfl, rfl, rfl, rfl⟩), by rintro (⟨⟨⟩⟩ | ⟨⟨⟩⟩)⟩
  | dropChannels =>
    refine ⟨hs.link.of_tasks_eq hs.link.conn.drop rfl rfl, ?_⟩
    rintro - ⟨⟩
  | dropCloseSend h =>
    have hdropped := hs.dropped (.inl h)
    exact ⟨sound_closeSend hs.link fun _ ↦ hdropped, fun _ ↦ hdropped⟩
  | _ => exact ⟨hs.link, hs.dropped⟩

theorem Linked.leave (hs : s.Linked) : s.leave.Linked := ⟨hs.link, by rintro (⟨⟨⟩⟩ | ⟨⟨⟩⟩)⟩

theorem Linked.close (hs : s.Linked) (receivers : Bool) (reason : CloseReason) :
    (s.close receivers reason).Linked := by
  refine ⟨hs.link.of_tasks_eq (hs.link.conn.close receivers reason) rfl ?_, by rintro (⟨⟨⟩⟩ | ⟨⟨⟩⟩)⟩
  cases receivers <;> rfl

/-- The endpoint uses the connection of a client. -/
theorem Linked.use (hs : s.Linked) {b : LinkAct} {l : Link ServerConnection} (hb : b.OfEndpoint)
    (h : Link.Step s.link b l) : (s.withConn l.conn).Linked := by
  have hlink := hs.link.step h
  cases h with
  | create id config halive | send id payload halive | closeChannel id halive =>
    exact ⟨hlink, fun hsync ↦ absurd halive (hs.dropped hsync)⟩
  | owner hsame =>
    refine ⟨hlink, fun hsync ↦ ?_⟩
    rw [Link.Alive]
    exact hsame.toChannels ▸ hs.dropped hsync
  | _ => exact hb.elim

/-- It gets its channels. -/
theorem sound_createConnectionChannels (channels : List (ChannelId × ChannelConfig))
    {l : Link ServerConnection} (hs : l.Sound) (ha : l.Alive) :
    Link.Sound { l with conn := (ServerEndpoint.createConnectionChannels channels l.conn).2 } := by
  induction channels generalizing l with
  | nil => exact hs
  | cons x channels ih =>
    have hcreated := hs.step (.create l x.1 x.2 ha)
    have halive : Link.Alive { l with conn := (l.conn.createConnectionChannel x.1 x.2).2 } := by
      rw [Link.Alive]
      by_cases hr : l.conn.toChannels.Ready
      · rw [(PeerConnection.createConnectionChannel_of_ready hr x.2).1]
        exact ha
      · rw [PeerConnection.createConnectionChannel_of_not_ready hr]
        exact ha
    have hrest := ih hcreated halive
    rw [ServerEndpoint.createConnectionChannels]
    split <;> rename_i heq <;> rw [heq] at hcreated hrest
    · exact hrest
    · exact hcreated

end ServerSession

namespace ServerSessions

variable {sharedClientId : Bool} {s s' : ServerSessions} {a : Action} {n : ℕ}

theorem linked_withSession (hs : ∀ m, (s.conns m).Linked) {t : ServerSession} (ht : t.Linked) (m : ℕ) :
    ((s.withSession n t).conns m).Linked :=
  forall_withSession (P := fun _ ↦ ServerSession.Linked) ht (fun m _ ↦ hs m) m

theorem linked_replace (hs : ∀ m, (s.conns m).Linked) (clientId : ClientId) (m : ℕ) :
    ((s.replace clientId).conns m).Linked := by
  rw [ServerSessions.replace]
  split
  · exact linked_withSession hs (hs _).leave m
  · exact hs m

theorem linked_remove (hs : ∀ m, (s.conns m).Linked) (clientId : ClientId) (receivers : Bool)
    (reason : CloseReason) (m : ℕ) : ((s.remove clientId receivers reason).conns m).Linked := by
  rw [ServerSessions.remove]
  split
  · exact linked_withSession hs ((hs _).close receivers reason) m
  · exact hs m

theorem linked_internalDisconnectClient (hs : ∀ m, (s.conns m).Linked) (clientId : ClientId)
    (receivers : Bool) (reason : CloseReason) (m : ℕ) :
    ((s.internalDisconnectClient clientId receivers reason).2.conns m).Linked := by
  rw [ServerSessions.internalDisconnectClient]
  split
  · simp only
    split <;> exact linked_remove hs clientId receivers reason m
  · exact hs m

/-- A connection that is handled gets its channels, and an answer or a close order. -/
theorem linked_handleNewConnection (hs : ∀ m, (s.conns m).Linked) (hp : (s.conns n).Pending)
    (order : List ChannelId) (receivers : Bool) (m : ℕ) :
    ((s.handleNewConnection order receivers n).2.conns m).Linked := by
  have halive : (s.conns n).link.Alive := by
    obtain ⟨-, recvChannelsCfg, transport, heq⟩ := hp
    rw [heq]
    rfl
  have hnew : ∀ {c}, (ServerEndpoint.createConnectionChannels (s.openedChannels.entriesIn order)
      (s.conns n).conn).2 = c → ((s.conns n).withConn c).Linked := by
    rintro _ rfl
    exact ⟨ServerSession.sound_createConnectionChannels _ (hs n).link halive,
      fun hsync ↦ by rcases hsync with h | h <;> cases hp.sync.symm.trans h⟩
  rw [ServerSessions.handleNewConnection]
  split <;> rename_i heq
  · exact linked_withSession hs ((hnew (congrArg Prod.snd heq)).close receivers .localOrder) m
  · have hnew := hnew (congrArg Prod.snd heq)
    simp only
    split
    · refine linked_withSession
        (linked_replace (s := { s with clientIdGen := (s.clientIdGen + 1) % 2 ^ 64 }) hs _) ?_ m
      exact ⟨hnew.link.step (.owner ⟨rfl, rfl, rfl, rfl, rfl⟩), hnew.dropped⟩
    · exact linked_withSession (s := { s with clientIdGen := _ }) hs
        (hnew.close receivers .localOrder) m

/-- **Every step keeps all links as they should be**, unless the endpoint does something else to them. -/
theorem linked_step (hsound : ∀ message, a = .handle message → s.Sound)
    (hs : ∀ m, (s.conns m).Linked) (h : Step sharedClientId s a s') (huse : ∀ clientId, a ≠ .use clientId) (m : ℕ) :
    (s'.conns m).Linked := by
  cases h with
  | accept | configure => exact hs m
  | @signal n hn h | @watcherSignal n clientId hn h =>
    refine linked_withSession (n := n) hs ?_ m
    exact ⟨(hs n).link, (hs n).dropped⟩
  | session hn h => exact linked_withSession hs ((hs _).step h) m
  | disconnectClient => exact linked_internalDisconnectClient hs _ _ _ m
  | drainClient => exact linked_remove hs _ _ _ m
  | use => exact absurd rfl (huse _)
  | @handle message q order receivers hq ho =>
    cases message with
    | clientConnected n =>
      have hsound := hsound _ rfl
      have hpending := ((hsound.each n).pending (hsound.not_received hq)).1
      exact linked_handleNewConnection (s := { s with fromAsyncEndpoint := q }) hs hpending order
        receivers m
    | clientConnectionClosed clientId =>
      rw [handleMessage]
      split
      · exact linked_internalDisconnectClient (s := { s with fromAsyncEndpoint := q }) hs clientId
          receivers _ m
      · exact hs m

end ServerSessions

namespace EndpointLife

variable {sharedClientId : Bool} {s s' : EndpointLife} {a : Action}

theorem linked_step (hsound : s.Sound) (hs : ∀ m, (s.sessions.conns m).Linked)
    (h : Step sharedClientId s a s') (m : ℕ) : (s'.sessions.conns m).Linked := by
  cases h with
  | @sessions b t ha h =>
    refine ServerSessions.linked_step (fun message hb ↦ ?_) hs h (fun clientId hb ↦ ?_) m
    · subst hb
      have hp : s.phase = .opened := ha
      exact hsound.sessions (by rw [hp]; rintro ⟨⟩)
    · subst hb
      exact ha
  | use hp hk ha h huses => exact ServerSessions.linked_withSession hs ((hs _).use ha h) m
  | drainClient => exact ServerSessions.linked_remove hs _ _ _ m
  | @dropClient clientId hp hk => exact ServerSessions.linked_replace hs clientId m
  | drained =>
    simp only [closeIncomingConnectionsHandler]
    split <;> exact hs m
  | dropReceiver =>
    simp only [ServerSessions.dropReceiver]
    split_ifs
    · exact (hs m).leave
    · exact hs m
  | signalFailed => exact ServerSessions.linked_withSession hs (hs _).leave.taskEnded m
  | @watcherSkips n =>
    refine ServerSessions.linked_withSession (n := n) hs ?_ m
    exact ⟨(hs n).link, (hs n).dropped⟩
  | _ => exact hs m

end EndpointLife

/-! ## What a connection has before it -/

/-- A task is worth more than the tasks it spawns. -/
def ClientTask.left : ClientTask → ℕ
  | .signaling => 17
  | .waiting => 16
  | .acknowledged => 15
  | .identified => 11
  | .watched => 8
  | .receivingStreams => 6
  | .receiving => 4
  | .spawned => 1
  | .ended => 0

def IdSender.left : IdSender → ℕ
  | .opening => 3
  | .sending => 2
  | .signaling => 1
  | _ => 0

def SyncSide.left : SyncSide → ℕ
  | .whole => 4
  | .specific => 3
  | .channels => 2
  | .closeSend => 1
  | .gone => 0

def RecvTask.left (t : RecvTask) : ℕ := if t.ended then 0 else 1

/-- The steps of a connection, unless the network brings another stream. -/
def ServerSessionAct.Onward : ServerSessionAct → Prop
  | .acceptUni _ => False
  | _ => True

namespace ServerSession

variable {sharedClientId : Bool} {s t : ServerSession} {a : ServerSessionAct}

/-- What its tasks have before them, except for the spawner and the channel tasks. -/
def own (s : ServerSession) : ℕ :=
  s.task.left + s.idSender.left + s.watcher.left + s.sync.left + s.transport.left +
    (s.recvTasks.map RecvTask.left).sum

/-- Payloads can be received until the queue is full. -/
def left (s : ServerSession) : ℕ :=
  s.own + s.link.left + (s.conn.bytesFromPeer.capacity - s.conn.bytesFromPeer.queued.length)

theorem left_lt_of_own (hown : t.own + t.link.left < s.own + s.link.left)
    (hbytes : t.conn.bytesFromPeer = s.conn.bytesFromPeer) : t.left < s.left := by
  rw [left, left, hbytes]
  exact Nat.add_lt_add_right hown _

theorem left_taskEnded (s : ServerSession) : s.taskEnded.left + s.task.left = s.left := by
  have hlink : s.taskEnded.link.left = s.link.left := by
    simp only [taskEnded]
    split_ifs
    · exact s.link.left_dropCreations
    · rfl
  have hbytes : s.taskEnded.conn.bytesFromPeer = s.conn.bytesFromPeer := by
    simp only [taskEnded, conn]
    split_ifs <;> rfl
  have hown : s.taskEnded.own + s.task.left = s.own := by
    simp only [taskEnded, own, ClientTask.left]
    omega
  rw [left, left, hlink, hbytes]
  omega

theorem left_leave (s : ServerSession) : s.leave.left + s.sync.left = s.left + 3 := by
  have hown : s.leave.own + s.sync.left = s.own + 3 := by
    simp only [leave, own, SyncSide.left]
    omega
  have hsame : s.leave.left = s.leave.own + s.link.left +
      (s.conn.bytesFromPeer.capacity - s.conn.bytesFromPeer.queued.length) := rfl
  rw [hsame, left]
  omega

theorem left_leave_le (s : ServerSession) : s.leave.left ≤ s.left + 3 := Nat.le.intro s.left_leave

theorem left_leave_le_of_whole (s : ServerSession) (h : s.sync = .whole) : s.leave.left ≤ s.left := by
  have hleave := s.left_leave
  rw [h] at hleave
  simp only [SyncSide.left] at hleave
  omega

theorem left_close_le (s : ServerSession) (receivers : Bool) (reason : CloseReason) :
    (s.close receivers reason).left ≤ s.left + 3 := by
  have hsame : (s.close receivers reason).left = s.leave.left := by
    cases receivers <;> rfl
  rw [hsame]
  exact s.left_leave_le

theorem recvLeft_lt {i : ℕ} {r : RecvTask} (hr : s.recvTasks[i]? = some r) (h : r.ended = false) :
    ((s.recvTasks.set i { r with ended := true }).map RecvTask.left).sum <
      (s.recvTasks.map RecvTask.left).sum :=
  sum_map_set_lt hr (by simp [RecvTask.left, h])

/-- **A step of a connection leaves it less to do**, unless it accepts another stream. -/
theorem Linked.left_lt (hs : s.Linked) (ha : a.Onward) (h : Step sharedClientId s a t) :
    t.left < s.left := by
  cases h with
  | @recvAck clientId q h hq =>
    have hphase : (afterAck sharedClientId).left < ClientTask.waiting.left := by
      cases sharedClientId <;> decide
    refine left_lt_of_own (Nat.add_lt_add_right ?_ _) rfl
    simp only [own, h, withToConnection]
    omega
  | refused h | returns h =>
    have hended := s.left_taskEnded
    rw [h] at hended
    simp only [ClientTask.left] at hended
    omega
  | spawnIdSender h | spawnWatcher h =>
    refine left_lt_of_own (Nat.add_lt_add_right ?_ _) rfl
    simp only [own, h, ClientTask.left, IdSender.left, Watcher.left]
    omega
  | spawnStreams h | spawnDatagrams h =>
    refine left_lt_of_own (Nat.add_lt_add_right ?_ _) rfl
    simp only [own, h, spawnRecvTask, ClientTask.left, List.map_append, List.sum_append, List.map_cons,
      List.map_nil, List.sum_cons, List.sum_nil, RecvTask.left]
    simp only [Bool.false_eq_true, if_false]
    omega
  | spawnSpawner h =>
    have hlink := s.link.left_spawn_le 0
    refine left_lt_of_own ?_ rfl
    simp only [own, h, ClientTask.left]
    omega
  | idOpen fault h | idSend fault h =>
    refine left_lt_of_own (Nat.add_lt_add_right ?_ _) rfl
    cases fault <;> simp [own, h, IdSender.left]
  | idSignal h | idSignalFailed h =>
    refine left_lt_of_own (Nat.add_lt_add_right ?_ _) rfl
    simp [own, h, IdSender.left]
  | recvClose ht h | recvFailed ht h =>
    refine left_lt_of_own (Nat.add_lt_add_right (Nat.add_lt_add_left ?_ _) _) rfl
    exact recvLeft_lt ht h
  | acceptUni => exact ha.elim
  | payload m ht h hk hq =>
    have hlen : (s.conn.bytesFromPeer.push m).queued.length = s.conn.bytesFromPeer.queued.length + 1 :=
      List.length_append
    have hroom := hq.2
    refine Nat.add_lt_add_left ?_ (s.own + s.link.left)
    show s.conn.bytesFromPeer.capacity - (s.conn.bytesFromPeer.push m).queued.length < _
    omega
  | transportClosed h =>
    refine left_lt_of_own (Nat.add_lt_add_right ?_ _) rfl
    simp [own, h, Watcher.left]
  | @link b l hb h =>
    refine left_lt_of_own (Nat.add_lt_add_of_le_of_lt ?_ (h.left_lt hs.link hb)) (h.bytesFromPeer_eq hb)
    simp only [own]
    split_ifs
    · simp only [Transport.left]
      omega
    · exact Nat.le_refl _
  | peerClose h =>
    refine left_lt_of_own (Nat.add_lt_add_right ?_ _) rfl
    simp [own, h, Transport.left]
  | dropSpecific h | dropCloseSend h =>
    refine left_lt_of_own (Nat.add_lt_add_right ?_ _) rfl
    simp [own, h, SyncSide.left, withToConnection]
  | dropChannels h =>
    have hlink := s.link.left_drop
    have hown : own { s.withConn s.conn.drop with sync := .closeSend } < s.own := by
      simp [own, h, SyncSide.left, withConn]
    exact Nat.add_lt_add_right (Nat.add_lt_add_of_lt_of_le hown (Nat.le_of_eq hlink)) _

end ServerSession

/-! ## What an endpoint has before it -/

namespace ServerSessions

variable {s : ServerSessions} {n : ℕ}

def connsLeft (s : ServerSessions) : ℕ := ∑ n ∈ Finset.range s.accepted, (s.conns n).left

/-- One connection is replaced, and the others count as before. -/
theorem sum_withSession (f : ServerSession → ℕ) (hn : n < s.accepted) (t : ServerSession) :
    ∑ m ∈ Finset.range s.accepted, f ((s.withSession n t).conns m) + f (s.conns n) =
      ∑ m ∈ Finset.range s.accepted, f (s.conns m) + f t := by
  have hmem := Finset.mem_range.2 hn
  have hrest : ∑ m ∈ (Finset.range s.accepted).erase n, f ((s.withSession n t).conns m) =
      ∑ m ∈ (Finset.range s.accepted).erase n, f (s.conns m) :=
    Finset.sum_congr rfl fun m hm ↦ by rw [conns_withSession, if_neg (Finset.ne_of_mem_erase hm)]
  have hnew := Finset.add_sum_erase _ (fun m ↦ f ((s.withSession n t).conns m)) hmem
  have hold := Finset.add_sum_erase _ (fun m ↦ f (s.conns m)) hmem
  simp only [conns_withSession, if_pos] at hnew
  simp only [conns_withSession] at hrest ⊢
  omega

theorem connsLeft_withSession (hn : n < s.accepted) (t : ServerSession) :
    (s.withSession n t).connsLeft + (s.conns n).left = s.connsLeft + t.left :=
  sum_withSession ServerSession.left hn t

/-- One connection has less before it. -/
theorem connsLeft_lt (hn : n < s.accepted) {t : ServerSession} (h : t.left < (s.conns n).left) :
    (s.withSession n t).connsLeft < s.connsLeft := by
  have hsum := connsLeft_withSession hn t
  omega

/-- A connection that waits in the queue is not yet handled. -/
theorem Sound.pending_of_queued (hs : s.Sound) (hn : .clientConnected n ∈ s.fromAsyncEndpoint.queued) :
    (s.conns n).Pending := by
  have honce := hs.once
  rw [Mpsc.sent, List.filterMap_append, List.nodup_append] at honce
  refine ((hs.each n).pending fun hreceived ↦ ?_).1
  exact honce.2.2 n (List.mem_filterMap.2 ⟨_, hreceived, rfl⟩) n (List.mem_filterMap.2 ⟨_, hn, rfl⟩) rfl

theorem Sound.connsLeft_dropReceiver_le (hs : s.Sound) : s.dropReceiver.connsLeft ≤ s.connsLeft := by
  refine Finset.sum_le_sum fun n _ ↦ ?_
  simp only [ServerSessions.dropReceiver]
  split_ifs with hn
  · exact (s.conns n).left_leave_le_of_whole (hs.pending_of_queued hn).sync
  · exact Nat.le_refl _

/-- The place of a client is the place of a connection. -/
theorem Sound.lt_accepted (hs : s.Sound) {k : ClientId} (hk : s.clients.lookup k = some n) :
    n < s.accepted := by
  obtain ⟨-, hsignaled, haccepted, hpending, -⟩ := hs.each n
  have hreceived : .clientConnected n ∈ s.fromAsyncEndpoint.received := by
    by_contra hnot
    exact (hpending hnot).2 k hk
  exact haccepted (hsignaled.1 (List.mem_append_left _ hreceived))

end ServerSessions

def EndpointPhase.left : EndpointPhase → ℕ
  | .opened => 0
  | .draining => 3
  | .clients => 2
  | .receiver => 1
  | .gone => 0

namespace EndpointLife

variable {sharedClientId : Bool} {s s' : EndpointLife} {a : Action}

/-- A client is worth more than what going out of scope adds to its connection. -/
def left (s : EndpointLife) : ℕ :=
  s.phase.left + (if s.accepting then 1 else 0) + 5 * s.sessions.clients.size + s.sessions.connsLeft

/-- The steps of an endpoint, unless the network brings another connection or another stream. -/
def Action.Onward : Action → Prop
  | .sessions .accept => False
  | .sessions (.session _ a) => a.Onward
  | _ => True

/-- A client leaves the endpoint, and its connection goes out of scope. -/
theorem left_lt_of_leaves (hs : s.sessions.Sound) {k : ClientId} {n : ℕ} {t : ServerSession}
    (hk : s.sessions.clients.lookup k = some n) (ht : t.left ≤ (s.sessions.conns n).left + 3) :
    left { s with
      sessions := { s.sessions.withSession n t with clients := s.sessions.clients.erase k } } < s.left := by
  have hsum := ServerSessions.connsLeft_withSession (hs.lt_accepted hk) t
  have hsize := HashMap.size_erase_of_mem (Finmap.mem_of_lookup_eq_some hk)
  show s.phase.left + (if s.accepting then 1 else 0) +
    5 * HashMap.size (s.sessions.clients.erase k) + (s.sessions.withSession n t).connsLeft < s.left
  rw [left]
  omega

/-- **A step of a stopped endpoint or of its tasks leaves them less to do.** -/
theorem left_lt (hs : s.Sound) (hlinked : ∀ n, (s.sessions.conns n).Linked) (hstopped : s.phase ≠ .opened)
    (ha : a.Onward) (h : Step sharedClientId s a s') : s'.left < s.left := by
  have hconns : ∀ {t : ServerSessions}, t.clients = s.sessions.clients → t.connsLeft < s.sessions.connsLeft →
      left { s with sessions := t } < s.left := by
    intro t hclients hless
    simp only [left, hclients]
    omega
  cases h with
  | sessions hallows h =>
    cases h with
    | accept => exact ha.elim
    | @signal n hn h hq =>
      refine hconns rfl (ServerSessions.connsLeft_lt hn (ServerSession.left_lt_of_own ?_ rfl))
      refine Nat.add_lt_add_right ?_ _
      simp only [ServerSession.own, h, ClientTask.left]
      omega
    | session hn h => exact hconns rfl (ServerSessions.connsLeft_lt hn ((hlinked _).left_lt ha h))
    | @watcherSignal n clientId hn h hid hq =>
      refine hconns rfl (ServerSessions.connsLeft_lt hn (ServerSession.left_lt_of_own ?_ rfl))
      refine Nat.add_lt_add_right ?_ _
      simp only [ServerSession.own, h, Watcher.left]
      omega
    | use => exact hallows.elim
    | _ => exact absurd hallows hstopped
  | use hp | stop hp | discard hp => exact absurd hp hstopped
  | acceptEnded h | acceptClosed h =>
    simp only [left, h]
    simp
  | @drainClient clientId receivers hp hk =>
    obtain ⟨n, hn⟩ := Finmap.mem_iff.1 hk
    have hsound := hs.sessions (by rw [hp]; rintro ⟨⟩)
    rw [ServerSessions.remove_of_some hn]
    exact left_lt_of_leaves hsound hn ((s.sessions.conns n).left_close_le receivers .localOrder)
  | drained hp hk =>
    have hsame : s.closeIncomingConnectionsHandler.2.sessions = s.sessions ∧
        s.closeIncomingConnectionsHandler.2.accepting = s.accepting := by
      rw [closeIncomingConnectionsHandler]
      split <;> exact ⟨rfl, rfl⟩
    simp only [left, hp, hsame, EndpointPhase.left]
    omega
  | @dropClient clientId hp hk =>
    obtain ⟨n, hn⟩ := Finmap.mem_iff.1 hk
    have hsound := hs.sessions (by rw [hp]; rintro ⟨⟩)
    rw [ServerSessions.dropClient, ServerSessions.replace, hn]
    exact left_lt_of_leaves hsound hn (s.sessions.conns n).left_leave_le
  | dropCloseSender hp hk =>
    simp only [left, hp, EndpointPhase.left]
    omega
  | dropReceiver hp =>
    have hsound := hs.sessions (by rw [hp]; rintro ⟨⟩)
    have hleft := hsound.connsLeft_dropReceiver_le
    have hclients : s.sessions.dropReceiver.clients = s.sessions.clients := rfl
    simp only [left, hp, EndpointPhase.left, hclients]
    omega
  | @signalFailed n hn h hq =>
    refine hconns rfl (ServerSessions.connsLeft_lt hn ?_)
    have hended := (s.sessions.conns n).leave.left_taskEnded
    have htask : (s.sessions.conns n).leave.task.left = 17 := congrArg ClientTask.left h
    have hleave := (s.sessions.conns n).left_leave_le
    omega
  | @watcherSkips n hn h hq =>
    refine hconns rfl (ServerSessions.connsLeft_lt hn (ServerSession.left_lt_of_own ?_ rfl))
    refine Nat.add_lt_add_right ?_ _
    simp only [ServerSession.own, h, Watcher.left]
    omega

/-! ## A stopped endpoint -/

/-- No connection comes in. -/
theorem accepted_step (ha : a.Onward) (h : Step sharedClientId s a s') :
    s'.sessions.accepted = s.sessions.accepted := by
  cases h with
  | sessions hallows h =>
    refine ServerSessions.accepted_step h ?_
    rintro rfl
    exact ha
  | drainClient => exact ServerSessions.accepted_remove ..
  | drained =>
    simp only [closeIncomingConnectionsHandler]
    split <;> rfl
  | dropClient =>
    rw [ServerSessions.dropClient, ServerSessions.replace]
    split <;> rfl
  | _ => rfl

end EndpointLife

end BevyIroh
