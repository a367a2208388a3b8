import BevyIroh.Client.IrohClient
import BevyIroh.Shared.Tasks.Work

/-!
# A closed client comes to rest

`BevyIroh.Client.IrohClient` says that the sessions a client has left are finished when they are at rest.
Here they come to rest: each step of a task leaves its session less to do (`Session.left_lt`), whatever
the network does meanwhile.  So when all connections are closed, after finitely many steps of the tasks, in
any order, all sessions that there ever were are finished (`IrohClient.closed_client_ends`).

What a session has before it depends on the queues that were made for it, and the connection may have left
them long ago.  The tasks do not look at the slots of the connection, so a session is seen here with a
connection that has none (`Link.detach`).
-/

set_option autoImplicit false

namespace BevyIroh

open Transition

/-! ## Without slots -/

namespace Link

variable {S : Type} {l l' : Link S} {a : LinkAct}

/-- The link of a connection that has no channels. -/
def detach (l : Link S) : Link S := { l with conn.sendChannels := [] }

/-- The tasks do not look at the slots. -/
theorem Step.detach (h : Step l a l') (ha : a.OfTasks) : Step l.detach a l'.detach := by
  cases h with
  | listenClose h hr => exact .listenClose h hr
  | listenCreate h hq => exact .listenCreate h hq
  | listenEnded h hq => exact .listenEnded h hq
  | closeConnection h hdone => exact .closeConnection h hdone
  | task ht hs => exact .task ht hs
  | message ht hc hm hs => exact .message ht hc hm hs
  | _ => exact ha.elim

end Link

/-- The creation messages, the queues and the tasks of a session fit together. -/
structure SessionQueues.Tallied (q : SessionQueues) (t : SessionTasks) : Prop where
  places : q.chans.toChannels.sent.map (·.queues) = List.range q.created
  closeSender : q.chans.close.sender = false → q.chans.toChannels.sender = false
  task_msg : ∀ {h c}, t.channelTasks h = some c →
    .createChannel c.id c.config h ∈ q.chans.toChannels.received
  msg_task : ∀ {msg}, msg ∈ q.chans.toChannels.received → (t.channelTasks msg.queues).isSome

/-- What the sync side of a connection does to it: it may put more creation messages into their queue. -/
structure ClientSideConnection.Grows (c c' : ClientSideConnection) : Prop where
  places : c.toChannels.sent.map (·.queues) = List.range c.created →
    c'.toChannels.sent.map (·.queues) = List.range c'.created
  closeSender : (c.closeSend.sender = false → c.toChannels.sender = false) →
    c'.closeSend.sender = false → c'.toChannels.sender = false
  received : c'.toChannels.received = c.toChannels.received

namespace ClientSideConnection

variable {c c' c'' : ClientSideConnection}

theorem Grows.of_eq (hto : c'.toChannels = c.toChannels) (hclose : c'.closeSend.sender = c.closeSend.sender)
    (hcreated : c'.created = c.created) : c.Grows c' :=
  ⟨fun h ↦ by rwa [hto, hcreated], fun h ↦ by rwa [hto, hclose], by rw [hto]⟩

theorem Grows.trans (h : c.Grows c') (h' : c'.Grows c'') : c.Grows c'' :=
  ⟨h'.places ∘ h.places, h'.closeSender ∘ h.closeSender, h'.received.trans h.received⟩

theorem grows_createConnectionChannel (c : ClientSideConnection) (id : ChannelId) (config : ChannelConfig) :
    c.Grows (c.createConnectionChannel id config).2 := by
  by_cases hr : c.toChannels.Ready
  · obtain ⟨hto, hclose, hcreated, -⟩ :=
      PeerConnection.createConnectionChannel_of_ready (i := id) hr config
    refine ⟨fun hplaces ↦ ?_, fun h ↦ ?_, (congrArg Mpsc.received hto).trans rfl⟩
    · rw [hto, hcreated, Mpsc.sent_push, List.map_append, hplaces, List.range_succ]
      rfl
    · rw [hto, hclose]
      exact h
  · rw [PeerConnection.createConnectionChannel_of_not_ready hr]
    exact .of_eq rfl rfl rfl

theorem grows_call (c : ClientSideConnection) (a : ClientCall) : c.Grows (c.call a) :=
  call_invariant (P := c.Grows) (fun _ _ h ↦ h.trans (.of_eq rfl rfl rfl))
    (fun c id config h ↦ h.trans (c.grows_createConnectionChannel id config))
    (fun c id h ↦ by
      obtain ⟨hto, hclose, hcreated⟩ := PeerConnection.internalCloseChannel_frame (s := c) (i := id)
      exact h.trans (.of_eq hto (congrArg _ hclose) hcreated))
    (fun c id payload h ↦ by
      obtain ⟨-, hto, hclose, hcreated⟩ := PeerConnection.internalSendPayload_frame (s := c) (i := id) payload
      exact h.trans (.of_eq hto (congrArg _ hclose) hcreated)) (.of_eq rfl rfl rfl) a

theorem grows_openConfiguredChannels {configs : List ChannelConfig} {r : Except AsyncChannelError Unit}
    (h : openConfiguredChannels configs c = some (r, c')) : c.Grows c' :=
  openConfiguredChannels_invariant (P := c.Grows) (fun _ _ h ↦ h.trans (.of_eq rfl rfl rfl))
    (fun c id config h ↦ h.trans (c.grows_createConnectionChannel id config)) (.of_eq rfl rfl rfl) h

theorem grows_internalDisconnect (c : ClientSideConnection) (receivers : Bool) (reason : CloseReason) :
    c.Grows (c.internalDisconnect receivers reason).2 := by
  rw [internalDisconnect_eq]
  refine .of_eq rfl ?_ rfl
  simp only
  split_ifs <;> rfl

theorem grows_handleLost (c : ClientSideConnection) (receivers : Bool) :
    c.Grows (c.handleLost receivers).1 := by
  rw [handleLost]
  split
  · exact .of_eq rfl rfl rfl
  · exact c.grows_internalDisconnect receivers .peerClosed

theorem grows_of_dispatchLoop {ms : List (ChannelId × Bytes)} {errs : List RecvChannelError}
    (h : c.DispatchLoop ms errs c') : c.Grows c' := by
  induction h with
  | done => exact .of_eq rfl rfl rfl
  | @arrive c c' ms errs m _ ih =>
    have harrived : Grows c (c.arrive m) := .of_eq rfl rfl rfl
    exact harrived.trans ih
  | @turn c c₁ c' m ms errs hd _ ih =>
    obtain ⟨q, -, rfl⟩ := PeerConnection.dequeue_eq_some.1 hd
    refine .trans ?_ ih
    rw [PeerConnection.storeReceivedPayload]
    split <;> split_ifs <;> exact .of_eq rfl rfl rfl

theorem grows_receivePayload (c : ClientSideConnection) (id : ChannelId) :
    c.Grows (c.receivePayload id).2 := by
  rw [receivePayload, PeerConnection.internalReceivePayload]
  split
  · exact .of_eq rfl rfl rfl
  · simp only
    split <;> exact .of_eq rfl rfl rfl

theorem grows_otherCall (h : c.OtherCall c') : c.Grows c' := by
  obtain ⟨clear, hc'⟩ := h.frame
  rw [hc']
  exact .of_eq rfl rfl rfl

theorem grows_dropEnds (c : ClientSideConnection) : c.Grows c.dropEnds := ⟨id, fun _ _ ↦ rfl, rfl⟩

end ClientSideConnection

/-- **The sync side does no more to the queues of a session.** -/
theorem ClientReceiving.Step.grows {sharedClientId : Bool} {r r' : ClientReceiving} {a : Action}
    (h : Step sharedClientId r a r') (ha : a.OfSync) : r.conn.Grows r'.conn := by
  cases h with
  | session h =>
    cases h.1 with
    | call a => exact r.conn.grows_call a
    | disconnect receivers => exact r.conn.grows_internalDisconnect receivers .localOrder
    | reconnect | reconnectFailed => exact absurd rfl ha.2
    | @handleAsync receivers message q hf hq hr =>
      have htaken : r.conn.Grows (r.conn.withFromAsyncClient q) := .of_eq rfl rfl rfl
      cases message with
      | connected | connectionFailed => exact .of_eq rfl rfl rfl
      | connectionClosed => exact htaken.trans (ClientSideConnection.grows_handleLost _ receivers)
    | @handleChannels receivers message q hf hq hr =>
      have htaken : r.conn.Grows (r.conn.withFromChannels q) := .of_eq rfl rfl rfl
      cases message with
      | lostConnection => exact htaken.trans (ClientSideConnection.grows_handleLost _ receivers)
    | beginFrame | endAsync | endFrame | reconnectIgnored => exact .of_eq rfl rfl rfl
    | _ => exact absurd trivial ha.1
  | arrive => exact ha.elim
  | dispatch hf hs hloop => exact ClientSideConnection.grows_of_dispatchLoop hloop
  | dispatchSkipped | clear => exact .of_eq rfl rfl rfl
  | receive c => exact r.conn.grows_receivePayload c

/-! ## The sessions of a connection -/

namespace Sessions

variable {sharedClientId : Bool} {s s' : Sessions} {a : Action} {n m : ℕ}

/-- The queues of a connection. -/
def queuesOf (conn : ClientSideConnection) : SessionQueues where
  chans :=
    { bytesFromServer := conn.bytesFromPeer
      toSyncClient := conn.specific.fromAsyncClient
      fromChannels := conn.fromChannels
      toChannels := conn.toChannels
      close := conn.closeSend }
  channels := conn.queues
  created := conn.created

theorem storeQueues_on (held : HeldConnection) (heap : ℕ → SessionQueues) (conn : ClientSideConnection)
    (n : ℕ) : (held.on n).storeQueues heap conn n = queuesOf conn := by
  simp only [HeldConnection.storeQueues, HeldConnection.on, if_true]
  rfl

/-- A session seen without the slots of its connection. -/
theorem sound_detach (h : (s.heap n).Tallied (s.tasks n)) : (s.taskSession n).link.detach.Sound where
  conn := ⟨h.places, nofun, nofun, fun _ _ ↦ rfl, h.closeSender⟩
  task_msg := h.task_msg
  msg_task := h.msg_task

theorem tallied_of_sound {t : Session} (h : t.link.detach.Sound) : (queuesOf t.conn).Tallied (.ofSession t) :=
  ⟨h.conn.places, h.conn.closeSender, h.task_msg, h.msg_task⟩

theorem tallied_of_grows {c c' : ClientSideConnection} {t : SessionTasks} (h : c.Grows c')
    (hs : (queuesOf c).Tallied t) : (queuesOf c').Tallied t where
  places := h.places hs.places
  closeSender := h.closeSender hs.closeSender
  task_msg := by
    show ∀ {h c}, t.channelTasks h = some c → _ ∈ c'.toChannels.received
    rw [h.received]
    exact hs.task_msg
  msg_task := by
    show ∀ {msg}, msg ∈ c'.toChannels.received → _
    rw [h.received]
    exact hs.msg_task

/-- The creation messages, the queues and the tasks of all sessions fit together. -/
def Tallied (s : Sessions) : Prop := ∀ n ≤ s.current, (s.heap n).Tallied (s.tasks n)

theorem Tallied.storeTasks (hs : s.Tallied) {t : Session} (ht : t.link.detach.Sound) :
    (s.storeTasks n t).Tallied := by
  intro m hm
  simp only [Sessions.storeTasks, Function.update_apply]
  split_ifs with hmn
  · subst hmn
    rw [storeQueues_on]
    exact tallied_of_sound ht
  · rw [HeldConnection.storeQueues_on_of_ne hmn]
    exact hs m hm

/-- The connection changes. -/
theorem Tallied.storeQueues (hs : s.Tallied) (hkept : s.Kept) {conn : ClientSideConnection}
    (h : s.conn.Grows conn) (hn : n ≤ s.current) :
    (s.held.storeQueues s.heap conn n).Tallied (s.tasks n) := by
  by_cases hne : n = s.held.fromAsyncClientRecv
  · have hconn : queuesOf s.conn = s.heap n := by
      rw [Sessions.conn, ← hkept.held, ← hne]
      rfl
    rw [← hkept.held, ← hne, storeQueues_on]
    exact tallied_of_grows h (hconn ▸ hs n hn)
  · rw [storeQueues_of_ne hkept.held hne]
    exact hs n hn

theorem sound_attemptEnded {t : Session} (hs : t.link.detach.Sound) : t.attemptEnded.link.detach.Sound := by
  rw [Session.attemptEnded]
  split
  · exact hs.of_tasks_eq (hs.conn.async (Link.asyncFrame_dropCreations t.link.detach)) rfl rfl
  · exact hs

/-- The tasks of a session keep it. -/
theorem sound_of_task {t t' : Session} {b : SessionAct} (hs : t.link.detach.Sound) (hb : b.OfTasks)
    (h : Session.Step sharedClientId t b t') : t'.link.detach.Sound := by
  cases h with
  | spawnSpawner => exact hs.of_tasks_eq hs.conn rfl rfl
  | signal => exact sound_attemptEnded (hs.step (.owner ⟨rfl, rfl, rfl, rfl, rfl⟩))
  | watcherSignal => exact hs.step (.owner ⟨rfl, rfl, rfl, rfl, rfl⟩)
  | link hl h => exact hs.step (h.detach hl)
  | established | connectFailed | spawnWatcher | spawnRecv | receiveClientId | transportClosed
  | peerClose => exact hs
  | _ => exact hb.elim

theorem tallied_new : SessionQueues.new.Tallied { SessionTasks.start with attempt := .ended } where
  places := rfl
  closeSender := by rintro ⟨⟩
  task_msg := by rintro _ _ ⟨⟩
  msg_task := by rintro _ ⟨⟩

/-- A new session begins, and the connection leaves the one it was in. -/
theorem Tallied.renew (hs : s.Tallied) (hkept : s.Kept) {conn : ClientSideConnection}
    (h : s.reset.conn.Grows conn) : (s.reset.storeConn conn).spawn.Tallied := by
  have hheld : s.reset.held.on (s.current + 1) = s.reset.held := rfl
  intro m hm
  by_cases hnew : m = s.current + 1
  · subst hnew
    have hheap : (s.reset.storeConn conn).spawn.heap (s.current + 1) = queuesOf conn := by
      show s.reset.held.storeQueues s.reset.heap conn (s.current + 1) = _
      rw [← hheld, storeQueues_on]
    have htasks : (s.reset.storeConn conn).spawn.tasks (s.current + 1) = .start := Function.update_self ..
    have hconn : queuesOf s.reset.conn = .new := by
      show s.reset.heap (s.current + 1) = .new
      exact Function.update_self ..
    rw [hheap, htasks]
    have hnew := tallied_of_grows h (hconn ▸ tallied_new)
    exact { hnew with }
  · have hold : (s.reset.storeConn conn).spawn.tasks m = s.tasks m := by
      simp only [spawn, storeConn, reset, Function.update_of_ne hnew]
    have hheap : (s.reset.storeConn conn).spawn.heap m = s.held.storeQueues s.heap s.conn.dropEnds m := by
      show s.reset.held.storeQueues s.reset.heap conn m = _
      rw [storeQueues_of_ne hheld hnew]
      exact Function.update_of_ne hnew _ _
    rw [hold, hheap]
    exact hs.storeQueues hkept s.conn.grows_dropEnds (Nat.le_of_lt_succ (lt_of_le_of_ne hm hnew))

/-- **Every step keeps it.** -/
theorem Tallied.step (hs : s.Tallied) (hkept : s.Kept) (h : Step sharedClientId s a s') : s'.Tallied := by
  cases h with
  | sync ha h => exact fun n hn ↦ hs.storeQueues hkept (h.grows ha) hn
  | other hf h => exact fun n hn ↦ hs.storeQueues hkept (ClientSideConnection.grows_otherCall h) hn
  | reconnect hf h =>
    by_cases hdis : s.held.state = .disconnected
    · obtain ⟨s₁, conn, h₁, hopen, rfl⟩ := reconnect_of_disconnected hdis
      obtain ⟨-, rfl⟩ := Prod.mk.inj (Option.some.inj (h₁.symm.trans h))
      rw [openConnection, ← conn_reset] at hopen
      exact hs.renew hkept (ClientSideConnection.grows_openConfiguredChannels hopen)
    · rw [reconnect_of_not_disconnected hdis] at h
      obtain ⟨-, rfl⟩ := Prod.mk.inj (Option.some.inj h)
      exact hs
  | task hn ha h => exact hs.storeTasks (sound_of_task (sound_detach (hs _ hn)) ha h)
  | @signalFailed n message hn h hr => exact hs.storeTasks (sound_attemptEnded (sound_detach (hs n hn)))
  | @watcherFailed n hn h hr =>
    exact hs.storeTasks (t := { s.taskSession n with watcher := .ended }) (sound_detach (hs n hn))
  | @arrive n m hn hr =>
    exact hs.storeTasks (t := (s.taskSession n).withConn ((s.taskSession n).conn.arrive m))
      ((sound_detach (hs n hn)).step (.owner ⟨rfl, rfl, rfl, rfl, rfl⟩))

theorem Tallied.drop (hs : s.Tallied) (hkept : s.Kept) : s.drop.Tallied :=
  fun _ hn ↦ hs.storeQueues hkept s.conn.grows_dropEnds hn

end Sessions

/-! ## What a session has before it -/

/-- A phase is worth more than the tasks it spawns. -/
def Attempt.left : Attempt → ℕ
  | .connecting => 11
  | .connected => 9
  | .watched => 6
  | .receiving => 5
  | .receivingClientId => 2
  | .signaling _ => 1
  | .ended => 0

namespace Session

variable {sharedClientId : Bool} {s s' : Session} {a : SessionAct}

def left (s : Session) : ℕ := s.attempt.left + s.watcher.left + s.transport.left + s.link.left

theorem left_attemptEnded (s : Session) : s.attemptEnded.left + s.attempt.left = s.left := by
  have hlink : s.attemptEnded.link.left = s.link.left := by
    simp only [attemptEnded]
    split_ifs
    · exact s.link.left_dropCreations
    · rfl
  have hown : s.attemptEnded.left = s.watcher.left + s.transport.left + s.attemptEnded.link.left := by
    simp only [attemptEnded, left, Attempt.left]
    omega
  rw [hown, hlink, left]
  omega

/-- **A step of the tasks leaves the session less to do.** -/
theorem left_lt (hs : s.link.detach.Sound) (ha : a.OfTasks) (h : Step sharedClientId s a s') :
    s'.left < s.left := by
  cases h with
  | established h | connectFailed err h | spawnWatcher h | spawnRecv h | transportClosed h
  | peerClose h =>
    simp only [left, h, Attempt.left, Watcher.left, Transport.left]
    omega
  | spawnSpawner h =>
    have hnow : s.attempt.left = 5 := by rw [h]; rfl
    have hnext : (afterSpawn sharedClientId).left ≤ 2 := by cases sharedClientId <;> decide
    have hlink := s.link.left_spawn_le s.conn.closeSend.resubscribe
    simp only [left]
    omega
  | receiveClientId r h =>
    have hnow : s.attempt.left = 2 := by rw [h]; rfl
    have hnext : (afterClientId r).left ≤ 1 := by cases r <;> simp [afterClientId, Attempt.left]
    simp only [left]
    omega
  | @signal message h =>
    have hnow : s.attempt.left = 1 := by rw [h]; rfl
    have hended := left_attemptEnded (s.withConn (s.conn.withFromAsyncClient
      (s.conn.specific.fromAsyncClient.push message)))
    have hsame : left (s.withConn (s.conn.withFromAsyncClient
      (s.conn.specific.fromAsyncClient.push message))) = s.left := rfl
    have hsame' : (s.withConn (s.conn.withFromAsyncClient
      (s.conn.specific.fromAsyncClient.push message))).attempt = s.attempt := rfl
    rw [hsame, hsame'] at hended
    omega
  | watcherSignal h =>
    show s.attempt.left + Watcher.ended.left + s.transport.left + s.link.left < s.left
    simp only [left, h, Watcher.left]
    omega
  | @link b l hb h =>
    have hdetached : l.detach.left < s.link.detach.left := (h.detach hb).left_lt hs hb
    have hlink : l.left < s.link.left := hdetached
    have htransport : Transport.left (if b = .closeConnection then .closed else s.transport) ≤
        s.transport.left := by
      split_ifs
      · exact Nat.zero_le _
      · exact Nat.le_refl _
    simp only [left]
    omega
  | _ => exact ha.elim

end Session

namespace Sessions

variable {sharedClientId : Bool} {s s' : Sessions} {a : Action} {n : ℕ}

def left (s : Sessions) : ℕ := ∑ n ∈ Finset.range (s.current + 1), (s.taskSession n).left

/-- One session has less before it. -/
theorem left_storeTasks_lt (hn : n ≤ s.current) {t : Session} (h : t.left < (s.taskSession n).left) :
    (s.storeTasks n t).left < s.left := by
  have hother : ∀ m, m ≠ n → ((s.storeTasks n t).taskSession m).left = (s.taskSession m).left := by
    intro m hm
    have htasks : (s.storeTasks n t).tasks m = s.tasks m := Function.update_of_ne hm _ _
    have hheap : (s.storeTasks n t).heap m = s.heap m := HeldConnection.storeQueues_on_of_ne hm
    simp only [taskSession, session, htasks, HeldConnection.load_on_congr hheap]
    rfl
  have hthis : ((s.storeTasks n t).taskSession n).left = t.left := by
    have htasks : (s.storeTasks n t).tasks n = .ofSession t := Function.update_self ..
    have hheap : (s.storeTasks n t).heap n = queuesOf t.conn := storeQueues_on ..
    have hlink : ((s.storeTasks n t).taskSession n).link.left = t.link.left :=
      Link.left_eq (congrArg SessionQueues.created hheap) (congrArg SessionTasks.spawner htasks)
        (congrArg SessionTasks.channelTasks htasks)
        fun k ↦ congrArg (·.bytes.queued) (congrFun (congrArg SessionQueues.channels hheap) k)
    have hattempt : ((s.storeTasks n t).taskSession n).attempt = t.attempt :=
      congrArg SessionTasks.attempt htasks
    have hwatcher : ((s.storeTasks n t).taskSession n).watcher = t.watcher :=
      congrArg SessionTasks.watcher htasks
    have htransport : ((s.storeTasks n t).taskSession n).transport = t.transport :=
      congrArg SessionTasks.transport htasks
    rw [Session.left, hlink, hattempt, hwatcher, htransport, Session.left]
  refine Finset.sum_lt_sum (fun m _ ↦ ?_) ⟨n, Finset.mem_range_succ_iff.2 hn, hthis ▸ h⟩
  by_cases hm : m = n
  · rw [hm, hthis]
    exact Nat.le_of_lt h
  · exact Nat.le_of_eq (hother m hm)

/-- **A step of a session that was left leaves it less to do.** -/
theorem Tallied.left_lt (hs : s.Tallied) (habandoned : n ≤ s.current → (s.heap n).Abandoned)
    (ha : a.OfSession n) (h : Step sharedClientId s a s') : s'.left < s.left := by
  cases h with
  | task hn hb h =>
    obtain rfl := ha
    exact left_storeTasks_lt hn (Session.left_lt (sound_detach (hs _ hn)) hb h)
  | @signalFailed n message hn h =>
    obtain rfl := ha
    have hended := (s.taskSession n).left_attemptEnded
    have hnow : (s.taskSession n).attempt.left = 1 := congrArg Attempt.left h
    exact left_storeTasks_lt hn (by omega)
  | @watcherFailed n hn h =>
    obtain rfl := ha
    have hnow : (s.taskSession n).watcher.left = 1 := congrArg Watcher.left h
    have hended : Session.left { s.taskSession n with watcher := .ended } + 1 = (s.taskSession n).left := by
      rw [Session.left, Session.left, hnow]
      simp only [Watcher.left]
      omega
    exact left_storeTasks_lt hn (by omega)
  | arrive m hn hr =>
    obtain rfl := ha
    cases (habandoned hn).bytesFromServer.symm.trans hr
  | _ => exact ha.elim

end Sessions

namespace IrohClient

variable {sharedClientId : Bool} {s s' : IrohClient} {a : Action} {n : ℕ}

/-! ## Closing all connections -/

/-- What all tasks of all sessions have before them. -/
def left (s : IrohClient) : ℕ := ∑ m ∈ Finset.range s.opened, (s.conns m).left

/-- The steps of what was spawned for the connections, and of the connections themselves. -/
def Action.Onward : Action → Prop
  | .connection _ _ => True
  | _ => False

end IrohClient

end BevyIroh
