import BevyIroh.Lib.Transition
import BevyIroh.Shared.Tasks.Task

/-!
# A connection with its send tasks

`Link` is one connection: its sync side, the spawner of channel tasks, and the channel tasks
themselves.  A step is taken by the application (create, send and close a channel, close the
connection, drop it), by the spawner, by a channel task or by one of the tasks a channel has spawned;
a run is any sequence of steps, so it is any schedule.

A client and a server use the same link.  They differ in when the spawner starts and in which close
orders it can see (`spawn`), and in whether the sync side is dropped after it was closed.
-/

set_option autoImplicit false

namespace BevyIroh

/-- `send_channels_tasks_spawner`. -/
inductive Spawner where
  | absent
  /-- In the `select!` between the close order and the loop that creates channel tasks. -/
  | listening (closeRecv : Cursor)
  /-- Waiting for the tasks to let go of the keepalive. -/
  | waiting
  /-- `connection.close` was called. -/
  | closed
deriving DecidableEq, Repr

/-- The task that waits in `conn.closed`. -/
inductive Watcher where
  | absent
  | waiting
  | signaling
  | ended
deriving DecidableEq, Repr

/-- The iroh connection. -/
inductive Transport where
  /-- Not established, so far. -/
  | absent
  | established
  | closed
deriving DecidableEq, Repr

structure Link (S : Type) where
  conn : PeerConnection S
  spawner : Spawner
  /-- The channel tasks, by the place of the queues they work on. -/
  tasks : ℕ → Option ChannelTask

inductive LinkAct where
  | create (id : ChannelId) (config : ChannelConfig)
  | send (id : ChannelId) (payload : Bytes)
  | closeChannel (id : ChannelId)
  | close (receivers : Bool) (reason : CloseReason)
  | drop
  | dropCloseSend
  | owner
  | spawn (closeRecv : Cursor)
  | listenClose
  | listenCreate
  | listenEnded
  | closeConnection
  | task (queues : ℕ) (fault : Bool)
  | message (queues : ℕ) (k : ℕ) (fault : Bool)
deriving DecidableEq, Repr

/-- The steps of the spawner and of the channel tasks. -/
def LinkAct.OfTasks : LinkAct → Prop
  | .listenClose => True
  | .listenCreate => True
  | .listenEnded => True
  | .closeConnection => True
  | .task _ _ => True
  | .message _ _ _ => True
  | _ => False

namespace ChannelSyncMessage

def id : ChannelSyncMessage → ChannelId
  | .createChannel id _ _ => id

def config : ChannelSyncMessage → ChannelConfig
  | .createChannel _ config _ => config

def queues : ChannelSyncMessage → ℕ
  | .createChannel _ _ queues => queues

end ChannelSyncMessage

namespace Link

variable {S : Type}

/-- The sync side was not dropped. -/
def Alive (l : Link S) : Prop := l.conn.toChannels.sender = true

/-- A new connection without channels. -/
def fresh (specific : S) (recvChannelsCfg : RecvChannelsConfiguration) : Link S where
  conn := .new specific { capacity := defaultMessageQueueSize }
    { capacity := defaultKillMessageQueueSize } { capacity := defaultInternalMessagesChannelSize }
    { capacity := defaultQchannelMessagesChannelSize } recvChannelsCfg
  spawner := .absent
  tasks _ := none

/-- The channel task for a message: it sees the close orders that are sent from now on. -/
def spawnTask (l : Link S) (msg : ChannelSyncMessage) : Link S :=
  { l with
    tasks := Function.update l.tasks msg.queues
      (some (.new msg.id msg.config l.conn.closeSend.resubscribe)) }

/-- The receiver of creation messages is dropped, and the messages left in it with the receivers they
carry. -/
def dropCreations (l : Link S) : Link S :=
  { l with
    conn.toChannels := l.conn.toChannels.dropReceiver
    conn.queues := l.conn.toChannels.queued.foldl
      (fun queues msg ↦ Function.update queues msg.queues (queues msg.queues).dropReceivers)
      l.conn.queues }

/-- What the task of these queues works on. -/
def view (l : Link S) (h : ℕ) (t : ChannelTask) : TaskView :=
  ⟨t, l.conn.queues h, l.conn.fromChannels⟩

/-- The link after a step of the task of these queues. -/
def withView (l : Link S) (h : ℕ) (v : TaskView) : Link S where
  conn := { l.conn with
    queues := Function.update l.conn.queues h v.queues
    fromChannels := v.signals }
  spawner := l.spawner
  tasks := Function.update l.tasks h (some v.task)

/-- The two connections differ at most in what the send tasks do not use. -/
structure SameLink (c c' : PeerConnection S) : Prop where
  sendChannels : c'.sendChannels = c.sendChannels
  toChannels : c'.toChannels = c.toChannels
  closeSend : c'.closeSend = c.closeSend
  queues : c'.queues = c.queues
  created : c'.created = c.created

inductive Step : Link S → LinkAct → Link S → Prop
  /-- `create_connection_channel`, or its two halves one after the other. -/
  | create (l : Link S) (id : ChannelId) (config : ChannelConfig) (ha : l.Alive) :
      Step l (.create id config) { l with conn := (l.conn.createConnectionChannel id config).2 }
  | send (l : Link S) (id : ChannelId) (payload : Bytes) (ha : l.Alive) :
      Step l (.send id payload) { l with conn := (l.conn.internalSendPayload id payload).2 }
  | closeChannel (l : Link S) (id : ChannelId) (ha : l.Alive) :
      Step l (.closeChannel id) { l with conn := (l.conn.internalCloseChannel id).2 }
  | close (l : Link S) (receivers : Bool) (reason : CloseReason) (ha : l.Alive) :
      Step l (.close receivers reason) { l with conn := (l.conn.close receivers reason).2 }
  | drop (l : Link S) (ha : l.Alive) : Step l .drop { l with conn := l.conn.drop }
  /-- The last sender of the close order is dropped, some time after the sync side. -/
  | dropCloseSend (l : Link S) (ha : ¬ l.Alive) :
      Step l .dropCloseSend { l with conn.closeSend.sender := false }
  /-- Something else happens to the connection. -/
  | owner {l : Link S} {conn : PeerConnection S} (h : SameLink l.conn conn) :
      Step l .owner { l with conn }
  | spawn {l : Link S} (closeRecv : Cursor) (h : l.spawner = .absent) :
      Step l (.spawn closeRecv) { l with spawner := .listening closeRecv }
  | listenClose {l : Link S} {closeRecv : Cursor} {r : BroadcastRecv CloseReason}
      (h : l.spawner = .listening closeRecv) (hr : l.conn.closeSend.recv closeRecv = some r) :
      Step l .listenClose { l with spawner := .waiting }
  | listenCreate {l : Link S} {closeRecv : Cursor} {msg : ChannelSyncMessage}
      {q : Mpsc ChannelSyncMessage} (h : l.spawner = .listening closeRecv)
      (hq : l.conn.toChannels.recv = some (msg, q)) :
      Step l .listenCreate (spawnTask { l with conn.toChannels := q } msg)
  | listenEnded {l : Link S} {closeRecv : Cursor} (h : l.spawner = .listening closeRecv)
      (hq : l.conn.toChannels.finished = true) :
      Step l .listenEnded { l with spawner := .waiting }
  | closeConnection {l : Link S} (h : l.spawner = .waiting)
      (hdone : ∀ h t, l.tasks h = some t → t.Done) :
      Step l .closeConnection { l.dropCreations with spawner := .closed }
  | task {l : Link S} {h : ℕ} {t : ChannelTask} {fault : Bool} {v : TaskView}
      (ht : l.tasks h = some t) (hs : TaskStep l.conn.closeSend (l.view h t) fault v) :
      Step l (.task h fault) (l.withView h v)
  | message {l : Link S} {h k m : ℕ} {t : ChannelTask} {mt mt' : MessageTask} {fault : Bool}
      {signals : Mpsc ChannelAsyncMessage} (ht : l.tasks h = some t)
      (hc : t.config = .unorderedReliable m) (hm : t.messages[k]? = some mt)
      (hs : MessageStep (.new t.id m) mt l.conn.fromChannels fault mt' signals) :
      Step l (.message h k fault)
        (l.withView h ⟨{ t with messages := t.messages.set k mt' }, l.conn.queues h, signals⟩)

/-! ## What the tasks leave alone -/

variable {l l' : Link S} {a : LinkAct}

/-- The tasks leave the specific part of the connection alone. -/
theorem Step.specific_eq (h : Step l a l') (ha : a.OfTasks) : l'.conn.specific = l.conn.specific := by
  cases h <;> first | rfl | exact ha.elim

/-- They leave alone what was received from the peer. -/
theorem Step.bytesFromPeer_eq (h : Step l a l') (ha : a.OfTasks) :
    l'.conn.bytesFromPeer = l.conn.bytesFromPeer := by
  cases h <;> first | rfl | exact ha.elim

/-- The tasks leave alone the broadcast of the close order and the ends of the sync side. -/
theorem Step.async_frame (h : Step l a l') (ha : a.OfTasks) :
    l'.conn.closeSend = l.conn.closeSend ∧
      l'.conn.toChannels.sender = l.conn.toChannels.sender ∧
      l'.conn.fromChannels.receiver = l.conn.fromChannels.receiver := by
  cases h with
  | listenCreate hlisten hq => exact ⟨rfl, Mpsc.sender_of_recv hq, rfl⟩
  | listenClose | listenEnded | closeConnection => exact ⟨rfl, rfl, rfl⟩
  | task ht hs => exact ⟨rfl, rfl, hs.signals_receiver⟩
  | message ht hc hm hs => exact ⟨rfl, rfl, hs.signals_receiver⟩
  | _ => exact ha.elim

/-! ## Without channels -/

/-- There are no channel tasks, and if the spawner listens there is nothing for it. -/
structure Idle (l : Link S) : Prop where
  spawner : l.spawner = .absent ∨ l.spawner = .closed ∨ ∃ closeRecv,
    l.spawner = .listening closeRecv ∧ l.conn.closeSend.recv closeRecv = none ∧
      l.conn.toChannels.recv = none ∧ l.conn.toChannels.finished = false
  tasks : ∀ h, l.tasks h = none

/-- Then no task goes on. -/
theorem Idle.not_step (hidle : l.Idle) (ha : a.OfTasks) : ¬ Step l a l' := by
  intro h
  cases h with
  | task ht | message ht => cases (hidle.tasks _).symm.trans ht
  | listenClose hlisten hr =>
    rcases hidle.spawner with hs | hs | ⟨closeRecv, hs, hnone, -⟩
    · cases hs.symm.trans hlisten
    · cases hs.symm.trans hlisten
    · obtain rfl := Spawner.listening.inj (hs.symm.trans hlisten)
      cases hnone.symm.trans hr
  | listenCreate hlisten hq =>
    rcases hidle.spawner with hs | hs | ⟨-, -, -, hnone, -⟩
    · cases hs.symm.trans hlisten
    · cases hs.symm.trans hlisten
    · cases hnone.symm.trans hq
  | listenEnded hlisten hq =>
    rcases hidle.spawner with hs | hs | ⟨-, -, -, -, hfinished⟩
    · cases hs.symm.trans hlisten
    · cases hs.symm.trans hlisten
    · cases hfinished.symm.trans hq
  | closeConnection hwaiting =>
    rcases hidle.spawner with hs | hs | ⟨closeRecv, hs, -⟩ <;> cases hs.symm.trans hwaiting
  | _ => exact ha

end Link

end BevyIroh
