import BevyIroh.Client.Receive

/-!
# The sessions of a client connection

`reconnect` gives a connection new queues and spawns new tasks on their other ends.  The tasks of the
sessions before are not stopped: they go on with the ends they have, until they notice.  Whether they
can still reach the connection depends on which ends it has kept, so here the queues have an identity:
they are in a heap, and each field of the connection that is an end of one names the session its queue
was made for (`HeldConnection`).  `reconnect` assigns these fields one by one, as the source does.

A step of the sync side works on the connection as it is when its queues are looked up (`load`), and a
step of the tasks of session `n` on the queues made for session `n`, whoever holds the other ends.
The endpoint, its configuration and the runtime are fields that nothing assigns; each task gets a copy
of them, and they are left out.
-/

set_option autoImplicit false

namespace BevyIroh

/-! ## The connection in memory -/

/-- The queues made for a session, and those of the channels that are created through them. -/
structure SessionQueues where
  chans : ClientConnectionAsyncChannels
  channels : ℕ → ChannelQueues
  /-- How many channels were created. -/
  created : ℕ

def SessionQueues.new : SessionQueues where
  chans := createClientConnectionAsyncChannels
  channels _ := .new
  created := 0

/-- A client connection, with the ends of its queues. -/
structure HeldConnection where
  localId : ConnectionLocalId
  channelsConfig : SendChannelsConfiguration
  state : InternalConnectionState
  sendChannelIds : ChannelsIdsPool
  fromAsyncClientRecv : ℕ
  sendChannels : List (Option Channel)
  bytesFromPeerRecv : ℕ
  /-- The queues of the channels are found with it, too. -/
  toChannelsSend : ℕ
  fromChannelsRecv : ℕ
  closeSend : ℕ
  stats : ConnectionStats
  recvChannelsPayloads : List (List Bytes)
  recvChannelsCfg : RecvChannelsConfiguration

namespace HeldConnection

/-- `ClientSideConnection::new`, with the ends of the queues of the first session. -/
def new (localId : ConnectionLocalId) (channelsConfig : SendChannelsConfiguration)
    (recvChannelsCfg : RecvChannelsConfiguration) : HeldConnection where
  localId := localId
  channelsConfig := channelsConfig
  state := .connecting
  sendChannelIds := .new
  fromAsyncClientRecv := 0
  sendChannels := []
  bytesFromPeerRecv := 0
  toChannelsSend := 0
  fromChannelsRecv := 0
  closeSend := 0
  stats := {}
  recvChannelsPayloads := []
  recvChannelsCfg := recvChannelsCfg

/-- The connection with its queues as they are. -/
def load (self : HeldConnection) (heap : ℕ → SessionQueues) : ClientSideConnection where
  specific :=
    { localId := self.localId
      channelsConfig := self.channelsConfig
      state := self.state
      sendChannelIds := self.sendChannelIds
      fromAsyncClient := (heap self.fromAsyncClientRecv).chans.toSyncClient }
  sendChannels := self.sendChannels
  bytesFromPeer := (heap self.bytesFromPeerRecv).chans.bytesFromServer
  toChannels := (heap self.toChannelsSend).chans.toChannels
  fromChannels := (heap self.fromChannelsRecv).chans.fromChannels
  closeSend := (heap self.closeSend).chans.close
  stats := self.stats
  recvChannelsPayloads := self.recvChannelsPayloads
  recvChannelsCfg := self.recvChannelsCfg
  queues := (heap self.toChannelsSend).channels
  created := (heap self.toChannelsSend).created

/-- The fields of a connection that has become `conn`, with the same ends. -/
def store (self : HeldConnection) (conn : ClientSideConnection) : HeldConnection :=
  { self with
    localId := conn.specific.localId
    channelsConfig := conn.specific.channelsConfig
    state := conn.specific.state
    sendChannelIds := conn.specific.sendChannelIds
    sendChannels := conn.sendChannels
    stats := conn.stats
    recvChannelsPayloads := conn.recvChannelsPayloads
    recvChannelsCfg := conn.recvChannelsCfg }

/-- The queues when the connection has become `conn`. -/
def storeQueues (self : HeldConnection) (heap : ℕ → SessionQueues) (conn : ClientSideConnection)
    (n : ℕ) : SessionQueues where
  chans :=
    { bytesFromServer :=
        if n = self.bytesFromPeerRecv then conn.bytesFromPeer else (heap n).chans.bytesFromServer
      toSyncClient :=
        if n = self.fromAsyncClientRecv then conn.specific.fromAsyncClient
        else (heap n).chans.toSyncClient
      fromChannels :=
        if n = self.fromChannelsRecv then conn.fromChannels else (heap n).chans.fromChannels
      toChannels := if n = self.toChannelsSend then conn.toChannels else (heap n).chans.toChannels
      close := if n = self.closeSend then conn.closeSend else (heap n).chans.close }
  channels := if n = self.toChannelsSend then conn.queues else (heap n).channels
  created := if n = self.toChannelsSend then conn.created else (heap n).created

/-- All ends are those of the queues of session `n`. -/
def on (self : HeldConnection) (n : ℕ) : HeldConnection :=
  { self with
    fromAsyncClientRecv := n
    bytesFromPeerRecv := n
    toChannelsSend := n
    fromChannelsRecv := n
    closeSend := n }

def internalReset (self : HeldConnection) (closeSend toChannelsSend fromChannelsRecv
    bytesFromPeerRecv : ℕ) : HeldConnection :=
  { self with
    closeSend, toChannelsSend, fromChannelsRecv, bytesFromPeerRecv
    sendChannels := []
    stats := self.stats.reset
    recvChannelsPayloads := [] }

variable {self : HeldConnection} {heap : ℕ → SessionQueues} {conn : ClientSideConnection} {n m : ℕ}

/-- What was stored is what is loaded, whatever the ends are. -/
@[simp] theorem load_store : (self.store conn).load (self.storeQueues heap conn) = conn := by
  simp only [load, store, storeQueues, if_true]

/-- Only the queues the connection has an end of are stored. -/
theorem storeQueues_on_of_ne (h : m ≠ n) : (self.on n).storeQueues heap conn m = heap m := by
  simp [storeQueues, on, h]

/-- A connection that has no end of the queues of a session does not depend on them. -/
theorem load_on_congr {heap' : ℕ → SessionQueues} (h : heap' n = heap n) :
    (self.on n).load heap' = (self.on n).load heap := by
  simp only [load, on, h]

end HeldConnection

/-- The ends a client connection has are dropped, its channels among them. -/
def ClientSideConnection.dropEnds (self : ClientSideConnection) : ClientSideConnection :=
  { self.drop with
    specific.fromAsyncClient := self.specific.fromAsyncClient.dropReceiver
    closeSend.sender := false }

/-! ## All sessions -/

/-- The tasks of one session, and the iroh connection they share. -/
structure SessionTasks where
  attempt : Attempt
  watcher : Watcher
  transport : Transport
  spawner : Spawner
  channelTasks : ℕ → Option ChannelTask

namespace SessionTasks

/-- `async_connection_task` is spawned. -/
def start : SessionTasks where
  attempt := .connecting
  watcher := .absent
  transport := .absent
  spawner := .absent
  channelTasks _ := none

/-- The tasks as a session has them. -/
def ofSession (s : Session) : SessionTasks where
  attempt := s.attempt
  watcher := s.watcher
  transport := s.transport
  spawner := s.link.spawner
  channelTasks := s.link.tasks

end SessionTasks

/-- The steps of `async_connection_task`, of the watcher and of the tasks of the channels. -/
def SessionAct.OfTasks : SessionAct → Prop
  | .established => True
  | .connectFailed _ => True
  | .spawnWatcher => True
  | .spawnRecv => True
  | .spawnSpawner => True
  | .receiveClientId _ => True
  | .signal => True
  | .transportClosed => True
  | .watcherSignal => True
  | .link _ => True
  | .peerClose => True
  | _ => False

/-- The steps of the sync side, `reconnect` apart. -/
def ClientReceiving.Action.OfSync : ClientReceiving.Action → Prop
  | .session a => ¬ a.OfTasks ∧ a ≠ .reconnect
  | .arrive _ => False
  | _ => True

/-- A connection with all the sessions it has had. -/
structure Sessions where
  held : HeldConnection
  heap : ℕ → SessionQueues
  tasks : ℕ → SessionTasks
  /-- The session begun last. -/
  current : ℕ
  frame : Frame
  /-- The events written so far. -/
  events : List ClientEvent
  /-- What was handed out, cleared and reported in the current session. -/
  handedOut : ChannelId → List Bytes
  cleared : ChannelId → List Bytes
  errs : List RecvChannelError

namespace Sessions

def conn (s : Sessions) : ClientSideConnection := s.held.load s.heap

/-- The tasks of session `n`, with a connection. -/
def session (s : Sessions) (n : ℕ) (conn : ClientSideConnection) : Session where
  link := { conn, spawner := (s.tasks n).spawner, tasks := (s.tasks n).channelTasks }
  attempt := (s.tasks n).attempt
  watcher := (s.tasks n).watcher
  transport := (s.tasks n).transport
  frame := s.frame
  events := s.events

/-- Session `n` as its tasks see it: they have the other ends of the queues made for it. -/
def taskSession (s : Sessions) (n : ℕ) : Session := s.session n ((s.held.on n).load s.heap)

/-- The current session as the sync side sees it. -/
def receiving (s : Sessions) : ClientReceiving where
  session := s.session s.current s.conn
  handedOut := s.handedOut
  cleared := s.cleared
  errs := s.errs

def storeConn (s : Sessions) (conn : ClientSideConnection) : Sessions :=
  { s with held := s.held.store conn, heap := s.held.storeQueues s.heap conn }

/-- After a step of the sync side. -/
def storeSync (s : Sessions) (r : ClientReceiving) : Sessions :=
  { s.storeConn r.conn with
    frame := r.session.frame
    events := r.session.events
    handedOut := r.handedOut
    cleared := r.cleared
    errs := r.errs }

/-- After a step of the tasks of session `n`. -/
def storeTasks (s : Sessions) (n : ℕ) (t : Session) : Sessions :=
  { s with
    heap := (s.held.on n).storeQueues s.heap t.conn
    tasks := Function.update s.tasks n (.ofSession t) }

/-- The first session of a connection on which `conn` was opened. -/
def start (localId : ConnectionLocalId) (cfg : SendChannelsConfiguration)
    (recvCfg : RecvChannelsConfiguration) (conn : ClientSideConnection) : Sessions :=
  let s : Sessions :=
    { held := .new localId cfg recvCfg
      heap := fun _ ↦ .new
      tasks := fun _ ↦ .start
      current := 0
      frame := .outside
      events := []
      handedOut := fun _ ↦ []
      cleared := fun _ ↦ []
      errs := [] }
  s.storeConn conn

/-- What `reconnect` assigns, with a new set of queues.  The ends that were there are dropped. -/
def reset (s : Sessions) : Sessions :=
  let n := s.current + 1
  let held : HeldConnection :=
    { s.held with
      state := .connecting
      sendChannelIds := .new
      fromAsyncClientRecv := n }
  { s with
    heap := Function.update (s.held.storeQueues s.heap s.conn.dropEnds) n .new
    held := held.internalReset n n n n
    tasks := Function.update s.tasks n { SessionTasks.start with attempt := .ended }
    current := n
    handedOut := fun _ ↦ []
    cleared := fun _ ↦ []
    errs := [] }

/-- `async_connection_task` is spawned for the current session. -/
def spawn (s : Sessions) : Sessions :=
  { s with tasks := Function.update s.tasks s.current .start }

/-- `ClientSideConnection::reconnect`, on the ends the connection has. -/
def reconnect (s : Sessions) : Option (Except AsyncChannelError Bool × Sessions) :=
  match s.held.state with
  | .disconnected =>
    let s := s.reset
    match s.conn.openConfiguredChannels s.held.channelsConfig.configs with
    | none => none
    | some (.error e, conn) => some (.error e, s.storeConn conn)
    | some (.ok (), conn) => some (.ok true, (s.storeConn conn).spawn)
  | _ => some (.ok false, s)

/-! ## Steps -/

inductive Action where
  | sync (a : ClientReceiving.Action)
  | other
  | reconnect
  | task (n : ℕ) (a : SessionAct)
  | signalFailed (n : ℕ)
  | watcherFailed (n : ℕ)
  | arrive (n : ℕ) (message : ChannelId × Bytes)

/-- The step is taken by what was spawned for session `n`. -/
def Action.OfSession (n : ℕ) : Action → Prop
  | .task m _ => m = n
  | .signalFailed m => m = n
  | .watcherFailed m => m = n
  | .arrive m _ => m = n
  | _ => False

inductive Step (sharedClientId : Bool) : Sessions → Action → Sessions → Prop
  | sync {s : Sessions} {a : ClientReceiving.Action} {r : ClientReceiving} (ha : a.OfSync)
      (h : ClientReceiving.Step sharedClientId s.receiving a r) :
      Step sharedClientId s (.sync a) (s.storeSync r)
  | other {s : Sessions} {conn : ClientSideConnection} (hf : s.frame = .outside)
      (h : s.conn.OtherCall conn) : Step sharedClientId s .other (s.storeConn conn)
  | reconnect {s s' : Sessions} {r : Except AsyncChannelError Bool} (hf : s.frame = .outside)
      (h : s.reconnect = some (r, s')) : Step sharedClientId s .reconnect s'
  | task {s : Sessions} {n : ℕ} {a : SessionAct} {t : Session} (hn : n ≤ s.current) (ha : a.OfTasks)
      (h : Session.Step sharedClientId (s.taskSession n) a t) :
      Step sharedClientId s (.task n a) (s.storeTasks n t)
  /-- The connection does not have the receiver any more, so the task cannot send. -/
  | signalFailed {s : Sessions} {n : ℕ} {message : ClientAsyncMessage} (hn : n ≤ s.current)
      (h : (s.tasks n).attempt = .signaling message) (hr : s.held.fromAsyncClientRecv ≠ n) :
      Step sharedClientId s (.signalFailed n) (s.storeTasks n (s.taskSession n).attemptEnded)
  | watcherFailed {s : Sessions} {n : ℕ} (hn : n ≤ s.current) (h : (s.tasks n).watcher = .signaling)
      (hr : s.held.fromAsyncClientRecv ≠ n) :
      Step sharedClientId s (.watcherFailed n)
        (s.storeTasks n { s.taskSession n with watcher := .ended })
  | arrive {s : Sessions} {n : ℕ} (m : ChannelId × Bytes) (hn : n ≤ s.current)
      (hr : (s.heap n).chans.bytesFromServer.receiver = true) :
      Step sharedClientId s (.arrive n m)
        (s.storeTasks n ((s.taskSession n).withConn ((s.taskSession n).conn.arrive m)))

end Sessions

end BevyIroh
