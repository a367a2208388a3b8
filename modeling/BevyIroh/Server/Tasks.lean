import BevyIroh.Server.Endpoint
import BevyIroh.Shared.Tasks.Link

/-!
# The tasks of the server's connections

For each connection that comes in, `client_connection_task` makes the queues, hands the connection over
to the sync side in a message, and waits for the answer.  Then it spawns the others: the task that waits
for the transport to be closed, the tasks that receive, the spawner of channel tasks, and with the
feature `shared-client-id` one that sends the client its id.

The sync side may remove the connection at any time, also before the answer is seen.  So here a
connection has a place of its own, with its queues and its tasks (`ServerSession`), and the map of
clients leads to that place.  It keeps the place when it leaves the map, and goes out of scope step by
step: its fields are dropped one after the other, and the tasks may come in between.

What comes from the network is free: which streams and payloads arrive, when the peer closes the
transport, and which operations on it fail.  Whether a close order finds a receiver is left open, too.
The endpoint is not stopped here, so that its queue always has a receiver.
-/

set_option autoImplicit false

namespace BevyIroh

/-! ## The tasks of one connection -/

/-- Where `client_connection_task` is. -/
inductive ClientTask where
  /-- Sending `ClientConnected` to the sync side. -/
  | signaling
  /-- Waiting for the answer. -/
  | waiting
  /-- Next comes the task that sends the client id, with the feature `shared-client-id` only. -/
  | acknowledged
  /-- Next comes the task that watches the transport. -/
  | identified
  /-- Next comes `reliable_channels_receiver_task`. -/
  | watched
  /-- Next comes `unreliable_channel_receiver_task`. -/
  | receivingStreams
  /-- Next comes the spawner of channel tasks. -/
  | receiving
  /-- It has nothing left to do but to return. -/
  | spawned
  | ended
deriving DecidableEq, Repr

/-- `spawn_client_id_sender`. -/
inductive IdSender where
  | absent
  | opening
  | sending
  /-- Reporting that the connection is lost. -/
  | signaling
  | ended
deriving DecidableEq, Repr

inductive RecvTaskKind where
  /-- `reliable_channels_receiver_task`, which accepts streams. -/
  | streams
  /-- `reliable_stream_receiver_task`, for one of them. -/
  | stream
  /-- `unreliable_channel_receiver_task`. -/
  | datagrams
deriving DecidableEq, Repr

/-- A task that receives, until it sees a close order or something fails. -/
structure RecvTask where
  kind : RecvTaskKind
  closeRecv : Cursor
  ended : Bool := false
deriving DecidableEq, Repr

/-- What the sync side has of the connection. -/
inductive SyncSide where
  /-- All of it, in the message to the endpoint or among its clients. -/
  | whole
  /-- It goes out of scope, and next is its sender to `client_connection_task`. -/
  | specific
  /-- Next are its ends of the queues of the channels. -/
  | channels
  /-- Next is its sender of the close order. -/
  | closeSend
  | gone
deriving DecidableEq, Repr

/-- A connection on the server, with its tasks. -/
structure ServerSession where
  link : Link ServerConnection
  sync : SyncSide
  task : ClientTask
  /-- The id in the answer of the sync side. -/
  clientId : Option ClientId
  idSender : IdSender
  watcher : Watcher
  recvTasks : List RecvTask
  transport : Transport

inductive ServerSessionAct where
  | recvAck
  | refused
  | spawnIdSender
  | spawnWatcher
  | spawnStreams
  | spawnDatagrams
  | spawnSpawner
  | returns
  | idOpen (fault : Bool)
  | idSend (fault : Bool)
  | idSignal
  | idSignalFailed
  | recvClose (i : ℕ)
  | acceptUni (i : ℕ)
  | payload (i : ℕ) (message : ChannelId × Bytes)
  | recvFailed (i : ℕ)
  | transportClosed
  | link (a : LinkAct)
  | peerClose
  | dropSpecific
  | dropChannels
  | dropCloseSend
deriving DecidableEq, Repr

namespace ServerSession

def conn (s : ServerSession) : ServerSideConnection := s.link.conn

def withConn (s : ServerSession) (conn : ServerSideConnection) : ServerSession :=
  { s with link.conn := conn }

/-- The same session with its queue of answers at another point. -/
def withToConnection (s : ServerSession) (q : Mpsc ServerSyncMessage) : ServerSession :=
  { s with link.conn.specific.toConnectionSend := q }

/-- `client_connection_task` is spawned for a connection. -/
def start (recvChannelsCfg : RecvChannelsConfiguration) : ServerSession where
  link := .fresh ⟨{ capacity := defaultInternalMessagesChannelSize }⟩ recvChannelsCfg
  sync := .whole
  task := .signaling
  clientId := none
  idSender := .absent
  watcher := .absent
  recvTasks := []
  transport := .established

/-- The connection goes out of scope. -/
def leave (s : ServerSession) : ServerSession := { s with sync := .specific }

/-- The connection is closed and goes out of scope. -/
def close (s : ServerSession) (receivers : Bool) (reason : CloseReason) : ServerSession :=
  (s.withConn (s.conn.close receivers reason).2).leave

/-- What follows the answer of the sync side. -/
def afterAck (sharedClientId : Bool) : ClientTask :=
  if sharedClientId then .acknowledged else .identified

/-- A task that receives is spawned.  It sees the close orders that are sent from now on. -/
def spawnRecvTask (s : ServerSession) (kind : RecvTaskKind) : ServerSession :=
  { s with recvTasks := s.recvTasks ++ [{ kind, closeRecv := s.conn.closeSend.resubscribe }] }

/-- `client_connection_task` returns.  If it has not handed the receivers over, they go with it.  Its
sender of the close order is the last one, unless the sync side still has its own. -/
def taskEnded (s : ServerSession) : ServerSession :=
  let link := if s.link.spawner = .absent then s.link.dropCreations else s.link
  { s with
    task := .ended
    link := { link with
      conn.specific.toConnectionSend := link.conn.specific.toConnectionSend.dropReceiver
      conn.closeSend.sender := s.sync ≠ .gone } }

/-- One step, with or without the feature `shared-client-id`. -/
inductive Step (sharedClientId : Bool) : ServerSession → ServerSessionAct → ServerSession → Prop
  | recvAck {s : ServerSession} {clientId : ClientId} {q : Mpsc ServerSyncMessage}
      (h : s.task = .waiting)
      (hq : s.conn.specific.toConnectionSend.recv = some (.clientConnectedAck clientId, q)) :
      Step sharedClientId s .recvAck
        { s.withToConnection q with task := afterAck sharedClientId, clientId := some clientId }
  | refused {s : ServerSession} (h : s.task = .waiting)
      (hq : s.conn.specific.toConnectionSend.finished = true) :
      Step sharedClientId s .refused s.taskEnded
  | spawnIdSender {s : ServerSession} (h : s.task = .acknowledged) :
      Step sharedClientId s .spawnIdSender { s with task := .identified, idSender := .opening }
  | spawnWatcher {s : ServerSession} (h : s.task = .identified) :
      Step sharedClientId s .spawnWatcher { s with task := .watched, watcher := .waiting }
  | spawnStreams {s : ServerSession} (h : s.task = .watched) :
      Step sharedClientId s .spawnStreams { s.spawnRecvTask .streams with task := .receivingStreams }
  | spawnDatagrams {s : ServerSession} (h : s.task = .receivingStreams) :
      Step sharedClientId s .spawnDatagrams { s.spawnRecvTask .datagrams with task := .receiving }
  /-- The spawner gets the receiver of the close order that was there from the beginning. -/
  | spawnSpawner {s : ServerSession} (h : s.task = .receiving) :
      Step sharedClientId s .spawnSpawner { s with task := .spawned, link.spawner := .listening 0 }
  | returns {s : ServerSession} (h : s.task = .spawned) :
      Step sharedClientId s .returns s.taskEnded
  /-- The task panics when it cannot open a stream. -/
  | idOpen {s : ServerSession} (fault : Bool) (h : s.idSender = .opening) :
      Step sharedClientId s (.idOpen fault)
        { s with idSender := if fault then .ended else .sending }
  | idSend {s : ServerSession} (fault : Bool) (h : s.idSender = .sending) :
      Step sharedClientId s (.idSend fault)
        { s with idSender := if fault then .signaling else .ended }
  | idSignal {s : ServerSession} (h : s.idSender = .signaling) (hq : s.conn.fromChannels.Ready) :
      Step sharedClientId s .idSignal
        { s with
          idSender := .ended
          link.conn.fromChannels := s.conn.fromChannels.push .lostConnection }
  | idSignalFailed {s : ServerSession} (h : s.idSender = .signaling)
      (hq : s.conn.fromChannels.receiver = false) :
      Step sharedClientId s .idSignalFailed { s with idSender := .ended }
  | recvClose {s : ServerSession} {i : ℕ} {t : RecvTask} (ht : s.recvTasks[i]? = some t)
      (h : t.ended = false) (hr : (s.conn.closeSend.recv t.closeRecv).isSome) :
      Step sharedClientId s (.recvClose i)
        { s with recvTasks := s.recvTasks.set i { t with ended := true } }
  | acceptUni {s : ServerSession} {i : ℕ} {t : RecvTask} (ht : s.recvTasks[i]? = some t)
      (h : t.ended = false) (hk : t.kind = .streams) :
      Step sharedClientId s (.acceptUni i) (s.spawnRecvTask .stream)
  | payload {s : ServerSession} {i : ℕ} {t : RecvTask} (m : ChannelId × Bytes)
      (ht : s.recvTasks[i]? = some t) (h : t.ended = false) (hk : t.kind ≠ .streams)
      (hq : s.conn.bytesFromPeer.Ready) :
      Step sharedClientId s (.payload i m)
        { s with link.conn.bytesFromPeer := s.conn.bytesFromPeer.push m }
  /-- Nothing more can be received, or nobody takes it: then the task panics. -/
  | recvFailed {s : ServerSession} {i : ℕ} {t : RecvTask} (ht : s.recvTasks[i]? = some t)
      (h : t.ended = false) :
      Step sharedClientId s (.recvFailed i)
        { s with recvTasks := s.recvTasks.set i { t with ended := true } }
  | transportClosed {s : ServerSession} (h : s.watcher = .waiting) (ht : s.transport = .closed) :
      Step sharedClientId s .transportClosed { s with watcher := .signaling }
  | link {s : ServerSession} {a : LinkAct} {l : Link ServerConnection} (ha : a.OfTasks)
      (h : Link.Step s.link a l) :
      Step sharedClientId s (.link a)
        { s with
          link := l
          transport := if a = .closeConnection then .closed else s.transport }
  | peerClose {s : ServerSession} (h : s.transport = .established) :
      Step sharedClientId s .peerClose { s with transport := .closed }
  | dropSpecific {s : ServerSession} (h : s.sync = .specific) :
      Step sharedClientId s .dropSpecific
        { s.withToConnection s.conn.specific.toConnectionSend.dropSender with sync := .channels }
  | dropChannels {s : ServerSession} (h : s.sync = .channels) :
      Step sharedClientId s .dropChannels { s.withConn s.conn.drop with sync := .closeSend }
  /-- `client_connection_task` has another sender, until it returns. -/
  | dropCloseSend {s : ServerSession} (h : s.sync = .closeSend) :
      Step sharedClientId s .dropCloseSend
        { s with
          sync := .gone
          link.conn.closeSend.sender := s.task ≠ .ended }

end ServerSession

/-! ## All connections -/

/-- `ServerAsyncMessage`, with the place of the connection. -/
inductive EndpointMessage where
  | clientConnected (n : ℕ)
  | clientConnectionClosed (clientId : ClientId)
deriving DecidableEq, Repr

/-- The connections of a server endpoint, in the order in which they came in, and what the endpoint
has of them. -/
structure ServerSessions where
  clients : HashMap ClientId ℕ
  clientIdGen : ClientId
  openedChannels : HashMap ChannelId ChannelConfig
  fromAsyncEndpoint : Mpsc EndpointMessage
  stats : EndpointStats
  conns : ℕ → ServerSession
  /-- How many connections have come in. -/
  accepted : ℕ

namespace ServerSessions

def start (recvChannelsCfg : RecvChannelsConfiguration)
    (openedChannels : HashMap ChannelId ChannelConfig) : ServerSessions where
  clients := ∅
  clientIdGen := 0
  openedChannels := openedChannels
  fromAsyncEndpoint := { capacity := defaultInternalMessagesChannelSize }
  stats := {}
  conns _ := .start recvChannelsCfg
  accepted := 0

def withSession (self : ServerSessions) (n : ℕ) (session : ServerSession) : ServerSessions :=
  { self with conns := Function.update self.conns n session }

/-- The client that had this id goes out of scope. -/
def replace (self : ServerSessions) (clientId : ClientId) : ServerSessions :=
  match self.clients.lookup clientId with
  | some n => self.withSession n (self.conns n).leave
  | none => self

/-- The connection is taken from the clients and closed, and goes out of scope. -/
def remove (self : ServerSessions) (clientId : ClientId) (receivers : Bool) (reason : CloseReason) :
    ServerSessions :=
  match self.clients.lookup clientId with
  | some n =>
    { self.withSession n ((self.conns n).close receivers reason) with
      clients := self.clients.erase clientId }
  | none => self

def internalDisconnectClient (self : ServerSessions) (clientId : ClientId) (receivers : Bool)
    (reason : CloseReason) : Except ServerDisconnectError Unit × ServerSessions :=
  match self.clients.lookup clientId with
  | some n =>
    let removed := { self.remove clientId receivers reason with
      stats.disconnectCount := (self.stats.disconnectCount + 1) % 2 ^ 32 }
    match ((self.conns n).conn.close receivers reason).1 with
    | .ok () => (.ok (), removed)
    | .error _ => (.error (.clientAlreadyDisconnected clientId), removed)
  | none => (.error (.unknownClient clientId), self)

def disconnectClient (self : ServerSessions) (clientId : ClientId) (receivers : Bool) :
    Except ServerDisconnectError Unit × ServerSessions :=
  self.internalDisconnectClient clientId receivers .localOrder

def tryDisconnectClosedClient (self : ServerSessions) (clientId : ClientId) (receivers : Bool) :
    ServerSessions :=
  (self.internalDisconnectClient clientId receivers .peerClosed).2

/-- The loop over `drain`, for the clients in the order it meets them. -/
def disconnectAllClients (self : ServerSessions) (receivers : ClientId → Bool)
    (order : List ClientId) : ServerSessions :=
  order.foldl (fun self clientId ↦ self.remove clientId (receivers clientId) .localOrder) self

def handleNewConnection (self : ServerSessions) (order : List ChannelId) (receivers : Bool) (n : ℕ) :
    Except AsyncChannelError ClientId × ServerSessions :=
  match ServerEndpoint.createConnectionChannels (self.openedChannels.entriesIn order)
      (self.conns n).conn with
  | (.error err, connection) =>
    (.error err, self.withSession n (((self.conns n).withConn connection).close receivers .localOrder))
  | (.ok (), connection) =>
    let clientId := (self.clientIdGen + 1) % 2 ^ 64
    let self := { self with clientIdGen := clientId }
    match connection.specific.toConnectionSend.trySend (.clientConnectedAck clientId) with
    | .ok toConnectionSend =>
      (.ok clientId,
        { (self.replace clientId).withSession n
            (((self.conns n).withConn connection).withToConnection toConnectionSend) with
          clients := self.clients.insert clientId n
          stats.connectCount := (self.stats.connectCount + 1) % 2 ^ 32 })
    | .error _ =>
      (.error .internalChannelClosed,
        self.withSession n (((self.conns n).withConn connection).close receivers .localOrder))

/-- The first loop of `handle_server_events`, for one message. -/
def handleMessage (self : ServerSessions) (order : List ChannelId) (receivers : Bool) :
    EndpointMessage → ServerSessions
  | .clientConnected n => (self.handleNewConnection order receivers n).2
  | .clientConnectionClosed clientId =>
    if clientId ∈ self.clients then self.tryDisconnectClosedClient clientId receivers else self

/-- What the endpoint does with a client's connection otherwise: it sends and receives, and creates and
closes channels. -/
structure Uses (c c' : ServerSideConnection) : Prop where
  specific : c'.specific = c.specific
  closeSend : c'.closeSend = c.closeSend
  fromChannels : c'.fromChannels.receiver = c.fromChannels.receiver

inductive Action where
  | accept
  | signal (n : ℕ)
  | session (n : ℕ) (a : ServerSessionAct)
  | watcherSignal (n : ℕ)
  | handle (m : EndpointMessage)
  | disconnectClient (clientId : ClientId)
  | drainClient (clientId : ClientId)
  | use (clientId : ClientId)
  | configure
deriving DecidableEq, Repr

inductive Step (sharedClientId : Bool) : ServerSessions → Action → ServerSessions → Prop
  | accept (s : ServerSessions) :
      Step sharedClientId s .accept { s with accepted := s.accepted + 1 }
  | signal {s : ServerSessions} {n : ℕ} (hn : n < s.accepted) (h : (s.conns n).task = .signaling)
      (hq : s.fromAsyncEndpoint.Ready) :
      Step sharedClientId s (.signal n)
        { s.withSession n { s.conns n with task := .waiting } with
          fromAsyncEndpoint := s.fromAsyncEndpoint.push (.clientConnected n) }
  | session {s : ServerSessions} {n : ℕ} {a : ServerSessionAct} {t : ServerSession}
      (hn : n < s.accepted) (h : ServerSession.Step sharedClientId (s.conns n) a t) :
      Step sharedClientId s (.session n a) (s.withSession n t)
  | watcherSignal {s : ServerSessions} {n : ℕ} {clientId : ClientId} (hn : n < s.accepted)
      (h : (s.conns n).watcher = .signaling) (hid : (s.conns n).clientId = some clientId)
      (hq : s.fromAsyncEndpoint.Ready) :
      Step sharedClientId s (.watcherSignal n)
        { s.withSession n { s.conns n with watcher := .ended } with
          fromAsyncEndpoint := s.fromAsyncEndpoint.push (.clientConnectionClosed clientId) }
  | handle {s : ServerSessions} {m : EndpointMessage} {q : Mpsc EndpointMessage}
      {order : List ChannelId} (receivers : Bool) (hq : s.fromAsyncEndpoint.recv = some (m, q))
      (ho : s.openedChannels.IsOrder order) :
      Step sharedClientId s (.handle m)
        (handleMessage { s with fromAsyncEndpoint := q } order receivers m)
  | disconnectClient (s : ServerSessions) (clientId : ClientId) (receivers : Bool) :
      Step sharedClientId s (.disconnectClient clientId) (s.disconnectClient clientId receivers).2
  /-- One pass of the loop in `disconnectAllClients`; the tasks may come in between two of them. -/
  | drainClient (s : ServerSessions) (clientId : ClientId) (receivers : Bool) :
      Step sharedClientId s (.drainClient clientId) (s.remove clientId receivers .localOrder)
  | use {s : ServerSessions} {clientId : ClientId} {n : ℕ} {conn : ServerSideConnection}
      (hk : s.clients.lookup clientId = some n) (h : Uses (s.conns n).conn conn) :
      Step sharedClientId s (.use clientId) (s.withSession n ((s.conns n).withConn conn))
  /-- A channel is opened or closed on all connections. -/
  | configure (s : ServerSessions) (openedChannels : HashMap ChannelId ChannelConfig) :
      Step sharedClientId s .configure { s with openedChannels }

end ServerSessions

end BevyIroh
