import BevyIroh.Client.Connection
import BevyIroh.Shared.Tasks.Link

/-!
# A client session

One attempt to connect and what comes of it: the application's calls, `handle_client_events`, and the
steps of `async_connection_task`, of the task that watches the transport, of the spawner and of the
channel tasks.  Each step is as much as its side does without another one coming in between; on a
multi-threaded runtime that is one statement for `async_connection_task`, even where it does not wait.

`handle_client_events` takes the messages of the task and then those of the channels.  They may arrive
while it runs, but the application's own calls are made between two of its runs.

What comes from the network is free: whether the attempt succeeds, whether a client id arrives, when
the peer or the network closes the transport, and which operations on it fail.
-/

set_option autoImplicit false

namespace BevyIroh

/-! ## Events -/

/-- What the client's systems report to the application. -/
inductive ClientEvent where
  | connection (id : ConnectionLocalId) (clientId : Option ClientId)
  | connectionFailed (id : ConnectionLocalId) (err : IrohConnectionError)
  | connectionLost (id : ConnectionLocalId)
deriving DecidableEq, Repr

namespace ClientSideConnection

/-- The same connection with its queue of messages from the task at another point. -/
def withFromAsyncClient (self : ClientSideConnection) (q : Mpsc ClientAsyncMessage) :
    ClientSideConnection :=
  { self with specific.fromAsyncClient := q }

/-- The same connection with its queue of messages from the channels at another point. -/
def withFromChannels (self : ClientSideConnection) (q : Mpsc ChannelAsyncMessage) :
    ClientSideConnection :=
  { self with fromChannels := q }

/-- The connection is lost: by its watcher, or because a channel could not send. -/
def handleLost (self : ClientSideConnection) (receivers : Bool) :
    ClientSideConnection × List ClientEvent :=
  match self.specific.state with
  | .disconnected => (self, [])
  | _ => (self.tryDisconnectClosedConnection receivers, [.connectionLost self.specific.localId])

/-- The first loop of `handle_client_events`, for one message. -/
def handleAsyncMessage (self : ClientSideConnection) (receivers : Bool) :
    ClientAsyncMessage → ClientSideConnection × List ClientEvent
  | .connected clientId =>
    (self.setState (.connected clientId), [.connection self.specific.localId clientId])
  | .connectionFailed err =>
    (self.setState .disconnected, [.connectionFailed self.specific.localId err])
  | .connectionClosed => self.handleLost receivers

/-- The second loop of `handle_client_events`, for one message. -/
def handleChannelMessage (self : ClientSideConnection) (receivers : Bool) :
    ChannelAsyncMessage → ClientSideConnection × List ClientEvent
  | .lostConnection => self.handleLost receivers

end ClientSideConnection

/-- Calls the application makes on a connection that is up or coming up. -/
inductive ClientCall where
  | openChannel (config : ChannelConfig)
  | closeChannel (id : ChannelId)
  | sendPayloadOn (id : ChannelId) (payload : Bytes)
  | sendPayload (payload : Bytes)
  | setDefaultChannel (id : ChannelId)
deriving DecidableEq, Repr

/-- The connection after such a call. -/
def ClientSideConnection.call (self : ClientSideConnection) : ClientCall → ClientSideConnection
  | .openChannel config => (self.openChannel config).2
  | .closeChannel id => (self.closeChannel id).2
  | .sendPayloadOn id payload => (self.sendPayloadOn id payload).2
  | .sendPayload payload => (self.sendPayload payload).2
  | .setDefaultChannel id => self.setDefaultChannel id

/-! ## The tasks of a session -/

/-- Where `async_connection_task` is. -/
inductive Attempt where
  /-- Resolving the address, and in `endpoint.connect`. -/
  | connecting
  /-- Connected; next comes the task that watches the transport. -/
  | connected
  /-- Next come the receiving tasks. -/
  | watched
  /-- Next comes the spawner of channel tasks. -/
  | receiving
  /-- In `receive_client_id`, with the feature `shared-client-id` only. -/
  | receivingClientId
  /-- Sending a message to the sync side, the last thing it does. -/
  | signaling (message : ClientAsyncMessage)
  | ended
deriving DecidableEq, Repr

/-- Where `handle_client_events` is. -/
inductive Frame where
  | outside
  /-- In the loop over the messages of the task. -/
  | async
  /-- In the loop over the messages of the channels. -/
  | channels
deriving DecidableEq, Repr

inductive ClientIdReception where
  | interrupted
  | retrieved (clientId : ClientId)
  | failed (err : IrohConnectionError)
deriving DecidableEq, Repr

structure Session where
  link : Link ClientConnection
  attempt : Attempt
  watcher : Watcher
  transport : Transport
  frame : Frame
  /-- The events written so far. -/
  events : List ClientEvent

inductive SessionAct where
  | call (c : ClientCall)
  | disconnect (receivers : Bool)
  | reconnect
  | beginFrame
  | handleAsync (receivers : Bool)
  | endAsync
  | handleChannels (receivers : Bool)
  | endFrame
  | established
  | connectFailed (err : IrohConnectionError)
  | spawnWatcher
  | spawnRecv
  | spawnSpawner
  | receiveClientId (r : ClientIdReception)
  | signal
  | transportClosed
  | watcherSignal
  | link (a : LinkAct)
  | peerClose
deriving DecidableEq, Repr

namespace Session

/-- The connection as the application sees it. -/
def conn (s : Session) : ClientSideConnection := s.link.conn

/-- The same session with another connection. -/
def withConn (s : Session) (conn : ClientSideConnection) : Session := { s with link.conn := conn }

/-- A new session on a connection, when `async_connection_task` is spawned. -/
def start (conn : ClientSideConnection) (events : List ClientEvent) : Session where
  link := { conn, spawner := .absent, tasks := fun _ ↦ none }
  attempt := .connecting
  watcher := .absent
  transport := .absent
  frame := .outside
  events := events

/-- Someone is known to be subscribed to the close order: `async_connection_task` until it has got the
client id, the spawner in its loop.  The receiving tasks and the channel tasks may be, too. -/
def Subscribed (s : Session) : Prop :=
  match s.attempt with
  | .signaling _ => ∃ c, s.link.spawner = .listening c
  | .ended => ∃ c, s.link.spawner = .listening c
  | _ => True

/-- What follows the spawning of the tasks. -/
def afterSpawn (sharedClientId : Bool) : Attempt :=
  if sharedClientId then .receivingClientId else .signaling (.connected none)

/-- What follows the reception of the client id. -/
def afterClientId : ClientIdReception → Attempt
  | .retrieved clientId => .signaling (.connected (some clientId))
  | .failed err => .signaling (.connectionFailed err)
  | .interrupted => .ended

/-- `async_connection_task` returns.  If it has not handed the receivers over, they go with it. -/
def attemptEnded (s : Session) : Session :=
  { s with
    attempt := .ended
    link := if s.link.spawner = .absent then s.link.dropCreations else s.link }

@[simp] theorem specific_attemptEnded (s : Session) :
    (attemptEnded s).conn.specific = s.conn.specific := by
  simp only [conn, attemptEnded]
  split <;> rfl

/-- The session after a message was handled. -/
def handled (s : Session) (r : ClientSideConnection × List ClientEvent) : Session :=
  { s.withConn r.1 with events := s.events ++ r.2 }

/-- One step, with or without the feature `shared-client-id`. -/
inductive Step (sharedClientId : Bool) : Session → SessionAct → Session → Prop
  | call {s : Session} (c : ClientCall) (hf : s.frame = .outside) :
      Step sharedClientId s (.call c) (s.withConn (s.conn.call c))
  | disconnect {s : Session} (receivers : Bool) (hf : s.frame = .outside)
      (hr : s.Subscribed → receivers = true) :
      Step sharedClientId s (.disconnect receivers) (s.withConn (s.conn.disconnect receivers).2)
  /-- A new task is spawned, and the old one goes on without anybody listening to it. -/
  | reconnect {s : Session} {conn : ClientSideConnection} (hf : s.frame = .outside)
      (hr : s.conn.reconnect = some (.ok true, conn)) :
      Step sharedClientId s .reconnect (start conn s.events)
  | reconnectFailed {s : Session} {conn : ClientSideConnection} {e : AsyncChannelError}
      (hf : s.frame = .outside) (hr : s.conn.reconnect = some (.error e, conn)) :
      Step sharedClientId s .reconnect { start conn s.events with attempt := .ended }
  /-- The connection is not disconnected. -/
  | reconnectIgnored {s : Session} {conn : ClientSideConnection} (hf : s.frame = .outside)
      (hr : s.conn.reconnect = some (.ok false, conn)) : Step sharedClientId s .reconnect s
  | beginFrame {s : Session} (hf : s.frame = .outside) :
      Step sharedClientId s .beginFrame { s with frame := .async }
  | handleAsync {s : Session} (receivers : Bool) {message : ClientAsyncMessage}
      {q : Mpsc ClientAsyncMessage} (hf : s.frame = .async)
      (hq : s.conn.specific.fromAsyncClient.recv = some (message, q))
      (hr : s.Subscribed → receivers = true) :
      Step sharedClientId s (.handleAsync receivers)
        (s.handled ((s.conn.withFromAsyncClient q).handleAsyncMessage receivers message))
  | endAsync {s : Session} (hf : s.frame = .async)
      (hq : s.conn.specific.fromAsyncClient.queued = []) :
      Step sharedClientId s .endAsync { s with frame := .channels }
  | handleChannels {s : Session} (receivers : Bool) {message : ChannelAsyncMessage}
      {q : Mpsc ChannelAsyncMessage} (hf : s.frame = .channels)
      (hq : s.conn.fromChannels.recv = some (message, q)) (hr : s.Subscribed → receivers = true) :
      Step sharedClientId s (.handleChannels receivers)
        (s.handled ((s.conn.withFromChannels q).handleChannelMessage receivers message))
  | endFrame {s : Session} (hf : s.frame = .channels) (hq : s.conn.fromChannels.queued = []) :
      Step sharedClientId s .endFrame { s with frame := .outside }
  | established {s : Session} (h : s.attempt = .connecting) :
      Step sharedClientId s .established { s with attempt := .connected, transport := .established }
  | connectFailed {s : Session} (err : IrohConnectionError) (h : s.attempt = .connecting) :
      Step sharedClientId s (.connectFailed err)
        { s with attempt := .signaling (.connectionFailed err) }
  | spawnWatcher {s : Session} (h : s.attempt = .connected) :
      Step sharedClientId s .spawnWatcher { s with attempt := .watched, watcher := .waiting }
  | spawnRecv {s : Session} (h : s.attempt = .watched) :
      Step sharedClientId s .spawnRecv { s with attempt := .receiving }
  | spawnSpawner {s : Session} (h : s.attempt = .receiving) :
      Step sharedClientId s .spawnSpawner
        { s with
          attempt := afterSpawn sharedClientId
          link.spawner := .listening s.conn.closeSend.resubscribe }
  /-- The close order is seen by a receiver that was there from the beginning. -/
  | receiveClientId {s : Session} (r : ClientIdReception) (h : s.attempt = .receivingClientId)
      (hr : r = .interrupted → (s.conn.closeSend.recv 0).isSome) :
      Step sharedClientId s (.receiveClientId r) { s with attempt := afterClientId r }
  | signal {s : Session} {message : ClientAsyncMessage} (h : s.attempt = .signaling message)
      (hq : s.conn.specific.fromAsyncClient.Ready) :
      Step sharedClientId s .signal (attemptEnded (s.withConn
        (s.conn.withFromAsyncClient (s.conn.specific.fromAsyncClient.push message))))
  | transportClosed {s : Session} (h : s.watcher = .waiting) (ht : s.transport = .closed) :
      Step sharedClientId s .transportClosed { s with watcher := .signaling }
  | watcherSignal {s : Session} (h : s.watcher = .signaling)
      (hq : s.conn.specific.fromAsyncClient.Ready) :
      Step sharedClientId s .watcherSignal
        { s.withConn (s.conn.withFromAsyncClient
            (s.conn.specific.fromAsyncClient.push .connectionClosed)) with
          watcher := .ended }
  | link {s : Session} {a : LinkAct} {l : Link ClientConnection} (ha : a.OfTasks)
      (h : Link.Step s.link a l) :
      Step sharedClientId s (.link a)
        { s with
          link := l
          transport := if a = .closeConnection then .closed else s.transport }
  | peerClose {s : Session} (h : s.transport = .established) :
      Step sharedClientId s .peerClose { s with transport := .closed }

end Session

end BevyIroh
