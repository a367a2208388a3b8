import BevyIroh.Lib.HashMap
import BevyIroh.Shared.IdsPool
import BevyIroh.Shared.PeerConnection

/-!
# The server endpoint

`ServerEndpoint` holds one connection for each client, the table of the channels opened on all of
them, and the pool of their ids.  Each operation that loops over a hash map takes the order it meets
the entries in as an argument.

Where a loop over the clients is left by `?`, the clients it has met are changed and the others are
not; what this does to the tables is for the theorems to say.
-/

set_option autoImplicit false

namespace BevyIroh

/-! ## Messages and errors -/

inductive ServerSyncMessage where
  | clientConnectedAck (clientId : ClientId)
deriving DecidableEq, Repr

/-- What a connection has on the server only. -/
structure ServerConnection where
  toConnectionSend : Mpsc ServerSyncMessage

abbrev ServerSideConnection := PeerConnection ServerConnection

inductive ServerAsyncMessage where
  | clientConnected (connection : ServerSideConnection)
  | clientConnectionClosed (clientId : ClientId)

inductive ServerDisconnectError where
  | unknownClient (clientId : ClientId)
  | clientAlreadyDisconnected (clientId : ClientId)
deriving DecidableEq, Repr

/-- Basic stats about a server endpoint, counted in 32 bits. -/
structure EndpointStats where
  connectCount : ℕ := 0
  disconnectCount : ℕ := 0
deriving DecidableEq, Repr

/-! ## The endpoint -/

structure ServerEndpoint where
  clients : HashMap ClientId ServerSideConnection
  clientIdGen : ClientId
  /-- Opened send channels configs on this endpoint. -/
  openedChannels : HashMap ChannelId ChannelConfig
  sendChannelIds : ChannelsIdsPool
  closeSender : Broadcast Unit
  /-- Messages sent by the async endpoint task. -/
  fromAsyncEndpoint : Mpsc ServerAsyncMessage
  stats : EndpointStats
  recvChannelsCfg : RecvChannelsConfiguration

namespace ServerEndpoint

def new (closeSender : Broadcast Unit) (fromAsyncEndpoint : Mpsc ServerAsyncMessage)
    (recvChannelsCfg : RecvChannelsConfiguration) : ServerEndpoint where
  clients := ∅
  clientIdGen := 0
  openedChannels := ∅
  sendChannelIds := .new
  closeSender := closeSender
  fromAsyncEndpoint := fromAsyncEndpoint
  stats := {}
  recvChannelsCfg := recvChannelsCfg

/-! ### Opening and closing channels -/

/-- Asks each client in turn for a channel.  When one of them refuses, the channels made for the
clients before it go out of scope. -/
def createUnregisteredEndpointChannels (self : ServerEndpoint) (order : List ClientId)
    (channelId : ChannelId) (channelType : ChannelConfig) :
    Except AsyncChannelError (HashMap ClientId Channel) × ServerEndpoint :=
  match self.clients.tryForEach
    (·.createUnregisteredConnectionChannel channelId channelType) order with
  | (.ok channels, clients) => (.ok channels, { self with clients })
  | (.error (err, channels), clients) =>
    (.error err, { self with
      clients := clients.updateEach PeerConnection.dropUnregistered (channels.entriesIn order) })

/-- The channels are made for all clients before any is registered.  `none` is the panic of
`get_mut(&client_id).unwrap()`. -/
def createEndpointChannel (self : ServerEndpoint) (order visit : List ClientId)
    (channelId : ChannelId) (channelType : ChannelConfig) :
    Option (Except AsyncChannelError ChannelId × ServerEndpoint) :=
  match self.createUnregisteredEndpointChannels order channelId channelType with
  | (.error err, self) =>
    some (.error err, { self with sendChannelIds := self.sendChannelIds.releaseId channelId })
  | (.ok unregisteredChannels, self) =>
    let channels := unregisteredChannels.entriesIn visit
    if ∀ x ∈ channels, x.1 ∈ self.clients then
      some (.ok channelId, { self with
        clients := self.clients.updateEach (fun channel c ↦ c.registerConnectionChannel channel) channels
        openedChannels := self.openedChannels.insert channelId channelType })
    else none

def openChannel (self : ServerEndpoint) (order visit : List ClientId) (channelType : ChannelConfig) :
    Option (Except ChannelCreationError ChannelId × ServerEndpoint) :=
  match self.sendChannelIds.takeId with
  | (.error err, ids) => some (.error err, { self with sendChannelIds := ids })
  | (.ok channelId, ids) =>
    match createEndpointChannel { self with sendChannelIds := ids } order visit channelId channelType with
    | none => none
    | some (.ok channelId, self) => some (.ok channelId, self)
    | some (.error err, self) => some (.error (.asyncChannelError err), self)

/-- `none` is also the panic of `take_id().unwrap()`. -/
def uncheckedOpenChannel (self : ServerEndpoint) (order visit : List ClientId)
    (channelType : ChannelConfig) : Option (Except AsyncChannelError ChannelId × ServerEndpoint) :=
  match self.sendChannelIds.takeId with
  | (.error _, _) => none
  | (.ok channelId, ids) =>
    createEndpointChannel { self with sendChannelIds := ids } order visit channelId channelType

def closeChannel (self : ServerEndpoint) (order : List ClientId) (channelId : ChannelId) :
    Except ChannelCloseError Unit × ServerEndpoint :=
  match self.openedChannels.lookup channelId with
  | some _ =>
    let self := { self with openedChannels := self.openedChannels.erase channelId }
    match self.clients.tryForEach (·.internalCloseChannel channelId) order with
    | (.ok _, clients) =>
      (.ok (), { self with clients, sendChannelIds := self.sendChannelIds.releaseId channelId })
    | (.error (err, _), clients) => (.error err, { self with clients })
  | none => (.error (.invalidChannelId channelId), self)

def setDefaultChannel (self : ServerEndpoint) (channelId : ChannelId) : ServerEndpoint :=
  { self with sendChannelIds := self.sendChannelIds.setDefaultChannel channelId }

def defaultChannel (self : ServerEndpoint) : Option ChannelId := self.sendChannelIds.defaultChannel

/-! ### Clients -/

/-- `receivers` says whether a task of the client listens to the close order.  The connection goes
out of scope after it was closed. -/
def internalDisconnectClient (self : ServerEndpoint) (clientId : ClientId) (receivers : Bool)
    (reason : CloseReason) : Except ServerDisconnectError Unit × ServerEndpoint :=
  match self.clients.lookup clientId with
  | some clientConnection =>
    let self := { self with
      clients := self.clients.erase clientId
      stats.disconnectCount := (self.stats.disconnectCount + 1) % 2 ^ 32 }
    match (clientConnection.close receivers reason).1 with
    | .ok () => (.ok (), self)
    | .error _ => (.error (.clientAlreadyDisconnected clientId), self)
  | none => (.error (.unknownClient clientId), self)

def disconnectClient (self : ServerEndpoint) (clientId : ClientId) (receivers : Bool) :
    Except ServerDisconnectError Unit × ServerEndpoint :=
  self.internalDisconnectClient clientId receivers .localOrder

def tryDisconnectClosedClient (self : ServerEndpoint) (clientId : ClientId) (receivers : Bool) :
    ServerEndpoint :=
  (self.internalDisconnectClient clientId receivers .peerClosed).2

/-- Every connection is closed, whatever the outcome, and goes out of scope. -/
def disconnectAllClients (self : ServerEndpoint) : ServerEndpoint := { self with clients := ∅ }

/-- Opens on a new connection the channels that are open on the others. -/
def createConnectionChannels : List (ChannelId × ChannelConfig) → ServerSideConnection →
    Except AsyncChannelError Unit × ServerSideConnection
  | [], connection => (.ok (), connection)
  | (channelId, channelType) :: channels, connection =>
    match connection.createConnectionChannel channelId channelType with
    | (.ok (), connection) => createConnectionChannels channels connection
    | (.error err, connection) => (.error err, connection)

/-- A connection that is refused is closed and goes out of scope. -/
def handleNewConnection (self : ServerEndpoint) (order : List ChannelId)
    (connection : ServerSideConnection) : Except AsyncChannelError ClientId × ServerEndpoint :=
  match createConnectionChannels (self.openedChannels.entriesIn order) connection with
  | (.error err, _) => (.error err, self)
  | (.ok (), connection) =>
    let clientId := (self.clientIdGen + 1) % 2 ^ 64
    let self := { self with clientIdGen := clientId }
    match connection.specific.toConnectionSend.trySend (.clientConnectedAck clientId) with
    | .ok toConnectionSend =>
      (.ok clientId, { self with
        clients := self.clients.insert clientId
          { connection with specific.toConnectionSend := toConnectionSend }
        stats.connectCount := (self.stats.connectCount + 1) % 2 ^ 32 })
    | .error _ => (.error .internalChannelClosed, self)

/-- The counter that does not wrap around goes up by one. -/
theorem clientIdGen_of_countsOn {n : ℕ} (h : n ≤ (n + 1) % 2 ^ 64) : (n + 1) % 2 ^ 64 = n + 1 := by
  omega

end ServerEndpoint

/-! ## Starting -/

/-- The configured channels, opened one after the other while there is no client yet. -/
def openConfigured : List ChannelConfig → ServerEndpoint →
    Option (Except AsyncChannelError Unit × ServerEndpoint)
  | [], serverEp => some (.ok (), serverEp)
  | channelType :: configs, serverEp =>
    match serverEp.uncheckedOpenChannel [] [] channelType with
    | none => none
    | some (.error err, serverEp) => some (.error err, serverEp)
    | some (.ok _, serverEp) => openConfigured configs serverEp

/-- `IrohServer::start_endpoint`, once the endpoint is bound. -/
def startEndpoint (sendChannelsCfg : SendChannelsConfiguration)
    (recvChannelsCfg : RecvChannelsConfiguration) :
    Option (Except AsyncChannelError Unit × ServerEndpoint) :=
  openConfigured sendChannelsCfg.configs
    (.new { capacity := defaultKillMessageQueueSize }
      { capacity := defaultInternalMessagesChannelSize } recvChannelsCfg)

end BevyIroh
