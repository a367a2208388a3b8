import BevyIroh.Shared.IdsPool
import BevyIroh.Shared.PeerConnection

/-!
# A client's connection

The sync side of one client connection: its state, its pool of channel ids, and the operations the
application calls on it.  What the tasks do is not part of this file; an operation that depends on
them takes what it needs from the queues, or, for the broadcast of the close order, from the argument
`receivers`, which says whether any task is subscribed to it.
-/

set_option autoImplicit false

namespace BevyIroh

/-- The id of a connection on the client. -/
abbrev ConnectionLocalId := ℕ

/-! ## Errors and messages -/

/-- Errors that can occur while connecting. -/
inductive IrohConnectionError where
  | connectionError (message : String)
  | invalidClientId
  | clientIdNotReceived
deriving DecidableEq, Repr

inductive ClientAsyncMessage where
  | connected (clientId : Option ClientId)
  | connectionFailed (err : IrohConnectionError)
  | connectionClosed
deriving DecidableEq, Repr

inductive ClientSendError where
  | connectionClosed
  | connectionSendError (e : ConnectionSendError)
deriving DecidableEq, Repr

inductive ClientPayloadSendError where
  | noDefaultChannel
  | sendError (e : ClientSendError)
deriving DecidableEq, Repr

inductive ClientConnectionCloseError where
  | connectionAlreadyClosed
  | invalidConnectionId (id : ConnectionLocalId)
deriving DecidableEq, Repr

/-! ## The connection -/

inductive InternalConnectionState where
  | connecting
  | connected (clientId : Option ClientId)
  | disconnected
deriving DecidableEq, Repr

/-- What a connection has on the client only. -/
structure ClientConnection where
  localId : ConnectionLocalId
  channelsConfig : SendChannelsConfiguration
  state : InternalConnectionState
  sendChannelIds : ChannelsIdsPool
  /-- Messages coming from the connection's task. -/
  fromAsyncClient : Mpsc ClientAsyncMessage

namespace ClientConnection

def new (localId : ConnectionLocalId) (channelsConfig : SendChannelsConfiguration)
    (fromAsyncClient : Mpsc ClientAsyncMessage) : ClientConnection where
  localId := localId
  channelsConfig := channelsConfig
  state := .connecting
  sendChannelIds := .new
  fromAsyncClient := fromAsyncClient

end ClientConnection

abbrev ClientSideConnection := PeerConnection ClientConnection

/-- The queues of a connection and the broadcast of its close order. -/
structure ClientConnectionAsyncChannels where
  bytesFromServer : Mpsc (ChannelId × Bytes)
  toSyncClient : Mpsc ClientAsyncMessage
  fromChannels : Mpsc ChannelAsyncMessage
  toChannels : Mpsc ChannelSyncMessage
  close : Broadcast CloseReason

def createClientConnectionAsyncChannels : ClientConnectionAsyncChannels where
  bytesFromServer := { capacity := defaultMessageQueueSize }
  toSyncClient := { capacity := defaultInternalMessagesChannelSize }
  fromChannels := { capacity := defaultInternalMessagesChannelSize }
  toChannels := { capacity := defaultQchannelMessagesChannelSize }
  close := { capacity := defaultKillMessageQueueSize }

namespace ClientSideConnection

/-- The same connection with another pool of ids. -/
def withIds (self : ClientSideConnection) (ids : ChannelsIdsPool) : ClientSideConnection :=
  { self with specific.sendChannelIds := ids }

def setState (self : ClientSideConnection) (state : InternalConnectionState) :
    ClientSideConnection :=
  { self with specific.state := state }

def sendPayloadOn (self : ClientSideConnection) (channelId : ChannelId) (payload : Bytes) :
    Except ClientSendError Unit × ClientSideConnection :=
  match self.specific.state with
  | .disconnected => (.error .connectionClosed, self)
  | _ =>
    match self.internalSendPayload channelId payload with
    | (.ok (), self) => (.ok (), self)
    | (.error e, self) => (.error (.connectionSendError e), self)

def sendPayload (self : ClientSideConnection) (payload : Bytes) :
    Except ClientPayloadSendError Unit × ClientSideConnection :=
  match self.specific.sendChannelIds.defaultChannel with
  | some channel =>
    match self.sendPayloadOn channel payload with
    | (.ok (), self) => (.ok (), self)
    | (.error e, self) => (.error (.sendError e), self)
  | none => (.error .noDefaultChannel, self)

def openChannel (self : ClientSideConnection) (channelConfig : ChannelConfig) :
    Except ChannelCreationError ChannelId × ClientSideConnection :=
  match self.specific.sendChannelIds.takeId with
  | (.error e, ids) => (.error e, self.withIds ids)
  | (.ok channelId, ids) =>
    match (self.withIds ids).createConnectionChannel channelId channelConfig with
    | (.ok (), self) => (.ok channelId, self)
    | (.error e, self) => (.error (.asyncChannelError e), self)

def closeChannel (self : ClientSideConnection) (channelId : ChannelId) :
    Except ChannelCloseError Unit × ClientSideConnection :=
  match self.internalCloseChannel channelId with
  | (.error e, self) => (.error e, self)
  | (.ok (), self) =>
    (.ok (), withIds self (self.specific.sendChannelIds.releaseId channelId))

/-- One channel for each configuration, in order; `none` is the panic of `take_id().unwrap()`. -/
def openConfiguredChannels : List ChannelConfig → ClientSideConnection →
    Option (Except AsyncChannelError Unit × ClientSideConnection)
  | [], self => some (.ok (), self)
  | channelConfig :: channelConfigs, self =>
    match self.specific.sendChannelIds.takeId with
    | (.error _, _) => none
    | (.ok channelId, ids) =>
      match (self.withIds ids).createUnregisteredConnectionChannel channelId channelConfig with
      | (.ok channel, self) =>
        openConfiguredChannels channelConfigs (self.registerConnectionChannel channel)
      | (.error e, self) =>
        some (.error e, withIds self (self.specific.sendChannelIds.releaseId channelId))

def internalDisconnect (self : ClientSideConnection) (receivers : Bool) (reason : CloseReason) :
    Except ClientConnectionCloseError Unit × ClientSideConnection :=
  match self.specific.state with
  | .disconnected => (.ok (), self)
  | _ =>
    match (self.setState .disconnected).close receivers reason with
    | (.ok (), self) => (.ok (), self)
    | (.error .connectionAlreadyClosed, self) => (.error .connectionAlreadyClosed, self)

/-! ### What the calls do -/

section Calls

variable {self : ClientSideConnection} {id : ChannelId} {ids : ChannelsIdsPool}

/-- A channel that gets an id is created under it. -/
theorem openChannel_of_takeId_ok (h : self.specific.sendChannelIds.takeId = (.ok id, ids))
    (config : ChannelConfig) :
    (self.openChannel config).2 = ((self.withIds ids).createConnectionChannel id config).2 ∧
      ∀ i, (self.openChannel config).1 = .ok i ↔
        i = id ∧ ((self.withIds ids).createConnectionChannel id config).1 = .ok () := by
  rw [openChannel, h]
  simp only
  split
  · rename_i hcreate
    rw [hcreate]
    exact ⟨rfl, fun i ↦ by simp [eq_comm]⟩
  · rename_i hcreate
    rw [hcreate]
    exact ⟨rfl, fun i ↦ by simp⟩

/-- Closing a channel changes the pool at most, once the channel is closed. -/
theorem closeChannel_snd_eq (self : ClientSideConnection) (id : ChannelId) :
    (self.closeChannel id).2 = (self.internalCloseChannel id).2 ∨
      ∃ ids, (self.closeChannel id).2 = withIds (self.internalCloseChannel id).2 ids := by
  rw [closeChannel]
  split
  · rename_i hclose
    rw [hclose]
    exact .inl rfl
  · rename_i hclose
    rw [hclose]
    exact .inr ⟨_, rfl⟩

/-- A payload is refused by a connection that is disconnected, and otherwise sent. -/
theorem sendPayloadOn_cases (self : ClientSideConnection) (id : ChannelId) (payload : Bytes) :
    (self.sendPayloadOn id payload).1 ≠ .ok () ∧ (self.sendPayloadOn id payload).2 = self ∨
      ((self.sendPayloadOn id payload).1 = .ok () ↔ (self.internalSendPayload id payload).1 = .ok ()) ∧
        (self.sendPayloadOn id payload).2 = (self.internalSendPayload id payload).2 := by
  rw [sendPayloadOn]
  split
  · exact .inl ⟨nofun, rfl⟩
  · right
    split <;> rename_i hsend <;> rw [hsend] <;> simp

end Calls

theorem internalDisconnect_snd (self : ClientSideConnection) (receivers : Bool)
    (reason : CloseReason) :
    (self.internalDisconnect receivers reason).2 =
      if self.specific.state = .disconnected then self
      else ((self.setState .disconnected).close receivers reason).2 := by
  rw [internalDisconnect]
  split
  · rename_i h
    rw [if_pos h]
  · rename_i h
    rw [if_neg h]
    split <;> rename_i hclose <;> rw [hclose]

/-- What a disconnect does: the state, and the close order if anybody is there to see it. -/
theorem internalDisconnect_eq (self : ClientSideConnection) (receivers : Bool)
    (reason : CloseReason) :
    (self.internalDisconnect receivers reason).2 =
      { self.setState .disconnected with
        closeSend :=
          if self.specific.state = .disconnected ∨ receivers = false then self.closeSend
          else { self.closeSend with log := self.closeSend.log ++ [reason] } } := by
  rw [internalDisconnect_snd]
  by_cases h : self.specific.state = .disconnected
  · rw [if_pos h, if_pos (.inl h), setState, ← h]
  · rw [if_neg h, PeerConnection.close, Broadcast.send]
    cases receivers <;> simp [h, setState]

@[simp] theorem closeSender_internalDisconnect (self : ClientSideConnection) (receivers : Bool)
    (reason : CloseReason) :
    (self.internalDisconnect receivers reason).2.closeSend.sender = self.closeSend.sender := by
  rw [internalDisconnect_snd]
  split_ifs
  · rfl
  · rw [PeerConnection.close, Broadcast.send]
    cases receivers <;> rfl

/-- After a disconnect the connection is disconnected, and nothing else of its specific part has
changed. -/
@[simp] theorem specific_internalDisconnect (self : ClientSideConnection) (receivers : Bool)
    (reason : CloseReason) :
    (self.internalDisconnect receivers reason).2.specific =
      { self.specific with state := .disconnected } := by
  rw [internalDisconnect_snd]
  split_ifs with h
  · rw [← h]
  · rw [PeerConnection.specific_close]
    rfl

@[simp] theorem openIds_internalDisconnect (self : ClientSideConnection) (receivers : Bool)
    (reason : CloseReason) :
    PeerConnection.openIds (self.internalDisconnect receivers reason).2 = self.openIds := by
  rw [internalDisconnect_snd]
  split_ifs with h
  · rfl
  · rw [PeerConnection.openIds_close]
    rfl

/-- A new session on fresh queues, if the connection is disconnected.  The outcome `.ok true` says
that the task of the new session is spawned. -/
def reconnect (self : ClientSideConnection) :
    Option (Except AsyncChannelError Bool × ClientSideConnection) :=
  match self.specific.state with
  | .disconnected =>
    let chans := createClientConnectionAsyncChannels
    let self : ClientSideConnection :=
      { self with
        specific.state := .connecting
        specific.sendChannelIds := .new
        specific.fromAsyncClient := chans.toSyncClient }
    let self : ClientSideConnection :=
      self.internalReset chans.close chans.toChannels chans.fromChannels chans.bytesFromServer
    match self.openConfiguredChannels self.specific.channelsConfig.configs with
    | none => none
    | some (.error e, self) => some (.error e, self)
    | some (.ok (), self) => some (.ok true, self)
  | _ => some (.ok false, self)

/-- The connection on which `reconnect` opens the configured channels. -/
def renewed (self : ClientSideConnection) : ClientSideConnection :=
  let chans := createClientConnectionAsyncChannels
  let self : ClientSideConnection :=
    { self with
      specific.state := .connecting
      specific.sendChannelIds := .new
      specific.fromAsyncClient := chans.toSyncClient }
  self.internalReset chans.close chans.toChannels chans.fromChannels chans.bytesFromServer

theorem reconnect_of_not_disconnected {self : ClientSideConnection}
    (h : self.specific.state ≠ .disconnected) : self.reconnect = some (.ok false, self) := by
  rw [reconnect]
  split
  · rename_i hs
    exact absurd hs h
  · rfl

theorem reconnect_of_disconnected {self : ClientSideConnection}
    (h : self.specific.state = .disconnected) : self.reconnect =
      (self.renewed.openConfiguredChannels self.specific.channelsConfig.configs).map
        fun r ↦ (r.1.map fun _ ↦ true, r.2) := by
  have hreconnect : self.reconnect =
      match self.renewed.openConfiguredChannels self.specific.channelsConfig.configs with
      | none => none
      | some (Except.error e, conn) => some (Except.error e, conn)
      | some (Except.ok (), conn) => some (Except.ok true, conn) := by
    rw [reconnect, h]
    rfl
  rw [hreconnect]
  split <;> rename_i hopen <;> rw [hopen] <;> rfl

/-- `reconnect` leaves a connection alone, or opens the configured channels again. -/
theorem reconnect_cases {self conn : ClientSideConnection} {r : Except AsyncChannelError Bool}
    (h : self.reconnect = some (r, conn)) : (r = .ok false ∧ conn = self) ∨
      ∃ e, self.renewed.openConfiguredChannels self.specific.channelsConfig.configs = some (e, conn) ∧
        r = e.map fun _ ↦ true := by
  by_cases hs : self.specific.state = .disconnected
  · rw [reconnect_of_disconnected hs] at h
    obtain ⟨⟨e, c⟩, hopen, heq⟩ := Option.map_eq_some_iff.1 h
    obtain ⟨rfl, rfl⟩ := Prod.mk.inj heq
    exact .inr ⟨e, hopen, rfl⟩
  · rw [reconnect_of_not_disconnected hs] at h
    obtain ⟨rfl, rfl⟩ := Prod.mk.inj (Option.some.inj h)
    exact .inl ⟨rfl, rfl⟩

def disconnect (self : ClientSideConnection) (receivers : Bool) :
    Except ClientConnectionCloseError Unit × ClientSideConnection :=
  self.internalDisconnect receivers .localOrder

def tryDisconnectClosedConnection (self : ClientSideConnection) (receivers : Bool) :
    ClientSideConnection :=
  (self.internalDisconnect receivers .peerClosed).2

def clientId (self : ClientSideConnection) : Option ClientId :=
  match self.specific.state with
  | .connected clientId => clientId
  | _ => none

def setDefaultChannel (self : ClientSideConnection) (channelId : ChannelId) :
    ClientSideConnection :=
  self.withIds (self.specific.sendChannelIds.setDefaultChannel channelId)

def defaultChannel (self : ClientSideConnection) : Option ChannelId :=
  self.specific.sendChannelIds.defaultChannel

end ClientSideConnection

/-- `IrohClient::open_connection`, for the connection it makes. -/
def openConnection (localId : ConnectionLocalId) (sendChannelsCfg : SendChannelsConfiguration)
    (recvChannelsCfg : RecvChannelsConfiguration) (chans : ClientConnectionAsyncChannels) :
    Option (Except AsyncChannelError Unit × ClientSideConnection) :=
  let connection : ClientSideConnection :=
    .new (.new localId sendChannelsCfg chans.toSyncClient) chans.bytesFromServer chans.close
      chans.fromChannels chans.toChannels recvChannelsCfg
  connection.openConfiguredChannels sendChannelsCfg.configs

namespace ClientSideConnection

/-- What opening configured channels keeps: whatever changing the ids and creating a channel keep. -/
theorem openConfiguredChannels_invariant {P : ClientSideConnection → Prop}
    (hids : ∀ c : ClientSideConnection, ∀ ids, P c → P (c.withIds ids))
    (hcreate : ∀ c : ClientSideConnection, ∀ id config, P c → P (c.createConnectionChannel id config).2)
    {configs : List ChannelConfig} {c c' : ClientSideConnection} {r : Except AsyncChannelError Unit}
    (hc : P c) (hopen : openConfiguredChannels configs c = some (r, c')) : P c' := by
  induction configs generalizing c with
  | nil =>
    obtain ⟨-, rfl⟩ := Prod.mk.inj (Option.some.inj hopen)
    exact hc
  | cons config configs ih =>
    rw [openConfiguredChannels] at hopen
    split at hopen
    · cases hopen
    · rename_i id ids _
      have hnext := hcreate _ id config (hids c ids hc)
      rw [PeerConnection.createConnectionChannel] at hnext
      split at hopen
      · rename_i heq
        rw [heq] at hnext
        exact ih hnext hopen
      · rename_i heq
        rw [heq] at hnext
        obtain ⟨-, rfl⟩ := Prod.mk.inj (Option.some.inj hopen)
        exact hids _ _ hnext

/-- A connection opened without configured channels. -/
def opened : ClientSideConnection :=
  .new (.new 0 .new createClientConnectionAsyncChannels.toSyncClient)
    createClientConnectionAsyncChannels.bytesFromServer createClientConnectionAsyncChannels.close
    createClientConnectionAsyncChannels.fromChannels createClientConnectionAsyncChannels.toChannels {}

theorem openConnection_opened :
    openConnection 0 .new {} createClientConnectionAsyncChannels = some (.ok (), opened) := rfl

end ClientSideConnection

end BevyIroh
