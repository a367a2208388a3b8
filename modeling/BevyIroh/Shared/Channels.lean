import BevyIroh.Lib.Bytes
import Mathlib.Data.Fintype.Basic

/-!
# Channels: ids, configurations, errors

The vocabulary both ends of a connection share: what a channel is called, how it is configured,
how opening, closing and sending can fail, and the capacities of the queues between the sync side
and its tasks.
-/

set_option autoImplicit false

namespace BevyIroh

/-! ## Constants -/

/-- Id of an opened channel. -/
abbrev ChannelId := U8

/-- The id of a client on the server. -/
abbrev ClientId := ℕ

/-- Maximum number of channels that can be opened simultaneously, `u8::MAX as usize + 1`. -/
def maxChannelCount : ℕ := 256

/-- `size_of::<ChannelId>()`. -/
def channelIdLen : ℕ := 1

def protocolHeaderLen : ℕ := channelIdLen

/-- Size of the queues used to hold network messages, one per connection and per channel. -/
def defaultMessageQueueSize : ℕ := 150

/-- Size of the internal message queues. -/
def defaultInternalMessagesChannelSize : ℕ := 100

/-- Size of the queue of channel creations. -/
def defaultQchannelMessagesChannelSize : ℕ := 2 * maxChannelCount

/-- Size of the queues that carry close messages. -/
def defaultKillMessageQueueSize : ℕ := 10

/-- Default max frame length for payloads sent on reliable channels, in bytes. -/
def defaultMaxReliableFrameLen : ℕ := 8 * 1024 * 1024

/-! ## Channels -/

/-- Why the tasks of a connection are told to close. -/
inductive CloseReason where
  | localOrder
  | peerClosed
deriving DecidableEq, Repr

/-- Type of a channel, offering different delivery guarantees. -/
inductive ChannelConfig where
  | orderedReliable (maxFrameSize : ℕ)
  | unorderedReliable (maxFrameSize : ℕ)
  | unreliable
deriving DecidableEq, Repr

namespace ChannelConfig

def defaultUnreliable : ChannelConfig := .unreliable

def defaultUnorderedReliable : ChannelConfig := .unorderedReliable defaultMaxReliableFrameLen

def defaultOrderedReliable : ChannelConfig := .orderedReliable defaultMaxReliableFrameLen

instance : Inhabited ChannelConfig := ⟨defaultOrderedReliable⟩

end ChannelConfig

/-- From async to sync. -/
inductive ChannelAsyncMessage where
  | lostConnection
deriving DecidableEq, Repr

/-! ## Errors -/

/-- Error in the communication between the sync side and the tasks. -/
inductive AsyncChannelError where
  | fullQueue
  | internalChannelClosed
deriving DecidableEq, Repr

/-- Error while closing a channel. -/
inductive ChannelCloseError where
  | channelAlreadyClosed
  | invalidChannelId (id : ChannelId)
deriving DecidableEq, Repr

/-- Error while creating a channel. -/
inductive ChannelCreationError where
  | maxChannelsCountReached
  | asyncChannelError (e : AsyncChannelError)
deriving DecidableEq, Repr

/-- Error while configuring channels. -/
inductive ChannelConfigError where
  | maxChannelsCountReached
deriving DecidableEq, Repr

/-- Error when sending data on a connection. -/
inductive ConnectionSendError where
  | invalidChannelId (id : ChannelId)
  | channelClosed
  | channelSendError (e : AsyncChannelError)
deriving DecidableEq, Repr

/-- The connection is already closed. -/
inductive ConnectionAlreadyClosed where
  | connectionAlreadyClosed
deriving DecidableEq, Repr

/-! ## Configurations of several channels -/

/-- Several channels to be opened together; the `k`-th is meant to get id `k`. -/
structure SendChannelsConfiguration where
  channels : List ChannelConfig
  /-- There is an id for each of them. -/
  length_le : channels.length ≤ maxChannelCount

namespace SendChannelsConfiguration

/-- `SendChannelsConfiguration::default`: one ordered reliable channel. -/
def default : SendChannelsConfiguration :=
  ⟨[.orderedReliable defaultMaxReliableFrameLen], by decide⟩

/-- New empty configuration. -/
def new : SendChannelsConfiguration := ⟨[], by decide⟩

/-- New configuration from a simple list of channel configurations. -/
def fromConfigs (channelTypes : List ChannelConfig) :
    Except ChannelConfigError SendChannelsConfiguration :=
  if h : maxChannelCount < channelTypes.length then .error .maxChannelsCountReached
  else .ok ⟨channelTypes, Nat.le_of_not_lt h⟩

/-- Adds one element to the configuration. -/
def add (self : SendChannelsConfiguration) (channelType : ChannelConfig) :
    Option ChannelId × SendChannelsConfiguration :=
  if h : self.channels.length < maxChannelCount then
    (some (Fin.ofNat 256 ((self.channels ++ [channelType]).length - 1)),
      ⟨self.channels ++ [channelType], by rw [List.length_append]; exact h⟩)
  else (none, self)

def configs (self : SendChannelsConfiguration) : List ChannelConfig := self.channels

end SendChannelsConfiguration

end BevyIroh
