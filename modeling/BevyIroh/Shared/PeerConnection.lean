import BevyIroh.Lib.Queues
import BevyIroh.Shared.Channels
import Mathlib.Data.Set.Basic
import Mathlib.Logic.Function.Basic

/-!
# The sync side of a connection

`PeerConnection` is the connection as the application sees it: a sparse table of send channels, the
queues that lead to the tasks and back, and the broadcast that tells the tasks to close.

A channel is a pair of senders, one for payloads and one for the order to close.  Their receivers
travel to the tasks in a `CreateChannel` message.  The queues of all the channels ever created on the
connection are kept in one table, `queues`, and both the `Channel` and the message hold the place of
theirs in it.  Whatever the tasks do to the shared queues is invisible in the other fields; that is
`SameSync`.
-/

set_option autoImplicit false

namespace BevyIroh

/-! ## Channels -/

/-- The queue of payloads and the queue of close orders of a channel. -/
structure ChannelQueues where
  bytes : Mpsc Bytes
  close : Mpsc Unit
deriving DecidableEq, Repr

namespace ChannelQueues

def new : ChannelQueues where
  bytes := { capacity := defaultMessageQueueSize }
  close := { capacity := defaultKillMessageQueueSize }

def dropSenders (q : ChannelQueues) : ChannelQueues where
  bytes := q.bytes.dropSender
  close := q.close.dropSender

def dropReceivers (q : ChannelQueues) : ChannelQueues where
  bytes := q.bytes.dropReceiver
  close := q.close.dropReceiver

end ChannelQueues

/-- From sync to async. -/
inductive ChannelSyncMessage where
  /-- The receivers are those of the queues at place `queues`. -/
  | createChannel (id : ChannelId) (config : ChannelConfig) (queues : ℕ)
deriving DecidableEq, Repr

/-- The sync side's end of a channel: the senders of the queues at place `queues`. -/
structure Channel where
  id : ChannelId
  queues : ℕ
deriving DecidableEq, Repr

namespace Channel

def sendPayload (self : Channel) (payload : Bytes) (queues : ℕ → ChannelQueues) :
    Except AsyncChannelError (ℕ → ChannelQueues) :=
  match (queues self.queues).bytes.trySend payload with
  | .ok q => .ok (Function.update queues self.queues { queues self.queues with bytes := q })
  | .error .full => .error .fullQueue
  | .error .closed => .error .internalChannelClosed

def close (self : Channel) (queues : ℕ → ChannelQueues) :
    Except ChannelCloseError (ℕ → ChannelQueues) :=
  match (queues self.queues).close.blockingSend () with
  | .ok q => .ok (Function.update queues self.queues { queues self.queues with close := q })
  | .error () => .error .channelAlreadyClosed

/-- The channel goes out of scope, and its senders with it. -/
def drop (self : Channel) (queues : ℕ → ChannelQueues) : ℕ → ChannelQueues :=
  Function.update queues self.queues (queues self.queues).dropSenders

theorem close_isOk_iff {c : Channel} {queues : ℕ → ChannelQueues} :
    (c.close queues).isOk = true ↔ (queues c.queues).close.receiver = true := by
  rw [close, Mpsc.blockingSend]
  cases (queues c.queues).close.receiver <;> simp [Except.isOk, Except.toBool]

end Channel

/-! ## Statistics -/

/-- Basic stats about a connection, counted in 64 bits. -/
structure ConnectionStats where
  receivedBytesCount : ℕ := 0
  sentBytesCount : ℕ := 0
  receivedMessagesCount : ℕ := 0
deriving DecidableEq, Repr

namespace ConnectionStats

def received (self : ConnectionStats) (bytesCount : ℕ) : ConnectionStats :=
  { self with
    receivedBytesCount := (self.receivedBytesCount + bytesCount) % 2 ^ 64
    receivedMessagesCount := (self.receivedMessagesCount + 1) % 2 ^ 64 }

def sent (self : ConnectionStats) (bytesCount : ℕ) : ConnectionStats :=
  { self with sentBytesCount := (self.sentBytesCount + bytesCount) % 2 ^ 64 }

/-- Resets all statistics to 0. -/
def reset (_self : ConnectionStats) : ConnectionStats := {}

/-- How many bytes were received since the last time this was cleared; it is reset to 0. -/
def clearReceivedBytesCount (self : ConnectionStats) : ℕ × ConnectionStats :=
  (self.receivedBytesCount, { self with receivedBytesCount := 0 })

def clearSentBytesCount (self : ConnectionStats) : ℕ × ConnectionStats :=
  (self.sentBytesCount, { self with sentBytesCount := 0 })

def clearReceivedMessagesCount (self : ConnectionStats) : ℕ × ConnectionStats :=
  (self.receivedMessagesCount, { self with receivedMessagesCount := 0 })

end ConnectionStats

/-- Configuration of the receive channels of a connection. -/
structure RecvChannelsConfiguration where
  maxBufferedPayloadsCountPerChannel : ℕ := 512
  maxReceiveChannelsCount : ℕ := maxChannelCount
  clearStaleReceivedPayloads : Bool := false
deriving DecidableEq, Repr

/-! ## Connections -/

/-- A connection to a peer, containing multiple channels for sending data, as well as buffers for
received data. -/
structure PeerConnection (S : Type) where
  specific : S
  /-- Send channels opened on this connection. -/
  sendChannels : List (Option Channel)
  /-- Received bytes from the peer. -/
  bytesFromPeer : Mpsc (ChannelId × Bytes)
  /-- Messages going to the async channels task. -/
  toChannels : Mpsc ChannelSyncMessage
  /-- Messages coming from the async channels task. -/
  fromChannels : Mpsc ChannelAsyncMessage
  closeSend : Broadcast CloseReason
  stats : ConnectionStats
  /-- Buffers of received payloads per receive channel. -/
  recvChannelsPayloads : List (List Bytes)
  recvChannelsCfg : RecvChannelsConfiguration
  /-- The queues of the channels created so far. -/
  queues : ℕ → ChannelQueues
  /-- How many channels were created: the first free place in `queues`. -/
  created : ℕ

namespace PeerConnection

variable {S : Type}

def new (specific : S) (bytesFromPeer : Mpsc (ChannelId × Bytes)) (closeSend : Broadcast CloseReason)
    (fromChannels : Mpsc ChannelAsyncMessage) (toChannels : Mpsc ChannelSyncMessage)
    (recvChannelsCfg : RecvChannelsConfiguration) : PeerConnection S where
  specific := specific
  sendChannels := []
  bytesFromPeer := bytesFromPeer
  toChannels := toChannels
  fromChannels := fromChannels
  closeSend := closeSend
  stats := {}
  recvChannelsPayloads := []
  recvChannelsCfg := recvChannelsCfg
  queues _ := .new
  created := 0

/-- The channel open under this id. -/
def slot (self : PeerConnection S) (id : ChannelId) : Option Channel :=
  self.sendChannels[id.val]?.join

/-- The ids whose slot holds a channel. -/
def openIds (self : PeerConnection S) : Set ChannelId := {id | (self.slot id).isSome}

def internalSendPayload (self : PeerConnection S) (channelId : ChannelId) (payload : Bytes) :
    Except ConnectionSendError Unit × PeerConnection S :=
  match self.sendChannels[channelId.val]? with
  | some (some channel) =>
    -- counted before it is known whether the queue takes the payload
    let self := { self with stats := self.stats.sent payload.length }
    match channel.sendPayload payload self.queues with
    | .ok queues => (.ok (), { self with queues })
    | .error e => (.error (.channelSendError e), self)
  | some none => (.error .channelClosed, self)
  | none => (.error (.invalidChannelId channelId), self)

/-- Immediately prevents new messages from being sent on the channel and signals the channel to
close its background tasks.  The slot is emptied whatever the channel answers. -/
def internalCloseChannel (self : PeerConnection S) (channelId : ChannelId) :
    Except ChannelCloseError Unit × PeerConnection S :=
  match self.sendChannels[channelId.val]? with
  | some (some channelToClose) =>
    let self := { self with sendChannels := self.sendChannels.set channelId.val none }
    match channelToClose.close self.queues with
    | .ok queues => (.ok (), { self with queues := channelToClose.drop queues })
    | .error e => (.error e, { self with queues := channelToClose.drop self.queues })
  | some none => (.error .channelAlreadyClosed, self)
  | none => (.error (.invalidChannelId channelId), self)

def createUnregisteredConnectionChannel (self : PeerConnection S) (id : ChannelId)
    (config : ChannelConfig) : Except AsyncChannelError Channel × PeerConnection S :=
  match self.toChannels.trySend (.createChannel id config self.created) with
  | .ok toChannels =>
    (.ok ⟨id, self.created⟩,
      { self with
        toChannels
        queues := Function.update self.queues self.created .new
        created := self.created + 1 })
  | .error .full => (.error .fullQueue, self)
  | .error .closed => (.error .internalChannelClosed, self)

/-- The channel is put in the slot of its id; a channel that was there is dropped. -/
def registerConnectionChannel (self : PeerConnection S) (channel : Channel) : PeerConnection S :=
  let channelIndex := channel.id.val
  if channelIndex < self.sendChannels.length then
    { self with
      sendChannels := self.sendChannels.set channelIndex (some channel)
      queues := (self.slot channel.id).elim self.queues fun old ↦ old.drop self.queues }
  else
    { self with
      sendChannels := self.sendChannels ++
        List.replicate (channelIndex - self.sendChannels.length) none ++ [some channel] }

def createConnectionChannel (self : PeerConnection S) (id : ChannelId) (channelConfig : ChannelConfig) :
    Except AsyncChannelError Unit × PeerConnection S :=
  match self.createUnregisteredConnectionChannel id channelConfig with
  | (.ok channel, self) => (.ok (), self.registerConnectionChannel channel)
  | (.error e, self) => (.error e, self)

/-- A channel of this connection that was never registered goes out of scope. -/
def dropUnregistered (channel : Channel) (self : PeerConnection S) : PeerConnection S :=
  { self with queues := channel.drop self.queues }

/-- Signals the connection to close its background tasks; `receivers` says whether any of them is
listening. -/
def close (self : PeerConnection S) (receivers : Bool) (reason : CloseReason) :
    Except ConnectionAlreadyClosed Unit × PeerConnection S :=
  match self.closeSend.send receivers reason with
  | .ok closeSend => (.ok (), { self with closeSend })
  | .error () => (.error .connectionAlreadyClosed, self)

/-- The queues once every channel of the table is dropped. -/
def dropChannels (channels : List (Option Channel)) (queues : ℕ → ChannelQueues) :
    ℕ → ChannelQueues :=
  channels.foldl (fun queues slot ↦ slot.elim queues fun c ↦ c.drop queues) queues

def internalReset (self : PeerConnection S) (closeSend : Broadcast CloseReason)
    (toChannels : Mpsc ChannelSyncMessage) (fromChannels : Mpsc ChannelAsyncMessage)
    (bytesFromPeer : Mpsc (ChannelId × Bytes)) : PeerConnection S :=
  { self with
    closeSend, toChannels, fromChannels, bytesFromPeer
    sendChannels := []
    queues := dropChannels self.sendChannels self.queues
    stats := self.stats.reset
    recvChannelsPayloads := [] }

/-- The connection goes out of scope, and with it its ends of all the queues.  Other senders of the
close order may be left. -/
def drop (self : PeerConnection S) : PeerConnection S :=
  { self with
    sendChannels := []
    queues := dropChannels self.sendChannels self.queues
    toChannels := self.toChannels.dropSender
    fromChannels := self.fromChannels.dropReceiver
    bytesFromPeer := self.bytesFromPeer.dropReceiver }

variable {s : PeerConnection S} {i j : ChannelId}

/-! ## The specific part is left alone -/

@[simp] theorem specific_internalSendPayload (payload : Bytes) :
    (s.internalSendPayload i payload).2.specific = s.specific := by
  rw [internalSendPayload]
  split
  · simp only
    split <;> rfl
  all_goals rfl

@[simp] theorem specific_internalCloseChannel :
    (s.internalCloseChannel i).2.specific = s.specific := by
  rw [internalCloseChannel]
  split
  · simp only
    split <;> rfl
  all_goals rfl

@[simp] theorem specific_registerConnectionChannel (c : Channel) :
    (s.registerConnectionChannel c).specific = s.specific := by
  rw [registerConnectionChannel]
  split <;> rfl

@[simp] theorem specific_createUnregisteredConnectionChannel (config : ChannelConfig) :
    (s.createUnregisteredConnectionChannel i config).2.specific = s.specific := by
  rw [createUnregisteredConnectionChannel]
  split <;> rfl

@[simp] theorem specific_createConnectionChannel (config : ChannelConfig) :
    (s.createConnectionChannel i config).2.specific = s.specific := by
  have h := specific_createUnregisteredConnectionChannel (s := s) (i := i) config
  rw [createConnectionChannel]
  split
  · rename_i h'
    simpa [h'] using h
  · rename_i h'
    simpa [h'] using h

@[simp] theorem specific_close (receivers : Bool) (reason : CloseReason) :
    (s.close receivers reason).2.specific = s.specific := by
  rw [close]
  split <;> rfl

/-! ## Slots -/

theorem slot_eq_some {c : Channel} :
    s.slot i = some c ↔ s.sendChannels[i.val]? = some (some c) := by
  rw [slot, Option.join_eq_some_iff]

theorem slot_eq_none : s.slot i = none ↔ i ∉ s.openIds := by
  simp [openIds]

theorem slot_congr {s' : PeerConnection S} (h : s'.sendChannels = s.sendChannels) :
    s'.slot i = s.slot i := by
  rw [slot, slot, h]

theorem openIds_congr {s' : PeerConnection S} (h : s'.sendChannels = s.sendChannels) :
    s'.openIds = s.openIds := by
  simp only [openIds, slot_congr h]

/-- Extending a sparse vector with the default changes no entry but the one that is filled. -/
theorem getD_getElem?_extend {α : Type} {l : List α} {i : ℕ} (hi : l.length ≤ i) (a d : α) (j : ℕ) :
    (l ++ List.replicate (i - l.length) d ++ [a])[j]?.getD d =
      if j = i then a else l[j]?.getD d := by
  have hlen : (l ++ List.replicate (i - l.length) d).length = i := by simp; omega
  rcases Nat.lt_trichotomy j i with h | rfl | h
  · rw [List.getElem?_append_left (by omega), if_neg (Nat.ne_of_lt h)]
    by_cases hj : j < l.length
    · rw [List.getElem?_append_left hj]
    · rw [List.getElem?_append_right (by omega), List.getElem?_replicate,
        List.getElem?_eq_none (Nat.le_of_not_lt hj)]
      split <;> rfl
  · rw [List.getElem?_append_right (by omega), if_pos rfl, hlen, Nat.sub_self]
    rfl
  · rw [List.getElem?_eq_none (by simp; omega), List.getElem?_eq_none (by omega),
      if_neg (Nat.ne_of_gt h)]

/-- So it is with the slots of a table. -/
theorem join_getElem?_extend {α : Type} {l : List (Option α)} {i : ℕ} (hi : l.length ≤ i) (a : α)
    (j : ℕ) : (l ++ List.replicate (i - l.length) none ++ [some a])[j]?.join =
      if j = i then some a else l[j]?.join := by
  have hjoin : ∀ o : Option (Option α), o.join = o.getD none := by rintro (_ | _) <;> rfl
  rw [hjoin, hjoin]
  exact getD_getElem?_extend hi (some a) none j

theorem join_getElem?_set {l : List (Option Channel)} (i j : ChannelId) (a : Option Channel)
    (h : i.val < l.length ∨ a = none) :
    (l.set i.val a)[j.val]?.join = if j = i then a else l[j.val]?.join := by
  rw [List.getElem?_set]
  by_cases hid : j = i
  · subst hid
    rw [if_pos rfl, if_pos rfl]
    split_ifs with hlt
    · rfl
    · rw [h.resolve_left hlt]
      rfl
  · rw [if_neg hid, if_neg fun h ↦ hid (Fin.ext h.symm)]

@[simp] theorem slot_registerConnectionChannel (c : Channel) :
    (s.registerConnectionChannel c).slot i = if i = c.id then some c else s.slot i := by
  rw [registerConnectionChannel]
  by_cases hlt : c.id.val < s.sendChannels.length
  · simp only [hlt, if_true]
    exact join_getElem?_set c.id i _ (.inl hlt)
  · simp only [hlt, if_false]
    refine (join_getElem?_extend (Nat.le_of_not_lt hlt) c i.val).trans ?_
    simp only [Fin.val_inj]
    rfl

theorem openIds_registerConnectionChannel (c : Channel) :
    (s.registerConnectionChannel c).openIds = insert c.id s.openIds := by
  ext j
  rw [openIds, Set.mem_ofPred, slot_registerConnectionChannel, Set.mem_insert_iff]
  by_cases h : j = c.id <;> simp [h, openIds]

/-- Closing a channel empties its slot, successful or not, and no other. -/
@[simp] theorem slot_internalCloseChannel :
    (s.internalCloseChannel i).2.slot j = if j = i then none else s.slot j := by
  rw [internalCloseChannel]
  split
  · simp only
    split <;> exact join_getElem?_set i j none (.inr rfl)
  all_goals
    rename_i h
    split_ifs with hid
    · rw [hid, slot, h]
      rfl
    · rfl

/-- Closing succeeds exactly when the channel is open and its task still listens. -/
theorem internalCloseChannel_eq_ok :
    (s.internalCloseChannel i).1 = .ok () ↔
      ∃ c, s.slot i = some c ∧ (s.queues c.queues).close.receiver = true := by
  simp only [slot_eq_some]
  rw [internalCloseChannel]
  split
  · rename_i c h
    simp only [h, Option.some.injEq, exists_eq_left', ← Channel.close_isOk_iff]
    cases c.close s.queues <;> simp [Except.isOk, Except.toBool]
  · simp_all
  · simp_all

@[simp] theorem openIds_close (receivers : Bool) (reason : CloseReason) :
    (s.close receivers reason).2.openIds = s.openIds := by
  rw [close]
  split <;> rfl

@[simp] theorem sendChannels_createUnregisteredConnectionChannel (config : ChannelConfig) :
    (s.createUnregisteredConnectionChannel i config).2.sendChannels = s.sendChannels := by
  rw [createUnregisteredConnectionChannel]
  split <;> rfl

/-- A request succeeds exactly when it finds room and a receiver. -/
theorem createUnregisteredConnectionChannel_isOk_iff (config : ChannelConfig) :
    (s.createUnregisteredConnectionChannel i config).1.isOk = true ↔ s.toChannels.Ready := by
  rw [createUnregisteredConnectionChannel]
  by_cases h : s.toChannels.Ready
  · simp [Mpsc.trySend_of_ready h, h, Except.isOk, Except.toBool]
  · obtain ⟨e, he⟩ := Mpsc.trySend_of_not_ready h (.createChannel i config s.created)
    cases e <;> simp [he, h, Except.isOk, Except.toBool]

@[simp] theorem slot_createUnregisteredConnectionChannel (config : ChannelConfig) :
    (s.createUnregisteredConnectionChannel i config).2.slot j = s.slot j :=
  slot_congr (sendChannels_createUnregisteredConnectionChannel config)

theorem createConnectionChannel_of_ok {config : ChannelConfig} {c : Channel}
    (h : (s.createUnregisteredConnectionChannel i config).1 = .ok c) :
    s.createConnectionChannel i config = (.ok (),
      (s.createUnregisteredConnectionChannel i config).2.registerConnectionChannel c) := by
  obtain ⟨self', h'⟩ : ∃ self', s.createUnregisteredConnectionChannel i config = (.ok c, self') :=
    ⟨_, Prod.ext h rfl⟩
  simp only [createConnectionChannel, h']

theorem createUnregisteredConnectionChannel_id {config : ChannelConfig} {c : Channel}
    (h : (s.createUnregisteredConnectionChannel i config).1 = .ok c) : c.id = i := by
  rw [createUnregisteredConnectionChannel] at h
  split at h <;> cases h
  rfl

/-- A channel is open after it was created, and nothing else has changed; if it could not be created
no slot has changed. -/
theorem slot_createConnectionChannel (config : ChannelConfig) :
    (s.createConnectionChannel i config).2.slot j =
      if (s.createConnectionChannel i config).1.isOk ∧ j = i then
        some ⟨i, s.created⟩
      else s.slot j := by
  rw [createConnectionChannel, createUnregisteredConnectionChannel]
  cases s.toChannels.trySend (.createChannel i config s.created) with
  | ok q =>
    simp only [slot_registerConnectionChannel, Except.isOk, Except.toBool, true_and]
    rfl
  | error e => cases e <;> simp [Except.isOk, Except.toBool]

@[simp] theorem openIds_internalCloseChannel :
    (s.internalCloseChannel i).2.openIds = s.openIds \ {i} := by
  ext j
  rw [openIds, Set.mem_ofPred, slot_internalCloseChannel, Set.mem_sdiff, Set.mem_singleton_iff]
  split_ifs with h
  · simp [h]
  · simp [h, openIds]

theorem openIds_createConnectionChannel_of_ok {config : ChannelConfig}
    (h : (s.createConnectionChannel i config).1 = .ok ()) :
    (s.createConnectionChannel i config).2.openIds = insert i s.openIds := by
  ext j
  rw [openIds, Set.mem_ofPred, slot_createConnectionChannel, h, Set.mem_insert_iff]
  by_cases hid : j = i <;> simp [hid, Except.isOk, Except.toBool, openIds]

/-- Creating a channel succeeds exactly when the request finds room and a receiver. -/
theorem createConnectionChannel_eq_ok (config : ChannelConfig) :
    (s.createConnectionChannel i config).1 = .ok () ↔ s.toChannels.Ready := by
  rw [← createUnregisteredConnectionChannel_isOk_iff (i := i) config, createConnectionChannel]
  split <;> rename_i h <;> simp [h, Except.isOk, Except.toBool]

/-! ## Queues -/

/-- A payload is put at the end of the queue of an open channel, if there is room and a receiver;
otherwise it is refused and no queue changes. -/
theorem internalSendPayload_cases (payload : Bytes) :
    (∃ c, s.slot i = some c ∧ (s.queues c.queues).bytes.Ready ∧
        (s.internalSendPayload i payload).1 = .ok () ∧
        (s.internalSendPayload i payload).2.queues = Function.update s.queues c.queues
          { s.queues c.queues with bytes := (s.queues c.queues).bytes.push payload }) ∨
      (∀ c, s.slot i = some c → ¬ (s.queues c.queues).bytes.Ready) ∧
        (s.internalSendPayload i payload).1 ≠ .ok () ∧
        (s.internalSendPayload i payload).2.queues = s.queues := by
  simp only [slot_eq_some]
  rw [internalSendPayload]
  split
  · rename_i c hc
    simp only [Channel.sendPayload]
    by_cases hq : (s.queues c.queues).bytes.Ready
    · rw [Mpsc.trySend_of_ready hq]
      exact .inl ⟨c, hc, hq, rfl, rfl⟩
    · obtain ⟨e, he⟩ := Mpsc.trySend_of_not_ready hq payload
      refine .inr ⟨fun c' hc' ↦ ?_, ?_⟩
      · obtain rfl : c = c' := by simpa using hc.symm.trans hc'
        exact hq
      · rw [he]
        cases e <;> simp
  · rename_i hc
    exact .inr ⟨fun c' hc' ↦ (nomatch hc.symm.trans hc'), by simp⟩
  · rename_i hc
    exact .inr ⟨fun c' hc' ↦ (nomatch hc.symm.trans hc'), by simp⟩

/-- Sending succeeds exactly when the channel is open and its queue has room and a receiver. -/
theorem internalSendPayload_eq_ok {payload : Bytes} :
    (s.internalSendPayload i payload).1 = .ok () ↔
      ∃ c, s.slot i = some c ∧ (s.queues c.queues).bytes.Ready := by
  rcases s.internalSendPayload_cases (i := i) payload with ⟨c, hc, hq, hok, -⟩ | ⟨hnot, hok, -⟩
  · exact ⟨fun _ ↦ ⟨c, hc, hq⟩, fun _ ↦ hok⟩
  · exact ⟨fun h ↦ absurd h hok, fun ⟨c, hc, hq⟩ ↦ absurd hq (hnot c hc)⟩

/-- A payload that is accepted is at the end of its channel's queue; nothing else changes. -/
theorem queues_internalSendPayload (payload : Bytes) (h : ℕ) :
    (s.internalSendPayload i payload).2.queues h = s.queues h ∨
      ∃ c, s.slot i = some c ∧ c.queues = h ∧ (s.queues h).bytes.Ready ∧
        (s.internalSendPayload i payload).2.queues h =
          { s.queues h with bytes := (s.queues h).bytes.push payload } := by
  rcases s.internalSendPayload_cases (i := i) payload with ⟨c, hc, hq, -, hqueues⟩ | ⟨-, -, hqueues⟩
  · by_cases hh : h = c.queues
    · subst hh
      exact .inr ⟨c, hc, rfl, hq, by rw [hqueues, Function.update_self]⟩
    · exact .inl (by rw [hqueues, Function.update_of_ne hh])
  · exact .inl (by rw [hqueues])

theorem internalSendPayload_frame (payload : Bytes) :
    (s.internalSendPayload i payload).2.sendChannels = s.sendChannels ∧
      (s.internalSendPayload i payload).2.toChannels = s.toChannels ∧
      (s.internalSendPayload i payload).2.closeSend = s.closeSend ∧
      (s.internalSendPayload i payload).2.created = s.created := by
  rw [internalSendPayload]
  split
  · simp only
    split <;> exact ⟨rfl, rfl, rfl, rfl⟩
  all_goals exact ⟨rfl, rfl, rfl, rfl⟩

/-- A channel that is closed gets its close order, if its task is there to take it, and loses its
senders; nothing else changes. -/
theorem queues_internalCloseChannel (h : ℕ) :
    (s.internalCloseChannel i).2.queues h = s.queues h ∨
      ∃ c, s.slot i = some c ∧ c.queues = h ∧
        ((s.internalCloseChannel i).2.queues h).bytes = (s.queues h).bytes.dropSender := by
  simp only [slot_eq_some]
  rw [internalCloseChannel]
  split
  · rename_i c hc
    simp only [Channel.close, Channel.drop]
    cases hq : (s.queues c.queues).close.blockingSend () <;>
    · by_cases hh : h = c.queues
      · subst hh
        exact .inr ⟨c, hc, rfl, by simp [ChannelQueues.dropSenders]⟩
      · exact .inl (by simp [Function.update_of_ne hh])
  · exact .inl rfl
  · exact .inl rfl

theorem internalCloseChannel_frame :
    (s.internalCloseChannel i).2.toChannels = s.toChannels ∧
      (s.internalCloseChannel i).2.closeSend = s.closeSend ∧
      (s.internalCloseChannel i).2.created = s.created := by
  rw [internalCloseChannel]
  split
  · simp only
    split <;> exact ⟨rfl, rfl, rfl⟩
  all_goals exact ⟨rfl, rfl, rfl⟩

theorem registerConnectionChannel_frame (c : Channel) :
    (s.registerConnectionChannel c).toChannels = s.toChannels ∧
      (s.registerConnectionChannel c).closeSend = s.closeSend ∧
      (s.registerConnectionChannel c).created = s.created := by
  rw [registerConnectionChannel]
  split <;> exact ⟨rfl, rfl, rfl⟩

/-- A channel that was in the slot loses its senders. -/
theorem queues_registerConnectionChannel (c : Channel) :
    (s.registerConnectionChannel c).queues =
      (s.slot c.id).elim s.queues fun old ↦ old.drop s.queues := by
  rw [registerConnectionChannel]
  split_ifs with hlt
  · rfl
  · rw [slot, List.getElem?_eq_none (Nat.le_of_not_lt hlt)]
    rfl

/-- What a request that is not refused does. -/
theorem createConnectionChannel_of_ready (hq : s.toChannels.Ready) (config : ChannelConfig) :
    (s.createConnectionChannel i config).2.toChannels =
        s.toChannels.push (.createChannel i config s.created) ∧
      (s.createConnectionChannel i config).2.closeSend = s.closeSend ∧
      (s.createConnectionChannel i config).2.created = s.created + 1 ∧
      (s.createConnectionChannel i config).2.queues =
        (s.slot i).elim (Function.update s.queues s.created .new)
          fun old ↦ old.drop (Function.update s.queues s.created .new) := by
  rw [createConnectionChannel, createUnregisteredConnectionChannel, Mpsc.trySend_of_ready hq]
  obtain ⟨hto, hclose, hcreated⟩ := registerConnectionChannel_frame (s := { s with
    toChannels := s.toChannels.push (.createChannel i config s.created)
    queues := Function.update s.queues s.created .new
    created := s.created + 1 }) ⟨i, s.created⟩
  exact ⟨hto, hclose, hcreated, queues_registerConnectionChannel _⟩

/-- Under an id that has no channel nothing else changes. -/
theorem createConnectionChannel_of_vacant (hq : s.toChannels.Ready) (hslot : s.slot i = none)
    (config : ChannelConfig) :
    (s.createConnectionChannel i config).2 = { s with
      sendChannels := (s.createConnectionChannel i config).2.sendChannels
      toChannels := s.toChannels.push (.createChannel i config s.created)
      queues := Function.update s.queues s.created .new
      created := s.created + 1 } := by
  rw [createConnectionChannel, createUnregisteredConnectionChannel, Mpsc.trySend_of_ready hq]
  simp only [registerConnectionChannel]
  split
  · rw [slot] at hslot
    simp only [slot, hslot, Option.elim_none]
  · rfl

theorem createConnectionChannel_of_not_ready (hq : ¬ s.toChannels.Ready) (config : ChannelConfig) :
    (s.createConnectionChannel i config).2 = s := by
  obtain ⟨e, he⟩ := Mpsc.trySend_of_not_ready hq (.createChannel i config s.created)
  rw [createConnectionChannel, createUnregisteredConnectionChannel, he]
  cases e <;> rfl

theorem stats_createConnectionChannel (s : PeerConnection S) (id : ChannelId)
    (config : ChannelConfig) : (s.createConnectionChannel id config).2.stats = s.stats := by
  by_cases hq : s.toChannels.Ready
  · rw [createConnectionChannel, createUnregisteredConnectionChannel, Mpsc.trySend_of_ready hq]
    simp only [registerConnectionChannel]
    split <;> rfl
  · rw [createConnectionChannel_of_not_ready hq]

theorem recvChannelsCfg_createConnectionChannel (s : PeerConnection S) (id : ChannelId)
    (config : ChannelConfig) :
    (s.createConnectionChannel id config).2.recvChannelsCfg = s.recvChannelsCfg := by
  by_cases hq : s.toChannels.Ready
  · rw [createConnectionChannel, createUnregisteredConnectionChannel, Mpsc.trySend_of_ready hq]
    simp only [registerConnectionChannel]
    split <;> rfl
  · rw [createConnectionChannel_of_not_ready hq]

/-- Dropping channels takes senders away and does nothing else. -/
theorem dropChannels_apply (channels : List (Option Channel)) (queues : ℕ → ChannelQueues) (h : ℕ) :
    dropChannels channels queues h = queues h ∨
      dropChannels channels queues h = (queues h).dropSenders := by
  induction channels generalizing queues with
  | nil => exact .inl rfl
  | cons slot channels ih =>
    rw [dropChannels, List.foldl_cons, ← dropChannels]
    cases slot with
    | none => exact ih queues
    | some c =>
      have hdrop : c.drop queues h = queues h ∨ c.drop queues h = (queues h).dropSenders := by
        by_cases hh : h = c.queues
        · subst hh
          exact .inr (Function.update_self ..)
        · exact .inl (Function.update_of_ne hh _ _)
      rcases ih (c.drop queues) with hrest | hrest <;> rcases hdrop with hc | hc
      · exact .inl (hrest.trans hc)
      · exact .inr (hrest.trans hc)
      · exact .inr (hrest.trans (by rw [hc]))
      · exact .inr (hrest.trans (by rw [hc]; rfl))

/-! ## What the tasks may change -/

/-- The two states differ at most in what the tasks share with the sync side, the queues, and in
the specific part. -/
structure SameSync (c c' : PeerConnection S) : Prop where
  sendChannels : c'.sendChannels = c.sendChannels
  stats : c'.stats = c.stats
  recvChannelsPayloads : c'.recvChannelsPayloads = c.recvChannelsPayloads
  recvChannelsCfg : c'.recvChannelsCfg = c.recvChannelsCfg
  closeSend : c'.closeSend = c.closeSend
  created : c'.created = c.created

theorem SameSync.openIds {c c' : PeerConnection S} (h : c.SameSync c') : c'.openIds = c.openIds :=
  openIds_congr h.sendChannels

theorem SameSync.refl (c : PeerConnection S) : c.SameSync c := ⟨rfl, rfl, rfl, rfl, rfl, rfl⟩

theorem SameSync.slot {c c' : PeerConnection S} (h : c.SameSync c') (i : ChannelId) :
    c'.slot i = c.slot i :=
  slot_congr h.sendChannels

end PeerConnection

end BevyIroh
