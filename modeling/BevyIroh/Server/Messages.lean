import BevyIroh.Server.Receive
import BevyIroh.Server.Send
import BevyIroh.Shared.Messages

/-!
# Messages on the server

The calls of `ServerEndpoint` that send and read messages of a type.  A message goes to one client, to
some of them, or to all of them; for the connection of one client these are the same
(`faithful_messageCalls`), as a call does to one connection what it would do to it alone
(`Attempts.Local`).
-/

set_option autoImplicit false

namespace BevyIroh

open Attempts PeerConnection

/-! ## Errors -/

inductive ServerMessageSendError where
  | serialization
  | noDefaultChannel
  | sendError (err : ServerSendError)
deriving DecidableEq, Repr

inductive ServerMessageReceiveError where
  | deserialization
  | noDefaultChannel
  | receiveError (err : ServerReceiveError)
deriving DecidableEq, Repr

/-- What a call has read: `some none` is a payload that is not a message. -/
def ServerMessageReceiveError.outcome {T : Type} :
    Except ServerMessageReceiveError (Option T) → Option (Option T)
  | .ok message => message.map some
  | .error .deserialization => some none
  | .error _ => none

/-- Whether the message was accepted for this client. -/
def ServerGroupMessageSendError.accepted (k : ClientId) :
    Except ServerGroupMessageSendError Unit → Bool
  | .ok () => true
  | .error (.groupSendError err) => err.errs.all (·.1 ≠ k)
  | .error _ => false

/-! ## Calls -/

namespace ServerEndpoint

variable {T E D : Type}

def receiveMessageFrom (decode : Bytes → Except D (T × ℕ)) (self : ServerEndpoint)
    (clientId : ClientId) (channelId : ChannelId) :
    Except ServerMessageReceiveError (Option T) × ServerEndpoint :=
  match self.receivePayload clientId channelId with
  | (.error e, self) => (.error (.receiveError e), self)
  | (.ok (some payload), self) =>
    match decode payload with
    | .ok (msg, _) => (.ok (some msg), self)
    | .error _ => (.error .deserialization, self)
  | (.ok none, self) => (.ok none, self)

def receiveMessage (decode : Bytes → Except D (T × ℕ)) (self : ServerEndpoint) (clientId : ClientId) :
    Except ServerMessageReceiveError (Option T) × ServerEndpoint :=
  match self.defaultChannel with
  | some channel => self.receiveMessageFrom decode clientId channel
  | none => (.error .noDefaultChannel, self)

def sendMessageOn (encode : T → Except E Bytes) (self : ServerEndpoint) (clientId : ClientId)
    (channelId : ChannelId) (message : T) : Except ServerMessageSendError Unit × ServerEndpoint :=
  match encode message with
  | .ok payload =>
    let (r, self) := self.sendPayloadOn clientId channelId payload
    (r.mapError .sendError, self)
  | .error _ => (.error .serialization, self)

def sendMessage (encode : T → Except E Bytes) (self : ServerEndpoint) (clientId : ClientId)
    (message : T) : Except ServerMessageSendError Unit × ServerEndpoint :=
  match self.defaultChannel with
  | some channel => self.sendMessageOn encode clientId channel message
  | none => (.error .noDefaultChannel, self)

def sendGroupMessage (encode : T → Except E Bytes) (self : ServerEndpoint) (clientIds : List ClientId)
    (message : T) : Except ServerGroupMessageSendError Unit × ServerEndpoint :=
  match self.defaultChannel with
  | some channel => self.sendGroupMessageOn encode clientIds channel message
  | none => (.error .noDefaultChannel, self)

def broadcastMessageOn (encode : T → Except E Bytes) (self : ServerEndpoint) (order : List ClientId)
    (channelId : ChannelId) (message : T) : Except ServerGroupMessageSendError Unit × ServerEndpoint :=
  match encode message with
  | .ok payload =>
    let (r, self) := self.broadcastPayloadOn order channelId payload
    (r.mapError .groupSendError, self)
  | .error _ => (.error .serialization, self)

def broadcastMessage (encode : T → Except E Bytes) (self : ServerEndpoint) (order : List ClientId)
    (message : T) : Except ServerGroupMessageSendError Unit × ServerEndpoint :=
  match self.defaultChannel with
  | some channel => self.broadcastMessageOn encode order channel message
  | none => (.error .noDefaultChannel, self)

/-- A call that sends a message on this channel to a client with this connection, once, and maybe to
others. -/
inductive SendsMessage (encode : T → Except E Bytes) :
    ServerSideConnection → ChannelId → T → Bool → ServerSideConnection → Prop
  | one {self : ServerEndpoint} {k : ClientId} {id : ChannelId} {message : T}
      {c c' : ServerSideConnection} {r : Except ServerMessageSendError Unit} {self' : ServerEndpoint}
      (h : self.sendMessageOn encode k id message = (r, self') ∨
        self.defaultChannel = some id ∧ self.sendMessage encode k message = (r, self'))
      (hc : self.clients.lookup k = some c) (hc' : self'.clients.lookup k = some c') :
      SendsMessage encode c id message r.isOk c'
  | group {self : ServerEndpoint} {ids : List ClientId} {k : ClientId} {id : ChannelId} {message : T}
      {c c' : ServerSideConnection} {r : Except ServerGroupMessageSendError Unit}
      {self' : ServerEndpoint} (hk : ids.count k = 1)
      (h : self.sendGroupMessageOn encode ids id message = (r, self') ∨
        self.defaultChannel = some id ∧ self.sendGroupMessage encode ids message = (r, self'))
      (hc : self.clients.lookup k = some c) (hc' : self'.clients.lookup k = some c') :
      SendsMessage encode c id message (ServerGroupMessageSendError.accepted k r) c'
  | broadcast {self : ServerEndpoint} {order : List ClientId} {k : ClientId} {id : ChannelId}
      {message : T} {c c' : ServerSideConnection} {r : Except ServerGroupMessageSendError Unit}
      {self' : ServerEndpoint} (horder : self.clients.IsOrder order)
      (h : self.broadcastMessageOn encode order id message = (r, self') ∨
        self.defaultChannel = some id ∧ self.broadcastMessage encode order message = (r, self'))
      (hc : self.clients.lookup k = some c) (hc' : self'.clients.lookup k = some c') :
      SendsMessage encode c id message (ServerGroupMessageSendError.accepted k r) c'

/-- A call that reads a message of a client with this connection on this channel. -/
inductive ReceivesMessage (decode : Bytes → Except D (T × ℕ)) :
    ServerSideConnection → ChannelId → Option (Option T) → ServerSideConnection → Prop
  | on {self : ServerEndpoint} {k : ClientId} {id : ChannelId} {c c' : ServerSideConnection}
      {r : Except ServerMessageReceiveError (Option T)} {self' : ServerEndpoint}
      (h : self.receiveMessageFrom decode k id = (r, self') ∨
        self.defaultChannel = some id ∧ self.receiveMessage decode k = (r, self'))
      (hc : self.clients.lookup k = some c) (hc' : self'.clients.lookup k = some c') :
      ReceivesMessage decode c id (ServerMessageReceiveError.outcome r) c'

def messageCalls (codec : MessageCodec T E D) : MessageCalls ServerConnection T where
  Sends := SendsMessage codec.encode
  Receives := ReceivesMessage codec.decode

/-! ## What they do to the connection -/

theorem mapError_groupResult (errs : List (ClientId × ServerSendError)) :
    (groupResult id errs).mapError .groupSendError =
      groupResult ServerGroupMessageSendError.groupSendError errs := by
  rw [groupResult, groupResult]
  cases errs.isEmpty <;> rfl

/-- What became of a message that was sent to a client with the first connection, which has the second
one after it. -/
def SentTo (encode : T → Except E Bytes) (c : ServerSideConnection) (id : ChannelId) (message : T)
    (ok : Bool) (c' : ServerSideConnection) : Prop :=
  ok = false ∧ c' = c ∨ ∃ payload, encode message = .ok payload ∧
    c' = (c.internalSendPayload id payload).2 ∧
    (ok = true ↔ (c.internalSendPayload id payload).1 = .ok ())

variable {encode : T → Except E Bytes} {self self' : ServerEndpoint} {k : ClientId} {id : ChannelId}
  {message : T} {c c' : ServerSideConnection}

theorem sendMessageOn_of_lookup {payload : Bytes} (hc : self.clients.lookup k = some c)
    (hm : encode message = .ok payload) (id : ChannelId) :
    (self.sendMessageOn encode k id message).1.isOk = (c.internalSendPayload id payload).1.isOk ∧
      (self.sendMessageOn encode k id message).2.clients.lookup k =
        some (c.internalSendPayload id payload).2 := by
  have hanswer := (local_sendPayloadOn id payload).answer k self
  have hown := (local_sendPayloadOn id payload).own k self
  rw [hc, sendAt] at hanswer hown
  simp only [sendMessageOn, hm]
  refine ⟨?_, hown⟩
  rw [hanswer]
  rcases (c.internalSendPayload id payload).1 with e | ⟨⟨⟩⟩ <;> rfl

theorem isOk_iff {ε : Type} {r : Except ε Unit} : r.isOk = true ↔ r = .ok () := by
  rcases r with e | ⟨⟨⟩⟩ <;> simp [Except.isOk, Except.toBool]

theorem sentTo_sendMessageOn {r : Except ServerMessageSendError Unit}
    (h : self.sendMessageOn encode k id message = (r, self'))
    (hc : self.clients.lookup k = some c) (hc' : self'.clients.lookup k = some c') :
    SentTo encode c id message r.isOk c' := by
  cases hm : encode message with
  | error e =>
    rw [sendMessageOn, hm] at h
    cases h
    exact .inl ⟨rfl, Option.some.inj (hc'.symm.trans hc)⟩
  | ok payload =>
    obtain ⟨hanswer, hown⟩ := sendMessageOn_of_lookup hc hm id
    rw [h] at hanswer hown
    exact .inr ⟨payload, hm, Option.some.inj (hc'.symm.trans hown), by rw [hanswer, isOk_iff]⟩

theorem accepted_groupResult (k : ClientId) (errs : List (ClientId × ServerSendError)) :
    ServerGroupMessageSendError.accepted k (groupResult .groupSendError errs) = true ↔
      errs.filter (·.1 = k) = [] := by
  rw [groupResult]
  cases errs with
  | nil => exact ⟨fun _ ↦ rfl, fun _ ↦ rfl⟩
  | cons x errs => simp [ServerGroupMessageSendError.accepted, List.filter_eq_nil_iff]

/-- In a loop over some clients, a client that is listed once is sent the payload once. -/
theorem sentTo_attemptEach {ids : List ClientId} {payload : Bytes} (hm : encode message = .ok payload)
    (hk : ids.count k = 1) (hc : self.clients.lookup k = some c)
    (hc' : (attemptEach (fun k (self : ServerEndpoint) ↦ self.sendPayloadOn k id payload) ids
      self).2.clients.lookup k = some c') :
    SentTo encode c id message (ServerGroupMessageSendError.accepted k (groupResult .groupSendError
      (attemptEach (fun k (self : ServerEndpoint) ↦ self.sendPayloadOn k id payload) ids self).1)) c' := by
  obtain ⟨hpart, herrs⟩ := (local_sendPayloadOn id payload).attemptEach ids k self
  rw [hk, hc, repeats, sendAt] at hpart herrs
  have hafter := hpart.symm.trans hc'
  refine .inr ⟨payload, hm, ?_, (accepted_groupResult k _).trans ?_⟩
  · rcases hsend : (c.internalSendPayload id payload).1 with e | ⟨⟨⟩⟩ <;>
    · rw [hsend] at hafter
      exact (Option.some.inj hafter).symm
  · rw [herrs]
    rcases (c.internalSendPayload id payload).1 with e | ⟨⟨⟩⟩ <;> simp [Except.mapError, repeats]

theorem sentTo_sendGroupMessageOn {ids : List ClientId} {r : Except ServerGroupMessageSendError Unit}
    (hk : ids.count k = 1) (h : self.sendGroupMessageOn encode ids id message = (r, self'))
    (hc : self.clients.lookup k = some c) (hc' : self'.clients.lookup k = some c') :
    SentTo encode c id message (ServerGroupMessageSendError.accepted k r) c' := by
  rw [sendGroupMessageOn] at h
  cases hm : encode message with
  | error e =>
    rw [hm] at h
    cases h
    exact .inl ⟨rfl, Option.some.inj (hc'.symm.trans hc)⟩
  | ok payload =>
    rw [hm] at h
    cases h
    exact sentTo_attemptEach hm hk hc hc'

theorem sentTo_broadcastMessageOn {order : List ClientId} {r : Except ServerGroupMessageSendError Unit}
    (horder : self.clients.IsOrder order) (h : self.broadcastMessageOn encode order id message = (r, self'))
    (hc : self.clients.lookup k = some c) (hc' : self'.clients.lookup k = some c') :
    SentTo encode c id message (ServerGroupMessageSendError.accepted k r) c' := by
  rw [broadcastMessageOn] at h
  cases hm : encode message with
  | error e =>
    rw [hm] at h
    cases h
    exact .inl ⟨rfl, Option.some.inj (hc'.symm.trans hc)⟩
  | ok payload =>
    have hk : order.count k = 1 :=
      List.count_eq_one_of_mem horder.nodup (horder.mem_iff.2 (Finmap.mem_of_lookup_eq_some hc))
    rw [hm] at h
    simp only [self.broadcastPayloadOn_eq horder, mapError_groupResult] at h
    cases h
    have hloop : attemptEach (fun k (self : ServerEndpoint) ↦ self.sendPayloadOn k id payload) order self =
        (failures (self.sendEach order id payload).1, (self.sendEach order id payload).2) :=
      self.sendEach_eq order
    have hafter : (attemptEach (fun k (self : ServerEndpoint) ↦ self.sendPayloadOn k id payload) order
        self).2.clients.lookup k = some c' := by
      rw [hloop]
      exact hc'
    have hsent := sentTo_attemptEach hm hk hc hafter
    rwa [hloop] at hsent

theorem receiveMessageFrom_of_lookup (codec : MessageCodec T E D) (hc : self.clients.lookup k = some c)
    (id : ChannelId) :
    ServerMessageReceiveError.outcome (self.receiveMessageFrom codec.decode k id).1 =
        (c.internalReceivePayload id).1.map codec.read ∧
      (self.receiveMessageFrom codec.decode k id).2.clients.lookup k =
        some (c.internalReceivePayload id).2 := by
  rw [receiveMessageFrom, receivePayload, hc]
  simp only
  cases (c.internalReceivePayload id).1 with
  | none => exact ⟨rfl, Finmap.lookup_insert _⟩
  | some payload =>
    simp only [MessageCodec.read, Option.map_some]
    cases codec.decode payload <;> exact ⟨rfl, Finmap.lookup_insert _⟩

theorem receiveMessageFrom_cases (codec : MessageCodec T E D)
    {r : Except ServerMessageReceiveError (Option T)}
    (h : self.receiveMessageFrom codec.decode k id = (r, self'))
    (hc : self.clients.lookup k = some c) (hc' : self'.clients.lookup k = some c') :
    c' = (c.internalReceivePayload id).2 ∧
      ServerMessageReceiveError.outcome r = (c.internalReceivePayload id).1.map codec.read := by
  obtain ⟨hread, hown⟩ := receiveMessageFrom_of_lookup codec hc id
  rw [h] at hread hown
  exact ⟨Option.some.inj (hc'.symm.trans hown), hread⟩

/-- **The calls of the server do to a connection what those of a client do.** -/
theorem faithful_messageCalls (codec : MessageCodec T E D) : (messageCalls codec).Faithful codec where
  sends h := by
    cases h with
    | one h hc hc' =>
      rcases h with h | ⟨hd, h⟩
      · exact sentTo_sendMessageOn h hc hc'
      · rw [sendMessage, hd] at h
        exact sentTo_sendMessageOn h hc hc'
    | group hk h hc hc' =>
      rcases h with h | ⟨hd, h⟩
      · exact sentTo_sendGroupMessageOn hk h hc hc'
      · rw [sendGroupMessage, hd] at h
        exact sentTo_sendGroupMessageOn hk h hc hc'
    | broadcast horder h hc hc' =>
      rcases h with h | ⟨hd, h⟩
      · exact sentTo_broadcastMessageOn horder h hc hc'
      · rw [broadcastMessage, hd] at h
        exact sentTo_broadcastMessageOn horder h hc hc'
  receives h := by
    cases h with
    | on h hc hc' =>
      rcases h with h | ⟨hd, h⟩
      · exact .inr (receiveMessageFrom_cases codec h hc hc')
      · rw [receiveMessage, hd] at h
        exact .inr (receiveMessageFrom_cases codec h hc hc')

/-! ### For a client of the endpoint -/

theorem sendsMessage_of_lookup {payload : Bytes} (hc : self.clients.lookup k = some c)
    (hm : encode message = .ok payload) (id : ChannelId) :
    SendsMessage encode c id message (c.internalSendPayload id payload).1.isOk
      (c.internalSendPayload id payload).2 := by
  obtain ⟨hanswer, hown⟩ := sendMessageOn_of_lookup hc hm id
  rw [← hanswer]
  exact .one (.inl rfl) hc hown

theorem receivesMessage_of_lookup (codec : MessageCodec T E D) (hc : self.clients.lookup k = some c)
    (id : ChannelId) :
    ReceivesMessage codec.decode c id ((c.internalReceivePayload id).1.map codec.read)
      (c.internalReceivePayload id).2 := by
  obtain ⟨hread, hown⟩ := receiveMessageFrom_of_lookup codec hc id
  rw [← hread]
  exact .on (.inl rfl) hc hown

end ServerEndpoint

end BevyIroh
