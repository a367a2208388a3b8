import BevyIroh.Client.Receive
import BevyIroh.Shared.Messages

/-!
# Messages on the client

The calls of `ClientSideConnection` that send and read messages of a type.  `messageCalls` puts them
together: `send_message_on`, `receive_message_on`, and their variants on the default channel.
-/

set_option autoImplicit false

namespace BevyIroh

open PeerConnection

/-! ## Errors -/

/-- Error when sending a message to be serialized from the client. -/
inductive ClientMessageSendError where
  | serialization
  | noDefaultChannel
  | sendError (err : ClientSendError)
deriving DecidableEq, Repr

/-- Error while receiving a message on the client. -/
inductive ClientMessageReceiveError where
  | deserialization
  | noDefaultChannel
  | connectionClosed (err : ConnectionClosed)
deriving DecidableEq, Repr

namespace ClientMessageReceiveError

/-- What a call has read: `some none` is a payload that is not a message. -/
def outcome {T : Type} : Except ClientMessageReceiveError (Option T) → Option (Option T)
  | .ok message => message.map some
  | .error .deserialization => some none
  | .error _ => none

end ClientMessageReceiveError

/-! ## Calls -/

namespace ClientSideConnection

variable {T E D : Type}

def sendMessageOn (encode : T → Except E Bytes) (self : ClientSideConnection) (channelId : ChannelId)
    (message : T) : Except ClientMessageSendError Unit × ClientSideConnection :=
  match encode message with
  | .ok payload =>
    let (r, self) := self.sendPayloadOn channelId payload
    (r.mapError .sendError, self)
  | .error _ => (.error .serialization, self)

def sendMessage (encode : T → Except E Bytes) (self : ClientSideConnection) (message : T) :
    Except ClientMessageSendError Unit × ClientSideConnection :=
  match self.defaultChannel with
  | some channel => sendMessageOn encode self channel message
  | none => (.error .noDefaultChannel, self)

def receiveMessageOn (decode : Bytes → Except D (T × ℕ)) (self : ClientSideConnection)
    (channelId : ChannelId) : Except ClientMessageReceiveError (Option T) × ClientSideConnection :=
  match self.receivePayload channelId with
  | (.error e, self) => (.error (.connectionClosed e), self)
  | (.ok (some payload), self) =>
    match decode payload with
    | .ok (msg, _) => (.ok (some msg), self)
    | .error _ => (.error .deserialization, self)
  | (.ok none, self) => (.ok none, self)

def receiveMessage (decode : Bytes → Except D (T × ℕ)) (self : ClientSideConnection) :
    Except ClientMessageReceiveError (Option T) × ClientSideConnection :=
  match self.defaultChannel with
  | some channel => receiveMessageOn decode self channel
  | none => (.error .noDefaultChannel, self)

/-- A call that sends a message on this channel. -/
inductive SendsMessage (encode : T → Except E Bytes) :
    ClientSideConnection → ChannelId → T → Bool → ClientSideConnection → Prop
  | on (self : ClientSideConnection) (id : ChannelId) (message : T) :
      SendsMessage encode self id message (sendMessageOn encode self id message).1.isOk
        (sendMessageOn encode self id message).2
  | default {self : ClientSideConnection} {id : ChannelId} (message : T)
      (h : self.defaultChannel = some id) :
      SendsMessage encode self id message (sendMessage encode self message).1.isOk
        (sendMessage encode self message).2

/-- A call that reads a message on this channel. -/
inductive ReceivesMessage (decode : Bytes → Except D (T × ℕ)) :
    ClientSideConnection → ChannelId → Option (Option T) → ClientSideConnection → Prop
  | on (self : ClientSideConnection) (id : ChannelId) :
      ReceivesMessage decode self id (ClientMessageReceiveError.outcome (receiveMessageOn decode self id).1)
        (receiveMessageOn decode self id).2
  | default {self : ClientSideConnection} {id : ChannelId} (h : self.defaultChannel = some id) :
      ReceivesMessage decode self id (ClientMessageReceiveError.outcome (receiveMessage decode self).1)
        (receiveMessage decode self).2

def messageCalls (codec : MessageCodec T E D) : MessageCalls ClientConnection T where
  Sends := SendsMessage codec.encode
  Receives := ReceivesMessage codec.decode

/-! ## What they do to the connection -/

variable {codec : MessageCodec T E D} {self : ClientSideConnection}

theorem sendMessageOn_cases (encode : T → Except E Bytes) (self : ClientSideConnection) (id : ChannelId)
    (message : T) :
    (sendMessageOn encode self id message).1.isOk = false ∧
        (sendMessageOn encode self id message).2 = self ∨
      ∃ payload, encode message = .ok payload ∧
        (sendMessageOn encode self id message).2 = (self.internalSendPayload id payload).2 ∧
        ((sendMessageOn encode self id message).1.isOk = true ↔
          (self.internalSendPayload id payload).1 = .ok ()) := by
  rw [sendMessageOn]
  cases hm : encode message with
  | error e => exact .inl ⟨rfl, rfl⟩
  | ok payload =>
    simp only
    rcases self.sendPayloadOn_cases id payload with ⟨hne, heq⟩ | ⟨hiff, heq⟩
    · refine .inl ⟨?_, heq⟩
      rcases hr : (self.sendPayloadOn id payload).1 with e | ⟨⟨⟩⟩
      · rfl
      · exact absurd hr hne
    · refine .inr ⟨payload, rfl, heq, ?_⟩
      rw [← hiff]
      rcases hr : (self.sendPayloadOn id payload).1 with e | ⟨⟨⟩⟩ <;>
        simp [Except.mapError, Except.isOk, Except.toBool]

theorem receiveMessageOn_of_not_disconnected (codec : MessageCodec T E D)
    (h : self.specific.state ≠ .disconnected) (id : ChannelId) :
    (receiveMessageOn codec.decode self id).2 = (self.internalReceivePayload id).2 ∧
      ClientMessageReceiveError.outcome (receiveMessageOn codec.decode self id).1 =
        (self.internalReceivePayload id).1.map codec.read := by
  rw [receiveMessageOn, receivePayload_of_not_disconnected h]
  cases (self.internalReceivePayload id).1 with
  | none => exact ⟨rfl, rfl⟩
  | some payload =>
    simp only [MessageCodec.read, Option.map_some]
    cases codec.decode payload <;> exact ⟨rfl, rfl⟩

theorem receiveMessageOn_cases (codec : MessageCodec T E D) (self : ClientSideConnection)
    (id : ChannelId) :
    ClientMessageReceiveError.outcome (receiveMessageOn codec.decode self id).1 = none ∧
        (receiveMessageOn codec.decode self id).2 = self ∨
      (receiveMessageOn codec.decode self id).2 = (self.internalReceivePayload id).2 ∧
        ClientMessageReceiveError.outcome (receiveMessageOn codec.decode self id).1 =
          (self.internalReceivePayload id).1.map codec.read := by
  by_cases hs : self.specific.state = .disconnected
  · rw [receiveMessageOn, receivePayload_of_disconnected hs]
    exact .inl ⟨rfl, rfl⟩
  · exact .inr (receiveMessageOn_of_not_disconnected codec hs id)

theorem faithful_messageCalls (codec : MessageCodec T E D) : (messageCalls codec).Faithful codec where
  sends h := by
    cases h with
    | on => exact sendMessageOn_cases codec.encode _ _ _
    | default hd =>
      rw [sendMessage, hd]
      exact sendMessageOn_cases codec.encode _ _ _
  receives h := by
    cases h with
    | on => exact receiveMessageOn_cases codec _ _
    | default hd =>
      rw [receiveMessage, hd]
      exact receiveMessageOn_cases codec _ _

/-! ### On a connection that is not disconnected -/

theorem sendsMessage_of_not_disconnected {encode : T → Except E Bytes} {message : T} {payload : Bytes}
    (h : self.specific.state ≠ .disconnected) (hm : encode message = .ok payload) (id : ChannelId) :
    SendsMessage encode self id message (self.internalSendPayload id payload).1.isOk
      (self.internalSendPayload id payload).2 := by
  have hcall : (sendMessageOn encode self id message).1.isOk =
        (self.internalSendPayload id payload).1.isOk ∧
      (sendMessageOn encode self id message).2 = (self.internalSendPayload id payload).2 := by
    cases hs : self.specific.state with
    | disconnected => exact absurd hs h
    | _ =>
      simp only [sendMessageOn, hm, sendPayloadOn, hs]
      rcases self.internalSendPayload id payload with ⟨e | ⟨⟨⟩⟩, conn⟩ <;> exact ⟨rfl, rfl⟩
  rw [← hcall.1, ← hcall.2]
  exact .on self id message

theorem receivesMessage_of_not_disconnected (codec : MessageCodec T E D)
    (h : self.specific.state ≠ .disconnected) (id : ChannelId) :
    ReceivesMessage codec.decode self id ((self.internalReceivePayload id).1.map codec.read)
      (self.internalReceivePayload id).2 := by
  obtain ⟨hconn, hread⟩ := receiveMessageOn_of_not_disconnected codec h id
  rw [← hconn, ← hread]
  exact .on self id

end ClientSideConnection

end BevyIroh
