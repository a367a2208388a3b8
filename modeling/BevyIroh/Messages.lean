import BevyIroh.Client.Messages
import BevyIroh.Server.Messages

/-!
# Messages between a client and a server

One end of a conversation (`BevyIroh.Shared.Conversation`) is a client and the other one the connection
that a server has for it.  Messages of a type go either way, and the two ways are the same, as the calls
of both sides are faithful (`BevyIroh.Shared.Messages`).
-/

set_option autoImplicit false

namespace BevyIroh

open Transition

/-- **What is heard was said.**  A client and a server use a channel for messages of a type, and whatever
else they do, whatever the tasks at both ends do, and in whatever order: no call that reads a message
fails to deserialize it, and the messages that were read are messages that the other side had accepted,
in the order in which they were accepted and each of them once.  If no payload of the channel was
dropped for want of room or cleared, none is missing between them.  A message to the server is the same
as a message to a client, whether it is sent to one client, to a group, or to all. -/
theorem messages_in_order {T E D : Type} {codec : MessageCodec T E D} (hcodec : codec.RoundTrip)
    (id : ChannelId) (client : ClientConnection) (server : ServerConnection)
    (clientCfg serverCfg : RecvChannelsConfiguration) :
    (∀ c, Reachable (Chat.Step (ClientSideConnection.messageCalls codec)
        (ServerEndpoint.messageCalls codec) codec id) (Chat.Orderly codec id)
        (.start client clientCfg server serverCfg) c → c.HeardInOrder id) ∧
      ∀ c, Reachable (Chat.Step (ServerEndpoint.messageCalls codec)
        (ClientSideConnection.messageCalls codec) codec id) (Chat.Orderly codec id)
        (.start server serverCfg client clientCfg) c → c.HeardInOrder id := by
  have hclient := ClientSideConnection.faithful_messageCalls codec
  have hserver := ServerEndpoint.faithful_messageCalls codec
  refine ⟨fun c hc ↦ ?_, fun c hc ↦ ?_⟩
  · exact Chat.heardInOrder_of_reachable hcodec hclient hserver hc
  · exact Chat.heardInOrder_of_reachable hcodec hserver hclient hc

/-! ## One message each way -/

/-- A byte is serialized to itself. -/
def byteCodec : MessageCodec U8 Unit Unit where
  encode b := .ok [b]
  decode
    | b :: _ => .ok (b, 1)
    | [] => .error ()

theorem byteCodec_roundTrip : byteCodec.RoundTrip := by
  rintro b payload ⟨⟩
  exact ⟨1, rfl⟩

/-- An endpoint with one client. -/
def endpointOf (conn : ServerSideConnection) : ServerEndpoint :=
  { ServerEndpoint.new { capacity := 1 } { capacity := 1 } {} with
    clients := Finmap.insert 1 conn ∅ }

theorem lookup_endpointOf (conn : ServerSideConnection) :
    (endpointOf conn).clients.lookup 1 = some conn := Finmap.lookup_insert _

/-- What was said was heard, both ways. -/
theorem messages_in_order_heard : ∃ (client : ClientConnection) (server : ServerConnection),
    (∃ c, Reachable (Chat.Step (ClientSideConnection.messageCalls byteCodec)
        (ServerEndpoint.messageCalls byteCodec) byteCodec 0) (Chat.Orderly byteCodec 0)
        (.start client {} server {}) c ∧ c.said = [7] ∧ c.heard = [some 7] ∧ c.HeardInOrder 0) ∧
      ∃ c, Reachable (Chat.Step (ServerEndpoint.messageCalls byteCodec)
        (ClientSideConnection.messageCalls byteCodec) byteCodec 0) (Chat.Orderly byteCodec 0)
        (.start server {} client {}) c ∧ c.said = [9] ∧ c.heard = [some 9] ∧ c.HeardInOrder 0 := by
  let client : ClientConnection := .new 0 .new { capacity := 1 }
  let server : ServerConnection := ⟨{ capacity := 1 }⟩
  have hconnecting : ∀ conn : ClientSideConnection, conn.specific = client →
      conn.specific.state ≠ .disconnected := by
    intro conn hconn
    rw [hconn]
    simp [client, ClientConnection.new]
  let clientCalls := ClientSideConnection.messageCalls byteCodec
  let serverCalls := ServerEndpoint.messageCalls byteCodec
  have hencode : ∀ b, byteCodec.encode b = .ok [b] := fun _ ↦ rfl
  have horder := messages_in_order byteCodec_roundTrip 0 client server {} {}
  refine ⟨client, server, ?_, ?_⟩
  · obtain ⟨c, hc, -, hsaid, hheard⟩ := Chat.exists_heard clientCalls serverCalls byteCodec client server
      (hencode 7)
      (fun conn hconn ↦ ClientSideConnection.sendsMessage_of_not_disconnected (hconnecting conn hconn)
        (hencode 7) 0)
      fun conn _ ↦ ServerEndpoint.receivesMessage_of_lookup byteCodec (lookup_endpointOf conn) 0
    exact ⟨c, hc, hsaid, hheard, horder.1 c hc⟩
  · obtain ⟨c, hc, -, hsaid, hheard⟩ := Chat.exists_heard serverCalls clientCalls byteCodec server client
      (hencode 9)
      (fun conn _ ↦ ServerEndpoint.sendsMessage_of_lookup (lookup_endpointOf conn) (hencode 9) 0)
      fun conn hconn ↦ ClientSideConnection.receivesMessage_of_not_disconnected byteCodec
        (hconnecting conn hconn) 0
    exact ⟨c, hc, hsaid, hheard, horder.2 c hc⟩

end BevyIroh
