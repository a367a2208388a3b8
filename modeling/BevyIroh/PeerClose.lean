import BevyIroh.Client.Receive
import BevyIroh.Server.Receive

/-!
# When the peer closes a connection

Payloads and the notification that the peer has closed the connection travel over different queues, and
two systems take them from there, in any order within a frame.  A payload that has arrived before the
notification, and even one that is in its buffer already, can be read until the notification is handled
and not after it: on the client `receive_payload` refuses a connection that is disconnected, and the
server does not know the client any more (`peer_close_ends_reading`).
-/

set_option autoImplicit false

namespace BevyIroh

open Transition

/-- **The peer's close ends reading, on both sides.**  Up to the notification all that has arrived can
be read, but for what was cleared or is reported; the notification leaves what was not read out of
reach. -/
theorem peer_close_ends_reading :
    (∀ (sharedClientId : Bool) (s₀ : Session) (r : ClientReceiving), s₀.Begins →
      Reachable (ClientReceiving.Step sharedClientId) (fun _ _ ↦ True) (.start s₀) r →
      r.ReadUntilClosed sharedClientId) ∧
    ∀ (cfg : SendChannelsConfiguration) (recvCfg : RecvChannelsConfiguration)
      (endpoint : ServerEndpoint) (r : ServerReceiving),
      startEndpoint cfg recvCfg = some (.ok (), endpoint) →
      Reachable ServerReceiving.Step (fun _ _ ↦ True) (.start endpoint) r → r.ReadUntilClosed :=
  ⟨fun _ _ _ h₀ h ↦ ClientReceiving.readUntilClosed h₀ h,
    fun _ _ _ _ h₀ h ↦ ServerReceiving.readUntilClosed h₀ h⟩

/-! ## A payload that is not read in time -/

/-- Nothing is handed out of a session that is over. -/
theorem ClientReceiving.handedOut_of_over {sharedClientId : Bool} {r r' : ClientReceiving}
    (h : r.session.Over) (hr : Reachable (Step sharedClientId) (fun _ _ ↦ True) r r') :
    r'.handedOut = r.handedOut := by
  refine (hr.invariant (P := fun r' ↦ r'.session.Over ∧ r'.handedOut = r.handedOut) ⟨h, rfl⟩
    fun {r₁ a r₂} hr₁ _ hstep ↦ ?_).2
  have htakes : r₁.TakesNoConnected a := by
    cases a with
    | session a => exact hr₁.1.takesNoConnected a
    | _ => trivial
  refine ⟨?_, (hstep.refused hr₁.1.disconnected htakes).2.trans hr₁.2⟩
  cases hstep with
  | session h => exact hr₁.1.step h
  | arrive | clear => exact ⟨hr₁.1.disconnected, hr₁.1.attempt, hr₁.1.queued⟩
  | dispatch hf hnot => exact absurd hr₁.1.disconnected hnot
  | dispatchSkipped => exact hr₁.1
  | receive c hf =>
    rw [received_of_disconnected hr₁.1.disconnected]
    exact hr₁.1

/-- A session that is connected. -/
def Session.connected : Session where
  link :=
    { conn := { ClientSideConnection.opened with
        specific.state := .connected none
        specific.fromAsyncClient.received := [.connected none] }
      spawner := .listening 0
      tasks := fun _ ↦ none }
  attempt := .ended
  watcher := .waiting
  transport := .established
  frame := .outside
  events := [.connection 0 none]

theorem reachable_connected : Reachable (ClientReceiving.Step false) (fun _ _ ↦ True)
    (.start (.start .opened [])) (.start .connected) :=
  .next (.next (.next (.next (.next (.next (.next (.next (.next .start
    trivial (.session ⟨.established rfl, by rintro ⟨⟩⟩))
    trivial (.session ⟨.spawnWatcher rfl, by rintro ⟨⟩⟩))
    trivial (.session ⟨.spawnRecv rfl, by rintro ⟨⟩⟩))
    trivial (.session ⟨.spawnSpawner rfl, by rintro ⟨⟩⟩))
    trivial (.session ⟨.signal rfl (by decide), by rintro ⟨⟩⟩))
    trivial (.session ⟨.beginFrame rfl, by rintro ⟨⟩⟩))
    trivial (.session ⟨.handleAsync true rfl rfl fun _ ↦ rfl, by rintro ⟨⟩⟩))
    trivial (.session ⟨.endAsync rfl rfl, by rintro ⟨⟩⟩))
    trivial (.session ⟨.endFrame rfl rfl, by rintro ⟨⟩⟩)

/-- A server that has let in a client, in the middle of its handler. -/
def ServerSystem.joined : ServerSystem :=
  ({ start { ServerEndpoint.started with
      fromAsyncEndpoint.received := [.clientConnected ServerEndpoint.newConnection] } with
    phase := .messages } : ServerSystem).handleMessage [0] true
      (.clientConnected ServerEndpoint.newConnection)

/-- The same, with no payload received. -/
def ServerReceiving.joined : ServerReceiving := { start .started with system := .joined }

theorem reachable_joined : Reachable ServerReceiving.Step (fun _ _ ↦ True)
    (.start ServerEndpoint.started) .joined := by
  let queued : ServerEndpoint := { ServerEndpoint.started with
    fromAsyncEndpoint.queued := [.clientConnected ServerEndpoint.newConnection] }
  have hqueued : ServerSystem.Step (.start .started) .tasks (.start queued) := .tasks ⟨.rfl, rfl⟩
  have hjoined : ServerSystem.Step { ServerSystem.start queued with phase := .messages }
      (.message (.clientConnected ServerEndpoint.newConnection)) .joined :=
    .message true rfl rfl ServerEndpoint.isOrder_started (by decide)
  exact .next (.next (.next .start trivial (.system hqueued (.rfl PeerConnection.SameReceived.refl)))
    trivial (.system (.begin rfl) trivial)) trivial (.system hjoined ⟨rfl, rfl, rfl⟩)

/-- A client that is connected, with one payload waiting, and a server that has let one in. -/
theorem peer_close_ends_reading_joined :
    ClientReceiving.ReadUntilClosed false
      (.withConn (.start .connected) (PeerConnection.arrive Session.connected.conn (0, [7]))) ∧
    ServerReceiving.joined.ReadUntilClosed :=
  ⟨peer_close_ends_reading.1 false _ _ (.opened ClientSideConnection.openConnection_opened)
      (reachable_connected.next trivial (.arrive _ (0, [7]))),
    peer_close_ends_reading.2 _ _ _ _ ServerEndpoint.startEndpoint_default reachable_joined⟩

/-- The end of a client uses up no id. -/
theorem ServerSystem.step_closed {s : ServerSystem} {q : Mpsc ServerAsyncMessage}
    {order : List ChannelId} {id : ClientId} (receivers : Bool) (hp : s.phase = .messages)
    (hq : s.endpoint.fromAsyncEndpoint.recv = some (.clientConnectionClosed id, q))
    (ho : s.endpoint.openedChannels.IsOrder order) : Step s (.message (.clientConnectionClosed id))
      ((s.withEndpoint { s.endpoint with fromAsyncEndpoint := q }).handleMessage order receivers
        (.clientConnectionClosed id)) := by
  have hgen := (ServerEndpoint.internalDisconnectClient_clients
    { s.endpoint with fromAsyncEndpoint := q } id receivers .peerClosed).2
  refine .message receivers hp hq ho ?_
  rw [handleMessage]
  split_ifs
  · exact Nat.le_of_eq hgen.symm
  · exact Nat.le_refl _

/-- A client's payload that is dispatched before the notification arrives, and a server's that is not:
when the notification has been handled, neither can be read. -/
theorem close_discards_unread :
    (∃ r₁ r₂ : ClientReceiving,
      Reachable (ClientReceiving.Step false) (fun _ _ ↦ True) (.start (.start .opened [])) r₁ ∧
      Reachable (ClientReceiving.Step false) (fun _ _ ↦ True) r₁ r₂ ∧
      r₁.conn.bytesFromPeer.sent = [(0, [7])] ∧
      .connectionClosed ∉ r₁.conn.specific.fromAsyncClient.sent ∧
      .connectionClosed ∈ r₂.conn.specific.fromAsyncClient.received ∧
      r₂.errs = [] ∧ (∀ c, r₂.cleared c = []) ∧ r₂.conn.buffer 0 = [[7]] ∧
      ∀ r', Reachable (ClientReceiving.Step false) (fun _ _ ↦ True) r₂ r' → r'.handedOut 0 = []) ∧
    ∃ r₁ r₂ : ServerReceiving,
      Reachable ServerReceiving.Step (fun _ _ ↦ True) (.start ServerEndpoint.started) r₁ ∧
      Reachable ServerReceiving.Step (fun _ _ ↦ True) r₁ r₂ ∧
      (r₁.clients.lookup 1).map (fun conn ↦ conn.bytesFromPeer.sent) = some [(0, [7])] ∧
      (.clientConnectionClosed 1 ∉ r₁.system.endpoint.fromAsyncEndpoint.sent) ∧
      (.clientConnectionClosed 1 ∈ r₂.system.endpoint.fromAsyncEndpoint.received) ∧
      r₂.errs 1 = [] ∧ (∀ c, r₂.cleared 1 c = []) ∧
      ∀ r', Reachable ServerReceiving.Step (fun _ _ ↦ True) r₂ r' → r'.handedOut 1 0 = [] := by
  constructor
  · let r₁ := ClientReceiving.withConn (.start .connected)
      (PeerConnection.arrive Session.connected.conn (0, [7]))
    have h₁ : Reachable (ClientReceiving.Step false) (fun _ _ ↦ True) (.start (.start .opened [])) r₁ :=
      reachable_connected.next trivial (.arrive _ (0, [7]))
    have h₂ : Reachable (ClientReceiving.Step false) (fun _ _ ↦ True) r₁ _ :=
      .next (.next (.next (.next (.next (.next .start
        trivial (ClientReceiving.step_dispatchReceivedPayloads rfl))
        trivial (.session ⟨.peerClose rfl, by rintro ⟨⟩⟩))
        trivial (.session ⟨.transportClosed rfl rfl, by rintro ⟨⟩⟩))
        trivial (.session ⟨.watcherSignal rfl (by decide), by rintro ⟨⟩⟩))
        trivial (.session ⟨.beginFrame rfl, by rintro ⟨⟩⟩))
        trivial (.session ⟨.handleAsync true rfl rfl fun _ ↦ rfl, by rintro ⟨⟩⟩)
    refine ⟨r₁, _, h₁, h₂, rfl, by decide, by decide, rfl, fun _ ↦ rfl, rfl, fun r' hr' ↦ ?_⟩
    refine (congrFun (ClientReceiving.handedOut_of_over ?_ hr') 0).trans rfl
    exact ⟨rfl, rfl, by decide⟩
  · obtain ⟨conn, hc, hsent⟩ : ∃ conn, ServerReceiving.joined.clients.lookup 1 = some conn ∧
        conn.bytesFromPeer.sent = [] := ⟨_, rfl, rfl⟩
    let r₁ := ServerReceiving.joined.withView 1
      { ServerReceiving.joined.view 1 conn with conn := conn.arrive (0, [7]) }
    have h₁ : Reachable ServerReceiving.Step (fun _ _ ↦ True) (.start ServerEndpoint.started) r₁ :=
      reachable_joined.next trivial (.arrive (0, [7]) hc)
    let queued : ServerSystem := r₁.system.withEndpoint { r₁.system.endpoint with
      fromAsyncEndpoint := r₁.system.endpoint.fromAsyncEndpoint.push (.clientConnectionClosed 1) }
    have hqueued : ServerSystem.Step r₁.system .tasks queued := .tasks ⟨.rfl, rfl⟩
    have ho : queued.endpoint.openedChannels.IsOrder [0] := ServerEndpoint.isOrder_started
    have hclosed : ServerSystem.Step queued (.message (.clientConnectionClosed 1)) _ :=
      ServerSystem.step_closed true rfl rfl ho
    have h₂ : Reachable ServerReceiving.Step (fun _ _ ↦ True) r₁ _ :=
      .next (.next .start trivial (.system hqueued (.rfl PeerConnection.SameReceived.refl)))
        trivial (.system hclosed trivial)
    have hsent₁ : r₁.system.endpoint.fromAsyncEndpoint.sent =
        [.clientConnected ServerEndpoint.newConnection] := rfl
    refine ⟨r₁, _, h₁, h₂, ?_, ?_, ?_, rfl, fun _ ↦ rfl, fun r' hr' ↦ ?_⟩
    · rw [ServerReceiving.lookup_withView, if_pos rfl]
      exact congrArg some ((Mpsc.sent_push _ _).trans (congrArg (· ++ [(0, [7])]) hsent))
    · rw [hsent₁]
      simp
    · exact List.mem_append_right _ (List.mem_singleton.2 rfl)
    · have hgone := (ServerReceiving.readUntilClosed ServerEndpoint.startEndpoint_default
        (h₁.next trivial (.system hqueued (.rfl PeerConnection.SameReceived.refl)))).closed 1 _
        (.system hclosed trivial)
      refine (congrFun (ServerReceiving.Departed.reachable (k := 1) ?_ hr').2 0).trans rfl
      exact ⟨hclosed.clients.1, hgone.1⟩

end BevyIroh
