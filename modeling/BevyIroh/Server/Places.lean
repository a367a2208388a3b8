import BevyIroh.Server.Tasks

/-!
# The endpoint and the places of its connections

The operations of `ServerSessions` are those of `ServerEndpoint`, on connections that the tasks go on
using.  An endpoint that has for each client the connection at the client's place (`Loads`) has it
afterwards, too, and answers the same, as long as no two clients share a place.

What the endpoint does with a connection apart from closing it leaves alone what the removal of the
connection rests on (`Uses`).
-/

set_option autoImplicit false

namespace BevyIroh

namespace ServerSession

/-- The answer for a connection that has got its channels, and is `conn` with them. -/
def answered (s : ServerSession) (conn : ServerSideConnection) (clientId : ClientId) : ServerSession :=
  (s.withConn conn).withToConnection
    (s.conn.specific.toConnectionSend.push (.clientConnectedAck clientId))

theorem sent_answered (s : ServerSession) (conn : ServerSideConnection) (clientId : ClientId) :
    (s.answered conn clientId).conn.specific.toConnectionSend.sent =
      s.conn.specific.toConnectionSend.sent ++ [.clientConnectedAck clientId] :=
  Mpsc.sent_push _ _

end ServerSession

namespace ServerSessions

/-! ## What the endpoint does with a connection -/

theorem Uses.refl (c : ServerSideConnection) : Uses c c := ⟨rfl, rfl, rfl⟩

theorem Uses.trans {c c' c'' : ServerSideConnection} (h : Uses c c') (h' : Uses c' c'') :
    Uses c c'' :=
  ⟨h'.specific.trans h.specific, h'.closeSend.trans h.closeSend, h'.fromChannels.trans h.fromChannels⟩

theorem uses_createUnregisteredConnectionChannel (c : ServerSideConnection) (id : ChannelId)
    (config : ChannelConfig) : Uses c (c.createUnregisteredConnectionChannel id config).2 := by
  rw [PeerConnection.createUnregisteredConnectionChannel]
  split <;> exact ⟨rfl, rfl, rfl⟩

theorem uses_registerConnectionChannel (c : ServerSideConnection) (channel : Channel) :
    Uses c (c.registerConnectionChannel channel) := by
  rw [PeerConnection.registerConnectionChannel]
  split <;> exact ⟨rfl, rfl, rfl⟩

theorem uses_createConnectionChannel (c : ServerSideConnection) (id : ChannelId)
    (config : ChannelConfig) : Uses c (c.createConnectionChannel id config).2 := by
  have h := uses_createUnregisteredConnectionChannel c id config
  rw [PeerConnection.createConnectionChannel]
  split <;> rename_i heq <;> rw [heq] at h
  · exact h.trans (uses_registerConnectionChannel _ _)
  · exact h

theorem uses_internalCloseChannel (c : ServerSideConnection) (id : ChannelId) :
    Uses c (c.internalCloseChannel id).2 := by
  rw [PeerConnection.internalCloseChannel]
  split
  · simp only
    split <;> exact ⟨rfl, rfl, rfl⟩
  all_goals exact .refl c

theorem uses_internalSendPayload (c : ServerSideConnection) (id : ChannelId) (payload : Bytes) :
    Uses c (c.internalSendPayload id payload).2 := by
  rw [PeerConnection.internalSendPayload]
  split
  · simp only
    split <;> exact ⟨rfl, rfl, rfl⟩
  all_goals exact .refl c

theorem uses_recvFromChannels {c : ServerSideConnection} {m : ChannelAsyncMessage}
    {q : Mpsc ChannelAsyncMessage} (h : c.fromChannels.recv = some (m, q)) :
    Uses c { c with fromChannels := q } := by
  obtain ⟨rest, -, rfl⟩ := Mpsc.recv_eq_some.1 h
  exact ⟨rfl, rfl, rfl⟩

theorem uses_createConnectionChannels (channels : List (ChannelId × ChannelConfig))
    (c : ServerSideConnection) : Uses c (ServerEndpoint.createConnectionChannels channels c).2 := by
  induction channels generalizing c with
  | nil => exact .refl c
  | cons x channels ih =>
    have huses := uses_createConnectionChannel c x.1 x.2
    rw [ServerEndpoint.createConnectionChannels]
    split <;> rename_i heq <;> rw [heq] at huses
    · exact huses.trans (ih _)
    · exact huses

/-- There is room for as many requests as there are ids. -/
theorem createConnectionChannels_ok (channels : List (ChannelId × ChannelConfig))
    {c : ServerSideConnection} (hreceiver : c.toChannels.receiver = true)
    (hroom : c.toChannels.queued.length + channels.length ≤ c.toChannels.capacity) :
    ∃ c', ServerEndpoint.createConnectionChannels channels c = (.ok (), c') ∧ Uses c c' := by
  induction channels generalizing c with
  | nil => exact ⟨c, rfl, .refl c⟩
  | cons x channels ih =>
    rw [List.length_cons] at hroom
    have hready : c.toChannels.Ready := ⟨hreceiver, by omega⟩
    have hto := (PeerConnection.createConnectionChannel_of_ready (i := x.1) hready x.2).1
    have huses := uses_createConnectionChannel c x.1 x.2
    have hok := (PeerConnection.createConnectionChannel_eq_ok (i := x.1) x.2).2 hready
    rcases hc : c.createConnectionChannel x.1 x.2 with ⟨r, d⟩
    rw [hc] at hto huses hok
    obtain rfl : r = .ok () := hok
    have hto' : d.toChannels = c.toChannels.push (.createChannel x.1 x.2 c.created) := hto
    obtain ⟨c', hc', huses'⟩ := ih (c := d) (by rw [hto']; exact hreceiver) (by
      rw [hto', Mpsc.push, List.length_append, List.length_singleton]
      show c.toChannels.queued.length + 1 + channels.length ≤ c.toChannels.capacity
      omega)
    refine ⟨c', ?_, huses.trans huses'⟩
    rw [ServerEndpoint.createConnectionChannels, hc]
    exact hc'

/-! ## The operations on the endpoint -/

variable {s : ServerSessions} {e : ServerEndpoint} {n : ℕ}

theorem conns_withSession (s : ServerSessions) (n : ℕ) (t : ServerSession) (m : ℕ) :
    (s.withSession n t).conns m = if m = n then t else s.conns m := Function.update_apply ..

theorem forall_withSession {P : ℕ → ServerSession → Prop} {t : ServerSession} (hn : P n t)
    (hs : ∀ m, m ≠ n → P m (s.conns m)) (m : ℕ) : P m ((s.withSession n t).conns m) := by
  rw [conns_withSession]
  split_ifs with hmn
  · exact hmn ▸ hn
  · exact hs m hmn

theorem remove_of_some {clientId : ClientId} (h : s.clients.lookup clientId = some n)
    (receivers : Bool) (reason : CloseReason) : s.remove clientId receivers reason =
      { s.withSession n ((s.conns n).close receivers reason) with
        clients := s.clients.erase clientId } := by
  rw [remove, h]

/-- A connection that goes out of scope stays the same for now, and neither the queue nor the counter of
ids matters. -/
theorem replace_eq (s : ServerSessions) (clientId clientIdGen : ClientId) (q : Mpsc EndpointMessage) :
    ∃ conns, (∀ n, (conns n).conn = (s.conns n).conn) ∧ s.replace clientId = { s with conns } ∧
      replace { s with fromAsyncEndpoint := q, clientIdGen } clientId =
        { s with fromAsyncEndpoint := q, clientIdGen, conns } := by
  simp only [ServerSessions.replace]
  split
  · refine ⟨_, fun m ↦ ?_, rfl, rfl⟩
    rw [Function.update_apply]
    split_ifs with hm
    · rw [hm]
      rfl
    · rfl
  · exact ⟨s.conns, fun _ ↦ rfl, rfl, rfl⟩

/-- The connection becomes a client under the next id, which is its answer. -/
def withNextClient (s : ServerSessions) (n : ℕ) (c : ServerSideConnection) : ServerSessions :=
  { (replace { s with clientIdGen := (s.clientIdGen + 1) % 2 ^ 64 }
        ((s.clientIdGen + 1) % 2 ^ 64)).withSession n
      ((s.conns n).answered c ((s.clientIdGen + 1) % 2 ^ 64)) with
    clients := s.clients.insert ((s.clientIdGen + 1) % 2 ^ 64) n
    stats.connectCount := (s.stats.connectCount + 1) % 2 ^ 32 }

theorem handleNewConnection_of_ready {order : List ChannelId} {c : ServerSideConnection}
    (hc : ServerEndpoint.createConnectionChannels (s.openedChannels.entriesIn order) (s.conns n).conn =
      (.ok (), c)) (hready : (s.conns n).conn.specific.toConnectionSend.Ready) (receivers : Bool) :
    s.handleNewConnection order receivers n =
      (.ok ((s.clientIdGen + 1) % 2 ^ 64), s.withNextClient n c) := by
  have huses := uses_createConnectionChannels (s.openedChannels.entriesIn order) (s.conns n).conn
  rw [hc] at huses
  have hspecific : c.specific = (s.conns n).conn.specific := huses.specific
  rw [handleNewConnection, hc]
  simp only [hspecific, Mpsc.trySend_of_ready hready]
  rfl

/-- The endpoint has the connections that are at the places of its clients. -/
structure Loads (s : ServerSessions) (e : ServerEndpoint) : Prop where
  clients : ∀ k, e.clients.lookup k = (s.clients.lookup k).map fun n ↦ (s.conns n).conn
  clientIdGen : e.clientIdGen = s.clientIdGen
  openedChannels : e.openedChannels = s.openedChannels
  stats : e.stats = s.stats

/-- No two clients have the same place. -/
def Injective (s : ServerSessions) : Prop :=
  ∀ k k' n, s.clients.lookup k = some n → s.clients.lookup k' = some n → k = k'

theorem Loads.internalDisconnectClient (h : s.Loads e) (hinj : s.Injective) (clientId : ClientId)
    (receivers : Bool) (reason : CloseReason) :
    (s.internalDisconnectClient clientId receivers reason).1 =
        (e.internalDisconnectClient clientId receivers reason).1 ∧
      (s.internalDisconnectClient clientId receivers reason).2.Loads
        (e.internalDisconnectClient clientId receivers reason).2 := by
  have he := h.clients clientId
  rw [ServerSessions.internalDisconnectClient, ServerEndpoint.internalDisconnectClient, he]
  cases hk : s.clients.lookup clientId with
  | none => exact ⟨rfl, h⟩
  | some n =>
    have hclients : ∀ k, (e.clients.erase clientId).lookup k =
        ((s.clients.erase clientId).lookup k).map fun m ↦
          ((s.withSession n ((s.conns n).close receivers reason)).conns m).conn := by
      intro k
      rw [HashMap.lookup_erase_eq_ite, HashMap.lookup_erase_eq_ite, h.clients]
      split_ifs with hne
      · rfl
      · refine Option.map_congr fun m hm ↦ ?_
        rw [conns_withSession, if_neg]
        rintro rfl
        exact hne (hinj _ _ _ hm hk)
    have hstats : { e.stats with disconnectCount := (e.stats.disconnectCount + 1) % 2 ^ 32 } =
        { s.stats with disconnectCount := (s.stats.disconnectCount + 1) % 2 ^ 32 } := by rw [h.stats]
    simp only [remove_of_some hk, Option.map_some]
    cases ((s.conns n).conn.close receivers reason).1 with
    | ok => exact ⟨rfl, hclients, h.clientIdGen, h.openedChannels, hstats⟩
    | error => exact ⟨rfl, hclients, h.clientIdGen, h.openedChannels, hstats⟩

/-- The clients that the loop has met are gone, and the others are where they were. -/
theorem disconnectAllClients_frame (s : ServerSessions) (receivers : ClientId → Bool)
    (order : List ClientId) :
    (∀ k, (s.disconnectAllClients receivers order).clients.lookup k =
        if k ∈ order then none else s.clients.lookup k) ∧
      (s.disconnectAllClients receivers order).clientIdGen = s.clientIdGen ∧
      (s.disconnectAllClients receivers order).openedChannels = s.openedChannels ∧
      (s.disconnectAllClients receivers order).stats = s.stats := by
  induction order generalizing s with
  | nil => exact ⟨fun k ↦ (if_neg List.not_mem_nil).symm, rfl, rfl, rfl⟩
  | cons clientId order ih =>
    obtain ⟨hclients, hgen, hopened, hstats⟩ := ih (s.remove clientId (receivers clientId) .localOrder)
    have hremove : (∀ k, (s.remove clientId (receivers clientId) .localOrder).clients.lookup k =
        if k = clientId then none else s.clients.lookup k) ∧
        (s.remove clientId (receivers clientId) .localOrder).clientIdGen = s.clientIdGen ∧
        (s.remove clientId (receivers clientId) .localOrder).openedChannels = s.openedChannels ∧
        (s.remove clientId (receivers clientId) .localOrder).stats = s.stats := by
      rw [remove]
      split
      · exact ⟨fun k ↦ HashMap.lookup_erase_eq_ite .., rfl, rfl, rfl⟩
      · rename_i hk
        refine ⟨fun k ↦ ?_, rfl, rfl, rfl⟩
        split_ifs with hne
        · rw [hne, hk]
        · rfl
    refine ⟨fun k ↦ (hclients k).trans ?_, hgen.trans hremove.2.1, hopened.trans hremove.2.2.1,
      hstats.trans hremove.2.2.2⟩
    rw [hremove.1 k]
    by_cases hne : k = clientId <;> simp [hne]

theorem Loads.disconnectAllClients (h : s.Loads e) (receivers : ClientId → Bool)
    {order : List ClientId} (ho : s.clients.IsOrder order) :
    (s.disconnectAllClients receivers order).Loads e.disconnectAllClients := by
  obtain ⟨hclients, hgen, hopened, hstats⟩ := s.disconnectAllClients_frame receivers order
  refine ⟨fun k ↦ ?_, h.clientIdGen.trans hgen.symm, h.openedChannels.trans hopened.symm,
    h.stats.trans hstats.symm⟩
  have hnone : (s.disconnectAllClients receivers order).clients.lookup k = none := by
    rw [hclients]
    split_ifs with hk
    · rfl
    · exact Finmap.lookup_eq_none.2 fun hmem ↦ hk (ho.mem_iff.2 hmem)
  rw [hnone]
  exact Finmap.lookup_empty k

/-- A connection that is handled is not yet at the place of a client. -/
theorem Loads.handleNewConnection (h : s.Loads e)
    (hnew : ∀ k, s.clients.lookup k ≠ some n) (order : List ChannelId) (receivers : Bool) :
    (s.handleNewConnection order receivers n).1 =
        (e.handleNewConnection order (s.conns n).conn).1 ∧
      (s.handleNewConnection order receivers n).2.Loads
        (e.handleNewConnection order (s.conns n).conn).2 := by
  have hothers : ∀ k t, ((s.clients.lookup k).map fun m ↦ ((s.withSession n t).conns m).conn) =
      (s.clients.lookup k).map fun m ↦ (s.conns m).conn := fun k t ↦
    Option.map_congr fun m hm ↦ by
      rw [conns_withSession, if_neg]
      rintro rfl
      exact hnew k hm
  rw [ServerSessions.handleNewConnection, ServerEndpoint.handleNewConnection, h.openedChannels,
    h.clientIdGen]
  rcases ServerEndpoint.createConnectionChannels (s.openedChannels.entriesIn order) (s.conns n).conn
    with ⟨_ | _, c⟩
  · exact ⟨rfl, fun k ↦ (h.clients k).trans (hothers k _).symm, h.clientIdGen, h.openedChannels, h.stats⟩
  · simp only
    cases c.specific.toConnectionSend.trySend (.clientConnectedAck ((s.clientIdGen + 1) % 2 ^ 64)) with
    | error =>
      exact ⟨rfl, fun k ↦ (h.clients k).trans (hothers k _).symm, rfl, rfl, h.stats⟩
    | ok q =>
      obtain ⟨conns, hconns, -, hreplace⟩ := s.replace_eq ((s.clientIdGen + 1) % 2 ^ 64)
        ((s.clientIdGen + 1) % 2 ^ 64) s.fromAsyncEndpoint
      simp only [hreplace]
      refine ⟨trivial, fun k ↦ ?_, rfl, rfl, by rw [h.stats]; rfl⟩
      rw [HashMap.lookup_insert_eq_ite, HashMap.lookup_insert_eq_ite]
      split_ifs with hk
      · simp only [Option.map_some, conns_withSession, if_true]
        rfl
      · refine (h.clients k).trans (Option.map_congr fun m hm ↦ ?_)
        rw [conns_withSession, if_neg]
        · exact (hconns m).symm
        · rintro rfl
          exact hnew k hm

end ServerSessions

end BevyIroh
