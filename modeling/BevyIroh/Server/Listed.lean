import BevyIroh.Server.Removal

/-!
# Who is among the clients

The map of clients is what the endpoint was told: `handle_new_connection` puts a connection in it, and
the watcher of the connection's transport has it taken out, through a message with the client's id.  In
between the map is behind, and the id could by then be somebody else's, since the counter of ids starts
again at zero after 2 ^ 64 of them.

`ListedAt` says what holds of a client's connection all the time: a watcher that has ended has left a
message in the queue that will take this client out, and no other one.  So when all tasks are at rest and
the queue is empty, the clients are the connections whose transport is up, each under the id that its
task was told, and all other connections are closed (`clients_are_connected`).
-/

set_option autoImplicit false

namespace BevyIroh

open Transition

/-! ## A client's connection -/

/-- The task has its answer. -/
def ClientTask.Told : ClientTask → Prop
  | .signaling => False
  | .waiting => False
  | _ => True

/-- The watcher of the transport is spawned. -/
def ClientTask.Watching : ClientTask → Prop
  | .watched => True
  | .receivingStreams => True
  | .receiving => True
  | .spawned => True
  | .ended => True
  | _ => False

namespace ServerSession

variable {sharedClientId : Bool} {s t : ServerSession} {a : ServerSessionAct} {k : ClientId}
  {queued : List EndpointMessage}

/-- The connection of a client, with the messages for the endpoint that are in the queue. -/
structure ListedAt (k : ClientId) (queued : List EndpointMessage) (s : ServerSession) : Prop where
  whole : s.sync = .whole
  ack : ∀ {id}, .clientConnectedAck id ∈ s.conn.specific.toConnectionSend.sent → id = k
  told : s.task.Told → s.clientId = some k
  watching : s.task.Watching → s.watcher ≠ .absent
  named : s.watcher ≠ .absent → s.clientId = some k
  reported : s.watcher = .ended → .clientConnectionClosed k ∈ queued

/-- A connection that was just answered. -/
theorem Pending.listedAt (hs : s.Pending) (hwaiting : s.task = .waiting) (c : ServerSideConnection)
    (k : ClientId) (queued : List EndpointMessage) : ListedAt k queued (s.answered c k) := by
  have hwatcher := hs.watcher
  have hsent : s.conn.specific.toConnectionSend.sent = [] := by
    obtain ⟨-, recvChannelsCfg, transport, heq⟩ := hs
    rw [heq]
    rfl
  have htask : (s.answered c k).task = .waiting := hwaiting
  refine ⟨hs.sync, fun {id} hid ↦ ?_, fun htold ↦ ?_, fun hwatching ↦ ?_, fun hne ↦ absurd hwatcher hne,
    fun hended ↦ ?_⟩
  · rw [sent_answered, hsent] at hid
    simpa using hid
  · rw [htask] at htold
    exact htold.elim
  · rw [htask] at hwatching
    exact hwatching.elim
  · cases hwatcher.symm.trans hended

/-- **The tasks of a client's connection keep it.** -/
theorem ListedAt.step (h : s.ListedAt k queued) (hs : s.Sound)
    (hanswered : s.conn.specific.toConnectionSend.sent ≠ []) (hstep : Step sharedClientId s a t) :
    t.ListedAt k queued := by
  cases hstep with
  | @recvAck clientId q htask hq =>
    obtain rfl : clientId = k := h.ack (List.mem_append_right _ (Mpsc.mem_queued_of_recv hq))
    have hphase : ¬ (afterAck sharedClientId).Watching := by cases sharedClientId <;> exact id
    exact { h with
      ack := fun hid ↦ h.ack (Mpsc.sent_of_recv hq ▸ hid)
      told := fun _ ↦ rfl
      watching := fun hc ↦ absurd hc hphase
      named := fun _ ↦ rfl }
  | refused htask hq =>
    -- the answer is waiting
    have hqueued : s.conn.specific.toConnectionSend.queued = [] := by
      simp only [Mpsc.finished, Bool.and_eq_true, List.isEmpty_iff] at hq
      exact hq.1
    rw [Mpsc.sent, hs.waiting (.inr htask), hqueued] at hanswered
    exact absurd rfl hanswered
  | spawnIdSender htask =>
    exact { h with told := fun _ ↦ h.told (by rw [htask]; trivial), watching := fun hc ↦ hc.elim }
  | spawnWatcher htask =>
    have hid := h.told (by rw [htask]; trivial)
    exact { h with
      told := fun _ ↦ hid
      watching := by simp
      named := fun _ ↦ hid
      reported := by simp }
  | spawnStreams htask | spawnDatagrams htask | spawnSpawner htask =>
    exact { h with
      told := fun _ ↦ h.told (by rw [htask]; trivial)
      watching := fun _ ↦ h.watching (by rw [htask]; trivial) }
  | returns htask =>
    have hto := s.taskEnded_link.2.2.2
    exact { h with
      ack := fun {id} hid ↦ h.ack (by rw [hto] at hid; exact hid)
      told := fun _ ↦ h.told (by rw [htask]; trivial)
      watching := fun _ ↦ h.watching (by rw [htask]; trivial) }
  | transportClosed hwaiting ht =>
    exact { h with
      watching := by simp
      named := fun _ ↦ h.named (by simp [hwaiting])
      reported := by simp }
  | @link b l hb hlink =>
    have hspecific : l.conn.specific = s.conn.specific := hlink.specific_eq hb
    refine { h with ack := fun {id} hid ↦ h.ack ?_ }
    rw [← hspecific]
    exact hid
  | dropSpecific hsync | dropChannels hsync | dropCloseSend hsync => cases h.whole.symm.trans hsync
  | _ => exact { h with }

/-- A transport that is there does not go but by being closed. -/
theorem Step.transport_ne (h : s.transport ≠ .absent) (hstep : Step sharedClientId s a t) :
    t.transport ≠ .absent := by
  cases hstep with
  | @link b =>
    show (if b = .closeConnection then Transport.closed else s.transport) ≠ .absent
    split_ifs
    · exact nofun
    · exact h
  | peerClose => exact nofun
  | _ => exact h

end ServerSession

/-! ## All clients -/

namespace ServerSessions

variable {sharedClientId : Bool} {s s' : ServerSessions} {a : Action} {n : ℕ}

/-- What holds of the clients, beside `Sound`. -/
structure Lists (s : ServerSessions) : Prop where
  listed : ∀ {k n}, s.clients.lookup k = some n → (s.conns n).ListedAt k s.fromAsyncEndpoint.queued
  transport : ∀ n, (s.conns n).transport ≠ .absent
  receiver : s.fromAsyncEndpoint.receiver = true
  capacity : 0 < s.fromAsyncEndpoint.capacity

/-- A task can send, when all messages were handled. -/
theorem Lists.ready (h : s.Lists) (hread : s.fromAsyncEndpoint.queued = []) :
    s.fromAsyncEndpoint.Ready := by
  refine ⟨h.receiver, ?_⟩
  rw [hread]
  exact h.capacity

theorem lists_start (recvChannelsCfg : RecvChannelsConfiguration)
    (openedChannels : HashMap ChannelId ChannelConfig) : (start recvChannelsCfg openedChannels).Lists where
  listed h := by simp [start] at h
  transport _ := nofun
  receiver := rfl
  capacity := Nat.succ_pos _

theorem transport_withSession (h : ∀ m, (s.conns m).transport ≠ .absent) {t : ServerSession}
    (ht : t.transport ≠ .absent) (m : ℕ) : ((s.withSession n t).conns m).transport ≠ .absent :=
  forall_withSession (P := fun _ t ↦ t.transport ≠ .absent) ht (fun m _ ↦ h m) m

/-- A connection changes. -/
theorem Lists.withSession (h : s.Lists) {t : ServerSession}
    (ht : ∀ {k}, s.clients.lookup k = some n → t.ListedAt k s.fromAsyncEndpoint.queued)
    (htransport : t.transport ≠ .absent) : (s.withSession n t).Lists where
  listed {k m} hk := by
    rw [conns_withSession]
    split_ifs with hmn
    · exact ht (hmn ▸ hk)
    · exact h.listed hk
  transport := transport_withSession h.transport htransport
  receiver := h.receiver
  capacity := h.capacity

/-- More messages are in the queue. -/
theorem Lists.push (h : s.Lists) (m : EndpointMessage) :
    Lists { s with fromAsyncEndpoint := s.fromAsyncEndpoint.push m } :=
  { h with listed := fun hk ↦
      { h.listed hk with reported := fun hended ↦ List.mem_append_left _ ((h.listed hk).reported hended) } }

/-- A client is taken out, whatever holds of it. -/
theorem lists_remove (hs : s.Sound) {clientId : ClientId}
    (hlisted : ∀ {k n}, k ≠ clientId → s.clients.lookup k = some n →
      (s.conns n).ListedAt k s.fromAsyncEndpoint.queued)
    (htransport : ∀ n, (s.conns n).transport ≠ .absent) (hreceiver : s.fromAsyncEndpoint.receiver = true)
    (hcapacity : 0 < s.fromAsyncEndpoint.capacity) (receivers : Bool) (reason : CloseReason) :
    (s.remove clientId receivers reason).Lists := by
  cases hn : s.clients.lookup clientId with
  | none =>
    rw [ServerSessions.remove, hn]
    refine ⟨fun {k m} hk ↦ hlisted ?_ hk, htransport, hreceiver, hcapacity⟩
    rintro rfl
    cases hn.symm.trans hk
  | some n =>
    rw [remove_of_some hn]
    have hclosed : ∀ m, ((s.withSession n ((s.conns n).close receivers reason)).conns m).transport ≠
        .absent := transport_withSession htransport (htransport n)
    refine ⟨fun {k m} hk ↦ ?_, hclosed, hreceiver, hcapacity⟩
    simp only [HashMap.lookup_erase_eq_ite] at hk
    split_ifs at hk with hne
    have hmn : m ≠ n := by
      rintro rfl
      exact hne (hs.injective _ _ _ hk hn)
    show ((s.withSession n ((s.conns n).close receivers reason)).conns m).ListedAt k _
    rw [conns_withSession, if_neg hmn]
    exact hlisted hne hk

/-- Beside taking out the client, it is counted. -/
theorem internalDisconnectClient_snd (s : ServerSessions) (clientId : ClientId) (receivers : Bool)
    (reason : CloseReason) : ∃ stats, (s.internalDisconnectClient clientId receivers reason).2 =
      { s.remove clientId receivers reason with stats } := by
  rw [ServerSessions.internalDisconnectClient]
  split
  · simp only
    split <;> exact ⟨_, rfl⟩
  · rename_i hn
    rw [ServerSessions.remove, hn]
    exact ⟨s.stats, rfl⟩

theorem Lists.withStats (h : s.Lists) (stats : EndpointStats) : Lists { s with stats } := { h with }

/-- The message of a watcher takes out the client it is about. -/
theorem Lists.reported (h : s.Lists) (hs : s.Sound) {clientId : ClientId} {q : Mpsc EndpointMessage}
    (hq : s.fromAsyncEndpoint.recv = some (.clientConnectionClosed clientId, q)) (order : List ChannelId)
    (receivers : Bool) : (handleMessage { s with fromAsyncEndpoint := q } order receivers
      (.clientConnectionClosed clientId)).Lists := by
  have hrecv := hs.recv hq
  obtain ⟨rest, hqueued, rfl⟩ := Mpsc.recv_eq_some.1 hq
  have hlisted : ∀ {k n}, k ≠ clientId → s.clients.lookup k = some n →
      (s.conns n).ListedAt k rest := fun {k n} hne hk ↦ by
    have hk' := h.listed hk
    refine { hk' with reported := fun hended ↦ ?_ }
    have hmem := hk'.reported hended
    rw [hqueued] at hmem
    exact (List.mem_cons.1 hmem).resolve_left fun heq ↦ hne (EndpointMessage.clientConnectionClosed.inj heq)
  rw [handleMessage]
  split
  · obtain ⟨stats, heq⟩ := internalDisconnectClient_snd _ clientId receivers .peerClosed
    rw [tryDisconnectClosedClient, heq]
    exact (lists_remove hrecv hlisted h.transport h.receiver h.capacity receivers .peerClosed).withStats stats
  · rename_i hnot
    refine ⟨fun {k m} hk ↦ hlisted ?_ hk, h.transport, h.receiver, h.capacity⟩
    rintro rfl
    exact hnot (Finmap.mem_of_lookup_eq_some hk)

/-- **A connection that is handled becomes a client.** -/
theorem Lists.handleNewConnection (h : s.Lists) (hs : s.Sound) {q : Mpsc EndpointMessage}
    (hq : s.fromAsyncEndpoint.recv = some (.clientConnected n, q)) {order : List ChannelId}
    (receivers : Bool) (ho : s.openedChannels.IsOrder order) :
    (ServerSessions.handleNewConnection { s with fromAsyncEndpoint := q } order receivers n).2.Lists := by
  obtain ⟨hpending, hnew⟩ := (hs.each n).pending (hs.not_received hq)
  have hwaiting : (s.conns n).task = .waiting := hpending.1.resolve_left
    ((hs.each n).signaled.1 (List.mem_append_right _ (Mpsc.mem_queued_of_recv hq)))
  obtain ⟨c, -, heq⟩ := handleNewConnection_of_pending (s := { s with fromAsyncEndpoint := q })
    receivers hpending ho
  obtain ⟨-, -, hsame⟩ := hs.replace ((s.clientIdGen + 1) % 2 ^ 64)
  obtain ⟨conns, -, hreplace, hreplace'⟩ :=
    s.replace_eq ((s.clientIdGen + 1) % 2 ^ 64) ((s.clientIdGen + 1) % 2 ^ 64) q
  rw [hreplace] at hsame
  have htransport : ∀ m, (conns m).transport ≠ .absent := by
    have hleft : ∀ m, ((s.replace ((s.clientIdGen + 1) % 2 ^ 64)).conns m).transport ≠ .absent := by
      rw [ServerSessions.replace]
      split
      · exact transport_withSession h.transport (h.transport _)
      · exact h.transport
    rw [hreplace] at hleft
    exact hleft
  obtain ⟨rest, hqueued, rfl⟩ := Mpsc.recv_eq_some.1 hq
  rw [heq]
  simp only [withNextClient, hreplace']
  refine ⟨fun {k m} hk ↦ ?_, fun m ↦ ?_, h.receiver, h.capacity⟩
  · simp only [HashMap.lookup_insert_eq_ite] at hk
    show (Function.update conns n _ m).ListedAt k rest
    rw [Function.update_apply]
    split_ifs at hk with hne
    · obtain rfl := Option.some.inj hk
      rw [if_pos rfl, hne]
      exact hpending.listedAt hwaiting c _ rest
    · have hmn : m ≠ n := by
        rintro rfl
        exact hnew k hk
      have hkeeps : conns m = s.conns m := hsame m fun hm ↦ hne (hs.injective _ _ _ hk hm)
      rw [if_neg hmn, hkeeps]
      have hk' := h.listed hk
      refine { hk' with reported := fun hended ↦ ?_ }
      have hmem := hk'.reported hended
      rw [hqueued] at hmem
      exact (List.mem_cons.1 hmem).resolve_left (by simp)
  · show (Function.update conns n _ m).transport ≠ .absent
    rw [Function.update_apply]
    split_ifs
    · exact h.transport n
    · exact htransport m

/-- **Every step keeps it.** -/
theorem Lists.step (h : s.Lists) (hs : s.Sound) (hstep : Step sharedClientId s a s') : s'.Lists := by
  cases hstep with
  | accept => exact { h with }
  | @signal n hn htask hq =>
    have hwaiting : (s.withSession n { s.conns n with task := .waiting }).Lists :=
      h.withSession (fun {k} hk ↦ { h.listed hk with told := nofun, watching := nofun }) (h.transport n)
    exact hwaiting.push _
  | @session n a t hn hstep =>
    refine h.withSession (fun {k} hk ↦ ?_) (hstep.transport_ne (h.transport n))
    refine (h.listed hk).step (hs.each n).session ?_ hstep
    by_contra hnone
    by_cases hreceived : .clientConnected n ∈ s.fromAsyncEndpoint.received
    · exact ((hs.each n).answered hreceived).1 hnone
    · exact ((hs.each n).pending hreceived).2 k hk
  | @watcherSignal n clientId hn hw hid hq =>
    refine ⟨fun {k m} hk ↦ ?_, transport_withSession h.transport (h.transport n), h.receiver, h.capacity⟩
    show ((s.withSession n _).conns m).ListedAt k (s.fromAsyncEndpoint.push _).queued
    rw [conns_withSession]
    split_ifs with hmn
    · subst hmn
      have hk' := h.listed hk
      have hnamed := hk'.named (by rw [hw]; nofun)
      obtain rfl : clientId = k := Option.some.inj (hid.symm.trans hnamed)
      exact { hk' with
        watching := fun _ ↦ nofun
        named := fun _ ↦ hnamed
        reported := fun _ ↦ List.mem_append_right _ List.mem_cons_self }
    · exact (h.push _).listed hk
  | @handle m q order receivers hq ho =>
    cases m with
    | clientConnected n => exact h.handleNewConnection hs hq receivers ho
    | clientConnectionClosed clientId => exact h.reported hs hq order receivers
  | disconnectClient clientId receivers =>
    obtain ⟨stats, heq⟩ := s.internalDisconnectClient_snd clientId receivers .localOrder
    rw [ServerSessions.disconnectClient, heq]
    exact (lists_remove hs (fun _ hk ↦ h.listed hk) h.transport h.receiver h.capacity receivers
      .localOrder).withStats stats
  | drainClient clientId receivers =>
    exact lists_remove hs (fun _ hk ↦ h.listed hk) h.transport h.receiver h.capacity receivers .localOrder
  | @use clientId n conn hk huses =>
    refine h.withSession (fun {k} hk ↦ { h.listed hk with ack := fun {id} hid ↦ ?_ }) (h.transport n)
    refine (h.listed hk).ack ?_
    have hspecific : conn.specific = (s.conns n).conn.specific := huses.specific
    rw [← hspecific]
    exact hid
  | configure => exact { h with }

end ServerSessions

/-! ## At rest -/

/-- A client that is there: its transport is up and watched, and its task has told it this id and has
returned. -/
structure ServerSession.Connected (k : ClientId) (s : ServerSession) : Prop where
  transport : s.transport = .established
  watcher : s.watcher = .waiting
  clientId : s.clientId = some k
  task : s.task = .ended

namespace ServerSessions

variable {sharedClientId : Bool} {s : ServerSessions} {n : ℕ}

/-- With all messages handled, the connection of a client that is at rest is connected. -/
theorem Lists.connected (h : s.Lists) (hs : s.Sound) {k : ClientId} (hk : s.clients.lookup k = some n)
    (hq : s.Quiescent sharedClientId n) (hread : s.fromAsyncEndpoint.queued = []) :
    (s.conns n).Connected k := by
  have hlisted := h.listed hk
  have hreceived : .clientConnected n ∈ s.fromAsyncEndpoint.received := by
    by_contra hnot
    exact ((hs.each n).pending hnot).2 k hk
  have hanswered := ((hs.each n).answered hreceived).1
  have hsignaled := (hs.each n).signaled.1 (List.mem_append_left _ hreceived)
  have haccepted := (hs.each n).accepted hsignaled
  have hrest : (s.conns n).AtRest sharedClientId := fun a t ha hstep ↦
    hq (.session n a) _ ⟨rfl, ha⟩ (.session haccepted hstep)
  have htask : (s.conns n).task = .ended := hrest.ended (hs.each n).session hsignaled hanswered
  have hwaiting : (s.conns n).watcher = .waiting := by
    cases hw : (s.conns n).watcher with
    | absent => exact absurd hw (hlisted.watching (by rw [htask]; trivial))
    | waiting => rfl
    | signaling =>
      exact (hq (.watcherSignal n) _ rfl
        (.watcherSignal haccepted hw (hlisted.named (by rw [hw]; nofun)) (h.ready hread))).elim
    | ended =>
      -- its message would have taken the client out
      have hmem := hlisted.reported hw
      rw [hread] at hmem
      cases hmem
  refine ⟨?_, hwaiting, hlisted.named (by rw [hwaiting]; nofun), htask⟩
  cases ht : (s.conns n).transport with
  | absent => exact absurd ht (h.transport n)
  | established => rfl
  | closed => exact (hrest _ _ (by trivial) (.transportClosed hwaiting ht)).elim

/-- With all messages handled, any other connection that has come in is closed, when it is at rest. -/
theorem Lists.closed (h : s.Lists) (hs : s.Sound) (hn : n < s.accepted)
    (hnone : ∀ k, s.clients.lookup k ≠ some n) (hq : s.Quiescent sharedClientId n)
    (hread : s.fromAsyncEndpoint.queued = []) : (s.conns n).Closed := by
  have hsignaled : (s.conns n).task ≠ .signaling := fun htask ↦
    hq (.signal n) _ rfl (.signal hn htask (h.ready hread))
  have hsent := (hs.each n).signaled.2 hsignaled
  rw [Mpsc.sent, hread, List.append_nil] at hsent
  obtain ⟨hanswered, hwhole⟩ := (hs.each n).answered hsent
  have hrest : (s.conns n).AtRest sharedClientId := fun a t ha hstep ↦
    hq (.session n a) _ ⟨rfl, ha⟩ (.session hn hstep)
  refine (hs.each n).session.closed_of_atRest hrest hsignaled hanswered fun hsync ↦ ?_
  obtain ⟨k, hk⟩ := hwhole hsync
  exact hnone k hk

/-- A connection that has not come in is quiescent. -/
theorem quiescent_of_not_accepted (hn : s.accepted ≤ n) : s.Quiescent sharedClientId n := by
  intro a s' ha h
  cases h with
  | signal hn' | watcherSignal hn' => exact absurd hn' (ha ▸ Nat.not_lt.2 hn)
  | session hn' => exact absurd hn' (ha.1 ▸ Nat.not_lt.2 hn)
  | _ => exact ha.elim

end ServerSessions

end BevyIroh
