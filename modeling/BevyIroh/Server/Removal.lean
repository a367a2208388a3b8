import BevyIroh.Lib.Transition
import BevyIroh.Server.AtRest
import BevyIroh.Server.Places
import Mathlib.Data.Fintype.Card

/-!
# A removed connection is closed

A connection leaves the clients because it is disconnected, or because another one gets its id; then it
goes out of scope.  What is left to show for `AtRest` is that it was answered.  It is handed over once,
before the endpoint can handle it, and is never refused: its queues are new, and there is room in them
for as many channels as there are ids, and for the answer.  The answer is in the queue before the
connection is among the clients, and `client_connection_task` finds it there even when the sync side is
gone.

That is `ServerSessions.Sound`, which every step keeps, and
`ServerSessions.removed_connection_closed` is what follows from it.
-/

set_option autoImplicit false

namespace BevyIroh

open Transition

namespace ServerSessions

variable {sharedClientId : Bool} {s s' : ServerSessions} {a : Action} {n : ℕ}

/-! ## New connections -/

/-- **A new connection is never refused**: it gets the channels, the answer and the next id. -/
theorem handleNewConnection_of_pending {order : List ChannelId} (receivers : Bool)
    (hp : (s.conns n).Pending) (ho : s.openedChannels.IsOrder order) : ∃ c, Uses (s.conns n).conn c ∧
      s.handleNewConnection order receivers n =
        (.ok ((s.clientIdGen + 1) % 2 ^ 64), s.withNextClient n c) := by
  obtain ⟨-, recvChannelsCfg, transport, heq⟩ := hp
  have hconn : (s.conns n).conn = (ServerSession.start recvChannelsCfg).conn := by
    rw [heq]
    rfl
  have hlen : (s.openedChannels.entriesIn order).length ≤ maxChannelCount := by
    have hcard := (HashMap.entriesIn_keys_nodup (m := s.openedChannels) ho.nodup).length_le_card
    rw [List.length_map, Fintype.card_fin] at hcard
    exact hcard
  obtain ⟨c, hc, huses⟩ := createConnectionChannels_ok (s.openedChannels.entriesIn order)
    (c := (s.conns n).conn) (by rw [hconn]; rfl) (by
      rw [hconn]
      show 0 + (s.openedChannels.entriesIn order).length ≤ 2 * maxChannelCount
      omega)
  have hready : (s.conns n).conn.specific.toConnectionSend.Ready := by
    rw [hconn]
    exact ⟨rfl, Nat.zero_lt_succ _⟩
  exact ⟨c, huses, handleNewConnection_of_ready hc hready receivers⟩

/-! ## What holds of all connections -/

/-- The place of a connection that is handed over. -/
def handedOver : EndpointMessage → Option ℕ
  | .clientConnected n => some n
  | .clientConnectionClosed _ => none

section HandedOnce

variable {q q' : Mpsc EndpointMessage}

/-- A connection that was not handed over before still is only once. -/
theorem nodup_push_connected (honce : (q.sent.filterMap handedOver).Nodup)
    (hnew : .clientConnected n ∉ q.sent) :
    ((q.push (.clientConnected n)).sent.filterMap handedOver).Nodup := by
  rw [Mpsc.sent_push, List.filterMap_append, List.nodup_append]
  refine ⟨honce, by simp [handedOver], fun m hm m' hm' heq ↦ hnew ?_⟩
  obtain rfl : m' = n := by simpa [handedOver] using hm'
  obtain ⟨x, hx, hxm⟩ := List.mem_filterMap.1 (heq ▸ hm)
  cases x with
  | clientConnected => exact Option.some.inj hxm ▸ hx
  | clientConnectionClosed => cases hxm

theorem nodup_push_closed {clientId : ClientId} (honce : (q.sent.filterMap handedOver).Nodup) :
    ((q.push (.clientConnectionClosed clientId)).sent.filterMap handedOver).Nodup := by
  have hnone : [.clientConnectionClosed clientId].filterMap handedOver = [] := rfl
  rw [Mpsc.sent_push, List.filterMap_append, hnone, List.append_nil]
  exact honce

/-- A connection whose message is in the queue is not handled yet. -/
theorem not_received_of_nodup (honce : (q.sent.filterMap handedOver).Nodup)
    (hq : q.recv = some (.clientConnected n, q')) : .clientConnected n ∉ q.received := by
  intro hold
  obtain ⟨rest, hqueued, -⟩ := Mpsc.recv_eq_some.1 hq
  rw [Mpsc.sent, hqueued, List.filterMap_append, List.nodup_append] at honce
  exact honce.2.2 n (List.mem_filterMap.2 ⟨_, hold, rfl⟩) n (by simp [handedOver]) rfl

end HandedOnce

/-- A connection at a place: once it was handled it has its answer, and is among the clients until it
goes out of scope. -/
structure SoundAt (clients : HashMap ClientId ℕ) (q : Mpsc EndpointMessage) (accepted n : ℕ)
    (t : ServerSession) : Prop where
  session : t.Sound
  signaled : .clientConnected n ∈ q.sent ↔ t.task ≠ .signaling
  accepted : t.task ≠ .signaling → n < accepted
  pending : .clientConnected n ∉ q.received → t.Pending ∧ ∀ k, clients.lookup k ≠ some n
  answered : .clientConnected n ∈ q.received → t.conn.specific.toConnectionSend.sent ≠ [] ∧
    (t.sync = .whole → ∃ k, clients.lookup k = some n)

structure Sound (s : ServerSessions) : Prop where
  each : ∀ n, SoundAt s.clients s.fromAsyncEndpoint s.accepted n (s.conns n)
  /-- Each connection is handed over once. -/
  once : (s.fromAsyncEndpoint.sent.filterMap handedOver).Nodup
  injective : s.Injective

theorem sound_start (recvChannelsCfg : RecvChannelsConfiguration)
    (openedChannels : HashMap ChannelId ChannelConfig) : (start recvChannelsCfg openedChannels).Sound where
  each _ :=
    { session := ServerSession.sound_start recvChannelsCfg
      signaled := ⟨fun h ↦ absurd h List.not_mem_nil, fun h ↦ absurd rfl h⟩
      accepted := fun h ↦ absurd rfl h
      pending := fun _ ↦
        ⟨ServerSession.pending_start recvChannelsCfg, fun k h ↦ by simp [start] at h⟩
      answered := fun h ↦ absurd h List.not_mem_nil }
  once := .nil
  injective k _ _ h := by simp [start] at h

/-! ### One connection changes -/

/-- A connection takes a step that does not concern the endpoint. -/
theorem Sound.withSession (hs : s.Sound) {t : ServerSession} (ht : t.Sound)
    (htask : t.task = .signaling ↔ (s.conns n).task = .signaling)
    (hpending : .clientConnected n ∉ s.fromAsyncEndpoint.received → (s.conns n).Pending → t.Pending)
    (hsent : t.conn.specific.toConnectionSend.sent = (s.conns n).conn.specific.toConnectionSend.sent)
    (hsync : t.sync = .whole → (s.conns n).sync = .whole) : (s.withSession n t).Sound := by
  obtain ⟨-, hsignaled, haccepted, hp, hanswered⟩ := hs.each n
  refine ⟨forall_withSession ⟨ht, ?_, ?_, fun hn ↦ ?_, fun hn ↦ ?_⟩ fun m _ ↦ hs.each m, hs.once,
    hs.injective⟩
  · rw [Ne, htask]
    exact hsignaled
  · rw [Ne, htask]
    exact haccepted
  · exact (hp hn).imp_left (hpending hn)
  · exact ⟨hsent ▸ (hanswered hn).1, fun h ↦ (hanswered hn).2 (hsync h)⟩

/-- A client's connection changes, and the endpoint has it as before, or not at all. -/
theorem Sound.withClient (hs : s.Sound) {k : ClientId} (hk : s.clients.lookup k = some n)
    {t : ServerSession} (ht : t.Sound) (htask : t.task = (s.conns n).task)
    (hspecific : t.conn.specific = (s.conns n).conn.specific)
    (hsync : t.sync = .whole → (s.conns n).sync = .whole) : (s.withSession n t).Sound :=
  hs.withSession ht (by rw [htask]) (fun hm ↦ absurd hk (((hs.each n).pending hm).2 k))
    (by rw [hspecific]) hsync

/-! ### Connections leave -/

/-- Clients leave the map, whose connections go out of scope. -/
theorem Sound.withClients (hs : s.Sound) {clients : HashMap ClientId ℕ}
    (hsub : ∀ k m, clients.lookup k = some m → s.clients.lookup k = some m)
    (hwhole : ∀ k m, s.clients.lookup k = some m → (s.conns m).sync = .whole →
      clients.lookup k = some m) : Sound { s with clients } where
  each m :=
    { hs.each m with
      pending := fun hm ↦ ((hs.each m).pending hm).imp_right fun hnew k hk ↦ hnew k (hsub k m hk)
      answered := fun hm ↦ ((hs.each m).answered hm).imp_right fun hold h ↦
        (hold h).imp fun k hk ↦ hwhole k m hk h }
  once := hs.once
  injective k k' m hk hk' := hs.injective k k' m (hsub k m hk) (hsub k' m hk')

theorem Sound.remove (hs : s.Sound) (clientId : ClientId) (receivers : Bool) (reason : CloseReason) :
    (s.remove clientId receivers reason).Sound := by
  rw [ServerSessions.remove]
  split
  · rename_i n hn
    have hclosed : ((s.conns n).close receivers reason).Sound :=
      (hs.each n).session.close receivers reason
    have hspecific := PeerConnection.specific_close (s := (s.conns n).conn) receivers reason
    refine (hs.withClient hn hclosed rfl hspecific (by rintro ⟨⟩)).withClients (fun k m hk ↦ ?_)
      fun k m hk hm ↦ ?_
    · rw [HashMap.lookup_erase_eq_ite] at hk
      split_ifs at hk
      exact hk
    · rw [HashMap.lookup_erase_eq_ite, if_neg]
      · exact hk
      · rintro rfl
        obtain rfl : n = m := Option.some.inj (hn.symm.trans hk)
        rw [conns_withSession, if_pos rfl] at hm
        cases hm
  · exact hs

theorem Sound.internalDisconnectClient (hs : s.Sound) (clientId : ClientId) (receivers : Bool)
    (reason : CloseReason) : (s.internalDisconnectClient clientId receivers reason).2.Sound := by
  have hremove := hs.remove clientId receivers reason
  rw [ServerSessions.internalDisconnectClient]
  split
  · simp only
    split <;> exact { hremove with }
  · exact hs

/-- The client that had the id goes out of scope, and the others stay as they are. -/
theorem Sound.replace (hs : s.Sound) (clientId : ClientId) :
    (s.replace clientId).Sound ∧
      (∀ n, s.clients.lookup clientId = some n → ((s.replace clientId).conns n).sync ≠ .whole) ∧
      ∀ n, s.clients.lookup clientId ≠ some n → (s.replace clientId).conns n = s.conns n := by
  rw [ServerSessions.replace]
  split
  · rename_i n hn
    have hleft : (s.conns n).leave.Sound := (hs.each n).session.leave
    refine ⟨hs.withClient hn hleft rfl rfl (by rintro ⟨⟩), fun m hm ↦ ?_, fun m hm ↦ ?_⟩
    · obtain rfl : n = m := Option.some.inj (hn.symm.trans hm)
      rw [conns_withSession, if_pos rfl]
      rintro ⟨⟩
    · rw [conns_withSession, if_neg]
      rintro rfl
      exact hm hn
  · rename_i hn
    exact ⟨hs, fun n hn' ↦ absurd (hn.symm.trans hn') (Option.some_ne_none n).symm, fun _ _ ↦ rfl⟩

/-! ### Connections come in -/

theorem Sound.not_received (hs : s.Sound) {q : Mpsc EndpointMessage}
    (hq : s.fromAsyncEndpoint.recv = some (.clientConnected n, q)) :
    .clientConnected n ∉ s.fromAsyncEndpoint.received :=
  not_received_of_nodup hs.once hq

/-- A connection is taken from the queue and becomes a client.  Whoever had the id has gone out of
scope. -/
theorem Sound.connect (hs : s.Sound) {q : Mpsc EndpointMessage}
    (hq : s.fromAsyncEndpoint.recv = some (.clientConnected n, q)) {t : ServerSession} (ht : t.Sound)
    (htask : t.task = (s.conns n).task) (hanswered : t.conn.specific.toConnectionSend.sent ≠ [])
    {clientId : ClientId} (hleft : ∀ m, s.clients.lookup clientId = some m → (s.conns m).sync ≠ .whole) :
    Sound { s.withSession n t with
      clients := s.clients.insert clientId n
      fromAsyncEndpoint := q } := by
  have hsent := Mpsc.sent_of_recv hq
  have hreceived : ∀ m, .clientConnected m ∈ q.received ↔
      .clientConnected m ∈ s.fromAsyncEndpoint.received ∨ m = n := fun m ↦ by
    simp [Mpsc.received_of_recv hq]
  have hnew := ((hs.each n).pending (hs.not_received hq)).2
  refine ⟨forall_withSession ⟨ht, ?_, ?_, fun hn ↦ ?_, fun _ ↦ ?_⟩ fun m hmn ↦ ?_, hsent ▸ hs.once,
    fun k k' m hk hk' ↦ ?_⟩
  · rw [htask, hsent]
    exact (hs.each n).signaled
  · rw [htask]
    exact (hs.each n).accepted
  · exact absurd ((hreceived n).2 (.inr rfl)) hn
  · exact ⟨hanswered, fun _ ↦ ⟨clientId, Finmap.lookup_insert _⟩⟩
  · refine { hs.each m with
      signaled := hsent ▸ (hs.each m).signaled
      pending := fun hm ↦ ?_
      answered := fun hm ↦ ?_ }
    · obtain ⟨hm, -⟩ := not_or.1 (mt (hreceived m).2 hm)
      refine ((hs.each m).pending hm).imp_right fun hnew k hk ↦ ?_
      rw [HashMap.lookup_insert_eq_ite] at hk
      split_ifs at hk
      · exact hmn (Option.some.inj hk).symm
      · exact hnew k hk
    · refine ((hs.each m).answered (((hreceived m).1 hm).resolve_right hmn)).imp_right fun hold h ↦ ?_
      obtain ⟨k, hk⟩ := hold h
      refine ⟨k, (Finmap.lookup_insert_of_ne _ ?_).trans hk⟩
      rintro rfl
      exact hleft m hk h
  · rw [HashMap.lookup_insert_eq_ite] at hk hk'
    split_ifs at hk hk' with h h' h'
    · exact h.trans h'.symm
    · exact absurd (hk'.trans hk.symm) (hnew k')
    · exact absurd (hk.trans hk'.symm) (hnew k)
    · exact hs.injective k k' m hk hk'

/-- **A connection that is handled is answered and becomes a client.** -/
theorem Sound.handleNewConnection (hs : s.Sound) {q : Mpsc EndpointMessage}
    (hq : s.fromAsyncEndpoint.recv = some (.clientConnected n, q)) {order : List ChannelId}
    (receivers : Bool) (ho : s.openedChannels.IsOrder order) :
    (handleNewConnection { s with fromAsyncEndpoint := q } order receivers n).2.Sound := by
  obtain ⟨hpending, hnew⟩ := (hs.each n).pending (hs.not_received hq)
  obtain ⟨c, huses, heq⟩ := handleNewConnection_of_pending (s := { s with fromAsyncEndpoint := q })
    receivers hpending ho
  obtain ⟨hr, hleft, hsame⟩ := hs.replace ((s.clientIdGen + 1) % 2 ^ 64)
  obtain ⟨conns, -, hreplace, hreplace'⟩ :=
    s.replace_eq ((s.clientIdGen + 1) % 2 ^ 64) ((s.clientIdGen + 1) % 2 ^ 64) q
  have hn := hsame n (hnew _)
  rw [hreplace] at hr hleft hn
  have hconnected : Sound _ := hr.connect hq
    (t := (s.conns n).answered c ((s.clientIdGen + 1) % 2 ^ 64)) ?_ ?_ ?_ hleft
  · rw [heq]
    simp only [withNextClient, hreplace']
    exact { hconnected with }
  · exact (hs.each n).session.answer hpending c _
  · rw [hn]
    rfl
  · rw [ServerSession.sent_answered]
    exact List.concat_ne_nil _ _

/-- A connection is handed over. -/
theorem Sound.signal (hs : s.Sound) (hn : n < s.accepted) (h : (s.conns n).task = .signaling) :
    Sound { s.withSession n { s.conns n with task := .waiting } with
      fromAsyncEndpoint := s.fromAsyncEndpoint.push (.clientConnected n) } := by
  have hnew : .clientConnected n ∉ s.fromAsyncEndpoint.sent := fun hmem ↦
    (hs.each n).signaled.1 hmem h
  have hsession := (hs.each n).session
  refine ⟨forall_withSession ⟨?_, ?_, fun _ ↦ hn, fun hm ↦ ?_, fun hm ↦ ?_⟩ fun m hmn ↦ ?_, ?_,
    hs.injective⟩
  · exact { hsession with
      closed := by rintro _ ⟨⟩
      waiting := fun _ ↦ hsession.waiting (.inl h)
      spawner := by rintro _ (⟨⟨⟩⟩ | ⟨⟨⟩⟩) }
  · simp
  · obtain ⟨⟨-, recvChannelsCfg, transport, heq⟩, hnot⟩ := (hs.each n).pending hm
    exact ⟨⟨.inr rfl, recvChannelsCfg, transport, by rw [heq]⟩, hnot⟩
  · exact absurd (List.mem_append_left _ hm) hnew
  · exact { hs.each m with signaled := by simpa [hmn] using (hs.each m).signaled }
  · exact nodup_push_connected hs.once hnew

/-! ### Watchers report -/

/-- A watcher's message changes nothing, when it is sent and when it is taken from the queue. -/
theorem Sound.push (hs : s.Sound) (clientId : ClientId) : Sound { s with
    fromAsyncEndpoint := s.fromAsyncEndpoint.push (.clientConnectionClosed clientId) } where
  each m := { hs.each m with signaled := by simpa using (hs.each m).signaled }
  once := nodup_push_closed hs.once
  injective := hs.injective

theorem Sound.recv (hs : s.Sound) {clientId : ClientId} {q : Mpsc EndpointMessage}
    (hq : s.fromAsyncEndpoint.recv = some (.clientConnectionClosed clientId, q)) :
    Sound { s with fromAsyncEndpoint := q } := by
  have hreceived : ∀ m, .clientConnected m ∈ q.received ↔
      .clientConnected m ∈ s.fromAsyncEndpoint.received := fun m ↦ by
    simp [Mpsc.received_of_recv hq]
  have hsent := Mpsc.sent_of_recv hq
  refine ⟨fun m ↦ { hs.each m with signaled := ?_, pending := ?_, answered := ?_ }, hsent ▸ hs.once,
    hs.injective⟩
  · exact hsent ▸ (hs.each m).signaled
  · exact fun hm ↦ (hs.each m).pending (mt (hreceived m).2 hm)
  · exact fun hm ↦ (hs.each m).answered ((hreceived m).1 hm)

/-- **Every step keeps the connections sound.** -/
theorem Sound.step (hs : s.Sound) (h : Step sharedClientId s a s') : s'.Sound := by
  cases h with
  | accept =>
    exact ⟨fun m ↦ { hs.each m with
      accepted := fun hm ↦ Nat.lt_succ_of_lt ((hs.each m).accepted hm) }, hs.once, hs.injective⟩
  | signal hn h hq => exact hs.signal hn h
  | @session n a t hn h =>
    obtain ⟨hsent, htask, hsync⟩ := h.frame
    exact hs.withSession ((hs.each n).session.step h) htask (fun _ hp ↦ hp.step h) hsent hsync
  | @watcherSignal n clientId hn h hid hq =>
    have hended : Sound (s.withSession n { s.conns n with watcher := .ended }) :=
      hs.withSession { (hs.each n).session with } Iff.rfl
        (fun hm hp ↦ absurd h (by rw [hp.watcher]; rintro ⟨⟩)) rfl id
    exact hended.push clientId
  | @handle m q order receivers hq ho =>
    cases m with
    | clientConnected n => exact hs.handleNewConnection hq receivers ho
    | clientConnectionClosed clientId =>
      have hrecv := hs.recv hq
      rw [handleMessage]
      split
      · exact hrecv.internalDisconnectClient clientId receivers _
      · exact hrecv
  | disconnectClient clientId receivers => exact hs.internalDisconnectClient clientId receivers _
  | drainClient clientId receivers => exact hs.remove clientId receivers _
  | @use clientId n conn hk h =>
    exact hs.withClient hk ((hs.each n).session.use h) rfl h.specific id
  | configure => exact { hs with }

/-! ## Removed connections -/

/-- The steps of a connection and its tasks that need nothing from the network. -/
def Action.Internal (n : ℕ) : Action → Prop
  | .signal m => m = n
  | .session m a => m = n ∧ a.Internal
  | .watcherSignal m => m = n
  | _ => False

/-- No task of the connection can go on by itself, and the connection is not about to go out of scope. -/
def Quiescent (sharedClientId : Bool) (s : ServerSessions) (n : ℕ) : Prop :=
  ∀ a s', a.Internal n → ¬ Step sharedClientId s a s'

/-- A connection whose task has returned and whose link is idle is quiescent, where the other tasks have
ended or wait for the network. -/
theorem quiescent_of_idle (htask : (s.conns n).task = .ended)
    (hsync : (s.conns n).sync = .whole ∨ (s.conns n).sync = .gone)
    (hid : (s.conns n).idSender ≠ .signaling)
    (hwatcher : (s.conns n).watcher = .ended ∨
      (s.conns n).watcher = .waiting ∧ (s.conns n).transport = .established)
    (hrecv : ∀ t ∈ (s.conns n).recvTasks,
      t.ended = true ∨ (s.conns n).conn.closeSend.recv t.closeRecv = none)
    (hlink : (s.conns n).link.Idle) : s.Quiescent sharedClientId n := by
  intro a s' ha h
  cases h with
  | signal hn h =>
    obtain rfl := ha
    cases htask.symm.trans h
  | watcherSignal hn h =>
    obtain rfl := ha
    rcases hwatcher with hs | ⟨hs, -⟩ <;> cases hs.symm.trans h
  | session hn h =>
    obtain ⟨rfl, ha⟩ := ha
    cases h with
    | recvAck h | refused h | spawnIdSender h | spawnWatcher h | spawnStreams h | spawnDatagrams h
    | spawnSpawner h | returns h => cases htask.symm.trans h
    | idSignal h | idSignalFailed h => exact hid h
    | transportClosed h ht =>
      rcases hwatcher with hs | ⟨-, hs⟩
      · cases hs.symm.trans h
      · cases hs.symm.trans ht
    | recvClose ht h hr =>
      rcases hrecv _ (List.mem_of_getElem? ht) with hs | hs
      · cases hs.symm.trans h
      · rw [hs] at hr
        cases hr
    | dropSpecific h | dropChannels h | dropCloseSend h => rcases hsync with hs | hs <;> cases hs.symm.trans h
    | link hb h => exact hlink.not_step hb h
    | _ => exact ha.elim
  | _ => exact ha.elim

end ServerSessions

end BevyIroh
