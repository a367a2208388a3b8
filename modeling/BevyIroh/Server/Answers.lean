import BevyIroh.Lib.Issued
import BevyIroh.Server.Removal

/-!
# The answers of the endpoint

`handle_new_connection` gives an id to a connection that it accepts, and sends it to the connection's
task.  A connection that it refuses may use up an id as well.  `ServerSessions.Answered` says where such an
id can be: in the answer, in the task that has received it, and among the clients, always with the
connection it was given to.  Every step keeps it, whatever becomes of the connection, as long as the
counter of ids does not start again at zero.

Unlike `ServerSessions.Sound` it leaves open whether a connection is refused, so it is kept also when a
task is dropped before it has its answer, as all are when the runtime goes away.
-/

set_option autoImplicit false

namespace BevyIroh

namespace ServerSession

variable {sharedClientId : Bool} {s t : ServerSession} {a : ServerSessionAct}

/-- The task has its id from an answer. -/
theorem Step.clientId_cases (h : Step sharedClientId s a t) : t.clientId = s.clientId ∨
    ∃ id, t.clientId = some id ∧
      .clientConnectedAck id ∈ s.conn.specific.toConnectionSend.sent := by
  cases h with
  | recvAck h hq => exact .inr ⟨_, rfl, List.mem_append_right _ (Mpsc.mem_queued_of_recv hq)⟩
  | _ => exact .inl rfl

end ServerSession

namespace ServerSessions

variable {sharedClientId : Bool} {s s' : ServerSessions} {a : Action} {n : ℕ}
  {assigned : ℕ → Option ClientId}

/-- The endpoint's counter of ids goes on. -/
def CountsOn (s s' : ServerSessions) : Prop := s.clientIdGen ≤ s'.clientIdGen

instance (s s' : ServerSessions) : Decidable (CountsOn s s') :=
  inferInstanceAs (Decidable (s.clientIdGen ≤ s'.clientIdGen))

/-- The ids given to connections, after `handle_new_connection` for connection `n`. -/
def assign (assigned : ℕ → Option ClientId) (n : ℕ) :
    Except AsyncChannelError ClientId → ℕ → Option ClientId
  | .ok clientId => Function.update assigned n (some clientId)
  | .error _ => assigned

/-- An id that is somewhere was given to the connection it is with. -/
structure AnsweredAt (assigned : Option ClientId) (t : ServerSession) : Prop where
  ack : ∀ {id}, .clientConnectedAck id ∈ t.conn.specific.toConnectionSend.sent → assigned = some id
  clientId : ∀ {id}, t.clientId = some id → assigned = some id

/-- Ids are given out one after the other, each to one connection, and each is with its connection. -/
structure Answered (s : ServerSessions) (assigned : ℕ → Option ClientId) : Prop where
  issued : Issued assigned s.clientIdGen
  fits : ∀ {n id}, assigned n = some id → id < 2 ^ 64
  each : ∀ n, AnsweredAt (assigned n) (s.conns n)
  clients : ∀ {k n}, s.clients.lookup k = some n → assigned n = some k
  /-- Each connection is handed over once, and is given an id only then. -/
  once : (s.fromAsyncEndpoint.sent.filterMap handedOver).Nodup
  signaled : ∀ {n}, .clientConnected n ∈ s.fromAsyncEndpoint.sent → (s.conns n).task ≠ .signaling
  handled : ∀ {n id}, assigned n = some id → .clientConnected n ∈ s.fromAsyncEndpoint.received

/-- An id is kept when one is given to a connection that has none. -/
theorem assign_eq_some (hn : assigned n = none) (result : Except AsyncChannelError ClientId) {m : ℕ}
    {id : ClientId} (hm : assigned m = some id) : assign assigned n result m = some id := by
  cases result with
  | error => exact hm
  | ok => exact update_eq_some_of_none hn hm

theorem answered_start (recvChannelsCfg : RecvChannelsConfiguration)
    (openedChannels : HashMap ChannelId ChannelConfig) :
    (start recvChannelsCfg openedChannels).Answered fun _ ↦ none where
  issued := .none 0
  fits := nofun
  each _ := ⟨fun h ↦ absurd h List.not_mem_nil, nofun⟩
  clients h := by simp [start] at h
  once := .nil
  signaled h := absurd h List.not_mem_nil
  handled := nofun

/-! ## What changes a connection -/

/-- A connection changes otherwise than by an answer. -/
theorem AnsweredAt.congr {t t' : ServerSession} {id : Option ClientId} (h : AnsweredAt id t)
    (hsent : t'.conn.specific.toConnectionSend.sent = t.conn.specific.toConnectionSend.sent)
    (hid : t'.clientId = t.clientId) : AnsweredAt id t' :=
  ⟨fun hack ↦ h.ack (hsent ▸ hack), fun ht ↦ h.clientId (hid ▸ ht)⟩

theorem AnsweredAt.step {t t' : ServerSession} {a : ServerSessionAct} {id : Option ClientId}
    (h : AnsweredAt id t) (hstep : ServerSession.Step sharedClientId t a t') : AnsweredAt id t' := by
  refine ⟨fun hack ↦ h.ack (hstep.frame.1 ▸ hack), fun {id'} ht ↦ ?_⟩
  rcases hstep.clientId_cases with hsame | ⟨id, hid, hack⟩
  · exact h.clientId (hsame ▸ ht)
  · rw [hid] at ht
    exact h.ack (Option.some.inj ht ▸ hack)

theorem AnsweredAt.close {t : ServerSession} {id : Option ClientId} (h : AnsweredAt id t)
    (receivers : Bool) (reason : CloseReason) : AnsweredAt id (t.close receivers reason) :=
  h.congr (by rw [show (t.close receivers reason).conn.specific = t.conn.specific from
    PeerConnection.specific_close receivers reason]) rfl

theorem AnsweredAt.taskEnded {t : ServerSession} {id : Option ClientId} (h : AnsweredAt id t) :
    AnsweredAt id t.taskEnded :=
  h.congr (by rw [t.taskEnded_link.2.2.2]; rfl) rfl

theorem AnsweredAt.answered {t : ServerSession} (h : AnsweredAt none t) (conn : ServerSideConnection)
    (clientId : ClientId) : AnsweredAt (some clientId) (t.answered conn clientId) := by
  refine ⟨fun {id} hack ↦ ?_, fun {id} hid ↦ ?_⟩
  · rw [ServerSession.sent_answered] at hack
    rcases List.mem_append.1 hack with hack | hack
    · cases h.ack hack
    · obtain rfl : id = clientId := by simpa using hack
      rfl
  · cases h.clientId hid

theorem Answered.withSession (h : s.Answered assigned) {t : ServerSession}
    (ht : AnsweredAt (assigned n) t) (htask : t.task = .signaling → (s.conns n).task = .signaling) :
    (s.withSession n t).Answered assigned :=
  { h with
    each := forall_withSession ht fun m _ ↦ h.each m
    signaled := fun {m} hm ↦ by
      rw [conns_withSession]
      split_ifs with hmn
      · exact fun hsignaling ↦ h.signaled (hmn ▸ hm) (htask hsignaling)
      · exact h.signaled hm }

/-- Clients leave the map. -/
theorem Answered.withClients (h : s.Answered assigned) {clients : HashMap ClientId ℕ}
    (hsub : ∀ {k m}, clients.lookup k = some m → s.clients.lookup k = some m) :
    Answered { s with clients } assigned :=
  { h with clients := fun hk ↦ h.clients (hsub hk) }

theorem Answered.remove (h : s.Answered assigned) (clientId : ClientId) (receivers : Bool)
    (reason : CloseReason) : (s.remove clientId receivers reason).Answered assigned := by
  rw [ServerSessions.remove]
  split
  · rename_i n hn
    refine (h.withSession ((h.each n).close receivers reason) id).withClients fun {k m} hk ↦ ?_
    rw [HashMap.lookup_erase_eq_ite] at hk
    split_ifs at hk
    exact hk
  · exact h

theorem Answered.internalDisconnectClient (h : s.Answered assigned) (clientId : ClientId)
    (receivers : Bool) (reason : CloseReason) :
    (s.internalDisconnectClient clientId receivers reason).2.Answered assigned := by
  have hremove := h.remove clientId receivers reason
  rw [ServerSessions.internalDisconnectClient]
  split
  · simp only
    split <;> exact { hremove with }
  · exact h

theorem Answered.replace (h : s.Answered assigned) (clientId : ClientId) :
    (s.replace clientId).Answered assigned := by
  rw [ServerSessions.replace]
  split
  · rename_i n hn
    exact h.withSession ((h.each n).congr rfl rfl) id
  · exact h

/-! ## The queue of the endpoint -/

/-- A connection is handed over. -/
theorem Answered.signal (h : s.Answered assigned) (htask : (s.conns n).task = .signaling) :
    Answered { s.withSession n { s.conns n with task := .waiting } with
      fromAsyncEndpoint := s.fromAsyncEndpoint.push (.clientConnected n) } assigned := by
  have hnew : .clientConnected n ∉ s.fromAsyncEndpoint.sent := fun hmem ↦ h.signaled hmem htask
  have hwaiting : (s.withSession n { s.conns n with task := .waiting }).Answered assigned :=
    h.withSession ((h.each n).congr rfl rfl) (by rintro ⟨⟩)
  refine { hwaiting with
    once := nodup_push_connected h.once hnew, signaled := fun {m} hm ↦ ?_, handled := h.handled }
  rw [Mpsc.sent_push, List.mem_append, List.mem_singleton] at hm
  rcases hm with hm | hm
  · exact hwaiting.signaled hm
  · obtain rfl : m = n := EndpointMessage.clientConnected.inj hm
    rw [conns_withSession, if_pos rfl]
    rintro ⟨⟩

/-- A watcher reports. -/
theorem Answered.push (h : s.Answered assigned) (clientId : ClientId) : Answered { s with
    fromAsyncEndpoint := s.fromAsyncEndpoint.push (.clientConnectionClosed clientId) } assigned := by
  refine { h with
    once := nodup_push_closed h.once, signaled := fun {m} hm ↦ h.signaled ?_, handled := h.handled }
  simpa using hm

/-- A message is taken from the queue. -/
theorem Answered.recv (h : s.Answered assigned) {m : EndpointMessage} {q : Mpsc EndpointMessage}
    (hq : s.fromAsyncEndpoint.recv = some (m, q)) :
    Answered { s with fromAsyncEndpoint := q } assigned := by
  have hsent := Mpsc.sent_of_recv hq
  refine { h with once := hsent ▸ h.once, signaled := fun hm ↦ h.signaled (hsent ▸ hm), handled := ?_ }
  intro n id hn
  simp only [Mpsc.received_of_recv hq]
  exact List.mem_append_left _ (h.handled hn)

/-- A connection whose message is in the queue has no id yet. -/
theorem Answered.not_assigned (h : s.Answered assigned) {q : Mpsc EndpointMessage}
    (hq : s.fromAsyncEndpoint.recv = some (.clientConnected n, q)) : assigned n = none := by
  cases hn : assigned n with
  | none => rfl
  | some id => exact absurd (h.handled hn) (not_received_of_nodup h.once hq)

/-! ## New connections -/

/-- A new connection is refused, and at most an id is used up; or it becomes a client under the next
id. -/
theorem handleNewConnection_cases (s : ServerSessions) (order : List ChannelId) (receivers : Bool)
    (n : ℕ) : ∃ c, Uses (s.conns n).conn c ∧
      ((∃ e clientIdGen, s.handleNewConnection order receivers n = (.error e,
          { s with clientIdGen }.withSession n
            (((s.conns n).withConn c).close receivers .localOrder))) ∨
        s.handleNewConnection order receivers n =
          (.ok ((s.clientIdGen + 1) % 2 ^ 64), s.withNextClient n c)) := by
  have huses := uses_createConnectionChannels (s.openedChannels.entriesIn order) (s.conns n).conn
  rcases hc : ServerEndpoint.createConnectionChannels (s.openedChannels.entriesIn order)
    (s.conns n).conn with ⟨r, c⟩
  rw [hc] at huses
  refine ⟨c, huses, ?_⟩
  cases r with
  | error e =>
    rw [handleNewConnection, hc]
    exact .inl ⟨e, s.clientIdGen, rfl⟩
  | ok =>
    by_cases hready : (s.conns n).conn.specific.toConnectionSend.Ready
    · exact .inr (handleNewConnection_of_ready hc hready receivers)
    · obtain ⟨e, he⟩ := Mpsc.trySend_of_not_ready hready
        (.clientConnectedAck ((s.clientIdGen + 1) % 2 ^ 64))
      have hspecific : c.specific = (s.conns n).conn.specific := huses.specific
      rw [handleNewConnection, hc]
      simp only [hspecific, he]
      exact .inl ⟨_, _, rfl⟩

theorem accepted_remove (s : ServerSessions) (clientId : ClientId) (receivers : Bool)
    (reason : CloseReason) : (s.remove clientId receivers reason).accepted = s.accepted := by
  rw [ServerSessions.remove]
  split <;> rfl

theorem accepted_internalDisconnectClient (s : ServerSessions) (clientId : ClientId)
    (receivers : Bool) (reason : CloseReason) :
    (s.internalDisconnectClient clientId receivers reason).2.accepted = s.accepted := by
  rw [ServerSessions.internalDisconnectClient]
  split
  · simp only
    split <;> exact s.accepted_remove clientId receivers reason
  · rfl

/-- Only `accept` takes a place for a connection. -/
theorem accepted_step (h : Step sharedClientId s a s') (ha : a ≠ .accept) : s'.accepted = s.accepted := by
  cases h with
  | accept => exact absurd rfl ha
  | @handle m q order receivers hq ho =>
    cases m with
    | clientConnected n =>
      obtain ⟨c, -, ⟨e, clientIdGen, heq⟩ | heq⟩ :=
        handleNewConnection_cases { s with fromAsyncEndpoint := q } order receivers n
      · rw [handleMessage, heq]
        rfl
      · obtain ⟨conns, -, -, hreplace⟩ :=
          s.replace_eq ((s.clientIdGen + 1) % 2 ^ 64) ((s.clientIdGen + 1) % 2 ^ 64) q
        simp only [withNextClient, hreplace] at heq
        rw [handleMessage, heq]
        rfl
    | clientConnectionClosed clientId =>
      rw [handleMessage]
      split
      · exact accepted_internalDisconnectClient ..
      · rfl
  | disconnectClient => exact accepted_internalDisconnectClient ..
  | drainClient => exact accepted_remove ..
  | _ => rfl

/-- A connection whose message is taken from the queue is given the next id. -/
theorem Answered.issue (h : s.Answered assigned) {q : Mpsc EndpointMessage}
    (hq : s.fromAsyncEndpoint.recv = some (.clientConnected n, q))
    (hfits : s.clientIdGen + 1 < 2 ^ 64) :
    Answered { s with fromAsyncEndpoint := q, clientIdGen := s.clientIdGen + 1 }
      (Function.update assigned n (some (s.clientIdGen + 1))) := by
  have hnone := h.not_assigned hq
  have hrecv := h.recv hq
  have hother : ∀ {m id}, assigned m = some id →
      Function.update assigned n (some (s.clientIdGen + 1)) m = some id := update_eq_some_of_none hnone
  refine { hrecv with
    issued := h.issued.issue n (Nat.lt_succ_self _)
    fits := fun {m id} hm ↦ ?_
    each := fun m ↦ ⟨fun hack ↦ hother ((h.each m).ack hack), fun hid ↦ hother ((h.each m).clientId hid)⟩
    clients := fun hk ↦ hother (h.clients hk)
    handled := fun {m id} hm ↦ ?_ }
  · rcases update_eq_some hm with ⟨-, hid⟩ | hm
    · exact Option.some.inj hid ▸ hfits
    · exact h.fits hm
  · rcases update_eq_some hm with ⟨rfl, -⟩ | hm
    · simp [Mpsc.received_of_recv hq]
    · exact hrecv.handled hm

/-- A connection that becomes a client has the next id, which is new. -/
theorem Answered.withNextClient (h : s.Answered assigned) {q : Mpsc EndpointMessage}
    (hq : s.fromAsyncEndpoint.recv = some (.clientConnected n, q)) (c : ServerSideConnection)
    (hgen : s.CountsOn (withNextClient { s with fromAsyncEndpoint := q } n c)) :
    (withNextClient { s with fromAsyncEndpoint := q } n c).Answered
      (Function.update assigned n (some ((s.clientIdGen + 1) % 2 ^ 64))) := by
  obtain ⟨conns, -, -, hreplace⟩ :=
    s.replace_eq ((s.clientIdGen + 1) % 2 ^ 64) ((s.clientIdGen + 1) % 2 ^ 64) q
  have hfits := Nat.mod_lt (s.clientIdGen + 1) (Nat.two_pow_pos 64)
  simp only [ServerSessions.withNextClient, hreplace] at hgen ⊢
  have hone := ServerEndpoint.clientIdGen_of_countsOn hgen
  rw [hone] at hreplace
  simp only [hone] at hfits ⊢
  have hissued := h.issue hq hfits
  have hreplaced := hissued.replace (s.clientIdGen + 1)
  rw [hreplace] at hreplaced
  have hunanswered : AnsweredAt none (s.conns n) := h.not_assigned hq ▸ h.each n
  have ht := hunanswered.answered c (s.clientIdGen + 1)
  have hsent : .clientConnected n ∈ s.fromAsyncEndpoint.sent :=
    List.mem_append_right _ (Mpsc.mem_queued_of_recv hq)
  have hclient := hreplaced.withSession (n := n) (t := (s.conns n).answered c (s.clientIdGen + 1))
    (by rw [Function.update_self]; exact ht) fun htask ↦ absurd htask (h.signaled hsent)
  refine { hclient with clients := fun {k m} hk ↦ ?_ }
  rw [HashMap.lookup_insert_eq_ite] at hk
  split_ifs at hk with hkid
  · obtain rfl := Option.some.inj hk
    rw [hkid, Function.update_self]
  · exact hissued.clients hk

/-- **A connection that is accepted is given the next id, which is new**, and one that is refused is given
none. -/
theorem Answered.handleNewConnection (h : s.Answered assigned) {order : List ChannelId}
    {receivers : Bool} {q : Mpsc EndpointMessage}
    (hq : s.fromAsyncEndpoint.recv = some (.clientConnected n, q))
    (hgen : s.CountsOn
      (handleNewConnection { s with fromAsyncEndpoint := q } order receivers n).2) :
    (handleNewConnection { s with fromAsyncEndpoint := q } order receivers n).2.Answered
      (assign assigned n
        (handleNewConnection { s with fromAsyncEndpoint := q } order receivers n).1) := by
  obtain ⟨c, huses, ⟨e, clientIdGen, heq⟩ | heq⟩ :=
    handleNewConnection_cases { s with fromAsyncEndpoint := q } order receivers n
  · rw [heq] at hgen ⊢
    have hskip : Answered { s with fromAsyncEndpoint := q, clientIdGen } assigned :=
      { h.recv hq with issued := h.issued.skip hgen }
    have hconn : AnsweredAt (assigned n) ((s.conns n).withConn c) :=
      (h.each n).congr (congrArg (fun s ↦ s.toConnectionSend.sent) huses.specific) rfl
    exact hskip.withSession (hconn.close receivers .localOrder) id
  · rw [heq] at hgen ⊢
    exact h.withNextClient hq c hgen

/-- **Every other step leaves the ids with the connections they were given to.** -/
theorem Answered.step (h : s.Answered assigned) (hstep : Step sharedClientId s a s')
    (ha : ∀ n, a ≠ .handle (.clientConnected n)) : s'.Answered assigned := by
  cases hstep with
  | accept => exact { h with }
  | signal hn htask hq => exact h.signal htask
  | @session n a t hn hstep =>
    exact h.withSession ((h.each n).step hstep) hstep.frame.2.1.1
  | @watcherSignal n clientId hn hwatcher hid hq =>
    have hended : Answered (s.withSession n { s.conns n with watcher := .ended }) assigned :=
      h.withSession ((h.each n).congr rfl rfl) fun htask ↦ htask
    exact hended.push clientId
  | @handle m q order receivers hq ho =>
    cases m with
    | clientConnected n => exact absurd rfl (ha n)
    | clientConnectionClosed clientId =>
      have hrecv := h.recv hq
      rw [handleMessage]
      split
      · exact hrecv.internalDisconnectClient clientId receivers _
      · exact hrecv
  | disconnectClient clientId receivers => exact h.internalDisconnectClient clientId receivers _
  | drainClient clientId receivers => exact h.remove clientId receivers _
  | @use clientId n conn hk huses =>
    refine h.withSession ((h.each n).congr ?_ rfl) fun htask ↦ htask
    exact congrArg (fun s ↦ s.toConnectionSend.sent) huses.specific
  | configure => exact { h with }

end ServerSessions

end BevyIroh
