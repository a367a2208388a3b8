import BevyIroh.Server.OpenChannel

/-!
# The server's connection events

`handle_server_events` runs once a frame and has three parts: it takes the messages of the async tasks
from the endpoint's queue, then asks each client's channels whether they have lost the connection, and
at last disconnects the clients that have.  The loss of one client is reported over both ways, in one
frame or in several, and possibly after the application has disconnected it.

The parts are loops over queues that the tasks go on filling, so the system is a state machine: `Phase`
says where it is, and the tasks may take a step anywhere.  `EventsSound` holds all along
(`server_events_well_formed`): the map of clients tells the known from the departed, the set
`lostClients` those reported in this frame from the others, and nobody in the map has been reported
lost except those still to be disconnected.
-/

set_option autoImplicit false

namespace BevyIroh

open Transition ServerEndpoint

/-! ## The system -/

/-- The Bevy messages `ConnectionEvent` and `ConnectionLostEvent`. -/
inductive ServerEvent where
  | connection (id : ClientId)
  | connectionLost (id : ClientId)
deriving DecidableEq, Repr

namespace ServerEvent

def connected : ServerEvent → Option ClientId
  | .connection id => some id
  | .connectionLost _ => none

def lost : ServerEvent → Option ClientId
  | .connection _ => none
  | .connectionLost id => some id

end ServerEvent

/-- Where `handle_server_events` is. -/
inductive Phase where
  /-- Between two frames. -/
  | idle
  | messages
  /-- These clients are still to be asked; the first is the one whose queue is being emptied. -/
  | channels (todo : List ClientId)
  /-- These clients are still to be disconnected. -/
  | draining (todo : List ClientId)
deriving DecidableEq, Repr

/-- The endpoint, the system's `Local` set, and all the events written so far. -/
structure ServerSystem where
  endpoint : ServerEndpoint
  lostClients : Finset ClientId
  events : List ServerEvent
  phase : Phase

namespace ServerSystem

def start (endpoint : ServerEndpoint) : ServerSystem where
  endpoint := endpoint
  lostClients := ∅
  events := []
  phase := .idle

/-- The body of the first loop.  `receivers` is as for `internalDisconnectClient`. -/
def handleMessage (self : ServerSystem) (order : List ChannelId) (receivers : Bool) :
    ServerAsyncMessage → ServerSystem
  | .clientConnected newConnection =>
    match self.endpoint.handleNewConnection order newConnection with
    | (.ok clientId, endpoint) =>
      { self with endpoint, events := self.events ++ [.connection clientId] }
    | (.error _, endpoint) => { self with endpoint }
  | .clientConnectionClosed clientId =>
    if clientId ∈ self.endpoint.clients then
      { self with
        endpoint := self.endpoint.tryDisconnectClosedClient clientId receivers
        events := self.events ++ [.connectionLost clientId] }
    else self

/-- The body of the second loop, for a `LostConnection` from the channels of `clientId`. -/
def handleLostConnection (self : ServerSystem) (clientId : ClientId) : ServerSystem :=
  if clientId ∈ self.lostClients then self
  else
    { self with
      lostClients := insert clientId self.lostClients
      events := self.events ++ [.connectionLost clientId] }

def withEndpoint (self : ServerSystem) (endpoint : ServerEndpoint) : ServerSystem :=
  { self with endpoint }

/-- The same clients, and as many ids given out. -/
structure SameClients (s s' : ServerEndpoint) : Prop where
  clients : ∀ {k}, k ∈ s'.clients ↔ k ∈ s.clients
  clientIdGen : s'.clientIdGen = s.clientIdGen

inductive Action where
  | app (a : ServerEndpoint.Action)
  | tasks
  | begin
  | message (m : ServerAsyncMessage)
  | askChannels
  | lostConnection (clientId : ClientId)
  | nextClient
  | drain
  | disconnect (clientId : ClientId)
  | finish

/-- The counter of client ids goes on: a build with overflow checks panics before it would start again
at zero. -/
def CountsOn (s s' : ServerEndpoint) : Prop := s.clientIdGen ≤ s'.clientIdGen

instance (s s' : ServerEndpoint) : Decidable (CountsOn s s') :=
  inferInstanceAs (Decidable (s.clientIdGen ≤ s'.clientIdGen))

inductive Step : ServerSystem → Action → ServerSystem → Prop
  /-- Between two frames the application calls what it likes; new connections are not its business. -/
  | app {s : ServerSystem} {a : ServerEndpoint.Action} {endpoint : ServerEndpoint}
      (hp : s.phase = .idle) (h : ServerEndpoint.Step s.endpoint a endpoint)
      (ha : ∀ order connection, a ≠ .handleNewConnection order connection) :
      Step s (.app a) (s.withEndpoint endpoint)
  /-- The tasks put messages in any of the queues, or end; or the application sends and receives. -/
  | tasks {s : ServerSystem} {endpoint : ServerEndpoint} (h : SameClients s.endpoint endpoint) :
      Step s .tasks (s.withEndpoint endpoint)
  | begin {s : ServerSystem} (hp : s.phase = .idle) : Step s .begin { s with phase := .messages }
  | message {s : ServerSystem} {m : ServerAsyncMessage} {q : Mpsc ServerAsyncMessage}
      {order : List ChannelId} (receivers : Bool) (hp : s.phase = .messages)
      (hq : s.endpoint.fromAsyncEndpoint.recv = some (m, q))
      (ho : s.endpoint.openedChannels.IsOrder order)
      (hgen : CountsOn s.endpoint
        ((s.withEndpoint { s.endpoint with fromAsyncEndpoint := q }).handleMessage order receivers
          m).endpoint) :
      Step s (.message m)
        ((s.withEndpoint { s.endpoint with fromAsyncEndpoint := q }).handleMessage order receivers m)
  | askChannels {s : ServerSystem} {order : List ClientId} (hp : s.phase = .messages)
      (hq : s.endpoint.fromAsyncEndpoint.recv = none) (ho : s.endpoint.clients.IsOrder order) :
      Step s .askChannels { s with phase := .channels order }
  | lostConnection {s : ServerSystem} {clientId : ClientId} {todo : List ClientId}
      {connection : ServerSideConnection} {q : Mpsc ChannelAsyncMessage}
      (hp : s.phase = .channels (clientId :: todo))
      (hc : s.endpoint.clients.lookup clientId = some connection)
      (hq : connection.fromChannels.recv = some (.lostConnection, q)) :
      Step s (.lostConnection clientId)
        ((s.withEndpoint { s.endpoint with
          clients := s.endpoint.clients.insert clientId
            { connection with fromChannels := q } }).handleLostConnection clientId)
  | nextClient {s : ServerSystem} {clientId : ClientId} {todo : List ClientId}
      (hp : s.phase = .channels (clientId :: todo))
      (hq : ∀ connection, s.endpoint.clients.lookup clientId = some connection →
        connection.fromChannels.recv = none) :
      Step s .nextClient { s with phase := .channels todo }
  | drain {s : ServerSystem} {order : List ClientId} (hp : s.phase = .channels [])
      (ho : order.Nodup) (hmem : ∀ k, k ∈ order ↔ k ∈ s.lostClients) :
      Step s .drain { s with lostClients := ∅, phase := .draining order }
  | disconnect {s : ServerSystem} {clientId : ClientId} {todo : List ClientId} (receivers : Bool)
      (hp : s.phase = .draining (clientId :: todo)) :
      Step s (.disconnect clientId)
        { s with
          endpoint := (s.endpoint.disconnectClient clientId receivers).2
          phase := .draining todo }
  | finish {s : ServerSystem} (hp : s.phase = .draining []) : Step s .finish { s with phase := .idle }

end ServerSystem

/-! ## What happens to the clients -/

namespace ServerEndpoint

variable {s s' : ServerEndpoint}

/-- A new connection is refused, and at most an id is used up; or it becomes a client under the next
id. -/
theorem handleNewConnection_clients (s : ServerEndpoint) (order : List ChannelId)
    (connection : ServerSideConnection) :
    ((∃ e, (s.handleNewConnection order connection).1 = .error e) ∧
      (s.handleNewConnection order connection).2.clients = s.clients ∧
      ((s.handleNewConnection order connection).2.clientIdGen = s.clientIdGen ∨
        (s.handleNewConnection order connection).2.clientIdGen = (s.clientIdGen + 1) % 2 ^ 64)) ∨
    ∃ c, (s.handleNewConnection order connection).1 = .ok ((s.clientIdGen + 1) % 2 ^ 64) ∧
      (s.handleNewConnection order connection).2.clients =
        s.clients.insert ((s.clientIdGen + 1) % 2 ^ 64) c ∧
      (s.handleNewConnection order connection).2.clientIdGen = (s.clientIdGen + 1) % 2 ^ 64 := by
  rw [handleNewConnection]
  split
  · exact .inl ⟨⟨_, rfl⟩, rfl, .inl rfl⟩
  · simp only
    split
    · exact .inr ⟨_, rfl, rfl, rfl⟩
    · exact .inl ⟨⟨_, rfl⟩, rfl, .inr rfl⟩

theorem internalDisconnectClient_clients (s : ServerEndpoint) (clientId : ClientId)
    (receivers : Bool) (reason : CloseReason) :
    (s.internalDisconnectClient clientId receivers reason).2.clients = s.clients.erase clientId ∧
      (s.internalDisconnectClient clientId receivers reason).2.clientIdGen = s.clientIdGen := by
  rw [internalDisconnectClient]
  split
  · simp only
    split <;> exact ⟨rfl, rfl⟩
  · rename_i hnone
    have hsame : s.clients = s.clients.erase clientId := by
      refine Finmap.ext_lookup fun k ↦ ?_
      rw [HashMap.lookup_erase_eq_ite]
      split_ifs with hk
      · rw [hk, hnone]
      · rfl
    exact ⟨hsame, rfl⟩

/-- Who is disconnected is not a client any more, and nobody else leaves. -/
theorem mem_internalDisconnectClient {clientId k : ClientId} {receivers : Bool} {reason : CloseReason} :
    k ∈ (s.internalDisconnectClient clientId receivers reason).2.clients ↔
      k ≠ clientId ∧ k ∈ s.clients := by
  rw [(s.internalDisconnectClient_clients clientId receivers reason).1, Finmap.mem_erase]

theorem openChannel_clientIdGen {order visit : List ClientId} {channelType : ChannelConfig}
    {r : Except ChannelCreationError ChannelId}
    (h : s.openChannel order visit channelType = some (r, s')) : s'.clientIdGen = s.clientIdGen := by
  rw [openChannel_frame h]

theorem closeChannel_clientIdGen {order : List ClientId} {id : ChannelId} :
    (s.closeChannel order id).2.clientIdGen = s.clientIdGen := by
  rw [closeChannel]
  split
  · simp only
    split <;> rfl
  · rfl

/-- Without new connections, clients can only leave. -/
theorem Step.clients_subset {a : Action} (h : Step s a s')
    (ha : ∀ order connection, a ≠ .handleNewConnection order connection) :
    (∀ {k}, k ∈ s'.clients → k ∈ s.clients) ∧ s'.clientIdGen = s.clientIdGen := by
  cases h with
  | openChannel ho hv h =>
    refine ⟨fun {k} ↦ ?_, openChannel_clientIdGen h⟩
    rcases openChannel_cases ho hv h with ⟨-, -, rfl⟩ | ⟨id, ids, -, h | h⟩
    · exact fun hk ↦ hk
    · exact h.2.2.1.mem_iff.1
    · exact h.2.1.mem_iff.1
  | closeChannel channelId ho =>
    refine ⟨fun {k} ↦ ?_, closeChannel_clientIdGen⟩
    rcases hc : s.closeChannel _ channelId with ⟨err | u, s'⟩
    · rcases closeChannel_error ho.nodup hc with ⟨-, rfl⟩ | ⟨-, -, hclients, -⟩
      · exact fun hk ↦ hk
      · exact hclients.mem_iff.1
    · exact (closeChannel_ok ho hc).2.1.mem_iff.1
  | setDefaultChannel channelId => exact ⟨id, rfl⟩
  | handleNewConnection ho hnew => exact absurd rfl (ha _ _)
  | disconnectClient clientId receivers reason =>
    exact ⟨fun hk ↦ (mem_internalDisconnectClient.1 hk).2,
      (s.internalDisconnectClient_clients clientId receivers reason).2⟩
  | disconnectAllClients => exact ⟨fun hk ↦ absurd hk Finmap.notMem_empty, rfl⟩
  | tasks h => exact ⟨h.clients.mem_iff.1, h.clientIdGen⟩

end ServerEndpoint

/-! ## The invariant -/

/-- The ids of the `ConnectionEvent`s, in order. -/
def connectedIds (events : List ServerEvent) : List ClientId := events.filterMap ServerEvent.connected

/-- The ids of the `ConnectionLostEvent`s, in order. -/
def lostIds (events : List ServerEvent) : List ClientId := events.filterMap ServerEvent.lost

/-- Every `ConnectionLostEvent` comes after the `ConnectionEvent` of its client. -/
def LostAfterConnected (events : List ServerEvent) : Prop :=
  ∀ (i : ℕ) (id : ClientId), events[i]? = some (.connectionLost id) → .connection id ∈ events.take i

theorem mem_connectedIds {events : List ServerEvent} {id : ClientId} :
    id ∈ connectedIds events ↔ .connection id ∈ events := by
  simp only [connectedIds, List.mem_filterMap]
  constructor
  · rintro ⟨e, he, hid⟩
    cases e <;> simp only [ServerEvent.connected, Option.some.injEq, reduceCtorEq] at hid
    exact hid ▸ he
  · exact fun h ↦ ⟨_, h, rfl⟩

theorem mem_lostIds {events : List ServerEvent} {id : ClientId} :
    id ∈ lostIds events ↔ .connectionLost id ∈ events := by
  simp only [lostIds, List.mem_filterMap]
  constructor
  · rintro ⟨e, he, hid⟩
    cases e <;> simp only [ServerEvent.lost, Option.some.injEq, reduceCtorEq] at hid
    exact hid ▸ he
  · exact fun h ↦ ⟨_, h, rfl⟩

theorem LostAfterConnected.append {events : List ServerEvent} (h : LostAfterConnected events)
    {e : ServerEvent} (he : ∀ id, e = .connectionLost id → .connection id ∈ events) :
    LostAfterConnected (events ++ [e]) := by
  intro i id hi
  rcases Nat.lt_trichotomy i events.length with hlt | rfl | hgt
  · rw [List.getElem?_append_left hlt] at hi
    rw [List.take_append_of_le_length (Nat.le_of_lt hlt)]
    exact h i id hi
  · rw [List.getElem?_append_right (Nat.le_refl _), Nat.sub_self] at hi
    rw [List.take_append_of_le_length (Nat.le_refl _), List.take_length]
    exact he id (Option.some.inj hi)
  · rw [List.getElem?_eq_none (by simp; omega)] at hi
    cases hi

theorem LostAfterConnected.mem {events : List ServerEvent} (h : LostAfterConnected events)
    {id : ClientId} (hid : id ∈ lostIds events) : id ∈ connectedIds events := by
  obtain ⟨i, hi⟩ := List.getElem?_of_mem (mem_lostIds.1 hid)
  exact mem_connectedIds.2 (List.mem_of_mem_take (h i id hi))

namespace ServerSystem

/-- The client was reported lost in this frame and is still to be disconnected. -/
def Pending (s : ServerSystem) (id : ClientId) : Prop :=
  match s.phase with
  | .draining todo => id ∈ todo
  | _ => id ∈ s.lostClients

structure EventsSound (s : ServerSystem) : Prop where
  increasing : (connectedIds s.events).Pairwise (· < ·)
  given : ∀ id ∈ connectedIds s.events, id ≤ s.endpoint.clientIdGen
  clients : ∀ {id}, id ∈ s.endpoint.clients → id ∈ connectedIds s.events
  lost_nodup : (lostIds s.events).Nodup
  lost_after : LostAfterConnected s.events
  /-- Only a client that is still to be disconnected is in the map although it was reported lost. -/
  pending : ∀ {id}, id ∈ lostIds s.events → id ∈ s.endpoint.clients → s.Pending id
  lostClients : s.lostClients ≠ ∅ → ∃ todo, s.phase = .channels todo

variable {s s' : ServerSystem} {id : ClientId}

theorem eventsSound_start {endpoint : ServerEndpoint} (h : endpoint.clients = ∅) :
    (start endpoint).EventsSound where
  increasing := .nil
  given id hid := by simp [start, connectedIds] at hid
  clients hid := by
    have hid : _ ∈ endpoint.clients := hid
    rw [h] at hid
    exact absurd hid Finmap.notMem_empty
  lost_nodup := .nil
  lost_after i id hi := by simp [start] at hi
  pending hid := by simp [start, lostIds] at hid
  lostClients hne := absurd rfl hne

/-- Steps that write no event and let no client in. -/
theorem EventsSound.quiet (h : s.EventsSound) (hevents : s'.events = s.events)
    (hclients : ∀ {k}, k ∈ s'.endpoint.clients → k ∈ s.endpoint.clients)
    (hgen : s.endpoint.clientIdGen ≤ s'.endpoint.clientIdGen)
    (hpending : ∀ {k}, k ∈ s'.endpoint.clients → s.Pending k → s'.Pending k)
    (hlost : s'.lostClients ≠ ∅ → ∃ todo, s'.phase = .channels todo) : s'.EventsSound where
  increasing := hevents ▸ h.increasing
  given id hid := Nat.le_trans (h.given id (hevents ▸ hid)) hgen
  clients hk := hevents ▸ h.clients (hclients hk)
  lost_nodup := hevents ▸ h.lost_nodup
  lost_after := hevents ▸ h.lost_after
  pending hid hk := hpending hk (h.pending (hevents ▸ hid) (hclients hk))
  lostClients := hlost

/-- A client is let in under an id that was not given before. -/
theorem EventsSound.connect (h : s.EventsSound)
    (hevents : s'.events = s.events ++ [.connection s'.endpoint.clientIdGen])
    (hclients : ∀ {k}, k ∈ s'.endpoint.clients → k = s'.endpoint.clientIdGen ∨ k ∈ s.endpoint.clients)
    (hgen : s.endpoint.clientIdGen < s'.endpoint.clientIdGen)
    (hpending : ∀ {k}, s.Pending k → s'.Pending k)
    (hlost : s'.lostClients ≠ ∅ → ∃ todo, s'.phase = .channels todo) : s'.EventsSound := by
  have hconnected : connectedIds s'.events =
      connectedIds s.events ++ [s'.endpoint.clientIdGen] := by
    rw [hevents, connectedIds, List.filterMap_append]
    rfl
  have hlostIds : lostIds s'.events = lostIds s.events := by
    rw [hevents, lostIds, List.filterMap_append]
    exact List.append_nil _
  refine ⟨?_, fun k hk ↦ ?_, fun {k} hk ↦ ?_, hlostIds ▸ h.lost_nodup, ?_, fun {k} hid hk ↦ ?_, hlost⟩
  · rw [hconnected]
    refine List.pairwise_append.2 ⟨h.increasing, List.pairwise_singleton _ _, fun a ha b hb ↦ ?_⟩
    rw [List.mem_singleton.1 hb]
    exact Nat.lt_of_le_of_lt (h.given a ha) hgen
  · rw [hconnected, List.mem_append, List.mem_singleton] at hk
    rcases hk with hk | rfl
    · exact Nat.le_trans (h.given k hk) (Nat.le_of_lt hgen)
    · exact Nat.le_refl _
  · rw [hconnected, List.mem_append, List.mem_singleton]
    exact (hclients hk).symm.imp_left h.clients
  · rw [hevents]
    exact h.lost_after.append (by rintro _ ⟨⟩)
  · rw [hlostIds] at hid
    have hle := h.given k (h.lost_after.mem hid)
    rcases hclients hk with rfl | hk
    · exact absurd hle (Nat.not_le.2 hgen)
    · exact hpending (h.pending hid hk)

/-- A client that was not reported yet is reported lost. -/
theorem EventsSound.lose (h : s.EventsSound) (hid : id ∈ s.endpoint.clients)
    (hnew : id ∉ lostIds s.events) (hevents : s'.events = s.events ++ [.connectionLost id])
    (hclients : ∀ {k}, k ∈ s'.endpoint.clients → k ∈ s.endpoint.clients)
    (hgen : s.endpoint.clientIdGen ≤ s'.endpoint.clientIdGen)
    (hpending : ∀ {k}, k ∈ s'.endpoint.clients → s.Pending k ∨ k = id → s'.Pending k)
    (hlost : s'.lostClients ≠ ∅ → ∃ todo, s'.phase = .channels todo) : s'.EventsSound := by
  have hconnected : connectedIds s'.events = connectedIds s.events := by
    rw [hevents, connectedIds, List.filterMap_append]
    exact List.append_nil _
  have hlostIds : lostIds s'.events = lostIds s.events ++ [id] := by
    rw [hevents, lostIds, List.filterMap_append]
    rfl
  refine ⟨hconnected ▸ h.increasing, fun k hk ↦ Nat.le_trans (h.given k (hconnected ▸ hk)) hgen,
    fun hk ↦ hconnected ▸ h.clients (hclients hk), ?_, ?_, fun {k} hk hmem ↦ ?_, hlost⟩
  · rw [hlostIds]
    refine List.nodup_append.2 ⟨h.lost_nodup, List.nodup_singleton _, fun a ha b hb hab ↦ hnew ?_⟩
    rw [← List.mem_singleton.1 hb, ← hab]
    exact ha
  · rw [hevents]
    refine h.lost_after.append fun k hk ↦ ?_
    obtain rfl := ServerEvent.connectionLost.inj hk
    exact mem_connectedIds.1 (h.clients hid)
  · rw [hlostIds, List.mem_append, List.mem_singleton] at hk
    exact hpending hmem (hk.imp_left fun hk ↦ h.pending hk (hclients hmem))

/-! ## One step -/

theorem lostClients_eq_empty (h : s.EventsSound) (hp : ∀ todo, s.phase ≠ .channels todo) :
    s.lostClients = ∅ := by
  by_contra hne
  obtain ⟨todo, htodo⟩ := h.lostClients hne
  exact hp todo htodo

/-- **A message of the async tasks** lets in a new client, or reports one that is in the map; a late
one, about a client that has left, does nothing. -/
theorem EventsSound.message (h : s.EventsSound) (hp : s.phase = .messages) {order : List ChannelId}
    {receivers : Bool} (m : ServerAsyncMessage)
    (hgen : CountsOn s.endpoint (s.handleMessage order receivers m).endpoint) :
    (s.handleMessage order receivers m).EventsSound := by
  have hempty : s.lostClients = ∅ := lostClients_eq_empty h fun todo ↦ by rw [hp]; rintro ⟨⟩
  cases m with
  | clientConnected connection =>
    have hcases := s.endpoint.handleNewConnection_clients order connection
    rcases hnew : s.endpoint.handleNewConnection order connection with ⟨err | clientId, endpoint⟩ <;>
      rw [hnew] at hcases
    · have hmsg : s.handleMessage order receivers (.clientConnected connection) =
          s.withEndpoint endpoint := by rw [handleMessage, hnew]; rfl
      rw [hmsg] at hgen ⊢
      obtain ⟨-, hclients, -⟩ | ⟨c, hok, -⟩ := hcases
      · exact h.quiet rfl (fun hk ↦ hclients ▸ hk) hgen (fun _ hk ↦ hk) fun hne ↦ absurd hempty hne
      · cases hok
    · have hmsg : s.handleMessage order receivers (.clientConnected connection) =
          { s with endpoint, events := s.events ++ [.connection clientId] } := by
        rw [handleMessage, hnew]
      rw [hmsg] at hgen ⊢
      obtain ⟨⟨e, he⟩, -⟩ | ⟨c, hok, hclients, hid⟩ := hcases
      · cases he
      · obtain rfl := Except.ok.inj hok
        have hid : endpoint.clientIdGen = (s.endpoint.clientIdGen + 1) % 2 ^ 64 := hid
        have hle : s.endpoint.clientIdGen ≤ endpoint.clientIdGen := hgen
        have hnext := ServerEndpoint.clientIdGen_of_countsOn (hle.trans_eq hid)
        refine h.connect (congrArg (fun n ↦ s.events ++ [.connection n]) hid.symm) (fun {k} hk ↦ ?_) ?_
          (fun hk ↦ hk) fun hne ↦ absurd hempty hne
        · have hk : k ∈ _ := hk
          rw [hclients] at hk
          exact (Finmap.mem_insert.1 hk).imp_left fun hk ↦ hk.trans hid.symm
        · have hlt : s.endpoint.clientIdGen < s.endpoint.clientIdGen + 1 := Nat.lt_succ_self _
          exact hlt.trans_eq (hid.trans hnext).symm
  | clientConnectionClosed clientId =>
    rw [handleMessage] at hgen ⊢
    split_ifs with hmem
    · rw [if_pos hmem] at hgen
      have hnew : clientId ∉ lostIds s.events := fun hlost ↦ by
        have hpending := h.pending hlost hmem
        simp [Pending, hp, hempty] at hpending
      exact h.lose hmem hnew rfl (fun hk ↦ (mem_internalDisconnectClient.1 hk).2) hgen
        (fun hk hpend ↦ hpend.resolve_right (mem_internalDisconnectClient.1 hk).1)
        fun hne ↦ absurd hempty hne
    · exact h

/-- **A lost connection** is reported once for each client. -/
theorem EventsSound.lostConnection (h : s.EventsSound) {todo : List ClientId}
    (hp : s.phase = .channels todo) (hid : id ∈ s.endpoint.clients) :
    (s.handleLostConnection id).EventsSound := by
  have hpend : ∀ s' : ServerSystem, s'.phase = s.phase → ∀ k, s'.Pending k ↔ k ∈ s'.lostClients :=
    fun s' hphase k ↦ by rw [Pending, hphase, hp]
  rw [handleLostConnection]
  split_ifs with hmem
  · exact h
  · have hnew : id ∉ lostIds s.events := fun hlost ↦ hmem ((hpend s rfl id).1 (h.pending hlost hid))
    refine h.lose hid hnew rfl (fun hk ↦ hk) (Nat.le_refl _) (fun {k} _ hk ↦ ?_) fun _ ↦ ⟨todo, hp⟩
    rw [hpend]
    · exact Finset.mem_insert.2 (hk.symm.imp_right fun hk ↦ (hpend s rfl k).1 hk)
    · rfl

theorem EventsSound.step {a : Action} (h : s.EventsSound) (hs : Step s a s') : s'.EventsSound := by
  cases hs with
  | app hp hstep ha =>
    obtain ⟨hclients, hgen⟩ := hstep.clients_subset ha
    exact h.quiet rfl hclients (Nat.le_of_eq hgen.symm) (fun _ hk ↦ hk) h.lostClients
  | tasks hsame =>
    exact h.quiet rfl hsame.clients.1 (Nat.le_of_eq hsame.clientIdGen.symm) (fun _ hk ↦ hk)
      h.lostClients
  | begin hp =>
    have hempty := lostClients_eq_empty h fun todo ↦ by rw [hp]; rintro ⟨⟩
    refine h.quiet rfl (fun hk ↦ hk) (Nat.le_refl _) (fun _ hk ↦ ?_) fun hne ↦ absurd hempty hne
    rw [Pending, hp] at hk
    exact hk
  | @message m q order receivers hp hq ho hgen =>
    have h' : (s.withEndpoint { s.endpoint with fromAsyncEndpoint := q }).EventsSound :=
      h.quiet rfl (fun hk ↦ hk) (Nat.le_refl _) (fun _ hk ↦ hk) h.lostClients
    exact h'.message hp m hgen
  | askChannels hp hq ho =>
    refine h.quiet rfl (fun hk ↦ hk) (Nat.le_refl _) (fun _ hk ↦ ?_) fun _ ↦ ⟨_, rfl⟩
    rw [Pending, hp] at hk
    exact hk
  | @lostConnection clientId todo connection q hp hc hq =>
    have hkeys : ∀ {k}, k ∈ s.endpoint.clients.insert clientId { connection with fromChannels := q } ↔
        k ∈ s.endpoint.clients := fun {k} ↦ by
      rw [Finmap.mem_insert, or_iff_right_iff_imp]
      rintro rfl
      exact Finmap.mem_of_lookup_eq_some hc
    have h' : (s.withEndpoint { s.endpoint with
        clients := s.endpoint.clients.insert clientId
          { connection with fromChannels := q } }).EventsSound :=
      h.quiet rfl hkeys.1 (Nat.le_refl _) (fun _ hk ↦ hk) h.lostClients
    exact h'.lostConnection hp (hkeys.2 (Finmap.mem_of_lookup_eq_some hc))
  | nextClient hp hq =>
    refine h.quiet rfl (fun hk ↦ hk) (Nat.le_refl _) (fun _ hk ↦ ?_) fun _ ↦ ⟨_, rfl⟩
    rw [Pending, hp] at hk
    exact hk
  | drain hp ho hmem =>
    refine h.quiet rfl (fun hk ↦ hk) (Nat.le_refl _) (fun {k} _ hk ↦ ?_) fun hne ↦ absurd rfl hne
    rw [Pending, hp] at hk
    exact (hmem k).2 hk
  | @disconnect clientId todo receivers hp =>
    have hempty := lostClients_eq_empty h fun todo ↦ by rw [hp]; rintro ⟨⟩
    have hgen := (s.endpoint.internalDisconnectClient_clients clientId receivers .localOrder).2
    have hmem : ∀ {k}, k ∈ (s.endpoint.disconnectClient clientId receivers).2.clients →
        k ≠ clientId ∧ k ∈ s.endpoint.clients := mem_internalDisconnectClient.1
    refine h.quiet rfl (fun hk ↦ (hmem hk).2) (Nat.le_of_eq hgen.symm) (fun {k} hk hpend ↦ ?_)
      fun hne ↦ absurd hempty hne
    rw [Pending, hp] at hpend
    exact (List.mem_cons.1 hpend).resolve_left (hmem hk).1
  | finish hp =>
    have hempty := lostClients_eq_empty h fun todo ↦ by rw [hp]; rintro ⟨⟩
    refine h.quiet rfl (fun hk ↦ hk) (Nat.le_refl _) (fun {k} _ hk ↦ ?_) fun hne ↦ absurd hempty hne
    rw [Pending, hp] at hk
    exact absurd hk List.not_mem_nil

/-! ## Along runs -/

/-- Who is let in gets an id that was not given before. -/
theorem handleMessage_clients {order : List ChannelId} {receivers : Bool} (m : ServerAsyncMessage)
    (hgen : CountsOn s.endpoint (s.handleMessage order receivers m).endpoint)
    (hid : id ∈ (s.handleMessage order receivers m).endpoint.clients) :
    id ∈ s.endpoint.clients ∨ s.endpoint.clientIdGen < id := by
  cases m with
  | clientConnected connection =>
    have hcases := s.endpoint.handleNewConnection_clients order connection
    have hmsg : (s.handleMessage order receivers (.clientConnected connection)).endpoint =
        (s.endpoint.handleNewConnection order connection).2 := by
      rw [handleMessage]
      split <;> rename_i hnew <;> rw [hnew]
    rw [hmsg] at hgen hid
    obtain ⟨-, hclients, -⟩ | ⟨c, -, hclients, hnext⟩ := hcases
    · exact .inl (hclients ▸ hid)
    · have hone := ServerEndpoint.clientIdGen_of_countsOn (hgen.trans_eq hnext)
      rw [hclients, hone, Finmap.mem_insert] at hid
      exact hid.symm.imp_right fun heq ↦ Nat.lt_of_lt_of_eq (Nat.lt_succ_self _) heq.symm
  | clientConnectionClosed clientId =>
    rw [handleMessage] at hid
    split_ifs at hid
    · exact .inl (mem_internalDisconnectClient.1 hid).2
    · exact .inl hid

theorem Step.clients {a : Action} (h : Step s a s') :
    s.endpoint.clientIdGen ≤ s'.endpoint.clientIdGen ∧
      ∀ {k}, k ∈ s'.endpoint.clients → k ∈ s.endpoint.clients ∨ s.endpoint.clientIdGen < k := by
  cases h with
  | app hp hstep ha =>
    obtain ⟨hclients, hgen⟩ := hstep.clients_subset ha
    exact ⟨Nat.le_of_eq hgen.symm, fun hk ↦ .inl (hclients hk)⟩
  | tasks hsame => exact ⟨Nat.le_of_eq hsame.clientIdGen.symm, fun hk ↦ .inl (hsame.clients.1 hk)⟩
  | message receivers hp hq ho hgen => exact ⟨hgen, handleMessage_clients _ hgen⟩
  | lostConnection hp hc hq =>
    rw [handleLostConnection]
    split_ifs <;> refine ⟨Nat.le_refl _, fun {k} hk ↦ .inl ?_⟩ <;>
      rcases Finmap.mem_insert.1 hk with rfl | hk
    · exact Finmap.mem_of_lookup_eq_some hc
    · exact hk
    · exact Finmap.mem_of_lookup_eq_some hc
    · exact hk
  | @disconnect clientId todo receivers hp =>
    have hgen := (s.endpoint.internalDisconnectClient_clients clientId receivers .localOrder).2
    exact ⟨Nat.le_of_eq hgen.symm, fun hk ↦ .inl (mem_internalDisconnectClient.1 hk).2⟩
  | _ => exact ⟨Nat.le_refl _, .inl⟩

/-- A client that has left does not come back. -/
theorem departed_of_reachable (h : s.EventsSound) (hr : Reachable Step (fun _ _ ↦ True) s s')
    (hid : id ∈ connectedIds s.events) (hgone : id ∉ s.endpoint.clients) :
    id ∉ s'.endpoint.clients := by
  suffices hall : id ≤ s'.endpoint.clientIdGen ∧ id ∉ s'.endpoint.clients from hall.2
  refine hr.invariant (P := fun s' ↦ id ≤ s'.endpoint.clientIdGen ∧ id ∉ s'.endpoint.clients)
    ⟨h.given id hid, hgone⟩ fun {t a t'} ht _ hs ↦ ⟨ht.1.trans hs.clients.1, fun hback ↦ ?_⟩
  rcases hs.clients.2 hback with hmem | hlt
  · exact ht.2 hmem
  · exact absurd ht.1 (Nat.not_le.2 hlt)

/-- A late notification about a client that has left changes nothing but the queue it was in. -/
theorem Step.closed_departed (h : Step s (.message (.clientConnectionClosed id)) s')
    (hgone : id ∉ s.endpoint.clients) :
    s'.endpoint.clients = s.endpoint.clients ∧ s'.events = s.events := by
  cases h with
  | @message _ q order receivers hp hq ho hgen =>
    have hgone' : id ∉ (s.withEndpoint { s.endpoint with fromAsyncEndpoint := q }).endpoint.clients :=
      hgone
    rw [handleMessage, if_neg hgone']
    exact ⟨rfl, rfl⟩

/-- What a notification does concerns its own client only. -/
theorem Step.closed_other (h : Step s (.message (.clientConnectionClosed id)) s') {k : ClientId}
    (hk : k ≠ id) :
    s'.endpoint.clients.lookup k = s.endpoint.clients.lookup k ∧
      (.connectionLost k ∈ s'.events → .connectionLost k ∈ s.events) := by
  cases h with
  | @message _ q order receivers hp hq ho hgen =>
    rw [handleMessage]
    split_ifs
    · refine ⟨?_, fun hlost ↦ ?_⟩
      · have hclients := (internalDisconnectClient_clients { s.endpoint with fromAsyncEndpoint := q }
          id receivers .peerClosed).1
        exact (congrArg (Finmap.lookup k) hclients).trans (Finmap.lookup_erase_ne hk)
      · have hlost : .connectionLost k ∈ s.events ++ [.connectionLost id] := hlost
        rw [List.mem_append, List.mem_singleton] at hlost
        exact hlost.resolve_right fun h ↦ hk (ServerEvent.connectionLost.inj h)
    · exact ⟨rfl, fun hlost ↦ hlost⟩

/-- **The server's connection events are well formed.**  In whatever order and number the messages
arrive: the ids of the `ConnectionEvent`s increase strictly, no client is reported lost twice or before
it was reported connected, and between two frames no client that was reported lost is left in the map
nor any in the system's set.  A notification about a client that has left, however late, changes no
client and writes no event, and one about a client that has not concerns no other. -/
theorem server_events_well_formed {cfg : SendChannelsConfiguration}
    {recvCfg : RecvChannelsConfiguration} {e₀ : ServerEndpoint}
    (h₀ : startEndpoint cfg recvCfg = some (.ok (), e₀))
    (h : Reachable Step (fun _ _ ↦ True) (start e₀) s) :
    (connectedIds s.events).Pairwise (· < ·) ∧ (lostIds s.events).Nodup ∧
    LostAfterConnected s.events ∧
    (s.phase = .idle → s.lostClients = ∅ ∧
      ∀ id, .connectionLost id ∈ s.events → id ∉ s.endpoint.clients) ∧
    (∀ id, .connection id ∈ s.events → id ∉ s.endpoint.clients → ∀ s₁ s₂,
      Reachable Step (fun _ _ ↦ True) s s₁ → Step s₁ (.message (.clientConnectionClosed id)) s₂ →
      s₂.endpoint.clients = s₁.endpoint.clients ∧ s₂.events = s₁.events) ∧
    (∀ id s', Step s (.message (.clientConnectionClosed id)) s' → ∀ k, k ≠ id →
      s'.endpoint.clients.lookup k = s.endpoint.clients.lookup k ∧
      (.connectionLost k ∈ s'.events → .connectionLost k ∈ s.events)) := by
  have hs : s.EventsSound :=
    h.invariant (eventsSound_start (startEndpoint_spec h₀).1) fun hs _ hstep ↦ hs.step hstep
  refine ⟨hs.increasing, hs.lost_nodup, hs.lost_after, fun hp ↦ ?_, fun id hid hgone s₁ s₂ hr hstep ↦
    hstep.closed_departed (departed_of_reachable hs hr (mem_connectedIds.2 hid) hgone),
    fun id s' hstep k hk ↦ hstep.closed_other hk⟩
  have hempty := lostClients_eq_empty hs fun todo ↦ by rw [hp]; rintro ⟨⟩
  refine ⟨hempty, fun id hlost hmem ↦ ?_⟩
  have hpending := hs.pending (mem_lostIds.2 hlost) hmem
  simp [Pending, hp, hempty] at hpending

/-! ## A client that joins and is lost in one frame -/

/-- The queue of the async tasks holds a new connection and the end of it. -/
def bothQueued : ServerEndpoint :=
  { started with
    fromAsyncEndpoint.queued := [.clientConnected newConnection, .clientConnectionClosed 1] }

/-- The queue once the first message, or both, have been taken. -/
def queueAfter (n : ℕ) : Mpsc ServerAsyncMessage :=
  { started.fromAsyncEndpoint with
    received := bothQueued.fromAsyncEndpoint.queued.take n
    queued := bothQueued.fromAsyncEndpoint.queued.drop n }

/-- The system after it has taken the first message. -/
def oneHandled : ServerSystem :=
  ({ start { bothQueued with fromAsyncEndpoint := queueAfter 1 } with
      phase := .messages } : ServerSystem).handleMessage [0] true (.clientConnected newConnection)

/-- The system after it has taken both messages. -/
def bothHandled : ServerSystem :=
  (oneHandled.withEndpoint { oneHandled.endpoint with
    fromAsyncEndpoint := queueAfter 2 }).handleMessage [0] true (.clientConnectionClosed 1)

/-- The client is reported connected and lost, in this order, and is gone at the end of the frame. -/
theorem server_events_joined_and_lost :
    bothHandled.events = [.connection 1, .connectionLost 1] ∧
      LostAfterConnected bothHandled.events ∧ 1 ∉ bothHandled.endpoint.clients := by
  have h₁ : Step { start bothQueued with phase := .messages }
      (.message (.clientConnected newConnection)) oneHandled :=
    .message (q := queueAfter 1) true rfl rfl isOrder_started (by decide)
  have h₂ : Step oneHandled (.message (.clientConnectionClosed 1)) bothHandled :=
    .message (q := queueAfter 2) true rfl rfl isOrder_started (by decide)
  have hkeys : bothHandled.endpoint.clients.keys = ∅ := by decide
  have h₃ : Step bothHandled .askChannels { bothHandled with phase := .channels [] } :=
    .askChannels rfl rfl ⟨.nil, fun {k} ↦ by rw [← Finmap.mem_keys, hkeys]; simp⟩
  have hlost : bothHandled.lostClients = ∅ := rfl
  have hevents : bothHandled.events = [.connection 1, .connectionLost 1] := by decide
  have hqueued : Step (start started) .tasks (start bothQueued) := .tasks ⟨.rfl, rfl⟩
  have hreach : Reachable Step (fun _ _ ↦ True) (start started) { bothHandled with phase := .idle } :=
    .next (.next (.next (.next (.next (.next (.next .start trivial hqueued) trivial (.begin rfl))
      trivial h₁) trivial h₂) trivial h₃) trivial
      (.drain rfl .nil fun k ↦ by rw [hlost]; simp)) trivial (.finish rfl)
  obtain ⟨-, -, hafter, hidle, -⟩ := server_events_well_formed startEndpoint_default hreach
  exact ⟨hevents, hafter, (hidle rfl).2 1 (by rw [hevents]; simp)⟩

end ServerSystem

end BevyIroh
