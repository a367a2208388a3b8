import BevyIroh.Client.Receive
import BevyIroh.Server.Events

/-!
# Reading on the server

The received half of a client's connection is in the map of clients, and goes when the client does: at
the notification that it has closed the connection, or when the application disconnects it.  Until then
all that has arrived can be read; after it `receive_payload` does not know the client any more
(`ReadUntilClosed`).

As on the client, `dispatch_received_payloads` may be called whenever `handle_server_events` is not
running, and payloads arrive at any time.
-/

set_option autoImplicit false

namespace BevyIroh

open Transition PeerConnection

inductive ServerReceiveError where
  | unknownClient (clientId : ClientId)
deriving DecidableEq, Repr

namespace ServerEndpoint

def receivePayload (self : ServerEndpoint) (clientId : ClientId) (channelId : ChannelId) :
    Except ServerReceiveError (Option Bytes) × ServerEndpoint :=
  match self.clients.lookup clientId with
  | some connection =>
    let (payload, connection) := connection.internalReceivePayload channelId
    (.ok payload, { self with clients := self.clients.insert clientId connection })
  | none => (.error (.unknownClient clientId), self)

variable {s s' : ServerEndpoint} {k : ClientId} {c c' : ServerSideConnection}

/-! ## What the operations on channels leave alone -/

theorem pointwise_createUnregistered (s : ServerEndpoint) {order : List ClientId} (id : ChannelId)
    (channelType : ChannelConfig) (ho : order.Nodup) : s.clients.Pointwise SameReceived
      (s.createUnregisteredEndpointChannels order id channelType).2.clients := by
  have htry : s.clients.Pointwise SameReceived (s.clients.tryForEach
      (·.createUnregisteredConnectionChannel id channelType) order).2 := by
    refine (HashMap.pointwise_tryForEach ho).mono fun {c _} h ↦ ?_
    rcases h with rfl | rfl
    · exact .refl _
    · exact c.sameReceived_createUnregisteredConnectionChannel id channelType
  rw [createUnregisteredEndpointChannels]
  split <;> rename_i heq <;> rw [heq] at htry
  · exact htry
  · exact htry.comp (HashMap.pointwise_updateEach (R := SameReceived) SameReceived.refl
      fun _ h ↦ h.trans ⟨rfl, rfl⟩) SameReceived.trans

theorem pointwise_createEndpointChannel {order visit : List ClientId} {id : ChannelId}
    {channelType : ChannelConfig} {r : Except AsyncChannelError ChannelId} (ho : order.Nodup)
    (h : s.createEndpointChannel order visit id channelType = some (r, s')) :
    s.clients.Pointwise SameReceived s'.clients := by
  have hcreate := s.pointwise_createUnregistered id channelType ho
  rw [createEndpointChannel] at h
  split at h <;> rename_i heq <;> rw [heq] at hcreate
  · cases h
    exact hcreate
  · simp only at h
    split_ifs at h
    cases h
    exact hcreate.comp (HashMap.pointwise_updateEach (R := SameReceived) SameReceived.refl
      fun channel h ↦ h.trans (sameReceived_registerConnectionChannel _ channel)) SameReceived.trans

theorem pointwise_openChannel {order visit : List ClientId} {channelType : ChannelConfig}
    {r : Except ChannelCreationError ChannelId} (ho : order.Nodup)
    (h : s.openChannel order visit channelType = some (r, s')) :
    s.clients.Pointwise SameReceived s'.clients := by
  rcases ht : s.sendChannelIds.takeId with ⟨e | id, ids⟩ <;> simp only [openChannel, ht] at h
  · cases h
    exact .rfl SameReceived.refl
  · split at h <;> cases h <;> rename_i hcreate <;>
      exact pointwise_createEndpointChannel (s := { s with sendChannelIds := ids }) ho hcreate

theorem pointwise_closeChannel (s : ServerEndpoint) {order : List ClientId} (id : ChannelId)
    (ho : order.Nodup) : s.clients.Pointwise SameReceived (s.closeChannel order id).2.clients := by
  have htry : s.clients.Pointwise SameReceived
      (s.clients.tryForEach (·.internalCloseChannel id) order).2 := by
    refine (HashMap.pointwise_tryForEach ho).mono fun {c _} h ↦ ?_
    rcases h with rfl | rfl
    · exact .refl _
    · exact c.sameReceived_internalCloseChannel id
  rw [closeChannel]
  split
  · simp only
    split <;> rename_i heq <;> rw [heq] at htry <;> exact htry
  · exact .rfl SameReceived.refl

/-- Who is in the map after a call of the application was there before, and nothing has happened to
what was received from it. -/
theorem Step.sameReceived {a : Action} (h : Step s a s')
    (ha : ∀ order connection, a ≠ .handleNewConnection order connection)
    (ht : a = .tasks → s.clients.Pointwise SameReceived s'.clients)
    (hc : s'.clients.lookup k = some c') : ∃ c, s.clients.lookup k = some c ∧ c.SameReceived c' := by
  cases h with
  | openChannel ho hv h => exact (pointwise_openChannel ho.nodup h).lookup_right hc
  | closeChannel id ho => exact (s.pointwise_closeChannel id ho.nodup).lookup_right hc
  | setDefaultChannel id => exact ⟨c', hc, .refl c'⟩
  | handleNewConnection ho hnew => exact absurd rfl (ha _ _)
  | disconnectClient clientId receivers reason =>
    exact ⟨c', (s.internalDisconnectClient_tables clientId receivers reason).2.2 hc, .refl c'⟩
  | disconnectAllClients =>
    have hc : (∅ : HashMap ClientId ServerSideConnection).lookup k = some c' := hc
    simp at hc
  | tasks h => exact (ht rfl).lookup_right hc

theorem sameReceived_createConnectionChannels {channels : List (ChannelId × ChannelConfig)}
    {r : Except AsyncChannelError Unit} (h : createConnectionChannels channels c = (r, c')) :
    c.SameReceived c' := by
  induction channels generalizing c with
  | nil =>
    cases h
    exact .refl _
  | cons x channels ih =>
    have hcreate := c.sameReceived_createConnectionChannel x.1 x.2
    rw [createConnectionChannels] at h
    split at h <;> rename_i heq <;> rw [heq] at hcreate
    · exact hcreate.trans (ih h)
    · cases h
      exact hcreate

/-- A new client comes with what was received on its connection. -/
theorem sameReceived_handleNewConnection (s : ServerEndpoint) (order : List ChannelId)
    (connection : ServerSideConnection)
    (hc : (s.handleNewConnection order connection).2.clients.lookup k = some c') :
    s.clients.lookup k = some c' ∨
      k = (s.clientIdGen + 1) % 2 ^ 64 ∧ connection.SameReceived c' := by
  rw [handleNewConnection] at hc
  split at hc
  · exact .inl hc
  · rename_i heq
    simp only at hc
    split at hc
    · rw [HashMap.lookup_insert_eq_ite] at hc
      split_ifs at hc with hk
      · cases hc
        have hsame := sameReceived_createConnectionChannels heq
        exact .inr ⟨hk, hsame.trans ⟨rfl, rfl⟩⟩
      · exact .inl hc
    · exact .inl hc

end ServerEndpoint

/-! ## Runs -/

/-- A server whose clients are read, with what has come out of it so far for each of them. -/
structure ServerReceiving where
  system : ServerSystem
  handedOut : ClientId → ChannelId → List Bytes
  cleared : ClientId → ChannelId → List Bytes
  errs : ClientId → List RecvChannelError

namespace ServerReceiving

def clients (r : ServerReceiving) : HashMap ClientId ServerSideConnection := r.system.endpoint.clients

def start (endpoint : ServerEndpoint) : ServerReceiving where
  system := .start endpoint
  handedOut _ _ := []
  cleared _ _ := []
  errs _ := []

/-- The connection of a client with the accounts kept of it. -/
def view (r : ServerReceiving) (k : ClientId) (conn : ServerSideConnection) :
    Receiving ServerConnection where
  conn := conn
  handedOut := r.handedOut k
  cleared := r.cleared k
  errs := r.errs k

/-- The same with another connection and other accounts of one client. -/
def withView (r : ServerReceiving) (k : ClientId) (v : Receiving ServerConnection) :
    ServerReceiving where
  system := r.system.withEndpoint { r.system.endpoint with clients := r.clients.insert k v.conn }
  handedOut := Function.update r.handedOut k v.handedOut
  cleared := Function.update r.cleared k v.cleared
  errs := Function.update r.errs k v.errs

/-- After a call of `receivePayload`. -/
def received (r : ServerReceiving) (k : ClientId) (c : ChannelId) : ServerReceiving :=
  { r with
    system := r.system.withEndpoint (r.system.endpoint.receivePayload k c).2
    handedOut := Function.update r.handedOut k (Function.update (r.handedOut k) c
      (r.handedOut k c ++ handed (r.system.endpoint.receivePayload k c).1)) }

inductive Action where
  | system (a : ServerSystem.Action)
  | arrive (clientId : ClientId) (message : ChannelId × Bytes)
  | dispatch
  | receive (clientId : ClientId) (channelId : ChannelId)
  | clear (clientId : ClientId)

/-- The tasks do nothing to what was received, other than the arrivals; and on a new connection nothing
has arrived, as its tasks are spawned later. -/
def KeepsReceived (s s' : ServerEndpoint) : ServerSystem.Action → Prop
  | .tasks => s.clients.Pointwise SameReceived s'.clients
  | .app .tasks => s.clients.Pointwise SameReceived s'.clients
  | .message (.clientConnected connection) => connection.Untouched
  | _ => True

/-- The loop of `dispatch_received_payloads`, over these clients.  More payloads may arrive while it
runs. -/
inductive Dispatches : ServerReceiving → List ClientId → ServerReceiving → Prop
  | nil (r : ServerReceiving) : Dispatches r [] r
  | cons {r r' : ServerReceiving} {k : ClientId} {order : List ClientId}
      {conn conn' : ServerSideConnection} {ms : List (ChannelId × Bytes)}
      {errs : List RecvChannelError} (hc : r.clients.lookup k = some conn)
      (h : conn.DispatchLoop ms errs conn')
      (ht : Dispatches (r.withView k { r.view k conn with conn := conn', errs := r.errs k ++ errs })
        order r') :
      Dispatches r (k :: order) r'

inductive Step : ServerReceiving → Action → ServerReceiving → Prop
  | system {r : ServerReceiving} {a : ServerSystem.Action} {system : ServerSystem}
      (h : ServerSystem.Step r.system a system)
      (hk : KeepsReceived r.system.endpoint system.endpoint a) : Step r (.system a) { r with system }
  | arrive {r : ServerReceiving} {k : ClientId} {conn : ServerSideConnection}
      (m : ChannelId × Bytes) (hc : r.clients.lookup k = some conn) :
      Step r (.arrive k m) (r.withView k { r.view k conn with conn := conn.arrive m })
  | dispatch {r r' : ServerReceiving} {order : List ClientId} (hp : r.system.phase = .idle)
      (ho : r.clients.IsOrder order) (h : Dispatches r order r') : Step r .dispatch r'
  | receive {r : ServerReceiving} (k : ClientId) (c : ChannelId) (hp : r.system.phase = .idle) :
      Step r (.receive k c) (r.received k c)
  /-- The system `clear_stale_received_payloads` comes to this client, or the application does. -/
  | clear {r : ServerReceiving} {k : ClientId} {conn : ServerSideConnection}
      (hp : r.system.phase = .idle) (hc : r.clients.lookup k = some conn) :
      Step r (.clear k) (r.withView k { r.view k conn with
        conn := conn.clearReceivedPayloads
        cleared := fun c ↦ r.cleared k c ++ conn.buffer c })

variable {r r' : ServerReceiving} {k j : ClientId} {conn conn' : ServerSideConnection} {a : Action}

theorem lookup_withView (v : Receiving ServerConnection) :
    (r.withView k v).clients.lookup j = if j = k then some v.conn else r.clients.lookup j :=
  HashMap.lookup_insert_eq_ite _ _ _ _

theorem view_withView_self (v : Receiving ServerConnection) : (r.withView k v).view k v.conn = v := by
  simp [view, withView]

theorem view_withView_of_ne (h : j ≠ k) (v : Receiving ServerConnection) :
    (r.withView k v).view j conn = r.view j conn := by
  simp [view, withView, h]

/-- A client that is not known hands out nothing. -/
theorem received_of_notMem (hk : k ∉ r.clients) (c : ChannelId) :
    r.system.endpoint.receivePayload k c = (.error (.unknownClient k), r.system.endpoint) ∧
      r.received k c = r := by
  have hreceive : r.system.endpoint.receivePayload k c =
      (.error (.unknownClient k), r.system.endpoint) := by
    rw [ServerEndpoint.receivePayload, show r.system.endpoint.clients.lookup k = none from
      Finmap.lookup_eq_none.2 hk]
  refine ⟨hreceive, ?_⟩
  rw [received, hreceive, handed, List.append_nil, Function.update_eq_self, Function.update_eq_self]
  rfl

/-- A client in the map hands out the first payload of the channel's buffer. -/
theorem received_of_lookup (hc : r.clients.lookup k = some conn) (c : ChannelId) :
    r.received k c = r.withView k { r.view k conn with
      conn := (conn.internalReceivePayload c).2
      handedOut := Function.update (r.handedOut k) c
        (r.handedOut k c ++ (conn.internalReceivePayload c).1.toList) } := by
  have hreceive : r.system.endpoint.receivePayload k c = (.ok (conn.internalReceivePayload c).1,
      { r.system.endpoint with
        clients := r.clients.insert k (conn.internalReceivePayload c).2 }) := by
    rw [ServerEndpoint.receivePayload, show r.system.endpoint.clients.lookup k = some conn from hc]
    rfl
  rw [received, hreceive, withView]
  simp [view, handed]

end ServerReceiving

/-! ## What is kept along runs -/

namespace ServerSystem

variable {s s' : ServerSystem} {k : ClientId} {c' : ServerSideConnection}

/-- Who is in the map after a message was there before, and nothing has happened to what was received
from it; or it is new. -/
theorem sameReceived_handleMessage {order : List ChannelId} {receivers : Bool} (m : ServerAsyncMessage)
    (hnew : ∀ connection, m = .clientConnected connection → connection.Untouched)
    (hgen : CountsOn s.endpoint (s.handleMessage order receivers m).endpoint)
    (hc : (s.handleMessage order receivers m).endpoint.clients.lookup k = some c') :
    (∃ c, s.endpoint.clients.lookup k = some c ∧ c.SameReceived c') ∨
      s.endpoint.clientIdGen < k ∧ c'.Untouched := by
  cases m with
  | clientConnected connection =>
    have hmsg : (s.handleMessage order receivers (.clientConnected connection)).endpoint =
        (s.endpoint.handleNewConnection order connection).2 := by
      rw [handleMessage]
      split <;> rename_i heq <;> rw [heq]
    rw [hmsg] at hgen hc
    rcases s.endpoint.handleNewConnection_clients order connection with
      ⟨-, hclients, -⟩ | ⟨c, -, -, hnext⟩
    · exact .inl ⟨c', hclients ▸ hc, .refl c'⟩
    · rcases s.endpoint.sameReceived_handleNewConnection order connection hc with hold | ⟨hk, hsame⟩
      · exact .inl ⟨c', hold, .refl c'⟩
      · refine .inr ⟨?_, (hnew connection rfl).congr hsame⟩
        rw [hk, ServerEndpoint.clientIdGen_of_countsOn (hgen.trans_eq hnext)]
        exact Nat.lt_succ_self _
  | clientConnectionClosed clientId =>
    rw [handleMessage] at hc
    split_ifs at hc
    · exact .inl ⟨c', (s.endpoint.internalDisconnectClient_tables clientId receivers .peerClosed).2.2 hc,
        .refl c'⟩
    · exact .inl ⟨c', hc, .refl c'⟩

theorem Step.sameReceived {a : Action} (h : Step s a s')
    (hk : ServerReceiving.KeepsReceived s.endpoint s'.endpoint a)
    (hc : s'.endpoint.clients.lookup k = some c') :
    (∃ c, s.endpoint.clients.lookup k = some c ∧ c.SameReceived c') ∨
      s.endpoint.clientIdGen < k ∧ c'.Untouched := by
  cases h with
  | app hp hstep ha =>
    exact .inl (hstep.sameReceived ha (fun ht ↦ by subst ht; exact hk) hc)
  | tasks hsame => exact .inl (HashMap.Pointwise.lookup_right hk hc)
  | @message m q order receivers hp hq ho hgen =>
    exact sameReceived_handleMessage (s := s.withEndpoint { s.endpoint with fromAsyncEndpoint := q }) m
      (fun connection hm ↦ by subst hm; exact hk) hgen hc
  | @lostConnection clientId todo connection q hp hlookup hq =>
    have hc : (s.endpoint.clients.insert clientId { connection with fromChannels := q }).lookup k =
        some c' := by
      rw [handleLostConnection] at hc
      split_ifs at hc <;> exact hc
    rw [HashMap.lookup_insert_eq_ite] at hc
    split_ifs at hc with hkc
    · cases hc
      exact .inl ⟨connection, hkc ▸ hlookup, ⟨rfl, rfl⟩⟩
    · exact .inl ⟨c', hc, .refl c'⟩
  | @disconnect clientId todo receivers hp =>
    exact .inl ⟨c', (s.endpoint.internalDisconnectClient_tables clientId receivers .localOrder).2.2 hc,
      .refl c'⟩
  | _ => exact .inl ⟨c', hc, .refl c'⟩

end ServerSystem

namespace ServerReceiving

open Ledger ServerSystem

variable {r r' : ServerReceiving} {k j : ClientId} {conn conn' : ServerSideConnection} {a : Action}

structure Accounted (r : ServerReceiving) : Prop where
  sound : r.system.EventsSound
  /-- Some ledger accounts for all payloads of a client. -/
  clients : ∀ {k conn}, r.clients.lookup k = some conn → ∃ l, (r.view k conn).Accounts l
  /-- Nothing is booked under ids that were not given yet. -/
  fresh : ∀ {k} conn, r.system.endpoint.clientIdGen < k → r.view k conn = .start conn

theorem sameClients_withView (hc : r.clients.lookup k = some conn) (v : Receiving ServerConnection) :
    SameClients r.system.endpoint (r.withView k v).system.endpoint where
  clients {j} := by
    show j ∈ r.clients.insert k v.conn ↔ j ∈ r.clients
    rw [Finmap.mem_insert, or_iff_right_iff_imp]
    rintro rfl
    exact Finmap.mem_of_lookup_eq_some hc
  clientIdGen := rfl

/-- What happens to one client concerns no other. -/
theorem Accounted.withView (h : r.Accounted) (hc : r.clients.lookup k = some conn)
    {v : Receiving ServerConnection} (hv : ∃ l, v.Accounts l) : (r.withView k v).Accounted where
  sound := h.sound.step (.tasks (sameClients_withView hc v))
  clients {j c} hj := by
    rw [lookup_withView] at hj
    split_ifs at hj with hjk
    · cases hj
      rw [hjk, view_withView_self]
      exact hv
    · rw [view_withView_of_ne hjk]
      exact h.clients hj
  fresh {j} c hj := by
    have hk : k ≤ r.system.endpoint.clientIdGen :=
      h.sound.given k (h.sound.clients (Finmap.mem_of_lookup_eq_some hc))
    have hjk : j ≠ k := fun hjk ↦ Nat.not_lt.2 hk (hjk ▸ hj)
    rw [view_withView_of_ne hjk]
    exact h.fresh c hj

theorem Accounted.dispatches {order : List ClientId} (h : r.Accounted) (hd : Dispatches r order r') :
    r'.Accounted := by
  induction hd with
  | nil => exact h
  | cons hc hloop _ ih =>
    obtain ⟨l, hl⟩ := h.clients hc
    exact ih (h.withView hc (Receiving.Accounts.dispatch hloop hl rfl))

theorem Accounted.step (h : r.Accounted) (hs : Step r a r') : r'.Accounted := by
  cases hs with
  | system hstep hk =>
    refine ⟨h.sound.step hstep, fun {k c'} hc ↦ ?_, fun {k} c hk ↦
      h.fresh c (Nat.lt_of_le_of_lt hstep.clients.1 hk)⟩
    rcases hstep.sameReceived hk hc with ⟨c, hc, hsame⟩ | ⟨hlt, hnew⟩
    · obtain ⟨l, hl⟩ := h.clients hc
      exact ⟨l, hl.congr hsame⟩
    · have hstart : r.view k c' = .start c' := h.fresh c' hlt
      exact ⟨[], hstart ▸ Receiving.accounts_start hnew⟩
  | arrive m hc =>
    obtain ⟨l, hl⟩ := h.clients hc
    exact h.withView hc (hl.arrive m)
  | dispatch hp ho hd => exact h.dispatches hd
  | receive k c hp =>
    by_cases hk : k ∈ r.clients
    · obtain ⟨conn, hc⟩ := Finmap.mem_iff.1 hk
      obtain ⟨l, hl⟩ := h.clients hc
      rw [received_of_lookup hc]
      exact h.withView hc (hl.receive c)
    · rw [(received_of_notMem hk c).2]
      exact h
  | clear hp hc =>
    obtain ⟨l, hl⟩ := h.clients hc
    exact h.withView hc hl.clear

/-! ## Until the notification, and after it -/

/-- It dispatches or reads. -/
def Reads : Action → Prop
  | .dispatch => True
  | .receive _ _ => True
  | _ => False

theorem Dispatches.other {order : List ClientId} (h : Dispatches r order r') (hk : k ∉ order) :
    r'.clients.lookup k = r.clients.lookup k ∧ ∀ conn, r'.view k conn = r.view k conn := by
  induction h with
  | nil => exact ⟨rfl, fun _ ↦ rfl⟩
  | cons hc _ _ ih =>
    obtain ⟨hne, hk⟩ := not_or.1 (List.mem_cons.not.1 hk)
    obtain ⟨hlookup, hview⟩ := ih hk
    exact ⟨hlookup.trans ((lookup_withView _).trans (if_neg hne)),
      fun conn ↦ (hview conn).trans (view_withView_of_ne hne _)⟩

theorem Dispatches.phase {order : List ClientId} (h : Dispatches r order r') :
    r'.system.phase = r.system.phase := by
  induction h with
  | nil => rfl
  | cons _ _ _ ih => exact ih

/-- The loop comes to its end. -/
theorem exists_dispatches {order : List ClientId} (hmem : ∀ j ∈ order, j ∈ r.clients) :
    ∃ r', Dispatches r order r' := by
  induction order generalizing r with
  | nil => exact ⟨r, .nil r⟩
  | cons j order ih =>
    obtain ⟨c, hc⟩ := Finmap.mem_iff.1 (hmem j List.mem_cons_self)
    obtain ⟨errs, hloop, -⟩ := dispatchLoop_of_dispatch c
    obtain ⟨r', hr'⟩ := ih fun i hi ↦
      (sameClients_withView hc _).clients.2 (hmem i (List.mem_cons_of_mem _ hi))
    exact ⟨r', .cons hc hloop hr'⟩

/-- A run of the loop over the clients in which this happens to one of them. -/
theorem exists_dispatches_of_loop {order : List ClientId} (hn : order.Nodup)
    (hmem : ∀ j ∈ order, j ∈ r.clients) (hk : k ∈ order) (hc : r.clients.lookup k = some conn)
    {ms : List (ChannelId × Bytes)} {errs : List RecvChannelError}
    (hloop : conn.DispatchLoop ms errs conn') :
    ∃ r', Dispatches r order r' ∧ r'.clients.lookup k = some conn' ∧
      r'.view k conn' = { r.view k conn with conn := conn', errs := r.errs k ++ errs } := by
  induction order generalizing r with
  | nil => exact absurd hk List.not_mem_nil
  | cons j order ih =>
    obtain ⟨hj, hn⟩ := List.nodup_cons.1 hn
    have hrest : ∀ {c v}, r.clients.lookup j = some c → ∀ i ∈ order, i ∈ (r.withView j v).clients :=
      fun hc i hi ↦ (sameClients_withView hc _).clients.2 (hmem i (List.mem_cons_of_mem _ hi))
    by_cases hkj : k = j
    · subst hkj
      let v : Receiving ServerConnection :=
        { r.view k conn with conn := conn', errs := r.errs k ++ errs }
      obtain ⟨r', hr'⟩ := exists_dispatches (hrest (v := v) hc)
      obtain ⟨hlookup, hview⟩ := hr'.other hj
      exact ⟨r', .cons hc hloop hr', hlookup.trans ((lookup_withView v).trans (if_pos rfl)),
        (hview conn').trans (view_withView_self v)⟩
    · obtain ⟨c, hcj⟩ := Finmap.mem_iff.1 (hmem j List.mem_cons_self)
      obtain ⟨errs', hloop', -⟩ := dispatchLoop_of_dispatch c
      let v : Receiving ServerConnection :=
        { r.view j c with
          conn := c.dispatchReceivedPayloadsToChannelBuffers.2
          errs := r.errs j ++ errs' }
      obtain ⟨r', hr', hlookup, hview⟩ := ih (r := r.withView j v) hn (hrest hcj)
        (List.mem_of_ne_of_mem hkj hk) ((lookup_withView v).trans ((if_neg hkj).trans hc))
      refine ⟨r', .cons hcj hloop' hr', hlookup, hview.trans ?_⟩
      simp [withView, view, hkj]

/-- A client in the map can be dispatched and read. -/
theorem lift_reads (hp : r.system.phase = .idle) (hc : r.clients.lookup k = some conn)
    {v : Receiving ServerConnection}
    (h : Reachable Receiving.Step (fun _ ↦ Receiving.Reads) (r.view k conn) v) :
    ∃ r', Reachable Step (fun _ ↦ Reads) r r' ∧ r'.system.phase = .idle ∧
      r'.clients.lookup k = some v.conn ∧ r'.view k v.conn = v := by
  refine h.invariant (P := fun v ↦ ∃ r', Reachable Step (fun _ ↦ Reads) r r' ∧
    r'.system.phase = .idle ∧ r'.clients.lookup k = some v.conn ∧ r'.view k v.conn = v)
    ⟨r, .start, hp, hc, rfl⟩ ?_
  rintro v b v' ⟨r₁, hreach, hp₁, hc₁, hv⟩ hb hstep
  cases hstep with
  | arrive | clear => exact hb.elim
  | dispatch hloop =>
    have ho : r₁.clients.IsOrder r₁.clients.keys.toList :=
      ⟨Finset.nodup_toList _, by simp [Finmap.mem_keys]⟩
    obtain ⟨r', hr', hlookup, hview⟩ := exists_dispatches_of_loop ho.nodup
      (fun j hj ↦ ho.mem_iff.1 hj) (ho.mem_iff.2 (Finmap.mem_of_lookup_eq_some hc₁)) hc₁ hloop
    refine ⟨r', hreach.next (a := .dispatch) hb (.dispatch hp₁ ho hr'), hr'.phase.trans hp₁, hlookup, ?_⟩
    rw [hview, ← hv]
    rfl
  | receive c =>
    refine ⟨_, hreach.next (a := .receive k c) hb (.receive k c hp₁), hp₁, ?_, ?_⟩
    all_goals rw [received_of_lookup hc₁]
    · rw [lookup_withView, if_pos rfl]
    · rw [view_withView_self]
      conv_rhs => rw [← hv]
      rfl

/-- The client has got its id and is not in the map any more. -/
structure Departed (k : ClientId) (r : ServerReceiving) : Prop where
  given : k ≤ r.system.endpoint.clientIdGen
  notMem : k ∉ r.clients

theorem Departed.withView (h : Departed k r) (hc : r.clients.lookup j = some conn)
    (v : Receiving ServerConnection) :
    Departed k (r.withView j v) ∧ (r.withView j v).handedOut k = r.handedOut k := by
  have hkj : k ≠ j := by
    rintro rfl
    exact h.notMem (Finmap.mem_of_lookup_eq_some hc)
  exact ⟨⟨h.given, (sameClients_withView hc v).clients.not.2 h.notMem⟩, Function.update_of_ne hkj _ _⟩

theorem Departed.dispatches {order : List ClientId} (h : Departed k r) (hd : Dispatches r order r') :
    Departed k r' ∧ r'.handedOut k = r.handedOut k := by
  induction hd with
  | nil => exact ⟨h, rfl⟩
  | cons hc _ _ ih =>
    obtain ⟨h₁, hout⟩ := h.withView hc _
    exact (ih h₁).imp_right fun hout' ↦ hout'.trans hout

/-- A client that has left does not come back, and nothing of it is handed out. -/
theorem Departed.step (h : Departed k r) (hs : Step r a r') :
    Departed k r' ∧ r'.handedOut k = r.handedOut k := by
  cases hs with
  | system hstep hk =>
    refine ⟨⟨Nat.le_trans h.given hstep.clients.1, fun hmem ↦ ?_⟩, rfl⟩
    exact (hstep.clients.2 hmem).elim h.notMem (Nat.not_lt.2 h.given)
  | arrive m hc => exact h.withView hc _
  | dispatch hp ho hd => exact h.dispatches hd
  | receive j c hp =>
    by_cases hj : j ∈ r.clients
    · obtain ⟨conn, hc⟩ := Finmap.mem_iff.1 hj
      rw [received_of_lookup hc]
      exact h.withView hc _
    · rw [(received_of_notMem hj c).2]
      exact ⟨h, rfl⟩
  | clear hp hc => exact h.withView hc _

theorem Departed.reachable (h : Departed k r) (hr : Reachable Step (fun _ _ ↦ True) r r') :
    Departed k r' ∧ r'.handedOut k = r.handedOut k :=
  hr.invariant (P := fun r' ↦ Departed k r' ∧ r'.handedOut k = r.handedOut k) ⟨h, rfl⟩
    fun hr' _ hstep ↦ (hr'.1.step hstep).imp_right fun hout ↦ hout.trans hr'.2

/-- How the payloads of the clients fare around the notification that one of them has closed its
connection. -/
structure ReadUntilClosed (r : ServerReceiving) : Prop where
  /-- As long as a client is in the map, all that has arrived from it can be read, each payload on its
  channel and in order, but for what was cleared and what dispatching reports. -/
  readable : r.system.phase = .idle → ∀ k conn, r.clients.lookup k = some conn →
    ∃ r' l, Reachable Step (fun _ ↦ Reads) r r' ∧ arrivals l = conn.bytesFromPeer.sent ∧
      (∀ x ∈ l, x.fate = .taken ∨ x.fate = .cleared ∨ ∃ e, x.fate = .reported e) ∧
      (∀ c, taken l c = r'.handedOut k c ∧ Ledger.cleared l c = r.cleared k c) ∧
      reports l = (r'.errs k).map fun e ↦ (e.channelId, e)
  /-- The notification removes the client. -/
  closed : ∀ k r', Step r (.system (.message (.clientConnectionClosed k))) r' →
    k ∉ r'.clients ∧ r'.handedOut = r.handedOut
  /-- From then on nothing can be read. -/
  refused : ∀ k, .connection k ∈ r.system.events → k ∉ r.clients → ∀ r',
    Reachable Step (fun _ _ ↦ True) r r' → k ∉ r'.clients ∧ r'.handedOut k = r.handedOut k ∧
      ∀ c, r'.system.endpoint.receivePayload k c = (.error (.unknownClient k), r'.system.endpoint)

theorem accounted_start {endpoint : ServerEndpoint} (h : endpoint.clients = ∅) :
    (start endpoint).Accounted where
  sound := eventsSound_start h
  clients {k c} hc := by
    have hc : endpoint.clients.lookup k = some c := hc
    simp [h] at hc
  fresh _ _ := rfl

/-- **A client is read until it is removed.** -/
theorem readUntilClosed {cfg : SendChannelsConfiguration} {recvCfg : RecvChannelsConfiguration}
    {endpoint : ServerEndpoint} (h₀ : startEndpoint cfg recvCfg = some (.ok (), endpoint))
    (h : Reachable Step (fun _ _ ↦ True) (start endpoint) r) : r.ReadUntilClosed := by
  have hr : r.Accounted := h.invariant (accounted_start (ServerEndpoint.startEndpoint_spec h₀).1)
    fun hr _ hstep ↦ hr.step hstep
  refine ⟨fun hp k conn hc ↦ ?_, fun k r' hstep ↦ ?_, fun k hk hgone r' hreach ↦ ?_⟩
  · obtain ⟨v, hreach, hsame, hqueued, hbuffer⟩ := (r.view k conn).exists_readAll
    obtain ⟨r', hreach', -, hc', hview⟩ := lift_reads hp hc hreach
    have hr' := hreach'.invariant hr fun hr _ hstep ↦ hr.step hstep
    obtain ⟨l, hl⟩ := hr'.clients hc'
    rw [hview] at hl
    refine ⟨r', l, hreach', hl.arrivals.trans hsame.sent, fun x hx ↦ settled_of_empty
      (hl.waiting.trans hqueued) (fun c ↦ (hl.buffered c).trans (hbuffer c)) hx, fun c ↦
      ⟨(hl.taken c).trans ?_, (hl.cleared c).trans (congrFun hsame.cleared c)⟩, hl.reports.trans ?_⟩
    · rw [← hview]
      rfl
    · rw [← hview]
      rfl
  · cases hstep with
    | system hstep hk =>
      refine ⟨?_, rfl⟩
      cases hstep with
      | @message _ q order receivers hp hq ho hgen =>
        intro hmem
        have hmem : k ∈ (ServerSystem.handleMessage _ order receivers
          (.clientConnectionClosed k)).endpoint.clients := hmem
        rw [ServerSystem.handleMessage] at hmem
        split_ifs at hmem with hin
        · exact (ServerEndpoint.mem_internalDisconnectClient.1 hmem).1 rfl
        · exact hin hmem
  · have hdeparted : Departed k r := ⟨hr.sound.given k (mem_connectedIds.2 hk), hgone⟩
    obtain ⟨hdeparted', hout⟩ := hdeparted.reachable hreach
    exact ⟨hdeparted'.notMem, hout, fun c ↦ (received_of_notMem hdeparted'.notMem c).1⟩

end ServerReceiving

end BevyIroh
