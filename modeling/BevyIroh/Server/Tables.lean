import BevyIroh.Lib.Transition
import BevyIroh.Server.Endpoint
import Mathlib.Data.Fintype.Card

/-!
# The channel tables of a server endpoint

Four structures say which channels are open: `openedChannels`, the pool of ids, the default channel,
and one sparse table of send channels for each client.  Each operation of the endpoint has a lemma
here saying what it does to the four; `TablesAgree` says that they fit together, and
`tables_agree_of_reachable` that they do in every state that can be reached while every call of
`closeChannel` succeeds.
-/

set_option autoImplicit false

namespace BevyIroh

open Transition

namespace ServerEndpoint

/-- The ids in the table of opened channels. -/
def openedIds (s : ServerEndpoint) : Set ChannelId := {id | id ∈ s.openedChannels}

/-! ## Runs -/

/-- What the application, the network and the tasks can do.  Orders of iteration are part of the
action. -/
inductive Action where
  | openChannel (order visit : List ClientId) (channelType : ChannelConfig)
  | closeChannel (order : List ClientId) (channelId : ChannelId)
  | setDefaultChannel (channelId : ChannelId)
  | handleNewConnection (order : List ChannelId) (connection : ServerSideConnection)
  | disconnectClient (clientId : ClientId) (receivers : Bool) (reason : CloseReason)
  | disconnectAllClients
  /-- The tasks receive, send, or end: any queue may become full, empty or closed. -/
  | tasks

/-- The two states differ at most in the queues shared with the tasks. -/
structure SameTables (s s' : ServerEndpoint) : Prop where
  clients : s.clients.Pointwise PeerConnection.SameSync s'.clients
  clientIdGen : s'.clientIdGen = s.clientIdGen
  openedChannels : s'.openedChannels = s.openedChannels
  sendChannelIds : s'.sendChannelIds = s.sendChannelIds
  stats : s'.stats = s.stats
  recvChannelsCfg : s'.recvChannelsCfg = s.recvChannelsCfg

inductive Step : ServerEndpoint → Action → ServerEndpoint → Prop
  /-- The channels made for the clients are visited in an order of their own. -/
  | openChannel {s s' : ServerEndpoint} {order visit : List ClientId} {channelType : ChannelConfig}
      {r : Except ChannelCreationError ChannelId} (ho : s.clients.IsOrder order)
      (hv : s.clients.IsOrder visit) (h : s.openChannel order visit channelType = some (r, s')) :
      Step s (.openChannel order visit channelType) s'
  | closeChannel {s : ServerEndpoint} {order : List ClientId} (channelId : ChannelId)
      (ho : s.clients.IsOrder order) :
      Step s (.closeChannel order channelId) (s.closeChannel order channelId).2
  | setDefaultChannel (s : ServerEndpoint) (channelId : ChannelId) :
      Step s (.setDefaultChannel channelId) (s.setDefaultChannel channelId)
  /-- A connection is new: `client_connection_task` has opened no channel on it. -/
  | handleNewConnection {s : ServerEndpoint} {order : List ChannelId}
      {connection : ServerSideConnection} (ho : s.openedChannels.IsOrder order)
      (hnew : connection.sendChannels = []) :
      Step s (.handleNewConnection order connection) (s.handleNewConnection order connection).2
  | disconnectClient (s : ServerEndpoint) (clientId : ClientId) (receivers : Bool)
      (reason : CloseReason) :
      Step s (.disconnectClient clientId receivers reason)
        (s.internalDisconnectClient clientId receivers reason).2
  | disconnectAllClients (s : ServerEndpoint) :
      Step s .disconnectAllClients s.disconnectAllClients
  | tasks {s s' : ServerEndpoint} (h : s.SameTables s') : Step s .tasks s'

/-- No table of channels has changed: neither those of the endpoint nor that of any client. -/
structure SameChannels (s s' : ServerEndpoint) : Prop where
  openedChannels : s'.openedChannels = s.openedChannels
  sendChannelIds : s'.sendChannelIds = s.sendChannelIds
  clients : s.clients.Pointwise (fun c c' ↦ c'.sendChannels = c.sendChannels) s'.clients

/-- An operation on the tables, or anything else that happens to an endpoint: payloads are sent,
received, dispatched or cleared, statistics are read. -/
inductive AnyStep : ServerEndpoint → Option Action → ServerEndpoint → Prop
  | tables {s s' : ServerEndpoint} {a : Action} (h : Step s a s') : AnyStep s (some a) s'
  | other {s s' : ServerEndpoint} (h : s.SameChannels s') : AnyStep s none s'

/-! ## What the operations do to the tables -/

variable {s s' : ServerEndpoint} {order visit : List ClientId} {id : ChannelId}
  {channelType : ChannelConfig}

theorem createUnregisteredEndpointChannels_ok {channels : HashMap ClientId Channel}
    (h : s.createUnregisteredEndpointChannels order id channelType = (.ok channels, s')) :
    (s.clients.tryForEach (·.createUnregisteredConnectionChannel id channelType) order).1 =
        .ok channels ∧
      (s.clients.tryForEach (·.createUnregisteredConnectionChannel id channelType) order).2 =
        s'.clients ∧
      s' = { s with clients := s'.clients } := by
  rw [createUnregisteredEndpointChannels] at h
  split at h <;> cases h
  rename_i ht
  exact ⟨congrArg Prod.fst ht, congrArg Prod.snd ht, rfl⟩

/-- A client that refuses a channel has no room for the request or nobody to take it; the tables of
all the clients stay as they are. -/
theorem createUnregisteredEndpointChannels_error {err : AsyncChannelError} (ho : order.Nodup)
    (h : s.createUnregisteredEndpointChannels order id channelType = (.error err, s')) :
    (∃ k c, s.clients.lookup k = some c ∧ ¬ c.toChannels.Ready) ∧
      s.clients.Pointwise (fun c c' ↦ c'.sendChannels = c.sendChannels) s'.clients ∧
      s' = { s with clients := s'.clients } := by
  rw [createUnregisteredEndpointChannels] at h
  split at h <;> cases h
  rename_i channels clients ht
  obtain ⟨k, -, c, hk, hfail, -⟩ := HashMap.tryForEach_error ho (congrArg Prod.fst ht)
  refine ⟨⟨k, c, hk, ?_⟩, ?_, rfl⟩
  · rw [← PeerConnection.createUnregisteredConnectionChannel_isOk_iff (i := id) channelType, hfail]
    exact Bool.false_ne_true
  have htry := HashMap.pointwise_tryForEach (m := s.clients)
    (f := (·.createUnregisteredConnectionChannel id channelType)) ho
  rw [ht] at htry
  have hdrop : clients.Pointwise (fun c c' ↦ c'.sendChannels = c.sendChannels)
      (clients.updateEach PeerConnection.dropUnregistered (channels.entriesIn order)) :=
    HashMap.pointwise_updateEach (fun _ ↦ rfl) fun _ h ↦ h
  refine htry.comp hdrop ?_
  rintro c c' c'' (rfl | rfl) h'
  · exact h'
  · rw [h', PeerConnection.sendChannels_createUnregisteredConnectionChannel]

/-- An order of the clients is an order of the channels made for them. -/
theorem isOrder_of_createUnregistered {channels : HashMap ClientId Channel}
    (ho : s.clients.IsOrder order) (hv : s.clients.IsOrder visit)
    (h : s.createUnregisteredEndpointChannels order id channelType = (.ok channels, s')) :
    channels.IsOrder visit := by
  obtain ⟨ht, -, -⟩ := createUnregisteredEndpointChannels_ok h
  refine ⟨hv.nodup, fun {k} ↦ hv.mem_iff.trans ⟨fun hk ↦ ?_, fun hk ↦ ?_⟩⟩
  · obtain ⟨c, hc⟩ := Finmap.mem_iff.1 hk
    obtain ⟨b, -, hb, -⟩ := HashMap.tryForEach_ok ho.nodup ht (ho.mem_iff.2 hk) hc
    exact Finmap.mem_of_lookup_eq_some hb
  · exact (HashMap.mem_of_mem_tryForEach_ok ht hk).2

/-- A failed creation leaves every slot of every client as it was, and gives the id back. -/
theorem createEndpointChannel_error {err : AsyncChannelError} (ho : order.Nodup)
    (h : s.createEndpointChannel order visit id channelType = some (.error err, s')) :
    (∃ k c, s.clients.lookup k = some c ∧ ¬ c.toChannels.Ready) ∧
      s.clients.Pointwise (fun c c' ↦ c'.sendChannels = c.sendChannels) s'.clients ∧
      s'.openedChannels = s.openedChannels ∧
      s'.sendChannelIds = s.sendChannelIds.releaseId id := by
  rw [createEndpointChannel] at h
  split at h
  · rename_i s₁ hc
    obtain ⟨hrefused, hclients, hs₁⟩ := createUnregisteredEndpointChannels_error ho hc
    cases h
    exact ⟨hrefused, hclients, by rw [hs₁], by rw [hs₁]⟩
  · simp only at h
    split_ifs at h
    cases h

/-- A creation that succeeds has created the channel on every client. -/
theorem createEndpointChannel_ok {id' : ChannelId} (ho : s.clients.IsOrder order)
    (hv : s.clients.IsOrder visit)
    (h : s.createEndpointChannel order visit id channelType = some (.ok id', s')) :
    id' = id ∧
      s.clients.Pointwise
        (fun c c' ↦ c.createConnectionChannel id channelType = (.ok (), c')) s'.clients ∧
      s'.openedChannels = s.openedChannels.insert id channelType ∧
      s'.sendChannelIds = s.sendChannelIds := by
  rw [createEndpointChannel] at h
  split at h
  · cases h
  · rename_i channels s₁ hc
    have hvisit := isOrder_of_createUnregistered ho hv hc
    obtain ⟨ht, hclients, hs₁⟩ := createUnregisteredEndpointChannels_ok hc
    simp only at h
    split_ifs at h
    cases h
    refine ⟨rfl, .of_lookup (fun {k} hk ↦ ?_) fun {k c} hk ↦ ?_, by rw [hs₁], by rw [hs₁]⟩
    · have hk₁ : k ∈ s₁.clients := HashMap.mem_updateEach.1 hk
      rw [← hclients] at hk₁
      exact (HashMap.pointwise_tryForEach ho.nodup).mem_iff.1 hk₁
    · obtain ⟨channel, hok, hchannel, hk₁⟩ := HashMap.tryForEach_ok ho.nodup ht
        (ho.mem_iff.2 (Finmap.mem_of_lookup_eq_some hk)) hk
      rw [hclients] at hk₁
      refine ⟨_, ?_, PeerConnection.createConnectionChannel_of_ok hok⟩
      rw [HashMap.lookup_updateEach_of_mem (HashMap.entriesIn_keys_nodup hvisit.nodup)
        ((HashMap.mem_entriesIn hvisit).2 hchannel), hk₁]
      rfl

/-- The unwraps never fail. -/
theorem createEndpointChannel_ne_none (ho : s.clients.IsOrder order)
    (hv : s.clients.IsOrder visit) (i : ChannelId) (config : ChannelConfig) :
    s.createEndpointChannel order visit i config ≠ none := by
  rw [createEndpointChannel]
  split
  · simp
  · rename_i channels s₁ hc
    have hvisit := isOrder_of_createUnregistered ho hv hc
    obtain ⟨-, hclients, -⟩ := createUnregisteredEndpointChannels_ok hc
    have hall : ∀ x ∈ channels.entriesIn visit, x.1 ∈ s₁.clients := by
      rintro ⟨k, channel⟩ hx
      have hk : k ∈ s.clients := hv.mem_iff.1 (hvisit.mem_iff.2
        (Finmap.mem_of_lookup_eq_some ((HashMap.mem_entriesIn hvisit).1 hx)))
      rw [← hclients]
      exact (HashMap.pointwise_tryForEach ho.nodup).mem_iff.2 hk
    simp only [if_pos hall]
    exact Option.some_ne_none _

/-- Either no id is left; or an id was taken, and was given back because a client refused the
channel; or the channel was created on every client. -/
theorem openChannel_cases {r : Except ChannelCreationError ChannelId} (ho : s.clients.IsOrder order)
    (hv : s.clients.IsOrder visit) (h : s.openChannel order visit channelType = some (r, s')) :
    (s.sendChannelIds.takeId.1 = .error .maxChannelsCountReached ∧
      r = .error .maxChannelsCountReached ∧ s' = s) ∨
    ∃ id ids, s.sendChannelIds.takeId = (.ok id, ids) ∧
      ((∃ err, r = .error (.asyncChannelError err)) ∧
        (∃ k c, s.clients.lookup k = some c ∧ ¬ c.toChannels.Ready) ∧
        s.clients.Pointwise (fun c c' ↦ c'.sendChannels = c.sendChannels) s'.clients ∧
        s'.openedChannels = s.openedChannels ∧ s'.sendChannelIds = ids.releaseId id ∨
      r = .ok id ∧
        s.clients.Pointwise
          (fun c c' ↦ c.createConnectionChannel id channelType = (.ok (), c')) s'.clients ∧
        s'.openedChannels = s.openedChannels.insert id channelType ∧ s'.sendChannelIds = ids) := by
  rcases ht : s.sendChannelIds.takeId with ⟨t, ids⟩
  cases t with
  | error err =>
    obtain ⟨rfl, rfl, -⟩ := ChannelsIdsPool.takeId_error ht
    simp only [openChannel, ht] at h
    cases h
    exact .inl ⟨rfl, rfl, rfl⟩
  | ok id =>
    refine .inr ⟨id, ids, rfl, ?_⟩
    simp only [openChannel, ht] at h
    split at h <;> cases h
    · rename_i hcreate
      obtain ⟨rfl, hclients, hopened, hids⟩ :=
        createEndpointChannel_ok (s := { s with sendChannelIds := ids }) ho hv hcreate
      exact .inr ⟨rfl, hclients, hopened, hids⟩
    · rename_i hcreate
      exact .inl ⟨⟨_, rfl⟩, createEndpointChannel_error ho.nodup hcreate⟩

/-- Opening a channel touches only what the channels are kept in. -/
theorem createEndpointChannel_frame {r : Except AsyncChannelError ChannelId}
    (h : s.createEndpointChannel order visit id channelType = some (r, s')) :
    s' = { s with
      clients := s'.clients
      openedChannels := s'.openedChannels
      sendChannelIds := s'.sendChannelIds } := by
  have hasked : ∀ {r s₁}, s.createUnregisteredEndpointChannels order id channelType = (r, s₁) →
      s₁ = { s with clients := s₁.clients } := fun {r s₁} hs₁ ↦ by
    rw [createUnregisteredEndpointChannels] at hs₁
    split at hs₁ <;> cases hs₁ <;> rfl
  rw [createEndpointChannel] at h
  split at h <;> rename_i heq
  · cases h
    rw [hasked heq]
  · simp only at h
    split_ifs at h
    cases h
    rw [hasked heq]

theorem openChannel_frame {r : Except ChannelCreationError ChannelId}
    (h : s.openChannel order visit channelType = some (r, s')) :
    s' = { s with
      clients := s'.clients
      openedChannels := s'.openedChannels
      sendChannelIds := s'.sendChannelIds } := by
  rw [openChannel] at h
  split at h
  · cases h
    rfl
  · rename_i ids _
    split at h <;> cases h <;> rename_i hc <;>
      exact createEndpointChannel_frame (s := { s with sendChannelIds := ids }) hc

theorem openChannel_ne_none (ho : s.clients.IsOrder order) (hv : s.clients.IsOrder visit) :
    s.openChannel order visit channelType ≠ none := by
  rcases ht : s.sendChannelIds.takeId with ⟨err | id, ids⟩
  · simp [openChannel, ht]
  · have hne := createEndpointChannel_ne_none (s := { s with sendChannelIds := ids }) ho hv id
      channelType
    simp only [openChannel, ht]
    split <;> simp_all

/-- A channel that could be closed was open on every client, and is open on none. -/
theorem closeChannel_ok (ho : s.clients.IsOrder order)
    (h : s.closeChannel order id = (.ok (), s')) :
    id ∈ s.openedIds ∧
      s.clients.Pointwise (fun c c' ↦ (c.internalCloseChannel id).1 = .ok () ∧
        c' = (c.internalCloseChannel id).2) s'.clients ∧
      s'.openedChannels = s.openedChannels.erase id ∧
      s'.sendChannelIds = s.sendChannelIds.releaseId id := by
  rw [closeChannel] at h
  split at h
  · rename_i config hopened
    simp only at h
    split at h <;> cases h
    rename_i clients hclose
    have hclients : (s.clients.tryForEach (·.internalCloseChannel id) order).2 = clients :=
      congrArg Prod.snd hclose
    refine ⟨Finmap.mem_of_lookup_eq_some hopened, .of_lookup (fun {k} hk ↦ ?_) fun {k c} hk ↦ ?_,
      rfl, rfl⟩
    · exact (HashMap.pointwise_tryForEach ho.nodup).mem_iff.1 (hclients ▸ hk)
    · obtain ⟨⟨⟩, hok, -, hk'⟩ := HashMap.tryForEach_ok ho.nodup (congrArg Prod.fst hclose)
        (ho.mem_iff.2 (Finmap.mem_of_lookup_eq_some hk)) hk
      rw [hclients] at hk'
      exact ⟨_, hk', hok, rfl⟩
  · cases h

/-- A channel that could not be closed was not open, and nothing has changed; or it is gone from the
table of opened channels, a client on which closing failed has been met, its id is not given back,
and every client either is as before or has its slot emptied. -/
theorem closeChannel_error {err : ChannelCloseError} (ho : order.Nodup)
    (h : s.closeChannel order id = (.error err, s')) :
    id ∉ s.openedIds ∧ s' = s ∨
    id ∈ s.openedIds ∧
      (∃ k c, s.clients.lookup k = some c ∧ (c.internalCloseChannel id).1 = .error err ∧
        s'.clients.lookup k = some (c.internalCloseChannel id).2) ∧
      s.clients.Pointwise (fun c c' ↦ c' = c ∨ c' = (c.internalCloseChannel id).2) s'.clients ∧
      s'.openedChannels = s.openedChannels.erase id ∧ s'.sendChannelIds = s.sendChannelIds := by
  rw [closeChannel] at h
  split at h
  · rename_i config hopened
    simp only at h
    split at h <;> cases h
    rename_i hclose
    obtain ⟨k, -, c, hk, hfail, hk'⟩ := HashMap.tryForEach_error ho (congrArg Prod.fst hclose)
    have hpoint := HashMap.pointwise_tryForEach (m := s.clients)
      (f := (·.internalCloseChannel id)) ho
    rw [congrArg Prod.snd hclose] at hk' hpoint
    exact .inr ⟨Finmap.mem_of_lookup_eq_some hopened, ⟨k, c, hk, hfail, hk'⟩, hpoint, rfl, rfl⟩
  · rename_i hopened
    cases h
    exact .inl ⟨Finmap.lookup_eq_none.1 hopened, rfl⟩

theorem openIds_createConnectionChannels {channels : List (ChannelId × ChannelConfig)}
    {c c' : ServerSideConnection} (h : createConnectionChannels channels c = (.ok (), c')) :
    c'.openIds = c.openIds ∪ {id | ∃ config, (id, config) ∈ channels} := by
  induction channels generalizing c with
  | nil =>
    cases h
    simp
  | cons x channels ih =>
    rw [createConnectionChannels] at h
    split at h
    · rename_i c₁ hcreate
      have hopen := PeerConnection.openIds_createConnectionChannel_of_ok (congrArg Prod.fst hcreate)
      rw [hcreate] at hopen
      rw [ih h, hopen]
      ext id
      have hhead : (∃ config, (id, config) = x) ↔ id = x.1 :=
        ⟨fun ⟨_, hx⟩ ↦ hx ▸ rfl, fun hx ↦ ⟨x.2, Prod.ext hx rfl⟩⟩
      simp only [Set.mem_union, Set.mem_insert_iff, Set.mem_ofPred, List.mem_cons, exists_or, hhead]
      tauto
    · cases h

/-- A new client either is refused, and the tables are as they were, or has open exactly the channels
that are open on the endpoint. -/
theorem handleNewConnection_cases {order : List ChannelId} {connection : ServerSideConnection}
    (ho : s.openedChannels.IsOrder order) (hnew : connection.sendChannels = []) :
    (s.handleNewConnection order connection).2.openedChannels = s.openedChannels ∧
    (s.handleNewConnection order connection).2.sendChannelIds = s.sendChannelIds ∧
    ((s.handleNewConnection order connection).2.clients = s.clients ∨
      ∃ clientId c, (s.handleNewConnection order connection).2.clients = s.clients.insert clientId c ∧
        c.openIds = s.openedIds) := by
  rw [handleNewConnection]
  split
  · exact ⟨rfl, rfl, .inl rfl⟩
  · rename_i c hc
    simp only
    split
    · refine ⟨rfl, rfl, .inr ⟨_, _, rfl, ?_⟩⟩
      have hempty : connection.openIds = ∅ := by
        ext id
        simp [PeerConnection.openIds, PeerConnection.slot, hnew]
      refine (openIds_createConnectionChannels hc).trans ?_
      ext id
      simp only [hempty, Set.empty_union, Set.mem_ofPred, HashMap.mem_entriesIn ho, openedIds,
        Finmap.mem_iff]
    · exact ⟨rfl, rfl, .inl rfl⟩

/-- A client that is disconnected leaves the other clients and the tables as they are. -/
theorem internalDisconnectClient_tables (s : ServerEndpoint) (clientId : ClientId) (receivers : Bool)
    (reason : CloseReason) :
    (s.internalDisconnectClient clientId receivers reason).2.openedChannels = s.openedChannels ∧
    (s.internalDisconnectClient clientId receivers reason).2.sendChannelIds = s.sendChannelIds ∧
    ∀ {k c}, (s.internalDisconnectClient clientId receivers reason).2.clients.lookup k = some c →
      s.clients.lookup k = some c := by
  have herase : ∀ {k c}, (s.clients.erase clientId).lookup k = some c →
      s.clients.lookup k = some c := fun {k c} hk ↦ by
    rw [HashMap.lookup_erase_eq_ite] at hk
    split_ifs at hk
    exact hk
  rw [internalDisconnectClient]
  split
  · simp only
    split <;> exact ⟨rfl, rfl, herase⟩
  · exact ⟨rfl, rfl, id⟩

/-! ## The invariant -/

/-- The pool fits the table of opened channels, and so do the slots of every client. -/
structure TablesAgree (s : ServerEndpoint) : Prop where
  ids : s.sendChannelIds.Agrees s.openedIds
  slots : ∀ {k c}, s.clients.lookup k = some c → c.openIds = s.openedIds

theorem openedIds_insert (h : s'.openedChannels = s.openedChannels.insert id channelType) :
    s'.openedIds = insert id s.openedIds :=
  Set.ext fun _ ↦ by rw [openedIds, Set.mem_ofPred, h, Finmap.mem_insert]; rfl

theorem openedIds_erase (h : s'.openedChannels = s.openedChannels.erase id) :
    s'.openedIds = s.openedIds \ {id} :=
  Set.ext fun _ ↦ by rw [openedIds, Set.mem_ofPred, h, Finmap.mem_erase, and_comm]; rfl

theorem openedIds_congr (h : s'.openedChannels = s.openedChannels) : s'.openedIds = s.openedIds := by
  rw [openedIds, h, openedIds]

/-- Every channel is open when there are as many as there are ids. -/
theorem openedIds_eq_univ_iff : s.openedIds = Set.univ ↔ s.openedChannels.keys.card = 256 := by
  rw [show 256 = Fintype.card ChannelId from (Fintype.card_fin 256).symm,
    Finset.card_eq_iff_eq_univ, Finset.eq_univ_iff_forall, Set.eq_univ_iff_forall]
  simp only [Finmap.mem_keys]
  rfl

/-- Pointwise relations between the clients carry the agreement of the slots over. -/
theorem slots_of_pointwise {R : ServerSideConnection → ServerSideConnection → Prop}
    (hs : ∀ {k c}, s.clients.lookup k = some c → c.openIds = s.openedIds)
    (h : s.clients.Pointwise R s'.clients)
    (hR : ∀ {c c'}, R c c' → c.openIds = s.openedIds → c'.openIds = s'.openedIds) {k : ClientId}
    {c : ServerSideConnection} (hk : s'.clients.lookup k = some c) : c.openIds = s'.openedIds := by
  obtain ⟨c₀, hk₀, hc⟩ := h.lookup_right hk
  exact hR hc (hs hk₀)

theorem TablesAgree.openChannel {r : Except ChannelCreationError ChannelId} (hs : s.TablesAgree)
    (ho : s.clients.IsOrder order) (hv : s.clients.IsOrder visit)
    (h : s.openChannel order visit channelType = some (r, s')) : s'.TablesAgree := by
  rcases openChannel_cases ho hv h with ⟨-, -, rfl⟩ | ⟨id, ids, ht, h | h⟩
  · exact hs
  · obtain ⟨-, -, hclients, hopened, hids⟩ := h
    have hsame := openedIds_congr hopened
    refine ⟨?_, slots_of_pointwise hs.slots hclients fun hc h ↦ ?_⟩; swap
    · exact (PeerConnection.openIds_congr hc).trans (h.trans hsame.symm)
    rw [hids, hsame]
    exact hs.ids.releaseId_of_takeId ht
  · obtain ⟨-, hclients, hopened, rfl⟩ := h
    have hinsert := openedIds_insert hopened
    refine ⟨hinsert ▸ (hs.ids.takeId_ok ht).2, slots_of_pointwise hs.slots hclients fun hc h ↦ ?_⟩
    have hopen := PeerConnection.openIds_createConnectionChannel_of_ok (congrArg Prod.fst hc)
    rw [hc] at hopen
    rw [hinsert, ← h]
    exact hopen

theorem TablesAgree.closeChannel (hs : s.TablesAgree) (ho : s.clients.IsOrder order)
    (h : s.closeChannel order id = (.ok (), s')) : s'.TablesAgree := by
  obtain ⟨-, hclients, hopened, hids⟩ := closeChannel_ok ho h
  have herase := openedIds_erase hopened
  refine ⟨?_, slots_of_pointwise hs.slots hclients fun ⟨_, hc⟩ h ↦ ?_⟩
  · rw [hids, herase]
    exact hs.ids.releaseId id
  · rw [hc, PeerConnection.openIds_internalCloseChannel, herase, h]

theorem TablesAgree.handleNewConnection {order : List ChannelId} {connection : ServerSideConnection}
    (hs : s.TablesAgree) (ho : s.openedChannels.IsOrder order)
    (hnew : connection.sendChannels = []) :
    (s.handleNewConnection order connection).2.TablesAgree := by
  obtain ⟨hopened, hids, hclients⟩ := handleNewConnection_cases ho hnew
  have hsame := openedIds_congr hopened
  refine ⟨by rw [hids, hsame]; exact hs.ids, fun {k c} hk ↦ ?_⟩
  rw [hsame]
  rcases hclients with hclients | ⟨clientId, c₀, hclients, hopen⟩
  · exact hs.slots (hclients ▸ hk)
  · rw [hclients, HashMap.lookup_insert_eq_ite] at hk
    split_ifs at hk
    · cases hk
      exact hopen
    · exact hs.slots hk

theorem TablesAgree.disconnectClient (hs : s.TablesAgree) (clientId : ClientId) (receivers : Bool)
    (reason : CloseReason) :
    (s.internalDisconnectClient clientId receivers reason).2.TablesAgree := by
  obtain ⟨hopened, hids, hclients⟩ := internalDisconnectClient_tables s clientId receivers reason
  have hsame := openedIds_congr hopened
  exact ⟨by rw [hids, hsame]; exact hs.ids, fun hk ↦ hsame ▸ hs.slots (hclients hk)⟩

theorem TablesAgree.tasks (hs : s.TablesAgree) (h : s.SameTables s') : s'.TablesAgree := by
  have hsame := openedIds_congr h.openedChannels
  refine ⟨by rw [h.sendChannelIds, hsame]; exact hs.ids, fun hk ↦ ?_⟩
  exact slots_of_pointwise hs.slots h.clients (fun hc h ↦ hc.openIds.trans (h.trans hsame.symm)) hk

/-! ## Along runs -/

/-- Closing a channel succeeds, and the default channel is chosen among the open ones. -/
def CloseSucceeds (s : ServerEndpoint) : Action → Prop
  | .closeChannel order channelId => (s.closeChannel order channelId).1 = .ok ()
  | .setDefaultChannel channelId => channelId ∈ s.openedChannels
  | _ => True

theorem TablesAgree.step {a : Action} (hs : s.TablesAgree) (hc : s.CloseSucceeds a)
    (h : Step s a s') : s'.TablesAgree := by
  cases h with
  | openChannel ho hv h => exact hs.openChannel ho hv h
  | closeChannel channelId ho => exact hs.closeChannel ho (Prod.ext hc rfl)
  | setDefaultChannel channelId => exact ⟨hs.ids.setDefaultChannel hc, hs.slots⟩
  | handleNewConnection ho hnew => exact hs.handleNewConnection ho hnew
  | disconnectClient clientId receivers reason => exact hs.disconnectClient clientId receivers reason
  | disconnectAllClients => exact ⟨hs.ids, fun hk ↦ by simp [disconnectAllClients] at hk⟩
  | tasks h => exact hs.tasks h

/-- A loop that meets no client cannot be refused a channel, so an id that is left is enough. -/
theorem uncheckedOpenChannel_nil {ids : ChannelsIdsPool}
    (ht : s.sendChannelIds.takeId = (.ok id, ids)) :
    s.uncheckedOpenChannel [] [] channelType = some (.ok id, { s with
      sendChannelIds := ids
      openedChannels := s.openedChannels.insert id channelType }) := by
  simp only [uncheckedOpenChannel, ht, createEndpointChannel, createUnregisteredEndpointChannels,
    HashMap.tryForEach, HashMap.entriesIn]
  simp [HashMap.updateEach]

/-- A configuration that can be built is opened completely. -/
theorem openConfigured_ok (configs : List ChannelConfig) (hclients : s.clients = ∅)
    (hids : s.sendChannelIds.Agrees s.openedIds)
    (hlen : s.openedChannels.keys.card + configs.length ≤ maxChannelCount) :
    ∃ s', openConfigured configs s = some (.ok (), s') ∧ s'.clients = ∅ ∧
      s'.sendChannelIds.Agrees s'.openedIds := by
  induction configs generalizing s with
  | nil => exact ⟨s, rfl, hclients, hids⟩
  | cons config configs ih =>
    rw [List.length_cons] at hlen
    rcases ht : s.sendChannelIds.takeId with ⟨err | id, ids⟩
    · have huniv := openedIds_eq_univ_iff.1 (hids.takeId_eq_error_iff.1 (congrArg Prod.fst ht)).2
      rw [huniv, maxChannelCount] at hlen
      omega
    · rw [openConfigured, uncheckedOpenChannel_nil ht]
      obtain ⟨hfresh, hagree⟩ := hids.takeId_ok ht
      refine ih hclients ?_ ?_
      · rw [openedIds_insert (s := s) rfl]
        exact hagree
      · have hcard : (s.openedChannels.insert id config).keys = insert id s.openedChannels.keys := by
          ext k
          simp [Finmap.mem_keys, Finmap.mem_insert]
        rw [hcard, Finset.card_insert_of_notMem (mt Finmap.mem_keys.1 hfresh)]
        omega

/-- Starting an endpoint always succeeds once it is bound, and its tables agree. -/
theorem startEndpoint_ok (cfg : SendChannelsConfiguration) (recvCfg : RecvChannelsConfiguration) :
    ∃ s, startEndpoint cfg recvCfg = some (.ok (), s) ∧ s.clients = ∅ ∧ s.TablesAgree := by
  have hempty : (new { capacity := defaultKillMessageQueueSize }
      { capacity := defaultInternalMessagesChannelSize } recvCfg).openedIds = ∅ :=
    Set.eq_empty_iff_forall_notMem.2 fun _ ↦ Finmap.notMem_empty
  obtain ⟨s, hs, hclients, hids⟩ := openConfigured_ok
    (s := new { capacity := defaultKillMessageQueueSize }
      { capacity := defaultInternalMessagesChannelSize } recvCfg) cfg.configs rfl
    (hempty ▸ ChannelsIdsPool.agrees_new)
    (by simpa [new, SendChannelsConfiguration.configs] using cfg.length_le)
  exact ⟨s, hs, hclients, hids, fun hk ↦ by simp [hclients] at hk⟩

/-- What holds of every endpoint that starts holds of this one. -/
theorem startEndpoint_spec {cfg : SendChannelsConfiguration} {recvCfg : RecvChannelsConfiguration}
    (h : startEndpoint cfg recvCfg = some (.ok (), s)) : s.clients = ∅ ∧ s.TablesAgree := by
  obtain ⟨s₁, h₁, hs₁⟩ := startEndpoint_ok cfg recvCfg
  obtain rfl : s₁ = s := by simpa [h] using h₁.symm
  exact hs₁

/-- Opening the configured channels touches only what they are kept in. -/
theorem openConfigured_frame {configs : List ChannelConfig} {r : Except AsyncChannelError Unit}
    (h : openConfigured configs s = some (r, s')) :
    s'.clients = s.clients ∧ s'.clientIdGen = s.clientIdGen ∧ s'.stats = s.stats ∧
      s'.recvChannelsCfg = s.recvChannelsCfg := by
  induction configs generalizing s with
  | nil =>
    cases h
    exact ⟨rfl, rfl, rfl, rfl⟩
  | cons config configs ih =>
    rcases ht : s.sendChannelIds.takeId with ⟨err | id, ids⟩
    · simp [openConfigured, uncheckedOpenChannel, ht] at h
    · rw [openConfigured, uncheckedOpenChannel_nil ht] at h
      exact ih (s := { s with
        sendChannelIds := ids
        openedChannels := s.openedChannels.insert id config }) h

/-- An endpoint that starts has given out no id and counted nothing. -/
theorem startEndpoint_frame {cfg : SendChannelsConfiguration} {recvCfg : RecvChannelsConfiguration}
    {r : Except AsyncChannelError Unit} (h : startEndpoint cfg recvCfg = some (r, s)) :
    s.clients = ∅ ∧ s.clientIdGen = 0 ∧ s.stats = {} ∧ s.recvChannelsCfg = recvCfg :=
  openConfigured_frame h

/-- **The channel tables of an endpoint agree** in every state that is reached from its start while
closing channels succeeds and the default channel is chosen among the open ones. -/
theorem tables_agree_of_reachable {cfg : SendChannelsConfiguration}
    {recvCfg : RecvChannelsConfiguration} {s₀ : ServerEndpoint}
    (h₀ : startEndpoint cfg recvCfg = some (.ok (), s₀)) (h : Reachable Step CloseSucceeds s₀ s) :
    (∀ id, id ∈ s.openedChannels ↔ id ∉ s.sendChannelIds.availableChannelIds) ∧
    (∀ k c, s.clients.lookup k = some c → ∀ id, (c.slot id).isSome ↔ id ∈ s.openedChannels) ∧
    (∀ id, s.defaultChannel = some id → id ∈ s.openedChannels) ∧
    (∀ order visit channelType, s.clients.IsOrder order → s.clients.IsOrder visit →
      s.openChannel order visit channelType ≠ none ∧
      ((∃ s', s.openChannel order visit channelType = some (.error .maxChannelsCountReached, s')) ↔
        s.openedChannels.keys.card = 256)) := by
  have hs : s.TablesAgree :=
    h.invariant (startEndpoint_spec h₀).2 fun hs hc hstep ↦ hs.step hc hstep
  refine ⟨fun id ↦ ?_, fun k c hk id ↦ ?_, hs.ids.default_mem, fun order visit channelType ho hv ↦
    ⟨openChannel_ne_none ho hv, ?_⟩⟩
  · rw [hs.ids.available_iff, not_not]
    rfl
  · exact Set.ext_iff.1 (hs.slots hk) id
  · rw [← openedIds_eq_univ_iff]
    constructor
    · rintro ⟨s', hmax⟩
      rcases openChannel_cases ho hv hmax with ⟨ht, -⟩ | ⟨id, ids, -, ⟨⟨err, he⟩, -⟩ | ⟨he, -⟩⟩
      · exact (hs.ids.takeId_eq_error_iff.1 ht).2
      · cases he
      · cases he
    · intro huniv
      rcases ho' : s.openChannel order visit channelType with _ | ⟨r, s'⟩
      · exact absurd ho' (openChannel_ne_none ho hv)
      · have ht := hs.ids.takeId_eq_error_iff.2 ⟨rfl, huniv⟩
        rcases openChannel_cases ho hv ho' with ⟨-, rfl, rfl⟩ | ⟨id, ids, ht', -⟩
        · exact ⟨s', rfl⟩
        · rw [ht'] at ht
          cases ht

/-! ## An endpoint with two clients -/

/-- An endpoint with the default configuration: channel 0 is opened. -/
def started : ServerEndpoint :=
  { new { capacity := defaultKillMessageQueueSize }
      { capacity := defaultInternalMessagesChannelSize } {} with
    openedChannels := Finmap.insert 0 .defaultOrderedReliable ∅
    sendChannelIds := { availableChannelIds := Finset.univ.erase 0, defaultChannel := some 0 } }

theorem isOrder_started : started.openedChannels.IsOrder [0] :=
  ⟨by decide, by simp [started, Finmap.mem_insert, Finmap.notMem_empty]⟩

theorem startEndpoint_default : startEndpoint .default {} = some (.ok (), started) := by
  have ht : (new { capacity := defaultKillMessageQueueSize }
      { capacity := defaultInternalMessagesChannelSize } {}).sendChannelIds.takeId = _ :=
    ChannelsIdsPool.takeId_new
  rw [startEndpoint, SendChannelsConfiguration.configs, SendChannelsConfiguration.default,
    openConfigured, uncheckedOpenChannel_nil ht]
  rfl

/-- A connection as `client_connection_task` makes it. -/
def newConnection : ServerSideConnection :=
  .new { toConnectionSend := { capacity := defaultInternalMessagesChannelSize } }
    { capacity := defaultMessageQueueSize } { capacity := defaultKillMessageQueueSize }
    { capacity := defaultInternalMessagesChannelSize }
    { capacity := defaultQchannelMessagesChannelSize } {}

/-- Two clients have joined, with ids 1 and 2. -/
def twoClients : ServerEndpoint :=
  ((started.handleNewConnection [0] newConnection).2.handleNewConnection [0] newConnection).2

theorem isOrder_twoClients {order : List ClientId} (ho : order.Nodup)
    (hmem : ∀ k, k ∈ order ↔ k ∈ ({1, 2} : Finset ClientId)) : twoClients.clients.IsOrder order := by
  have hkeys : twoClients.clients.keys = {1, 2} := by decide
  exact ⟨ho, fun {k} ↦ by rw [← Finmap.mem_keys, hkeys, hmem]⟩

theorem reachable_twoClients (C : ServerEndpoint → Action → Prop)
    (hC : ∀ s order, C s (.handleNewConnection order newConnection)) :
    Reachable Step C started twoClients :=
  .next (.next .start (hC _ _) (.handleNewConnection isOrder_started rfl)) (hC _ _)
    (.handleNewConnection isOrder_started rfl)

theorem reachable_twoClients_any (C : ServerEndpoint → Option Action → Prop)
    (hC : ∀ s order, C s (some (.handleNewConnection order newConnection))) :
    Reachable AnyStep C started twoClients :=
  .next (.next .start (hC _ _) (.tables (.handleNewConnection isOrder_started rfl))) (hC _ _)
    (.tables (.handleNewConnection isOrder_started rfl))

/-- The clients have the channel open that was opened before they joined. -/
theorem tables_agree_two_clients :
    0 ∉ twoClients.sendChannelIds.availableChannelIds ∧
      (twoClients.clients.lookup 2).any (fun c ↦ (c.slot 0).isSome) := by
  have hagree := tables_agree_of_reachable startEndpoint_default
    (reachable_twoClients CloseSucceeds fun _ _ ↦ trivial)
  obtain ⟨c, hc⟩ : ∃ c, twoClients.clients.lookup 2 = some c := ⟨_, rfl⟩
  have hopened : 0 ∈ twoClients.openedChannels := by decide
  refine ⟨(hagree.1 0).1 hopened, ?_⟩
  rw [hc]
  exact (hagree.2.1 2 c hc 0).2 hopened

end ServerEndpoint

end BevyIroh
