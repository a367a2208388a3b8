import BevyIroh.Server.Tables

/-!
# Opening a channel on every client

`openChannel` takes an id, which may make it the default one, asks one client after the other for a
channel, and registers the channels only when every client has agreed.  When a client refuses, the id
is given back.

Giving an id back undoes the taking only if the default channel was not the id all along; this is what
`PoolSound` is for.  It holds in every state, also in those where closing a channel has failed and the
other tables have gone apart (`open_channel_clean`).
-/

set_option autoImplicit false

namespace BevyIroh

open Transition

namespace ServerEndpoint

variable {s s' : ServerEndpoint} {order visit : List ClientId} {id : ChannelId}
  {channelType : ChannelConfig}

/-! ## Runs -/

/-- The default channel is chosen among the open ones.  Closing a channel may fail. -/
def DefaultOpen (s : ServerEndpoint) : Option Action → Prop
  | some (.setDefaultChannel channelId) => channelId ∈ s.openedChannels
  | _ => True

/-! ## The pool -/

/-- An id that is available is that of no opened channel and not the default one, and no client has
a channel under it. -/
structure PoolSound (s : ServerEndpoint) : Prop where
  taken : ∀ {id}, id ∈ s.openedIds → id ∉ s.sendChannelIds.availableChannelIds
  default : ∀ {id}, s.sendChannelIds.defaultChannel = some id →
    id ∉ s.sendChannelIds.availableChannelIds
  vacant : ∀ {id k c}, id ∈ s.sendChannelIds.availableChannelIds → s.clients.lookup k = some c →
    c.slot id = none

theorem TablesAgree.poolSound (hs : s.TablesAgree) : s.PoolSound where
  taken {id} hid hav := (hs.ids.available_iff id).1 hav hid
  default {id} hd hav := (hs.ids.available_iff id).1 hav (hs.ids.default_mem id hd)
  vacant {id k c} hav hk := by
    rw [PeerConnection.slot_eq_none, hs.slots hk]
    exact (hs.ids.available_iff id).1 hav

/-- The pool is as before, and no client has a channel that it had not. -/
theorem PoolSound.congr (hs : s.PoolSound) (hopened : s'.openedChannels = s.openedChannels)
    (hids : s'.sendChannelIds = s.sendChannelIds)
    (hclients : ∀ {k c'}, s'.clients.lookup k = some c' →
      ∃ c, s.clients.lookup k = some c ∧ c'.sendChannels = c.sendChannels) : s'.PoolSound where
  taken hid := by
    rw [hids]
    exact hs.taken (openedIds_congr hopened ▸ hid)
  default hd := by
    rw [hids] at hd ⊢
    exact hs.default hd
  vacant hav hk := by
    rw [hids] at hav
    obtain ⟨c, hc, hsame⟩ := hclients hk
    exact (PeerConnection.slot_congr hsame).trans (hs.vacant hav hc)

theorem PoolSound.of_sameChannels (hs : s.PoolSound) (h : s.SameChannels s') : s'.PoolSound :=
  hs.congr h.openedChannels h.sendChannelIds fun hk ↦ h.clients.lookup_right hk

theorem PoolSound.releaseId_of_takeId {ids : ChannelsIdsPool} (hs : s.PoolSound)
    (ht : s.sendChannelIds.takeId = (.ok id, ids)) : ids.releaseId id = s.sendChannelIds := by
  refine ChannelsIdsPool.releaseId_of_takeId ht fun hd ↦ hs.default hd ?_
  exact Finset.mem_coe.1 (ChannelsIdsPool.takeId_ok ht).1.1

/-! ## What a call leaves behind -/

/-- The channel is asked for and is in the slot of its id, with queues of its own; nothing else of the
connection has changed. -/
structure CreatedOn (id : ChannelId) (channelType : ChannelConfig) (c c' : ServerSideConnection) :
    Prop where
  slot : c'.slot id = some ⟨id, c.created⟩
  others : ∀ j, j ≠ id → c'.slot j = c.slot j
  sent : c'.toChannels.sent =
    c.toChannels.sent ++ [.createChannel id channelType c.created]
  rest : c' = { c with
    sendChannels := c'.sendChannels
    toChannels := c.toChannels.push (.createChannel id channelType c.created)
    queues := Function.update c.queues c.created .new
    created := c.created + 1 }

/-- The channel is new, its id was the smallest one left, and it is created on every client; nothing
else has changed. -/
structure OpenedOnAll (s : ServerEndpoint) (id : ChannelId) (channelType : ChannelConfig)
    (s' : ServerEndpoint) : Prop where
  least : IsLeast (s.sendChannelIds.availableChannelIds : Set ChannelId) id
  fresh : id ∉ s.openedChannels
  openedChannels : s'.openedChannels = s.openedChannels.insert id channelType
  available : s'.sendChannelIds.availableChannelIds = s.sendChannelIds.availableChannelIds.erase id
  default : s'.defaultChannel = some (s.defaultChannel.getD id)
  clients : s.clients.Pointwise (CreatedOn id channelType) s'.clients
  rest : s' = { s with
    clients := s'.clients
    openedChannels := s'.openedChannels
    sendChannelIds := s'.sendChannelIds }

/-- No channel is dropped for the new one, because its slot was empty. -/
theorem createdOn_of_createConnectionChannel {c c' : ServerSideConnection} (hvacant : c.slot id = none)
    (h : c.createConnectionChannel id channelType = (.ok (), c')) : CreatedOn id channelType c c' := by
  have hready := (PeerConnection.createConnectionChannel_eq_ok channelType).1 (congrArg Prod.fst h)
  have hslot : ∀ j, c'.slot j = if j = id then some ⟨id, c.created⟩ else c.slot j := fun j ↦ by
    have hj := PeerConnection.slot_createConnectionChannel (s := c) (i := id) (j := j) channelType
    rw [h] at hj
    simpa [Except.isOk, Except.toBool] using hj
  have hrest := PeerConnection.createConnectionChannel_of_vacant hready hvacant channelType
  simp only [h] at hrest
  refine ⟨by rw [hslot id, if_pos rfl], fun j hj ↦ by rw [hslot j, if_neg hj], ?_, hrest⟩
  rw [hrest]
  exact Mpsc.sent_push _ _

/-- A call fails exactly when no id is left or a client has no room for the request or nobody to take
it. -/
theorem PoolSound.openChannel {r : Except ChannelCreationError ChannelId} (hs : s.PoolSound)
    (ho : s.clients.IsOrder order) (hv : s.clients.IsOrder visit)
    (h : s.openChannel order visit channelType = some (r, s')) :
    ((∃ e, r = .error e) ∧ s.SameChannels s' ∧
        (s.sendChannelIds.availableChannelIds = ∅ ∨
          ∃ k c, s.clients.lookup k = some c ∧ ¬ c.toChannels.Ready)) ∨
      ∃ id, r = .ok id ∧ s.OpenedOnAll id channelType s' ∧
        ∀ k c, s.clients.lookup k = some c → c.toChannels.Ready := by
  rcases openChannel_cases ho hv h with ⟨ht, rfl, rfl⟩ | ⟨id, ids, ht, hcase | hcase⟩
  · have hempty := (ChannelsIdsPool.takeId_error
      (Prod.ext ht rfl : s'.sendChannelIds.takeId = (_, s'.sendChannelIds.takeId.2))).2.2
    have hsame : s'.SameChannels s' :=
      ⟨rfl, rfl, .of_lookup (fun hk ↦ hk) fun hk ↦ ⟨_, hk, rfl⟩⟩
    exact .inl ⟨⟨_, rfl⟩, hsame, .inl hempty⟩
  · obtain ⟨⟨err, rfl⟩, hrefused, hclients, hopened, hids⟩ := hcase
    have hback : s'.sendChannelIds = s.sendChannelIds := hids.trans (hs.releaseId_of_takeId ht)
    exact .inl ⟨⟨_, rfl⟩, ⟨hopened, hback, hclients⟩, .inr hrefused⟩
  · obtain ⟨rfl, hclients, hopened, rfl⟩ := hcase
    obtain ⟨hleast, hav, hdefault⟩ := ChannelsIdsPool.takeId_ok ht
    have hid : id ∈ s.sendChannelIds.availableChannelIds := Finset.mem_coe.1 hleast.1
    refine .inr ⟨id, rfl, ⟨hleast, fun hopen ↦ hs.taken hopen hid, hopened, hav, hdefault, ?_,
      openChannel_frame h⟩, fun k c hk ↦ ?_⟩
    · exact .of_lookup (fun hk ↦ hclients.mem_iff.1 hk) fun hk ↦ (hclients.lookup_left hk).imp
        fun _ hc ↦ ⟨hc.1, createdOn_of_createConnectionChannel (hs.vacant hid hk) hc.2⟩
    · obtain ⟨c', -, hc⟩ := hclients.lookup_left hk
      exact (PeerConnection.createConnectionChannel_eq_ok channelType).1 (congrArg Prod.fst hc)

/-! ## Along runs -/

/-- Whatever is closed, a slot that was empty is empty. -/
theorem slot_internalCloseChannel_of_none {c : ServerSideConnection} {j : ChannelId}
    (hslot : c.slot j = none) : (c.internalCloseChannel id).2.slot j = none := by
  rw [PeerConnection.slot_internalCloseChannel, hslot, ite_self]

theorem PoolSound.closeChannel (hs : s.PoolSound) (ho : s.clients.IsOrder order) (id : ChannelId) :
    (s.closeChannel order id).2.PoolSound := by
  rcases hc : s.closeChannel order id with ⟨err | u, s'⟩
  · rcases closeChannel_error ho.nodup hc with ⟨-, rfl⟩ | ⟨-, -, hclients, hopened, hids⟩
    · exact hs
    · refine ⟨fun hid ↦ ?_, fun hd ↦ ?_, fun hav hk ↦ ?_⟩
      · rw [openedIds_erase hopened] at hid
        rw [hids]
        exact hs.taken hid.1
      · rw [hids] at hd ⊢
        exact hs.default hd
      · rw [hids] at hav
        obtain ⟨c, hc, rfl | rfl⟩ := hclients.lookup_right hk
        · exact hs.vacant hav hc
        · exact slot_internalCloseChannel_of_none (hs.vacant hav hc)
  · obtain ⟨-, hclients, hopened, hids⟩ := closeChannel_ok ho hc
    refine ⟨fun hid ↦ ?_, fun hd ↦ ?_, fun {j _ _} hav hk ↦ ?_⟩
    · rw [openedIds_erase hopened] at hid
      rw [hids, ChannelsIdsPool.releaseId, Finset.mem_insert, not_or]
      exact ⟨hid.2, hs.taken hid.1⟩
    · -- a default channel that is left is not the one that was closed
      rw [hids, ChannelsIdsPool.releaseId] at hd ⊢
      simp only at hd
      split_ifs at hd with hne
      rw [Finset.mem_insert, not_or]
      exact ⟨fun heq ↦ hne (heq ▸ hd), hs.default hd⟩
    · obtain ⟨c, hc, -, rfl⟩ := hclients.lookup_right hk
      rw [hids, ChannelsIdsPool.releaseId, Finset.mem_insert] at hav
      rcases hav with rfl | hav
      · rw [PeerConnection.slot_internalCloseChannel, if_pos rfl]
      · exact slot_internalCloseChannel_of_none (hs.vacant hav hc)

/-- The new channel is the only one, and its id is not available any more. -/
theorem PoolSound.of_openedOnAll (hs : s.PoolSound) (hopen : s.OpenedOnAll id channelType s') :
    s'.PoolSound := by
  refine ⟨fun {j} hj ↦ ?_, fun {j} hd ↦ ?_, fun {j k c'} hav hk ↦ ?_⟩
  · rw [hopen.available, Finset.mem_erase, not_and]
    intro hne
    rw [openedIds_insert hopen.openedChannels] at hj
    exact hs.taken (hj.resolve_left hne)
  · rw [hopen.available, Finset.mem_erase, not_and]
    intro hne
    have hgetD := hd.symm.trans hopen.default
    cases hold : s.defaultChannel with
    | none =>
      rw [hold] at hgetD
      exact absurd (Option.some.inj hgetD) hne
    | some d =>
      rw [hold] at hgetD
      exact hs.default (hold.trans hgetD.symm)
  · rw [hopen.available, Finset.mem_erase] at hav
    obtain ⟨c, hc, hcreated⟩ := hopen.clients.lookup_right hk
    rw [hcreated.others j hav.1]
    exact hs.vacant hav.2 hc

theorem PoolSound.handleNewConnection {order : List ChannelId} {connection : ServerSideConnection}
    (hs : s.PoolSound) (ho : s.openedChannels.IsOrder order)
    (hnew : connection.sendChannels = []) :
    (s.handleNewConnection order connection).2.PoolSound := by
  obtain ⟨hopened, hids, hclients⟩ := handleNewConnection_cases ho hnew
  refine ⟨fun hid ↦ ?_, fun hd ↦ ?_, fun {id k c} hav hk ↦ ?_⟩
  · rw [hids]
    exact hs.taken (openedIds_congr hopened ▸ hid)
  · rw [hids] at hd ⊢
    exact hs.default hd
  · rw [hids] at hav
    rcases hclients with hclients | ⟨clientId, c₀, hclients, hopen⟩
    · exact hs.vacant hav (hclients ▸ hk)
    · rw [hclients, HashMap.lookup_insert_eq_ite] at hk
      split_ifs at hk
      · cases hk
        rw [PeerConnection.slot_eq_none, hopen]
        exact fun hid ↦ hs.taken hid hav
      · exact hs.vacant hav hk

theorem PoolSound.step {a : Option Action} (hs : s.PoolSound) (hc : s.DefaultOpen a)
    (h : AnyStep s a s') : s'.PoolSound := by
  cases h with
  | other h => exact hs.of_sameChannels h
  | tables h =>
    cases h with
    | openChannel ho hv h =>
      rcases hs.openChannel ho hv h with ⟨-, hsame, -⟩ | ⟨id, -, hopen, -⟩
      · exact hs.of_sameChannels hsame
      · exact hs.of_openedOnAll hopen
    | closeChannel channelId ho => exact hs.closeChannel ho channelId
    | setDefaultChannel channelId =>
      refine ⟨hs.taken, fun hd ↦ ?_, hs.vacant⟩
      obtain rfl := Option.some.inj hd
      exact hs.taken hc
    | handleNewConnection ho hnew => exact hs.handleNewConnection ho hnew
    | disconnectClient clientId receivers reason =>
      obtain ⟨hopened, hids, hclients⟩ := internalDisconnectClient_tables s clientId receivers reason
      exact hs.congr hopened hids fun hk ↦ ⟨_, hclients hk, rfl⟩
    | disconnectAllClients => exact hs.congr rfl rfl fun hk ↦ by simp [disconnectAllClients] at hk
    | tasks h =>
      exact hs.congr h.openedChannels h.sendChannelIds fun hk ↦
        (h.clients.lookup_right hk).imp fun _ hc ↦ ⟨hc.1, hc.2.sendChannels⟩

/-- **Opening a channel fails cleanly.**  Whatever has happened to the endpoint before, a call that is
refused leaves every table of channels as it was, and one that succeeds opens the smallest id left on
every client and changes nothing else. -/
theorem open_channel_clean {cfg : SendChannelsConfiguration} {recvCfg : RecvChannelsConfiguration}
    {s₀ : ServerEndpoint} (h₀ : startEndpoint cfg recvCfg = some (.ok (), s₀))
    (h : Reachable AnyStep DefaultOpen s₀ s) (ho : s.clients.IsOrder order)
    (hv : s.clients.IsOrder visit) (channelType : ChannelConfig) :
    ∃ r s', s.openChannel order visit channelType = some (r, s') ∧
      ((∃ e, r = .error e) ↔ s.sendChannelIds.availableChannelIds = ∅ ∨
        ∃ k c, s.clients.lookup k = some c ∧ ¬ c.toChannels.Ready) ∧
      (∀ e, r = .error e → s.SameChannels s') ∧
      ∀ id, r = .ok id → s.OpenedOnAll id channelType s' := by
  have hs : s.PoolSound :=
    h.invariant (startEndpoint_spec h₀).2.poolSound fun hs hc hstep ↦ hs.step hc hstep
  rcases hopen : s.openChannel order visit channelType with _ | ⟨r, s'⟩
  · exact absurd hopen (openChannel_ne_none ho hv)
  refine ⟨r, s', rfl, ?_⟩
  rcases hs.openChannel ho hv hopen with ⟨⟨e, rfl⟩, hsame, hwhy⟩ | ⟨id, rfl, hall, hready⟩
  · exact ⟨⟨fun _ ↦ hwhy, fun _ ↦ ⟨e, rfl⟩⟩, fun _ _ ↦ hsame, fun id hid ↦ by cases hid⟩
  · refine ⟨⟨fun ⟨e, he⟩ ↦ (by cases he), ?_⟩, fun e he ↦ (by cases he), fun id' hid ↦ ?_⟩
    · rintro (hempty | ⟨k, c, hk, hnot⟩)
      · exact absurd hall.least.1 (by simp [hempty])
      · exact absurd (hready k c hk) hnot
    · obtain rfl := Except.ok.inj hid
      exact hall

/-- Both clients get the second channel, in whatever order they are asked. -/
theorem open_channel_two_clients :
    ∃ s', twoClients.openChannel [1, 2] [2, 1] .defaultOrderedReliable = some (.ok 1, s') ∧
      twoClients.OpenedOnAll 1 .defaultOrderedReliable s' := by
  have hreach : Reachable AnyStep DefaultOpen started twoClients :=
    reachable_twoClients_any _ fun _ _ ↦ trivial
  have ho : twoClients.clients.IsOrder [1, 2] := isOrder_twoClients (by decide) (by simp)
  have hv : twoClients.clients.IsOrder [2, 1] := isOrder_twoClients (by decide) (by simp [or_comm])
  obtain ⟨r, s', hopen, -, -, hok⟩ := open_channel_clean startEndpoint_default hreach ho hv
    .defaultOrderedReliable
  have hr : (twoClients.openChannel [1, 2] [2, 1] .defaultOrderedReliable).map Prod.fst =
      some (.ok 1) := by decide +kernel
  rw [hopen] at hr
  obtain rfl : r = .ok 1 := Option.some.inj hr
  exact ⟨s', hopen, hok 1 rfl⟩

end ServerEndpoint

end BevyIroh
