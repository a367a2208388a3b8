import BevyIroh.Server.Tables

/-!
# Closing a channel on every client

`closeChannel` takes the channel out of the table of opened channels, closes it on one client after
the other, and gives its id back at the end.  The loop is left at the first client whose channel task
has ended, so closing is all or nothing exactly when no client's has (`closeChannel_all_or_nothing_iff`).
After a failure the channel is open in no table of the endpoint, but the id is not given back and the
clients that were not met keep a channel that no call can close any more.
-/

set_option autoImplicit false

namespace BevyIroh

open Transition

namespace ServerEndpoint

variable {s s' : ServerEndpoint} {order visit : List ClientId} {id : ChannelId}
  {channelType : ChannelConfig}

/-! ## What holds whatever happens -/

/-- An opened channel has its id taken and is open on every client.  The converse is lost by the
first call of `closeChannel` that fails. -/
structure OpenedSound (s : ServerEndpoint) : Prop where
  taken : ∀ {id}, id ∈ s.openedIds → id ∉ s.sendChannelIds.availableChannelIds
  slots : ∀ {k c}, s.clients.lookup k = some c → s.openedIds ⊆ c.openIds

theorem TablesAgree.openedSound (hs : s.TablesAgree) : s.OpenedSound where
  taken {id} hid hav := (hs.ids.available_iff id).1 hav hid
  slots hk := (hs.slots hk).ge

theorem subset_of_pointwise {R : ServerSideConnection → ServerSideConnection → Prop}
    (hs : ∀ {k c}, s.clients.lookup k = some c → s.openedIds ⊆ c.openIds)
    (h : s.clients.Pointwise R s'.clients)
    (hR : ∀ {c c'}, R c c' → s.openedIds ⊆ c.openIds → s'.openedIds ⊆ c'.openIds) {k : ClientId}
    {c : ServerSideConnection} (hk : s'.clients.lookup k = some c) : s'.openedIds ⊆ c.openIds := by
  obtain ⟨c₀, hk₀, hc⟩ := h.lookup_right hk
  exact hR hc (hs hk₀)

theorem OpenedSound.openChannel {r : Except ChannelCreationError ChannelId} (hs : s.OpenedSound)
    (ho : s.clients.IsOrder order) (hv : s.clients.IsOrder visit)
    (h : s.openChannel order visit channelType = some (r, s')) : s'.OpenedSound := by
  rcases openChannel_cases ho hv h with ⟨-, -, rfl⟩ | ⟨id, ids, ht, h⟩
  · exact hs
  obtain ⟨hleast, hav, -⟩ := ChannelsIdsPool.takeId_ok ht
  rcases h with ⟨-, -, hclients, hopened, hids⟩ | ⟨-, hclients, hopened, rfl⟩
  · have hsame := openedIds_congr hopened
    refine ⟨fun hid ↦ ?_, subset_of_pointwise hs.slots hclients fun hc h ↦ ?_⟩
    · rw [hids, ChannelsIdsPool.releaseId, hav, Finset.insert_erase (Finset.mem_coe.1 hleast.1)]
      exact hs.taken (hsame ▸ hid)
    · rw [hsame, PeerConnection.openIds_congr hc]
      exact h
  · have hinsert := openedIds_insert hopened
    refine ⟨fun {id'} hid ↦ ?_, subset_of_pointwise hs.slots hclients fun hc h ↦ ?_⟩
    · rw [hav, Finset.mem_erase, not_and]
      intro hne
      rw [hinsert] at hid
      exact hs.taken (hid.resolve_left hne)
    · have hopen := PeerConnection.openIds_createConnectionChannel_of_ok (congrArg Prod.fst hc)
      rw [hc] at hopen
      rw [hinsert, hopen]
      exact Set.insert_subset_insert h

/-- A channel leaves the table before it is closed on any client, so what is said of the opened
channels is not affected by where the loop ends. -/
theorem OpenedSound.closeChannel (hs : s.OpenedSound) (ho : s.clients.IsOrder order)
    (id : ChannelId) : (s.closeChannel order id).2.OpenedSound := by
  have hclosed : ∀ {c : ServerSideConnection}, s.openedIds ⊆ c.openIds →
      s.openedIds \ {id} ⊆ (c.internalCloseChannel id).2.openIds := fun h ↦ by
    rw [PeerConnection.openIds_internalCloseChannel]
    exact Set.sdiff_subset_sdiff_left h
  rcases hc : s.closeChannel order id with ⟨err | u, s'⟩
  · rcases closeChannel_error ho.nodup hc with ⟨-, rfl⟩ | ⟨-, -, hclients, hopened, hids⟩
    · exact hs
    · have herase := openedIds_erase hopened
      refine ⟨fun hid ↦ ?_, subset_of_pointwise hs.slots hclients fun hc h ↦ ?_⟩
      · rw [hids]
        exact hs.taken (herase ▸ hid : _ ∈ s.openedIds \ {id}).1
      · rw [herase]
        rcases hc with rfl | rfl
        · exact Set.sdiff_subset.trans h
        · exact hclosed h
  · obtain ⟨-, hclients, hopened, hids⟩ := closeChannel_ok ho hc
    have herase := openedIds_erase hopened
    refine ⟨fun {id'} hid ↦ ?_, subset_of_pointwise hs.slots hclients fun ⟨_, hc⟩ h ↦ ?_⟩
    · rw [herase] at hid
      rw [hids, ChannelsIdsPool.releaseId, Finset.mem_insert, not_or]
      exact ⟨hid.2, hs.taken hid.1⟩
    · rw [herase, hc]
      exact hclosed h

theorem OpenedSound.handleNewConnection {order : List ChannelId} {connection : ServerSideConnection}
    (hs : s.OpenedSound) (ho : s.openedChannels.IsOrder order)
    (hnew : connection.sendChannels = []) :
    (s.handleNewConnection order connection).2.OpenedSound := by
  obtain ⟨hopened, hids, hclients⟩ := handleNewConnection_cases ho hnew
  have hsame := openedIds_congr hopened
  refine ⟨fun hid ↦ by rw [hids]; exact hs.taken (hsame ▸ hid), fun {k c} hk ↦ ?_⟩
  rw [hsame]
  rcases hclients with hclients | ⟨clientId, c₀, hclients, hopen⟩
  · exact hs.slots (hclients ▸ hk)
  · rw [hclients, HashMap.lookup_insert_eq_ite] at hk
    split_ifs at hk
    · cases hk
      exact hopen.ge
    · exact hs.slots hk

theorem OpenedSound.step {a : Action} (hs : s.OpenedSound) (h : Step s a s') : s'.OpenedSound := by
  cases h with
  | openChannel ho hv h => exact hs.openChannel ho hv h
  | closeChannel channelId ho => exact hs.closeChannel ho channelId
  | setDefaultChannel channelId => exact ⟨hs.taken, hs.slots⟩
  | handleNewConnection ho hnew => exact hs.handleNewConnection ho hnew
  | disconnectClient clientId receivers reason =>
    obtain ⟨hopened, hids, hclients⟩ := internalDisconnectClient_tables s clientId receivers reason
    have hsame := openedIds_congr hopened
    exact ⟨fun hid ↦ hids ▸ hs.taken (hsame ▸ hid), fun hk ↦ hsame ▸ hs.slots (hclients hk)⟩
  | disconnectAllClients => exact ⟨hs.taken, fun hk ↦ by simp [disconnectAllClients] at hk⟩
  | tasks h =>
    have hsame := openedIds_congr h.openedChannels
    refine ⟨fun hid ↦ by rw [h.sendChannelIds]; exact hs.taken (hsame ▸ hid), fun hk ↦ ?_⟩
    exact subset_of_pointwise hs.slots h.clients (fun hc h ↦ hsame ▸ hc.openIds ▸ h) hk

theorem OpenedSound.anyStep {a : Option Action} (hs : s.OpenedSound) (h : AnyStep s a s') :
    s'.OpenedSound := by
  cases h with
  | tables h => exact hs.step h
  | other h =>
    have hsame := openedIds_congr h.openedChannels
    refine ⟨fun hid ↦ by rw [h.sendChannelIds]; exact hs.taken (hsame ▸ hid), fun hk ↦ ?_⟩
    refine subset_of_pointwise hs.slots h.clients (fun hc h ↦ ?_) hk
    rw [hsame, PeerConnection.openIds_congr hc]
    exact h

/-! ## All or nothing -/

/-- The channel is open nowhere, and its id can be used again. -/
structure CompletelyClosed (s : ServerEndpoint) (id : ChannelId) : Prop where
  opened : id ∉ s.openedChannels
  slots : ∀ k c, s.clients.lookup k = some c → c.slot id = none
  available : id ∈ s.sendChannelIds.availableChannelIds
  default : s.defaultChannel ≠ some id

/-- The tasks of this channel listen to the order to close, on every client. -/
def ChannelTasksListen (s : ServerEndpoint) (id : ChannelId) : Prop :=
  ∀ k c channel, s.clients.lookup k = some c → c.slot id = some channel →
    (c.queues channel.queues).close.receiver = true

theorem completelyClosed_of_ok (ho : s.clients.IsOrder order)
    (h : s.closeChannel order id = (.ok (), s')) : s'.CompletelyClosed id := by
  obtain ⟨-, hclients, hopened, hids⟩ := closeChannel_ok ho h
  refine ⟨?_, fun k c hk ↦ ?_, ?_, ?_⟩
  · rw [hopened]
    exact Finmap.notMem_erase_self
  · obtain ⟨c₀, -, -, rfl⟩ := hclients.lookup_right hk
    simp
  · rw [hids]
    exact Finset.mem_insert_self _ _
  · rw [defaultChannel, hids, ChannelsIdsPool.releaseId]
    simp only
    split_ifs with hd
    · simp
    · exact hd

/-- **Closing a channel is all or nothing** exactly when the channel is not open or the tasks of all
its clients listen to the order to close. -/
theorem closeChannel_all_or_nothing_iff {cfg : SendChannelsConfiguration}
    {recvCfg : RecvChannelsConfiguration} {s₀ : ServerEndpoint}
    (h₀ : startEndpoint cfg recvCfg = some (.ok (), s₀))
    (h : Reachable AnyStep (fun _ _ ↦ True) s₀ s) (ho : s.clients.IsOrder order) (id : ChannelId) :
    ((s.closeChannel order id).2 = s ∨ (s.closeChannel order id).2.CompletelyClosed id) ↔
      (id ∈ s.openedChannels → s.ChannelTasksListen id) := by
  have hs : s.OpenedSound :=
    h.invariant (startEndpoint_spec h₀).2.openedSound fun hs _ hstep ↦ hs.anyStep hstep
  rcases hc : s.closeChannel order id with ⟨err | u, s'⟩
  · rcases closeChannel_error ho.nodup hc with ⟨hid, rfl⟩ | ⟨hid, hfail, -, hopened, hids⟩
    · exact iff_of_true (.inl rfl) fun h ↦ absurd h hid
    · refine iff_of_false ?_ fun h ↦ ?_
      · rintro ((hsame : s' = s) | hclosed)
        · have hgone : id ∉ s'.openedIds := by simp [openedIds_erase hopened]
          exact hgone (hsame ▸ hid)
        · exact hs.taken hid (hids ▸ hclosed.available)
      · obtain ⟨k, c, hk, hfail, -⟩ := hfail
        obtain ⟨channel, hslot⟩ := Option.isSome_iff_exists.1 (hs.slots hk hid)
        have hok := PeerConnection.internalCloseChannel_eq_ok.2 ⟨channel, hslot, h hid k c channel hk hslot⟩
        rw [hfail] at hok
        cases hok
  · refine iff_of_true (.inr (completelyClosed_of_ok ho hc)) fun _ k c channel hk hslot ↦ ?_
    obtain ⟨-, hclients, -, -⟩ := closeChannel_ok ho hc
    obtain ⟨c', -, hok, -⟩ := hclients.lookup_left hk
    obtain ⟨channel', hslot', hlisten⟩ := PeerConnection.internalCloseChannel_eq_ok.1 hok
    obtain rfl : channel = channel' := by simpa [hslot] using hslot'
    exact hlisten

/-! ## A client whose channel task has ended -/

/-- While both clients listen, the channel is closed completely. -/
theorem close_two_clients : (twoClients.closeChannel [1, 2] 0).2.CompletelyClosed 0 := by
  have ho : twoClients.clients.IsOrder [1, 2] := isOrder_twoClients (by decide) (by simp)
  have hlisten : twoClients.ChannelTasksListen 0 := fun k c channel hk hslot ↦ by
    have hk' : k = 1 ∨ k = 2 := by
      simpa using ho.mem_iff.2 (Finmap.mem_of_lookup_eq_some hk)
    have hall : ((twoClients.clients.lookup k).all fun c ↦ (c.slot 0).all fun channel ↦
        (c.queues channel.queues).close.receiver) = true := by
      rcases hk' with rfl | rfl <;> decide
    simpa [hk, hslot] using hall
  have hiff := closeChannel_all_or_nothing_iff startEndpoint_default
    (reachable_twoClients_any _ fun _ _ ↦ trivial) ho 0
  refine (hiff.2 fun _ ↦ hlisten).resolve_left fun h ↦ ?_
  have hgone : (twoClients.closeChannel [1, 2] 0).2.openedChannels.keys = ∅ := by decide
  exact absurd (h ▸ hgone) (by decide)

/-- The channel task of client 1 has ended: its peer went away before the stream could be opened. -/
def oneTaskEnded : ServerEndpoint :=
  { twoClients with
    clients := twoClients.clients.modify 1 fun c ↦
      { c with queues := Function.update c.queues 0 (c.queues 0).dropReceivers } }

/-- Closing channel 0 then fails on client 1: the channel stays open on client 2, but it is not an
opened channel any more, and its id is not available. -/
theorem ended_task_closes_by_half :
    startEndpoint .default {} = some (.ok (), started) ∧
      Reachable AnyStep (fun _ _ ↦ True) started oneTaskEnded ∧
      (oneTaskEnded.closeChannel [1, 2] 0).1 = .error .channelAlreadyClosed ∧
      ((oneTaskEnded.closeChannel [1, 2] 0).2.clients.lookup 2).any (fun c ↦ (c.slot 0).isSome) ∧
      0 ∉ (oneTaskEnded.closeChannel [1, 2] 0).2.openedChannels ∧
      0 ∉ (oneTaskEnded.closeChannel [1, 2] 0).2.sendChannelIds.availableChannelIds ∧
      ¬ ((oneTaskEnded.closeChannel [1, 2] 0).2 = oneTaskEnded ∨
        (oneTaskEnded.closeChannel [1, 2] 0).2.CompletelyClosed 0) := by
  have htasks : twoClients.SameTables oneTaskEnded := by
    refine ⟨fun k ↦ ?_, rfl, rfl, rfl, rfl, rfl⟩
    rw [oneTaskEnded, HashMap.lookup_modify]
    cases twoClients.clients.lookup k with
    | none => simp
    | some c =>
      split_ifs
      · exact .some ⟨rfl, rfl, rfl, rfl, rfl, rfl⟩
      · exact .some (.refl c)
  have hav : 0 ∉ (oneTaskEnded.closeChannel [1, 2] 0).2.sendChannelIds.availableChannelIds := by
    decide +kernel
  have hgone : (oneTaskEnded.closeChannel [1, 2] 0).2.openedChannels.keys = ∅ := by decide
  refine ⟨startEndpoint_default,
    .next (reachable_twoClients_any _ fun _ _ ↦ trivial) trivial (.tables (.tasks htasks)),
    by decide, by decide, by decide, hav, ?_⟩
  rintro (h | h)
  · exact absurd (h ▸ hgone) (by decide)
  · exact hav h.available

end ServerEndpoint

end BevyIroh
