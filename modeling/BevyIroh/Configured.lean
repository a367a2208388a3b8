import BevyIroh.Client.Reconnect
import BevyIroh.Server.Places
import BevyIroh.Server.Tables

/-!
# Configured channels and their ids

A configuration promises an id for each of its channels before anything is opened: `add` returns the
place the channel has in the list.  The ids are given out later, by the pool of a connection or of an
endpoint, and the pool knows nothing of the configuration.

* **The pool.**  From a new pool the ids come in order, so after `n` of them it is `afterFirst n`.
* **The promises.**  `Built cfg promised` says that `cfg` can be built, and that `promised` are the ids
  that were returned on the way.  A later `add` changes none of them (`Built.kept`).
* **The channels.**  `OpensAsPredicted` is what a connection, or an endpoint, looks like when the `k`-th
  configuration was opened under id `k`.

There is room for everything: a configuration has at most as many channels as there are ids, and a queue
of channel creations takes twice as many requests.
-/

set_option autoImplicit false

namespace BevyIroh

open Transition

/-! ## The ids of a new pool -/

namespace ChannelsIdsPool

/-- The pool after the first `n` ids were taken. -/
def afterFirst (n : ℕ) : ChannelsIdsPool where
  availableChannelIds := Finset.univ.filter (n ≤ ·.val)
  defaultChannel := if n = 0 then none else some 0

theorem afterFirst_zero : afterFirst 0 = new := by
  rw [afterFirst, new]
  simp

theorem takeId_afterFirst {n : ℕ} (h : n < maxChannelCount) :
    (afterFirst n).takeId = (.ok ⟨n, h⟩, afterFirst (n + 1)) := by
  have hleast : IsLeast ((afterFirst n).availableChannelIds : Set ChannelId) ⟨n, h⟩ := by
    constructor
    · simp [afterFirst]
    · intro id hid
      exact Fin.le_def.2 (by simpa [afterFirst] using hid)
  rcases ht : (afterFirst n).takeId with ⟨e | id, p⟩
  · obtain ⟨-, -, hempty⟩ := takeId_error ht
    have hmem := Finset.mem_coe.1 hleast.1
    rw [hempty] at hmem
    exact absurd hmem (Finset.notMem_empty _)
  · obtain ⟨hid, hav, hdef⟩ := takeId_ok ht
    obtain rfl := hid.unique hleast
    have havailable : p.availableChannelIds = (afterFirst (n + 1)).availableChannelIds := by
      rw [hav]
      ext i
      simp only [afterFirst, Finset.mem_erase, Finset.mem_filter, Finset.mem_univ, true_and]
      rw [Ne, Fin.ext_iff]
      show ¬ i.val = n ∧ n ≤ i.val ↔ n + 1 ≤ i.val
      omega
    have hdefault : p.defaultChannel = (afterFirst (n + 1)).defaultChannel := by
      rw [hdef]
      by_cases h0 : n = 0
      · subst h0
        rfl
      · simp [afterFirst, h0]
    cases p
    exact Prod.ext rfl (congrArg₂ ChannelsIdsPool.mk havailable hdefault)

end ChannelsIdsPool

/-! ## The ids a configuration promises -/

namespace SendChannelsConfiguration

/-- The configurations that can be built, with the ids that `add` returned for their channels. -/
inductive Built : SendChannelsConfiguration → List (ChannelId × ChannelConfig) → Prop
  | default : Built .default []
  | new : Built .new []
  | fromConfigs {channelTypes : List ChannelConfig} {cfg : SendChannelsConfiguration}
      (h : fromConfigs channelTypes = .ok cfg) : Built cfg []
  | add {cfg cfg' : SendChannelsConfiguration} {promised : List (ChannelId × ChannelConfig)}
      {channelType : ChannelConfig} {id : ChannelId} (hb : Built cfg promised)
      (h : cfg.add channelType = (some id, cfg')) : Built cfg' (promised ++ [(id, channelType)])
  | addRefused {cfg cfg' : SendChannelsConfiguration} {promised : List (ChannelId × ChannelConfig)}
      {channelType : ChannelConfig} (hb : Built cfg promised)
      (h : cfg.add channelType = (none, cfg')) : Built cfg' promised

variable {cfg cfg' : SendChannelsConfiguration} {channelType : ChannelConfig} {id : ChannelId}

/-- A channel that is added gets the place at the end for its id. -/
theorem add_eq_some (h : cfg.add channelType = (some id, cfg')) :
    id.val = cfg.configs.length ∧ cfg'.configs = cfg.configs ++ [channelType] := by
  rw [SendChannelsConfiguration.add] at h
  split_ifs at h with hlt
  · obtain ⟨hid, rfl⟩ := Prod.mk.inj h
    obtain rfl := Option.some.inj hid
    refine ⟨?_, rfl⟩
    rw [List.length_append, List.length_singleton, Nat.add_sub_cancel]
    exact Nat.mod_eq_of_lt hlt
  · simp at h

theorem add_eq_none (h : cfg.add channelType = (none, cfg')) : cfg' = cfg := by
  rw [SendChannelsConfiguration.add] at h
  split_ifs at h
  · simp at h
  · exact (Prod.mk.inj h).2.symm

/-- What was promised is kept by everything that is added later. -/
theorem Built.kept {promised : List (ChannelId × ChannelConfig)} (h : Built cfg promised) :
    ∀ x ∈ promised, cfg.configs[x.1.val]? = some x.2 := by
  induction h with
  | default | new | fromConfigs h => exact fun x hx ↦ absurd hx List.not_mem_nil
  | add hb h ih =>
    obtain ⟨hid, hconfigs⟩ := add_eq_some h
    intro x hx
    rw [hconfigs]
    rcases List.mem_append.1 hx with hx | hx
    · have hold := ih x hx
      have hlt := (List.getElem?_eq_some_iff.1 hold).1
      rw [List.getElem?_append_left hlt, hold]
    · obtain rfl := List.mem_singleton.1 hx
      rw [hid, List.getElem?_concat_length]
  | addRefused hb h ih => rwa [add_eq_none h]

end SendChannelsConfiguration

/-- Opened as predicted, a configuration has its first channel for the default one. -/
def predictedDefault (cfg : SendChannelsConfiguration) : Option ChannelId :=
  if cfg.configs = [] then none else some 0

theorem defaultChannel_afterFirst (cfg : SendChannelsConfiguration) :
    (ChannelsIdsPool.afterFirst cfg.configs.length).defaultChannel = predictedDefault cfg := by
  rw [ChannelsIdsPool.afterFirst, predictedDefault]
  simp only [List.length_eq_zero_iff]

/-! ## On a client -/

namespace ClientSideConnection

/-- The channels of a connection on which the configuration was opened as predicted: the `k`-th one is
open under id `k`, and was requested with its own configuration. -/
structure OpensAsPredicted (cfg : SendChannelsConfiguration) (conn : ClientSideConnection) : Prop where
  requests : conn.toChannels.queued =
    cfg.configs.mapIdx fun k config ↦ .createChannel (Fin.ofNat 256 k) config k
  slot : ∀ id, conn.slot id = if id.val < cfg.configs.length then some ⟨id, id.val⟩ else none
  defaultChannel : conn.defaultChannel = predictedDefault cfg

/-- Once `n` channels are open, the next ones get the ids from `n` on. -/
theorem openConfiguredChannels_afterFirst (configs : List ChannelConfig) {self : ClientSideConnection}
    {n : ℕ} (hids : self.specific.sendChannelIds = .afterFirst n)
    (hcreated : self.created = n) (hreceiver : self.toChannels.receiver = true)
    (hcapacity : self.toChannels.capacity = defaultQchannelMessagesChannelSize)
    (hqueued : self.toChannels.queued.length = n) (hlen : n + configs.length ≤ maxChannelCount) :
    ∃ conn, openConfiguredChannels configs self = some (.ok (), conn) ∧
      conn.specific.sendChannelIds = .afterFirst (n + configs.length) ∧
      conn.toChannels.queued = self.toChannels.queued ++
        configs.mapIdx (fun k config ↦ .createChannel (Fin.ofNat 256 (n + k)) config (n + k)) ∧
      ∀ id, conn.slot id =
        if n ≤ id.val ∧ id.val < n + configs.length then some ⟨id, id.val⟩ else self.slot id := by
  induction configs generalizing self n with
  | nil =>
    refine ⟨self, rfl, hids, (List.append_nil _).symm, fun id ↦ (if_neg ?_).symm⟩
    rw [List.length_nil]
    omega
  | cons config configs ih =>
    rw [List.length_cons] at hlen
    have hn : n < maxChannelCount := by omega
    have hready : self.toChannels.Ready := by
      refine ⟨hreceiver, ?_⟩
      rw [hcapacity, hqueued, defaultQchannelMessagesChannelSize]
      omega
    have ht : self.specific.sendChannelIds.takeId = _ := hids ▸ ChannelsIdsPool.takeId_afterFirst hn
    rw [openConfiguredChannels_cons ht hready]
    let c : ClientSideConnection := self.withIds (.afterFirst (n + 1))
    have hready' : c.toChannels.Ready := hready
    obtain ⟨hto, -, hnext, -⟩ :=
      PeerConnection.createConnectionChannel_of_ready (i := ⟨n, hn⟩) hready' config
    have hspecific := PeerConnection.specific_createConnectionChannel (s := c) (i := ⟨n, hn⟩) config
    have hok := (PeerConnection.createConnectionChannel_eq_ok (i := ⟨n, hn⟩) config).2 hready'
    have hslot : ∀ id, (c.createConnectionChannel ⟨n, hn⟩ config).2.slot id =
        if id.val = n then some ⟨id, id.val⟩ else self.slot id := by
      intro id
      rw [PeerConnection.slot_createConnectionChannel, hok]
      by_cases heq : id.val = n
      · obtain rfl : id = ⟨n, hn⟩ := Fin.ext heq
        rw [if_pos ⟨rfl, rfl⟩, if_pos rfl]
        exact congrArg (fun queues ↦ some (Channel.mk ⟨n, hn⟩ queues)) hcreated
      · rw [if_neg fun h ↦ heq (congrArg Fin.val h.2), if_neg heq]
        rfl
    obtain ⟨conn, hopen, hpool, hqueue, hslots⟩ := ih (n := n + 1) (by rw [hspecific]; rfl)
      (hnext.trans (congrArg (· + 1) hcreated)) (by rw [hto]; exact hreceiver)
      (by rw [hto]; exact hcapacity)
      (by rw [hto, Mpsc.push, List.length_append]; exact congrArg (· + 1) hqueued) (by omega)
    refine ⟨conn, hopen, ?_, ?_, fun id ↦ ?_⟩
    · rw [hpool, List.length_cons, Nat.add_assoc, Nat.add_comm 1]
    · have hfirst : (⟨n, hn⟩ : ChannelId) = Fin.ofNat 256 (n + 0) := Fin.ext (Nat.mod_eq_of_lt hn).symm
      have hshift : (fun k config ↦ ChannelSyncMessage.createChannel (Fin.ofNat 256 (n + 1 + k)) config
          (n + 1 + k)) = fun k config ↦ .createChannel (Fin.ofNat 256 (n + (k + 1))) config
          (n + (k + 1)) := by
        funext k config
        rw [Nat.add_right_comm, Nat.add_assoc]
      have hrequest : ChannelSyncMessage.createChannel ⟨n, hn⟩ config c.created =
          .createChannel (Fin.ofNat 256 (n + 0)) config (n + 0) := by
        rw [← hfirst]
        exact congrArg _ hcreated
      rw [hqueue, hto, Mpsc.push, List.mapIdx_cons, hshift, hrequest, List.append_assoc]
      rfl
    · rw [hslots, hslot, List.length_cons]
      rcases Nat.lt_trichotomy id.val n with hlt | heq | hgt
      · rw [if_neg (by omega), if_neg (by omega), if_neg (by omega)]
      · rw [if_neg (by omega), if_pos heq, if_pos (by omega)]
      · rw [if_neg (show ¬ id.val = n by omega)]
        exact if_congr (by omega) rfl rfl

theorem opensAsPredicted_openConnection (localId : ConnectionLocalId) (cfg : SendChannelsConfiguration)
    (recvCfg : RecvChannelsConfiguration) : ∃ conn,
      openConnection localId cfg recvCfg createClientConnectionAsyncChannels = some (.ok (), conn) ∧
        conn.OpensAsPredicted cfg := by
  have hlen : 0 + cfg.configs.length ≤ maxChannelCount := (Nat.zero_add _).le.trans cfg.length_le
  let connection : ClientSideConnection :=
    .new (.new localId cfg createClientConnectionAsyncChannels.toSyncClient)
      createClientConnectionAsyncChannels.bytesFromServer createClientConnectionAsyncChannels.close
      createClientConnectionAsyncChannels.fromChannels createClientConnectionAsyncChannels.toChannels
      recvCfg
  have hids₀ : connection.specific.sendChannelIds = .afterFirst 0 :=
    ChannelsIdsPool.afterFirst_zero.symm
  obtain ⟨conn, hopen, hids, hqueued, hslot⟩ :=
    openConfiguredChannels_afterFirst cfg.configs hids₀ rfl rfl rfl rfl hlen
  refine ⟨conn, hopen, ?_, fun id ↦ ?_, ?_⟩
  · simp only [Nat.zero_add] at hqueued
    exact hqueued
  · rw [hslot, Nat.zero_add]
    exact if_congr (and_iff_right (Nat.zero_le _)) rfl rfl
  · rw [defaultChannel, hids, Nat.zero_add, defaultChannel_afterFirst]

end ClientSideConnection

/-- **Reconnecting opens the same channels again**, whatever happened to the connection before. -/
theorem Sessions.opensAsPredicted_reconnect {sharedClientId : Bool} {s : Sessions}
    {localId : ConnectionLocalId} {cfg : SendChannelsConfiguration} {recvCfg : RecvChannelsConfiguration}
    {conn : ClientSideConnection}
    (hopen : openConnection localId cfg recvCfg createClientConnectionAsyncChannels =
      some (.ok (), conn))
    (h : Reachable (Step sharedClientId) (fun _ _ ↦ True) (start localId cfg recvCfg conn) s)
    (hdis : s.held.state = .disconnected) :
    ∃ s', s.reconnect = some (.ok true, s') ∧ s'.conn.OpensAsPredicted cfg := by
  have hs : Sound localId cfg recvCfg s :=
    h.invariant (sound_start hopen) fun hs _ hstep ↦ hs.step hstep
  obtain ⟨s', conn', hr, hopen', rfl⟩ := reconnect_of_disconnected hdis
  obtain ⟨conn'', hopen'', hconn⟩ :=
    ClientSideConnection.opensAsPredicted_openConnection localId cfg s.held.recvChannelsCfg
  rw [hs.openConnection_eq, hopen''] at hopen'
  obtain rfl : conn'' = conn' := by simpa using hopen'
  refine ⟨_, hr, ?_⟩
  show (s.reset.storeConn conn'').conn.OpensAsPredicted cfg
  rwa [conn_storeConn]

/-! ## On an endpoint -/

namespace ServerEndpoint

/-- The channels of an endpoint on which the configuration was opened as predicted. -/
structure OpensAsPredicted (cfg : SendChannelsConfiguration) (e : ServerEndpoint) : Prop where
  opened : ∀ id, e.openedChannels.lookup id = cfg.configs[id.val]?
  defaultChannel : e.defaultChannel = predictedDefault cfg

/-- Once `n` channels are open, the next ones get the ids from `n` on. -/
theorem openConfigured_afterFirst (configs : List ChannelConfig) {e : ServerEndpoint} {n : ℕ}
    (hids : e.sendChannelIds = .afterFirst n)
    (hopened : ∀ id : ChannelId, n ≤ id.val → e.openedChannels.lookup id = none)
    (hlen : n + configs.length ≤ maxChannelCount) :
    ∃ e', openConfigured configs e = some (.ok (), e') ∧
      e'.sendChannelIds = .afterFirst (n + configs.length) ∧
      ∀ id, e'.openedChannels.lookup id =
        if id.val < n then e.openedChannels.lookup id else configs[id.val - n]? := by
  induction configs generalizing e n with
  | nil =>
    refine ⟨e, rfl, hids, fun id ↦ ?_⟩
    split_ifs with hid
    · rfl
    · rw [hopened id (Nat.le_of_not_lt hid), List.getElem?_nil]
  | cons config configs ih =>
    rw [List.length_cons] at hlen
    have hn : n < maxChannelCount := by omega
    have ht : e.sendChannelIds.takeId = _ := hids ▸ ChannelsIdsPool.takeId_afterFirst hn
    rw [openConfigured, uncheckedOpenChannel_nil ht]
    obtain ⟨e', hopen, hpool, hlookup⟩ := ih
      (e := { e with
        sendChannelIds := .afterFirst (n + 1)
        openedChannels := e.openedChannels.insert ⟨n, hn⟩ config }) (n := n + 1) rfl
      (fun id hid ↦ by
        have hne : id ≠ ⟨n, hn⟩ := fun h ↦ Nat.ne_of_gt hid (congrArg Fin.val h)
        exact (Finmap.lookup_insert_of_ne _ hne).trans (hopened id (Nat.le_of_succ_le hid)))
      (by omega)
    refine ⟨e', hopen, ?_, fun id ↦ ?_⟩
    · rw [hpool, List.length_cons, Nat.add_assoc, Nat.add_comm 1]
    · rw [hlookup, HashMap.lookup_insert_eq_ite]
      rcases Nat.lt_trichotomy id.val n with hlt | heq | hgt
      · rw [if_pos (by omega), if_neg (fun h ↦ Nat.ne_of_lt hlt (congrArg Fin.val h)), if_pos hlt]
      · obtain rfl : id = ⟨n, hn⟩ := Fin.ext heq
        rw [if_pos (Nat.lt_succ_self n), if_pos rfl, if_neg (Nat.lt_irrefl n), Nat.sub_self]
        rfl
      · obtain ⟨k, hk⟩ : ∃ k, id.val - n = k + 1 := ⟨id.val - n - 1, by omega⟩
        have hk' : id.val - (n + 1) = k := by omega
        rw [if_neg (by omega), if_neg (by omega), hk, hk', List.getElem?_cons_succ]

theorem opensAsPredicted_startEndpoint (cfg : SendChannelsConfiguration)
    (recvCfg : RecvChannelsConfiguration) :
    ∃ e, startEndpoint cfg recvCfg = some (.ok (), e) ∧ e.OpensAsPredicted cfg := by
  have hlen : 0 + cfg.configs.length ≤ maxChannelCount := (Nat.zero_add _).le.trans cfg.length_le
  obtain ⟨e, hstart, hids, hopened⟩ := openConfigured_afterFirst cfg.configs
    (e := new { capacity := defaultKillMessageQueueSize }
      { capacity := defaultInternalMessagesChannelSize } recvCfg)
    ChannelsIdsPool.afterFirst_zero.symm (fun id _ ↦ Finmap.lookup_empty id) hlen
  refine ⟨e, hstart, fun id ↦ ?_, ?_⟩
  · rw [hopened, if_neg (Nat.not_lt_zero _), Nat.sub_zero]
  · rw [defaultChannel, hids, Nat.zero_add, defaultChannel_afterFirst]

/-- There is room on a new connection for all the channels there can be. -/
theorem handleNewConnection_ne_fullQueue {e : ServerEndpoint} {order : List ChannelId}
    {connection : ServerSideConnection} (ho : e.openedChannels.IsOrder order)
    (hqueued : connection.toChannels.queued = [])
    (hcapacity : connection.toChannels.capacity = defaultQchannelMessagesChannelSize) :
    (e.handleNewConnection order connection).1 ≠ .error .fullQueue := by
  have hlen : (e.openedChannels.entriesIn order).length ≤ maxChannelCount := by
    have hcard := (HashMap.entriesIn_keys_nodup (m := e.openedChannels) ho.nodup).length_le_card
    rw [List.length_map, Fintype.card_fin] at hcard
    exact hcard
  have hroom : connection.toChannels.queued.length + (e.openedChannels.entriesIn order).length ≤
      connection.toChannels.capacity := by
    rw [hqueued, hcapacity, List.length_nil, defaultQchannelMessagesChannelSize]
    omega
  have hcreate : (createConnectionChannels (e.openedChannels.entriesIn order) connection).1 ≠
      .error .fullQueue := by
    cases hreceiver : connection.toChannels.receiver with
    | true =>
      obtain ⟨c, hc, -⟩ := ServerSessions.createConnectionChannels_ok _ hreceiver hroom
      rw [hc]
      rintro ⟨⟩
    | false =>
      -- nobody takes requests any more, so the first of them is refused for this reason
      cases e.openedChannels.entriesIn order with
      | nil => rintro ⟨⟩
      | cons x channels =>
        rw [createConnectionChannels, PeerConnection.createConnectionChannel,
          PeerConnection.createUnregisteredConnectionChannel, Mpsc.trySend, hreceiver]
        rintro ⟨⟩
  rw [handleNewConnection]
  split
  · rename_i err _ hc
    rw [hc] at hcreate
    exact fun h ↦ hcreate (congrArg Except.error (Except.error.inj h))
  · dsimp only
    split <;> rintro ⟨⟩

end ServerEndpoint

/-! ## On both sides -/

open SendChannelsConfiguration in
/-- **Configured channels get the predicted ids.**  Whatever is done to build a configuration, the ids
it has promised are those its channels are opened under: by a client when the connection is opened and
each time it is reconnected, and by a server when an endpoint is started.  Nothing panics and no queue
is full or closed.  A new client of an endpoint has room for all the channels that are open there. -/
theorem configured_channels_as_predicted {cfg : SendChannelsConfiguration}
    {promised : List (ChannelId × ChannelConfig)} (h : Built cfg promised) :
    (∀ x ∈ promised, cfg.configs[x.1.val]? = some x.2) ∧
    (∀ localId recvCfg, ∃ conn,
      openConnection localId cfg recvCfg createClientConnectionAsyncChannels = some (.ok (), conn) ∧
      conn.OpensAsPredicted cfg ∧
      ∀ sharedClientId s,
        Reachable (Sessions.Step sharedClientId) (fun _ _ ↦ True)
          (Sessions.start localId cfg recvCfg conn) s →
        s.held.state = .disconnected →
        ∃ s', s.reconnect = some (.ok true, s') ∧ s'.conn.OpensAsPredicted cfg) ∧
    (∀ recvCfg, ∃ e, startEndpoint cfg recvCfg = some (.ok (), e) ∧ e.OpensAsPredicted cfg) ∧
    ∀ (e : ServerEndpoint) order connection, e.openedChannels.IsOrder order →
      connection.toChannels.queued = [] →
      connection.toChannels.capacity = defaultQchannelMessagesChannelSize →
      (e.handleNewConnection order connection).1 ≠ .error .fullQueue := by
  refine ⟨h.kept, fun localId recvCfg ↦ ?_, ServerEndpoint.opensAsPredicted_startEndpoint cfg,
    fun e order connection ↦ ServerEndpoint.handleNewConnection_ne_fullQueue⟩
  obtain ⟨conn, hopen, hconn⟩ :=
    ClientSideConnection.opensAsPredicted_openConnection localId cfg recvCfg
  exact ⟨conn, hopen, hconn, fun _ _ ↦ Sessions.opensAsPredicted_reconnect hopen⟩

/-- A channel added to the default configuration is promised id 1, and gets it. -/
theorem configured_channels_as_predicted_added : ∃ e,
    startEndpoint (SendChannelsConfiguration.default.add .unreliable).2 {} = some (.ok (), e) ∧
      e.openedChannels.lookup 1 = some .unreliable := by
  have hadd : SendChannelsConfiguration.default.add .unreliable =
      (some 1, (SendChannelsConfiguration.default.add .unreliable).2) := rfl
  obtain ⟨hkept, -, hstart, -⟩ := configured_channels_as_predicted (.add .default hadd)
  obtain ⟨e, he, hopened⟩ := hstart {}
  exact ⟨e, he, (hopened.opened 1).trans (hkept (1, .unreliable) List.mem_cons_self)⟩

end BevyIroh
