import BevyIroh.Client.Sessions
import Mathlib.Data.Fintype.Card

/-!
# Reconnecting

`reconnect` does not make a new connection: it assigns one by one the fields of the one there is, and
opens its configured channels again.  It comes to the same.  The connection is in the state in which
`open_connection` would have made it, and its queues are new, so the tasks of the sessions before have
no end of a queue that leads to it (`Refers`).  A later run of it is a run of a connection that was
opened for the first time; whatever else those tasks do goes unseen (`reconnect_starts_clean`).

`Client.Connection` models `reconnect` on the connection alone.  There the queues of the channels stay
in one table, so that those of the new session come after the ones of the sessions before; that it is
the same operation is `reconnect_moved`.
-/

set_option autoImplicit false

namespace BevyIroh

open Transition

/-! ## Opening the configured channels -/

namespace ClientSideConnection

/-- One configured channel is opened and then the others. -/
theorem openConfiguredChannels_cons {self : ClientSideConnection} {id : ChannelId}
    {ids : ChannelsIdsPool} (ht : self.specific.sendChannelIds.takeId = (.ok id, ids))
    (hready : self.toChannels.Ready) (config : ChannelConfig) (configs : List ChannelConfig) :
    openConfiguredChannels (config :: configs) self =
      openConfiguredChannels configs ((self.withIds ids).createConnectionChannel id config).2 := by
  have hsend : (self.withIds ids).toChannels.trySend (.createChannel id config self.created) = _ :=
    Mpsc.trySend_of_ready hready _
  have hcreated : (self.withIds ids).created = self.created := rfl
  rw [openConfiguredChannels, ht]
  simp only [PeerConnection.createConnectionChannel, PeerConnection.createUnregisteredConnectionChannel,
    hcreated, hsend]

/-- A configuration is opened completely if there are ids and room for it. -/
theorem openConfiguredChannels_ok (configs : List ChannelConfig) {self : ClientSideConnection}
    (hids : configs.length ≤ self.specific.sendChannelIds.availableChannelIds.card)
    (hreceiver : self.toChannels.receiver = true)
    (hroom : self.toChannels.queued.length + configs.length ≤ self.toChannels.capacity) :
    ∃ conn, openConfiguredChannels configs self = some (.ok (), conn) := by
  induction configs generalizing self with
  | nil => exact ⟨self, rfl⟩
  | cons config configs ih =>
    rw [List.length_cons] at hids hroom
    rcases ht : self.specific.sendChannelIds.takeId with ⟨e | id, ids⟩
    · obtain ⟨-, -, hempty⟩ := ChannelsIdsPool.takeId_error ht
      rw [hempty, Finset.card_empty] at hids
      omega
    · obtain ⟨hid, hav, -⟩ := ChannelsIdsPool.takeId_ok ht
      have hcard : ids.availableChannelIds.card + 1 =
          self.specific.sendChannelIds.availableChannelIds.card := by
        rw [hav, Finset.card_erase_add_one (Finset.mem_coe.1 hid.1)]
      have hready : self.toChannels.Ready := ⟨hreceiver, by omega⟩
      obtain ⟨hto, -⟩ := PeerConnection.createConnectionChannel_of_ready (s := self.withIds ids)
        (i := id) hready config
      have hspecific := PeerConnection.specific_createConnectionChannel (s := self.withIds ids)
        (i := id) config
      rw [openConfiguredChannels_cons ht hready]
      apply ih
      · rw [hspecific]
        show configs.length ≤ ids.availableChannelIds.card
        omega
      · rw [hto]
        exact hreceiver
      · rw [hto, Mpsc.push, List.length_append, List.length_singleton]
        show self.toChannels.queued.length + 1 + configs.length ≤ self.toChannels.capacity
        omega

end ClientSideConnection

/-- A connection can always be opened. -/
theorem openConnection_ok (localId : ConnectionLocalId) (cfg : SendChannelsConfiguration)
    (recvCfg : RecvChannelsConfiguration) : ∃ conn,
      openConnection localId cfg recvCfg createClientConnectionAsyncChannels = some (.ok (), conn) := by
  have hlen := cfg.length_le
  have hcard : ChannelsIdsPool.new.availableChannelIds.card = maxChannelCount := Finset.card_fin 256
  refine ClientSideConnection.openConfiguredChannels_ok cfg.configs ?_ rfl ?_
  · show cfg.channels.length ≤ ChannelsIdsPool.new.availableChannelIds.card
    omega
  · show 0 + cfg.channels.length ≤ 2 * maxChannelCount
    omega

/-! ## The configuration -/

namespace PeerConnection

variable {S : Type} (c : PeerConnection S) (id : ChannelId)

theorem recvChannelsCfg_internalCloseChannel :
    (c.internalCloseChannel id).2.recvChannelsCfg = c.recvChannelsCfg := by
  rw [internalCloseChannel]
  split
  · simp only
    split <;> rfl
  all_goals rfl

theorem recvChannelsCfg_internalSendPayload (payload : Bytes) :
    (c.internalSendPayload id payload).2.recvChannelsCfg = c.recvChannelsCfg := by
  rw [internalSendPayload]
  split
  · simp only
    split <;> rfl
  all_goals rfl

end PeerConnection

namespace ClientSideConnection

/-- The connection has this configuration, but for the setting that the application may change. -/
structure Configured (localId : ConnectionLocalId) (cfg : SendChannelsConfiguration)
    (recvCfg : RecvChannelsConfiguration) (c : ClientSideConnection) : Prop where
  localId : c.specific.localId = localId
  channelsConfig : c.specific.channelsConfig = cfg
  recvChannelsCfg : ∃ clear, c.recvChannelsCfg = { recvCfg with clearStaleReceivedPayloads := clear }

variable {localId : ConnectionLocalId} {cfg : SendChannelsConfiguration}
  {recvCfg : RecvChannelsConfiguration} {c c' : ClientSideConnection}

theorem Configured.congr (h : Configured localId cfg recvCfg c) (hspecific : c'.specific = c.specific)
    (hrecv : c'.recvChannelsCfg = c.recvChannelsCfg) : Configured localId cfg recvCfg c' := by
  refine ⟨?_, ?_, hrecv ▸ h.recvChannelsCfg⟩ <;> rw [hspecific]
  · exact h.localId
  · exact h.channelsConfig

theorem Configured.createConnectionChannel (h : Configured localId cfg recvCfg c) (id : ChannelId)
    (config : ChannelConfig) : Configured localId cfg recvCfg (c.createConnectionChannel id config).2 :=
  h.congr (PeerConnection.specific_createConnectionChannel config)
    (c.recvChannelsCfg_createConnectionChannel id config)

theorem Configured.call (h : Configured localId cfg recvCfg c) (a : ClientCall) :
    Configured localId cfg recvCfg (c.call a) :=
  call_invariant (P := Configured localId cfg recvCfg)
    (fun _ _ hc ↦ ⟨hc.1, hc.2, hc.3⟩) (fun _ id config hc ↦ hc.createConnectionChannel id config)
    (fun c id hc ↦ hc.congr PeerConnection.specific_internalCloseChannel
      (c.recvChannelsCfg_internalCloseChannel id))
    (fun c id payload hc ↦ hc.congr (PeerConnection.specific_internalSendPayload payload)
      (c.recvChannelsCfg_internalSendPayload id payload)) h a

theorem Configured.internalDisconnect (h : Configured localId cfg recvCfg c) (receivers : Bool)
    (reason : CloseReason) :
    Configured localId cfg recvCfg (c.internalDisconnect receivers reason).2 := by
  rw [internalDisconnect_eq]
  exact ⟨h.localId, h.channelsConfig, h.recvChannelsCfg⟩

theorem Configured.handleLost (h : Configured localId cfg recvCfg c) (receivers : Bool) :
    Configured localId cfg recvCfg (c.handleLost receivers).1 := by
  rw [ClientSideConnection.handleLost]
  split
  · exact h
  · exact h.internalDisconnect receivers .peerClosed

theorem Configured.otherCall (h : Configured localId cfg recvCfg c) (hcall : c.OtherCall c') :
    Configured localId cfg recvCfg c' := by
  obtain ⟨clear, hc'⟩ := hcall.frame
  obtain ⟨clear₀, hclear₀⟩ := h.recvChannelsCfg
  rw [hc']
  exact ⟨h.localId, h.channelsConfig, clear, by rw [hclear₀]⟩

/-- It is opened again with the setting it has. -/
theorem Configured.of_clear {recvCfg' : RecvChannelsConfiguration}
    (h : Configured localId cfg recvCfg' c)
    (hclear : ∃ clear, recvCfg' = { recvCfg with clearStaleReceivedPayloads := clear }) :
    Configured localId cfg recvCfg c := by
  obtain ⟨clear', rfl⟩ := hclear
  exact ⟨h.localId, h.channelsConfig, h.recvChannelsCfg⟩

/-- Nothing in a session changes the configuration of the connection. -/
theorem Configured.step {sharedClientId : Bool} {r r' : ClientReceiving} {a : ClientReceiving.Action}
    (h : Configured localId cfg recvCfg r.conn) (ha : a.OfSync)
    (hstep : ClientReceiving.Step sharedClientId r a r') : Configured localId cfg recvCfg r'.conn := by
  cases hstep with
  | session hstep =>
    cases hstep.1 with
    | call a hf => exact h.call a
    | disconnect receivers hf hr => exact h.internalDisconnect receivers .localOrder
    | reconnect | reconnectFailed => exact absurd rfl ha.2
    | @handleAsync receivers message q hf hq hr =>
      cases message with
      | connected clientId => exact ⟨h.1, h.2, h.3⟩
      | connectionFailed err => exact ⟨h.1, h.2, h.3⟩
      | connectionClosed =>
        have htaken : Configured localId cfg recvCfg (r.conn.withFromAsyncClient q) := ⟨h.1, h.2, h.3⟩
        exact htaken.handleLost receivers
    | @handleChannels receivers message q hf hq hr =>
      cases message with
      | lostConnection =>
        have htaken : Configured localId cfg recvCfg (r.conn.withFromChannels q) := ⟨h.1, h.2, h.3⟩
        exact htaken.handleLost receivers
    | beginFrame | endAsync | endFrame | reconnectIgnored => exact h
    | _ => exact absurd trivial ha.1
  | arrive => exact ha.elim
  | dispatch hf hs hloop => exact h.congr hloop.drained.2 hloop.bounded.1
  | dispatchSkipped hf hs => exact h
  | receive c hf =>
    rw [ClientReceiving.received]
    show Configured localId cfg recvCfg (r.conn.receivePayload c).2
    rw [receivePayload, PeerConnection.internalReceivePayload]
    split
    · exact h
    · simp only
      split <;> exact ⟨h.1, h.2, h.3⟩
  | clear hf => exact ⟨h.1, h.2, h.3⟩

end ClientSideConnection

namespace Sessions

variable {sharedClientId : Bool} {s s' : Sessions}

/-! ## The new session -/

/-- What `reconnect` opens its channels on is what `open_connection` opens them on. -/
theorem conn_reset (s : Sessions) : s.reset.conn =
    .new (.new s.held.localId s.held.channelsConfig createClientConnectionAsyncChannels.toSyncClient)
      createClientConnectionAsyncChannels.bytesFromServer createClientConnectionAsyncChannels.close
      createClientConnectionAsyncChannels.fromChannels createClientConnectionAsyncChannels.toChannels
      s.held.recvChannelsCfg := by
  simp only [conn, reset, HeldConnection.load, HeldConnection.internalReset, Function.update_self]
  rfl

@[simp] theorem conn_storeConn (s : Sessions) (conn : ClientSideConnection) :
    (s.storeConn conn).conn = conn :=
  HeldConnection.load_store

theorem reconnect_of_not_disconnected (h : s.held.state ≠ .disconnected) :
    s.reconnect = some (.ok false, s) := by
  rw [reconnect]
  split
  · rename_i hs
    exact absurd hs h
  · rfl

/-- The session `reconnect` begins. -/
theorem reconnect_of_disconnected (h : s.held.state = .disconnected) : ∃ s' conn,
    s.reconnect = some (.ok true, s') ∧
    openConnection s.held.localId s.held.channelsConfig s.held.recvChannelsCfg
      createClientConnectionAsyncChannels = some (.ok (), conn) ∧
    s' = (s.reset.storeConn conn).spawn := by
  obtain ⟨conn, hopen⟩ :=
    openConnection_ok s.held.localId s.held.channelsConfig s.held.recvChannelsCfg
  have hreset : s.reset.conn.openConfiguredChannels s.reset.held.channelsConfig.configs =
      some (.ok (), conn) := by
    rw [conn_reset]
    exact hopen
  refine ⟨_, conn, ?_, hopen, rfl⟩
  rw [reconnect, h]
  simp only [hreset]

/-! ## Who has which end -/

/-- The connection has the ends of the queues made for the current session. -/
def Refers (s : Sessions) : Prop := s.held.on s.current = s.held

/-- A step of the sync side changes nothing of the tasks. -/
theorem ofSession_of_sync {r r' : ClientReceiving} {a : ClientReceiving.Action} (ha : a.OfSync)
    (h : ClientReceiving.Step sharedClientId r a r') :
    SessionTasks.ofSession r'.session = .ofSession r.session := by
  cases h with
  | session h =>
    cases h.1 with
    | reconnect | reconnectFailed => exact absurd rfl ha.2
    | established | connectFailed | spawnWatcher | spawnRecv | spawnSpawner | receiveClientId | signal
    | transportClosed | watcherSignal | link | peerClose => exact absurd trivial ha.1
    | _ => rfl
  | _ => rfl

theorem store_attemptEnded (t : Session) (held : HeldConnection) :
    held.store (Session.attemptEnded t).conn = held.store t.conn := by
  by_cases h : t.link.spawner = .absent <;> simp only [Session.conn, Session.attemptEnded, h] <;> rfl

/-- A step of the tasks changes nothing of the sync side but the queues. -/
theorem store_of_tasks {t t' : Session} {a : SessionAct} (ha : a.OfTasks)
    (h : Session.Step sharedClientId t a t') (held : HeldConnection) :
    held.store t'.conn = held.store t.conn ∧ t'.frame = t.frame ∧ t'.events = t.events := by
  cases h with
  | signal => exact ⟨store_attemptEnded _ held, rfl, rfl⟩
  | link hl h =>
    refine ⟨?_, rfl, rfl⟩
    cases h <;> first | rfl | exact hl.elim
  | call | disconnect | reconnect | reconnectFailed | reconnectIgnored | beginFrame | handleAsync
  | endAsync | handleChannels | endFrame => exact ha.elim
  | _ => exact ⟨rfl, rfl, rfl⟩

theorem receiving_storeSync {r : ClientReceiving}
    (h : SessionTasks.ofSession r.session = .ofSession s.receiving.session) :
    (s.storeSync r).receiving = r := by
  have hconn : (s.storeSync r).conn = r.conn := HeldConnection.load_store
  rw [receiving, session, hconn]
  obtain ⟨⟨⟨conn, spawner, tasks⟩, attempt, watcher, transport, frame, events⟩, _, _, _⟩ := r
  obtain ⟨rfl, rfl, rfl, rfl, rfl⟩ : attempt = _ ∧ watcher = _ ∧ transport = _ ∧ spawner = _ ∧
    tasks = _ := by simpa [SessionTasks.ofSession] using h
  rfl

/-- So does what the application does besides. -/
theorem receiving_storeConn (s : Sessions) (conn : ClientSideConnection) :
    (s.storeConn conn).receiving = s.receiving.withConn conn :=
  receiving_storeSync (r := s.receiving.withConn conn) rfl

/-- What the tasks of the current session do, the sync side sees. -/
theorem receiving_storeTasks (hs : s.Refers) {t : Session}
    (h : s.held.store t.conn = s.held ∧ t.frame = s.frame ∧ t.events = s.events) :
    (s.storeTasks s.current t).receiving = { s.receiving with session := t } := by
  obtain ⟨hheld, hframe, hevents⟩ := h
  have hconn : (s.storeTasks s.current t).conn = t.conn := by
    show s.held.load ((s.held.on s.current).storeQueues s.heap t.conn) = t.conn
    rw [show s.held.on s.current = s.held from hs]
    nth_rewrite 1 [← hheld]
    exact HeldConnection.load_store
  rw [receiving, session, hconn]
  obtain ⟨⟨conn, spawner, tasks⟩, attempt, watcher, transport, frame, events⟩ := t
  obtain rfl : frame = s.frame := hframe
  obtain rfl : events = s.events := hevents
  simp [storeTasks, receiving, session, SessionTasks.ofSession, Session.conn]

/-- What the tasks of another session do, it does not see. -/
theorem receiving_storeTasks_of_ne (hs : s.Refers) {n : ℕ} (hn : n ≠ s.current) (t : Session) :
    (s.storeTasks n t).receiving = s.receiving := by
  have hconn : (s.storeTasks n t).conn = s.conn := by
    show s.held.load ((s.held.on n).storeQueues s.heap t.conn) = s.held.load s.heap
    rw [← show s.held.on s.current = s.held from hs]
    exact HeldConnection.load_on_congr (HeldConnection.storeQueues_on_of_ne hn.symm)
  rw [receiving, session, hconn]
  simp [storeTasks, receiving, session, Function.update_of_ne hn.symm]

/-! ## Steps -/

variable {a : Action}

theorem refers_start (localId : ConnectionLocalId) (cfg : SendChannelsConfiguration)
    (recvCfg : RecvChannelsConfiguration) (conn : ClientSideConnection) :
    (start localId cfg recvCfg conn).Refers :=
  rfl

/-- Nothing but `reconnect` changes which ends the connection has, and it changes all of them. -/
theorem Refers.step (hs : s.Refers) (h : Step sharedClientId s a s') : s'.Refers := by
  cases h with
  | @sync _ r ha h => exact congrArg (HeldConnection.store · r.conn) hs
  | @other conn hf h => exact congrArg (HeldConnection.store · conn) hs
  | reconnect hf h =>
    by_cases hdis : s.held.state = .disconnected
    · obtain ⟨s₁, conn, h₁, -, rfl⟩ := reconnect_of_disconnected hdis
      obtain ⟨-, rfl⟩ := Prod.mk.inj (Option.some.inj (h₁.symm.trans h))
      rfl
    · rw [reconnect_of_not_disconnected hdis] at h
      obtain ⟨-, rfl⟩ := Prod.mk.inj (Option.some.inj h)
      exact hs
  | task hn ha h => exact hs
  | signalFailed hn h hr => exact hs
  | watcherFailed hn h hr => exact hs
  | arrive m hn hr => exact hs

/-- **No step of an earlier session is seen**: neither the connection nor the events change, and no
payload is received. -/
theorem Refers.isolated (hs : s.Refers) {n : ℕ} (hn : n ≠ s.current) (ha : a.OfSession n)
    (h : Step sharedClientId s a s') : s'.receiving = s.receiving := by
  cases h with
  | sync | other | reconnect => exact ha.elim
  | @task m _ t hm hat h =>
    obtain rfl : m = n := ha
    exact receiving_storeTasks_of_ne hs hn t
  | @signalFailed m message hm h hr =>
    obtain rfl : m = n := ha
    exact receiving_storeTasks_of_ne hs hn _
  | @watcherFailed m hm h hr =>
    obtain rfl : m = n := ha
    exact receiving_storeTasks_of_ne hs hn _
  | @arrive m message hm hr =>
    obtain rfl : m = n := ha
    exact receiving_storeTasks_of_ne hs hn _

/-- No new session is begun in this step. -/
def SameSession (s : Sessions) (a : Action) : Prop :=
  a = .reconnect → s.held.state ≠ .disconnected

/-- What the sync side sees of a step is a step of the session it is in, or nothing; and what it sees
the tasks do, they do. -/
theorem Refers.simulates (hs : s.Refers) (hc : s.SameSession a) (h : Step sharedClientId s a s') :
    s'.receiving = s.receiving ∨
      ∃ b, ClientReceiving.AnyStep sharedClientId s.receiving b s'.receiving ∧
        ∀ c : SessionAct, b = some (.session c) → c.OfTasks → a = .task s.current c := by
  have hcurrent : s.taskSession s.current = s.receiving.session := by
    rw [taskSession, show s.held.on s.current = s.held from hs]
    rfl
  cases h with
  | @sync b r ha h =>
    refine .inr ⟨some b, ?_, fun c hb htasks ↦ ?_⟩
    · rw [receiving_storeSync (ofSession_of_sync ha h)]
      exact .step h
    · obtain rfl := Option.some.inj hb
      exact absurd htasks ha.1
  | @other conn hf h =>
    refine .inr ⟨none, ?_, by rintro c ⟨⟩⟩
    rw [receiving_storeConn]
    exact .other hf h
  | reconnect hf h =>
    rw [reconnect_of_not_disconnected (hc rfl)] at h
    obtain ⟨-, rfl⟩ := Prod.mk.inj (Option.some.inj h)
    exact .inl rfl
  | @task n b t hn ha h =>
    by_cases hne : n = s.current
    · subst hne
      rw [hcurrent] at h
      refine .inr ⟨some (.session b), ?_, fun c hb _ ↦ ?_⟩
      · rw [receiving_storeTasks hs (store_of_tasks ha h s.held)]
        refine .step (.session ⟨h, ?_⟩)
        rintro rfl
        exact ha.elim
      · rw [ClientReceiving.Action.session.inj (Option.some.inj hb)]
    · exact .inl (receiving_storeTasks_of_ne hs hne t)
  | @signalFailed n message hn h hr =>
    have hne : n ≠ s.current := fun hne ↦
      hr ((congrArg HeldConnection.fromAsyncClientRecv hs).symm.trans hne.symm)
    exact .inl (receiving_storeTasks_of_ne hs hne _)
  | @watcherFailed n hn h hr =>
    have hne : n ≠ s.current := fun hne ↦
      hr ((congrArg HeldConnection.fromAsyncClientRecv hs).symm.trans hne.symm)
    exact .inl (receiving_storeTasks_of_ne hs hne _)
  | @arrive n m hn hr =>
    by_cases hne : n = s.current
    · subst hne
      refine .inr ⟨some (.arrive m), ?_, by rintro c ⟨⟩⟩
      rw [hcurrent, receiving_storeTasks hs ⟨rfl, rfl, rfl⟩]
      exact .step (.arrive s.receiving m)
    · exact .inl (receiving_storeTasks_of_ne hs hne _)

/-! ## Reconnecting -/

variable {localId : ConnectionLocalId} {cfg : SendChannelsConfiguration}
  {recvCfg : RecvChannelsConfiguration} {conn : ClientSideConnection}

/-- What holds in every state of a run: the connection has the ends of its own session, and the
configuration it was opened with, as far as that cannot be changed. -/
structure Sound (localId : ConnectionLocalId) (cfg : SendChannelsConfiguration)
    (recvCfg : RecvChannelsConfiguration) (s : Sessions) : Prop where
  refers : s.Refers
  configured : s.conn.Configured localId cfg recvCfg

theorem configured_openConnection
    (h : openConnection localId cfg recvCfg createClientConnectionAsyncChannels =
      some (.ok (), conn)) : conn.Configured localId cfg recvCfg :=
  ClientSideConnection.openConfiguredChannels_invariant
    (P := ClientSideConnection.Configured localId cfg recvCfg) (fun _ _ hc ↦ ⟨hc.1, hc.2, hc.3⟩)
    (fun _ id config hc ↦ hc.createConnectionChannel id config) ⟨rfl, rfl, _, rfl⟩ h

theorem sound_start
    (h : openConnection localId cfg recvCfg createClientConnectionAsyncChannels =
      some (.ok (), conn)) : Sound localId cfg recvCfg (start localId cfg recvCfg conn) where
  refers := refers_start localId cfg recvCfg conn
  configured := by
    rw [start, conn_storeConn]
    exact configured_openConnection h

/-- The connection would be opened again with the same configuration. -/
theorem Sound.openConnection_eq (hs : Sound localId cfg recvCfg s)
    (chans : ClientConnectionAsyncChannels) :
    openConnection s.held.localId s.held.channelsConfig s.held.recvChannelsCfg chans =
      openConnection localId cfg s.held.recvChannelsCfg chans := by
  have hlocal : s.held.localId = localId := hs.configured.localId
  have hcfg : s.held.channelsConfig = cfg := hs.configured.channelsConfig
  rw [hlocal, hcfg]

theorem Sound.step (hs : Sound localId cfg recvCfg s) (h : Step sharedClientId s a s') :
    Sound localId cfg recvCfg s' := by
  have hcfg := hs.openConnection_eq
  refine ⟨hs.refers.step h, ?_⟩
  obtain ⟨-, hconf⟩ := hs
  cases h with
  | @sync b r ha h =>
    have hconn : (s.storeSync r).conn = r.conn := HeldConnection.load_store
    rw [hconn]
    exact ClientSideConnection.Configured.step (r := s.receiving) hconf ha h
  | @other conn hf h =>
    rw [conn_storeConn]
    exact hconf.otherCall h
  | reconnect hf h =>
    by_cases hdis : s.held.state = .disconnected
    · obtain ⟨s₁, conn, h₁, hopen, rfl⟩ := reconnect_of_disconnected hdis
      obtain ⟨-, rfl⟩ := Prod.mk.inj (Option.some.inj (h₁.symm.trans h))
      rw [hcfg] at hopen
      show (s.reset.storeConn conn).conn.Configured localId cfg recvCfg
      rw [conn_storeConn]
      exact (configured_openConnection hopen).of_clear hconf.recvChannelsCfg
    · rw [reconnect_of_not_disconnected hdis] at h
      obtain ⟨-, rfl⟩ := Prod.mk.inj (Option.some.inj h)
      exact hconf
  | task hn ha h => exact ⟨hconf.1, hconf.2, hconf.3⟩
  | signalFailed hn h hr => exact ⟨hconf.1, hconf.2, hconf.3⟩
  | watcherFailed hn h hr => exact ⟨hconf.1, hconf.2, hconf.3⟩
  | arrive m hn hr => exact ⟨hconf.1, hconf.2, hconf.3⟩

/-- A disconnected connection becomes as one that is opened now, and its task is spawned. -/
theorem Sound.reconnect (hs : Sound localId cfg recvCfg s) (hf : s.frame = .outside)
    (hdis : s.held.state = .disconnected) :
    ∃ s' conn, s.reconnect = some (.ok true, s') ∧
      openConnection localId cfg s.held.recvChannelsCfg createClientConnectionAsyncChannels =
        some (.ok (), conn) ∧
      s'.receiving = .start (.start conn s.events) := by
  obtain ⟨s', conn, h, hopen, rfl⟩ := reconnect_of_disconnected hdis
  rw [hs.openConnection_eq] at hopen
  refine ⟨_, conn, h, hopen, ?_⟩
  have hconn : (s.reset.storeConn conn).spawn.conn = conn := s.reset.conn_storeConn conn
  rw [receiving, session, hconn]
  simp [spawn, storeConn, reset, hf, SessionTasks.start, ClientReceiving.start, Session.start]

/-- What has become of a connection with its sessions `s`, when `reconnect` has led to `s'`, and
`conn` is what a connection with its configuration is when it is opened. -/
structure StartsClean (sharedClientId : Bool) (s s' : Sessions) (conn : ClientSideConnection) :
    Prop where
  /-- The sync side is as if it had just been opened, with the task just spawned. -/
  receiving : s'.receiving = .start (.start conn s.events)
  /-- As long as this session lasts, its run is a run of the connection that was just opened. -/
  run : ∀ s'', Reachable (Step sharedClientId) SameSession s' s'' →
    Reachable (ClientReceiving.AnyStep sharedClientId) (fun _ _ ↦ True)
      (.start (.start conn s.events)) s''.receiving
  /-- Then and later, no step of a session that is over is seen. -/
  isolated : ∀ s'', Reachable (Step sharedClientId) (fun _ _ ↦ True) s' s'' → ∀ n a s₁,
    n ≠ s''.current → a.OfSession n → Step sharedClientId s'' a s₁ → s₁.receiving = s''.receiving

/-- **Reconnecting starts a clean session.**  After any history of a connection, with any number of
sessions and whatever their tasks do, `reconnect` leaves alone a connection that is not disconnected,
and one that is becomes as one that is opened now: no step of an earlier session is seen again.  What
the connection keeps is the configuration it was opened with, whether stale payloads are cleared
excepted, which is as the application has set it. -/
theorem reconnect_starts_clean {conn₀ : ClientSideConnection}
    (h₀ : openConnection localId cfg recvCfg createClientConnectionAsyncChannels =
      some (.ok (), conn₀))
    (h : Reachable (Step sharedClientId) (fun _ _ ↦ True) (start localId cfg recvCfg conn₀) s)
    (hf : s.frame = .outside) :
    (s.held.state ≠ .disconnected → s.reconnect = some (.ok false, s)) ∧
    (s.held.state = .disconnected → ∃ s' conn, s.reconnect = some (.ok true, s') ∧
      (∃ clear, s.held.recvChannelsCfg = { recvCfg with clearStaleReceivedPayloads := clear }) ∧
      openConnection localId cfg s.held.recvChannelsCfg createClientConnectionAsyncChannels =
        some (.ok (), conn) ∧
      StartsClean sharedClientId s s' conn) := by
  have hs : Sound localId cfg recvCfg s :=
    h.invariant (sound_start h₀) fun hs _ hstep ↦ hs.step hstep
  refine ⟨reconnect_of_not_disconnected, fun hdis ↦ ?_⟩
  obtain ⟨s', conn, hr, hopen, hreceiving⟩ := hs.reconnect hf hdis
  have hstep : Step sharedClientId s .reconnect s' := .reconnect hf hr
  have hs' : s'.Refers := hs.refers.step hstep
  refine ⟨s', conn, hr, hs.configured.recvChannelsCfg, hopen, hreceiving, fun s'' h'' ↦ ?_,
    fun s'' h'' n a s₁ hn ha hstep ↦ ?_⟩
  · rw [← hreceiving]
    refine h''.simulates (I := Refers) receiving hs' (fun hs _ hstep ↦ hs.step hstep) ?_
    intro s a s' hs hc hstep
    exact (hs.simulates hc hstep).imp_right fun ⟨b, hb, _⟩ ↦ ⟨b, trivial, hb⟩
  · have hs'' : s''.Refers := h''.invariant hs' fun hs _ hstep ↦ hs.step hstep
    exact hs''.isolated hn ha hstep

end Sessions

/-! ## A connection with two channels -/

namespace ClientSideConnection

def twoConfigs : SendChannelsConfiguration := ⟨[.orderedReliable 4, .unreliable], by decide⟩

/-- A connection opened with these channels. -/
def openedTwo : ClientSideConnection :=
  let new : ClientSideConnection :=
    .new (.new 0 twoConfigs createClientConnectionAsyncChannels.toSyncClient)
      createClientConnectionAsyncChannels.bytesFromServer createClientConnectionAsyncChannels.close
      createClientConnectionAsyncChannels.fromChannels createClientConnectionAsyncChannels.toChannels {}
  let ordered := new.withIds ⟨Finset.univ.erase 0, some 0⟩
  let first := (ordered.createConnectionChannel 0 (.orderedReliable 4)).2
  let unreliable := withIds first ⟨(Finset.univ.erase 0).erase 1, some 0⟩
  (unreliable.createConnectionChannel 1 .unreliable).2

theorem openConnection_openedTwo :
    openConnection 0 twoConfigs {} createClientConnectionAsyncChannels = some (.ok (), openedTwo) := by
  have hsecond : ChannelsIdsPool.takeId ⟨Finset.univ.erase 0, some 0⟩ =
      (.ok 1, ⟨(Finset.univ.erase 0).erase 1, some 0⟩) := by decide +kernel
  rw [openConnection]
  show openConfiguredChannels [.orderedReliable 4, .unreliable] _ = _
  rw [openConfiguredChannels_cons ChannelsIdsPool.takeId_new (by decide),
    openConfiguredChannels_cons hsecond (by decide)]
  rfl

end ClientSideConnection

namespace Sessions

open ClientSideConnection

/-- The task of channel 0 cannot open its stream, and closing the channel then costs its id.  A payload
is sent, two arrive, one of which is dispatched, and stale payloads are to be cleared from now on.  Of
all this only the last is left when the application has disconnected and reconnects. -/
theorem reconnect_starts_clean_used : ∃ s s' conn,
    Reachable (Step false) (fun _ _ ↦ True) (start 0 twoConfigs {} openedTwo) s ∧
      (s.conn.slot 0 = none ∧ 0 ∉ s.held.sendChannelIds.availableChannelIds) ∧
      (s.conn.buffer 1 = [[7]] ∧ s.conn.bytesFromPeer.queued = [(1, [6])]) ∧
      s.held.stats = ⟨1, 2, 1⟩ ∧
      s.held.recvChannelsCfg = { clearStaleReceivedPayloads := true } ∧
      s.reconnect = some (.ok true, s') ∧
      openConnection 0 twoConfigs { clearStaleReceivedPayloads := true }
        createClientConnectionAsyncChannels = some (.ok (), conn) ∧
      StartsClean false s s' conn := by
  have h : Reachable (Step false) (fun _ _ ↦ True) (start 0 twoConfigs {} openedTwo) _ := .start
  have h := h.next trivial (.task (n := 0) le_rfl (by trivial) (.established rfl))
  have h := h.next trivial (.task (n := 0) le_rfl (by trivial) (.spawnWatcher rfl))
  have h := h.next trivial (.task (n := 0) le_rfl (by trivial) (.spawnRecv rfl))
  have h := h.next trivial (.task (n := 0) le_rfl (by trivial) (.spawnSpawner rfl))
  have h := h.next trivial
    (.task (n := 0) le_rfl (by trivial) (.link (by trivial) (.listenCreate rfl rfl)))
  have h := h.next trivial (.task (n := 0) le_rfl (by trivial)
    (.link (by trivial) (.task (h := 0) rfl (.openFailed rfl))))
  have h := h.next trivial (.sync (by exact ⟨id, by rintro ⟨⟩⟩)
    (.session ⟨.call (.closeChannel 0) rfl, by rintro ⟨⟩⟩))
  have h := h.next trivial (.sync (by exact ⟨id, by rintro ⟨⟩⟩)
    (.session ⟨.call (.sendPayloadOn 1 [8, 9]) rfl, by rintro ⟨⟩⟩))
  have h := h.next trivial (.arrive (n := 0) (1, [7]) le_rfl rfl)
  have h := h.next trivial (.sync (by trivial) (ClientReceiving.step_dispatchReceivedPayloads rfl))
  have h := h.next trivial (.arrive (n := 0) (1, [6]) le_rfl rfl)
  have h := h.next trivial (.other rfl (.setClearStaleReceivedPayloads _ true))
  have h := h.next trivial (.sync (by exact ⟨id, by rintro ⟨⟩⟩)
    (.session ⟨.disconnect true rfl fun _ ↦ rfl, by rintro ⟨⟩⟩))
  obtain ⟨s', conn, hr, -, hopen, hclean⟩ :=
    (reconnect_starts_clean openConnection_openedTwo h rfl).2 rfl
  refine ⟨_, s', conn, h, ⟨rfl, ?_⟩, ⟨rfl, rfl⟩, rfl, rfl, hr, hopen, hclean⟩
  show 0 ∉ ((Finset.univ.erase 0).erase 1 : Finset ChannelId)
  simp

end Sessions

/-! ## The operation on the connection alone -/

/-- The same channel, with its queues `base` places further on in the table. -/
def Channel.moved (base : ℕ) (c : Channel) : Channel := { c with queues := base + c.queues }

def ChannelSyncMessage.moved (base : ℕ) : ChannelSyncMessage → ChannelSyncMessage
  | .createChannel id config queues => .createChannel id config (base + queues)

namespace PeerConnection

variable {S : Type} {base : ℕ} {c c' : PeerConnection S}

/-- The same connection, with the queues of its channels `base` places further on in the table.  What
else is in the table is of no account: no channel leads there. -/
structure Moved (base : ℕ) (c c' : PeerConnection S) : Prop where
  specific : c'.specific = c.specific
  sendChannels : c'.sendChannels = c.sendChannels.map (Option.map (Channel.moved base))
  bytesFromPeer : c'.bytesFromPeer = c.bytesFromPeer
  toChannels : c'.toChannels = { c.toChannels with
    received := c.toChannels.received.map (ChannelSyncMessage.moved base)
    queued := c.toChannels.queued.map (ChannelSyncMessage.moved base) }
  fromChannels : c'.fromChannels = c.fromChannels
  closeSend : c'.closeSend = c.closeSend
  stats : c'.stats = c.stats
  recvChannelsPayloads : c'.recvChannelsPayloads = c.recvChannelsPayloads
  recvChannelsCfg : c'.recvChannelsCfg = c.recvChannelsCfg
  queues : ∀ h < c.created, c'.queues (base + h) = c.queues h
  created : c'.created = base + c.created

theorem Moved.ready_iff (h : Moved base c c') : c'.toChannels.Ready ↔ c.toChannels.Ready := by
  rw [h.toChannels, Mpsc.Ready, Mpsc.Ready, List.length_map]

theorem Moved.slot (h : Moved base c c') (id : ChannelId) :
    c'.slot id = (c.slot id).map (Channel.moved base) := by
  rw [PeerConnection.slot, PeerConnection.slot, h.sendChannels, List.getElem?_map]
  cases c.sendChannels[id.val]? <;> rfl

/-- A request that is not refused is made for a place that much further on, too. -/
theorem Moved.createUnregisteredConnectionChannel (h : Moved base c c') (hq : c.toChannels.Ready)
    (id : ChannelId) (config : ChannelConfig) :
    (c.createUnregisteredConnectionChannel id config).1 = .ok ⟨id, c.created⟩ ∧
    (c'.createUnregisteredConnectionChannel id config).1 = .ok (Channel.moved base ⟨id, c.created⟩) ∧
    Moved base (c.createUnregisteredConnectionChannel id config).2
      (c'.createUnregisteredConnectionChannel id config).2 := by
  rw [PeerConnection.createUnregisteredConnectionChannel, Mpsc.trySend_of_ready hq,
    PeerConnection.createUnregisteredConnectionChannel, Mpsc.trySend_of_ready (h.ready_iff.2 hq)]
  refine ⟨rfl, by rw [h.created]; rfl, { h with
    toChannels := ?_, queues := fun k hk ↦ ?_, created := ?_ }⟩
  · simp only [h.toChannels, Mpsc.push, h.created, List.map_append]
    rfl
  · simp only [h.created, Function.update_apply, Nat.add_left_cancel_iff]
    split_ifs with hne
    · rfl
    · exact h.queues k (Nat.lt_of_le_of_ne (Nat.le_of_lt_succ hk) hne)
  · simp only [h.created, Nat.add_assoc]

theorem Moved.registerConnectionChannel (h : Moved base c c') (channel : Channel) :
    Moved base (c.registerConnectionChannel channel)
      (c'.registerConnectionChannel (channel.moved base)) := by
  have hlen : c'.sendChannels.length = c.sendChannels.length := by rw [h.sendChannels, List.length_map]
  rw [PeerConnection.registerConnectionChannel, PeerConnection.registerConnectionChannel]
  simp only [Channel.moved, hlen]
  split_ifs with hlt
  · refine { h with sendChannels := ?_, queues := fun k hk ↦ ?_ }
    · simp only [h.sendChannels, List.map_set]
      rfl
    · simp only [h.slot]
      cases c.slot channel.id with
      | none => exact h.queues k hk
      | some old =>
        simp only [Option.map_some, Option.elim_some, Channel.drop, Channel.moved,
          Function.update_apply, Nat.add_left_cancel_iff]
        split_ifs with hold
        · rw [← hold, h.queues k hk]
        · exact h.queues k hk
  · refine { h with sendChannels := ?_ }
    simp only [h.sendChannels, List.map_append, List.map_replicate]
    rfl

end PeerConnection

namespace ClientSideConnection

open PeerConnection

/-- The configured channels are opened that much further on, too. -/
theorem openConfiguredChannels_moved (configs : List ChannelConfig) {base : ℕ}
    {c c' conn : ClientSideConnection} (h : Moved base c c')
    (hopen : openConfiguredChannels configs c = some (.ok (), conn)) :
    ∃ conn', openConfiguredChannels configs c' = some (.ok (), conn') ∧ Moved base conn conn' := by
  induction configs generalizing c c' with
  | nil =>
    obtain ⟨-, rfl⟩ := Prod.mk.inj (Option.some.inj hopen)
    exact ⟨c', rfl, h⟩
  | cons config configs ih =>
    rw [openConfiguredChannels] at hopen ⊢
    rw [h.specific]
    split at hopen
    · cases hopen
    · rename_i id ids ht
      have hids : Moved base (c.withIds ids) (c'.withIds ids) := { h with
        specific := congrArg (fun s : ClientConnection ↦ { s with sendChannelIds := ids }) h.specific }
      by_cases hq : c.toChannels.Ready
      · obtain ⟨hok, hok', hmoved⟩ := hids.createUnregisteredConnectionChannel hq id config
        rcases hd : (c.withIds ids).createUnregisteredConnectionChannel id config with ⟨r, d⟩
        rcases hd' : (c'.withIds ids).createUnregisteredConnectionChannel id config with ⟨r', d'⟩
        rw [hd] at hok hmoved hopen
        rw [hd'] at hok' hmoved
        obtain rfl : r = _ := hok
        obtain rfl : r' = _ := hok'
        exact ih (hmoved.registerConnectionChannel _) hopen
      · obtain ⟨e, he⟩ := Mpsc.trySend_of_not_ready hq (.createChannel id config c.created)
        rw [PeerConnection.createUnregisteredConnectionChannel,
          show (c.withIds ids).toChannels = c.toChannels from rfl,
          show (c.withIds ids).created = c.created from rfl, he] at hopen
        cases e <;> cases hopen

/-- **It is the same operation**: `reconnect` on the connection alone leads to the same connection as
on the ends it has, with the queues of its channels after those of the sessions before. -/
theorem reconnect_moved {s : Sessions} (h : s.held.state = .disconnected) : ∃ s' conn,
    s.reconnect = some (.ok true, s') ∧ s.conn.reconnect = some (.ok true, conn) ∧
      Moved s.conn.created s'.conn conn := by
  obtain ⟨s', opened, hr, hopen, rfl⟩ := Sessions.reconnect_of_disconnected h
  have hopened : (s.reset.storeConn opened).spawn.conn = opened := s.reset.conn_storeConn opened
  have hmoved : Moved s.conn.created s.reset.conn s.conn.renewed := by
    rw [s.conn_reset]
    exact ⟨rfl, rfl, rfl, rfl, rfl, rfl, rfl, rfl, rfl, fun _ hk ↦ absurd hk (Nat.not_lt_zero _), rfl⟩
  have hreset : s.reset.conn.openConfiguredChannels s.held.channelsConfig.configs =
      some (.ok (), opened) := by
    rw [s.conn_reset]
    exact hopen
  obtain ⟨conn, hconn, hmoved⟩ := openConfiguredChannels_moved _ hmoved hreset
  have hs : s.conn.specific.state = .disconnected := h
  have hcfg : s.conn.specific.channelsConfig = s.held.channelsConfig := rfl
  refine ⟨_, conn, hr, ?_, hopened.symm ▸ hmoved⟩
  rw [reconnect_of_disconnected hs, hcfg, hconn]
  rfl

end ClientSideConnection

end BevyIroh
