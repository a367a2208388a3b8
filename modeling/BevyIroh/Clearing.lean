import BevyIroh.Client.Connection
import BevyIroh.Server.Tables
import BevyIroh.Shared.RecvChannels

/-!
# Clearing what was not read

At the end of a frame a system clears the receive buffers of the connections that are set so.  The
setting is given when a connection or an endpoint is made, by `setClearStaleReceivedPayloads` for one
connection, and on a server by `setClearStaleClientPayloads` for all clients; whichever was last
counts.  `ClientSettings` and `ServerSettings` are the two sides, with that last setting of each
connection.

The client asks each connection for its own setting.  The server asks the endpoint for the endpoint's
copy, and clears all its connections or none: what was set on one of them is in a copy that nothing
reads.  `clearing_respects_settings_iff` says when that makes no difference.
-/

set_option autoImplicit false

namespace BevyIroh

open Transition

/-! ## One connection -/

namespace PeerConnection

variable {S : Type}

/-- There is nothing to be cleared. -/
def AllRead (c : PeerConnection S) : Prop := ∀ channelId, c.buffer channelId = []

/-- What the end of a frame is to do to the buffers. -/
def ClearedIf (enabled : Bool) (c c' : PeerConnection S) : Prop :=
  ∀ channelId, c'.buffer channelId = if enabled then [] else c.buffer channelId

/-- **A connection that is cleared under one setting is cleared under another** if there is nothing to
be cleared, and only then. -/
theorem clearedIf_iff (enabled flag : Bool) (c : PeerConnection S) :
    ClearedIf enabled c (if flag then c.clearReceivedPayloads else c) ↔
      enabled = flag ∨ c.AllRead := by
  cases flag with
  | false =>
    cases enabled with
    | false => exact iff_of_true (fun _ ↦ rfl) (.inl rfl)
    | true => exact ⟨.inr, fun h ↦ h.resolve_left Bool.noConfusion⟩
  | true =>
    have hempty := buffer_clearReceivedPayloads c
    cases enabled with
    | false =>
      exact ⟨fun h ↦ .inr fun i ↦ (h i).symm.trans (hempty i), fun h i ↦
        (hempty i).trans (h.resolve_left Bool.noConfusion i).symm⟩
    | true => exact iff_of_true hempty (.inl rfl)

end PeerConnection

open PeerConnection

/-! ## The client -/

/-- The connections of an `IrohClient`, and the last setting of each of them. -/
structure ClientSettings where
  connections : HashMap ConnectionLocalId ClientSideConnection
  latest : ConnectionLocalId → Bool

/-- A connection that is opened has the configuration it is opened with. -/
theorem recvChannelsCfg_openConnection {localId : ConnectionLocalId} {cfg : SendChannelsConfiguration}
    {recvCfg : RecvChannelsConfiguration} {chans : ClientConnectionAsyncChannels}
    {r : Except AsyncChannelError Unit} {c : ClientSideConnection}
    (h : openConnection localId cfg recvCfg chans = some (r, c)) : c.recvChannelsCfg = recvCfg :=
  ClientSideConnection.openConfiguredChannels_invariant (P := fun c ↦ c.recvChannelsCfg = recvCfg)
    (fun _ _ hc ↦ hc) (fun c id config hc ↦ (recvChannelsCfg_createConnectionChannel c id config).trans hc)
    rfl h

namespace ClientSettings

/-- The system `clear_stale_received_payloads`. -/
def clearStaleReceivedPayloads (self : ClientSettings) (order : List ConnectionLocalId) :
    ClientSettings :=
  { self with connections :=
      HashMap.forEach PeerConnection.clearStaleReceivedPayloads order self.connections }

inductive Action where
  | openConnection (localId : ConnectionLocalId) (recvChannelsCfg : RecvChannelsConfiguration)
  | setClearStaleReceivedPayloads (localId : ConnectionLocalId) (enable : Bool)
  | clearStaleReceivedPayloads
  /-- Payloads arrive, are dispatched and read; connections are lost, reconnected and closed. -/
  | other

inductive Step : ClientSettings → Action → ClientSettings → Prop
  | openConnection {s : ClientSettings} {localId : ConnectionLocalId}
      {cfg : SendChannelsConfiguration} {recvCfg : RecvChannelsConfiguration}
      {chans : ClientConnectionAsyncChannels} {connection : ClientSideConnection}
      (h : BevyIroh.openConnection localId cfg recvCfg chans = some (.ok (), connection)) :
      Step s (.openConnection localId recvCfg)
        { connections := s.connections.insert localId connection
          latest := Function.update s.latest localId recvCfg.clearStaleReceivedPayloads }
  | setClearStaleReceivedPayloads (s : ClientSettings) (localId : ConnectionLocalId) (enable : Bool) :
      Step s (.setClearStaleReceivedPayloads localId enable)
        { connections :=
            s.connections.modify localId (·.setClearStaleReceivedPayloads enable)
          latest := Function.update s.latest localId enable }
  | clearStaleReceivedPayloads {s : ClientSettings} {order : List ConnectionLocalId}
      (ho : s.connections.IsOrder order) :
      Step s .clearStaleReceivedPayloads (s.clearStaleReceivedPayloads order)
  | other {s : ClientSettings} {connections : HashMap ConnectionLocalId ClientSideConnection}
      (h : ∀ {k c'}, connections.lookup k = some c' → ∃ c, s.connections.lookup k = some c ∧
        c'.recvChannelsCfg = c.recvChannelsCfg) :
      Step s .other { s with connections }

/-- The system clears the connections whose last setting says so, and no others. -/
def Clears (s : ClientSettings) (a : Action) (s' : ClientSettings) : Prop :=
  a = .clearStaleReceivedPayloads → ∀ k,
    Option.Rel (ClearedIf (s.latest k)) (s.connections.lookup k) (s'.connections.lookup k)

/-- Each connection knows its last setting. -/
def Known (s : ClientSettings) : Prop :=
  ∀ k c, s.connections.lookup k = some c →
    c.recvChannelsCfg.clearStaleReceivedPayloads = s.latest k

variable {s s' : ClientSettings} {a : Action}

theorem Known.step (h : s.Known) (hs : Step s a s') : s'.Known := by
  intro k c hk
  rw [Known] at h
  cases hs with
  | openConnection hopen =>
    rw [HashMap.lookup_insert_eq_ite] at hk
    split_ifs at hk with hid
    · obtain rfl := Option.some.inj hk
      simp only [hid, Function.update_self, recvChannelsCfg_openConnection hopen]
    · simp only [Function.update_of_ne hid]
      exact h k c hk
  | setClearStaleReceivedPayloads localId enable =>
    rw [HashMap.lookup_modify] at hk
    split_ifs at hk with hid
    · obtain ⟨c₀, -, rfl⟩ := Option.map_eq_some_iff.1 hk
      simp only [hid, Function.update_self]
      rfl
    · simp only [Function.update_of_ne hid]
      exact h k c hk
  | clearStaleReceivedPayloads ho =>
    rw [ClientSettings.clearStaleReceivedPayloads, HashMap.lookup_forEach ho] at hk
    obtain ⟨c₀, hk₀, rfl⟩ := Option.map_eq_some_iff.1 hk
    refine Eq.trans ?_ (h k c₀ hk₀)
    rw [PeerConnection.clearStaleReceivedPayloads]
    split <;> rfl
  | other hother =>
    obtain ⟨c₀, hk₀, hcfg⟩ := hother hk
    rw [hcfg]
    exact h k c₀ hk₀

/-- On the client the system does what it should. -/
theorem Known.clears (h : s.Known) (hs : Step s a s') : Clears s a s' := by
  rintro rfl k
  cases hs with
  | clearStaleReceivedPayloads ho =>
    rw [ClientSettings.clearStaleReceivedPayloads, HashMap.lookup_forEach ho]
    cases hk : s.connections.lookup k with
    | none => exact .none
    | some c =>
      refine .some ?_
      rw [← h k c hk]
      exact (clearedIf_iff _ _ c).2 (.inl rfl)

end ClientSettings

/-! ## The server -/

namespace ServerEndpoint

def clearPayloadsFromClients (self : ServerEndpoint) (order : List ClientId) : ServerEndpoint :=
  { self with clients := HashMap.forEach PeerConnection.clearReceivedPayloads order self.clients }

def setClearStaleClientPayloads (self : ServerEndpoint) (enable : Bool) : ServerEndpoint :=
  { self with recvChannelsCfg.clearStaleReceivedPayloads := enable }

/-- The system `clear_stale_received_payloads`. -/
def clearStaleReceivedPayloads (self : ServerEndpoint) (order : List ClientId) : ServerEndpoint :=
  if self.recvChannelsCfg.clearStaleReceivedPayloads then self.clearPayloadsFromClients order else self

theorem lookup_clearStaleReceivedPayloads {s : ServerEndpoint} {order : List ClientId}
    (ho : s.clients.IsOrder order) (k : ClientId) :
    (s.clearStaleReceivedPayloads order).clients.lookup k = (s.clients.lookup k).map fun c ↦
      if s.recvChannelsCfg.clearStaleReceivedPayloads then c.clearReceivedPayloads else c := by
  rw [clearStaleReceivedPayloads]
  split_ifs
  · exact HashMap.lookup_forEach ho k
  · rw [Option.map_id']

end ServerEndpoint

/-- An endpoint, and the last setting for each client.  Somebody who is no client yet has the setting
that was last given for all. -/
structure ServerSettings where
  endpoint : ServerEndpoint
  latest : ClientId → Bool

namespace ServerSettings

/-- At the start the configuration of the endpoint is the one it was started with. -/
def start (endpoint : ServerEndpoint) : ServerSettings where
  endpoint := endpoint
  latest _ := endpoint.recvChannelsCfg.clearStaleReceivedPayloads

inductive Action where
  | handleNewConnection (order : List ChannelId) (connection : ServerSideConnection)
  /-- On what `connection_mut` finds. -/
  | setClearStaleReceivedPayloads (clientId : ClientId) (enable : Bool)
  | setClearStaleClientPayloads (enable : Bool)
  | clearStaleReceivedPayloads
  /-- Payloads arrive, are dispatched and read; clients leave. -/
  | other

/-- The steps of an endpoint that was started with this configuration. -/
inductive Step (recvChannelsCfg : RecvChannelsConfiguration) :
    ServerSettings → Action → ServerSettings → Prop
  /-- The accept task has a copy of the configuration the endpoint was started with. -/
  | handleNewConnection {s : ServerSettings} {order : List ChannelId}
      {connection : ServerSideConnection} (ho : s.endpoint.openedChannels.IsOrder order)
      (hcfg : connection.recvChannelsCfg = recvChannelsCfg) :
      Step recvChannelsCfg s (.handleNewConnection order connection)
        { s with endpoint := (s.endpoint.handleNewConnection order connection).2 }
  | setClearStaleReceivedPayloads {s : ServerSettings} {clientId : ClientId} (enable : Bool)
      (h : clientId ∈ s.endpoint.clients) :
      Step recvChannelsCfg s (.setClearStaleReceivedPayloads clientId enable)
        { endpoint := { s.endpoint with
            clients := s.endpoint.clients.modify clientId (·.setClearStaleReceivedPayloads enable) }
          latest := Function.update s.latest clientId enable }
  | setClearStaleClientPayloads (s : ServerSettings) (enable : Bool) :
      Step recvChannelsCfg s (.setClearStaleClientPayloads enable)
        { endpoint := s.endpoint.setClearStaleClientPayloads enable
          latest := fun _ ↦ enable }
  | clearStaleReceivedPayloads {s : ServerSettings} {order : List ClientId}
      (ho : s.endpoint.clients.IsOrder order) :
      Step recvChannelsCfg s .clearStaleReceivedPayloads
        { s with endpoint := s.endpoint.clearStaleReceivedPayloads order }
  | other {s : ServerSettings} {endpoint : ServerEndpoint}
      (hcfg : endpoint.recvChannelsCfg = s.endpoint.recvChannelsCfg)
      (hclients : ∀ {k}, k ∈ endpoint.clients → k ∈ s.endpoint.clients) :
      Step recvChannelsCfg s .other { s with endpoint }

/-- The system clears the connections whose last setting says so, and no others. -/
def Clears (s : ServerSettings) (a : Action) (s' : ServerSettings) : Prop :=
  a = .clearStaleReceivedPayloads → ∀ k,
    Option.Rel (ClearedIf (s.latest k)) (s.endpoint.clients.lookup k) (s'.endpoint.clients.lookup k)

/-- When the system runs, each connection that has something to be cleared was last set to what the
endpoint's copy says, which is what was last set for all clients. -/
def SetAlike (s : ServerSettings) (a : Action) : Prop :=
  a = .clearStaleReceivedPayloads → ∀ k c, s.endpoint.clients.lookup k = some c →
    s.latest k = s.endpoint.recvChannelsCfg.clearStaleReceivedPayloads ∨ c.AllRead

variable {s s' : ServerSettings} {a : Action} {recvCfg : RecvChannelsConfiguration}

/-- **On the server the system does what it should exactly when all connections are set alike.** -/
theorem clears_iff (hs : Step recvCfg s a s') : Clears s a s' ↔ SetAlike s a := by
  cases hs with
  | @clearStaleReceivedPayloads order ho =>
    have hclear : Clears s .clearStaleReceivedPayloads
        { s with endpoint := s.endpoint.clearStaleReceivedPayloads order } ↔
        ∀ k, Option.Rel (ClearedIf (s.latest k)) (s.endpoint.clients.lookup k)
          ((s.endpoint.clients.lookup k).map fun c ↦
            if s.endpoint.recvChannelsCfg.clearStaleReceivedPayloads then c.clearReceivedPayloads
            else c) := by
      simp only [Clears, true_implies, ServerEndpoint.lookup_clearStaleReceivedPayloads ho]
    have halike : SetAlike s .clearStaleReceivedPayloads ↔ ∀ k c,
        s.endpoint.clients.lookup k = some c →
          s.latest k = s.endpoint.recvChannelsCfg.clearStaleReceivedPayloads ∨ c.AllRead := by
      simp only [SetAlike, true_implies]
    rw [hclear, halike]
    refine forall_congr' fun k ↦ ?_
    cases s.endpoint.clients.lookup k with
    | none => simp
    | some c => simp [clearedIf_iff]
  | _ => exact iff_of_true (by rintro ⟨⟩) (by rintro ⟨⟩)

end ServerSettings

/-! ## Both sides -/

/-- **When the end of a frame respects the settings.**  In every run of a client each call of the system
empties the buffers of the connections whose last setting says so, and touches no others.  In a run of a
server this is so exactly when at each call every connection with something to be cleared was last set
to what was last set for all clients. -/
theorem clearing_respects_settings_iff {latest : ConnectionLocalId → Bool}
    {trc : List (ClientSettings.Action × ClientSettings)}
    (hc : Run ClientSettings.Step ⟨∅, latest⟩ trc) {e₀ : ServerEndpoint}
    {trs : List (ServerSettings.Action × ServerSettings)}
    (hs : Run (ServerSettings.Step e₀.recvChannelsCfg) (.start e₀) trs) :
    Run ClientSettings.Clears ⟨∅, latest⟩ trc ∧
      (Run ServerSettings.Clears (.start e₀) trs ↔
        EachStep ServerSettings.SetAlike (.start e₀) trs) := by
  have hknown : ClientSettings.Known ⟨∅, latest⟩ := by
    intro k c hk
    rw [Finmap.lookup_empty] at hk
    cases hk
  refine ⟨hc.mono_of_invariant hknown fun h hstep ↦ ⟨h.clears hstep, h.step hstep⟩,
    hs.refines_iff (I := fun _ ↦ True) trivial ?_ ?_⟩
  · exact fun _ hc hstep ↦ ⟨(ServerSettings.clears_iff hstep).2 hc, trivial⟩
  · exact fun _ hstep h ↦ (ServerSettings.clears_iff hstep).1 h

namespace ServerSettings

open ServerEndpoint

/-- A client has joined a server that clears nothing. -/
def oneClient : ServerEndpoint := (started.handleNewConnection [0] newConnection).2

/-- A payload was stored on its channel 0. -/
def withPayload : ServerEndpoint :=
  { oneClient with
    clients := oneClient.clients.modify 1 fun c ↦ (c.storeReceivedPayload 0 [7]).2 }

/-- Its connection is set to be cleared, or not to be. -/
def setOne (enable : Bool) : ServerSettings where
  endpoint := { withPayload with
    clients := withPayload.clients.modify 1 (·.setClearStaleReceivedPayloads enable) }
  latest := Function.update (fun _ ↦ false) 1 enable

/-- All this happens, and the system runs. -/
def setAndCleared (enable : Bool) : List (Action × ServerSettings) :=
  [(.handleNewConnection [0] newConnection, start oneClient), (.other, start withPayload),
    (.setClearStaleReceivedPayloads 1 enable, setOne enable),
    (.clearStaleReceivedPayloads,
      { setOne enable with endpoint := (setOne enable).endpoint.clearStaleReceivedPayloads [1] })]

theorem mem_withPayload {k : ClientId} : k ∈ withPayload.clients ↔ k ∈ oneClient.clients :=
  HashMap.mem_modify

theorem mem_oneClient {k : ClientId} : k ∈ oneClient.clients ↔ k = 1 := by
  have hkeys : oneClient.clients.keys = {1} := by decide
  rw [← Finmap.mem_keys, hkeys, Finset.mem_singleton]

theorem mem_setOne {enable : Bool} {k : ClientId} : k ∈ (setOne enable).endpoint.clients ↔ k = 1 := by
  rw [← mem_oneClient, ← mem_withPayload]
  exact HashMap.mem_modify

theorem isOrder_setOne (enable : Bool) : (setOne enable).endpoint.clients.IsOrder [1] :=
  ⟨by decide, fun {k} ↦ by rw [mem_setOne, List.mem_singleton]⟩

theorem run_setAndCleared (enable : Bool) :
    Run (Step started.recvChannelsCfg) (start started) (setAndCleared enable) :=
  .cons (.handleNewConnection isOrder_started rfl) (.cons (.other rfl mem_withPayload.1)
    (.cons (.setClearStaleReceivedPayloads enable (mem_withPayload.2 (mem_oneClient.2 rfl)))
      (.cons (.clearStaleReceivedPayloads (isOrder_setOne enable)) (.nil _))))

/-- The payload is stored, clearing is enabled for all clients, and the system runs. -/
def allCleared : List (Action × ServerSettings) :=
  [(.handleNewConnection [0] newConnection, start oneClient), (.other, start withPayload),
    (.setClearStaleClientPayloads true,
      ⟨withPayload.setClearStaleClientPayloads true, fun _ ↦ true⟩),
    (.clearStaleReceivedPayloads,
      ⟨(withPayload.setClearStaleClientPayloads true).clearStaleReceivedPayloads [1], fun _ ↦ true⟩)]

theorem isOrder_withPayload : withPayload.clients.IsOrder [1] :=
  ⟨by decide, fun {k} ↦ by rw [mem_withPayload, mem_oneClient, List.mem_singleton]⟩

theorem run_allCleared : Run (Step started.recvChannelsCfg) (start started) allCleared :=
  .cons (.handleNewConnection isOrder_started rfl) (.cons (.other rfl mem_withPayload.1)
    (.cons (.setClearStaleClientPayloads (start withPayload) true)
      (.cons (.clearStaleReceivedPayloads isOrder_withPayload) (.nil _))))

end ServerSettings

namespace ClientSettings

/-- A client with one connection, which is not to be cleared. -/
def oneConnection : ClientSettings where
  connections := (∅ : HashMap ConnectionLocalId ClientSideConnection).insert 0 ClientSideConnection.opened
  latest := Function.update (fun _ ↦ false) 0 false

/-- A payload was stored on its channel 0. -/
def withPayload : ClientSettings :=
  { oneConnection with
    connections := oneConnection.connections.modify 0 fun c ↦ (c.storeReceivedPayload 0 [7]).2 }

/-- It is set to be cleared. -/
def setOne : ClientSettings where
  connections := withPayload.connections.modify 0 (·.setClearStaleReceivedPayloads true)
  latest := Function.update withPayload.latest 0 true

/-- All this happens, and the system runs. -/
def ownCleared : List (Action × ClientSettings) :=
  [(.openConnection 0 {}, oneConnection), (.other, withPayload),
    (.setClearStaleReceivedPayloads 0 true, setOne),
    (.clearStaleReceivedPayloads, setOne.clearStaleReceivedPayloads [0])]

theorem isOrder_setOne : setOne.connections.IsOrder [0] := by
  refine ⟨by decide, fun {k} ↦ ?_⟩
  rw [setOne, HashMap.mem_modify, withPayload, HashMap.mem_modify, oneConnection, List.mem_singleton,
    ← Finmap.lookup_isSome, HashMap.lookup_insert_eq_ite, Finmap.lookup_empty]
  split_ifs with hk <;> simp [hk]

theorem run_ownCleared : Run Step ⟨∅, fun _ ↦ false⟩ ownCleared := by
  refine .cons (.openConnection ClientSideConnection.openConnection_opened) (.cons (.other ?_)
    (.cons (.setClearStaleReceivedPayloads withPayload 0 true)
      (.cons (.clearStaleReceivedPayloads isOrder_setOne) (.nil _))))
  intro k c' hk
  rw [HashMap.lookup_modify] at hk
  split_ifs at hk with hid
  · obtain ⟨c, hc, rfl⟩ := Option.map_eq_some_iff.1 hk
    exact ⟨c, hid ▸ hc, (storeReceivedPayload_frame c 0 [7]).2⟩
  · exact ⟨c', hk, rfl⟩

end ClientSettings

namespace ServerSettings

open ServerEndpoint

/-- On both sides a payload was buffered, clearing was enabled, and the system has emptied the buffer. -/
theorem clearing_respects_settings_one :
    Run ClientSettings.Clears ⟨∅, fun _ ↦ false⟩ ClientSettings.ownCleared ∧
      (ClientSettings.setOne.connections.lookup 0).map (·.buffer 0) = some [[7]] ∧
      ((ClientSettings.setOne.clearStaleReceivedPayloads [0]).connections.lookup 0).map (·.buffer 0) =
        some [] ∧
      Run Clears (start started) allCleared ∧
      (withPayload.clients.lookup 1).map (·.buffer 0) = some [[7]] ∧
      ((last (start started) allCleared).endpoint.clients.lookup 1).map (·.buffer 0) = some [] := by
  obtain ⟨hclient, hserver⟩ :=
    clearing_respects_settings_iff ClientSettings.run_ownCleared run_allCleared
  refine ⟨hclient, rfl, rfl, hserver.2 ?_, rfl, rfl⟩
  exact ⟨by rintro ⟨⟩, by rintro ⟨⟩, by rintro ⟨⟩, fun _ k c _ ↦ .inl rfl, trivial⟩

/-- What was enabled on the connection of a client is not done: the payload is still there. -/
theorem own_setting_ignored :
    Run (Step started.recvChannelsCfg) (start started) (setAndCleared true) ∧
      (setOne true).latest 1 = true ∧
      ((last (start started) (setAndCleared true)).endpoint.clients.lookup 1).map
        (fun c ↦ (c.recvChannelsCfg.clearStaleReceivedPayloads, c.buffer 0)) = some (true, [[7]]) ∧
      ¬ Run Clears (start started) (setAndCleared true) := by
  refine ⟨run_setAndCleared true, rfl, rfl, ?_⟩
  rintro (_ | ⟨-, _ | ⟨-, _ | ⟨-, _ | ⟨hclears, -⟩⟩⟩⟩)
  obtain ⟨c, hc, hbuffer⟩ : ∃ c, (setOne true).endpoint.clients.lookup 1 = some c ∧
    c.buffer 0 = [[7]] := ⟨_, rfl, rfl⟩
  have hstep : Step started.recvChannelsCfg (setOne true) .clearStaleReceivedPayloads _ :=
    .clearStaleReceivedPayloads (isOrder_setOne true)
  have halike := (clears_iff hstep).1 hclears
  rcases halike rfl 1 c hc with hflag | hread
  · cases hflag
  · cases hbuffer.symm.trans (hread 0)

end ServerSettings

end BevyIroh
