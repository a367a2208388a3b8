import BevyIroh.Client.Connection
import BevyIroh.Lib.Transition

/-!
# Channel ids of a client connection

The pool of ids and the table of send channels are updated by separate calls with a fallible step in
between.  `IdsKept` says what the two have to do with each other, and `ids_kept_iff` which runs keep
it: those in which no request to open a channel is refused by the queue it goes to, and no open
channel is closed whose task has ended.  In the other runs an id is lost for the rest of the session:
`openChannel` does not give back the id it took, and `closeChannel` does not give back the id of the
slot it emptied.
-/

set_option autoImplicit false

namespace BevyIroh

open Transition PeerConnection

namespace ClientSideConnection

/-! ## Runs -/

/-- What the application and the tasks can do. -/
inductive IdsAction where
  | openChannel (config : ChannelConfig)
  | closeChannel (id : ChannelId)
  | disconnect (receivers : Bool)
  | reconnect
  | setDefaultChannel (id : ChannelId)
  /-- The tasks receive, send, or end: any queue may become full, empty or closed. -/
  | tasks

inductive IdsStep : ClientSideConnection → IdsAction → ClientSideConnection → Prop
  | openChannel (s : ClientSideConnection) (config : ChannelConfig) :
      IdsStep s (.openChannel config) (s.openChannel config).2
  | closeChannel (s : ClientSideConnection) (id : ChannelId) :
      IdsStep s (.closeChannel id) (s.closeChannel id).2
  | disconnect (s : ClientSideConnection) (receivers : Bool) :
      IdsStep s (.disconnect receivers) (s.disconnect receivers).2
  | reconnect {s s' : ClientSideConnection} {r : Except AsyncChannelError Bool}
      (h : s.reconnect = some (r, s')) : IdsStep s .reconnect s'
  | setDefaultChannel {s : ClientSideConnection} {id : ChannelId} (h : id ∈ s.openIds) :
      IdsStep s (.setDefaultChannel id) (s.setDefaultChannel id)
  | tasks {s s' : ClientSideConnection} (h : s.SameSync s')
      (hids : s'.specific.sendChannelIds = s.specific.sendChannelIds) : IdsStep s .tasks s'

/-- The tasks are there to take the request: a channel that gets an id is accepted by the creation
queue, and a channel that is open has a task that listens for the order to close. -/
def TasksListen (s : ClientSideConnection) : IdsAction → Prop
  | .openChannel _ => s.specific.sendChannelIds.availableChannelIds.Nonempty → s.toChannels.Ready
  | .closeChannel id => ∀ c, s.slot id = some c → (s.queues c.queues).close.receiver = true
  | _ => True

/-! ## The invariant -/

/-- No channel id is leaked. -/
structure IdsKept (s : ClientSideConnection) : Prop where
  /-- An id is available exactly when its slot is empty or absent. -/
  available_iff : ∀ id, id ∈ s.specific.sendChannelIds.availableChannelIds ↔ s.slot id = none
  /-- The default channel is open. -/
  default_open : ∀ id, s.defaultChannel = some id → (s.slot id).isSome
  /-- Too many channels are open only when all are. -/
  max_only : ∀ config, (s.openChannel config).1 = .error .maxChannelsCountReached →
    ∀ id, (s.slot id).isSome

/-- Pool and table agree. -/
def Agree (s : ClientSideConnection) : Prop := s.specific.sendChannelIds.Agrees s.openIds

variable {s s' : ClientSideConnection} {id : ChannelId} {ids : ChannelsIdsPool}

theorem openChannel_of_takeId_error {config : ChannelConfig} {e : ChannelCreationError}
    (h : s.specific.sendChannelIds.takeId.1 = .error e) :
    s.openChannel config = (.error .maxChannelsCountReached, s) := by
  obtain ⟨rfl, hp, -⟩ := ChannelsIdsPool.takeId_error (Prod.ext h rfl)
  have ht : s.specific.sendChannelIds.takeId =
      (.error .maxChannelsCountReached, s.specific.sendChannelIds) := Prod.ext h hp
  simp only [openChannel, ht]
  rfl

/-- The pool after a channel got an id, whatever became of the channel. -/
theorem sendChannelIds_openChannel (h : s.specific.sendChannelIds.takeId = (.ok id, ids))
    (config : ChannelConfig) : (s.openChannel config).2.specific.sendChannelIds = ids := by
  rw [(openChannel_of_takeId_ok h config).1, specific_createConnectionChannel]
  rfl

/-- A channel that gets an id is open afterwards if the creation queue takes the request. -/
theorem openChannel_of_ready (h : s.specific.sendChannelIds.takeId = (.ok id, ids))
    (hq : s.toChannels.Ready) (config : ChannelConfig) :
    (s.openChannel config).1 = .ok id ∧ (s.openChannel config).2.specific.sendChannelIds = ids ∧
      (s.openChannel config).2.openIds = insert id s.openIds := by
  obtain ⟨hsnd, hfst⟩ := openChannel_of_takeId_ok h config
  have hc : ((s.withIds ids).createConnectionChannel id config).1 = .ok () :=
    (createConnectionChannel_eq_ok config).2 hq
  refine ⟨(hfst id).2 ⟨rfl, hc⟩, sendChannelIds_openChannel h config, ?_⟩
  rw [hsnd]
  exact openIds_createConnectionChannel_of_ok hc

/-- Otherwise no slot has changed, and the id is gone from the pool all the same. -/
theorem openChannel_of_not_ready (h : s.specific.sendChannelIds.takeId = (.ok id, ids))
    (hq : ¬ s.toChannels.Ready) (config : ChannelConfig) :
    (∃ e, (s.openChannel config).1 = .error (.asyncChannelError e)) ∧
      (s.openChannel config).2.specific.sendChannelIds = ids ∧
      (s.openChannel config).2.openIds = s.openIds := by
  have hsame := createConnectionChannel_of_not_ready (s := s.withIds ids) (i := id) hq config
  have hc : ((s.withIds ids).createConnectionChannel id config).1 ≠ .ok () :=
    mt (createConnectionChannel_eq_ok config).1 hq
  refine ⟨?_, sendChannelIds_openChannel h config, ?_⟩
  · rw [openChannel, h]
    simp only
    split
    · rename_i hcreate
      exact absurd (congrArg Prod.fst hcreate) hc
    · exact ⟨_, rfl⟩
  · rw [(openChannel_of_takeId_ok h config).1, hsame]
    rfl

theorem closeChannel_snd (s : ClientSideConnection) (id : ChannelId) :
    (s.closeChannel id).2.openIds = s.openIds \ {id} ∧
      (s.closeChannel id).2.specific.sendChannelIds =
        if (s.internalCloseChannel id).1 = .ok () then s.specific.sendChannelIds.releaseId id
        else s.specific.sendChannelIds := by
  have hopen := openIds_internalCloseChannel (s := s) (i := id)
  have hspec := specific_internalCloseChannel (s := s) (i := id)
  rcases h : s.internalCloseChannel id with ⟨r, s'⟩
  rw [h] at hopen hspec
  cases r with
  | error e =>
    simp only [closeChannel, h, reduceCtorEq, if_false]
    exact ⟨hopen, by rw [hspec]⟩
  | ok u =>
    simp only [closeChannel, h, if_true]
    exact ⟨hopen, congrArg (fun x ↦ x.sendChannelIds.releaseId id) hspec⟩

theorem idsKept_iff_agree : s.IdsKept ↔ s.Agree := by
  constructor
  · intro h
    refine ⟨fun id ↦ ?_, fun id hd ↦ h.default_open id hd⟩
    rw [h.available_iff, slot_eq_none]
  · intro h
    refine ⟨fun id ↦ ?_, fun id hd ↦ h.default_mem id hd, fun config hmax id ↦ ?_⟩
    · rw [h.available_iff, slot_eq_none]
    · rcases ht : s.specific.sendChannelIds.takeId with ⟨r, ids⟩
      cases r with
      | error e =>
        have huniv := (h.takeId_eq_error_iff.1 (congrArg Prod.fst ht)).2
        exact Set.eq_univ_iff_forall.1 huniv id
      | ok id' =>
        by_cases hq : s.toChannels.Ready
        · simp [(openChannel_of_ready ht hq config).1] at hmax
        · obtain ⟨⟨e, he⟩, -⟩ := openChannel_of_not_ready ht hq config
          simp [he] at hmax

/-! ## Configured channels -/

/-- Configured channels are opened without losing an id, also when a request is refused: here the id
that was taken is given back. -/
theorem agree_of_openConfiguredChannels {configs : List ChannelConfig}
    {r : Except AsyncChannelError Unit} (hs : s.Agree)
    (h : openConfiguredChannels configs s = some (r, s')) : s'.Agree := by
  induction configs generalizing s with
  | nil =>
    obtain ⟨-, rfl⟩ : Except.ok () = r ∧ s = s' := by simpa [openConfiguredChannels] using h
    exact hs
  | cons config configs ih =>
    rcases ht : s.specific.sendChannelIds.takeId with ⟨t, ids⟩
    cases t with
    | error e => simp [openConfiguredChannels, ht] at h
    | ok id =>
      rcases hc : (s.withIds ids).createUnregisteredConnectionChannel id config with ⟨c, s₁⟩
      have hspec := specific_createUnregisteredConnectionChannel (s := s.withIds ids) (i := id) config
      have hslot := fun id' ↦
        slot_createUnregisteredConnectionChannel (s := s.withIds ids) (i := id) (j := id') config
      rw [hc] at hspec hslot
      have hopen : s₁.openIds = s.openIds := Set.ext fun id' ↦ by
        rw [PeerConnection.openIds, Set.mem_ofPred, hslot]
        rfl
      cases c with
      | ok c =>
        simp only [openConfiguredChannels, ht, hc] at h
        refine ih ?_ h
        obtain rfl : c.id = id := createUnregisteredConnectionChannel_id (congrArg Prod.fst hc)
        rw [Agree, specific_registerConnectionChannel, openIds_registerConnectionChannel, hspec, hopen]
        exact (hs.takeId_ok ht).2
      | error e =>
        obtain ⟨-, rfl⟩ : Except.error e = r ∧
            withIds s₁ (s₁.specific.sendChannelIds.releaseId id) = s' := by
          simpa [openConfiguredChannels, ht, hc] using h
        have hids : s₁.specific.sendChannelIds = ids := by rw [hspec]; rfl
        rw [Agree]
        exact hopen ▸ hids ▸ hs.releaseId_of_takeId ht

/-- A connection that has not opened any channel. -/
theorem agree_of_new (hids : s.specific.sendChannelIds = .new) (hslots : s.sendChannels = []) :
    s.Agree := by
  have hempty : s.openIds = ∅ := by
    ext id
    simp [PeerConnection.openIds, PeerConnection.slot, hslots]
  rw [Agree, hids, hempty]
  exact ChannelsIdsPool.agrees_new

theorem agree_of_openConnection {localId : ConnectionLocalId} {cfg : SendChannelsConfiguration}
    {recvCfg : RecvChannelsConfiguration} {chans : ClientConnectionAsyncChannels}
    {r : Except AsyncChannelError Unit}
    (h : openConnection localId cfg recvCfg chans = some (r, s)) : s.Agree :=
  agree_of_openConfiguredChannels (agree_of_new rfl rfl) h

theorem agree_of_reconnect {r : Except AsyncChannelError Bool} (hs : s.Agree)
    (h : s.reconnect = some (r, s')) : s'.Agree := by
  obtain ⟨-, rfl⟩ | ⟨e, hopen, -⟩ := reconnect_cases h
  · exact hs
  · exact agree_of_openConfiguredChannels (agree_of_new rfl rfl) hopen

theorem agree_of_disconnect (hs : s.Agree) (receivers : Bool) : Agree (s.disconnect receivers).2 := by
  rw [disconnect, Agree, specific_internalDisconnect, openIds_internalDisconnect]
  exact hs

/-! ## The invariant along runs -/

/-- Opening a channel keeps the agreement exactly when its request is not refused. -/
theorem agree_openChannel_iff (hs : s.Agree) (config : ChannelConfig) :
    Agree (s.openChannel config).2 ↔ s.TasksListen (.openChannel config) := by
  rcases ht : s.specific.sendChannelIds.takeId with ⟨r, ids⟩
  cases r with
  | error e =>
    obtain ⟨-, -, hempty⟩ := ChannelsIdsPool.takeId_error ht
    rw [openChannel_of_takeId_error (congrArg Prod.fst ht)]
    simp [TasksListen, hs, hempty]
  | ok id =>
    obtain ⟨hleast, hav, -⟩ := ChannelsIdsPool.takeId_ok ht
    have hne : s.specific.sendChannelIds.availableChannelIds.Nonempty := ⟨id, hleast.1⟩
    by_cases hq : s.toChannels.Ready
    · obtain ⟨-, hids, hopen⟩ := openChannel_of_ready ht hq config
      have hagree : Agree (s.openChannel config).2 := by
        rw [Agree, hids, hopen]
        exact (hs.takeId_ok ht).2
      simp [TasksListen, hagree, hq]
    · obtain ⟨-, hids, hopen⟩ := openChannel_of_not_ready ht hq config
      refine ⟨fun h ↦ ?_, fun h ↦ absurd (h hne) hq⟩
      -- the id is neither in the pool nor in the table
      have hmem := h.available_iff id
      rw [hids, hopen, hav] at hmem
      exact absurd (hmem.2 (hs.takeId_ok ht).1) (Finset.notMem_erase id _)

/-- Closing a channel keeps the agreement exactly when its task still listens. -/
theorem agree_closeChannel_iff (hs : s.Agree) (id : ChannelId) :
    Agree (s.closeChannel id).2 ↔ s.TasksListen (.closeChannel id) := by
  obtain ⟨hopen, hids⟩ := closeChannel_snd s id
  by_cases hok : (s.internalCloseChannel id).1 = .ok ()
  · obtain ⟨c, hc, hrecv⟩ := internalCloseChannel_eq_ok.1 hok
    have hagree : Agree (s.closeChannel id).2 := by
      rw [Agree, hids, if_pos hok, hopen]
      exact hs.releaseId id
    have hlisten : s.TasksListen (.closeChannel id) := fun c' hc' ↦ by
      obtain rfl : c' = c := by simpa [hc] using hc'.symm
      exact hrecv
    exact iff_of_true hagree hlisten
  · rw [Agree, hids, if_neg hok, hopen]
    cases hslot : s.slot id with
    | none =>
      rw [Set.sdiff_singleton_eq_self (slot_eq_none.1 hslot)]
      exact iff_of_true hs fun c hc ↦ by simp [hslot] at hc
    | some c =>
      have hmem : id ∈ s.openIds := by simp [PeerConnection.openIds, hslot]
      refine iff_of_false (fun h ↦ ?_) fun h ↦ ?_
      · have hav := (h.available_iff id).2 (by simp)
        exact (hs.available_iff id).1 hav hmem
      · exact hok (internalCloseChannel_eq_ok.2 ⟨c, hslot, h c hslot⟩)

theorem agree_step {a : IdsAction} (hs : s.Agree) (h : IdsStep s a s') :
    s'.Agree ↔ s.TasksListen a := by
  cases h with
  | openChannel config => exact agree_openChannel_iff hs config
  | closeChannel id => exact agree_closeChannel_iff hs id
  | disconnect receivers => exact iff_of_true (agree_of_disconnect hs receivers) trivial
  | reconnect h => exact iff_of_true (agree_of_reconnect hs h) trivial
  | setDefaultChannel h => exact iff_of_true (hs.setDefaultChannel h) trivial
  | tasks h hids =>
    rw [Agree, hids, h.openIds]
    exact iff_of_true hs trivial

/-- **Which runs leak no channel id**: from the opening of a connection, whatever the outcome of the
requests it makes, the pool and the table of channels agree all along a run exactly when the tasks
listen at each step. -/
theorem ids_kept_iff {localId : ConnectionLocalId} {cfg : SendChannelsConfiguration}
    {recvCfg : RecvChannelsConfiguration} {chans : ClientConnectionAsyncChannels}
    {r : Except AsyncChannelError Unit} {tr : List (IdsAction × ClientSideConnection)}
    (h₀ : openConnection localId cfg recvCfg chans = some (r, s)) (h : Run IdsStep s tr) :
    Always IdsKept s tr ↔ EachStep TasksListen s tr := by
  have hagree : IdsKept = Agree := funext fun s ↦ propext idsKept_iff_agree
  rw [hagree]
  exact h.always_iff (agree_of_openConnection h₀) agree_step

/-- The same once the attempt to connect has failed and the connection's task has returned. -/
def attemptFailed : ClientSideConnection :=
  { opened with toChannels := opened.toChannels.dropReceiver }

/-- A channel is opened after the attempt has failed. -/
def refusedOpen : List (IdsAction × ClientSideConnection) :=
  [(.tasks, attemptFailed), (.openChannel .unreliable, (attemptFailed.openChannel .unreliable).2)]

theorem ids_kept_open :
    Always IdsKept opened [(IdsAction.openChannel .unreliable, (opened.openChannel .unreliable).2)] :=
  (ids_kept_iff openConnection_opened (.cons (.openChannel _ _) (.nil _))).2
    ⟨fun _ ↦ by decide, trivial⟩

/-- Opening a channel after the attempt to connect has failed is refused, and id 0 is lost: neither
is it available nor is a channel open under it. -/
theorem refused_open_leaks_id :
    openConnection 0 .new {} createClientConnectionAsyncChannels = some (.ok (), opened) ∧
      Run IdsStep opened refusedOpen ∧
      0 ∉ (last opened refusedOpen).specific.sendChannelIds.availableChannelIds ∧
      slot (last opened refusedOpen) 0 = none ∧
      ¬ Always IdsKept opened refusedOpen := by
  have htake : attemptFailed.specific.sendChannelIds.takeId = _ := ChannelsIdsPool.takeId_new
  obtain ⟨-, hids, hopen⟩ := openChannel_of_not_ready (s := attemptFailed) htake (by decide)
    .unreliable
  have hav : 0 ∉ (last opened refusedOpen).specific.sendChannelIds.availableChannelIds :=
    hids ▸ Finset.notMem_erase 0 _
  have hslot : slot (last opened refusedOpen) 0 = none := by
    rw [slot_eq_none, refusedOpen, last, last, last, hopen]
    simp [openIds, slot, attemptFailed, opened, PeerConnection.new]
  refine ⟨rfl, .cons (.tasks ⟨rfl, rfl, rfl, rfl, rfl, rfl⟩ rfl) (.cons (.openChannel _ _) (.nil _)),
    hav, hslot, fun h ↦ ?_⟩
  have hkept := h.2 (.openChannel .unreliable, last opened refusedOpen) (by simp [refusedOpen, last])
  exact hav ((hkept.available_iff 0).2 hslot)

end ClientSideConnection

end BevyIroh
