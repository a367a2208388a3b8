import BevyIroh.Shared.Tasks.Link

/-!
# What holds of a link in every run

The bookkeeping between the sync side and the tasks, whatever the transport does: each creation
message carries queues of its own, a slot holds a channel whose message was sent and whose queues
have a sender and no close order, and a channel task exists exactly for the messages that were
received.

`PeerConnection.Sound` is the part about the sync side.  The tasks change of it only what
`AsyncFrame` allows, so for them one lemma is enough.
-/

set_option autoImplicit false

namespace BevyIroh

open Transition

/-! ## The sync side -/

namespace PeerConnection

variable {S : Type} {c c' : PeerConnection S} {id id' : ChannelId} {ch ch' : Channel}

/-- The slots, the creation messages and the queues fit together. -/
structure Sound (c : PeerConnection S) : Prop where
  /-- The `k`-th creation message carries the queues at place `k`. -/
  places : c.toChannels.sent.map (·.queues) = List.range c.created
  slot_msg : ∀ {id ch}, c.slot id = some ch →
    ∃ config, .createChannel id config ch.queues ∈ c.toChannels.sent
  slot_open : ∀ {id ch}, c.slot id = some ch → (c.queues ch.queues).bytes.sender = true ∧
    (c.queues ch.queues).close.sender = true ∧ (c.queues ch.queues).close.sent = []
  dropped : c.toChannels.sender = false → ∀ id, c.slot id = none
  closeSender : c.closeSend.sender = false → c.toChannels.sender = false

theorem Sound.msg_lt (hs : c.Sound) {msg : ChannelSyncMessage} (h : msg ∈ c.toChannels.sent) :
    msg.queues < c.created := by
  have hmem := List.mem_map_of_mem (f := (·.queues)) h
  rw [hs.places] at hmem
  exact List.mem_range.1 hmem

theorem Sound.msg_inj (hs : c.Sound) {msg msg' : ChannelSyncMessage}
    (h : msg ∈ c.toChannels.sent) (h' : msg' ∈ c.toChannels.sent)
    (he : msg.queues = msg'.queues) : msg = msg' :=
  List.inj_on_of_nodup_map (hs.places ▸ List.nodup_range) h h' he

theorem Sound.slot_lt (hs : c.Sound) (h : c.slot id = some ch) : ch.queues < c.created := by
  obtain ⟨config, hmsg⟩ := hs.slot_msg h
  exact hs.msg_lt hmsg

/-- Two slots never share their queues. -/
theorem Sound.slot_inj (hs : c.Sound) (h : c.slot id = some ch) (h' : c.slot id' = some ch')
    (he : ch.queues = ch'.queues) : id = id' := by
  obtain ⟨config, hmsg⟩ := hs.slot_msg h
  obtain ⟨config', hmsg'⟩ := hs.slot_msg h'
  have heq := hs.msg_inj hmsg hmsg' he
  injection heq

/-! ### Creating -/

/-- A request that is not refused gets new queues. -/
theorem Sound.queues_create_new (hs : c.Sound) (hr : c.toChannels.Ready) (config : ChannelConfig) :
    (c.createConnectionChannel id config).2.queues c.created = .new := by
  rw [(createConnectionChannel_of_ready hr config).2.2.2]
  cases hslot : c.slot id with
  | none => exact Function.update_self ..
  | some old =>
    simp only [Option.elim, Channel.drop]
    rw [Function.update_of_ne (Nat.ne_of_gt (hs.slot_lt hslot)), Function.update_self]

/-- Other queues stay as they are, or lose their senders if they were those of the slot. -/
theorem queues_create_of_ne {h : ℕ} (hh : h ≠ c.created) (id : ChannelId)
    (config : ChannelConfig) :
    (c.createConnectionChannel id config).2.queues h = c.queues h ∨
      ∃ old, c.slot id = some old ∧ old.queues = h ∧
        (c.createConnectionChannel id config).2.queues h = (c.queues h).dropSenders := by
  by_cases hr : c.toChannels.Ready
  · rw [(createConnectionChannel_of_ready hr config).2.2.2]
    cases hslot : c.slot id with
    | none => exact .inl (Function.update_of_ne hh _ _)
    | some old =>
      simp only [Option.elim, Channel.drop]
      by_cases hold : h = old.queues
      · subst hold
        refine .inr ⟨old, rfl, rfl, ?_⟩
        rw [Function.update_self, Function.update_of_ne hh]
      · rw [Function.update_of_ne hold, Function.update_of_ne hh]
        exact .inl rfl
  · rw [createConnectionChannel_of_not_ready hr]
    exact .inl rfl

theorem Sound.create (hs : c.Sound) (ha : c.toChannels.sender = true) (id : ChannelId)
    (config : ChannelConfig) : (c.createConnectionChannel id config).2.Sound := by
  by_cases hr : c.toChannels.Ready
  · obtain ⟨hto, hclose, hcreated, -⟩ := createConnectionChannel_of_ready (i := id) hr config
    have hok := (createConnectionChannel_eq_ok (s := c) (i := id) config).2 hr
    have hslot : ∀ id', (c.createConnectionChannel id config).2.slot id' =
        if id' = id then some ⟨id, c.created⟩ else c.slot id' := fun id' ↦ by
      simp [slot_createConnectionChannel, hok, Except.isOk, Except.toBool]
    refine ⟨?_, fun {id' ch} h ↦ ?_, fun {id' ch} h ↦ ?_, fun h ↦ ?_, fun h ↦ ?_⟩
    · rw [hto, hcreated, Mpsc.sent_push, List.map_append, hs.places, List.range_succ]
      rfl
    · rw [hslot] at h
      rw [hto, Mpsc.sent_push]
      split_ifs at h with hid
      · obtain rfl : (⟨id, c.created⟩ : Channel) = ch := by simpa using h
        exact ⟨config, by simp [hid]⟩
      · obtain ⟨config', hmsg⟩ := hs.slot_msg h
        exact ⟨config', List.mem_append_left _ hmsg⟩
    · rw [hslot] at h
      split_ifs at h with hid
      · obtain rfl : (⟨id, c.created⟩ : Channel) = ch := by simpa using h
        rw [hs.queues_create_new hr]
        exact ⟨rfl, rfl, rfl⟩
      · rcases queues_create_of_ne (Nat.ne_of_lt (hs.slot_lt h)) id config with hq | hq
        · rw [hq]
          exact hs.slot_open h
        · obtain ⟨old, hold, hqueues, -⟩ := hq
          exact absurd (hs.slot_inj h hold hqueues.symm) hid
    · rw [hto] at h
      exact absurd (ha.symm.trans h) (by decide)
    · rw [hclose] at h
      rw [hto]
      exact hs.closeSender h
  · rw [createConnectionChannel_of_not_ready hr]
    exact hs

/-! ### Sending, closing, dropping -/

theorem Sound.send (hs : c.Sound) (id : ChannelId) (payload : Bytes) :
    (c.internalSendPayload id payload).2.Sound := by
  obtain ⟨hsend, hto, hclose, hcreated⟩ := internalSendPayload_frame (s := c) (i := id) payload
  have hslot : ∀ id', (c.internalSendPayload id payload).2.slot id' = c.slot id' := fun id' ↦ by
    rw [slot, hsend, slot]
  refine ⟨?_, fun h ↦ ?_, fun {id' ch} h ↦ ?_, fun h id' ↦ ?_, fun h ↦ ?_⟩
  · rw [hto, hcreated]
    exact hs.places
  · rw [hslot] at h
    rw [hto]
    exact hs.slot_msg h
  · rw [hslot] at h
    rcases queues_internalSendPayload (s := c) (i := id) payload ch.queues with hq | hq
    · rw [hq]
      exact hs.slot_open h
    · obtain ⟨-, -, -, -, hq⟩ := hq
      rw [hq]
      exact hs.slot_open h
  · rw [hto] at h
    rw [hslot]
    exact hs.dropped h id'
  · rw [hclose] at h
    rw [hto]
    exact hs.closeSender h

theorem Sound.closeChannel (hs : c.Sound) (id : ChannelId) :
    (c.internalCloseChannel id).2.Sound := by
  obtain ⟨hto, hclose, hcreated⟩ := internalCloseChannel_frame (s := c) (i := id)
  refine ⟨?_, fun h ↦ ?_, fun {id' ch} h ↦ ?_, fun h id' ↦ ?_, fun h ↦ ?_⟩
  · rw [hto, hcreated]
    exact hs.places
  · rw [slot_internalCloseChannel] at h
    split_ifs at h
    rw [hto]
    exact hs.slot_msg h
  · rw [slot_internalCloseChannel] at h
    split_ifs at h with hid
    rcases queues_internalCloseChannel (s := c) (i := id) ch.queues with hq | hq
    · rw [hq]
      exact hs.slot_open h
    · obtain ⟨old, hold, hqueues, -⟩ := hq
      exact absurd (hs.slot_inj h hold hqueues.symm) hid
  · rw [hto] at h
    rw [slot_internalCloseChannel, hs.dropped h]
    exact ite_self _
  · rw [hclose] at h
    rw [hto]
    exact hs.closeSender h

theorem Sound.close (hs : c.Sound) (receivers : Bool) (reason : CloseReason) :
    (c.close receivers reason).2.Sound := by
  rw [PeerConnection.close, Broadcast.send]
  cases receivers
  · exact hs
  · exact ⟨hs.places, hs.slot_msg, hs.slot_open, hs.dropped, hs.closeSender⟩

theorem slot_drop : c.drop.slot id = none := by simp [slot, PeerConnection.drop]

theorem Sound.drop (hs : c.Sound) : c.drop.Sound where
  places := hs.places
  slot_msg h := by simp [slot_drop] at h
  slot_open h := by simp [slot_drop] at h
  dropped _ _ := slot_drop
  closeSender _ := rfl

/-! ### The tasks -/

/-- What the tasks leave alone of the sync side: they receive, and drop receivers. -/
structure AsyncFrame (c c' : PeerConnection S) : Prop where
  sendChannels : c'.sendChannels = c.sendChannels
  created : c'.created = c.created
  closeSend : c'.closeSend = c.closeSend
  creations : c'.toChannels.sent = c.toChannels.sent ∧ c'.toChannels.sender = c.toChannels.sender
  bytes : ∀ h, (c'.queues h).bytes.sent = (c.queues h).bytes.sent ∧
    (c'.queues h).bytes.sender = (c.queues h).bytes.sender
  close : ∀ h, (c'.queues h).close.sent = (c.queues h).close.sent ∧
    (c'.queues h).close.sender = (c.queues h).close.sender

theorem AsyncFrame.slot (h : c.AsyncFrame c') (id : ChannelId) : c'.slot id = c.slot id := by
  rw [PeerConnection.slot, h.sendChannels, PeerConnection.slot]

theorem Sound.async (hs : c.Sound) (h : c.AsyncFrame c') : c'.Sound := by
  refine ⟨?_, fun hslot ↦ ?_, fun {id ch} hslot ↦ ?_, fun hd id ↦ ?_, fun hd ↦ ?_⟩
  · rw [h.creations.1, h.created]
    exact hs.places
  · rw [h.slot] at hslot
    rw [h.creations.1]
    exact hs.slot_msg hslot
  · rw [h.slot] at hslot
    rw [(h.bytes ch.queues).2, (h.close ch.queues).1, (h.close ch.queues).2]
    exact hs.slot_open hslot
  · rw [h.slot]
    exact hs.dropped (h.creations.2 ▸ hd) id
  · rw [h.creations.2]
    exact hs.closeSender (h.closeSend ▸ hd)

end PeerConnection

/-! ## Channel tasks -/

theorem ChannelTask.Takes.frame {t t' : ChannelTask} {signals fault : Bool} {p : Bytes}
    {r : SendResult Bytes} (h : t.Takes signals p fault r t') :
    t'.id = t.id ∧ t'.config = t.config := by
  cases h <;> exact ⟨rfl, rfl⟩

/-- A task keeps its id and its configuration, and of its queues it only receives and drops
receivers. -/
structure TaskView.Frame (v v' : TaskView) : Prop where
  id : v'.task.id = v.task.id
  config : v'.task.config = v.task.config
  bytes : v'.queues.bytes.sent = v.queues.bytes.sent ∧ v'.queues.bytes.sender = v.queues.bytes.sender
  close : v'.queues.close.sent = v.queues.close.sent ∧ v'.queues.close.sender = v.queues.close.sender

theorem TaskView.frame_ended (v : TaskView) : v.Frame v.ended :=
  ⟨rfl, rfl, ⟨rfl, rfl⟩, rfl, rfl⟩

theorem TaskView.frame_closed (v : TaskView) (r : BroadcastRecv CloseReason) :
    v.Frame (v.closed r) := by
  cases r with
  | value reason => cases reason <;> exact ⟨rfl, rfl, ⟨rfl, rfl⟩, rfl, rfl⟩
  | _ => exact ⟨rfl, rfl, ⟨rfl, rfl⟩, rfl, rfl⟩

theorem TaskStep.frame {close : Broadcast CloseReason} {v v' : TaskView} {fault : Bool}
    (h : TaskStep close v fault v') : v.Frame v' := by
  cases h with
  | openFailed => exact v.frame_ended
  | close => exact v.frame_closed _
  | channelClose _ hq =>
    exact ⟨rfl, rfl, ⟨rfl, rfl⟩, Mpsc.sent_of_recv hq, Mpsc.sender_of_recv hq⟩
  | recv _ hq ht =>
    exact ⟨ht.frame.1, ht.frame.2, ⟨Mpsc.sent_of_recv hq, Mpsc.sender_of_recv hq⟩, rfl, rfl⟩
  | drain _ hq ht =>
    exact ⟨ht.frame.1, ht.frame.2, ⟨Mpsc.sent_of_recv hq, Mpsc.sender_of_recv hq⟩, rfl, rfl⟩
  | _ => exact ⟨rfl, rfl, ⟨rfl, rfl⟩, rfl, rfl⟩

/-! ## The link -/

namespace Link

variable {S : Type} {l l' : Link S} {a : LinkAct} {h : ℕ} {t : ChannelTask}

/-- The sync side is sound, and a task is there exactly for each message that was received. -/
structure Sound (l : Link S) : Prop where
  conn : l.conn.Sound
  task_msg : ∀ {h t}, l.tasks h = some t → .createChannel t.id t.config h ∈ l.conn.toChannels.received
  msg_task : ∀ {msg}, msg ∈ l.conn.toChannels.received → (l.tasks msg.queues).isSome

theorem Sound.task_sent (hs : l.Sound) (ht : l.tasks h = some t) :
    .createChannel t.id t.config h ∈ l.conn.toChannels.sent :=
  List.mem_append_left _ (hs.task_msg ht)

/-- There is no task yet for a message that waits. -/
theorem Sound.task_none_of_queued (hs : l.Sound) {msg : ChannelSyncMessage}
    (hmsg : msg ∈ l.conn.toChannels.queued) : l.tasks msg.queues = none := by
  cases ht : l.tasks msg.queues with
  | none => rfl
  | some t =>
    have hnodup : (l.conn.toChannels.sent.map (·.queues)).Nodup :=
      hs.conn.places ▸ List.nodup_range
    rw [Mpsc.sent, List.map_append, List.nodup_append] at hnodup
    have hrecv := List.mem_map_of_mem (f := (·.queues)) (hs.task_msg ht)
    have hqueued := List.mem_map_of_mem (f := (·.queues)) hmsg
    exact absurd rfl (hnodup.2.2 _ hrecv _ hqueued)

/-- A step of the tasks on one pair of queues leaves the sync side alone. -/
theorem asyncFrame_withView {v : TaskView}
    (hbytes : v.queues.bytes.sent = (l.conn.queues h).bytes.sent ∧
      v.queues.bytes.sender = (l.conn.queues h).bytes.sender)
    (hclose : v.queues.close.sent = (l.conn.queues h).close.sent ∧
      v.queues.close.sender = (l.conn.queues h).close.sender) :
    l.conn.AsyncFrame (l.withView h v).conn := by
  refine ⟨rfl, rfl, rfl, ⟨rfl, rfl⟩, fun h' ↦ ?_, fun h' ↦ ?_⟩
  all_goals
    simp only [withView]
    by_cases hh : h' = h
    · subst hh
      rwa [Function.update_self]
    · rw [Function.update_of_ne hh]
      exact ⟨rfl, rfl⟩

theorem Sound.withView (hs : l.Sound) (ht : l.tasks h = some t) {v : TaskView}
    (hv : (l.view h t).Frame v) : (l.withView h v).Sound := by
  refine ⟨hs.conn.async (asyncFrame_withView hv.bytes hv.close), fun {h' t'} ht' ↦ ?_,
    fun {msg} hmsg ↦ ?_⟩
  · simp only [Link.withView] at ht'
    by_cases hh : h' = h
    · subst hh
      obtain rfl : v.task = t' := by simpa using ht'
      rw [hv.id, hv.config]
      exact hs.task_msg ht
    · rw [Function.update_of_ne hh] at ht'
      exact hs.task_msg ht'
  · simp only [Link.withView]
    by_cases hh : msg.queues = h
    · rw [hh, Function.update_self]
      rfl
    · rw [Function.update_of_ne hh]
      exact hs.msg_task hmsg

/-- Dropping the receivers that wait in the creation messages leaves the rest alone. -/
theorem dropReceivers_foldl (msgs : List ChannelSyncMessage) (queues : ℕ → ChannelQueues) (h : ℕ) :
    msgs.foldl (fun queues msg ↦
        Function.update queues msg.queues (queues msg.queues).dropReceivers) queues h = queues h ∨
      msgs.foldl (fun queues msg ↦
        Function.update queues msg.queues (queues msg.queues).dropReceivers) queues h =
        (queues h).dropReceivers := by
  induction msgs generalizing queues with
  | nil => exact .inl rfl
  | cons msg msgs ih =>
    rw [List.foldl_cons]
    have hdrop : Function.update queues msg.queues (queues msg.queues).dropReceivers h = queues h ∨
        Function.update queues msg.queues (queues msg.queues).dropReceivers h =
          (queues h).dropReceivers := by
      by_cases hh : h = msg.queues
      · subst hh
        exact .inr (Function.update_self ..)
      · exact .inl (Function.update_of_ne hh _ _)
    rcases ih (Function.update queues msg.queues (queues msg.queues).dropReceivers) with hr | hr <;>
      rcases hdrop with hd | hd <;> rw [hr, hd]
    · exact .inl rfl
    · exact .inr rfl
    · exact .inr rfl
    · exact .inr rfl

theorem queues_dropCreations (l : Link S) (h : ℕ) :
    l.dropCreations.conn.queues h = l.conn.queues h ∨
      l.dropCreations.conn.queues h = (l.conn.queues h).dropReceivers :=
  dropReceivers_foldl ..

theorem asyncFrame_dropCreations (l : Link S) : l.conn.AsyncFrame l.dropCreations.conn := by
  refine ⟨rfl, rfl, rfl, ⟨rfl, rfl⟩, fun h ↦ ?_, fun h ↦ ?_⟩ <;>
  · rcases queues_dropCreations l h with hq | hq <;> rw [hq] <;> exact ⟨rfl, rfl⟩

theorem Sound.of_tasks_eq (hs : l.Sound) (hconn : l'.conn.Sound) (htasks : l'.tasks = l.tasks)
    (hrecv : l'.conn.toChannels.received = l.conn.toChannels.received) : l'.Sound :=
  ⟨hconn, fun ht ↦ by rw [hrecv]; exact hs.task_msg (htasks ▸ ht),
    fun hmsg ↦ by rw [htasks]; exact hs.msg_task (hrecv ▸ hmsg)⟩

theorem Sound.listenCreate (hs : l.Sound) {msg : ChannelSyncMessage} {q : Mpsc ChannelSyncMessage}
    (hq : l.conn.toChannels.recv = some (msg, q)) :
    (spawnTask { l with conn.toChannels := q } msg).Sound := by
  have hframe : l.conn.AsyncFrame { l.conn with toChannels := q } :=
    ⟨rfl, rfl, rfl, ⟨Mpsc.sent_of_recv hq, Mpsc.sender_of_recv hq⟩, fun _ ↦ ⟨rfl, rfl⟩,
      fun _ ↦ ⟨rfl, rfl⟩⟩
  have hrecv := Mpsc.received_of_recv hq
  refine ⟨hs.conn.async hframe, fun {h t} ht ↦ ?_, fun {msg'} hmsg ↦ ?_⟩
  · simp only [spawnTask] at ht ⊢
    rw [hrecv]
    by_cases hh : h = msg.queues
    · subst hh
      rw [Function.update_self] at ht
      obtain rfl := Option.some.inj ht
      obtain ⟨id, config, queues⟩ := msg
      exact List.mem_append_right _ List.mem_cons_self
    · rw [Function.update_of_ne hh] at ht
      exact List.mem_append_left _ (hs.task_msg ht)
  · simp only [spawnTask] at hmsg ⊢
    rw [hrecv] at hmsg
    by_cases hh : msg'.queues = msg.queues
    · rw [hh, Function.update_self]
      rfl
    · rw [Function.update_of_ne hh]
      rcases List.mem_append.1 hmsg with hmsg | hmsg
      · exact hs.msg_task hmsg
      · exact absurd (congrArg _ (List.mem_singleton.1 hmsg)) hh

/-- **Every step keeps the bookkeeping.** -/
theorem Sound.step (hs : l.Sound) (h : Step l a l') : l'.Sound := by
  cases h with
  | create id config ha =>
    refine hs.of_tasks_eq (hs.conn.create ha id config) rfl ?_
    by_cases hr : l.conn.toChannels.Ready
    · have hto := (PeerConnection.createConnectionChannel_of_ready (i := id) hr config).1
      exact (congrArg Mpsc.received hto).trans rfl
    · rw [PeerConnection.createConnectionChannel_of_not_ready hr]
  | send id payload ha =>
    exact hs.of_tasks_eq (hs.conn.send id payload) rfl
      (congrArg Mpsc.received (PeerConnection.internalSendPayload_frame payload).2.1)
  | closeChannel id ha =>
    exact hs.of_tasks_eq (hs.conn.closeChannel id) rfl
      (congrArg Mpsc.received PeerConnection.internalCloseChannel_frame.1)
  | close receivers reason ha =>
    refine hs.of_tasks_eq (hs.conn.close receivers reason) rfl ?_
    cases receivers <;> rfl
  | drop ha => exact hs.of_tasks_eq hs.conn.drop rfl rfl
  | dropCloseSend ha =>
    refine hs.of_tasks_eq ⟨hs.conn.places, hs.conn.slot_msg, hs.conn.slot_open, hs.conn.dropped,
      fun _ ↦ ?_⟩ rfl rfl
    simpa [Alive] using ha
  | owner h =>
    have hframe : l.conn.AsyncFrame _ := ⟨h.sendChannels, h.created, h.closeSend,
      by rw [h.toChannels]; exact ⟨rfl, rfl⟩, fun _ ↦ by rw [h.queues]; exact ⟨rfl, rfl⟩,
      fun _ ↦ by rw [h.queues]; exact ⟨rfl, rfl⟩⟩
    exact hs.of_tasks_eq (hs.conn.async hframe) rfl (congrArg Mpsc.received h.toChannels)
  | spawn closeRecv h => exact hs.of_tasks_eq hs.conn rfl rfl
  | listenClose h hr => exact hs.of_tasks_eq hs.conn rfl rfl
  | listenCreate h hq => exact hs.listenCreate hq
  | listenEnded h hq => exact hs.of_tasks_eq hs.conn rfl rfl
  | closeConnection h hdone =>
    exact hs.of_tasks_eq (hs.conn.async (asyncFrame_dropCreations l)) rfl rfl
  | task ht hstep => exact hs.withView ht hstep.frame
  | message ht hc hm hstep => exact hs.withView ht ⟨rfl, rfl, ⟨rfl, rfl⟩, rfl, rfl⟩

/-- What a step does to the creation messages and to the slots: it creates a channel, with a message
and queues of its own, or it sends no message and fills no slot. -/
theorem Step.creation_cases (hs : l.Sound) (hstep : Step l a l') :
    (l'.conn.toChannels.sent = l.conn.toChannels.sent ∧
        ∀ id c, l'.conn.slot id = some c → l.conn.slot id = some c) ∨
      ∃ id config, a = .create id config ∧
        (l.conn.createConnectionChannel id config).1 = .ok () ∧
        l'.conn.toChannels.sent =
          l.conn.toChannels.sent ++ [.createChannel id config l.conn.created] ∧
        l'.conn.queues l.conn.created = .new ∧
        ∀ id', l'.conn.slot id' =
          if id' = id then some ⟨id, l.conn.created⟩ else l.conn.slot id' := by
  cases hstep with
  | create id config ha =>
    by_cases hr : l.conn.toChannels.Ready
    · have hok := (PeerConnection.createConnectionChannel_eq_ok (s := l.conn) (i := id) config).2 hr
      refine .inr ⟨id, config, rfl, hok, ?_, hs.conn.queues_create_new hr config, fun id' ↦ ?_⟩
      · simp only [(PeerConnection.createConnectionChannel_of_ready hr config).1, Mpsc.sent_push]
      · simp [PeerConnection.slot_createConnectionChannel, hok, Except.isOk, Except.toBool]
    · rw [PeerConnection.createConnectionChannel_of_not_ready hr]
      exact .inl ⟨rfl, fun _ _ h ↦ h⟩
  | send id payload ha =>
    obtain ⟨hsend, hto, -⟩ := PeerConnection.internalSendPayload_frame (s := l.conn) (i := id) payload
    refine .inl ⟨by rw [hto], fun id' c hc ↦ ?_⟩
    rwa [PeerConnection.slot, hsend] at hc
  | closeChannel id ha =>
    refine .inl ⟨by rw [PeerConnection.internalCloseChannel_frame.1], fun id' c hc ↦ ?_⟩
    rw [PeerConnection.slot_internalCloseChannel] at hc
    split_ifs at hc
    exact hc
  | close receivers reason ha => cases receivers <;> exact .inl ⟨rfl, fun _ _ h ↦ h⟩
  | drop ha =>
    refine .inl ⟨rfl, fun id' c hc ↦ ?_⟩
    rw [PeerConnection.slot_drop] at hc
    cases hc
  | owner hconn =>
    refine .inl ⟨by rw [hconn.toChannels], fun id' c hc ↦ ?_⟩
    rwa [PeerConnection.slot, hconn.sendChannels] at hc
  | listenCreate hlisten hq => exact .inl ⟨Mpsc.sent_of_recv hq, fun _ _ h ↦ h⟩
  | _ => exact .inl ⟨rfl, fun _ _ h ↦ h⟩

/-- A creation message that was sent stays sent. -/
theorem Step.sent_prefix (hs : l.Sound) (hstep : Step l a l') :
    l.conn.toChannels.sent <+: l'.conn.toChannels.sent := by
  rcases hstep.creation_cases hs with ⟨hsent, -⟩ | ⟨id, config, -, -, hsent, -⟩ <;> rw [hsent]
  exact List.prefix_append _ _

/-- What a step does to the queue of payloads of a channel: it adds one, if it is a send on that
channel, and otherwise adds nothing; a sender that is gone does not come back. -/
theorem Step.queue_cases (hstep : Step l a l') (hlt : h < l.conn.created) :
    ((l'.conn.queues h).bytes.sent = (l.conn.queues h).bytes.sent ∧
        ((l.conn.queues h).bytes.sender = false → (l'.conn.queues h).bytes.sender = false)) ∨
      ∃ id p c, a = .send id p ∧ l.Alive ∧ l.conn.slot id = some c ∧ c.queues = h ∧
        (l'.conn.queues h).bytes.sent = (l.conn.queues h).bytes.sent ++ [p] := by
  cases hstep with
  | create id config ha =>
    left
    rcases PeerConnection.queues_create_of_ne (Nat.ne_of_lt hlt) id config with hq | ⟨-, -, -, hq⟩
    · rw [hq]
      exact ⟨rfl, fun h ↦ h⟩
    · rw [hq]
      exact ⟨rfl, fun _ ↦ rfl⟩
  | send id payload ha =>
    rcases PeerConnection.queues_internalSendPayload (s := l.conn) (i := id) payload h with
      hq | ⟨c, hc, hh, -, hq⟩
    · left
      rw [hq]
      exact ⟨rfl, fun h ↦ h⟩
    · right
      refine ⟨id, payload, c, rfl, ha, hc, hh, ?_⟩
      rw [hq, Mpsc.sent_push]
  | closeChannel id ha =>
    left
    rcases PeerConnection.queues_internalCloseChannel (s := l.conn) (i := id) h with
      hq | ⟨-, -, -, hq⟩
    · rw [hq]
      exact ⟨rfl, fun h ↦ h⟩
    · rw [hq]
      exact ⟨rfl, fun _ ↦ rfl⟩
  | close receivers reason ha => cases receivers <;> exact .inl ⟨rfl, fun h ↦ h⟩
  | drop ha =>
    left
    show (PeerConnection.dropChannels _ _ h).bytes.sent = _ ∧
      (_ → (PeerConnection.dropChannels _ _ h).bytes.sender = false)
    rcases PeerConnection.dropChannels_apply l.conn.sendChannels l.conn.queues h with hq | hq
    · rw [hq]
      exact ⟨rfl, fun h ↦ h⟩
    · rw [hq]
      exact ⟨rfl, fun _ ↦ rfl⟩
  | owner hconn =>
    rw [hconn.queues]
    exact .inl ⟨rfl, fun h ↦ h⟩
  | closeConnection hwaiting hdone =>
    have hframe := (asyncFrame_dropCreations l).bytes h
    exact .inl ⟨hframe.1, fun h ↦ hframe.2.trans h⟩
  | task ht hstep =>
    have hframe := (asyncFrame_withView hstep.frame.bytes hstep.frame.close).bytes h
    exact .inl ⟨hframe.1, fun h ↦ hframe.2.trans h⟩
  | @message h' k m t mt mt' fault signals ht hc hm hstep =>
    have hframe := (asyncFrame_withView (l := l) (h := h')
      (v := ⟨{ t with messages := t.messages.set k mt' }, l.conn.queues h', signals⟩)
      ⟨rfl, rfl⟩ ⟨rfl, rfl⟩).bytes h
    exact .inl ⟨hframe.1, fun h ↦ hframe.2.trans h⟩
  | dropCloseSend | spawn | listenClose | listenCreate | listenEnded => exact .inl ⟨rfl, fun h ↦ h⟩

/-- What a step does to the task of the queues at place `h`, and to what this task has received: it is
a step of the task or of one it spawned, it spawns the task, or it leaves both alone. -/
theorem Step.task_cases (hs : l.Sound) (hstep : Step l a l') (h : ℕ) :
    (l'.tasks h = l.tasks h ∧
        ((l'.conn.queues h).bytes.received = (l.conn.queues h).bytes.received ∨
          l.tasks h = none ∧ (l'.conn.queues h).bytes.received = [])) ∨
      (∃ msg ∈ l.conn.toChannels.queued, msg.queues = h ∧ l'.conn.queues = l.conn.queues ∧
        l'.tasks h = some (.new msg.id msg.config l.conn.closeSend.resubscribe)) ∨
      (∃ t v fault, l.tasks h = some t ∧ a = .task h fault ∧
        TaskStep l.conn.closeSend (l.view h t) fault v ∧ l' = l.withView h v) ∨
      ∃ t k m mt mt' fault signals, l.tasks h = some t ∧ a = .message h k fault ∧
        t.config = .unorderedReliable m ∧ t.messages[k]? = some mt ∧
        MessageStep (.new t.id m) mt l.conn.fromChannels fault mt' signals ∧
        l' = l.withView h ⟨{ t with messages := t.messages.set k mt' }, l.conn.queues h, signals⟩ := by
  cases hstep with
  | create id config ha =>
    refine .inl ⟨rfl, ?_⟩
    by_cases hh : h = l.conn.created
    · by_cases hr : l.conn.toChannels.Ready
      · refine .inr ⟨?_, ?_⟩
        · cases ht : l.tasks h with
          | none => rfl
          | some t => exact absurd hh (Nat.ne_of_lt (hs.conn.msg_lt (hs.task_sent ht)))
        · rw [hh, hs.conn.queues_create_new hr]
          rfl
      · rw [PeerConnection.createConnectionChannel_of_not_ready hr]
        exact .inl rfl
    · left
      rcases PeerConnection.queues_create_of_ne hh id config with hq | ⟨-, -, -, hq⟩ <;> rw [hq]
      rfl
  | send id payload ha =>
    refine .inl ⟨rfl, .inl ?_⟩
    rcases PeerConnection.queues_internalSendPayload (s := l.conn) (i := id) payload h with
      hq | ⟨-, -, -, -, hq⟩ <;> rw [hq]
    rfl
  | closeChannel id ha =>
    refine .inl ⟨rfl, .inl ?_⟩
    rcases PeerConnection.queues_internalCloseChannel (s := l.conn) (i := id) h with
      hq | ⟨-, -, -, hq⟩ <;> rw [hq]
    rfl
  | close receivers reason ha => cases receivers <;> exact .inl ⟨rfl, .inl rfl⟩
  | drop ha =>
    refine .inl ⟨rfl, .inl ?_⟩
    show (PeerConnection.dropChannels _ _ h).bytes.received = _
    rcases PeerConnection.dropChannels_apply l.conn.sendChannels l.conn.queues h with hq | hq <;>
      rw [hq]
    rfl
  | owner hconn => exact .inl ⟨rfl, .inl (by rw [hconn.queues])⟩
  | @listenCreate _ msg q hlisten hq =>
    by_cases hh : h = msg.queues
    · subst hh
      exact .inr (.inl ⟨msg, Mpsc.mem_queued_of_recv hq, rfl, rfl, Function.update_self ..⟩)
    · exact .inl ⟨Function.update_of_ne hh _ _, .inl rfl⟩
  | closeConnection hwaiting hdone =>
    refine .inl ⟨rfl, .inl ?_⟩
    rcases queues_dropCreations l h with hq | hq <;> simp only [hq]
    rfl
  | @task h' t fault v ht hstep =>
    by_cases hh : h = h'
    · subst hh
      exact .inr (.inr (.inl ⟨t, v, fault, ht, rfl, hstep, rfl⟩))
    · refine .inl ⟨Function.update_of_ne hh _ _, .inl ?_⟩
      simp only [withView, Function.update_of_ne hh]
  | @message h' k m t mt mt' fault signals ht hc hm hstep =>
    by_cases hh : h = h'
    · subst hh
      exact .inr (.inr (.inr ⟨t, k, m, mt, mt', fault, signals, ht, rfl, hc, hm, hstep, rfl⟩))
    · refine .inl ⟨Function.update_of_ne hh _ _, .inl ?_⟩
      simp only [withView, Function.update_of_ne hh]
  | _ => exact .inl ⟨rfl, .inl rfl⟩

/-- Where there is no task, nothing was received. -/
theorem Step.waiting (hs : l.Sound)
    (hwaiting : ∀ {h}, l.tasks h = none → (l.conn.queues h).bytes.received = [])
    (hstep : Step l a l') (ht : l'.tasks h = none) : (l'.conn.queues h).bytes.received = [] := by
  rcases hstep.task_cases hs h with ⟨htasks, hreceived⟩ | ⟨msg, -, -, -, htasks⟩ |
    ⟨_, v, _, -, -, -, rfl⟩ | ⟨_, _, _, _, _, _, _, -, -, -, -, -, rfl⟩
  · rcases hreceived with hreceived | ⟨-, hnil⟩
    · exact hreceived.trans (hwaiting (htasks ▸ ht))
    · exact hnil
  · cases htasks.symm.trans ht
  · simp [withView] at ht
  · simp [withView] at ht

/-- **The rule for what holds of every task and what it has received**: it has to hold of a new task,
and to be kept by the steps of a task and of those it spawned. -/
theorem Step.task_rule {P Q : ChannelTask → List Bytes → Prop} (hs : l.Sound)
    (hwaiting : ∀ {h}, l.tasks h = none → (l.conn.queues h).bytes.received = [])
    (hP : ∀ {h t}, l.tasks h = some t → P t (l.conn.queues h).bytes.received) (hstep : Step l a l')
    (hkeep : ∀ {t received}, P t received → Q t received)
    (hnew : ∀ id config closeRecv, Q (.new id config closeRecv) [])
    (htask : ∀ {h t v fault}, l.tasks h = some t → a = .task h fault →
      TaskStep l.conn.closeSend (l.view h t) fault v → l' = l.withView h v →
      P t (l.conn.queues h).bytes.received → Q v.task v.queues.bytes.received)
    (hmessage : ∀ {h t k m mt mt' fault signals}, l.tasks h = some t → a = .message h k fault →
      t.config = .unorderedReliable m → t.messages[k]? = some mt →
      MessageStep (.new t.id m) mt l.conn.fromChannels fault mt' signals →
      P t (l.conn.queues h).bytes.received →
      Q { t with messages := t.messages.set k mt' } (l.conn.queues h).bytes.received)
    (ht : l'.tasks h = some t) : Q t (l'.conn.queues h).bytes.received := by
  rcases hstep.task_cases hs h with ⟨htasks, hreceived⟩ | ⟨msg, hmsg, rfl, hqueues, htasks⟩ |
    ⟨t₀, v, fault, ht₀, ha, hts, rfl⟩ | ⟨t₀, k, m, mt, mt', fault, signals, ht₀, ha, hc, hmt, hms, rfl⟩
  · rw [htasks] at ht
    rcases hreceived with hreceived | ⟨hnone, -⟩
    · rw [hreceived]
      exact hkeep (hP ht)
    · cases hnone.symm.trans ht
  · obtain rfl := Option.some.inj (htasks.symm.trans ht)
    rw [hqueues, hwaiting (hs.task_none_of_queued hmsg)]
    exact hnew _ _ _
  · obtain rfl : v.task = t := by simpa [withView] using ht
    simp only [withView, Function.update_self]
    exact htask ht₀ ha hts rfl (hP ht₀)
  · obtain rfl : { t₀ with messages := t₀.messages.set k mt' } = t := by simpa [withView] using ht
    simp only [withView, Function.update_self]
    exact hmessage ht₀ ha hc hmt hms (hP ht₀)

/-- Nothing is ever taken back from the close order. -/
theorem Step.log_cases (hstep : Step l a l') :
    l'.conn.closeSend.log = l.conn.closeSend.log ∨
      ∃ receivers reason, a = .close receivers reason ∧
        l'.conn.closeSend.log = l.conn.closeSend.log ++ [reason] := by
  cases hstep with
  | create id config ha =>
    left
    by_cases hr : l.conn.toChannels.Ready
    · rw [(PeerConnection.createConnectionChannel_of_ready hr config).2.1]
    · rw [PeerConnection.createConnectionChannel_of_not_ready hr]
  | send id payload ha => exact .inl (by rw [(PeerConnection.internalSendPayload_frame payload).2.2.1])
  | closeChannel id ha => exact .inl (by rw [PeerConnection.internalCloseChannel_frame.2.1])
  | close receivers reason ha =>
    cases receivers
    · exact .inl rfl
    · exact .inr ⟨true, reason, rfl, rfl⟩
  | owner hconn => exact .inl (by rw [hconn.closeSend])
  | _ => exact .inl rfl

theorem Step.log_prefix (hstep : Step l a l') :
    l.conn.closeSend.log <+: l'.conn.closeSend.log := by
  rcases hstep.log_cases with hlog | ⟨_, _, -, hlog⟩ <;> rw [hlog]
  exact List.prefix_append _ _

theorem sound_fresh (specific : S) (cfg : RecvChannelsConfiguration) :
    (fresh specific cfg).Sound where
  conn :=
    { places := rfl
      slot_msg := fun h ↦ by simp [fresh, PeerConnection.new, PeerConnection.slot] at h
      slot_open := fun h ↦ by simp [fresh, PeerConnection.new, PeerConnection.slot] at h
      dropped := nofun
      closeSender := nofun }
  task_msg := nofun
  msg_task h := by simp [fresh, PeerConnection.new] at h

end Link

end BevyIroh
