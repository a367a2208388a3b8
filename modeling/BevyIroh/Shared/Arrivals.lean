import BevyIroh.Shared.Conversation

/-!
# Channels of all kinds under one id

`BevyIroh.Shared.Delivery` is about an id that is used for ordered channels only.  Here an id may be used
for channels of any kind, one after the other.  What arrives under it is then in no order; but each
stream still carries what it is for: the payloads of an ordered channel, or the one payload an unordered
channel has spawned a task for (`Link.Carrying`).  So the streams that belong to an id are lanes
(`Delivery.streams`), and on them nothing is made up and nothing comes twice
(`no_payload_made_up_or_repeated`).  Datagrams may be lost, and may come twice; but none is made up,
either.
-/

set_option autoImplicit false

namespace BevyIroh

open FramedRead Transition

/-- A channel of this kind sends on streams. -/
def ChannelConfig.Streams : ChannelConfig → Bool
  | .orderedReliable _ => true
  | .unorderedReliable _ => true
  | .unreliable => false

/-- The place of the queues of a stream's channel. -/
def StreamId.queues : StreamId → ℕ
  | .channel h => h
  | .message h _ => h

/-- A datagram is made of a payload that was in the queue. -/
theorem TaskStep.datagrams_sent {close : Broadcast CloseReason} {v v' : TaskView} {fault : Bool}
    (hstep : TaskStep close v fault v') : v'.task.datagrams = v.task.datagrams ∨
      ∃ p ∈ v.queues.bytes.sent, v.task.config = .unreliable ∧
        v'.task.datagrams = v.task.datagrams ++ [v.task.id :: p] := by
  have htakes : ∀ {signals p q fault r t}, v.queues.bytes.recv = some (p, q) →
      v.task.Takes signals p fault r t → t.datagrams = v.task.datagrams ∨
        ∃ p ∈ v.queues.bytes.sent, v.task.config = .unreliable ∧
          t.datagrams = v.task.datagrams ++ [v.task.id :: p] := by
    intro signals p q fault r t hq ht
    obtain ⟨rest, hqueued, -⟩ := Mpsc.recv_eq_some.1 hq
    cases ht with
    | datagram hc => exact .inr ⟨p, by simp [Mpsc.sent, hqueued], hc, rfl⟩
    | _ => exact .inl rfl
  cases hstep with
  | @close inner r h hr =>
    by_cases hpeer : r = .value .peerClosed
    · subst hpeer
      exact .inl rfl
    · rw [TaskView.closed_eq v hpeer]
      exact .inl rfl
  | recv h hq ht =>
    have := htakes hq ht
    exact this
  | drain h hq ht =>
    have := htakes hq ht
    exact this
  | _ => exact .inl rfl

/-! ## What a stream is for -/

namespace Link

variable {S : Type} {l l' : Link S} {a : LinkAct} {msg : ChannelSyncMessage} {i : StreamId}
  {c : ChannelId} {ps : List Bytes}

/-- The streams of a channel, each with what it is for. -/
def streamsOf (l : Link S) (msg : ChannelSyncMessage) : List (StreamId × List Bytes) :=
  match msg.config with
  | .orderedReliable _ => [(.channel msg.queues, (l.conn.queues msg.queues).bytes.sent)]
  | .unorderedReliable _ =>
    (l.conn.queues msg.queues).bytes.sent.zipIdx.map fun x ↦ (.message msg.queues x.2, [x.1])
  | .unreliable => []

/-- The stream is one of a channel opened under this id, and is for these payloads. -/
def Carrying (l : Link S) (i : StreamId) (c : ChannelId) (ps : List Bytes) : Prop :=
  ∃ msg ∈ l.conn.toChannels.sent, msg.id = c ∧ (i, ps) ∈ l.streamsOf msg

theorem mem_streamsOf_ordered {m : ℕ} (hc : msg.config = .orderedReliable m) :
    (i, ps) ∈ l.streamsOf msg ↔
      i = .channel msg.queues ∧ ps = (l.conn.queues msg.queues).bytes.sent := by
  rw [streamsOf, hc]
  simp

theorem mem_streamsOf_unordered {m : ℕ} (hc : msg.config = .unorderedReliable m) :
    (i, ps) ∈ l.streamsOf msg ↔ ∃ k p, (l.conn.queues msg.queues).bytes.sent[k]? = some p ∧
      i = .message msg.queues k ∧ ps = [p] := by
  rw [streamsOf, hc]
  constructor
  · intro h
    obtain ⟨⟨p, k⟩, hmem, heq⟩ := List.mem_map.1 h
    obtain ⟨rfl, rfl⟩ := Prod.mk.inj heq
    exact ⟨k, p, List.mem_zipIdx_iff_getElem?.1 hmem, rfl, rfl⟩
  · rintro ⟨k, p, hget, rfl, rfl⟩
    exact List.mem_map.2 ⟨(p, k), List.mem_zipIdx_iff_getElem?.2 hget, rfl⟩

theorem notMem_streamsOf_unreliable (hc : msg.config = .unreliable) : (i, ps) ∉ l.streamsOf msg := by
  rw [streamsOf, hc]
  exact List.not_mem_nil

theorem queues_of_mem_streamsOf (h : (i, ps) ∈ l.streamsOf msg) : i.queues = msg.queues := by
  cases hc : msg.config with
  | orderedReliable m =>
    rw [((mem_streamsOf_ordered hc).1 h).1]
    rfl
  | unorderedReliable m =>
    obtain ⟨k, p, -, rfl, -⟩ := (mem_streamsOf_unordered hc).1 h
    rfl
  | unreliable => exact absurd h (notMem_streamsOf_unreliable hc)

/-- A stream is for one thing only. -/
theorem Carrying.unique (hs : l.Sound) {c' : ChannelId} {ps' : List Bytes} (h : l.Carrying i c ps)
    (h' : l.Carrying i c' ps') : c = c' ∧ ps = ps' := by
  obtain ⟨msg, hmsg, rfl, hmem⟩ := h
  obtain ⟨msg', hmsg', rfl, hmem'⟩ := h'
  obtain rfl := hs.conn.msg_inj hmsg hmsg'
    ((queues_of_mem_streamsOf hmem).symm.trans (queues_of_mem_streamsOf hmem'))
  refine ⟨rfl, ?_⟩
  cases hc : msg.config with
  | orderedReliable m =>
    rw [((mem_streamsOf_ordered hc).1 hmem).2, ((mem_streamsOf_ordered hc).1 hmem').2]
  | unorderedReliable m =>
    obtain ⟨k, p, hget, rfl, rfl⟩ := (mem_streamsOf_unordered hc).1 hmem
    obtain ⟨k', p', hget', hi, rfl⟩ := (mem_streamsOf_unordered hc).1 hmem'
    obtain ⟨-, rfl⟩ := StreamId.message.inj hi
    rw [Option.some.inj (hget.symm.trans hget')]
  | unreliable => exact absurd hmem (notMem_streamsOf_unreliable hc)

/-- Each stream of a channel has a key of its own. -/
theorem nodup_streamsOf (l : Link S) (msg : ChannelSyncMessage) :
    ((l.streamsOf msg).map Prod.fst).Nodup := by
  rw [streamsOf]
  split
  · exact List.nodup_singleton _
  · have hkeys : ((l.conn.queues msg.queues).bytes.sent.zipIdx.map fun x ↦
        (StreamId.message msg.queues x.2, [x.1])).map Prod.fst =
          ((l.conn.queues msg.queues).bytes.sent.zipIdx.map Prod.snd).map (.message msg.queues) := by
      rw [List.map_map, List.map_map]
      rfl
    rw [hkeys, List.zipIdx_map_snd]
    exact (List.nodup_range' ..).map fun k k' h ↦ (StreamId.message.inj h).2
  · exact List.nodup_nil

/-- Together the streams of a channel are for what it accepted. -/
theorem flatMap_streamsOf (l : Link S) (msg : ChannelSyncMessage) :
    (l.streamsOf msg).flatMap Prod.snd =
      if msg.config.Streams then (l.conn.queues msg.queues).bytes.sent else [] := by
  rw [streamsOf]
  split <;> rename_i hc <;> rw [hc]
  · simp [ChannelConfig.Streams]
  · have hflat := List.zipIdx_map_fst 0 (l.conn.queues msg.queues).bytes.sent
    rw [List.map_eq_flatMap] at hflat
    rw [List.flatMap_map]
    exact hflat
  · rfl

/-- What has been accepted on a channel only grows. -/
theorem Step.sent_grows (hs : l.Sound) (hstep : Step l a l') (hmsg : msg ∈ l.conn.toChannels.sent) :
    (l.conn.queues msg.queues).bytes.sent <+: (l'.conn.queues msg.queues).bytes.sent := by
  rcases hstep.queue_cases (hs.conn.msg_lt hmsg) with ⟨hsent, -⟩ | ⟨_, _, _, -, -, -, -, hsent⟩ <;>
    rw [hsent]
  exact List.prefix_append _ _

/-- What a stream is for only grows. -/
theorem Carrying.step (h : l.Carrying i c ps) (hs : l.Sound) (hstep : Step l a l') :
    ∃ ps', l'.Carrying i c ps' ∧ ps <+: ps' := by
  obtain ⟨msg, hmsg, rfl, hmem⟩ := h
  have hmsg' := (hstep.sent_prefix hs).subset hmsg
  have hgrows := hstep.sent_grows hs hmsg
  cases hc : msg.config with
  | orderedReliable m =>
    obtain ⟨rfl, rfl⟩ := (mem_streamsOf_ordered hc).1 hmem
    exact ⟨_, ⟨msg, hmsg', rfl, (mem_streamsOf_ordered hc).2 ⟨rfl, rfl⟩⟩, hgrows⟩
  | unorderedReliable m =>
    obtain ⟨k, p, hget, rfl, rfl⟩ := (mem_streamsOf_unordered hc).1 hmem
    have hget' : (l'.conn.queues msg.queues).bytes.sent[k]? = some p := by
      obtain ⟨rest, hrest⟩ := hgrows
      rw [← hrest, List.getElem?_append_left (List.getElem?_eq_some_iff.1 hget).1, hget]
    exact ⟨_, ⟨msg, hmsg', rfl, (mem_streamsOf_unordered hc).2 ⟨k, p, hget', rfl, rfl⟩⟩,
      List.prefix_rfl⟩
  | unreliable => exact absurd hmem (notMem_streamsOf_unreliable hc)

/-- **What is on a stream is the beginning of the frames it is for.** -/
theorem Streaming.carrying (hs : l.Streaming) {w : FramedWrite U8} (hw : l.sender i = some w) :
    ∃ c ps, l.Carrying i c ps ∧ w.stream.bytes <+: frames c ps := by
  cases i with
  | channel h =>
    obtain ⟨t, ht, hsender⟩ := Option.bind_eq_some_iff.1 hw
    obtain ⟨⟨m, hc⟩, hle⟩ : (∃ m, t.config = .orderedReliable m) ∧
        w.stream.bytes <+: frames t.id (l.conn.queues h).bytes.received := by
      rcases hs.written ht with hwritten | ⟨-, hcut⟩
      · exact hwritten.stream_le hsender
      · exact ⟨hcut.config, hcut.stream w hsender⟩
    have hconfig : (ChannelSyncMessage.createChannel t.id t.config h).config = .orderedReliable m := hc
    refine ⟨t.id, (l.conn.queues h).bytes.sent, ⟨_, hs.task_sent ht, rfl, ?_⟩, hle.trans ?_⟩
    · exact (mem_streamsOf_ordered hconfig).2 ⟨rfl, rfl⟩
    · rw [Mpsc.sent, frames_append]
      exact List.prefix_append _ _
  | message h k =>
    obtain ⟨mt, hmt, hsender⟩ := Option.bind_eq_some_iff.1 hw
    obtain ⟨t, ht, hmt⟩ := Option.bind_eq_some_iff.1 hmt
    have hmem := List.mem_of_getElem? hmt
    rcases hs.written ht with hwritten | ⟨-, hcut⟩
    · obtain ⟨⟨m, hc⟩, -, hle⟩ := hwritten.message_le hmem hsender
      rw [ChannelTask.Written, hc] at hwritten
      have hpayload : (l.conn.queues h).bytes.sent[k]? = some mt.payload := by
        rw [Mpsc.sent, ← hwritten.2.1, List.getElem?_append_left, List.getElem?_map, hmt]
        · rfl
        · rw [List.length_map]
          exact (List.getElem?_eq_some_iff.1 hmt).1
      have hconfig : (ChannelSyncMessage.createChannel t.id t.config h).config = .unorderedReliable m :=
        hc
      refine ⟨t.id, [mt.payload], ⟨_, hs.task_sent ht, rfl, ?_⟩, ?_⟩
      · exact (mem_streamsOf_unordered hconfig).2 ⟨k, _, hpayload, rfl, rfl⟩
      · rwa [frames_singleton]
    · rw [hcut.messages] at hmem
      cases hmem

/-- Each datagram begins with the id of its channel, which is unreliable, and then there is a payload
that the channel accepted. -/
def Sourced (l : Link S) : Prop := ∀ h t, l.tasks h = some t → ∀ d ∈ t.datagrams,
  t.config = .unreliable ∧ ∃ p ∈ (l.conn.queues h).bytes.sent, d = t.id :: p

theorem Sourced.step (hsourced : l.Sourced) (hs : l.Sound) (hstep : Step l a l') : l'.Sourced := by
  intro h t ht d hd
  have hold : ∀ t₀, l.tasks h = some t₀ → ∀ d ∈ t₀.datagrams, t₀.config = .unreliable ∧
      ∃ p ∈ (l'.conn.queues h).bytes.sent, d = t₀.id :: p := by
    intro t₀ ht₀ d hd
    obtain ⟨hc, p, hp, heq⟩ := hsourced h t₀ ht₀ d hd
    exact ⟨hc, p, (hstep.sent_grows hs (hs.task_sent ht₀)).subset hp, heq⟩
  rcases hstep.task_cases hs h with ⟨htasks, -⟩ | ⟨msg, -, -, -, htasks⟩ |
    ⟨t₀, v, fault, ht₀, -, htask, rfl⟩ | ⟨t₀, _, _, _, mt', _, _, ht₀, -, -, -, -, rfl⟩
  · exact hold t (htasks ▸ ht) d hd
  · obtain rfl := Option.some.inj (htasks.symm.trans ht)
    exact absurd hd List.not_mem_nil
  · obtain rfl : v.task = t := by simpa [withView] using ht
    rw [htask.frame.config, htask.frame.id]
    rcases htask.datagrams_sent with hsame | ⟨p, hp, hc, hnew⟩
    · exact hold t₀ ht₀ d (hsame ▸ hd)
    · rcases List.mem_append.1 (hnew ▸ hd) with hd | hd
      · exact hold t₀ ht₀ d hd
      · refine ⟨hc, p, ?_, List.mem_singleton.1 hd⟩
        exact (hstep.sent_grows hs (hs.task_sent ht₀)).subset hp
  · obtain rfl : { t₀ with messages := t₀.messages.set _ mt' } = t := by simpa [withView] using ht
    exact hold t₀ ht₀ d hd

end Link

/-! ## The invariant -/

namespace Delivery

variable {S : Type} {s s' : Delivery S} {a : DeliveryAct} {id : ChannelId}

/-- The step is free of faults, and a payload fits. -/
structure Faultless (s : Delivery S) (a : DeliveryAct) : Prop where
  fitting : ∀ b, a = .link b → s.link.Fitting b
  fits : ∀ i p, a = .link (.send i p) → s.Fits i p

/-- What holds in every run without faults, whatever the channels. -/
structure AllKinds (s : Delivery S) : Prop where
  streaming : s.link.Streaming
  limit : ∀ msg ∈ s.link.conn.toChannels.sent, ∀ p ∈ s.acceptedBy msg.queues,
    p.length + 1 ≤ defaultMaxReliableFrameLen
  /-- An open channel is the last one that was opened under its id. -/
  current : ∀ id c, s.link.conn.slot id = some c → ∃ init, s.openings id = init ++ [c.queues]
  accepted : ∀ id, s.acceptedFor id = (s.openings id).flatMap s.acceptedBy
  sourced : s.link.Sourced
  arrived : ∀ i, (s.readers i).arrived = [] ∨
    ∃ c ps, s.link.Carrying i c ps ∧ (s.readers i).arrived <+: frames c ps
  reached : ∀ i, reliableStreamReceiver.Reached (.new defaultMaxReliableFrameLen)
    (s.readers i).arrived (emittedOn s.enqueued i) (s.readers i).decoder (s.readers i).buffer
  datagrams : ∀ e ∈ s.enqueued, e.stream = none → ∃ msg ∈ s.link.conn.toChannels.sent,
    msg.id = e.channelId ∧ msg.config = .unreliable ∧ e.payload ∈ s.acceptedBy msg.queues

theorem allKinds_start (specific : S) (cfg : RecvChannelsConfiguration) :
    AllKinds (start specific cfg) where
  streaming := Link.streaming_fresh specific cfg
  limit msg hmsg := by simp [start, Link.fresh, PeerConnection.new, Mpsc.sent] at hmsg
  current id c hc := by simp [start, Link.fresh, PeerConnection.new, PeerConnection.slot] at hc
  accepted _ := rfl
  sourced := nofun
  arrived _ := .inl rfl
  reached _ := .start _
  datagrams _ he := absurd he List.not_mem_nil

theorem AllKinds.opening_lt (hs : AllKinds s) {h : ℕ} (hh : h ∈ s.openings id) :
    h < s.link.conn.created := by
  obtain ⟨msg, hmsg, -, rfl⟩ := mem_openings.1 hh
  exact hs.streaming.conn.msg_lt hmsg

theorem AllKinds.openings_nodup (hs : AllKinds s) : (s.openings id).Nodup := by
  refine (List.filter_sublist.map _).nodup ?_
  rw [hs.streaming.conn.places]
  exact List.nodup_range

/-- The queues of an open channel are among the openings of its own id only. -/
theorem AllKinds.id_of_current (hs : AllKinds s) {i : ChannelId} {c : Channel}
    (hc : s.link.conn.slot i = some c) (hh : c.queues ∈ s.openings id) : i = id := by
  obtain ⟨msg, hmsg, hid, hqueues⟩ := mem_openings.1 hh
  obtain ⟨config, hmsg'⟩ := hs.streaming.conn.slot_msg hc
  obtain rfl := hs.streaming.conn.msg_inj hmsg' hmsg hqueues.symm
  exact hid

/-- A payload that is accepted is the last one that its id has accepted. -/
theorem AllKinds.accepted_send (hs : AllKinds s) (i : ChannelId) (p : Bytes) (id : ChannelId) :
    ((s.accepted ++ s.link.accepts (.send i p)).filter (·.1 = id)).map Prod.snd =
      (s.openings id).flatMap fun h ↦
        ((s.link.conn.internalSendPayload i p).2.queues h).bytes.sent := by
  have hold := hs.accepted id
  rcases s.link.conn.internalSendPayload_cases (i := i) p with
    ⟨c, hc, -, hok, hqueues⟩ | ⟨-, hok, hqueues⟩
  · have haccepts : s.link.accepts (.send i p) = [(i, p)] := by simp only [Link.accepts, hok]
    have hother : ∀ h ≠ c.queues, ((s.link.conn.internalSendPayload i p).2.queues h).bytes.sent =
        s.acceptedBy h := fun h hh ↦ by rw [hqueues, Function.update_of_ne hh]; rfl
    rw [haccepts, List.filter_append, List.map_append]
    by_cases hid : i = id
    · subst hid
      obtain ⟨init, hinit⟩ := hs.current i c hc
      have hnodup : (s.openings i).Nodup := hs.openings_nodup
      rw [hinit, List.nodup_append] at hnodup
      have hinit' : ∀ h ∈ init, ((s.link.conn.internalSendPayload i p).2.queues h).bytes.sent =
          s.acceptedBy h := fun h hh ↦ hother h (hnodup.2.2 h hh _ List.mem_cons_self)
      rw [acceptedFor, hinit, List.flatMap_append, List.flatMap_singleton] at hold
      rw [hold, hinit, List.flatMap_append, List.flatMap_singleton, List.flatMap_congr hinit', hqueues]
      simp [acceptedBy]
    · have hsame : ∀ h ∈ s.openings id, ((s.link.conn.internalSendPayload i p).2.queues h).bytes.sent =
          s.acceptedBy h := fun h hh ↦ hother h fun heq ↦ hid (hs.id_of_current hc (heq ▸ hh))
      rw [List.flatMap_congr hsame, ← hold]
      simp [acceptedFor, hid]
  · have haccepts : s.link.accepts (.send i p) = [] := by
      cases hr : (s.link.conn.internalSendPayload i p).1 with
      | ok => exact absurd hr hok
      | error => simp only [Link.accepts, hr]
    rw [haccepts, List.append_nil, hqueues]
    exact hold

theorem AllKinds.accepted_step (hs : AllKinds s) {a : LinkAct} {l : Link S}
    (hstep : Link.Step s.link a l) (id : ChannelId) :
    ((s.accepted ++ s.link.accepts a).filter (·.1 = id)).map Prod.snd =
      (l.openings id).flatMap fun h ↦ (l.conn.queues h).bytes.sent := by
  by_cases hsend : ∃ i p, a = .send i p
  · obtain ⟨i, p, rfl⟩ := hsend
    cases hstep with
    | send =>
      rw [hs.accepted_send i p id]
      simp only [openings, Link.openings, (PeerConnection.internalSendPayload_frame p).2.1]
  · have hnone : s.link.accepts a = [] := by
      cases a with
      | send i p => exact absurd ⟨i, p, rfl⟩ hsend
      | _ => rfl
    have hby : ∀ h ∈ s.openings id, (l.conn.queues h).bytes.sent = s.acceptedBy h := by
      intro h hh
      rcases hstep.queue_cases (hs.opening_lt hh) with ⟨hsent, -⟩ | ⟨i, p, _, rfl, -⟩
      · exact hsent
      · exact absurd ⟨i, p, rfl⟩ hsend
    have hold := hs.accepted id
    rw [hnone, List.append_nil]
    rcases hstep.openings_cases hs.streaming.toSound id with
      ⟨hopen, -⟩ | ⟨config, rfl, hok, hopen, -, hnew⟩ <;> rw [hopen]
    · rw [← show s.openings id = s.link.openings id from rfl, List.flatMap_congr hby]
      exact hold
    · rw [List.flatMap_append, List.flatMap_singleton, hnew, List.append_nil,
        ← show s.openings id = s.link.openings id from rfl, List.flatMap_congr hby]
      exact hold

theorem AllKinds.link (hs : AllKinds s) {a : LinkAct} {l : Link S} (ha : Faultless s (.link a))
    (hstep : Link.Step s.link a l) :
    AllKinds { s with link := l, accepted := s.accepted ++ s.link.accepts a } where
  streaming := hs.streaming.step (ha.fitting a rfl) hstep
  limit := by
    refine hstep.accepted_cases (Q := fun _ p ↦ p.length + 1 ≤ defaultMaxReliableFrameLen)
      hs.streaming.toSound hs.limit fun i p heq c config _ _ ↦ ?_
    subst heq
    exact (ha.fits i p rfl).2
  current id c hc := by
    rcases hstep.openings_cases hs.streaming.toSound id with ⟨hopen, hslot⟩ | ⟨_, -, -, hopen, hslot, -⟩
    · obtain ⟨init, hinit⟩ := hs.current id c (hslot c hc)
      exact ⟨init, hopen.trans hinit⟩
    · obtain rfl := Option.some.inj (hslot.symm.trans hc)
      exact ⟨s.openings id, hopen⟩
  accepted := hs.accepted_step hstep
  sourced := hs.sourced.step hs.streaming.toSound hstep
  arrived i := by
    refine (hs.arrived i).imp_right fun ⟨c, ps, hi, hle⟩ ↦ ?_
    obtain ⟨ps', hi', x, rfl⟩ := hi.step hs.streaming.toSound hstep
    refine ⟨c, _, hi', hle.trans ?_⟩
    rw [frames_append]
    exact List.prefix_append _ _
  reached := hs.reached
  datagrams e he hnone := by
    obtain ⟨msg, hmsg, hid, hc, hp⟩ := hs.datagrams e he hnone
    exact ⟨msg, (hstep.sent_prefix hs.streaming.toSound).subset hmsg, hid, hc,
      (hstep.sent_grows hs.streaming.toSound hmsg).subset hp⟩

/-- A receiving task goes on. -/
theorem AllKinds.reader (hs : AllKinds s) {i : StreamId} {r : Reader} {enqueued : List Incoming}
    (harrived : r.arrived = [] ∨ ∃ c ps, s.link.Carrying i c ps ∧ r.arrived <+: frames c ps)
    (hreached : reliableStreamReceiver.Reached (.new defaultMaxReliableFrameLen) r.arrived
      (emittedOn enqueued i) r.decoder r.buffer)
    (hother : ∀ j, j ≠ i → emittedOn enqueued j = emittedOn s.enqueued j)
    (hdatagrams : ∀ e ∈ enqueued, e.stream = none → e ∈ s.enqueued) :
    AllKinds { s.withReader i r with enqueued } where
  streaming := hs.streaming
  limit := hs.limit
  current := hs.current
  accepted := hs.accepted
  sourced := hs.sourced
  arrived j := by
    by_cases hj : j = i
    · subst hj
      simpa [withReader] using harrived
    · simpa [withReader, hj] using hs.arrived j
  reached j := by
    by_cases hj : j = i
    · subst hj
      simpa [withReader] using hreached
    · have hsame := hs.reached j
      rw [← hother j hj] at hsame
      simpa [withReader, hj] using hsame
  datagrams e he hnone := hs.datagrams e (hdatagrams e he hnone) hnone

/-- **Every step keeps the invariant.** -/
theorem AllKinds.step (hs : AllKinds s) (ha : Faultless s a) (hstep : Step s a s') : AllKinds s' := by
  cases hstep with
  | link h => exact hs.link ha h
  | @arrive i w chunk hw h =>
    refine hs.reader (r := ⟨_, _, _⟩) (.inr ?_) ((hs.reached i).feed chunk) (fun _ _ ↦ rfl)
      fun e he _ ↦ he
    obtain ⟨c, ps, hi, hle⟩ := hs.streaming.carrying hw
    exact ⟨c, ps, hi, h.trans hle⟩
  | @enqueue i c p d buf hroom h =>
    refine hs.reader (r := ⟨_, _, _⟩) (hs.arrived i) ?_ (fun j hj ↦ ?_) fun e he hnone ↦ ?_
    · rw [emittedOn_concat, if_pos rfl]
      exact (hs.reached i).item h
    · rw [emittedOn_concat, if_neg]
      exact fun heq ↦ hj (Option.some.inj heq).symm
    · rcases List.mem_append.1 he with he | he
      · exact he
      · rw [List.mem_singleton.1 he] at hnone
        cases hnone
  | @wait i d buf h =>
    exact hs.reader (r := ⟨_, _, _⟩) (hs.arrived i) ((hs.reached i).more h) (fun _ _ ↦ rfl)
      fun e he _ ↦ he
  | @datagram h t d c p hroom ht hd hrecv =>
    refine ⟨hs.streaming, hs.limit, hs.current, hs.accepted, hs.sourced, hs.arrived, fun i ↦ ?_,
      fun e he hnone ↦ ?_⟩
    · rw [emittedOn_concat, if_neg (by simp)]
      exact hs.reached i
    · rcases List.mem_append.1 he with he | he
      · exact hs.datagrams e he hnone
      · obtain ⟨hc, p', hp', rfl⟩ := hs.sourced h t ht d hd
        obtain ⟨rfl, rfl⟩ := Prod.mk.inj (receiveUnreliableMessage_cons hrecv)
        rw [List.mem_singleton.1 he]
        exact ⟨_, hs.streaming.task_sent ht, rfl, hc, hp'⟩
  | dequeue => exact { hs with }

/-! ## The streams of an id -/

/-- The channels opened under this id, oldest first. -/
def opened (id : ChannelId) (s : Delivery S) : List ChannelSyncMessage :=
  s.link.conn.toChannels.sent.filter (·.id = id)

/-- What the channels of this id accepted that send on streams. -/
def streamedFor (id : ChannelId) (s : Delivery S) : List Bytes :=
  ((s.opened id).filter (·.config.Streams)).flatMap fun msg ↦ s.acceptedBy msg.queues

/-- What those accepted that send datagrams. -/
def datagramsFor (id : ChannelId) (s : Delivery S) : List Bytes :=
  ((s.opened id).filter (!·.config.Streams)).flatMap fun msg ↦ s.acceptedBy msg.queues

/-- What was enqueued under this id, and came on a stream. -/
def cameOnStream (id : ChannelId) (s : Delivery S) : List (StreamId × Bytes) :=
  (s.enqueued.filter (·.channelId = id)).filterMap fun e ↦ e.stream.map (·, e.payload)

/-- The streams of the channels opened under this id, as lanes. -/
def streams (id : ChannelId) (s : Delivery S) : Lanes StreamId Bytes where
  lanes := (s.opened id).flatMap s.link.streamsOf
  taken := s.streamedFor id
  delivered := s.cameOnStream id

theorem mem_streams {i : StreamId} {ps : List Bytes} :
    (i, ps) ∈ (s.streams id).lanes ↔ s.link.Carrying i id ps := by
  simp [streams, opened, Link.Carrying, List.mem_flatMap, and_assoc]

theorem mem_cameOnStream {i : StreamId} {p : Bytes} (h : (i, p) ∈ s.cameOnStream id) :
    (id, p) ∈ emittedOn s.enqueued i := by
  obtain ⟨e, he, heq⟩ := List.mem_filterMap.1 h
  obtain ⟨hmem, hid⟩ := List.mem_filter.1 he
  obtain ⟨j, hj, heq⟩ := Option.map_eq_some_iff.1 heq
  obtain ⟨rfl, rfl⟩ := Prod.mk.inj heq
  obtain rfl : e.channelId = id := of_decide_eq_true hid
  exact List.mem_map.2 ⟨e, List.mem_filter.2 ⟨hmem, by simp [hj]⟩, rfl⟩

/-- What has come on a stream under an id. -/
theorem deliveredBy_streams (id : ChannelId) (s : Delivery S) (i : StreamId) :
    (s.streams id).deliveredBy i = ((emittedOn s.enqueued i).filter (·.1 = id)).map Prod.snd := by
  simp only [Lanes.deliveredBy, streams, cameOnStream, emittedOn]
  induction s.enqueued with
  | nil => rfl
  | cons e es ih =>
    by_cases hid : e.channelId = id
    · cases hj : e.stream with
      | none => simpa [hid, hj] using ih
      | some j =>
        by_cases hji : j = i
        · simpa [hid, hj, hji] using ih
        · simpa [hid, hj, hji] using ih
    · by_cases hji : e.stream = some i
      · simpa [hid, hji] using ih
      · simpa [hid, hji] using ih

/-- What a stream is for is within the receiver's limit. -/
theorem AllKinds.carrying_limit (hs : AllKinds s) {i : StreamId} {c : ChannelId} {ps : List Bytes}
    (hi : s.link.Carrying i c ps) : ∀ p ∈ ps, p.length + 1 ≤ defaultMaxReliableFrameLen := by
  obtain ⟨msg, hmsg, -, hmem⟩ := hi
  intro p hp
  refine hs.limit msg hmsg p ?_
  cases hc : msg.config with
  | orderedReliable m =>
    rw [((Link.mem_streamsOf_ordered hc).1 hmem).2] at hp
    exact hp
  | unorderedReliable m =>
    obtain ⟨k, p', hget, -, rfl⟩ := (Link.mem_streamsOf_unordered hc).1 hmem
    obtain rfl := List.mem_singleton.1 hp
    exact List.mem_of_getElem? hget
  | unreliable => exact absurd hmem (Link.notMem_streamsOf_unreliable hc)

theorem AllKinds.drain_frames (hs : AllKinds s) {i : StreamId} {c : ChannelId} {ps : List Bytes}
    (hi : s.link.Carrying i c ps) :
    (reliableStreamReceiver.drain (.new defaultMaxReliableFrameLen) (frames c ps)).1 =
      ps.map (Prod.mk c) := by
  have hlimit := hs.carrying_limit hi
  have hdrain := BevyIroh.drain_frames (c := c) hlimit
    (fun p hp ↦ Nat.lt_of_le_of_lt (hlimit p hp) (by decide)) []
  rw [List.append_nil, Decoder.drain_more (decode_receiver_nil _), List.append_nil] at hdrain
  rw [QuinnetProtocolCodecDecoder.new, hdrain]

/-- **What has come on a stream is the beginning of what it is for.** -/
theorem AllKinds.emittedOn_le (hs : AllKinds s) (i : StreamId) : emittedOn s.enqueued i = [] ∨
    ∃ c ps, s.link.Carrying i c ps ∧ emittedOn s.enqueued i <+: ps.map (Prod.mk c) := by
  rcases hs.arrived i with hnil | ⟨c, ps, hi, x, hx⟩
  · left
    have hle := (hs.reached i).emitted_le []
    rw [hnil, List.append_nil, QuinnetProtocolCodecDecoder.new,
      Decoder.drain_more (decode_receiver_nil _)] at hle
    exact List.prefix_nil.1 hle
  · refine .inr ⟨c, ps, hi, ?_⟩
    have hle := (hs.reached i).emitted_le x
    rwa [hx, hs.drain_frames hi] at hle

/-- What comes on a stream of an id comes under this id. -/
theorem AllKinds.filter_emittedOn (hs : AllKinds s) {i : StreamId} {ps : List Bytes}
    (hi : s.link.Carrying i id ps) :
    (emittedOn s.enqueued i).filter (·.1 = id) = emittedOn s.enqueued i ∧
      (emittedOn s.enqueued i).map Prod.snd <+: ps := by
  rcases hs.emittedOn_le i with hnil | ⟨c, ps', hi', hle⟩
  · rw [hnil]
    exact ⟨rfl, List.nil_prefix⟩
  · obtain ⟨rfl, rfl⟩ := hi.unique hs.streaming.toSound hi'
    refine ⟨List.filter_eq_self.2 fun x hx ↦ ?_, ?_⟩
    · obtain ⟨p, -, rfl⟩ := List.mem_map.1 (hle.subset hx)
      exact decide_eq_true rfl
    · have hmap := hle.map Prod.snd
      rwa [List.map_map, show (Prod.snd ∘ Prod.mk id : Bytes → Bytes) = fun p ↦ p from rfl,
        List.map_id'] at hmap

theorem AllKinds.nodup_streams (hs : AllKinds s) (id : ChannelId) : (s.streams id).keys.Nodup := by
  have hkeys : (s.streams id).keys =
      (s.opened id).flatMap fun msg ↦ (s.link.streamsOf msg).map Prod.fst := List.map_flatMap
  have hplaces : ((s.opened id).map (·.queues)).Nodup := hs.openings_nodup
  rw [hkeys, List.nodup_flatMap]
  refine ⟨fun msg _ ↦ s.link.nodup_streamsOf msg, (List.pairwise_map.1 hplaces).imp ?_⟩
  intro msg msg' hne i hi hi'
  obtain ⟨⟨i, ps⟩, hmem, rfl⟩ := List.mem_map.1 hi
  obtain ⟨⟨j, ps'⟩, hmem', heq⟩ := List.mem_map.1 hi'
  obtain rfl : j = i := heq
  exact hne ((Link.queues_of_mem_streamsOf hmem).symm.trans (Link.queues_of_mem_streamsOf hmem'))

theorem flatMap_filter_eq {α β : Type} (p : α → Bool) (f : α → List β) (xs : List α) :
    (xs.filter p).flatMap f = xs.flatMap fun x ↦ if p x then f x else [] := by
  induction xs with
  | nil => rfl
  | cons x xs ih => cases hp : p x <;> simp [hp, ih]

/-- **The streams of an id are sound lanes.** -/
theorem AllKinds.sound_streams (hs : AllKinds s) (id : ChannelId) : (s.streams id).Sound where
  nodup := hs.nodup_streams id
  taken := by
    show s.streamedFor id = ((s.opened id).flatMap s.link.streamsOf).flatMap Prod.snd
    rw [List.flatMap_assoc, List.flatMap_congr fun msg _ ↦ s.link.flatMap_streamsOf msg, streamedFor,
      flatMap_filter_eq]
    rfl
  inOrder {i ps} hmem := by
    obtain ⟨hfilter, hle⟩ := hs.filter_emittedOn (mem_streams.1 hmem)
    rwa [deliveredBy_streams, hfilter]
  ofLane x hx := by
    have hmem := mem_cameOnStream hx
    rcases hs.emittedOn_le x.1 with hnil | ⟨c, ps, hi, hle⟩
    · rw [hnil] at hmem
      cases hmem
    · obtain ⟨p, -, heq⟩ := List.mem_map.1 (hle.subset hmem)
      obtain rfl : c = id := congrArg Prod.fst heq
      exact List.mem_map_of_mem (f := Prod.fst) (mem_streams.2 hi)

/-- What an id has accepted is for streams or for datagrams. -/
theorem AllKinds.accepted_perm (hs : AllKinds s) (id : ChannelId) :
    (s.streamedFor id ++ s.datagramsFor id).Perm (s.acceptedFor id) := by
  have hsplit := List.filter_append_perm (fun msg : ChannelSyncMessage ↦ msg.config.Streams) (s.opened id)
  have hall := hsplit.flatMap_right fun msg ↦ s.acceptedBy msg.queues
  rw [List.flatMap_append] at hall
  rw [hs.accepted id]
  refine hall.trans (.of_eq ?_)
  show _ = ((s.opened id).map (·.queues)).flatMap s.acceptedBy
  rw [List.flatMap_map]

theorem AllKinds.mem_datagramsFor (hs : AllKinds s) {e : Incoming} (he : e ∈ s.enqueued)
    (hid : e.channelId = id) (hnone : e.stream = none) : e.payload ∈ s.datagramsFor id := by
  obtain ⟨msg, hmsg, hmid, hc, hp⟩ := hs.datagrams e he hnone
  refine List.mem_flatMap.2 ⟨msg, List.mem_filter.2 ⟨?_, by rw [hc]; rfl⟩, hp⟩
  exact List.mem_filter.2 ⟨hmsg, decide_eq_true (hmid.trans hid)⟩

theorem allKinds_of_reachable {specific : S} {cfg : RecvChannelsConfiguration}
    (hr : Reachable Step Faultless (start specific cfg) s) : AllKinds s :=
  hr.invariant (allKinds_start specific cfg) fun hs ha hstep ↦ hs.step ha hstep

/-- **Nothing is made up, and nothing comes twice.**  In every run without faults, whatever channels of
whatever kinds are opened under an id, at the same time as others or one after the other: the payloads
that came on streams under the id are among those that its reliable channels accepted, each as often as
it was accepted, at most; what came on one stream is the beginning of what the stream is for; and a
payload that came as a datagram was accepted by one of its unreliable channels. -/
theorem no_payload_made_up_or_repeated {specific : S} {cfg : RecvChannelsConfiguration}
    (hr : Reachable Step Faultless (start specific cfg) s) (id : ChannelId) :
    ((s.cameOnStream id).map Prod.snd).Subperm (s.streamedFor id) ∧
      (∀ i ps, s.link.Carrying i id ps → (emittedOn s.enqueued i).map Prod.snd <+: ps) ∧
      (∀ e ∈ s.enqueued, e.channelId = id → e.stream = none → e.payload ∈ s.datagramsFor id) ∧
      (s.streamedFor id ++ s.datagramsFor id).Perm (s.acceptedFor id) := by
  have hs := allKinds_of_reachable hr
  refine ⟨(hs.sound_streams id).output_subperm, fun i ps hi ↦ (hs.filter_emittedOn hi).2, ?_,
    hs.accepted_perm id⟩
  exact fun e he hid hnone ↦ hs.mem_datagramsFor he hid hnone

/-- A payload that is sent on a new channel, and arrives. -/
theorem exists_came (b : U8) : ∃ s : Delivery Unit, Reachable Step Faultless (start () {}) s ∧
    (s.cameOnStream 0).map Prod.snd = [[b]] := by
  obtain ⟨d, hd, -, hempty, -, hreader, -⟩ := Conversation.exists_arrived () b
  have hfits : [b].length + 1 ≤ defaultMaxReliableFrameLen := Nat.le_add_left 2 (8 * 1024 * 1024 - 2)
  have hdecode := decode_frame (c := 0) (p := [b]) hfits (Nat.lt_of_le_of_lt hfits (by decide)) []
  rw [List.append_nil] at hdecode
  have hstep : Step d (.enqueue (.channel 0)) _ := .enqueue (room_of_enqueued hempty) (by rw [hreader]; exact hdecode)
  have hother : ∀ {d : Delivery Unit} {a : DeliveryAct}, Healthy 0 d a → Faultless d a :=
    fun ha ↦ ⟨ha.fitting, ha.fits⟩
  have hstart : Reachable Step Faultless (start () {}) (start () {}) := .start
  have hopened := hstart.next (hother (Conversation.orderly_create (d := start () {}) 4 rfl).1)
    (.link (.create (start () {}).link 0 (.orderedReliable 4) rfl))
  have hsent := hopened.next (hother (Conversation.orderly_send (Conversation.fits_opened () b)).1)
    (.link (.send (Conversation.opened ()).link 0 [b] rfl))
  have harrived := hsent.trans (hd.mono fun h ↦ hother h.1.1.1)
  refine ⟨_, harrived.next (hother (Conversation.orderly_other (by simp)).1) hstep, ?_⟩
  simp [cameOnStream, hempty]

/-- What has come was accepted. -/
theorem no_payload_made_up_or_repeated_one : ∃ s : Delivery Unit,
    Reachable Step Faultless (start () {}) s ∧ (s.cameOnStream 0).map Prod.snd = [[7]] ∧
      ((s.cameOnStream 0).map Prod.snd).Subperm (s.streamedFor 0) ∧
      (∀ i ps, s.link.Carrying i 0 ps → (emittedOn s.enqueued i).map Prod.snd <+: ps) ∧
      (∀ e ∈ s.enqueued, e.channelId = 0 → e.stream = none → e.payload ∈ s.datagramsFor 0) ∧
      (s.streamedFor 0 ++ s.datagramsFor 0).Perm (s.acceptedFor 0) := by
  obtain ⟨s, hr, hcame⟩ := exists_came 7
  exact ⟨s, hr, hcame, no_payload_made_up_or_repeated hr 0⟩

end Delivery

end BevyIroh
