import BevyIroh.Lib.Lanes
import BevyIroh.Shared.Tasks.Streams

/-!
# Delivery

One direction of a connection from end to end: the calls of the sender and its channel tasks
(`BevyIroh.Shared.Tasks.Link`), the streams and datagrams on their way, and the receiving tasks, which
put channel ids and payloads into one queue, from which the application at the other end takes them.
The queue is bounded, and when it is full a receiving task waits.  Each stream arrives in order, a piece
at a time, and has a receiving task of its own; between streams there is no order at all.

On the receiving end a channel is known by its id only, but an id can be used more than once: closing a
channel gives it back, and a channel opened later may get it.  Each opening has a stream of its own, so
what the receiver sees under an id are lanes in the sense of `BevyIroh.Lib.Lanes`, one for each
opening (`Delivery.lanes`).  Each lane is in order (`orderedPerOpening_of_reachable`).  Together they
are, if an id is used again only when everything that was accepted under it has arrived
(`enqueuedFor_isPrefix_of_reachable`).
-/

set_option autoImplicit false

namespace BevyIroh

open Bytes FramedRead Transition

/-! ## The receiving end -/

/-- The body of the loop of `unreliable_channel_receiver_task`: what is enqueued for a datagram, if it
is not skipped.  `none` is a panic. -/
def receiveUnreliableMessage (msgBytes : Bytes) : Option (Option (ChannelId × Bytes)) :=
  if msgBytes.length ≤ channelIdLen then some none
  else do
    let (msgBytes, payload) ← splitOff 1 msgBytes
    let (channelId, _) ← getU8 msgBytes
    some (some (channelId, payload))

theorem receiveUnreliableMessage_cons {c : ChannelId} {p : Bytes} {m : ChannelId × Bytes}
    (h : receiveUnreliableMessage (c :: p) = some (some m)) : m = (c, p) := by
  rw [receiveUnreliableMessage] at h
  split_ifs at h
  · simp at h
  · obtain rfl : (c, p) = m := by simpa [splitOff, getU8] using h
    rfl

/-- `reliable_stream_receiver_task`, with the buffer and the decoder of its `FramedRead`. -/
structure Reader where
  /-- The bytes of the stream that have arrived. -/
  arrived : Bytes := []
  decoder : QuinnetProtocolCodecDecoder := .new defaultMaxReliableFrameLen
  buffer : Bytes := []
deriving DecidableEq, Repr

/-- A message in the queue of payloads from the peer. -/
structure Incoming where
  /-- The stream it came on; a datagram has none. -/
  stream : Option StreamId
  channelId : ChannelId
  payload : Bytes
deriving DecidableEq, Repr

/-! ## The system -/

structure Delivery (S : Type) where
  link : Link S
  /-- The payloads that were accepted, oldest first, each with its channel id. -/
  accepted : List (ChannelId × Bytes) := []
  readers : StreamId → Reader := fun _ ↦ {}
  /-- The messages enqueued by the receiving tasks, oldest first. -/
  enqueued : List Incoming := []
  /-- How many of them were taken from the queue. -/
  dispatched : ℕ := 0

inductive DeliveryAct where
  | link (a : LinkAct)
  | arrive (i : StreamId)
  | enqueue (i : StreamId)
  | wait (i : StreamId)
  | datagram (queues : ℕ)
  | dequeue
deriving DecidableEq, Repr

/-- What this step adds to the payloads that were accepted. -/
def Link.accepts {S : Type} (l : Link S) : LinkAct → List (ChannelId × Bytes)
  | .send id payload =>
    match (l.conn.internalSendPayload id payload).1 with
    | .ok () => [(id, payload)]
    | .error _ => []
  | _ => []

/-- The queues of the channels opened under this id, oldest first. -/
def Link.openings {S : Type} (l : Link S) (id : ChannelId) : List ℕ :=
  (l.conn.toChannels.sent.filter (·.id = id)).map (·.queues)

/-- A step opens a channel under this id, with queues of its own, or it opens none. -/
theorem Link.Step.openings_cases {S : Type} {l l' : Link S} {a : LinkAct}
    (hstep : Link.Step l a l') (hs : l.Sound) (id : ChannelId) :
    (l'.openings id = l.openings id ∧ ∀ c, l'.conn.slot id = some c → l.conn.slot id = some c) ∨
      ∃ config, a = .create id config ∧ (l.conn.createConnectionChannel id config).1 = .ok () ∧
        l'.openings id = l.openings id ++ [l.conn.created] ∧
        l'.conn.slot id = some ⟨id, l.conn.created⟩ ∧
        (l'.conn.queues l.conn.created).bytes.sent = [] := by
  rcases hstep.creation_cases hs with ⟨hsent, hslot⟩ | ⟨i, config, rfl, hok, hsent, hqueues, hslot⟩
  · exact .inl ⟨by rw [openings, hsent, openings], hslot id⟩
  · by_cases hid : i = id
    · subst hid
      refine .inr ⟨config, rfl, hok, ?_, by rw [hslot, if_pos rfl], by rw [hqueues]; rfl⟩
      simp [openings, hsent, ChannelSyncMessage.id, ChannelSyncMessage.queues]
    · refine .inl ⟨?_, fun c hc ↦ ?_⟩
      · simp [openings, hsent, ChannelSyncMessage.id, hid]
      · rwa [hslot, if_neg (Ne.symm hid)] at hc

namespace Delivery

variable {S : Type}

def start (specific : S) (recvChannelsCfg : RecvChannelsConfiguration) : Delivery S where
  link := .fresh specific recvChannelsCfg

/-- The reader of this stream goes on. -/
def withReader (s : Delivery S) (i : StreamId) (r : Reader) : Delivery S :=
  { s with readers := Function.update s.readers i r }

/-- What is in the queue of payloads from the peer. -/
def waiting (s : Delivery S) : List Incoming := s.enqueued.drop s.dispatched

/-- The queue is not full. -/
def Room (s : Delivery S) : Prop := s.waiting.length < defaultMessageQueueSize

/-- After a payload was taken from the queue. -/
def dequeued (s : Delivery S) : Delivery S := { s with dispatched := s.dispatched + 1 }

/-- A receiving task that fails, or that has seen the close order, takes no further step. -/
inductive Step : Delivery S → DeliveryAct → Delivery S → Prop
  | link {s : Delivery S} {a : LinkAct} {l : Link S} (h : Link.Step s.link a l) :
      Step s (.link a) { s with link := l, accepted := s.accepted ++ s.link.accepts a }
  /-- The next bytes of the stream are there, and are read into the buffer. -/
  | arrive {s : Delivery S} {i : StreamId} {w : FramedWrite U8} (chunk : Bytes)
      (hw : s.link.sender i = some w) (h : (s.readers i).arrived ++ chunk <+: w.stream.bytes) :
      Step s (.arrive i) (s.withReader i { s.readers i with
        arrived := (s.readers i).arrived ++ chunk
        buffer := (s.readers i).buffer ++ chunk })
  /-- There is a frame in the buffer, and room for it in the queue. -/
  | enqueue {s : Delivery S} {i : StreamId} {channelId : ChannelId} {payload : Bytes}
      {decoder : QuinnetProtocolCodecDecoder} {buffer : Bytes} (hroom : s.Room)
      (h : reliableStreamReceiver.decode (s.readers i).decoder (s.readers i).buffer =
        .item (channelId, payload) decoder buffer) :
      Step s (.enqueue i)
        { s.withReader i { s.readers i with decoder, buffer } with
          enqueued := s.enqueued ++ [⟨some i, channelId, payload⟩] }
  /-- There is none. -/
  | wait {s : Delivery S} {i : StreamId} {decoder : QuinnetProtocolCodecDecoder} {buffer : Bytes}
      (h : reliableStreamReceiver.decode (s.readers i).decoder (s.readers i).buffer =
        .more decoder buffer) :
      Step s (.wait i) (s.withReader i { s.readers i with decoder, buffer })
  /-- A datagram arrives, maybe not for the first time. -/
  | datagram {s : Delivery S} {h : ℕ} {t : ChannelTask} {d : Bytes} {channelId : ChannelId}
      {payload : Bytes} (hroom : s.Room) (ht : s.link.tasks h = some t) (hd : d ∈ t.datagrams)
      (hrecv : receiveUnreliableMessage d = some (some (channelId, payload))) :
      Step s (.datagram h) { s with enqueued := s.enqueued ++ [⟨none, channelId, payload⟩] }
  /-- The application at the other end takes a payload. -/
  | dequeue {s : Delivery S} (hw : s.waiting ≠ []) : Step s .dequeue s.dequeued

/-- What is enqueued is not taken in the same step. -/
theorem Step.dispatched_of_enqueued {s s' : Delivery S} {a : DeliveryAct} {e : Incoming}
    (h : Step s a s') (he : s'.enqueued = s.enqueued ++ [e]) : s'.dispatched = s.dispatched := by
  cases h with
  | dequeue => exact absurd (congrArg List.length he) (by simp [dequeued])
  | _ => rfl

/-- There is room in an empty queue. -/
theorem room_of_waiting {s : Delivery S} (h : s.waiting = []) : s.Room := by
  rw [Room, h]
  decide

theorem room_of_enqueued {s : Delivery S} (h : s.enqueued = []) : s.Room :=
  room_of_waiting (by rw [waiting, h, List.drop_nil])

/-! ## What is claimed of it -/

/-- The payloads accepted under this id. -/
def acceptedFor (s : Delivery S) (id : ChannelId) : List Bytes :=
  (s.accepted.filter (·.1 = id)).map Prod.snd

/-- The payloads accepted by the channel of these queues. -/
def acceptedBy (s : Delivery S) (h : ℕ) : List Bytes := (s.link.conn.queues h).bytes.sent

/-- The payloads enqueued under this id. -/
def enqueuedFor (s : Delivery S) (id : ChannelId) : List Bytes :=
  (s.enqueued.filter (·.channelId = id)).map (·.payload)

/-- Those of them that came on this stream. -/
def enqueuedOn (s : Delivery S) (id : ChannelId) (i : StreamId) : List Bytes :=
  (s.enqueued.filter fun e ↦ e.channelId = id ∧ e.stream = some i).map (·.payload)

/-- The channels opened under this id. -/
def openings (s : Delivery S) (id : ChannelId) : List ℕ := s.link.openings id

/-- The step opens a channel under this id. -/
def Opens (id : ChannelId) (s : Delivery S) (config : ChannelConfig) : DeliveryAct → Prop
  | .link a => a = .create id config ∧
      (s.link.conn.createConnectionChannel id config).1 = .ok ()
  | _ => False

/-- A payload that is sent fits its channel and the receiver. -/
def Fits (s : Delivery S) (i : ChannelId) (payload : Bytes) : Prop :=
  s.link.Fitting (.send i payload) ∧ payload.length + 1 ≤ defaultMaxReliableFrameLen

/-- The step is free of faults, a payload fits, and the id is that of ordered channels only. -/
structure Healthy (id : ChannelId) (s : Delivery S) (a : DeliveryAct) : Prop where
  fitting : ∀ b, a = .link b → s.link.Fitting b
  fits : ∀ i p, a = .link (.send i p) → s.Fits i p
  ordered : ∀ config, Opens id s config a → ∃ m, config = .orderedReliable m

/-- A channel is opened under this id only when everything accepted under it was enqueued. -/
def Settled (id : ChannelId) (s : Delivery S) (a : DeliveryAct) : Prop :=
  ∀ config, Opens id s config a → s.enqueuedFor id = s.acceptedFor id

/-- What the receiver makes of an id: each payload came on the stream of a channel opened under it,
each of these streams is in order, and together they are for what was accepted under the id. -/
structure OrderedPerOpening (id : ChannelId) (s : Delivery S) : Prop where
  opened : ∀ e ∈ s.enqueued, e.channelId = id → ∃ h ∈ s.openings id, e.stream = some (.channel h)
  inOrder : ∀ h ∈ s.openings id, s.enqueuedOn id (.channel h) <+: s.acceptedBy h
  accepted : s.acceptedFor id = (s.openings id).flatMap s.acceptedBy

/-! ## The invariant -/

variable {s s' : Delivery S} {a : DeliveryAct} {id : ChannelId}

/-- What has come on this stream, as the receiving task handed it on. -/
def emittedOn (enqueued : List Incoming) (i : StreamId) : List (ChannelId × Bytes) :=
  (enqueued.filter (·.stream = some i)).map fun e ↦ (e.channelId, e.payload)

structure Inv (id : ChannelId) (s : Delivery S) : Prop where
  streaming : s.link.Streaming
  limit : ∀ msg ∈ s.link.conn.toChannels.sent, ∀ p ∈ s.acceptedBy msg.queues,
    p.length + 1 ≤ defaultMaxReliableFrameLen
  ordered : ∀ msg ∈ s.link.conn.toChannels.sent, msg.id = id → ∃ m, msg.config = .orderedReliable m
  /-- An open channel is the last one that was opened under its id. -/
  current : ∀ c, s.link.conn.slot id = some c → ∃ init, s.openings id = init ++ [c.queues]
  tagged : s.link.Tagged
  arrived : ∀ i, (s.readers i).arrived = [] ∨
    ∃ c ps, s.link.Carries i c ps ∧ (s.readers i).arrived <+: frames c ps
  reached : ∀ i, reliableStreamReceiver.Reached (.new defaultMaxReliableFrameLen)
    (s.readers i).arrived (emittedOn s.enqueued i) (s.readers i).decoder (s.readers i).buffer
  datagrams : ∀ e ∈ s.enqueued, e.stream = none → e.channelId ≠ id

theorem inv_start (specific : S) (cfg : RecvChannelsConfiguration) : Inv id (start specific cfg) where
  streaming := Link.streaming_fresh specific cfg
  limit msg hmsg := by simp [start, Link.fresh, PeerConnection.new, Mpsc.sent] at hmsg
  ordered msg hmsg := by simp [start, Link.fresh, PeerConnection.new, Mpsc.sent] at hmsg
  current c hc := by simp [start, Link.fresh, PeerConnection.new, PeerConnection.slot] at hc
  tagged := nofun
  arrived _ := .inl rfl
  reached _ := .start _
  datagrams _ he := absurd he List.not_mem_nil

/-- The payloads a stream is for are within the receiver's limit. -/
theorem Inv.carries_limit (hs : Inv id s) {i : StreamId} {c : ChannelId} {ps : List Bytes}
    (hi : s.link.Carries i c ps) : ∀ p ∈ ps, p.length + 1 ≤ defaultMaxReliableFrameLen := by
  cases hi with
  | channel hmsg => exact hs.limit _ hmsg
  | message hmsg hc hp =>
    intro p' hp'
    obtain rfl := List.mem_singleton.1 hp'
    exact hs.limit _ hmsg _ hp

/-- **What has come on a stream is the beginning of what it is for.** -/
theorem Inv.emittedOn_le (hs : Inv id s) (i : StreamId) : emittedOn s.enqueued i = [] ∨
    ∃ c ps, s.link.Carries i c ps ∧ emittedOn s.enqueued i <+: ps.map (Prod.mk c) := by
  rcases hs.arrived i with hnil | ⟨c, ps, hi, x, hx⟩
  · left
    have hle := (hs.reached i).emitted_le []
    rw [hnil, List.append_nil, QuinnetProtocolCodecDecoder.new,
      Decoder.drain_more (decode_receiver_nil _)] at hle
    exact List.prefix_nil.1 hle
  · refine .inr ⟨c, ps, hi, ?_⟩
    have hle := (hs.reached i).emitted_le x
    have hdrain := drain_frames (c := c) (hs.carries_limit hi)
      (fun p hp ↦ Nat.lt_of_le_of_lt (hs.carries_limit hi p hp) (by decide)) []
    rw [List.append_nil, Decoder.drain_more (decode_receiver_nil _), List.append_nil] at hdrain
    rwa [hx, QuinnetProtocolCodecDecoder.new, hdrain] at hle

theorem mem_openings {h : ℕ} : h ∈ s.openings id ↔
    ∃ msg ∈ s.link.conn.toChannels.sent, msg.id = id ∧ msg.queues = h := by
  simp only [openings, Link.openings, List.mem_map, List.mem_filter, decide_eq_true_eq, and_assoc]

/-- What comes under the id of ordered channels comes on the stream of one of them. -/
theorem Inv.stream_of_id (hs : Inv id s) {i : StreamId} {ps : List Bytes}
    (hi : s.link.Carries i id ps) :
    ∃ h ∈ s.openings id, i = .channel h ∧ ps = s.acceptedBy h := by
  cases hi with
  | @channel msg m hmsg hc => exact ⟨msg.queues, mem_openings.2 ⟨msg, hmsg, rfl, rfl⟩, rfl, rfl⟩
  | @message msg m k p hmsg hc hp =>
    obtain ⟨m', hc'⟩ := hs.ordered msg hmsg rfl
    cases hc.symm.trans hc'

theorem Inv.link (hs : Inv id s) {a : LinkAct} {l : Link S} (ha : Healthy id s (.link a))
    (hstep : Link.Step s.link a l) :
    Inv id { s with link := l, accepted := s.accepted ++ s.link.accepts a } where
  streaming := hs.streaming.step (ha.fitting a rfl) hstep
  limit := by
    refine hstep.accepted_cases (Q := fun _ p ↦ p.length + 1 ≤ defaultMaxReliableFrameLen)
      hs.streaming.toSound hs.limit fun i p heq c config _ _ ↦ ?_
    subst heq
    exact (ha.fits i p rfl).2
  ordered msg hmsg hid := by
    rcases hstep.creation_cases hs.streaming.toSound with ⟨hsent, -⟩ | ⟨i, config, rfl, hok, hsent, -⟩
    · exact hs.ordered msg (hsent ▸ hmsg) hid
    · rcases List.mem_append.1 (hsent ▸ hmsg) with hmsg | hmsg
      · exact hs.ordered msg hmsg hid
      · obtain rfl := List.mem_singleton.1 hmsg
        obtain rfl : i = id := hid
        exact ha.ordered config ⟨rfl, hok⟩
  current c hc := by
    rcases hstep.openings_cases hs.streaming.toSound id with ⟨hopen, hslot⟩ | ⟨_, -, -, hopen, hslot, -⟩
    · obtain ⟨init, hinit⟩ := hs.current c (hslot c hc)
      exact ⟨init, hopen.trans hinit⟩
    · obtain rfl := Option.some.inj (hslot.symm.trans hc)
      exact ⟨s.openings id, hopen⟩
  tagged := hs.tagged.step hs.streaming.toSound hstep
  arrived i := by
    refine (hs.arrived i).imp_right fun ⟨c, ps, hi, hle⟩ ↦ ?_
    obtain ⟨ps', hi', x, rfl⟩ := hi.step hs.streaming.toSound hstep
    refine ⟨c, _, hi', hle.trans ?_⟩
    rw [frames_append]
    exact List.prefix_append _ _
  reached := hs.reached
  datagrams := hs.datagrams

theorem emittedOn_concat (enqueued : List Incoming) (e : Incoming) (i : StreamId) :
    emittedOn (enqueued ++ [e]) i =
      if e.stream = some i then emittedOn enqueued i ++ [(e.channelId, e.payload)]
      else emittedOn enqueued i := by
  split_ifs with h <;> simp [emittedOn, h]

/-- A receiving task goes on: it has read what it has read, and stands where it stands. -/
theorem Inv.reader (hs : Inv id s) {i : StreamId} {r : Reader} {enqueued : List Incoming}
    (harrived : r.arrived = [] ∨ ∃ c ps, s.link.Carries i c ps ∧ r.arrived <+: frames c ps)
    (hreached : reliableStreamReceiver.Reached (.new defaultMaxReliableFrameLen) r.arrived
      (emittedOn enqueued i) r.decoder r.buffer)
    (hother : ∀ j, j ≠ i → emittedOn enqueued j = emittedOn s.enqueued j)
    (hdatagrams : ∀ e ∈ enqueued, e.stream = none → e ∈ s.enqueued) :
    Inv id { s.withReader i r with enqueued } where
  streaming := hs.streaming
  limit := hs.limit
  ordered := hs.ordered
  current := hs.current
  tagged := hs.tagged
  arrived j := by
    by_cases hj : j = i
    · subst hj
      simpa [withReader] using harrived
    · simpa [withReader, hj] using hs.arrived j
  reached j := by
    by_cases hj : j = i
    · subst hj
      simpa [withReader] using hreached
    · have hsame := hs.reached j
      rw [← hother j hj] at hsame
      simpa [withReader, hj] using hsame
  datagrams e he hnone := hs.datagrams e (hdatagrams e he hnone) hnone

/-- **Every step keeps the invariant.** -/
theorem Inv.step (hs : Inv id s) (ha : Healthy id s a) (hstep : Step s a s') : Inv id s' := by
  cases hstep with
  | link h => exact hs.link ha h
  | @arrive i w chunk hw h =>
    refine hs.reader (r := ⟨_, _, _⟩) (.inr ?_) ((hs.reached i).feed chunk) (fun _ _ ↦ rfl)
      fun e he _ ↦ he
    obtain ⟨c, ps, hi, hle⟩ := hs.streaming.carries hw
    exact ⟨c, ps, hi, h.trans hle⟩
  | @enqueue i c p d buf hroom h =>
    refine hs.reader (r := ⟨_, _, _⟩) (hs.arrived i) ?_ (fun j hj ↦ ?_) fun e he hnone ↦ ?_
    · rw [emittedOn_concat, if_pos rfl]
      exact (hs.reached i).item h
    · rw [emittedOn_concat, if_neg]
      exact fun heq ↦ hj (Option.some.inj heq).symm
    · rcases List.mem_append.1 he with he | he
      · exact he
      · obtain rfl := List.mem_singleton.1 he
        cases hnone
  | @wait i d buf h =>
    exact hs.reader (r := ⟨_, _, _⟩) (hs.arrived i) ((hs.reached i).more h) (fun _ _ ↦ rfl)
      fun e he _ ↦ he
  | @datagram h t d c p hroom ht hd hrecv =>
    refine ⟨hs.streaming, hs.limit, hs.ordered, hs.current, hs.tagged, hs.arrived, fun i ↦ ?_,
      fun e he hnone ↦ ?_⟩
    · rw [emittedOn_concat, if_neg nofun]
      exact hs.reached i
    · rcases List.mem_append.1 he with he | he
      · exact hs.datagrams e he hnone
      · obtain rfl := List.mem_singleton.1 he
        rintro rfl
        obtain ⟨hc, p', rfl⟩ := hs.tagged h t ht d hd
        obtain ⟨rfl, rfl⟩ := Prod.mk.inj (receiveUnreliableMessage_cons hrecv)
        obtain ⟨m, hc'⟩ := hs.ordered _ (hs.streaming.task_sent ht) rfl
        cases hc.symm.trans hc'
  | dequeue => exact { hs with }

/-! ## The lanes of an id -/

/-- What the receiver sees under an id: one lane for each channel that was opened under it. -/
def lanes (id : ChannelId) (s : Delivery S) : Lanes (Option StreamId) Bytes where
  lanes := (s.openings id).map fun h ↦ (some (.channel h), s.acceptedBy h)
  taken := s.acceptedFor id
  delivered := (s.enqueued.filter (·.channelId = id)).map fun e ↦ (e.stream, e.payload)

theorem output_lanes (id : ChannelId) (s : Delivery S) : (s.lanes id).output = s.enqueuedFor id := by
  simp [Lanes.output, lanes, enqueuedFor, Function.comp_def]

theorem deliveredBy_lanes (id : ChannelId) (s : Delivery S) (i : StreamId) :
    (s.lanes id).deliveredBy (some i) = s.enqueuedOn id i := by
  simp [Lanes.deliveredBy, lanes, enqueuedOn, List.filter_map, Function.comp_def, List.filter_filter,
    Bool.and_comm]

theorem keys_lanes (id : ChannelId) (s : Delivery S) :
    (s.lanes id).keys = (s.openings id).map fun h ↦ some (.channel h) := by
  simp [Lanes.keys, lanes, Function.comp_def]

/-- The lanes depend only on what was opened, accepted and enqueued under the id. -/
theorem lanes_congr (hopen : s'.openings id = s.openings id)
    (hby : ∀ h ∈ s.openings id, s'.acceptedBy h = s.acceptedBy h)
    (hfor : s'.acceptedFor id = s.acceptedFor id) (henqueued : s'.enqueued = s.enqueued) :
    s'.lanes id = s.lanes id := by
  rw [lanes, lanes, hopen, hfor, henqueued]
  congr 1
  refine List.map_congr_left fun h hh ↦ ?_
  rw [hby h hh]

theorem Inv.opening_lt (hs : Inv id s) {h : ℕ} (hh : h ∈ s.openings id) :
    h < s.link.conn.created := by
  obtain ⟨msg, hmsg, -, rfl⟩ := mem_openings.1 hh
  exact hs.streaming.conn.msg_lt hmsg

theorem Inv.openings_nodup (hs : Inv id s) : (s.openings id).Nodup := by
  refine (List.filter_sublist.map _).nodup ?_
  rw [hs.streaming.conn.places]
  exact List.nodup_range

/-- The queues of an open channel are among the openings of its own id only. -/
theorem Inv.id_of_current (hs : Inv id s) {i : ChannelId} {c : Channel}
    (hc : s.link.conn.slot i = some c) (hh : c.queues ∈ s.openings id) : i = id := by
  obtain ⟨msg, hmsg, hid, hqueues⟩ := mem_openings.1 hh
  obtain ⟨config, hmsg'⟩ := hs.streaming.conn.slot_msg hc
  obtain rfl := hs.streaming.conn.msg_inj hmsg' hmsg hqueues.symm
  exact hid

/-- The application accepts a payload, or refuses it. -/
theorem Inv.sim_send (hs : Inv id s) {i : ChannelId} {p : Bytes} :
    lanes id { s with
        link.conn := (s.link.conn.internalSendPayload i p).2
        accepted := s.accepted ++ s.link.accepts (.send i p) } = s.lanes id ∨
      Lanes.Step (s.lanes id) .takes (lanes id { s with
        link.conn := (s.link.conn.internalSendPayload i p).2
        accepted := s.accepted ++ s.link.accepts (.send i p) }) := by
  have hopen : ∀ {accepted}, openings { s with
      link.conn := (s.link.conn.internalSendPayload i p).2, accepted } id = s.openings id := by
    intro accepted
    simp only [openings, Link.openings, (PeerConnection.internalSendPayload_frame p).2.1]
  rcases s.link.conn.internalSendPayload_cases (i := i) p with
    ⟨c, hc, -, hok, hqueues⟩ | ⟨-, hok, hqueues⟩
  · have haccepts : s.link.accepts (.send i p) = [(i, p)] := by simp only [Link.accepts, hok]
    rw [haccepts]
    have hother : ∀ h, h ≠ c.queues → acceptedBy { s with
        link.conn := (s.link.conn.internalSendPayload i p).2
        accepted := s.accepted ++ [(i, p)] } h = s.acceptedBy h := fun h hh ↦ by
      simp only [acceptedBy, hqueues, Function.update_of_ne hh]
    by_cases hid : i = id
    · subst hid
      right
      obtain ⟨init, hinit⟩ := hs.current c hc
      have hinit' : ∀ h ∈ init, h ≠ c.queues := fun h hh heq ↦ by
        have hnodup := hs.openings_nodup
        rw [hinit, List.nodup_append] at hnodup
        exact hnodup.2.2 h hh _ List.mem_cons_self heq
      have hlanes : (s.lanes i).lanes = (init.map fun h ↦ (some (.channel h), s.acceptedBy h)) ++
          [(some (.channel c.queues), s.acceptedBy c.queues)] := by simp [lanes, hinit]
      convert Lanes.Step.takes p hlanes using 1
      rw [lanes, hopen, hinit, List.map_append, List.map_congr_left fun h hh ↦ by
        rw [hother h (hinit' h hh)]]
      simp [lanes, acceptedFor, acceptedBy, hqueues]
    · refine .inl (lanes_congr hopen (fun h hh ↦ hother h fun heq ↦ ?_) ?_ rfl)
      · exact hid (hs.id_of_current hc (heq ▸ hh))
      · simp [acceptedFor, hid]
  · have haccepts : s.link.accepts (.send i p) = [] := by
      cases hr : (s.link.conn.internalSendPayload i p).1 with
      | ok => exact absurd hr hok
      | error => simp only [Link.accepts, hr]
    rw [haccepts, List.append_nil]
    refine .inl (lanes_congr hopen (fun h _ ↦ ?_) rfl rfl)
    simp only [acceptedBy, hqueues]

theorem Inv.sim_link (hs : Inv id s) {a : LinkAct} {l : Link S} (hstep : Link.Step s.link a l) :
    lanes id { s with link := l, accepted := s.accepted ++ s.link.accepts a } = s.lanes id ∨
      ∃ b, (b = .opens → ∃ config, Opens id s config (.link a)) ∧ Lanes.Step (s.lanes id) b
        (lanes id { s with link := l, accepted := s.accepted ++ s.link.accepts a }) := by
  by_cases hsend : ∃ i p, a = .send i p
  · obtain ⟨i, p, rfl⟩ := hsend
    cases hstep with
    | send => exact hs.sim_send.imp_right fun h ↦ ⟨_, by rintro ⟨⟩, h⟩
  · have hnone : s.link.accepts a = [] := by
      cases a with
      | send i p => exact absurd ⟨i, p, rfl⟩ hsend
      | _ => rfl
    have hby : ∀ h < s.link.conn.created, (l.conn.queues h).bytes.sent = s.acceptedBy h := by
      intro h hlt
      rcases hstep.queue_cases hlt with ⟨hsent, -⟩ | ⟨i, p, _, rfl, -⟩
      · exact hsent
      · exact absurd ⟨i, p, rfl⟩ hsend
    rw [hnone, List.append_nil]
    rcases hstep.openings_cases hs.streaming.toSound id with
      ⟨hopen, -⟩ | ⟨config, rfl, hok, hopen, -, hnew⟩
    · exact .inl (lanes_congr hopen (fun h hh ↦ hby h (hs.opening_lt hh)) rfl rfl)
    · refine .inr ⟨.opens, fun _ ↦ ⟨config, rfl, hok⟩, ?_⟩
      have hlt : ∀ h ∈ s.openings id, h < s.link.conn.created := fun h hh ↦ hs.opening_lt hh
      have hk : some (.channel s.link.conn.created) ∉ (s.lanes id).keys := by
        rw [keys_lanes]
        intro hmem
        obtain ⟨h, hh, heq⟩ := List.mem_map.1 hmem
        obtain rfl := StreamId.channel.inj (Option.some.inj heq)
        exact Nat.lt_irrefl _ (hlt _ hh)
      convert Lanes.Step.opens hk using 1
      have hopen' : openings { s with link := l } id = s.openings id ++ [s.link.conn.created] := hopen
      rw [lanes, hopen', List.map_append, List.map_congr_left fun h hh ↦ by
        rw [show acceptedBy { s with link := l } h = s.acceptedBy h from hby h (hlt h hh)]]
      simp [lanes, acceptedFor, acceptedBy, hnew]

/-- What does not come under the id does not concern its lanes. -/
theorem lanes_of_ne {link : Link S} {accepted : List (ChannelId × Bytes)}
    {readers : StreamId → Reader} {enqueued : List Incoming} {dispatched : ℕ} {e : Incoming}
    (he : e.channelId ≠ id) : lanes id ⟨link, accepted, readers, enqueued ++ [e], dispatched⟩ =
      lanes id ⟨link, accepted, readers, enqueued, dispatched⟩ := by
  simp [lanes, openings, acceptedFor, acceptedBy, he]

/-- All that has come on the stream of an opening has come under its id. -/
theorem enqueuedOn_eq {i : StreamId} {ps : List Bytes}
    (hle : emittedOn s.enqueued i <+: ps.map (Prod.mk id)) :
    s.enqueuedOn id i = (emittedOn s.enqueued i).map Prod.snd := by
  have hid : ∀ e ∈ s.enqueued, e.stream = some i → e.channelId = id := fun e he hi ↦ by
    have hmem : (e.channelId, e.payload) ∈ emittedOn s.enqueued i :=
      List.mem_map_of_mem (f := fun e ↦ (e.channelId, e.payload))
        (List.mem_filter.2 ⟨he, by simp [hi]⟩)
    obtain ⟨p, -, heq⟩ := List.mem_map.1 (hle.subset hmem)
    exact (congrArg Prod.fst heq).symm
  rw [enqueuedOn, emittedOn, List.map_map]
  congr 1
  refine List.filter_congr fun e he ↦ ?_
  by_cases hi : e.stream = some i
  · simp [hi, hid e he hi]
  · simp [hi]

theorem Inv.sim_enqueue (hs : Inv id s) {i : StreamId} {p : Bytes} {r : Reader}
    (hs' : Inv id { s.withReader i r with enqueued := s.enqueued ++ [⟨some i, id, p⟩] }) :
    Lanes.Step (s.lanes id) .delivers
      (lanes id { s.withReader i r with enqueued := s.enqueued ++ [⟨some i, id, p⟩] }) := by
  have hemitted := emittedOn_concat s.enqueued ⟨some i, id, p⟩ i
  rw [if_pos rfl] at hemitted
  rcases hs'.emittedOn_le i with hnil | ⟨c, ps, hi, hle⟩
  · rw [hemitted] at hnil
    simp at hnil
  · rw [hemitted] at hle
    obtain rfl : c = id := by
      have hmem : (id, p) ∈ ps.map (Prod.mk c) := hle.subset (by simp)
      obtain ⟨p', -, heq⟩ := List.mem_map.1 hmem
      exact congrArg Prod.fst heq
    obtain ⟨h, hh, rfl, rfl⟩ := hs.stream_of_id hi
    have hk : (some (.channel h), s.acceptedBy h) ∈ (s.lanes c).lanes :=
      List.mem_map_of_mem (f := fun h ↦ (some (StreamId.channel h), s.acceptedBy h)) hh
    have hnext : (s.lanes c).deliveredBy (some (.channel h)) ++ [p] <+: s.acceptedBy h := by
      have hold := (List.prefix_append (emittedOn s.enqueued (.channel h)) [(c, p)]).trans hle
      rw [deliveredBy_lanes, enqueuedOn_eq hold]
      have hmap := hle.map Prod.snd
      simpa [Function.comp_def] using hmap
    convert Lanes.Step.delivers hk hnext using 1
    simp [lanes, withReader, openings, acceptedFor, acceptedBy]

/-- **Every step is one of the lanes of an id, or none.** -/
theorem Inv.sim (hs : Inv id s) (ha : Healthy id s a) (hstep : Step s a s') :
    s'.lanes id = s.lanes id ∨
      ∃ b, (b = .opens → ∃ config, Opens id s config a) ∧ Lanes.Step (s.lanes id) b (s'.lanes id) := by
  have hs' := hs.step ha hstep
  cases hstep with
  | link h => exact hs.sim_link h
  | arrive | wait | dequeue => exact .inl rfl
  | @enqueue i c p d buf hroom h =>
    by_cases hc : c = id
    · subst hc
      exact .inr ⟨.delivers, by rintro ⟨⟩, hs.sim_enqueue hs'⟩
    · exact .inl (lanes_of_ne hc)
  | datagram hroom ht hd hrecv =>
    refine .inl (lanes_of_ne ?_)
    exact hs'.datagrams _ (List.mem_append_right _ List.mem_cons_self) rfl

/-- The lanes of an id are lanes in every run. -/
theorem lanes_of_reachable {specific : S} {cfg : RecvChannelsConfiguration}
    {C : Delivery S → DeliveryAct → Prop} {D : Lanes (Option StreamId) Bytes → Lanes.Act → Prop}
    (hr : Reachable Step (fun s a ↦ Healthy id s a ∧ C s a) (start specific cfg) s)
    (hD : ∀ {s a b}, C s a → (b = .opens → ∃ config, Opens id s config a) → D (s.lanes id) b) :
    Reachable Lanes.Step D {} (s.lanes id) :=
  hr.simulates (I := Inv id) (lanes id) (inv_start specific cfg)
    (fun hs ha hstep ↦ hs.step ha.1 hstep) fun hs ha hstep ↦
      (hs.sim ha.1 hstep).imp_right fun ⟨b, hb, h⟩ ↦ ⟨b, hD ha.2 hb, h⟩

/-- **In every run an id is in order for each channel opened under it.** -/
theorem orderedPerOpening_of_reachable {specific : S} {cfg : RecvChannelsConfiguration}
    (hr : Reachable Step (Healthy id) (start specific cfg) s) : OrderedPerOpening id s := by
  have hlanes : (s.lanes id).Sound := Lanes.sound_of_reachable (C := fun _ _ ↦ True)
    (lanes_of_reachable (C := fun _ _ ↦ True) (hr.mono fun h ↦ ⟨h, trivial⟩) fun _ _ ↦ trivial)
  refine ⟨fun e he hid ↦ ?_, fun h hh ↦ ?_, ?_⟩
  · have hmem := hlanes.ofLane (e.stream, e.payload)
      (List.mem_map_of_mem (f := fun e ↦ (e.stream, e.payload))
        (List.mem_filter.2 ⟨he, by simpa using hid⟩))
    rw [keys_lanes] at hmem
    obtain ⟨h, hh, heq⟩ := List.mem_map.1 hmem
    exact ⟨h, hh, heq.symm⟩
  · rw [← deliveredBy_lanes]
    exact hlanes.inOrder (List.mem_map_of_mem
      (f := fun h ↦ (some (StreamId.channel h), s.acceptedBy h)) hh)
  · have htaken := hlanes.taken
    simpa [lanes, List.flatMap_map] using htaken

/-- **An id that is used again only when everything has arrived is in order altogether.** -/
theorem enqueuedFor_isPrefix_of_reachable {specific : S} {cfg : RecvChannelsConfiguration}
    (hr : Reachable Step (fun s a ↦ Healthy id s a ∧ Settled id s a) (start specific cfg) s) :
    s.enqueuedFor id <+: s.acceptedFor id := by
  rw [← output_lanes]
  refine Lanes.output_isPrefix (lanes_of_reachable hr fun {s a b} hsettled hopens ↦ ?_)
  cases b with
  | opens =>
    obtain ⟨config, hopens⟩ := hopens rfl
    exact (output_lanes id s).trans (hsettled config hopens)
  | _ => trivial

end Delivery

end BevyIroh
