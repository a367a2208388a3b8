import BevyIroh.Shared.AtRest
import BevyIroh.Shared.Tasks.Work
import Mathlib.Data.Prod.Lex

/-!
# Everything arrives in the end

`BevyIroh.Shared.AtRest` says what has arrived when a connection is at rest.  Here it comes to rest.  As
long as the connection is open and nobody sends anything more, each step that changes something is one
of the spawner or of a task, which leaves them less to do (`BevyIroh.Shared.Tasks.Work`), or one of a
receiving task, which leaves the streams alone and has less of its stream before it, or the application
at the other end takes a payload from the queue, which leaves the receiving tasks alone.  So there are
only finitely many of them, in whatever order they are taken, and when there are none left the
connection is at rest.  If the application takes nothing, the queue may be full before that
(`everything_arrives_in_the_end`).
-/

set_option autoImplicit false

namespace BevyIroh

open FramedRead FramedWrite Transition

/-! ## Streams grow -/

section Steps

variable {close : Broadcast CloseReason} {v v' : TaskView} {fault : Bool} {w : FramedWrite U8}

theorem QuinnetProtocolCodecEncoder.stream_startSend (enc : QuinnetProtocolCodecEncoder)
    (w : FramedWrite U8) (p : Bytes) : (enc.startSend w p).2.stream = w.stream := by
  rw [QuinnetProtocolCodecEncoder.startSend, FramedWrite.startSend]
  split_ifs
  · split <;> rfl
  · rfl

/-- A task takes nothing back from its stream. -/
theorem TaskStep.stream_le (hopening : v.task.phase = .opening → v.task.sender = none)
    (h : TaskStep close v fault v') (hw : v.task.sender = some w) :
    ∃ w', v'.task.sender = some w' ∧ w.stream.bytes <+: w'.stream.bytes := by
  have htakes : ∀ {signals p r t}, v.task.Takes signals p fault r t →
      ∃ w', t.sender = some w' ∧ w.stream.bytes <+: w'.stream.bytes := by
    intro signals p r t ht
    cases ht with
    | ordered hc hw' =>
      obtain rfl := Option.some.inj (hw'.symm.trans hw)
      refine ⟨_, rfl, ?_⟩
      rw [QuinnetProtocolCodecEncoder.stream_startSend]
    | _ => exact ⟨w, hw, List.prefix_rfl⟩
  cases h with
  | opened hc hp => cases hw.symm.trans (hopening hp)
  | @close inner r hp hr =>
    cases r with
    | value reason => cases reason <;> exact ⟨w, hw, List.prefix_rfl⟩
    | _ => exact ⟨w, hw, List.prefix_rfl⟩
  | recv hp hq ht | drain hp hq ht =>
    obtain ⟨w', hw', hle⟩ := htakes ht
    exact ⟨w', hw', hle⟩
  | sending hc hp hw' hprogress | drainSending hc hp hw' hprogress =>
    obtain rfl := Option.some.inj (hw'.symm.trans hw)
    exact ⟨_, rfl, hprogress.stream_le⟩
  | flushWrite hp hw' =>
    obtain rfl := Option.some.inj (hw'.symm.trans hw)
    exact ⟨_, rfl, List.prefix_append _ _⟩
  | flushFailed hp hw' | finish hp hw' =>
    obtain rfl := Option.some.inj (hw'.symm.trans hw)
    exact ⟨_, rfl, List.prefix_rfl⟩
  | _ => exact ⟨w, hw, List.prefix_rfl⟩

/-- The tasks that were spawned stay where they are. -/
theorem TaskStep.messages_le (h : TaskStep close v fault v') : v.task.messages <+: v'.task.messages := by
  have htakes : ∀ {signals p r t}, v.task.Takes signals p fault r t → v.task.messages <+: t.messages := by
    intro signals p r t ht
    cases ht with
    | unordered => exact List.prefix_append _ _
    | _ => exact List.prefix_rfl
  cases h with
  | @close inner r hp hr =>
    cases r with
    | value reason => cases reason <;> exact List.prefix_rfl
    | _ => exact List.prefix_rfl
  | recv hp hq ht | drain hp hq ht =>
    have hle := htakes ht
    exact hle
  | _ => exact List.prefix_rfl

theorem MessageTask.stream_afterSend (t : MessageTask) (w : FramedWrite U8) (r : SendResult Bytes) :
    ∃ w', (t.afterSend w r).sender = some w' ∧ w'.stream.bytes = w.stream.bytes := by
  cases r with
  | pending | done => exact ⟨_, rfl, rfl⟩
  | failed =>
    rw [afterSend]
    split_ifs <;> exact ⟨_, rfl, rfl⟩

theorem MessageStep.stream_le {encoder : QuinnetProtocolCodecEncoder} {t t' : MessageTask}
    {q q' : Mpsc ChannelAsyncMessage} (hopening : t.phase = .opening → t.sender = none)
    (h : MessageStep encoder t q fault t' q') (hw : t.sender = some w) :
    ∃ w', t'.sender = some w' ∧ w.stream.bytes <+: w'.stream.bytes := by
  cases h with
  | opened hp => cases hw.symm.trans (hopening hp)
  | @sending s w₀ w' _ r hp hw' hprogress =>
    obtain rfl := Option.some.inj (hw'.symm.trans hw)
    obtain ⟨w'', hw'', hbytes⟩ := t.stream_afterSend w' r
    exact ⟨w'', hw'', hbytes ▸ hprogress.stream_le⟩
  | signal hp hq =>
    exact ⟨w.finish, by rw [hw]; rfl, List.prefix_rfl⟩
  | openFailed | signalFailed => exact ⟨w, hw, List.prefix_rfl⟩

end Steps

namespace Link

variable {S : Type} {l l' : Link S} {a : LinkAct} {i : StreamId} {w : FramedWrite U8}

/-- A task that opens its stream has none. -/
theorem Streaming.sender_none (hs : l.Streaming) {h : ℕ} {t : ChannelTask} (ht : l.tasks h = some t)
    (hp : t.phase = .opening) : t.sender = none := by
  rcases hs.written ht with hw | ⟨-, hcut⟩
  · rw [ChannelTask.Written] at hw
    split at hw
    · rw [hp] at hw
      generalize t.sender = sender at hw
      cases hw.1
      rfl
    · exact hw.1.2
    · exact hw.1.2
  · cases hcut.ended.symm.trans hp

/-- So it is with a message task. -/
theorem Streaming.message_sender_none (hs : l.Streaming) {h m : ℕ} {t : ChannelTask} {mt : MessageTask}
    (ht : l.tasks h = some t) (hc : t.config = .unorderedReliable m) (hmt : mt ∈ t.messages)
    (hp : mt.phase = .opening) : mt.sender = none := by
  rcases hs.written ht with hw | ⟨-, hcut⟩
  · rw [ChannelTask.Written, hc] at hw
    have hat := hw.2.2 mt hmt
    rw [hp] at hat
    generalize mt.sender = sender at hat
    cases hat
    rfl
  · obtain ⟨m', hc'⟩ := hcut.config
    cases hc.symm.trans hc'

/-- **Nothing is taken back from a stream.** -/
theorem Streaming.stream_le (hs : l.Streaming) (hstep : Step l a l') (hw : l.sender i = some w) :
    ∃ w', l'.sender i = some w' ∧ w.stream.bytes <+: w'.stream.bytes := by
  rcases hstep.task_cases hs.toSound i.queues with ⟨htasks, -⟩ | ⟨msg, hmsg, hh, -, -⟩ |
    ⟨t, v, fault, ht, -, htask, rfl⟩ | ⟨t, k, m, mt, mt', fault, signals, ht, -, hc, hmt, hmessage, rfl⟩
  · refine ⟨w, ?_, List.prefix_rfl⟩
    cases i <;> simp only [StreamId.queues] at htasks <;> rwa [sender, htasks]
  · have hnone := hs.toSound.task_none_of_queued hmsg
    rw [hh] at hnone
    cases i <;> simp only [StreamId.queues] at hnone <;> simp [sender, hnone] at hw
  · cases i with
    | channel h =>
      rw [StreamId.queues] at ht htask ⊢
      have hsender : t.sender = some w := by
        rw [sender, ht] at hw
        exact hw
      obtain ⟨w', hw', hle⟩ := htask.stream_le (fun hp ↦ hs.sender_none ht hp) hsender
      exact ⟨w', by rw [sender_withView, hw'], hle⟩
    | message h k =>
      rw [StreamId.queues] at ht htask ⊢
      refine ⟨w, ?_, List.prefix_rfl⟩
      rw [sender, ht] at hw
      obtain ⟨mt, hmt, hsender⟩ := Option.bind_eq_some_iff.1 hw
      obtain ⟨rest, hrest⟩ : t.messages <+: v.task.messages := htask.messages_le
      have hget : v.task.messages[k]? = some mt := by
        rw [← hrest, List.getElem?_append_left (List.getElem?_eq_some_iff.1 hmt).1]
        exact hmt
      simp [sender, withView, hget, hsender]
  · cases i with
    | channel h =>
      rw [StreamId.queues] at ht ⊢
      rw [sender, ht] at hw
      exact ⟨w, by rw [sender_withView]; exact hw, List.prefix_rfl⟩
    | message h k' =>
      rw [StreamId.queues] at ht ⊢
      rw [sender, ht] at hw
      obtain ⟨mt₀, hmt₀, hsender⟩ := Option.bind_eq_some_iff.1 hw
      by_cases hk : k = k'
      · subst hk
        obtain rfl := Option.some.inj (hmt.symm.trans hmt₀)
        have hopening := hs.message_sender_none ht hc (List.mem_of_getElem? hmt)
        obtain ⟨w', hw', hle⟩ := hmessage.stream_le hopening hsender
        refine ⟨w', ?_, hle⟩
        have hlt := (List.getElem?_eq_some_iff.1 hmt).1
        simp [sender, withView, List.getElem?_set_self hlt, hw']
      · refine ⟨w, ?_, List.prefix_rfl⟩
        have hget : t.messages[k']? = some mt₀ := hmt₀
        simp [sender, withView, List.getElem?_set_ne hk, hget, hsender]

/-- What is left to do for it is done while the connection is open. -/
theorem Step.spawner_listening {closeRecv : Cursor} (hstep : Step l a l') (ha : a.OfTasks)
    (hlisten : l.spawner = .listening closeRecv) (horder : l.conn.closeSend.recv closeRecv = none)
    (halive : l.Alive) : l'.spawner = .listening closeRecv := by
  cases hstep with
  | listenClose hl hr =>
    obtain rfl := Spawner.listening.inj (hl.symm.trans hlisten)
    cases horder.symm.trans hr
  | listenEnded hl hq =>
    rw [Mpsc.finished, halive] at hq
    simp at hq
  | closeConnection hl => cases hl.symm.trans hlisten
  | listenCreate | task | message => exact hlisten
  | _ => exact ha.elim

end Link

/-! ## What there is to do on the way -/

namespace Delivery

variable {S : Type} {s s' : Delivery S} {a : DeliveryAct} {id : ChannelId}

/-- Every receiving task is somewhere in its stream, or at its beginning. -/
def Trailing (s : Delivery S) : Prop := ∀ i, s.readers i = {} ∨
  ∃ w, s.link.sender i = some w ∧ (s.readers i).arrived <+: w.stream.bytes

theorem Trailing.reader (ht : s.Trailing) {i : StreamId} {r : Reader} {enqueued : List Incoming}
    (hr : r = {} ∨ ∃ w, s.link.sender i = some w ∧ r.arrived <+: w.stream.bytes) :
    Trailing { s.withReader i r with enqueued } := by
  intro j
  by_cases hj : j = i
  · subst hj
    simpa [withReader] using hr
  · simpa [withReader, hj] using ht j

/-- A receiving task that has something to hand on has a stream. -/
theorem Trailing.sender_of_item (ht : s.Trailing) {i : StreamId} {m : ChannelId × Bytes}
    {decoder : QuinnetProtocolCodecDecoder} {buffer : Bytes}
    (h : reliableStreamReceiver.decode (s.readers i).decoder (s.readers i).buffer =
      .item m decoder buffer) :
    ∃ w, s.link.sender i = some w ∧ (s.readers i).arrived <+: w.stream.bytes := by
  refine (ht i).resolve_left fun hr ↦ ?_
  rw [hr] at h
  cases (decode_receiver_nil _).symm.trans h

theorem Trailing.step (ht : s.Trailing) (hs : s.link.Streaming) (hstep : Step s a s') :
    s'.Trailing := by
  cases hstep with
  | link h =>
    intro i
    refine (ht i).imp_right fun ⟨w, hw, hle⟩ ↦ ?_
    obtain ⟨w', hw', hgrows⟩ := hs.stream_le h hw
    exact ⟨w', hw', hle.trans hgrows⟩
  | arrive chunk hw h => exact ht.reader (r := ⟨_, _, _⟩) (.inr ⟨_, hw, h⟩)
  | enqueue hroom h => exact ht.reader (r := ⟨_, _, _⟩) (.inr (ht.sender_of_item h))
  | @wait i decoder buffer h =>
    refine ht.reader (r := ⟨_, _, _⟩) ((ht i).imp_left fun hr ↦ ?_)
    rw [hr] at h ⊢
    cases (decode_receiver_nil _).symm.trans h
    rfl
  | datagram | dequeue => exact ht

/-- The streams there are, or will be. -/
def streamIds (s : Delivery S) : Finset StreamId :=
  (s.link.conn.toChannels.sent.flatMap fun msg ↦ (s.link.streamsOf msg).map Prod.fst).toFinset

theorem mem_streamIds {i : StreamId} {c : ChannelId} {ps : List Bytes} (h : s.link.Carrying i c ps) :
    i ∈ s.streamIds := by
  obtain ⟨msg, hmsg, -, hmem⟩ := h
  exact List.mem_toFinset.2 (List.mem_flatMap.2 ⟨msg, hmsg, List.mem_map_of_mem (f := Prod.fst) hmem⟩)

/-- What a receiving task has before it: each byte that is still to arrive, and what is to be made of
those that have. -/
def readerLeft (s : Delivery S) (i : StreamId) : ℕ :=
  2 * ((s.link.sender i).elim 0 (·.stream.bytes.length) - (s.readers i).arrived.length) +
    ((s.readers i).buffer.length + (s.readers i).decoder.weight)

def readersLeft (s : Delivery S) : ℕ := ∑ i ∈ s.streamIds, s.readerLeft i

/-- One receiving task has less before it. -/
theorem readersLeft_lt {i : StreamId} {r : Reader} {enqueued : List Incoming} (hi : i ∈ s.streamIds)
    (hlt : readerLeft { s.withReader i r with enqueued } i < s.readerLeft i) :
    readersLeft { s.withReader i r with enqueued } < s.readersLeft := by
  refine Finset.sum_lt_sum (fun j _ ↦ ?_) ⟨i, hi, hlt⟩
  by_cases hj : j = i
  · rw [hj]
    exact Nat.le_of_lt hlt
  · refine Nat.le_of_eq ?_
    simp [readerLeft, withReader, hj]

/-! ## The way to rest -/

/-- The steps of the spawner, of the tasks and of the receiving tasks in which nothing fails, and those
of the application that takes what has come.  No datagram comes: one that has come may come again. -/
def OfWay : DeliveryAct → Prop
  | .link b => b.Internal
  | .arrive _ | .enqueue _ | .wait _ | .dequeue => True
  | _ => False

/-- A step that changes something. -/
def Advances (s : Delivery S) (a : DeliveryAct) (s' : Delivery S) : Prop := Step s a s' ∧ s' ≠ s

/-- The connection is open: it was not closed or dropped, and its spawner is in its loop. -/
structure Listening (closeRecv : Cursor) (s : Delivery S) : Prop where
  spawner : s.link.spawner = .listening closeRecv
  order : s.link.conn.closeSend.recv closeRecv = none
  alive : s.link.Alive

theorem Listening.step {closeRecv : Cursor} (h : Listening closeRecv s) (ha : OfWay a)
    (hstep : Step s a s') : Listening closeRecv s' := by
  cases hstep with
  | link hl =>
    obtain ⟨hclose, hsender, -⟩ := hl.async_frame ha.ofTasks
    exact ⟨hl.spawner_listening ha.ofTasks h.spawner h.order h.alive, by rw [hclose]; exact h.order,
      hsender.trans h.alive⟩
  | arrive | enqueue | wait | dequeue => exact ⟨h.spawner, h.order, h.alive⟩
  | _ => exact ha.elim

theorem unbroken_of_ofWay (ha : OfWay a) : Unbroken s a := by
  cases a with
  | link b =>
    refine unbroken_link ?_ ?_
    · rintro i p rfl
      exact ha
    · cases b <;> first | exact ha | trivial
  | arrive | enqueue | wait | dequeue => exact unbroken_other (by simp)
  | _ => exact ha.elim

/-- The tasks accept nothing. -/
theorem streamedFor_of_tasks (hs : s.link.Sound) {b : LinkAct} {l : Link S} (h : Link.Step s.link b l)
    (hb : b.OfTasks) (accepted : List (ChannelId × Bytes)) (id : ChannelId) :
    streamedFor id { s with link := l, accepted } = s.streamedFor id := by
  have hsent : l.conn.toChannels.sent = s.link.conn.toChannels.sent := by
    rcases h.creation_cases hs with ⟨hsent, -⟩ | ⟨i, config, rfl, -⟩
    · exact hsent
    · exact hb.elim
  simp only [streamedFor, opened, hsent]
  refine List.flatMap_congr fun msg hmsg ↦ ?_
  have hmem := (List.mem_filter.1 (List.mem_filter.1 hmsg).1).1
  rcases h.queue_cases (hs.conn.msg_lt hmem) with ⟨hqueue, -⟩ | ⟨i, p, c, rfl, -⟩
  · exact hqueue
  · exact hb.elim

theorem streamedFor_step (hs : s.link.Sound) (ha : OfWay a) (hstep : Step s a s') (id : ChannelId) :
    s'.streamedFor id = s.streamedFor id := by
  cases hstep with
  | link h => exact streamedFor_of_tasks hs h ha.ofTasks _ id
  | arrive | enqueue | wait | dequeue => rfl
  | _ => exact ha.elim

/-- What is left to do on the way: for the tasks, for the receiving tasks, and for the application that
takes what has come. -/
def left (s : Delivery S) : ℕ ×ₗ ℕ ×ₗ ℕ :=
  toLex (s.link.left, toLex (s.readersLeft, s.waiting.length))

/-- **A step on the way leaves less to do.** -/
theorem AllKinds.left_lt (hs : AllKinds s) (ht : s.Trailing) (ha : OfWay a) (hstep : Advances s a s') :
    s'.left < s.left := by
  obtain ⟨hstep, hne⟩ := hstep
  cases hstep with
  | link h => exact .left _ _ (h.left_lt hs.streaming.toSound ha.ofTasks)
  | dequeue hw =>
    have hpos := List.length_pos_of_ne_nil hw
    refine .right _ (.right _ ?_)
    simp only [waiting, dequeued, List.length_drop] at hpos ⊢
    omega
  | @arrive i w chunk hw h =>
    refine .right _ (.left _ _ ?_)
    have hchunk : chunk ≠ [] := by
      rintro rfl
      refine hne ?_
      simp [withReader]
    have hlen := h.length_le
    have hpos := List.length_pos_of_ne_nil hchunk
    obtain ⟨c, ps, hi, -⟩ := hs.streaming.carrying hw
    refine readersLeft_lt (r := ⟨_, _, _⟩) (mem_streamIds hi) ?_
    simp only [readerLeft, withReader, Function.update_self, hw, Option.elim, List.length_append] at hlen ⊢
    omega
  | @enqueue i c p decoder buffer hroom h =>
    refine .right _ (.left _ _ ?_)
    have hless := reliableStreamReceiver.progress h
    obtain ⟨w, hw, -⟩ := ht.sender_of_item h
    obtain ⟨c, ps, hi, -⟩ := hs.streaming.carrying hw
    refine readersLeft_lt (mem_streamIds hi) ?_
    simp only [readerLeft, withReader, Function.update_self]
    exact Nat.add_lt_add_left hless _
  | @wait i decoder buffer h =>
    refine .right _ (.left _ _ ?_)
    rcases receiver_more_cases h with ⟨hdecoder, hbuffer⟩ | hless
    · -- the task has not moved
      refine absurd ?_ hne
      rw [hdecoder, hbuffer]
      simp [withReader]
    · have hmoves : s.readers i ≠ {} := by
        intro hr
        rw [hr] at h hless
        cases (decode_receiver_nil _).symm.trans h
        exact Nat.lt_irrefl _ hless
      obtain ⟨w, hw, -⟩ := (ht i).resolve_left hmoves
      obtain ⟨c, ps, hi, -⟩ := hs.streaming.carrying hw
      refine readersLeft_lt (r := ⟨_, _, _⟩) (mem_streamIds hi) ?_
      simp only [readerLeft, withReader, Function.update_self]
      exact Nat.add_lt_add_left hless _
  | _ => exact ha.elim

/-- What holds on the way from a state in which the connection is open. -/
structure OnItsWay (specific : S) (cfg : RecvChannelsConfiguration) (closeRecv : Cursor)
    (s s' : Delivery S) : Prop where
  reachable : Reachable Step Unbroken (start specific cfg) s'
  listening : Listening closeRecv s'
  streamedFor : ∀ id, s'.streamedFor id = s.streamedFor id

section

variable {specific : S} {cfg : RecvChannelsConfiguration} {closeRecv : Cursor} {s₁ : Delivery S}

theorem OnItsWay.step (h : OnItsWay specific cfg closeRecv s s₁) (ha : OfWay a)
    (hstep : Step s₁ a s') : OnItsWay specific cfg closeRecv s s' where
  reachable := h.reachable.next (unbroken_of_ofWay ha) hstep
  listening := h.listening.step ha hstep
  streamedFor id := (streamedFor_step (healthyInv_of_reachable h.reachable).toSound ha hstep id).trans
    (h.streamedFor id)

end

end Delivery

end BevyIroh
