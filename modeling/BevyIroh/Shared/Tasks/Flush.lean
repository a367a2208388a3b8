import BevyIroh.Shared.Tasks.Drain

/-!
# Closing a connection

The documentation of `close` promises that a connection closed by a local order waits for all buffered
messages in all its opened channels.  The channel tasks keep that promise: `connection.close` is
called after every one of them has ended, and a task that has ended has flushed its queue.

The spawner does not.  It takes the close order or the next request for a channel, whichever `select!`
picks, and the requests it leaves behind are dropped with everything that was sent on these channels
(`unspawned_channel_lost`).  So what a channel accepted is flushed provided its own request is not
among those left behind: `close_flushes`.
-/

set_option autoImplicit false

namespace BevyIroh

open Transition

/-- The spawner has left its loop. -/
def Spawner.Left : Spawner → Prop
  | .waiting => True
  | .closed => True
  | _ => False

namespace Link

variable {S : Type} {l l' : Link S} {a : LinkAct} {h : ℕ} {t : ChannelTask}

/-- What was accepted on the channel of this message was put on streams, each payload once. -/
def Delivered (l : Link S) (msg : ChannelSyncMessage) : Prop :=
  (l.conn.queues msg.queues).bytes.sent = [] ∨
    ∃ t, l.tasks msg.queues = some t ∧ .createChannel t.id t.config msg.queues = msg ∧
      t.Flushed (l.conn.queues msg.queues).bytes.sent

/-- The request for this channel is not left behind by the spawner with payloads in its queue. -/
def Taken (msg : ChannelSyncMessage) (l : Link S) : LinkAct → Prop
  | .listenClose => msg ∈ l.conn.toChannels.queued → (l.conn.queues msg.queues).bytes.sent = []
  | _ => True

/-- Nothing is sent any more: the connection was ordered to close, or its sync side is gone. -/
def Silent (l : Link S) : Prop := l.conn.closeSend.log ≠ [] ∨ ¬ l.Alive

theorem Silent.step (hs : l.Silent) (hstep : Step l a l') : l'.Silent := by
  cases hstep with
  | create id config ha =>
    refine hs.imp (fun hlog ↦ ?_) fun h ↦ absurd ha h
    by_cases hr : l.conn.toChannels.Ready
    · rwa [(PeerConnection.createConnectionChannel_of_ready hr config).2.1]
    · rwa [PeerConnection.createConnectionChannel_of_not_ready hr]
  | send id payload ha =>
    refine hs.imp (fun hlog ↦ ?_) fun h ↦ absurd ha h
    rwa [(PeerConnection.internalSendPayload_frame payload).2.2.1]
  | closeChannel id ha =>
    refine hs.imp (fun hlog ↦ ?_) fun h ↦ absurd ha h
    rwa [PeerConnection.internalCloseChannel_frame.2.1]
  | close receivers reason ha =>
    refine hs.imp (fun hlog ↦ ?_) fun h ↦ absurd ha h
    cases receivers
    · exact hlog
    · exact List.append_ne_nil_of_left_ne_nil hlog _
  | drop ha => exact .inr (by simp [Alive, PeerConnection.drop, Mpsc.dropSender])
  | owner hconn =>
    rw [Silent, Alive, hconn.closeSend, hconn.toChannels]
    exact hs
  | listenCreate hlisten hq =>
    refine hs.imp_right fun ha h ↦ ha ?_
    rwa [Alive, ← Mpsc.sender_of_recv hq]
  | _ => exact hs

/-- The spawner leaves its loop by the close order, or when the sync side is gone. -/
theorem Step.spawner_cases (hstep : Step l a l') (hleft : l'.spawner.Left) :
    l.spawner.Left ∨ (l'.conn = l.conn ∧ ((a = .listenClose ∧ ∃ c r, l.conn.closeSend.recv c = some r) ∨
      l.conn.toChannels.finished = true)) := by
  cases hstep with
  | spawn => exact hleft.elim
  | listenClose hlisten hr => exact .inr ⟨rfl, .inl ⟨rfl, _, _, hr⟩⟩
  | listenEnded hlisten hq => exact .inr ⟨rfl, .inr hq⟩
  | closeConnection hwaiting =>
    left
    rw [hwaiting]
    trivial
  | _ => exact .inl hleft

/-- What holds along a run that does not leave the request `msg` behind. -/
structure Closing (msg : ChannelSyncMessage) (l : Link S) : Prop where
  silent : l.spawner.Left → l.Silent
  taken : l.spawner.Left → msg ∈ l.conn.toChannels.queued →
    (l.conn.queues msg.queues).bytes.sent = []
  done : l.spawner = .closed → ∀ h t, l.tasks h = some t → t.Done

variable {msg : ChannelSyncMessage}

theorem Closing.silent_step (hc : l.Closing msg) (hs : l.Sound) (hstep : Step l a l')
    (hleft : l'.spawner.Left) : l'.Silent := by
  rcases hstep.spawner_cases hleft with h | ⟨hconn, ⟨-, c, r, hr⟩ | hfinished⟩
  · exact (hc.silent h).step hstep
  · rw [Silent, Alive, hconn]
    refine (Broadcast.log_ne_nil_of_recv hr).imp_right fun hsender ↦ ?_
    simp [hs.conn.closeSender hsender]
  · right
    rw [Alive, hconn]
    simpa using (Bool.and_eq_true_iff.1 hfinished).2

/-- A message that waits was waiting before, or asks for a channel with new queues. -/
theorem Step.queued_cases (hs : l.Sound) (hstep : Step l a l')
    (hmsg : msg ∈ l'.conn.toChannels.queued) :
    msg ∈ l.conn.toChannels.queued ∨ (l'.conn.queues msg.queues).bytes.sent = [] := by
  cases hstep with
  | create id config ha =>
    by_cases hr : l.conn.toChannels.Ready
    · simp only [(PeerConnection.createConnectionChannel_of_ready hr config).1, Mpsc.push] at hmsg
      refine (List.mem_append.1 hmsg).imp_right fun hmsg ↦ ?_
      rw [List.mem_singleton.1 hmsg]
      simp only [ChannelSyncMessage.queues, hs.conn.queues_create_new hr]
      rfl
    · rw [PeerConnection.createConnectionChannel_of_not_ready hr] at hmsg
      exact .inl hmsg
  | send id payload ha =>
    left
    rwa [(PeerConnection.internalSendPayload_frame payload).2.1] at hmsg
  | closeChannel id ha =>
    left
    rwa [PeerConnection.internalCloseChannel_frame.1] at hmsg
  | close receivers reason ha => cases receivers <;> exact .inl hmsg
  | owner hconn =>
    left
    rwa [hconn.toChannels] at hmsg
  | listenCreate hlisten hq =>
    obtain ⟨rest, hqueued, rfl⟩ := Mpsc.recv_eq_some.1 hq
    left
    rw [hqueued]
    exact List.mem_cons_of_mem _ hmsg
  | _ => exact .inl hmsg

theorem Closing.taken_step (hc : l.Closing msg) (hs : l.Sound) (ha : l.Healthy a)
    (htaken : l.Taken msg a) (hstep : Step l a l') (hleft : l'.spawner.Left)
    (hmsg : msg ∈ l'.conn.toChannels.queued) : (l'.conn.queues msg.queues).bytes.sent = [] := by
  rcases hstep.queued_cases hs hmsg with hmsg | hnew
  · have hlt := hs.conn.msg_lt (List.mem_append_right _ hmsg)
    rcases hstep.spawner_cases hleft with h | ⟨hconn, ⟨rfl, -⟩ | hfinished⟩
    · rcases hstep.queue_cases hlt with ⟨hsent, -⟩ | ⟨id, p, c, rfl, halive, -⟩
      · exact hsent.trans (hc.taken h hmsg)
      · -- the spawner has left its loop, so nothing is sent
        exact absurd halive ((hc.silent h).resolve_left (absurd ha.1))
    · rw [hconn]
      exact htaken hmsg
    · have hnil := List.isEmpty_iff.1 (Bool.and_eq_true_iff.1 hfinished).1
      rw [hnil] at hmsg
      cases hmsg
  · exact hnew

end Link

/-! ## Ended tasks stay ended -/

theorem MessageStep.phase_ne_ended {encoder : QuinnetProtocolCodecEncoder} {mt mt' : MessageTask}
    {q q' : Mpsc ChannelAsyncMessage} {fault : Bool} (hstep : MessageStep encoder mt q fault mt' q') :
    mt.phase ≠ .ended := by
  intro h
  cases hstep <;> simp_all

namespace Link

variable {S : Type} {l l' : Link S} {a : LinkAct} {msg : ChannelSyncMessage}

theorem Closing.done_step (hc : l.Closing msg) (hstep : Step l a l') (hclosed : l'.spawner = .closed) :
    ∀ h t, l'.tasks h = some t → t.Done := by
  cases hstep with
  | closeConnection hwaiting hdone => exact hdone
  | spawn | listenClose | listenEnded => cases hclosed
  | listenCreate hlisten hq =>
    simp only [spawnTask, hlisten] at hclosed
    cases hclosed
  | task ht hstep => exact absurd (hc.done hclosed _ _ ht).1 hstep.phase_ne_ended
  | message ht hcfg hm hstep =>
    exact absurd ((hc.done hclosed _ _ ht).2 _ (List.mem_of_getElem? hm)) hstep.phase_ne_ended
  | _ => exact hc.done hclosed

/-- **Closing a connection by a local order flushes a channel whose request was taken.**  On a healthy
connection, in every run in which the spawner does not leave the request `msg` behind while payloads
wait in its queue, what the channel accepted is on streams when `connection.close` is called: each
payload once, and in order if the channel is ordered. -/
theorem close_flushes {specific : S} {cfg : RecvChannelsConfiguration}
    (hr : Reachable Step (fun l a ↦ l.Healthy a ∧ l.Taken msg a) (fresh specific cfg) l)
    (hclosed : l.spawner = .closed) (hmsg : msg ∈ l.conn.toChannels.sent) : l.Delivered msg := by
  obtain ⟨hs, hc⟩ := hr.invariant (P := fun l ↦ l.HealthyInv ∧ l.Closing msg)
    ⟨healthyInv_fresh specific cfg, nofun, nofun, nofun⟩
    fun ⟨hs, hc⟩ ⟨ha, htaken⟩ hstep ↦ ⟨hs.step ha hstep, hc.silent_step hs.toSound hstep,
      hc.taken_step hs.toSound ha htaken hstep, hc.done_step hstep⟩
  rcases List.mem_append.1 hmsg with hreceived | hqueued
  · obtain ⟨t, ht⟩ := Option.isSome_iff_exists.1 (hs.msg_task hreceived)
    refine .inr ⟨t, ht, hs.conn.msg_inj (hs.task_sent ht) hmsg rfl, ?_⟩
    exact hs.flushed ht (hc.done hclosed _ _ ht)
  · exact .inl (hc.taken (hclosed ▸ trivial) hqueued)

/-- One channel with one payload on it. -/
def onePayload : Link Unit :=
  let created := ((fresh () {}).conn.createConnectionChannel 0 (.orderedReliable 4)).2
  { conn := (created.internalSendPayload 0 [7]).2, spawner := .absent, tasks := fun _ ↦ none }

theorem reachable_onePayload :
    Reachable Step (fun l a ↦ l.Healthy a ∧ a ≠ .listenClose) (fresh () {}) onePayload := by
  have hcreated : Reachable Step (fun l a ↦ l.Healthy a ∧ a ≠ .listenClose) (fresh () {}) _ :=
    Reachable.start.next ⟨by trivial, by nofun⟩ (.create _ 0 (.orderedReliable 4) rfl)
  refine hcreated.next ⟨?_, by nofun⟩ (.send _ 0 [7] rfl)
  refine ⟨rfl, fun c config hc hmsg ↦ ?_⟩
  obtain rfl : (⟨0, 0⟩ : Channel) = c := Option.some.inj hc
  obtain rfl : ChannelConfig.orderedReliable 4 = config := by
    have heq := List.mem_singleton.1 hmsg
    injection heq with _ heq
    exact heq.symm
  show 1 ≤ 4
  decide

/-- The task of that channel, after its end. -/
def oneTask : ChannelTask where
  id := 0
  config := .orderedReliable 4
  closeRecv := 0
  phase := .ended
  sender := finishedWith (frames 0 [[7]])

/-- The request is taken, the task sends the payload that waits, and then the connection is closed. -/
theorem close_flushes_one : ∃ l : Link Unit, l.spawner = .closed ∧
    l.Delivered (.createChannel 0 (.orderedReliable 4) 0) ∧ l.tasks 0 = some oneTask := by
  have hone : Reachable Step
      (fun l a ↦ l.Healthy a ∧ l.Taken (.createChannel 0 (.orderedReliable 4) 0) a) (fresh () {})
      onePayload :=
    reachable_onePayload.mono fun {l a} ⟨ha, hne⟩ ↦ ⟨ha, by cases a <;> trivial⟩
  have hspawned := hone.next ⟨by trivial, by trivial⟩ (.spawn 0 rfl)
  have hcreated := hspawned.next ⟨by trivial, by trivial⟩ (.listenCreate rfl rfl)
  have hopened := hcreated.next ⟨by rfl, by trivial⟩ (.task (h := 0) rfl (.opened rfl rfl))
  have hordered := hopened.next ⟨by rfl, by trivial⟩ (.close _ true .localOrder rfl)
  have hleft := hordered.next ⟨by trivial, by nofun⟩ (.listenClose rfl rfl)
  have hclosed := hleft.next ⟨by rfl, by trivial⟩ (.task (h := 0) rfl (.close rfl rfl))
  have hdrain := hclosed.next ⟨by rfl, by trivial⟩
    (.task (h := 0) rfl (.drain rfl rfl (.ordered rfl rfl)))
  have hwritten := hdrain.next ⟨by rfl, by trivial⟩ (.task (h := 0) rfl
    (.drainSending rfl rfl rfl (.write (n := 6) (by decide) (by decide))))
  have hsent := hwritten.next ⟨by rfl, by trivial⟩
    (.task (h := 0) rfl (.drainSending rfl rfl rfl (.flushed rfl)))
  have hdrained := hsent.next ⟨by rfl, by trivial⟩ (.task (h := 0) rfl (.drained rfl rfl rfl))
  have hended := hdrained.next ⟨by rfl, by trivial⟩ (.task (h := 0) rfl (.finish rfl rfl rfl))
  have hinv := HealthyInv.of_reachable (healthyInv_fresh () {}) (hended.mono And.left)
  have hrun := hended.next ⟨by trivial, by trivial⟩ (.closeConnection rfl fun h t ht ↦ by
    obtain rfl : h = 0 := Nat.lt_one_iff.1 (hinv.task_lt ht)
    obtain rfl : oneTask = t := Option.some.inj ht
    exact ⟨rfl, nofun⟩)
  exact ⟨_, rfl, close_flushes hrun rfl (by decide), rfl⟩

/-- The close order is taken before the request for the channel: the payload is gone with the request,
although the channel was open when the connection was closed. -/
theorem unspawned_channel_lost : ∃ l : Link Unit, Reachable Step Healthy (fresh () {}) l ∧
    l.spawner = .closed ∧ l.conn.slot 0 = some ⟨0, 0⟩ ∧ (l.conn.queues 0).bytes.sent = [[7]] ∧
    ∃ msg ∈ l.conn.toChannels.sent, ¬ l.Delivered msg := by
  have hspawned := (reachable_onePayload.mono And.left).next (by trivial) (.spawn 0 rfl)
  have hordered := hspawned.next (by rfl) (.close _ true .localOrder rfl)
  have hleft := hordered.next (by trivial) (.listenClose rfl rfl)
  have hrun := hleft.next (by trivial) (.closeConnection rfl nofun)
  refine ⟨_, hrun, rfl, rfl, rfl, .createChannel 0 (.orderedReliable 4) 0, by decide, ?_⟩
  rintro (hnil | ⟨t, ht, -⟩)
  · cases hnil
  · cases ht

end Link

end BevyIroh
