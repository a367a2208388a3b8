import BevyIroh.Shared.Tasks.Healthy

/-!
# Closing a channel

What is on the streams of a channel once its tasks have ended: `ChannelTask.Flushed`.  On a healthy
connection that is everything the channel ever accepted (`Link.HealthyInv.flushed`), whatever
made the task end.

Closing a channel fixes what that is.  The slot is empty, so a send under this id is refused until
another channel is opened under it; and the queue has lost its sender, so nothing reaches it any more,
not even then (`Link.Sound.sealedWith_step`).
-/

set_option autoImplicit false

namespace BevyIroh

open Transition

/-- Each payload was put on a stream once, as the frame the encoder makes of it; one after the other
on the only stream of an ordered channel, on a stream of its own by an unordered one.  All streams
are finished, with nothing left in front of them. -/
def ChannelTask.Flushed (t : ChannelTask) (payloads : List Bytes) : Prop :=
  match t.config with
  | .orderedReliable _ => t.sender = finishedWith (frames t.id payloads) ∧ t.messages = []
  | .unorderedReliable _ =>
    t.messages.map (·.sender) = payloads.map fun p ↦ finishedWith (frame t.id p)
  | .unreliable => True

/-- A task that has ended has put what it received on its streams. -/
theorem ChannelTask.Written.flushed {t : ChannelTask} {received : List Bytes}
    (hw : t.Written received) (hdone : t.Done) : t.Flushed received := by
  obtain ⟨hended, hmessages⟩ := hdone
  rw [Flushed]
  rw [Written] at hw
  cases hc : t.config with
  | orderedReliable m =>
    rw [hc] at hw
    obtain ⟨ho, hnil⟩ := hw
    rw [hended] at ho
    generalize t.sender = sender at ho ⊢
    cases ho with
    | ended => exact ⟨rfl, hnil⟩
  | unorderedReliable m =>
    rw [hc] at hw
    obtain ⟨-, hpayloads, hat⟩ := hw
    rw [← hpayloads, List.map_map]
    refine List.map_congr_left fun mt hmt ↦ ?_
    have hmt' := hat mt hmt
    rw [hmessages mt hmt] at hmt'
    show mt.sender = finishedWith (frame t.id mt.payload)
    generalize mt.sender = sender at hmt' ⊢
    cases hmt' with
    | ended => rfl
  | unreliable => trivial

namespace Link

variable {S : Type} {l l' : Link S} {a : LinkAct} {h : ℕ} {id : ChannelId}

/-- **A task that has ended has flushed its queue.** -/
theorem HealthyInv.flushed {t : ChannelTask} (hs : l.HealthyInv) (ht : l.tasks h = some t)
    (hdone : t.Done) : t.Flushed (l.conn.queues h).bytes.sent := by
  have hqueued := hs.drained ht (by rw [hdone.1]; trivial)
  rw [Mpsc.sent, hqueued, List.append_nil]
  exact (hs.task_written ht).flushed hdone

/-- The queue at place `h` has lost its sender and holds `payloads`. -/
structure SealedWith (l : Link S) (h : ℕ) (payloads : List Bytes) : Prop where
  sender : (l.conn.queues h).bytes.sender = false
  sent : (l.conn.queues h).bytes.sent = payloads

/-- A queue that has lost its sender gets nothing any more. -/
theorem Sound.sealedWith_step {payloads : List Bytes} {config : ChannelConfig} (hs : l.Sound)
    (hmsg : .createChannel id config h ∈ l.conn.toChannels.sent) (hq : l.SealedWith h payloads)
    (hstep : Step l a l') : l'.SealedWith h payloads := by
  have hlt : h < l.conn.created := hs.conn.msg_lt hmsg
  rcases hstep.queue_cases hlt with ⟨hsent, hsender⟩ | ⟨_, _, c, -, -, hc, hh, -⟩
  · exact ⟨hsender hq.sender, hsent.trans hq.sent⟩
  · have hopen := (hs.conn.slot_open hc).1
    rw [hh, hq.sender] at hopen
    cases hopen

/-- A slot is filled only by creating a channel under its id. -/
theorem Step.slot_eq_none (hstep : Step l a l') (hcreate : ∀ config, a ≠ .create id config)
    (hslot : l.conn.slot id = none) : l'.conn.slot id = none := by
  cases hstep with
  | create id' config ha =>
    rw [PeerConnection.slot_createConnectionChannel, if_neg, hslot]
    rintro ⟨-, rfl⟩
    exact hcreate config rfl
  | send id' payload ha =>
    rw [PeerConnection.slot, (PeerConnection.internalSendPayload_frame payload).1]
    exact hslot
  | closeChannel id' ha =>
    rw [PeerConnection.slot_internalCloseChannel, hslot]
    exact ite_self _
  | close receivers reason ha => cases receivers <;> exact hslot
  | drop ha => exact PeerConnection.slot_drop
  | owner hconn =>
    rw [PeerConnection.slot, hconn.sendChannels]
    exact hslot
  | _ => exact hslot

/-- What is left of a channel that was closed. -/
theorem closed_of_internalCloseChannel {ch : Channel} {conn : PeerConnection S}
    (hslot : l.conn.slot id = some ch) (hclose : l.conn.internalCloseChannel id = (.ok (), conn)) :
    conn.slot id = none ∧
      SealedWith { l with conn } ch.queues (l.conn.queues ch.queues).bytes.sent := by
  have hslot' := PeerConnection.slot_internalCloseChannel (s := l.conn) (i := id) (j := id)
  rw [hclose, if_pos rfl] at hslot'
  refine ⟨hslot', ?_⟩
  have hget := PeerConnection.slot_eq_some.1 hslot
  rw [PeerConnection.internalCloseChannel, hget] at hclose
  cases hq : ch.close l.conn.queues with
  | error => simp [hq] at hclose
  | ok queues =>
    obtain rfl : _ = conn := by simpa [hq] using hclose
    have hbytes : (queues ch.queues).bytes = (l.conn.queues ch.queues).bytes := by
      rw [Channel.close] at hq
      split at hq
      · obtain rfl := Except.ok.inj hq
        rw [Function.update_self]
      · cases hq
    constructor <;> simp [Channel.drop, ChannelQueues.dropSenders, hbytes]
    rfl

/-- **Closing a channel loses and duplicates nothing.**  On a healthy connection a channel is closed
with success.  From then on no send reaches it: while no other channel is opened under its id every
send is refused, and its queue holds what it had accepted, whatever happens.  The task of its queue is
one for the configuration it was created with.  When that task and the tasks it spawned have ended,
exactly what the channel had accepted was put on its streams, in order and once, and the streams are
finished. -/
theorem close_channel_flushes {specific : S} {cfg : RecvChannelsConfiguration} {l₀ : Link S}
    {ch : Channel} {conn : PeerConnection S}
    (h₀ : Reachable Step Healthy (fresh specific cfg) l₀) (hslot : l₀.conn.slot id = some ch)
    (hclose : l₀.conn.internalCloseChannel id = (.ok (), conn)) :
    ∃ config, .createChannel id config ch.queues ∈ l₀.conn.toChannels.sent ∧
      (∀ l, Reachable Step (fun _ a ↦ ∀ config, a ≠ .create id config) { l₀ with conn } l →
        ∀ p, (l.conn.internalSendPayload id p).1 ≠ .ok ()) ∧
      ∀ l, Reachable Step Healthy { l₀ with conn } l →
        (l.conn.queues ch.queues).bytes.sent = (l₀.conn.queues ch.queues).bytes.sent ∧
        ∀ t, l.tasks ch.queues = some t →
          t.id = id ∧ t.config = config ∧
            (t.Done → t.Flushed (l₀.conn.queues ch.queues).bytes.sent) := by
  have hinv₀ := HealthyInv.of_reachable (healthyInv_fresh specific cfg) h₀
  obtain ⟨hempty, hsealed⟩ := closed_of_internalCloseChannel hslot hclose
  obtain ⟨config, hmsg₀⟩ := hinv₀.conn.slot_msg hslot
  have halive : l₀.Alive := by
    by_contra ha
    rw [hinv₀.conn.dropped (by simpa [Alive] using ha) id] at hslot
    cases hslot
  have hstep₀ : Step l₀ (.closeChannel id) { l₀ with conn } := by
    have hstep := Step.closeChannel l₀ id halive
    rwa [hclose] at hstep
  refine ⟨config, hmsg₀, fun l hl p hok ↦ ?_, fun l hl ↦ ?_⟩
  · have hnone : l.conn.slot id = none :=
      hl.invariant hempty fun hnone hc hstep ↦ hstep.slot_eq_none hc hnone
    obtain ⟨c, hc, -⟩ := PeerConnection.internalSendPayload_eq_ok.1 hok
    rw [hnone] at hc
    cases hc
  · obtain ⟨hinv, hmsg, hsealed⟩ := hl.invariant
      (P := fun l ↦ l.HealthyInv ∧ .createChannel id config ch.queues ∈ l.conn.toChannels.sent ∧
        l.SealedWith ch.queues (l₀.conn.queues ch.queues).bytes.sent)
      ⟨hinv₀.step (a := .closeChannel id) trivial hstep₀, (hstep₀.sent_prefix hinv₀.toSound).subset hmsg₀, hsealed⟩
      fun hl ha hstep ↦ ⟨hl.1.step ha hstep, (hstep.sent_prefix hl.1.toSound).subset hl.2.1,
        hl.1.sealedWith_step hl.2.1 hl.2.2 hstep⟩
    refine ⟨hsealed.sent, fun t ht ↦ ?_⟩
    have heq := hinv.conn.msg_inj (hinv.task_sent ht) hmsg rfl
    injection heq with hid hconfig
    refine ⟨hid, hconfig, fun hdone ↦ ?_⟩
    rw [← hsealed.sent]
    exact hinv.flushed ht hdone

/-- An ordered and an unordered channel, with two payloads on each. -/
def twoChannels : Link Unit :=
  let ordered := ((fresh () {}).conn.createConnectionChannel 0 (.orderedReliable 4)).2
  let created := (ordered.createConnectionChannel 1 (.unorderedReliable 4)).2
  let first := ((created.internalSendPayload 0 [7]).2.internalSendPayload 0 [8, 9]).2
  let conn := ((first.internalSendPayload 1 [1]).2.internalSendPayload 1 [2, 3]).2
  { conn, spawner := .absent, tasks := fun _ ↦ none }

theorem reachable_twoChannels : Reachable Step Healthy (fresh () {}) twoChannels := by
  have hordered : Reachable Step Healthy (fresh () {}) _ :=
    Reachable.start.next (by trivial) (.create _ 0 (.orderedReliable 4) rfl)
  have hcreated := hordered.next (by trivial) (.create _ 1 (.unorderedReliable 4) rfl)
  have hhealthy : ∀ {l : Link Unit} {id p}, l.conn.closeSend.log = [] → l.conn.toChannels.sent =
      [.createChannel 0 (.orderedReliable 4) 0, .createChannel 1 (.unorderedReliable 4) 1] →
      p.length ≤ 4 → l.Healthy (.send id p) := fun {l id p} hlog hsent hp ↦ by
    refine ⟨hlog, fun c config _ hmsg ↦ ?_⟩
    rw [hsent] at hmsg
    rcases List.mem_pair.1 hmsg with heq | heq <;> injection heq with _ heq <;> subst heq <;> exact hp
  have hfirst := hcreated.next (hhealthy rfl rfl (by decide)) (.send _ 0 [7] rfl)
  have hsecond := hfirst.next (hhealthy rfl rfl (by decide)) (.send _ 0 [8, 9] rfl)
  have hthird := hsecond.next (hhealthy rfl rfl (by decide)) (.send _ 1 [1] rfl)
  exact hthird.next (hhealthy rfl rfl (by decide)) (.send _ 1 [2, 3] rfl)

/-- The ordered channel is closed while its first payload is on its way: the second one follows it on
the same stream.  Of the unordered channel the second payload is taken after the close, and gets a
stream of its own. -/
theorem close_channel_flushes_both :
    (∃ l t, Reachable Step Healthy
        { twoChannels with conn := (twoChannels.conn.internalCloseChannel 0).2 } l ∧
      l.tasks 0 = some t ∧ t.Done ∧ t.config = .orderedReliable 4 ∧ t.Flushed [[7], [8, 9]]) ∧
    ∃ l t, Reachable Step Healthy
        { twoChannels with conn := (twoChannels.conn.internalCloseChannel 1).2 } l ∧
      l.tasks 1 = some t ∧ t.Done ∧ t.config = .unorderedReliable 4 ∧ t.Flushed [[1], [2, 3]] := by
  constructor
  · have hstart : Reachable Step Healthy
        { twoChannels with conn := (twoChannels.conn.internalCloseChannel 0).2 } _ := .start
    have hspawned := hstart.next (by trivial) (.spawn 0 rfl)
    have hcreated := hspawned.next (by trivial) (.listenCreate rfl rfl)
    have hopened := hcreated.next (by rfl) (.task (h := 0) rfl (.opened rfl rfl))
    have htaken := hopened.next (by rfl) (.task (h := 0) rfl (.recv rfl rfl (.ordered rfl rfl)))
    have hpart := htaken.next (by rfl)
      (.task (h := 0) rfl (.sending rfl rfl rfl (.write (n := 2) (by decide) (by decide))))
    have hclosed := hpart.next (by rfl) (.task (h := 0) rfl (.channelClose rfl rfl))
    have hdrain := hclosed.next (by rfl) (.task (h := 0) rfl (.drain rfl rfl (.ordered rfl rfl)))
    have hwritten := hdrain.next (by rfl)
      (.task (h := 0) rfl (.drainSending rfl rfl rfl (.write (n := 11) (by decide) (by decide))))
    have hsent := hwritten.next (by rfl)
      (.task (h := 0) rfl (.drainSending rfl rfl rfl (.flushed rfl)))
    have hdrained := hsent.next (by rfl) (.task (h := 0) rfl (.drained rfl rfl rfl))
    have hrun := hdrained.next (by rfl) (.task (h := 0) rfl (.finish rfl rfl rfl))
    have hslot : twoChannels.conn.slot 0 = some ⟨0, 0⟩ := rfl
    obtain ⟨config, -, -, hafter⟩ := close_channel_flushes reachable_twoChannels hslot rfl
    refine ⟨_, _, hrun, rfl, ⟨rfl, ?_⟩, rfl, ((hafter _ hrun).2 _ rfl).2.2 ⟨rfl, ?_⟩⟩ <;>
      exact fun mt hmt ↦ absurd hmt List.not_mem_nil
  · have hstart : Reachable Step Healthy
        { twoChannels with conn := (twoChannels.conn.internalCloseChannel 1).2 } _ := .start
    have hspawned := hstart.next (by trivial) (.spawn 0 rfl)
    have hother := hspawned.next (by trivial) (.listenCreate rfl rfl)
    have hcreated := hother.next (by trivial) (.listenCreate rfl rfl)
    have htaken := hcreated.next (by rfl) (.task (h := 1) rfl (.recv rfl rfl (.unordered rfl)))
    have hclosed := htaken.next (by rfl) (.task (h := 1) rfl (.channelClose rfl rfl))
    have hdrain := hclosed.next (by rfl) (.task (h := 1) rfl (.drain rfl rfl (.unordered rfl)))
    have hended := hdrain.next (by rfl) (.task (h := 1) rfl (.drainedEnd (by rintro _ ⟨⟩) rfl rfl))
    have hfirst := hended.next (by rfl) (.message (h := 1) (k := 0) rfl rfl rfl (.opened rfl))
    have hsecond := hfirst.next (by rfl) (.message (h := 1) (k := 1) rfl rfl rfl (.opened rfl))
    have hwritten := hsecond.next (by rfl) (.message (h := 1) (k := 0) rfl rfl rfl
      (.sending rfl rfl (.write (n := 6) (by decide) (by decide))))
    have hboth := hwritten.next (by rfl) (.message (h := 1) (k := 1) rfl rfl rfl
      (.sending rfl rfl (.write (n := 7) (by decide) (by decide))))
    have hsent := hboth.next (by rfl)
      (.message (h := 1) (k := 0) rfl rfl rfl (.sending rfl rfl (.flushed rfl)))
    have hrun := hsent.next (by rfl)
      (.message (h := 1) (k := 1) rfl rfl rfl (.sending rfl rfl (.flushed rfl)))
    have hslot : twoChannels.conn.slot 1 = some ⟨1, 1⟩ := rfl
    obtain ⟨config, -, -, hafter⟩ := close_channel_flushes reachable_twoChannels hslot rfl
    refine ⟨_, _, hrun, rfl, ⟨rfl, ?_⟩, rfl, ((hafter _ hrun).2 _ rfl).2.2 ⟨rfl, ?_⟩⟩ <;>
      exact fun mt hmt ↦ (List.mem_pair.1 hmt).elim (· ▸ rfl) (· ▸ rfl)

end Link

end BevyIroh
