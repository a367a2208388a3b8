import BevyIroh.Shared.RecvChannels

/-!
# Traffic statistics

A connection counts the bytes it sends, and the bytes and messages it receives.  `Traffic` keeps next
to the connection what the counters are about: the payloads whose send returned `Ok`, and those that
were dequeued, since the counter was last cleared.  The counters are `Exact` when they say the same.

Everything else that is done to a connection, by the application and by the tasks, leaves its
statistics alone; in a run it is the action `other`.

What is received is counted when it has been dequeued, and these counters are always exact.  But a send
is counted before the queue of the channel has been asked.  If the queue refuses the payload the counter
is ahead of what was sent: `stats_exact_iff`.
-/

set_option autoImplicit false

namespace BevyIroh

open Transition PeerConnection

/-- A connection, and what has moved on it. -/
structure Traffic (S : Type) where
  conn : PeerConnection S
  /-- The payloads whose send returned `Ok` since `sentBytesCount` was cleared. -/
  sent : List Bytes
  /-- The payloads dequeued since `receivedBytesCount` was cleared. -/
  received : List Bytes
  /-- The payloads dequeued since `receivedMessagesCount` was cleared. -/
  messages : List Bytes

/-- The bytes of several payloads. -/
def bytesCount (payloads : List Bytes) : ℕ := (payloads.map List.length).sum

@[simp] theorem bytesCount_nil : bytesCount [] = 0 := rfl

@[simp] theorem bytesCount_concat (payloads : List Bytes) (payload : Bytes) :
    bytesCount (payloads ++ [payload]) = bytesCount payloads + payload.length := by
  simp [bytesCount]

namespace Traffic

variable {S : Type}

def start (conn : PeerConnection S) : Traffic S where
  conn := conn
  sent := []
  received := []
  messages := []

/-! ## Runs -/

def send (t : Traffic S) (channelId : ChannelId) (payload : Bytes) : Traffic S :=
  { t with
    conn := (t.conn.internalSendPayload channelId payload).2
    sent := if (t.conn.internalSendPayload channelId payload).1 = .ok () then t.sent ++ [payload]
      else t.sent }

def dequeue (t : Traffic S) : Traffic S :=
  match t.conn.dequeueUndispatchedBytesFromPeer with
  | none => t
  | some ((_, payload), conn) =>
    { t with conn, received := t.received ++ [payload], messages := t.messages ++ [payload] }

/-- The statistics are given out by `stats_mut`. -/
def withStats (t : Traffic S) (stats : ConnectionStats) : Traffic S :=
  { t with conn := { t.conn with stats } }

inductive Action where
  | send (channelId : ChannelId) (payload : Bytes)
  | dequeue
  | clearSentBytesCount
  | clearReceivedBytesCount
  | clearReceivedMessagesCount
  | reset
  /-- Channels are opened and closed, payloads arrive and are stored, tasks receive and end. -/
  | other
deriving DecidableEq, Repr

inductive Step : Traffic S → Action → Traffic S → Prop
  /-- The length of a payload is a `usize`. -/
  | send (t : Traffic S) (channelId : ChannelId) {payload : Bytes} (hlen : payload.length < 2 ^ 64) :
      Step t (.send channelId payload) (t.send channelId payload)
  | dequeue (t : Traffic S) : Step t .dequeue t.dequeue
  | clearSentBytesCount (t : Traffic S) :
      Step t .clearSentBytesCount
        { t.withStats t.conn.stats.clearSentBytesCount.2 with sent := [] }
  | clearReceivedBytesCount (t : Traffic S) :
      Step t .clearReceivedBytesCount
        { t.withStats t.conn.stats.clearReceivedBytesCount.2 with received := [] }
  | clearReceivedMessagesCount (t : Traffic S) :
      Step t .clearReceivedMessagesCount
        { t.withStats t.conn.stats.clearReceivedMessagesCount.2 with messages := [] }
  | reset (t : Traffic S) : Step t .reset (start { t.conn with stats := t.conn.stats.reset })
  | other {t : Traffic S} {conn : PeerConnection S} (h : conn.stats = t.conn.stats) :
      Step t .other { t with conn }

/-- The totals of what has moved are below `2 ^ 64`. -/
structure Fits (t : Traffic S) : Prop where
  sent : bytesCount t.sent < 2 ^ 64
  received : bytesCount t.received < 2 ^ 64
  messages : t.messages.length < 2 ^ 64

/-- A step after which the totals still fit their counters. -/
def FittingStep (t : Traffic S) (a : Action) (t' : Traffic S) : Prop := Step t a t' ∧ t'.Fits

/-- The counters say what has moved. -/
structure Exact (t : Traffic S) : Prop where
  sent : t.conn.stats.sentBytesCount = bytesCount t.sent
  received : t.conn.stats.receivedBytesCount = bytesCount t.received
  messages : t.conn.stats.receivedMessagesCount = t.messages.length

/-- Those for what was received do. -/
structure ReceivedExact (t : Traffic S) : Prop where
  received : t.conn.stats.receivedBytesCount = bytesCount t.received
  messages : t.conn.stats.receivedMessagesCount = t.messages.length

theorem Exact.receivedExact {t : Traffic S} (h : t.Exact) : t.ReceivedExact := ⟨h.received, h.messages⟩

/-- A send that returns an error changes no counter. -/
def ErrCountsNothing (t : Traffic S) (a : Action) : Prop :=
  ∀ channelId payload, a = .send channelId payload →
    (t.conn.internalSendPayload channelId payload).1 ≠ .ok () →
    (t.send channelId payload).conn.stats = t.conn.stats

/-- A payload that is not empty, sent on an open channel, finds room in its queue and a task that
listens. -/
def QueueTakes (t : Traffic S) (a : Action) : Prop :=
  ∀ channelId payload c, a = .send channelId payload → payload ≠ [] →
    t.conn.slot channelId = some c → (t.conn.queues c.queues).bytes.Ready

/-! ## The other steps -/

variable {t t' : Traffic S} {a : Action}

theorem stats_internalCloseChannel (s : PeerConnection S) (id : ChannelId) :
    (s.internalCloseChannel id).2.stats = s.stats := by
  rw [internalCloseChannel]
  split
  · simp only
    split <;> rfl
  all_goals rfl

theorem stats_storeReceivedPayload (s : PeerConnection S) (id : ChannelId) (payload : Bytes) :
    (s.storeReceivedPayload id payload).2.stats = s.stats := by
  rw [storeReceivedPayload]
  split <;> split_ifs <;> rfl

theorem stats_internalReceivePayload (s : PeerConnection S) (id : ChannelId) :
    (s.internalReceivePayload id).2.stats = s.stats := by
  rw [internalReceivePayload]
  split <;> rfl

/-- Opening, closing and reading channels, storing and clearing payloads: the other steps. -/
theorem step_other (t : Traffic S) (id : ChannelId) (config : ChannelConfig) (payload : Bytes) :
    Step t .other { t with conn := (t.conn.createConnectionChannel id config).2 } ∧
      Step t .other { t with conn := (t.conn.internalCloseChannel id).2 } ∧
      Step t .other { t with conn := (t.conn.internalReceivePayload id).2 } ∧
      Step t .other { t with conn := (t.conn.storeReceivedPayload id payload).2 } ∧
      Step t .other { t with conn := t.conn.clearStaleReceivedPayloads } := by
  refine ⟨.other (stats_createConnectionChannel _ _ _), .other (stats_internalCloseChannel _ _),
    .other (stats_internalReceivePayload _ _), .other (stats_storeReceivedPayload _ _ _), .other ?_⟩
  rw [clearStaleReceivedPayloads]
  split <;> rfl

/-- Dispatching is a run of its own: it dequeues what it dispatches, and counts nothing else. -/
theorem reachable_dispatch {s s' : PeerConnection S} {ms : List (ChannelId × Bytes)}
    {errs : List RecvChannelError} (h : s.DispatchLoop ms errs s') (ht : t.conn = s) :
    Reachable Step (fun _ _ ↦ True) t
      { t with
        conn := s'
        received := t.received ++ ms.map Prod.snd
        messages := t.messages ++ ms.map Prod.snd } := by
  induction h generalizing t with
  | done =>
    subst ht
    simp only [List.map_nil, List.append_nil]
    exact .start
  | arrive m _ ih =>
    subst ht
    have hfirst : Reachable Step (fun _ _ ↦ True) t { t with conn := t.conn.arrive m } :=
      .next .start trivial (.other rfl)
    exact hfirst.trans (ih rfl)
  | @turn _ s₁ _ m _ _ hd _ ih =>
    subst ht
    have hdequeued : t.dequeue = { t with
        conn := s₁, received := t.received ++ [m.2], messages := t.messages ++ [m.2] } := by
      rw [dequeue, hd]
    have hfirst : Reachable Step (fun _ _ ↦ True) t t.dequeue := .next .start trivial (.dequeue t)
    rw [hdequeued] at hfirst
    have hturn := hfirst.next trivial (.other (stats_storeReceivedPayload s₁ m.1 m.2))
    have hrest := hturn.trans (ih rfl)
    simp only [List.append_assoc, List.singleton_append] at hrest
    exact hrest

/-! ## The counters -/

theorem fits_start (conn : PeerConnection S) : (start conn).Fits :=
  ⟨Nat.two_pow_pos 64, Nat.two_pow_pos 64, Nat.two_pow_pos 64⟩

/-- What a send does to the statistics: the payload is counted as soon as the channel is open. -/
theorem stats_internalSendPayload (s : PeerConnection S) (channelId : ChannelId) (payload : Bytes) :
    (s.internalSendPayload channelId payload).2.stats =
      if (s.slot channelId).isSome then s.stats.sent payload.length else s.stats := by
  have hslot : s.slot channelId = s.sendChannels[channelId.val]?.join := rfl
  rw [internalSendPayload]
  split <;> rename_i h <;> rw [hslot, h]
  · simp only
    split <;> rfl
  · rfl
  · rfl

theorem sent_send_of_ok {channelId : ChannelId} {payload : Bytes}
    (h : (t.conn.internalSendPayload channelId payload).1 = .ok ()) :
    (t.send channelId payload).sent = t.sent ++ [payload] := if_pos h

theorem sent_send_of_err {channelId : ChannelId} {payload : Bytes}
    (h : (t.conn.internalSendPayload channelId payload).1 ≠ .ok ()) :
    (t.send channelId payload).sent = t.sent := if_neg h

/-- A counter that an addition leaves where it is has been given nothing. -/
theorem add_mod_eq_self {m n k : ℕ} (hm : m < k) (hn : n < k) : (m + n) % k = m ↔ n = 0 := by
  rcases Nat.lt_or_ge (m + n) k with hlt | hge
  · rw [Nat.mod_eq_of_lt hlt]
    omega
  · rw [Nat.mod_eq_sub_mod hge, Nat.mod_eq_of_lt (by omega)]
    omega

/-- A send leaves alone what was received. -/
theorem ReceivedExact.send (h : t.ReceivedExact) (channelId : ChannelId) (payload : Bytes) :
    (t.send channelId payload).ReceivedExact := by
  have hstats : (t.send channelId payload).conn.stats = _ :=
    stats_internalSendPayload t.conn channelId payload
  constructor
  · rw [hstats]
    split <;> exact h.received
  · rw [hstats]
    split <;> exact h.messages

/-- **A send keeps the counters exact exactly when the queue takes what has been counted.** -/
theorem exact_send_iff (h : t.Exact) (hfit : t.Fits) {channelId : ChannelId} {payload : Bytes}
    (hlen : payload.length < 2 ^ 64) (hfit' : (t.send channelId payload).Fits) :
    (t.send channelId payload).Exact ↔ t.QueueTakes (.send channelId payload) := by
  have hstats : (t.send channelId payload).conn.stats = _ :=
    stats_internalSendPayload t.conn channelId payload
  obtain ⟨hreceived, hmessages⟩ := h.receivedExact.send channelId payload
  rcases t.conn.internalSendPayload_cases (i := channelId) payload with
    ⟨c, hc, hq, hok, -⟩ | ⟨hnot, herr, -⟩
  · have hsent := sent_send_of_ok hok
    have hsum := hfit'.sent
    rw [hsent, bytesCount_concat] at hsum
    rw [hc, Option.isSome_some, if_pos rfl] at hstats
    refine iff_of_true ⟨?_, hreceived, hmessages⟩ ?_
    · rw [hstats, hsent, bytesCount_concat, ← h.sent]
      exact Nat.mod_eq_of_lt (h.sent ▸ hsum)
    · rintro _ _ c' ⟨⟩ - hc'
      exact Option.some.inj (hc.symm.trans hc') ▸ hq
  · have hsent := sent_send_of_err herr
    rcases hc : t.conn.slot channelId with _ | c <;> rw [hc] at hstats
    · refine iff_of_true ⟨?_, hreceived, hmessages⟩ ?_
      · rw [hstats, hsent]
        exact h.sent
      · rintro _ _ c' ⟨⟩ - hc'
        cases hc.symm.trans hc'
    · rw [Option.isSome_some, if_pos rfl] at hstats
      have hcount : (t.conn.stats.sentBytesCount + payload.length) % 2 ^ 64 =
          t.conn.stats.sentBytesCount ↔ payload.length = 0 :=
        add_mod_eq_self (h.sent ▸ hfit.sent) hlen
      constructor
      · intro h'
        rintro _ _ c' ⟨⟩ hne -
        have heq := h'.sent
        rw [hstats, hsent, ← h.sent] at heq
        exact absurd (List.length_eq_zero_iff.1 (hcount.1 heq)) hne
      · intro hq
        have hnil : payload = [] := by
          by_contra hne
          exact hnot c hc (hq _ _ c rfl hne hc)
        refine ⟨?_, hreceived, hmessages⟩
        rw [hstats, hsent, ← h.sent]
        exact hcount.2 (by rw [hnil]; rfl)

/-- A payload that is dequeued is counted, and nothing is counted when there is none. -/
theorem ReceivedExact.dequeue (h : t.ReceivedExact) (hfit' : t.dequeue.Fits) :
    t.dequeue.ReceivedExact := by
  rw [Traffic.dequeue] at hfit' ⊢
  split at hfit' <;> rename_i hd
  · exact h
  · obtain ⟨q, -, rfl⟩ := dequeue_eq_some.1 hd
    obtain ⟨-, hreceived, hmessages⟩ := hfit'
    rw [bytesCount_concat] at hreceived
    rw [List.length_append, List.length_singleton] at hmessages
    constructor
    · rw [bytesCount_concat, ← h.received]
      exact Nat.mod_eq_of_lt (h.received ▸ hreceived)
    · rw [List.length_append, List.length_singleton, ← h.messages]
      exact Nat.mod_eq_of_lt (h.messages ▸ hmessages)

theorem sent_dequeue (t : Traffic S) :
    t.dequeue.sent = t.sent ∧ t.dequeue.conn.stats.sentBytesCount = t.conn.stats.sentBytesCount := by
  rw [dequeue]
  split <;> rename_i hd
  · exact ⟨rfl, rfl⟩
  · obtain ⟨q, -, rfl⟩ := dequeue_eq_some.1 hd
    exact ⟨rfl, rfl⟩

/-- **Every step keeps the counters of what was received exact.** -/
theorem ReceivedExact.step (h : t.ReceivedExact) (hs : FittingStep t a t') : t'.ReceivedExact := by
  obtain ⟨hs, hfit'⟩ := hs
  cases hs with
  | send channelId hlen => exact h.send channelId _
  | dequeue => exact h.dequeue hfit'
  | clearSentBytesCount => exact ⟨h.received, h.messages⟩
  | clearReceivedBytesCount => exact ⟨rfl, h.messages⟩
  | clearReceivedMessagesCount => exact ⟨h.received, rfl⟩
  | reset => exact ⟨rfl, rfl⟩
  | other hsame =>
    constructor <;> simp only [hsame]
    · exact h.received
    · exact h.messages

/-- **Which steps keep the counters exact**: all but a send whose payload is counted and refused. -/
theorem exact_step_iff (h : t.Exact) (hfit : t.Fits) (hs : FittingStep t a t') :
    t'.Exact ↔ t.QueueTakes a := by
  obtain ⟨hreceived, hmessages⟩ := h.receivedExact.step hs
  obtain ⟨hs, hfit'⟩ := hs
  have hsent : t'.conn.stats.sentBytesCount = bytesCount t'.sent →
      (∀ channelId payload, a ≠ .send channelId payload) → (t'.Exact ↔ t.QueueTakes a) :=
    fun hsent ha ↦ iff_of_true ⟨hsent, hreceived, hmessages⟩ fun i p _ hi ↦ absurd hi (ha i p)
  cases hs with
  | send channelId hlen => exact exact_send_iff h hfit hlen hfit'
  | dequeue =>
    obtain ⟨hlist, hcount⟩ := t.sent_dequeue
    exact hsent (by rw [hlist, hcount, h.sent]) (by simp)
  | clearSentBytesCount | reset => exact hsent rfl (by simp)
  | clearReceivedBytesCount | clearReceivedMessagesCount => exact hsent h.sent (by simp)
  | other hsame => exact hsent (by simp only [hsame]; exact h.sent) (by simp)

/-- Counters that are exact before and after a send that fails have not changed. -/
theorem errCountsNothing_of_exact (h : t.Exact) (h' : t'.Exact) (hs : Step t a t') :
    t.ErrCountsNothing a := by
  rintro channelId payload rfl herr
  cases hs with
  | send _ hlen =>
    have hsent := h'.sent
    have hreceived := h'.received
    have hmessages := h'.messages
    rw [sent_send_of_err herr, ← h.sent] at hsent
    rw [show (t.send channelId payload).received = t.received from rfl, ← h.received] at hreceived
    rw [show (t.send channelId payload).messages = t.messages from rfl, ← h.messages] at hmessages
    rcases hstats : (t.send channelId payload).conn.stats with ⟨r, b, m⟩
    rcases hstats₀ : t.conn.stats with ⟨r₀, b₀, m₀⟩
    rw [hstats, hstats₀] at hsent hreceived hmessages
    obtain rfl : b = b₀ := hsent
    obtain rfl : r = r₀ := hreceived
    obtain rfl : m = m₀ := hmessages
    rfl

/-- **When the traffic statistics count what really moved.**  Along any run with totals below `2 ^ 64`
the two counters of what was received are exact.  All three are, and a send that fails changes none of
them, exactly when no payload that is not empty is sent on an open channel whose queue is full or has
lost its task. -/
theorem stats_exact_iff {specific : S} {bytesFromPeer : Mpsc (ChannelId × Bytes)}
    {closeSend : Broadcast CloseReason} {fromChannels : Mpsc ChannelAsyncMessage}
    {toChannels : Mpsc ChannelSyncMessage} {cfg : RecvChannelsConfiguration}
    {tr : List (Action × Traffic S)}
    (h : Run FittingStep
      (start (.new specific bytesFromPeer closeSend fromChannels toChannels cfg)) tr) :
    Always ReceivedExact
      (start (.new specific bytesFromPeer closeSend fromChannels toChannels cfg)) tr ∧
    ((Always Exact (start (.new specific bytesFromPeer closeSend fromChannels toChannels cfg)) tr ∧
      EachStep ErrCountsNothing
        (start (.new specific bytesFromPeer closeSend fromChannels toChannels cfg)) tr) ↔
    EachStep QueueTakes
      (start (.new specific bytesFromPeer closeSend fromChannels toChannels cfg)) tr) := by
  refine ⟨h.always (P := ReceivedExact) ⟨rfl, rfl⟩ fun hr hs ↦ hr.step hs, ?_⟩
  have hexact := h.always_iff_of_invariant (I := fun t ↦ t.Exact ∧ t.Fits) (P := Exact)
    (C := QueueTakes) ⟨⟨rfl, rfl, rfl⟩, fits_start _⟩ (fun hi ↦ hi.1)
    (fun hi hc hs ↦ ⟨(exact_step_iff hi.1 hi.2 hs).2 hc, hs.2⟩)
    (fun hi hs h' ↦ (exact_step_iff hi.1 hi.2 hs).1 h')
  rw [← hexact]
  exact ⟨fun hal ↦ hal.1, fun hal ↦
    ⟨hal, h.eachStep_of_always hal fun hs hs' hstep ↦ errCountsNothing_of_exact hs hs' hstep.1⟩⟩

/-- A connection with one channel, whose task listens or not. -/
def withChannel (listens : Bool) : PeerConnection Unit :=
  let conn := ((PeerConnection.new () { capacity := 1 } { capacity := 1 } { capacity := 1 }
    { capacity := 1 } {}).createConnectionChannel 0 .unreliable).2
  if listens then conn
  else { conn with queues := Function.update conn.queues 0 (conn.queues 0).dropReceivers }

/-- The channel is opened, and one byte is sent on it. -/
def oneByteSent (listens : Bool) : List (Action × Traffic Unit) :=
  [(.other, start (withChannel listens)), (.send 0 [7], (start (withChannel listens)).send 0 [7])]

theorem run_oneByteSent (listens : Bool) :
    Run FittingStep (start (.new () { capacity := 1 } { capacity := 1 } { capacity := 1 }
      { capacity := 1 } {})) (oneByteSent listens) := by
  have hopened : FittingStep (start (.new () { capacity := 1 } { capacity := 1 } { capacity := 1 }
      { capacity := 1 } {})) .other (start (withChannel listens)) := by
    refine ⟨.other ?_, fits_start _⟩
    cases listens <;> rfl
  refine .cons hopened (.cons ⟨.send _ _ (by decide), ?_⟩ (.nil _))
  cases listens <;> exact ⟨by decide, by decide, by decide⟩

theorem stats_exact_open :
    (((start (withChannel true)).send 0 [7]).conn.stats.sentBytesCount = 1) ∧
      Always Exact (start (.new () { capacity := 1 } { capacity := 1 } { capacity := 1 }
        { capacity := 1 } {})) (oneByteSent true) :=
  ⟨rfl, ((stats_exact_iff (run_oneByteSent true)).2.2
    ⟨by rintro _ _ _ ⟨⟩, by rintro _ _ c ⟨⟩ - ⟨⟩; decide, trivial⟩).1⟩

/-- A byte sent on a channel whose task has ended is counted, although the send returns an error. -/
theorem refused_send_is_counted :
    Run FittingStep (start (.new () { capacity := 1 } { capacity := 1 } { capacity := 1 }
      { capacity := 1 } {})) (oneByteSent false) ∧
      ((withChannel false).internalSendPayload 0 [7]).1 =
        .error (.channelSendError .internalChannelClosed) ∧
      (withChannel false).stats.sentBytesCount = 0 ∧
      ((withChannel false).internalSendPayload 0 [7]).2.stats.sentBytesCount = 1 ∧
      ¬ Always Exact (start (.new () { capacity := 1 } { capacity := 1 } { capacity := 1 }
        { capacity := 1 } {})) (oneByteSent false) ∧
      ¬ EachStep ErrCountsNothing (start (.new () { capacity := 1 } { capacity := 1 }
        { capacity := 1 } { capacity := 1 } {})) (oneByteSent false) := by
  refine ⟨run_oneByteSent false, rfl, rfl, rfl, fun h ↦ ?_, fun h ↦ ?_⟩
  · have hexact := h.2 (.send 0 [7], (start (withChannel false)).send 0 [7]) (by simp [oneByteSent])
    exact absurd hexact.sent (by decide)
  · have hsame := h.2.1 0 [7] rfl (by decide)
    exact absurd (congrArg ConnectionStats.sentBytesCount hsame) (by decide)

end Traffic

end BevyIroh
