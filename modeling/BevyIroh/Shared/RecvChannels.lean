import BevyIroh.Lib.Ledger
import BevyIroh.Lib.Transition
import BevyIroh.Shared.PeerConnection

/-!
# Receive channels

What a peer sends arrives in one queue for all channels.  Dispatching takes it from there and sorts it
into one buffer for each channel; the buffers are in a vector that grows to the highest channel id
seen, and both their number and their length are limited.  A payload for which there is no room is
dropped, and reported.

The tasks go on putting payloads in the queue while it is emptied, so the loop is given as a relation,
`DispatchLoop`, next to the function that is the loop without such arrivals.  Along any run the
payloads are accounted for by a ledger: `received_payloads_conserved`.
-/

set_option autoImplicit false

namespace BevyIroh

open Transition

/-- Error while receiving payloads on a receive channel. -/
inductive RecvChannelError where
  | recvChannelFull (channelId : ChannelId)
  | maxRecvChannelCountReached (channelId : ChannelId)
deriving DecidableEq, Repr

/-- The channel an error is about. -/
def RecvChannelError.channelId : RecvChannelError → ChannelId
  | .recvChannelFull channelId => channelId
  | .maxRecvChannelCountReached channelId => channelId

namespace PeerConnection

variable {S : Type}

def dequeueUndispatchedBytesFromPeer (self : PeerConnection S) :
    Option ((ChannelId × Bytes) × PeerConnection S) :=
  match self.bytesFromPeer.recv with
  | none => none
  | some ((channelId, payload), bytesFromPeer) =>
    some ((channelId, payload),
      { self with bytesFromPeer, stats := self.stats.received payload.length })

def internalReceivePayload (self : PeerConnection S) (channelId : ChannelId) :
    Option Bytes × PeerConnection S :=
  match self.recvChannelsPayloads[channelId.val]? with
  | some payloads =>
    (payloads.head?, { self with
      recvChannelsPayloads := self.recvChannelsPayloads.set channelId.val payloads.tail })
  | none => (none, self)

/-- Enables or disables `clearStaleReceivedPayloads` on this connection. -/
def setClearStaleReceivedPayloads (self : PeerConnection S) (enable : Bool) : PeerConnection S :=
  { self with recvChannelsCfg.clearStaleReceivedPayloads := enable }

/-- Clears all the received payloads buffers for this connection. -/
def clearReceivedPayloads (self : PeerConnection S) : PeerConnection S :=
  { self with recvChannelsPayloads := self.recvChannelsPayloads.map fun _ ↦ [] }

def clearStaleReceivedPayloads (self : PeerConnection S) : PeerConnection S :=
  if self.recvChannelsCfg.clearStaleReceivedPayloads then self.clearReceivedPayloads else self

/-- The body of the loop: the payload is put in the buffer of its channel, or reported. -/
def storeReceivedPayload (self : PeerConnection S) (channelId : ChannelId) (payload : Bytes) :
    Option RecvChannelError × PeerConnection S :=
  match self.recvChannelsPayloads[channelId.val]? with
  | some payloads =>
    if payloads.length < self.recvChannelsCfg.maxBufferedPayloadsCountPerChannel then
      (none, { self with
        recvChannelsPayloads :=
          self.recvChannelsPayloads.set channelId.val (payloads ++ [payload]) })
    else (some (.recvChannelFull channelId), self)
  | none =>
    if channelId.val < self.recvChannelsCfg.maxReceiveChannelsCount then
      (none, { self with
        recvChannelsPayloads := self.recvChannelsPayloads ++
          List.replicate (channelId.val - self.recvChannelsPayloads.length) [] ++ [[payload]] })
    else (some (.maxRecvChannelCountReached channelId), self)

/-- The loop, for as many turns as there are payloads in the queue. -/
def dispatchLoop : ℕ → PeerConnection S → List RecvChannelError × PeerConnection S
  | 0, self => ([], self)
  | turns + 1, self =>
    match self.dequeueUndispatchedBytesFromPeer with
    | none => ([], self)
    | some ((channelId, payload), self) =>
      let (err, self) := self.storeReceivedPayload channelId payload
      let (errs, self) := dispatchLoop turns self
      (err.toList ++ errs, self)

def dispatchReceivedPayloadsToChannelBuffers (self : PeerConnection S) :
    Except (List RecvChannelError) Unit × PeerConnection S :=
  let (errs, self) := dispatchLoop self.bytesFromPeer.queued.length self
  if errs.isEmpty then (.ok (), self) else (.error errs, self)

/-- A payload arrives in the queue. -/
def arrive (self : PeerConnection S) (message : ChannelId × Bytes) : PeerConnection S :=
  { self with bytesFromPeer := self.bytesFromPeer.push message }

/-- The loop, from any of its turns to its end: the payloads it takes from the queue and the errors it
collects.  More payloads may arrive before any turn. -/
inductive DispatchLoop : PeerConnection S → List (ChannelId × Bytes) → List RecvChannelError →
    PeerConnection S → Prop
  | done {s : PeerConnection S} (hd : s.dequeueUndispatchedBytesFromPeer = none) :
      DispatchLoop s [] [] s
  | arrive {s s' : PeerConnection S} {ms : List (ChannelId × Bytes)} {errs : List RecvChannelError}
      (m : ChannelId × Bytes) (h : DispatchLoop (s.arrive m) ms errs s') : DispatchLoop s ms errs s'
  | turn {s s₁ s' : PeerConnection S} {m : ChannelId × Bytes} {ms : List (ChannelId × Bytes)}
      {errs : List RecvChannelError} (hd : s.dequeueUndispatchedBytesFromPeer = some (m, s₁))
      (h : DispatchLoop (s₁.storeReceivedPayload m.1 m.2).2 ms errs s') :
      DispatchLoop s (m :: ms) ((s₁.storeReceivedPayload m.1 m.2).1.toList ++ errs) s'

/-- The call, with the payloads that its loop takes from the queue and what it returns: the errors of the
loop, if there are any. -/
inductive Dispatches (s : PeerConnection S) :
    List (ChannelId × Bytes) → Except (List RecvChannelError) Unit → PeerConnection S → Prop
  | ok {s' : PeerConnection S} {ms : List (ChannelId × Bytes)} (h : DispatchLoop s ms [] s') :
      Dispatches s ms (.ok ()) s'
  | error {s' : PeerConnection S} {ms : List (ChannelId × Bytes)} {errs : List RecvChannelError}
      (h : DispatchLoop s ms errs s') (hne : errs ≠ []) : Dispatches s ms (.error errs) s'

/-- What the application can do to a connection besides: its settings, its statistics and its queue of
received payloads are open to it. -/
inductive OtherCall : PeerConnection S → PeerConnection S → Prop
  | setClearStaleReceivedPayloads (s : PeerConnection S) (enable : Bool) :
      OtherCall s (s.setClearStaleReceivedPayloads enable)
  | statsMut (s : PeerConnection S) (stats : ConnectionStats) : OtherCall s { s with stats }
  | dequeue {s s' : PeerConnection S} {m : ChannelId × Bytes}
      (hd : s.dequeueUndispatchedBytesFromPeer = some (m, s')) : OtherCall s s'

/-- The payloads waiting to be read on a channel.  A buffer that is not there is empty. -/
def buffer (self : PeerConnection S) (channelId : ChannelId) : List Bytes :=
  self.recvChannelsPayloads[channelId.val]?.getD []

/-! ## What the operations do -/

variable {s s' : PeerConnection S} {c j : ChannelId} {p : Bytes}

theorem buffer_congr (h : s'.recvChannelsPayloads = s.recvChannelsPayloads) :
    s'.buffer = s.buffer := by
  funext j
  rw [buffer, buffer, h]

theorem dequeue_eq_some {m : ChannelId × Bytes} :
    s.dequeueUndispatchedBytesFromPeer = some (m, s') ↔
      ∃ q, s.bytesFromPeer.recv = some (m, q) ∧
        s' = { s with bytesFromPeer := q, stats := s.stats.received m.2.length } := by
  rw [dequeueUndispatchedBytesFromPeer]
  split
  · simp_all
  · rename_i hq
    rw [hq]
    constructor
    · rintro ⟨⟩
      exact ⟨_, rfl, rfl⟩
    · rintro ⟨q, ⟨⟩, rfl⟩
      rfl

/-- Only the queue, and the statistics, change when a payload is taken from it. -/
theorem dequeue_frame {m : ChannelId × Bytes} (h : s.dequeueUndispatchedBytesFromPeer = some (m, s')) :
    s.bytesFromPeer.queued = m :: s'.bytesFromPeer.queued ∧
      s'.bytesFromPeer.received = s.bytesFromPeer.received ++ [m] ∧
      s'.recvChannelsPayloads = s.recvChannelsPayloads ∧ s'.recvChannelsCfg = s.recvChannelsCfg := by
  obtain ⟨q, hq, rfl⟩ := dequeue_eq_some.1 h
  obtain ⟨rest, hrest, rfl⟩ := Mpsc.recv_eq_some.1 hq
  exact ⟨hrest, rfl, rfl, rfl⟩

/-- Of the settings only the one that has a setter changes. -/
theorem OtherCall.frame (h : s.OtherCall s') : ∃ clear,
    s' = { s with
      bytesFromPeer := s'.bytesFromPeer
      stats := s'.stats
      recvChannelsCfg.clearStaleReceivedPayloads := clear } := by
  cases h with
  | setClearStaleReceivedPayloads enable => exact ⟨enable, rfl⟩
  | statsMut stats => exact ⟨s.recvChannelsCfg.clearStaleReceivedPayloads, rfl⟩
  | dequeue hd =>
    obtain ⟨q, -, rfl⟩ := dequeue_eq_some.1 hd
    exact ⟨s.recvChannelsCfg.clearStaleReceivedPayloads, rfl⟩

theorem dequeue_eq_none :
    s.dequeueUndispatchedBytesFromPeer = none ↔ s.bytesFromPeer.queued = [] := by
  rw [dequeueUndispatchedBytesFromPeer, Mpsc.recv]
  cases s.bytesFromPeer.queued <;> simp

theorem buffer_of_set {s' : PeerConnection S} {b : List Bytes}
    (h : s'.recvChannelsPayloads = s.recvChannelsPayloads.set c.val b)
    (hc : c.val < s.recvChannelsPayloads.length) (j : ChannelId) :
    s'.buffer j = if j = c then b else s.buffer j := by
  rw [buffer, h, List.getElem?_set]
  by_cases hj : j = c
  · rw [hj, if_pos rfl, if_pos hc, if_pos rfl, Option.getD_some]
  · rw [if_neg fun h ↦ hj (Fin.ext h.symm), if_neg hj, buffer]

/-- **A payload is put at the end of the buffer of its own channel, or reported** under the id of that
channel; no other buffer changes. -/
theorem storeReceivedPayload_cases (s : PeerConnection S) (c : ChannelId) (p : Bytes) :
    ((s.storeReceivedPayload c p).1 = none ∧
      ∀ j, (s.storeReceivedPayload c p).2.buffer j = s.buffer j ++ if j = c then [p] else []) ∨
    ∃ e : RecvChannelError, e.channelId = c ∧ s.storeReceivedPayload c p = (some e, s) := by
  rw [storeReceivedPayload]
  split
  · rename_i payloads hb
    split_ifs
    · refine .inl ⟨rfl, fun j ↦ ?_⟩
      have hlt : c.val < s.recvChannelsPayloads.length := (List.getElem?_eq_some_iff.1 hb).1
      rw [buffer_of_set rfl hlt]
      split_ifs with hj
      · rw [hj, buffer, hb, Option.getD_some]
      · rw [List.append_nil]
    · exact .inr ⟨_, rfl, rfl⟩
  · rename_i hb
    split_ifs
    · refine .inl ⟨rfl, fun j ↦ ?_⟩
      refine (getD_getElem?_extend (List.getElem?_eq_none_iff.1 hb) [p] [] j.val).trans ?_
      simp only [Fin.val_inj]
      split_ifs with hj
      · rw [hj, buffer, hb]
        rfl
      · rw [List.append_nil, buffer]
    · exact .inr ⟨_, rfl, rfl⟩

theorem storeReceivedPayload_frame (s : PeerConnection S) (c : ChannelId) (p : Bytes) :
    (s.storeReceivedPayload c p).2.bytesFromPeer = s.bytesFromPeer ∧
      (s.storeReceivedPayload c p).2.recvChannelsCfg = s.recvChannelsCfg := by
  rw [storeReceivedPayload]
  split <;> split_ifs <;> exact ⟨rfl, rfl⟩

/-- There are no more buffers than the configuration allows. -/
def BuffersBounded (s : PeerConnection S) : Prop :=
  s.recvChannelsPayloads.length ≤ s.recvChannelsCfg.maxReceiveChannelsCount

theorem BuffersBounded.storeReceivedPayload (h : s.BuffersBounded) (c : ChannelId) (p : Bytes) :
    (s.storeReceivedPayload c p).2.BuffersBounded := by
  rw [PeerConnection.storeReceivedPayload]
  split
  · split_ifs
    · rw [BuffersBounded, List.length_set]
      exact h
    · exact h
  · rename_i hb
    split_ifs with hlt
    · have hle := List.getElem?_eq_none_iff.1 hb
      simp only [BuffersBounded, List.length_append, List.length_replicate, List.length_singleton]
      omega
    · exact h

theorem DispatchLoop.bounded {ms : List (ChannelId × Bytes)} {errs : List RecvChannelError}
    (h : DispatchLoop s ms errs s') :
    s'.recvChannelsCfg = s.recvChannelsCfg ∧ (s.BuffersBounded → s'.BuffersBounded) := by
  induction h with
  | done => exact ⟨rfl, id⟩
  | arrive m _ ih => exact ih
  | @turn s s₁ s' m ms errs hd _ ih =>
    obtain ⟨-, -, hbufs, hcfg⟩ := dequeue_frame hd
    refine ⟨ih.1.trans ((storeReceivedPayload_frame _ _ _).2.trans hcfg), fun hs ↦ ih.2 ?_⟩
    have hs₁ : s₁.BuffersBounded := by
      rw [BuffersBounded, hbufs, hcfg]
      exact hs
    exact hs₁.storeReceivedPayload m.1 m.2

/-- Reading a channel takes the first payload of its buffer. -/
theorem internalReceivePayload_cases (s : PeerConnection S) (c : ChannelId) :
    (s.buffer c = [] ∧ (s.internalReceivePayload c).1 = none ∧
      (s.internalReceivePayload c).2.buffer = s.buffer) ∨
    ∃ p rest, s.buffer c = p :: rest ∧ (s.internalReceivePayload c).1 = some p ∧
      ∀ j, (s.internalReceivePayload c).2.buffer j = if j = c then rest else s.buffer j := by
  rw [internalReceivePayload]
  split
  · rename_i payloads hb
    have hlt : c.val < s.recvChannelsPayloads.length := (List.getElem?_eq_some_iff.1 hb).1
    have hbuffer : s.buffer c = payloads := by rw [buffer, hb, Option.getD_some]
    cases payloads with
    | nil =>
      refine .inl ⟨hbuffer, rfl, funext fun j ↦ (buffer_of_set rfl hlt j).trans ?_⟩
      split_ifs with hj
      · rw [hj, hbuffer]
        rfl
      · rfl
    | cons p rest => exact .inr ⟨p, rest, hbuffer, rfl, buffer_of_set rfl hlt⟩
  · rename_i hb
    exact .inl ⟨by rw [buffer, hb]; rfl, rfl, rfl⟩

theorem buffer_clearReceivedPayloads (s : PeerConnection S) (c : ChannelId) :
    s.clearReceivedPayloads.buffer c = [] := by
  rw [buffer, clearReceivedPayloads, List.getElem?_map]
  cases s.recvChannelsPayloads[c.val]? <;> rfl

/-- The function is the loop while nothing arrives. -/
theorem dispatchLoop_of_dispatch (s : PeerConnection S) :
    ∃ errs, DispatchLoop s s.bytesFromPeer.queued errs
        s.dispatchReceivedPayloadsToChannelBuffers.2 ∧
      s.dispatchReceivedPayloadsToChannelBuffers.1 = if errs = [] then .ok () else .error errs := by
  suffices h : ∀ queued (s : PeerConnection S), s.bytesFromPeer.queued = queued →
      DispatchLoop s queued (dispatchLoop queued.length s).1 (dispatchLoop queued.length s).2 by
    have hs := h _ s rfl
    rw [dispatchReceivedPayloadsToChannelBuffers]
    rcases hl : dispatchLoop s.bytesFromPeer.queued.length s with ⟨_ | ⟨e, errs⟩, s'⟩ <;> rw [hl] at hs
    · exact ⟨[], hs, rfl⟩
    · exact ⟨e :: errs, hs, rfl⟩
  intro queued
  induction queued with
  | nil => exact fun s hs ↦ .done (dequeue_eq_none.2 hs)
  | cons m rest ih =>
    intro s hs
    obtain ⟨s₁, hd⟩ : ∃ s₁, s.dequeueUndispatchedBytesFromPeer = some (m, s₁) :=
      ⟨_, dequeue_eq_some.2 ⟨_, Mpsc.recv_eq_some.2 ⟨rest, hs, rfl⟩, rfl⟩⟩
    have hq : (s₁.storeReceivedPayload m.1 m.2).2.bytesFromPeer.queued = rest := by
      rw [(storeReceivedPayload_frame _ _ _).1]
      exact (List.cons.inj ((dequeue_frame hd).1.symm.trans hs)).2
    have hloop := DispatchLoop.turn hd (ih _ hq)
    simp only [List.length_cons, dispatchLoop, hd]
    exact hloop

/-- **What one call does.**  Each payload taken from the queue is at the end of the buffer of its
channel, in order, or in the list of errors, once and under the id of its channel. -/
theorem DispatchLoop.outcomes {ms : List (ChannelId × Bytes)} {errs : List RecvChannelError}
    (h : DispatchLoop s ms errs s') :
    ∃ outcomes : List ((ChannelId × Bytes) × Option RecvChannelError),
      outcomes.map Prod.fst = ms ∧ outcomes.filterMap Prod.snd = errs ∧
      (∀ m e, (m, some e) ∈ outcomes → e.channelId = m.1) ∧
      (∀ j, s'.buffer j = s.buffer j ++
        outcomes.filterMap fun x ↦ if x.2 = none ∧ x.1.1 = j then some x.1.2 else none) ∧
      s'.bytesFromPeer.received = s.bytesFromPeer.received ++ ms := by
  induction h with
  | done => exact ⟨[], rfl, rfl, by simp, by simp, by simp⟩
  | arrive m _ ih => exact ih
  | @turn s s₁ s' m ms errs hd _ ih =>
    obtain ⟨outcomes, hms, herrs, hids, hbuf, hreceived⟩ := ih
    have hsame : s₁.buffer = s.buffer := buffer_congr (dequeue_frame hd).2.2.1
    have hrest : s'.bytesFromPeer.received = s.bytesFromPeer.received ++ m :: ms := by
      rw [hreceived, (storeReceivedPayload_frame _ _ _).1, (dequeue_frame hd).2.1]
      simp
    refine ⟨(m, (s₁.storeReceivedPayload m.1 m.2).1) :: outcomes, by rw [← hms]; rfl, ?_, ?_, ?_,
      hrest⟩
    · rw [← herrs, List.filterMap_cons]
      cases (s₁.storeReceivedPayload m.1 m.2).1 <;> rfl
    all_goals
      rcases s₁.storeReceivedPayload_cases m.1 m.2 with ⟨hnone, hstore⟩ | ⟨e, he, hreport⟩
    · rw [hnone]
      intro m' e' hmem
      exact hids m' e' (by simpa using hmem)
    · rw [hreport]
      intro m' e' hmem
      rcases List.mem_cons.1 hmem with heq | hmem
      · obtain ⟨rfl, rfl⟩ : m' = m ∧ e' = e := by simpa using heq
        exact he
      · exact hids m' e' hmem
    · intro j
      rw [hbuf j, hstore j, hsame, List.filterMap_cons, hnone]
      by_cases hj : j = m.1
      · simp [hj]
      · simp [hj, Ne.symm hj]
    · intro j
      rw [hbuf j, hreport, hsame, List.filterMap_cons]
      simp

/-- A call returns the errors among its outcomes, or that there are none. -/
theorem Dispatches.outcomes {ms : List (ChannelId × Bytes)} {result : Except (List RecvChannelError) Unit}
    (h : Dispatches s ms result s') :
    ∃ outcomes : List ((ChannelId × Bytes) × Option RecvChannelError),
      outcomes.map Prod.fst = ms ∧
      (result = .ok () ∧ outcomes.filterMap Prod.snd = [] ∨
        outcomes.filterMap Prod.snd ≠ [] ∧ result = .error (outcomes.filterMap Prod.snd)) ∧
      (∀ m e, (m, some e) ∈ outcomes → e.channelId = m.1) ∧
      (∀ j, s'.buffer j = s.buffer j ++
        outcomes.filterMap fun x ↦ if x.2 = none ∧ x.1.1 = j then some x.1.2 else none) ∧
      s'.bytesFromPeer.received = s.bytesFromPeer.received ++ ms := by
  cases h with
  | ok h =>
    obtain ⟨outcomes, hms, herrs, hrest⟩ := h.outcomes
    exact ⟨outcomes, hms, .inl ⟨rfl, herrs⟩, hrest⟩
  | error h hne =>
    obtain ⟨outcomes, hms, rfl, hrest⟩ := h.outcomes
    exact ⟨outcomes, hms, .inr ⟨hne, rfl⟩, hrest⟩

/-- The function is the call while nothing arrives. -/
theorem dispatches_dispatch (s : PeerConnection S) :
    s.Dispatches s.bytesFromPeer.queued s.dispatchReceivedPayloadsToChannelBuffers.1
      s.dispatchReceivedPayloadsToChannelBuffers.2 := by
  obtain ⟨errs, hloop, hresult⟩ := s.dispatchLoop_of_dispatch
  rw [hresult]
  split_ifs with herrs
  · exact .ok (herrs ▸ hloop)
  · exact .error hloop herrs

end PeerConnection

/-! ## Runs -/

open PeerConnection Ledger

/-- A connection whose channels are read, with what has come out of it so far. -/
structure Receiving (S : Type) where
  conn : PeerConnection S
  /-- What `internalReceivePayload` has handed out on each channel. -/
  handedOut : ChannelId → List Bytes
  /-- What was in the buffer of each channel when the buffers were cleared. -/
  cleared : ChannelId → List Bytes
  /-- The errors of all the calls of `dispatchReceivedPayloadsToChannelBuffers`. -/
  errs : List RecvChannelError

namespace Receiving

variable {S : Type}

inductive Action where
  | arrive (message : ChannelId × Bytes)
  | dispatch (dequeued : List (ChannelId × Bytes)) (errs : List RecvChannelError)
  | receive (channelId : ChannelId)
  | clear
deriving DecidableEq, Repr

inductive Step : Receiving S → Action → Receiving S → Prop
  | arrive (r : Receiving S) (m : ChannelId × Bytes) :
      Step r (.arrive m) { r with conn := r.conn.arrive m }
  | dispatch {r : Receiving S} {ms : List (ChannelId × Bytes)} {errs : List RecvChannelError}
      {conn : PeerConnection S} (h : r.conn.DispatchLoop ms errs conn) :
      Step r (.dispatch ms errs) { r with conn, errs := r.errs ++ errs }
  | receive (r : Receiving S) (c : ChannelId) :
      Step r (.receive c)
        { r with
          conn := (r.conn.internalReceivePayload c).2
          handedOut := Function.update r.handedOut c
            (r.handedOut c ++ (r.conn.internalReceivePayload c).1.toList) }
  | clear (r : Receiving S) :
      Step r .clear
        { r with
          conn := r.conn.clearReceivedPayloads
          cleared := fun c ↦ r.cleared c ++ r.conn.buffer c }

def start (conn : PeerConnection S) : Receiving S where
  conn := conn
  handedOut _ := []
  cleared _ := []
  errs := []

/-- The ledger accounts for everything: what waits in the queue, what is in the buffers, what was
handed out, cleared and reported. -/
structure Accounts (r : Receiving S) (l : List (Entry ChannelId Bytes RecvChannelError)) : Prop where
  ordered : Ordered l
  arrivals : arrivals l = r.conn.bytesFromPeer.sent
  waiting : waiting l = r.conn.bytesFromPeer.queued
  buffered : ∀ c, buffered l c = r.conn.buffer c
  taken : ∀ c, taken l c = r.handedOut c
  cleared : ∀ c, Ledger.cleared l c = r.cleared c
  reports : reports l = r.errs.map fun e ↦ (e.channelId, e)

variable {r r' : Receiving S} {l : List (Entry ChannelId Bytes RecvChannelError)}

/-- A payload that arrives waits in the queue. -/
theorem Accounts.arrive (h : r.Accounts l) (m : ChannelId × Bytes) :
    ∃ l', Accounts { r with conn := r.conn.arrive m } l' := by
  refine ⟨l ++ [⟨m.1, m.2, .waiting⟩], h.ordered.arrive m.1 m.2, ?_, ?_, fun c ↦ ?_, fun c ↦ ?_,
    fun c ↦ ?_, ?_⟩
  · have hsent : (r.conn.arrive m).bytesFromPeer.sent = r.conn.bytesFromPeer.sent ++ [m] :=
      Mpsc.sent_push _ _
    rw [hsent, ← h.arrivals]
    simp [Ledger.arrivals, Entry.arrival]
  · have hqueued : (r.conn.arrive m).bytesFromPeer.queued = r.conn.bytesFromPeer.queued ++ [m] := rfl
    rw [hqueued, ← h.waiting]
    simp [Ledger.waiting, Entry.waiting]
  · refine Eq.trans ?_ (h.buffered c)
    simp [Ledger.buffered, Entry.buffered]
  · refine Eq.trans ?_ (h.taken c)
    simp [Ledger.taken, Entry.taken]
  · refine Eq.trans ?_ (h.cleared c)
    simp [Ledger.cleared, Entry.cleared]
  · refine Eq.trans ?_ h.reports
    simp [Ledger.reports, Entry.report]

/-- One turn of the loop settles the first payload of the queue. -/
theorem Accounts.turn (h : r.Accounts l) {m : ChannelId × Bytes} {s₁ : PeerConnection S}
    (hd : r.conn.dequeueUndispatchedBytesFromPeer = some (m, s₁)) :
    ∃ l', Accounts { r with
      conn := (s₁.storeReceivedPayload m.1 m.2).2
      errs := r.errs ++ (s₁.storeReceivedPayload m.1 m.2).1.toList } l' := by
  obtain ⟨hqueued, hreceived, hbufs, -⟩ := dequeue_frame hd
  have hsent : s₁.bytesFromPeer.sent = r.conn.bytesFromPeer.sent := by
    rw [Mpsc.sent, Mpsc.sent, hreceived, hqueued, List.append_assoc]
    rfl
  have hwait := h.waiting.trans hqueued
  have hsame : s₁.buffer = r.conn.buffer := buffer_congr hbufs
  have hbytes := (storeReceivedPayload_frame s₁ m.1 m.2).1
  rcases s₁.storeReceivedPayload_cases m.1 m.2 with ⟨hnone, hstore⟩ | ⟨e, he, hreport⟩
  · obtain ⟨l', hl'⟩ := exists_settle h.ordered hwait (.inl rfl)
    refine ⟨l', hl'.ordered, ?_, ?_, fun c ↦ ?_, fun c ↦ ?_, fun c ↦ ?_, ?_⟩
    · rw [hl'.arrivals, h.arrivals, ← hsent, ← hbytes]
    · rw [hl'.waiting, hbytes]
    · rw [hl'.buffered, h.buffered, hstore c, hsame]
      by_cases hc : c = m.1
      · simp [Entry.buffered, hc]
      · simp [Entry.buffered, hc, Ne.symm hc]
    · rw [hl'.taken, h.taken]
    · rw [hl'.cleared, h.cleared]
    · rw [hl'.reports, h.reports, hnone]
      simp [Entry.report]
  · obtain ⟨l', hl'⟩ := exists_settle h.ordered hwait (.inr ⟨e, rfl⟩)
    refine ⟨l', hl'.ordered, ?_, ?_, fun c ↦ ?_, fun c ↦ ?_, fun c ↦ ?_, ?_⟩
    · rw [hl'.arrivals, h.arrivals, ← hsent, ← hbytes]
    · rw [hl'.waiting, hbytes]
    · rw [hl'.buffered, h.buffered, hreport, hsame]
      simp [Entry.buffered]
    · rw [hl'.taken, h.taken]
    · rw [hl'.cleared, h.cleared]
    · rw [hl'.reports, h.reports, hreport]
      simp [Entry.report, he]

theorem Accounts.dispatch {s s' : PeerConnection S} {ms : List (ChannelId × Bytes)}
    {errs : List RecvChannelError} (hloop : s.DispatchLoop ms errs s') (h : r.Accounts l)
    (hs : r.conn = s) : ∃ l', Accounts { r with conn := s', errs := r.errs ++ errs } l' := by
  induction hloop generalizing r l with
  | done => exact ⟨l, by rw [List.append_nil]; exact hs ▸ h⟩
  | arrive m _ ih =>
    subst hs
    obtain ⟨l₁, h₁⟩ := h.arrive m
    exact ih (r := { r with conn := r.conn.arrive m }) h₁ rfl
  | turn hd _ ih =>
    subst hs
    obtain ⟨l₁, h₁⟩ := h.turn hd
    obtain ⟨l', h'⟩ := ih h₁ rfl
    exact ⟨l', by rw [← List.append_assoc]; exact h'⟩

theorem Accounts.receive (h : r.Accounts l) (c : ChannelId) :
    ∃ l', Accounts { r with
      conn := (r.conn.internalReceivePayload c).2
      handedOut := Function.update r.handedOut c
        (r.handedOut c ++ (r.conn.internalReceivePayload c).1.toList) } l' := by
  have hbytes : (r.conn.internalReceivePayload c).2.bytesFromPeer = r.conn.bytesFromPeer := by
    rw [internalReceivePayload]
    split <;> rfl
  rcases r.conn.internalReceivePayload_cases c with ⟨-, hnone, hbuf⟩ | ⟨p, rest, hb, hp, hbuf⟩
  · refine ⟨l, h.ordered, hbytes ▸ h.arrivals, hbytes ▸ h.waiting, fun j ↦ ?_, fun j ↦ ?_, h.cleared,
      h.reports⟩
    · rw [h.buffered, hbuf]
    · rw [h.taken, hnone, Option.toList_none, List.append_nil, Function.update_eq_self]
  · obtain ⟨l', hl'⟩ := exists_take h.ordered ((h.buffered c).trans hb)
    refine ⟨l', hl'.ordered, ?_, ?_, fun j ↦ ?_, fun j ↦ ?_, fun j ↦ ?_, hl'.reports.trans h.reports⟩
    · rw [hl'.arrivals, h.arrivals, hbytes]
    · rw [hl'.waiting, h.waiting, hbytes]
    · rw [hl'.buffered, hbuf j, h.buffered]
    · rw [hl'.taken, h.taken, hp]
      by_cases hj : j = c
      · subst hj
        simp
      · simp [hj]
    · rw [hl'.cleared, h.cleared]

theorem Accounts.clear (h : r.Accounts l) :
    ∃ l', Accounts { r with
      conn := r.conn.clearReceivedPayloads
      cleared := fun c ↦ r.cleared c ++ r.conn.buffer c } l' := by
  refine ⟨Ledger.clear l, h.ordered.clear, arrivals_clear.trans h.arrivals,
    waiting_clear.trans h.waiting, fun c ↦ ?_, fun c ↦ ?_, fun c ↦ ?_,
    reports_clear.trans h.reports⟩
  · rw [buffered_clear, buffer_clearReceivedPayloads]
  · rw [taken_clear, h.taken]
  · rw [h.ordered.cleared_clear, h.cleared, h.buffered]

theorem Accounts.step {a : Action} (h : r.Accounts l) (hs : Step r a r') : ∃ l', r'.Accounts l' := by
  cases hs with
  | arrive m => exact h.arrive m
  | dispatch hloop => exact Accounts.dispatch hloop h rfl
  | receive c => exact h.receive c
  | clear => exact h.clear

theorem BuffersBounded.step {a : Action} (h : r.conn.BuffersBounded) (hs : Step r a r') :
    r'.conn.recvChannelsCfg = r.conn.recvChannelsCfg ∧ r'.conn.BuffersBounded := by
  cases hs with
  | arrive m => exact ⟨rfl, h⟩
  | dispatch hloop => exact hloop.bounded.imp_right fun hb ↦ hb h
  | receive c =>
    simp only [internalReceivePayload]
    split
    · exact ⟨rfl, Nat.le_trans (Nat.le_of_eq (List.length_set ..)) h⟩
    · exact ⟨rfl, h⟩
  | clear => exact ⟨rfl, Nat.le_trans (Nat.le_of_eq (List.length_map ..)) h⟩

/-- **Received payloads are conserved and kept in order.**  Each arrival waits in the queue, is in the
buffer of its channel, was handed out there, was cleared, or was reported; on each channel what was
handed out, and then what is buffered, are the arrivals in their order without those reported or
cleared.  Each call of dispatching settles every payload it takes from the queue and returns the errors,
no channel's payload touches the buffer of another, and there are never too many buffers. -/
theorem received_payloads_conserved (specific : S) (capacity : ℕ) (closeSend : Broadcast CloseReason)
    (fromChannels : Mpsc ChannelAsyncMessage) (toChannels : Mpsc ChannelSyncMessage)
    (cfg : RecvChannelsConfiguration)
    (h : Reachable Step (fun _ _ ↦ True)
      (start (.new specific { capacity } closeSend fromChannels toChannels cfg)) r) :
    (∃ l : List (Entry ChannelId Bytes RecvChannelError),
      arrivals l = r.conn.bytesFromPeer.sent ∧ waiting l = r.conn.bytesFromPeer.queued ∧
      reports l = r.errs.map (fun e ↦ (e.channelId, e)) ∧
      ∀ c, r.handedOut c ++ r.conn.buffer c = kept l c ∧ r.cleared c = Ledger.cleared l c) ∧
    (∀ c, (r.handedOut c ++ r.conn.buffer c).Sublist
      ((r.conn.bytesFromPeer.sent.filter (·.1 = c)).map Prod.snd)) ∧
    (∀ ms result conn, r.conn.Dispatches ms result conn →
      ∃ outcomes : List ((ChannelId × Bytes) × Option RecvChannelError),
        outcomes.map Prod.fst = ms ∧
        (result = .ok () ∧ outcomes.filterMap Prod.snd = [] ∨
          outcomes.filterMap Prod.snd ≠ [] ∧ result = .error (outcomes.filterMap Prod.snd)) ∧
        (∀ m e, (m, some e) ∈ outcomes → e.channelId = m.1) ∧
        (∀ j, conn.buffer j = r.conn.buffer j ++
          outcomes.filterMap fun x ↦ if x.2 = none ∧ x.1.1 = j then some x.1.2 else none) ∧
        conn.bytesFromPeer.received = r.conn.bytesFromPeer.received ++ ms) ∧
    r.conn.Dispatches r.conn.bytesFromPeer.queued r.conn.dispatchReceivedPayloadsToChannelBuffers.1
      r.conn.dispatchReceivedPayloadsToChannelBuffers.2 ∧
    (∀ c p j, j ≠ c → (r.conn.storeReceivedPayload c p).2.buffer j = r.conn.buffer j) ∧
    r.conn.recvChannelsPayloads.length ≤ cfg.maxReceiveChannelsCount := by
  obtain ⟨l, hl⟩ := h.invariant (P := fun r ↦ ∃ l, r.Accounts l)
    ⟨[], ordered_nil, rfl, rfl, fun _ ↦ rfl, fun _ ↦ rfl, fun _ ↦ rfl, rfl⟩
    fun hr _ hs ↦ hr.elim fun _ hl ↦ hl.step hs
  have hbound : r.conn.recvChannelsCfg = cfg ∧ r.conn.BuffersBounded :=
    h.invariant (P := fun r ↦ r.conn.recvChannelsCfg = cfg ∧ r.conn.BuffersBounded)
      ⟨rfl, Nat.zero_le _⟩ fun hr _ hs ↦
        (BuffersBounded.step hr.2 hs).imp_left fun hcfg ↦ hcfg.trans hr.1
  have hkept : ∀ c, r.handedOut c ++ r.conn.buffer c = kept l c := fun c ↦ by
    rw [← hl.taken, ← hl.buffered, hl.ordered.taken_append_buffered]
  refine ⟨⟨l, hl.arrivals, hl.waiting, hl.reports, fun c ↦ ⟨hkept c, (hl.cleared c).symm⟩⟩,
    fun c ↦ ?_, fun ms result conn hcall ↦ hcall.outcomes, r.conn.dispatches_dispatch,
    fun c p j hj ↦ ?_, hbound.1 ▸ hbound.2⟩
  · rw [hkept c, ← hl.arrivals]
    exact kept_sublist l c
  · rcases r.conn.storeReceivedPayload_cases c p with ⟨-, hstore⟩ | ⟨e, -, hreport⟩
    · rw [hstore j, if_neg hj, List.append_nil]
    · rw [hreport]

/-- With room for one channel, a payload on channel 2 is reported, and the one behind it can be read
from channel 0. -/
theorem received_payloads_conserved_one :
    ∃ r : Receiving Unit, r.errs = [.maxRecvChannelCountReached 2] ∧ r.handedOut 0 = [[7]] ∧
      (∃ l : List (Entry ChannelId Bytes RecvChannelError),
        arrivals l = [(2, [5]), (0, [7])] ∧ kept l 0 = [[7]] ∧ kept l 2 = []) ∧
      r.conn.recvChannelsPayloads.length ≤ 1 := by
  let cfg : RecvChannelsConfiguration := { maxReceiveChannelsCount := 1 }
  let conn : PeerConnection Unit := .new () { capacity := 2 } { capacity := 1 } { capacity := 1 }
    { capacity := 1 } cfg
  let arrived := (conn.arrive (2, [5])).arrive (0, [7])
  obtain ⟨errs, hloop, hresult⟩ := dispatchLoop_of_dispatch arrived
  have herrs : errs = [.maxRecvChannelCountReached 2] := by
    have h : arrived.dispatchReceivedPayloadsToChannelBuffers.1 =
        .error [.maxRecvChannelCountReached 2] := by rfl
    rw [h] at hresult
    split_ifs at hresult
    exact (Except.error.inj hresult).symm
  have hreach : Reachable Step (fun _ _ ↦ True) (start conn) _ :=
    .next (.next (.next .start trivial (.arrive _ (2, [5]))) trivial (.arrive _ (0, [7]))) trivial
      (.dispatch hloop)
  obtain ⟨⟨l, harrivals, -, -, hkept⟩, -, -, -, -, hbound⟩ := received_payloads_conserved () 2 _ _ _ cfg
    (hreach.next trivial (.receive _ 0))
  exact ⟨_, herrs, rfl, ⟨l, harrivals, (hkept 0).1.symm, (hkept 2).1.symm⟩, hbound⟩

end Receiving

end BevyIroh
