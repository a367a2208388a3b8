import BevyIroh.Shared.RecvChannels

/-!
# Reading what has arrived

The sending half of a connection and its receiving half do not touch each other: `SameReceived` says
that nothing has happened to what was received, and every operation on channels keeps it so.

As long as a connection may be dispatched and read, all that has arrived on it can be read
(`exists_readAll`): the queue is emptied by one call of dispatching, and each buffer by reading its
channel often enough.
-/

set_option autoImplicit false

/-- What became of a value that neither waits nor is buffered. -/
theorem Ledger.settled_of_empty {κ α ε : Type} [DecidableEq κ] {l : List (Entry κ α ε)}
    (hw : waiting l = []) (hb : ∀ k, buffered l k = []) {x : Entry κ α ε} (hx : x ∈ l) :
    x.fate = .taken ∨ x.fate = .cleared ∨ ∃ e, x.fate = .reported e := by
  have hwx := List.filterMap_eq_nil_iff.1 hw x hx
  have hbx := List.filterMap_eq_nil_iff.1 (hb x.key) x hx
  obtain ⟨k, a, fate⟩ := x
  cases fate with
  | waiting => simp [Entry.waiting] at hwx
  | buffered => simp [Entry.buffered] at hbx
  | taken => exact .inl rfl
  | cleared => exact .inr (.inl rfl)
  | reported e => exact .inr (.inr ⟨e, rfl⟩)

namespace BevyIroh

open Transition Ledger

namespace PeerConnection

variable {S : Type}

/-! ## The two halves of a connection -/

/-- Nothing has happened to what was received. -/
structure SameReceived (c c' : PeerConnection S) : Prop where
  bytesFromPeer : c'.bytesFromPeer = c.bytesFromPeer
  recvChannelsPayloads : c'.recvChannelsPayloads = c.recvChannelsPayloads

/-- Nothing has arrived yet. -/
structure Untouched (c : PeerConnection S) : Prop where
  received : c.bytesFromPeer.received = []
  queued : c.bytesFromPeer.queued = []
  recvChannelsPayloads : c.recvChannelsPayloads = []

variable {c c' c'' : PeerConnection S}

theorem SameReceived.refl (c : PeerConnection S) : c.SameReceived c := ⟨rfl, rfl⟩

theorem SameReceived.trans (h : c.SameReceived c') (h' : c'.SameReceived c'') : c.SameReceived c'' :=
  ⟨h'.bytesFromPeer.trans h.bytesFromPeer, h'.recvChannelsPayloads.trans h.recvChannelsPayloads⟩

theorem SameReceived.buffer (h : c.SameReceived c') : c'.buffer = c.buffer :=
  buffer_congr h.recvChannelsPayloads

theorem Untouched.congr (h : c.Untouched) (hs : c.SameReceived c') : c'.Untouched where
  received := hs.bytesFromPeer ▸ h.received
  queued := hs.bytesFromPeer ▸ h.queued
  recvChannelsPayloads := hs.recvChannelsPayloads.trans h.recvChannelsPayloads

theorem sameReceived_internalSendPayload (c : PeerConnection S) (id : ChannelId) (payload : Bytes) :
    c.SameReceived (c.internalSendPayload id payload).2 := by
  rw [internalSendPayload]
  split
  · simp only
    split <;> exact ⟨rfl, rfl⟩
  all_goals exact .refl c

theorem sameReceived_internalCloseChannel (c : PeerConnection S) (id : ChannelId) :
    c.SameReceived (c.internalCloseChannel id).2 := by
  rw [internalCloseChannel]
  split
  · simp only
    split <;> exact ⟨rfl, rfl⟩
  all_goals exact .refl c

theorem sameReceived_createUnregisteredConnectionChannel (c : PeerConnection S) (id : ChannelId)
    (config : ChannelConfig) : c.SameReceived (c.createUnregisteredConnectionChannel id config).2 := by
  rw [createUnregisteredConnectionChannel]
  split <;> exact ⟨rfl, rfl⟩

theorem sameReceived_registerConnectionChannel (c : PeerConnection S) (channel : Channel) :
    c.SameReceived (c.registerConnectionChannel channel) := by
  rw [registerConnectionChannel]
  split <;> exact ⟨rfl, rfl⟩

theorem sameReceived_createConnectionChannel (c : PeerConnection S) (id : ChannelId)
    (config : ChannelConfig) : c.SameReceived (c.createConnectionChannel id config).2 := by
  have h := c.sameReceived_createUnregisteredConnectionChannel id config
  rw [createConnectionChannel]
  split <;> rename_i heq <;> rw [heq] at h
  · exact h.trans (sameReceived_registerConnectionChannel _ _)
  · exact h

/-- Dispatching empties the queue, and leaves the specific part alone. -/
theorem DispatchLoop.drained {c c' : PeerConnection S} {ms : List (ChannelId × Bytes)}
    {errs : List RecvChannelError} (h : c.DispatchLoop ms errs c') :
    c'.bytesFromPeer.queued = [] ∧ c'.specific = c.specific := by
  induction h with
  | done hd => exact ⟨dequeue_eq_none.1 hd, rfl⟩
  | arrive m _ ih => exact ih
  | @turn s s₁ s' m ms errs hd _ ih =>
    obtain ⟨q, -, rfl⟩ := dequeue_eq_some.1 hd
    refine ⟨ih.1, ih.2.trans ?_⟩
    rw [storeReceivedPayload]
    split <;> split_ifs <;> rfl

end PeerConnection

/-! ## Reading everything -/

open PeerConnection

namespace Receiving

variable {S : Type} {r : Receiving S} {l : List (Entry ChannelId Bytes RecvChannelError)}

theorem accounts_start {conn : PeerConnection S} (h : conn.Untouched) : (start conn).Accounts [] where
  ordered := ordered_nil
  arrivals := by
    show [] = conn.bytesFromPeer.sent
    rw [Mpsc.sent, h.received, h.queued]
    rfl
  waiting := h.queued.symm
  buffered c := by
    show [] = conn.buffer c
    rw [buffer, h.recvChannelsPayloads]
    rfl
  taken _ := rfl
  cleared _ := rfl
  reports := rfl

theorem Accounts.congr (h : r.Accounts l) {conn : PeerConnection S} (hs : r.conn.SameReceived conn) :
    Accounts { r with conn } l where
  ordered := h.ordered
  arrivals := h.arrivals.trans (congrArg Mpsc.sent hs.bytesFromPeer).symm
  waiting := h.waiting.trans (congrArg Mpsc.queued hs.bytesFromPeer).symm
  buffered c := (h.buffered c).trans (congrFun hs.buffer c).symm
  taken := h.taken
  cleared := h.cleared
  reports := h.reports

/-- It dispatches or reads. -/
def Reads : Action → Prop
  | .dispatch _ _ => True
  | .receive _ => True
  | _ => False

/-- What dispatching and reading leave alone, whatever they do. -/
structure SameArrivals (r r' : Receiving S) : Prop where
  sent : r'.conn.bytesFromPeer.sent = r.conn.bytesFromPeer.sent
  cleared : r'.cleared = r.cleared
  specific : r'.conn.specific = r.conn.specific

theorem SameArrivals.refl (r : Receiving S) : r.SameArrivals r := ⟨rfl, rfl, rfl⟩

theorem SameArrivals.trans {r r' r'' : Receiving S} (h : r.SameArrivals r') (h' : r'.SameArrivals r'') :
    r.SameArrivals r'' :=
  ⟨h'.sent.trans h.sent, h'.cleared.trans h.cleared, h'.specific.trans h.specific⟩

theorem sameArrivals_receive (r : Receiving S) (c : ChannelId) :
    r.SameArrivals { r with
      conn := (r.conn.internalReceivePayload c).2
      handedOut := Function.update r.handedOut c
        (r.handedOut c ++ (r.conn.internalReceivePayload c).1.toList) } ∧
      (r.conn.internalReceivePayload c).2.bytesFromPeer = r.conn.bytesFromPeer := by
  rw [internalReceivePayload]
  split <;> exact ⟨⟨rfl, rfl, rfl⟩, rfl⟩

/-- A channel can be read until nothing is left in its buffer. -/
theorem exists_read (r : Receiving S) (c : ChannelId) :
    ∃ r', Reachable Step (fun _ ↦ Reads) r r' ∧ r.SameArrivals r' ∧
      r'.conn.bytesFromPeer = r.conn.bytesFromPeer ∧
      ∀ j, r'.conn.buffer j = if j = c then [] else r.conn.buffer j := by
  generalize hb : r.conn.buffer c = b
  induction b generalizing r with
  | nil => exact ⟨r, .start, .refl r, rfl, fun j ↦ by split_ifs with hj <;> simp [hj, hb]⟩
  | cons p rest ih =>
    rcases r.conn.internalReceivePayload_cases c with ⟨hnil, -⟩ | ⟨p', rest', hcons, -, hbuf⟩
    · rw [hb] at hnil
      cases hnil
    · obtain ⟨rfl, rfl⟩ : p' = p ∧ rest' = rest := by simpa [hb, eq_comm] using hcons
      obtain ⟨hsame, hbytes⟩ := r.sameArrivals_receive c
      obtain ⟨r', hreach, hsame', hbytes', hbuf'⟩ := ih { r with
        conn := (r.conn.internalReceivePayload c).2
        handedOut := Function.update r.handedOut c
          (r.handedOut c ++ (r.conn.internalReceivePayload c).1.toList) }
        ((hbuf c).trans (if_pos rfl))
      refine ⟨r', (Reachable.start.next trivial (.receive r c)).trans hreach, hsame.trans hsame',
        hbytes'.trans hbytes, fun j ↦ (hbuf' j).trans ?_⟩
      split_ifs with hj
      · rfl
      · exact (hbuf j).trans (if_neg hj)

/-- Several channels can be read, one after the other. -/
theorem exists_readEach (cs : List ChannelId) (r : Receiving S) :
    ∃ r', Reachable Step (fun _ ↦ Reads) r r' ∧ r.SameArrivals r' ∧
      r'.conn.bytesFromPeer = r.conn.bytesFromPeer ∧
      ∀ j, r'.conn.buffer j = if j ∈ cs then [] else r.conn.buffer j := by
  induction cs generalizing r with
  | nil => exact ⟨r, .start, .refl r, rfl, fun j ↦ by simp⟩
  | cons c cs ih =>
    obtain ⟨r₁, hreach₁, hsame₁, hbytes₁, hbuf₁⟩ := r.exists_read c
    obtain ⟨r', hreach, hsame, hbytes, hbuf⟩ := ih r₁
    refine ⟨r', hreach₁.trans hreach, hsame₁.trans hsame, hbytes.trans hbytes₁, fun j ↦ ?_⟩
    rw [hbuf, hbuf₁]
    by_cases hj : j = c <;> by_cases hcs : j ∈ cs <;> simp [hj, hcs]

/-- One call of dispatching empties the queue, and each channel can be read out after it. -/
theorem exists_readAll (r : Receiving S) :
    ∃ r', Reachable Step (fun _ ↦ Reads) r r' ∧ r.SameArrivals r' ∧
      r'.conn.bytesFromPeer.queued = [] ∧ ∀ c, r'.conn.buffer c = [] := by
  obtain ⟨errs, hloop, -⟩ := dispatchLoop_of_dispatch r.conn
  obtain ⟨-, -, -, -, -, hreceived⟩ := hloop.outcomes
  obtain ⟨hqueued, hspecific⟩ := hloop.drained
  let dispatched : Receiving S := { r with
    conn := r.conn.dispatchReceivedPayloadsToChannelBuffers.2
    errs := r.errs ++ errs }
  have hsent : dispatched.conn.bytesFromPeer.sent = r.conn.bytesFromPeer.sent := by
    rw [Mpsc.sent, Mpsc.sent, hqueued, List.append_nil, hreceived]
  obtain ⟨r', hreach, hsame, hbytes, hbuf⟩ := dispatched.exists_readEach (List.finRange 256)
  exact ⟨r', (Reachable.start.next trivial (.dispatch hloop)).trans hreach,
    .trans ⟨hsent, rfl, hspecific⟩ hsame, (congrArg Mpsc.queued hbytes).trans hqueued,
    fun c ↦ (hbuf c).trans (if_pos (List.mem_finRange c))⟩

end Receiving

end BevyIroh
