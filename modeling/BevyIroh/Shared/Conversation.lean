import BevyIroh.Shared.Delivery
import BevyIroh.Shared.Reading

/-!
# Two ends of a connection

Both peers have a connection with tasks behind it (`BevyIroh.Shared.Delivery`) and an application that
reads what has arrived (`BevyIroh.Shared.RecvChannels`).  Here the two directions meet: what the
receiving tasks of one direction enqueue is what waits in the connection of the other end, and either
end sends and reads on the same connection.

A step is taken at one of the ends.  It concerns the direction that begins there through `Delivery`, and
the one that ends there through the queue, the buffers and the calls that read; the sending half and the
receiving half of a connection leave each other alone.  The queue is seen from both ends: what one end
dispatches makes room for what the other one sends (`Peer.seen`).  So each direction is on its own
(`Acts.direction`, `Acts.direction_back`), and what is known of the two halves of its way can be put
together: `payloads_in_order` is about what one application accepts and the other one reads.
-/

set_option autoImplicit false

namespace BevyIroh

open Transition PeerConnection Ledger

/-! ## The halves of a connection -/

namespace PeerConnection

variable {S : Type} {c c' c'' : PeerConnection S}

/-- The payloads of this channel that wait to be dispatched. -/
def waitingFor (self : PeerConnection S) (channelId : ChannelId) : List Bytes :=
  (self.bytesFromPeer.queued.filter (·.1 = channelId)).map Prod.snd

/-- What has arrived is the same, and stands where it stood.  The receiver may have been dropped. -/
structure SameArrived (c c' : PeerConnection S) : Prop where
  received : c'.bytesFromPeer.received = c.bytesFromPeer.received
  queued : c'.bytesFromPeer.queued = c.bytesFromPeer.queued
  recvChannelsPayloads : c'.recvChannelsPayloads = c.recvChannelsPayloads

theorem SameReceived.sameArrived (h : c.SameReceived c') : c.SameArrived c' :=
  ⟨congrArg Mpsc.received h.bytesFromPeer, congrArg Mpsc.queued h.bytesFromPeer,
    h.recvChannelsPayloads⟩

end PeerConnection

/-- A link leaves alone what has arrived, unless its owner does something with it. -/
theorem Link.Step.sameArrived {S : Type} {l l' : Link S} {a : LinkAct} (h : Link.Step l a l')
    (ha : a ≠ .owner) : l.conn.SameArrived l'.conn := by
  cases h with
  | create id config => exact (l.conn.sameReceived_createConnectionChannel id config).sameArrived
  | send id payload => exact (l.conn.sameReceived_internalSendPayload id payload).sameArrived
  | closeChannel id => exact (l.conn.sameReceived_internalCloseChannel id).sameArrived
  | close receivers reason =>
    rw [PeerConnection.close, Broadcast.send]
    cases receivers <;> exact ⟨rfl, rfl, rfl⟩
  | owner => exact absurd rfl ha
  | _ => exact ⟨rfl, rfl, rfl⟩

/-! ## One end -/

/-- A connection with what is behind it, and what was read from it here. -/
structure Peer (S : Type) where
  delivery : Delivery S
  /-- A call of `dispatch_received_payloads_to_channel_buffers` is in its loop. -/
  dispatching : Bool := false
  handedOut : ChannelId → List Bytes := fun _ ↦ []
  cleared : ChannelId → List Bytes := fun _ ↦ []
  errs : List RecvChannelError := []

inductive ReadAct where
  | beginDispatch
  | turn
  | endDispatch
  | receive (channelId : ChannelId)
  | clear
deriving DecidableEq, Repr

namespace Peer

variable {S : Type}

def start (specific : S) (recvChannelsCfg : RecvChannelsConfiguration) : Peer S where
  delivery := .start specific recvChannelsCfg

def conn (p : Peer S) : PeerConnection S := p.delivery.link.conn

def withConn (p : Peer S) (conn : PeerConnection S) : Peer S := { p with delivery.link.conn := conn }

/-- The receiving half. -/
def receiving (p : Peer S) : Receiving S where
  conn := p.conn
  handedOut := p.handedOut
  cleared := p.cleared
  errs := p.errs

/-- After something was read. -/
def read (p : Peer S) (r : Receiving S) : Peer S :=
  { p.withConn r.conn with handedOut := r.handedOut, cleared := r.cleared, errs := r.errs }

/-- The calls that read, those of dispatching turn by turn.  A connection that was dropped is not read
any more. -/
inductive Reads : Peer S → ReadAct → Peer S → Prop
  | beginDispatch {p : Peer S} (ha : p.delivery.link.Alive) (hd : p.dispatching = false) :
      Reads p .beginDispatch { p with dispatching := true }
  | turn {p : Peer S} {m : ChannelId × Bytes} {c : PeerConnection S} (hd : p.dispatching = true)
      (h : p.conn.dequeueUndispatchedBytesFromPeer = some (m, c)) :
      Reads p .turn (p.read { p.receiving with
        conn := (c.storeReceivedPayload m.1 m.2).2
        errs := p.errs ++ (c.storeReceivedPayload m.1 m.2).1.toList })
  | endDispatch {p : Peer S} (hd : p.dispatching = true) (hq : p.conn.bytesFromPeer.queued = []) :
      Reads p .endDispatch { p with dispatching := false }
  | receive {p : Peer S} (c : ChannelId) (ha : p.delivery.link.Alive) (hd : p.dispatching = false) :
      Reads p (.receive c) (p.read { p.receiving with
        conn := (p.conn.internalReceivePayload c).2
        handedOut := Function.update p.handedOut c
          (p.handedOut c ++ (p.conn.internalReceivePayload c).1.toList) })
  | clear {p : Peer S} (ha : p.delivery.link.Alive) (hd : p.dispatching = false) :
      Reads p .clear (p.read { p.receiving with
        conn := p.conn.clearReceivedPayloads
        cleared := fun c ↦ p.cleared c ++ p.conn.buffer c })

/-- After the other end has read: what it took from its queue no longer waits there. -/
def seen (p : Peer S) : ReadAct → Peer S
  | .turn => { p with delivery := p.delivery.dequeued }
  | _ => p

theorem seen_receiving (p : Peer S) (a : ReadAct) : (p.seen a).receiving = p.receiving := by
  cases a <;> rfl

/-- Nothing that came on this channel was dropped: dispatching had room for it, and it was not cleared
before it was read. -/
structure Lossless (p : Peer S) (id : ChannelId) : Prop where
  cleared : p.cleared id = []
  errs : ∀ e ∈ p.errs, e.channelId ≠ id

end Peer

/-! ## The system -/

inductive PeerAct where
  | delivery (a : DeliveryAct)
  | reads (a : ReadAct)
deriving DecidableEq, Repr

section Acts

variable {S R : Type}

/-- One end takes a step, and what it enqueues waits at the other end, if there is room. -/
inductive Acts : Peer S → Peer R → PeerAct → Peer S → Peer R → Prop
  | quiet {p : Peer S} {q : Peer R} {a : DeliveryAct} {d : Delivery S} (h : Delivery.Step p.delivery a d)
      (he : d.enqueued = p.delivery.enqueued) (hd : d.dispatched = p.delivery.dispatched)
      (hs : p.conn.SameArrived d.link.conn) :
      Acts p q (.delivery a) { p with delivery := d } q
  | arrives {p : Peer S} {q : Peer R} {a : DeliveryAct} {d : Delivery S} {e : Incoming}
      (h : Delivery.Step p.delivery a d) (he : d.enqueued = p.delivery.enqueued ++ [e])
      (hs : p.conn.SameArrived d.link.conn) (hq : q.conn.bytesFromPeer.Ready) :
      Acts p q (.delivery a) { p with delivery := d }
        (q.withConn (q.conn.arrive (e.channelId, e.payload)))
  | reads {p p' : Peer S} {q : Peer R} {a : ReadAct} (h : p.Reads a p') :
      Acts p q (.reads a) p' (q.seen a)

end Acts

/-- The two peers. -/
structure Conversation (S R : Type) where
  near : Peer S
  far : Peer R

inductive ConversationAct where
  | near (a : PeerAct)
  | far (a : PeerAct)
deriving DecidableEq, Repr

namespace Conversation

variable {S R : Type}

def start (near : S) (nearCfg : RecvChannelsConfiguration) (far : R)
    (farCfg : RecvChannelsConfiguration) : Conversation S R where
  near := .start near nearCfg
  far := .start far farCfg

inductive Step : Conversation S R → ConversationAct → Conversation S R → Prop
  | near {s s' : Conversation S R} {a : PeerAct} (h : Acts s.near s.far a s'.near s'.far) :
      Step s (.near a) s'
  | far {s s' : Conversation S R} {a : PeerAct} (h : Acts s.far s.near a s'.far s'.near) :
      Step s (.far a) s'

/-- The steps on the way from the near end to the far end meet `C`. -/
def OnWay (C : Delivery S → DeliveryAct → Prop) (s : Conversation S R) : ConversationAct → Prop
  | .near (.delivery a) => C s.near.delivery a
  | _ => True

/-- On this way nothing fails, payloads fit, the id is that of ordered channels only, and it is used
again only when everything has arrived. -/
def Orderly (id : ChannelId) : Conversation S R → ConversationAct → Prop :=
  OnWay fun d a ↦ Delivery.Healthy id d a ∧ Delivery.Settled id d a

end Conversation

/-! ## One direction -/

section Direction

variable {S R : Type} {p p' : Peer S} {q q' : Peer R} {a : PeerAct}

/-- What was enqueued on the way from `p` to `q` has arrived at `q`, what was taken from the queue was
taken there, and all that has arrived is accounted for. -/
structure Direction (p : Peer S) (q : Peer R) : Prop where
  arrived : q.conn.bytesFromPeer.sent = p.delivery.enqueued.map fun e ↦ (e.channelId, e.payload)
  dispatched : q.conn.bytesFromPeer.received.length = p.delivery.dispatched
  accounted : ∃ l, q.receiving.Accounts l

theorem Direction.arrivedFor (hd : Direction p q) (id : ChannelId) :
    (q.conn.bytesFromPeer.sent.filter (·.1 = id)).map Prod.snd = p.delivery.enqueuedFor id := by
  rw [hd.arrived, Delivery.enqueuedFor, List.filter_map, List.map_map]
  rfl

/-- What waits on the way is what waits at `q`. -/
theorem Direction.waiting (hd : Direction p q) :
    q.conn.bytesFromPeer.queued = p.delivery.waiting.map fun e ↦ (e.channelId, e.payload) := by
  have hsent := congrArg (List.drop p.delivery.dispatched) hd.arrived
  rwa [Mpsc.sent, ← hd.dispatched, List.drop_left, hd.dispatched, ← List.map_drop] at hsent

/-- So there is room on the way when there is room at `q`. -/
theorem Direction.room_iff (hd : Direction p q) :
    p.delivery.Room ↔ q.conn.bytesFromPeer.queued.length < defaultMessageQueueSize := by
  rw [hd.waiting, List.length_map, Delivery.Room]

/-- What was read on a channel and what is buffered for it are some of the payloads that were enqueued
under its id, in order. -/
theorem Direction.read_sublist (hd : Direction p q) (id : ChannelId) :
    (q.handedOut id ++ q.conn.buffer id).Sublist (p.delivery.enqueuedFor id) := by
  obtain ⟨l, hl⟩ := hd.accounted
  have hkept : q.handedOut id ++ q.conn.buffer id = kept l id := by
    rw [← hl.ordered.taken_append_buffered, hl.taken, hl.buffered]
    rfl
  rw [hkept, ← hd.arrivedFor, show q.conn.bytesFromPeer.sent = _ from hl.arrivals.symm]
  exact kept_sublist l id

/-- Without a loss they are all of them, but for those that are still to be dispatched. -/
theorem Direction.read_eq (hd : Direction p q) {id : ChannelId} (hl : q.Lossless id) :
    q.handedOut id ++ q.conn.buffer id ++ q.conn.waitingFor id = p.delivery.enqueuedFor id := by
  obtain ⟨l, hacc⟩ := hd.accounted
  have hcleared : Ledger.cleared l id = [] := (hacc.cleared id).trans hl.cleared
  have hreports : ∀ x ∈ reports l, x.1 ≠ id := by
    intro x hx
    rw [hacc.reports] at hx
    obtain ⟨e, he, rfl⟩ := List.mem_map.1 hx
    exact hl.errs e he
  have hall := hacc.ordered.kept_append_waitingFor hcleared hreports
  rw [← hacc.ordered.taken_append_buffered, waitingFor_eq, hacc.taken, hacc.buffered, hacc.waiting,
    hacc.arrivals] at hall
  rw [← hd.arrivedFor]
  exact hall

theorem Receiving.Accounts.sameArrived {r : Receiving S}
    {l : List (Entry ChannelId Bytes RecvChannelError)} (h : r.Accounts l) {conn : PeerConnection S}
    (hs : r.conn.SameArrived conn) : Receiving.Accounts { r with conn } l where
  ordered := h.ordered
  arrivals := by rw [h.arrivals, Mpsc.sent, Mpsc.sent, hs.received, hs.queued]
  waiting := h.waiting.trans hs.queued.symm
  buffered c := (h.buffered c).trans (congrFun (buffer_congr hs.recvChannelsPayloads) c).symm
  taken := h.taken
  cleared := h.cleared
  reports := h.reports

/-- Reading keeps the accounts, and takes nothing from what has arrived. -/
theorem Peer.Reads.accounts {b : ReadAct} (h : p.Reads b p')
    (ha : ∃ l, p.receiving.Accounts l) : (∃ l, p'.receiving.Accounts l) ∧
      p'.conn.bytesFromPeer.sent = p.conn.bytesFromPeer.sent := by
  obtain ⟨l, hl⟩ := ha
  cases h with
  | beginDispatch | endDispatch => exact ⟨⟨l, hl⟩, rfl⟩
  | @turn m c hd h =>
    refine ⟨hl.turn h, ?_⟩
    obtain ⟨hqueued, hreceived, -, -⟩ := dequeue_frame h
    show (c.storeReceivedPayload m.1 m.2).2.bytesFromPeer.sent = _
    rw [(storeReceivedPayload_frame _ _ _).1, Mpsc.sent, Mpsc.sent, hreceived, hqueued,
      List.append_assoc]
    rfl
  | receive c => exact ⟨hl.receive c, (p.receiving.sameArrivals_receive c).1.sent⟩
  | clear => exact ⟨hl.clear, rfl⟩

/-- What is dispatched is taken from the queue. -/
theorem Peer.Reads.dispatched {b : ReadAct} (h : p.Reads b p')
    (hd : p.conn.bytesFromPeer.received.length = q.delivery.dispatched) :
    p'.conn.bytesFromPeer.received.length = (q.seen b).delivery.dispatched := by
  cases h with
  | @turn m c hturn h =>
    obtain ⟨-, hreceived, -, -⟩ := dequeue_frame h
    show (c.storeReceivedPayload m.1 m.2).2.bytesFromPeer.received.length = _
    rw [(storeReceivedPayload_frame _ _ _).1, hreceived, List.length_append, hd]
    rfl
  | receive c =>
    have hsame := (p.receiving.sameArrivals_receive c).2
    exact (congrArg (·.received.length) hsame).trans hd
  | _ => exact hd

/-- **A step at the end where a direction begins.** -/
theorem Acts.direction (h : Acts p q a p' q') (hd : Direction p q) : Direction p' q' := by
  cases h with
  | quiet h he hdispatched =>
    exact ⟨by rw [hd.arrived, he], hd.dispatched.trans hdispatched.symm, hd.accounted⟩
  | @arrives _ _ d e h he =>
    obtain ⟨l, hl⟩ := hd.accounted
    refine ⟨?_, hd.dispatched.trans (h.dispatched_of_enqueued he).symm,
      hl.arrive (e.channelId, e.payload)⟩
    have hsent : (q.conn.arrive (e.channelId, e.payload)).bytesFromPeer.sent =
        q.conn.bytesFromPeer.sent ++ [(e.channelId, e.payload)] := Mpsc.sent_push _ _
    show (q.conn.arrive (e.channelId, e.payload)).bytesFromPeer.sent = _
    rw [hsent, hd.arrived, he, List.map_append]
    rfl
  | @reads _ _ b h =>
    have hsame : p'.delivery.enqueued = p.delivery.enqueued ∧
        p'.delivery.dispatched = p.delivery.dispatched := by cases h <;> exact ⟨rfl, rfl⟩
    have hconn : (q.seen b).conn = q.conn := congrArg Receiving.conn (q.seen_receiving b)
    exact ⟨by rw [hconn, hd.arrived, hsame.1], by rw [hconn, hd.dispatched, hsame.2],
      by rw [q.seen_receiving]; exact hd.accounted⟩

/-- **A step at the end where a direction ends.** -/
theorem Acts.direction_back (h : Acts p q a p' q') (hd : Direction q p) : Direction q' p' := by
  obtain ⟨l, hl⟩ := hd.accounted
  cases h with
  | quiet h he hdispatched hs | arrives h he hs =>
    refine ⟨?_, (congrArg List.length hs.received).trans hd.dispatched, l, hl.sameArrived hs⟩
    refine Eq.trans ?_ hd.arrived
    exact congrArg₂ (· ++ ·) hs.received hs.queued
  | @reads _ _ b h =>
    obtain ⟨haccounts, hsent⟩ := h.accounts ⟨l, hl⟩
    have hsame : (q.seen b).delivery.enqueued = q.delivery.enqueued := by cases b <;> rfl
    exact ⟨by rw [hsame]; exact hsent.trans hd.arrived, h.dispatched hd.dispatched, haccounts⟩

/-! ### The sending half -/

theorem Delivery.step_owner {d : Delivery S} {conn : PeerConnection S}
    (h : Link.SameLink d.link.conn conn) :
    Delivery.Step d (.link .owner) { d with link.conn := conn } := by
  have hstep := Delivery.Step.link (s := d) (.owner h)
  have hnone : d.link.accepts .owner = [] := rfl
  rwa [hnone, List.append_nil] at hstep

/-- Something was read: for the sending half that is nothing, or somebody else's business. -/
theorem Peer.Reads.delivery_cases {b : ReadAct} (h : p.Reads b p') : p'.delivery = p.delivery ∨
    ∃ conn, Link.SameLink p.conn conn ∧ p'.delivery = { p.delivery with link.conn := conn } := by
  cases h with
  | beginDispatch | endDispatch => exact .inl rfl
  | @turn m c hd h =>
    refine .inr ⟨_, ?_, rfl⟩
    obtain ⟨q, -, rfl⟩ := dequeue_eq_some.1 h
    dsimp only
    rw [storeReceivedPayload]
    split <;> split_ifs <;> exact ⟨rfl, rfl, rfl, rfl, rfl⟩
  | receive c =>
    refine .inr ⟨_, ?_, rfl⟩
    dsimp only
    rw [internalReceivePayload]
    split <;> exact ⟨rfl, rfl, rfl, rfl, rfl⟩
  | clear => exact .inr ⟨p.conn.clearReceivedPayloads, ⟨rfl, rfl, rfl, rfl, rfl⟩, rfl⟩

theorem Acts.delivery_cases (h : Acts p q a p' q') :
    (∃ b, a = .delivery b ∧ Delivery.Step p.delivery b p'.delivery) ∨ p'.delivery = p.delivery ∨
      ∃ conn, Link.SameLink p.conn conn ∧ p'.delivery = { p.delivery with link.conn := conn } := by
  cases h with
  | quiet h | arrives h => exact .inl ⟨_, rfl, h⟩
  | reads h => exact .inr h.delivery_cases

theorem Acts.delivery_cases_back (h : Acts p q a p' q') : q'.delivery = q.delivery ∨
    (p.conn.bytesFromPeer.queued ≠ [] ∧ q'.delivery = q.delivery.dequeued) ∨
      ∃ conn, Link.SameLink q.conn conn ∧ q'.delivery = { q.delivery with link.conn := conn } := by
  cases h with
  | quiet => exact .inl rfl
  | @arrives _ _ d e =>
    exact .inr (.inr ⟨q.conn.arrive (e.channelId, e.payload), ⟨rfl, rfl, rfl, rfl, rfl⟩, rfl⟩)
  | reads h =>
    cases h with
    | turn hturn h =>
      obtain ⟨hqueued, -, -, -⟩ := dequeue_frame h
      exact .inr (.inl ⟨by rw [hqueued]; simp, rfl⟩)
    | _ => exact .inl rfl

/-- Nothing has arrived at a new connection. -/
theorem direction_start (specific : R) (cfg : RecvChannelsConfiguration)
    (he : p.delivery.enqueued = []) (hdispatched : p.delivery.dispatched = 0) :
    Direction p (Peer.start specific cfg) where
  arrived := by
    rw [he]
    rfl
  dispatched := hdispatched.symm
  accounted := ⟨[], Receiving.accounts_start ⟨rfl, rfl, rfl⟩⟩

end Direction

/-! ## Runs -/

namespace Conversation

variable {S R : Type} {s s' : Conversation S R} {a : ConversationAct} {near : S} {far : R}
  {nearCfg farCfg : RecvChannelsConfiguration} {C : Delivery S → DeliveryAct → Prop}

theorem Step.direction (h : Step s a s') (hd : Direction s.near s.far) :
    Direction s'.near s'.far := by
  cases h with
  | near h => exact h.direction hd
  | far h => exact h.direction_back hd

/-- What the far end sees is what was enqueued on the way to it. -/
theorem direction_of_reachable {C : Conversation S R → ConversationAct → Prop}
    (hr : Reachable Step C (start near nearCfg far farCfg) s) : Direction s.near s.far :=
  hr.invariant (direction_start far farCfg rfl rfl) fun hd _ hstep ↦ hstep.direction hd

/-- **The way from the near end is a run of its own**, whatever happens at the far end, and whatever is
read at either. -/
theorem delivery_of_reachable (howner : ∀ d, C d (.link .owner)) (hdequeue : ∀ d, C d .dequeue)
    (hr : Reachable Step (OnWay C) (start near nearCfg far farCfg) s) :
    Reachable Delivery.Step C (.start near nearCfg) s.near.delivery := by
  refine hr.simulates (I := fun s ↦ Direction s.near s.far) (fun s ↦ s.near.delivery)
    (direction_start far farCfg rfl rfl) (fun hd _ hstep ↦ hstep.direction hd)
    fun {s a s'} hd hC hstep ↦ ?_
  have howned : ∀ {conn}, Link.SameLink s.near.conn conn →
      s'.near.delivery = { s.near.delivery with link.conn := conn } →
      ∃ b, C s.near.delivery b ∧ Delivery.Step s.near.delivery b s'.near.delivery :=
    fun hsame heq ↦ ⟨_, howner _, heq ▸ Delivery.step_owner hsame⟩
  cases hstep with
  | near h =>
    rcases h.delivery_cases with ⟨b, rfl, hb⟩ | heq | ⟨conn, hsame, heq⟩
    · exact .inr ⟨b, hC, hb⟩
    · exact .inl heq
    · exact .inr (howned hsame heq)
  | far h =>
    rcases h.delivery_cases_back with heq | ⟨hqueued, heq⟩ | ⟨conn, hsame, heq⟩
    · exact .inl heq
    · have hwaiting : s.near.delivery.waiting ≠ [] := fun hnil ↦ hqueued (by rw [hd.waiting, hnil]; rfl)
      exact .inr ⟨.dequeue, hdequeue _, heq ▸ .dequeue hwaiting⟩
    · exact .inr (howned hsame heq)

/-- Steps that neither open a channel under the id nor send. -/
theorem orderly_link {id : ChannelId} {d : Delivery S} {a : LinkAct}
    (hcreate : ∀ config, a ≠ .create id config) (hsend : ∀ i p, a ≠ .send i p)
    (ha : d.link.Fitting a) : Delivery.Healthy id d (.link a) ∧ Delivery.Settled id d (.link a) where
  left :=
    { fitting := fun _ hb ↦ DeliveryAct.link.inj hb ▸ ha
      fits := fun i p h ↦ absurd (DeliveryAct.link.inj h) (hsend i p)
      ordered := fun config h ↦ absurd h.1 (hcreate config) }
  right config h := absurd h.1 (hcreate config)

/-- Steps that are none of the link. -/
theorem orderly_other {id : ChannelId} {d : Delivery S} {a : DeliveryAct} (ha : ∀ b, a ≠ .link b) :
    Delivery.Healthy id d a ∧ Delivery.Settled id d a where
  left :=
    { fitting := fun b hb ↦ absurd hb (ha b)
      fits := fun i p h ↦ absurd h (ha _)
      ordered := fun config h ↦ by cases a <;> first | exact h.elim | exact absurd rfl (ha _) }
  right config h := by cases a <;> first | exact h.elim | exact absurd rfl (ha _)

theorem enqueuedFor_isPrefix_of_reachable {id : ChannelId}
    (hr : Reachable Step (Orderly id) (start near nearCfg far farCfg) s) :
    s.near.delivery.enqueuedFor id <+: s.near.delivery.acceptedFor id :=
  Delivery.enqueuedFor_isPrefix_of_reachable
    (delivery_of_reachable (fun _ ↦ orderly_link (by simp) (by simp) (by trivial))
      (fun _ ↦ orderly_other (by simp)) hr)

theorem read_sublist_of_reachable {id : ChannelId}
    (hr : Reachable Step (Orderly id) (start near nearCfg far farCfg) s) :
    (s.far.handedOut id ++ s.far.conn.buffer id).Sublist (s.near.delivery.acceptedFor id) :=
  ((direction_of_reachable hr).read_sublist id).trans (enqueuedFor_isPrefix_of_reachable hr).sublist

theorem read_isPrefix_of_reachable {id : ChannelId}
    (hr : Reachable Step (Orderly id) (start near nearCfg far farCfg) s) (hl : s.far.Lossless id) :
    s.far.handedOut id ++ s.far.conn.buffer id ++ s.far.conn.waitingFor id <+:
      s.near.delivery.acceptedFor id := by
  rw [(direction_of_reachable hr).read_eq hl]
  exact enqueuedFor_isPrefix_of_reachable hr

/-- **From one application to the other, in order.**  Whatever the two applications, the tasks, the
streams and the receiving tasks at both ends do, and in whatever order: what one application has read
on a channel, and then what is buffered for it, are payloads that the other one had accepted under the
id, in the order in which they were accepted and each of them once.  If none was dropped for want of
room, or cleared before it was read, they are the first ones, and what waits to be dispatched comes
next. -/
theorem payloads_in_order {id : ChannelId}
    (hr : Reachable Step (Orderly id) (start near nearCfg far farCfg) s) :
    (s.far.handedOut id ++ s.far.conn.buffer id).Sublist (s.near.delivery.acceptedFor id) ∧
      (s.far.Lossless id → s.far.handedOut id ++ s.far.conn.buffer id ++ s.far.conn.waitingFor id <+:
        s.near.delivery.acceptedFor id) :=
  ⟨read_sublist_of_reachable hr, read_isPrefix_of_reachable hr⟩

/-! ### One payload is read -/

theorem orderly_create {id : ChannelId} {d : Delivery S} (m : ℕ)
    (h : d.enqueuedFor id = d.acceptedFor id) :
    Delivery.Healthy id d (.link (.create id (.orderedReliable m))) ∧
      Delivery.Settled id d (.link (.create id (.orderedReliable m))) where
  left :=
    { fitting := fun b hb ↦ DeliveryAct.link.inj hb ▸ trivial
      fits := fun i p hp ↦ by simp at hp
      ordered := fun config hopens ↦ ⟨m, (LinkAct.create.inj hopens.1).2.symm⟩ }
  right _ _ := h

theorem orderly_send {id i : ChannelId} {p : Bytes} {d : Delivery S} (hp : d.Fits i p) :
    Delivery.Healthy id d (.link (.send i p)) ∧ Delivery.Settled id d (.link (.send i p)) where
  left :=
    { fitting := fun b hb ↦ DeliveryAct.link.inj hb ▸ hp.1
      fits := fun i' p' h ↦ by
        obtain ⟨rfl, rfl⟩ := LinkAct.send.inj (DeliveryAct.link.inj h)
        exact hp
      ordered := fun config h ↦ by cases h.1 }
  right config h := by cases h.1

/-- Nothing is enqueued in these steps, and nobody reads. -/
def Quiet : DeliveryAct → Prop
  | .link b => b ≠ .owner
  | .arrive _ => True
  | _ => False

/-- A run of the way alone. -/
theorem quiet_run {d : Delivery S}
    (hr : Reachable Delivery.Step (fun d a ↦ C d a ∧ Quiet a) s.near.delivery d) :
    Reachable Step (fun s a ↦ ∃ b, a = .near (.delivery b) ∧ C s.near.delivery b) s
      { s with near.delivery := d } := by
  refine hr.invariant (P := fun d ↦ Reachable Step (fun s a ↦ ∃ b, a = .near (.delivery b) ∧
    C s.near.delivery b) s { s with near.delivery := d }) .start ?_
  rintro d a d' hrun ⟨hC, hquiet⟩ hstep
  cases hstep with
  | link h => exact hrun.next ⟨_, rfl, hC⟩ (.near (.quiet (.link h) rfl rfl (h.sameArrived hquiet)))
  | arrive chunk hw h =>
    exact hrun.next ⟨_, rfl, hC⟩ (.near (.quiet (.arrive chunk hw h) rfl rfl ⟨rfl, rfl, rfl⟩))
  | _ => exact hquiet.elim

/-- The application sends nothing in this step. -/
def Silent (a : DeliveryAct) : Prop := ∀ i p, a ≠ .link (.send i p)

/-- Nothing is sent from the near end in this step, and nothing is handed out at the far end. -/
def Hushed : ConversationAct → Prop
  | .near (.delivery a) => Silent a
  | .far (.reads (.receive _)) => False
  | _ => True

/-- A channel was opened on a new connection. -/
def opened (near : S) : Delivery S :=
  { Delivery.start near {} with
    link.conn := ((Delivery.start near {}).link.conn.createConnectionChannel 0 (.orderedReliable 4)).2 }

/-- And a payload was sent on it. -/
def sent (near : S) (b : U8) : Delivery S :=
  { opened near with
    link.conn := ((opened near).link.conn.internalSendPayload 0 [b]).2
    accepted := [(0, [b])] }

theorem acts_opened (near : S) (q : Peer R) :
    Acts (.start near {}) q (.delivery (.link (.create 0 (.orderedReliable 4))))
      { Peer.start near {} with delivery := opened near } q :=
  .quiet (.link (.create _ 0 (.orderedReliable 4) rfl)) rfl rfl ⟨rfl, rfl, rfl⟩

theorem fits_opened (near : S) (b : U8) : (opened near).Fits 0 [b] := by
  refine ⟨?_, Nat.le_add_left 2 (8 * 1024 * 1024 - 2)⟩
  intro c config hc hmsg
  obtain rfl : (⟨0, 0⟩ : Channel) = c := Option.some.inj hc
  have heq := List.mem_singleton.1 hmsg
  injection heq with _ hconfig
  subst hconfig
  exact Nat.le_add_left 1 3

/-- A payload that was sent arrives. -/
theorem exists_arrived (near : S) (b : U8) : ∃ d : Delivery S,
    Reachable Delivery.Step (fun d a ↦ ((Delivery.Healthy 0 d a ∧ Delivery.Settled 0 d a) ∧ Silent a) ∧
      Quiet a) (sent near b) d ∧ d.accepted = [(0, [b])] ∧ d.enqueued = [] ∧ d.link.Alive ∧
      d.readers (.channel 0) = ⟨frame 0 [b], .new defaultMaxReliableFrameLen, frame 0 [b]⟩ ∧
      d.link.conn.specific = near := by
  have hstart : Reachable Delivery.Step (fun d a ↦ ((Delivery.Healthy 0 d a ∧
      Delivery.Settled 0 d a) ∧ Silent a) ∧ Quiet a) (sent near b) _ := .start
  have hspawned := hstart.next ⟨⟨orderly_link (by simp) (by simp) (by trivial), (by rintro _ _ ⟨⟩)⟩,
    (by rintro ⟨⟩)⟩ (.link (.spawn 0 rfl))
  have htask := hspawned.next ⟨⟨orderly_link (by simp) (by simp) (by trivial), (by rintro _ _ ⟨⟩)⟩,
    (by rintro ⟨⟩)⟩ (.link (.listenCreate rfl rfl))
  have hopened := htask.next ⟨⟨orderly_link (by simp) (by simp) (by rfl), (by rintro _ _ ⟨⟩)⟩,
    (by rintro ⟨⟩)⟩ (.link (.task (h := 0) rfl (.opened rfl rfl)))
  have hsending := hopened.next ⟨⟨orderly_link (by simp) (by simp) (by rfl), (by rintro _ _ ⟨⟩)⟩,
    (by rintro ⟨⟩)⟩ (.link (.task (h := 0) rfl (.recv rfl rfl (.ordered rfl rfl))))
  have hwritten := hsending.next ⟨⟨orderly_link (by simp) (by simp) (by rfl), (by rintro _ _ ⟨⟩)⟩,
    (by rintro ⟨⟩)⟩
    (.link (.task (h := 0) rfl (.sending rfl rfl rfl (.write (n := 6) (by decide) (Nat.le_refl 6)))))
  have harrived := hwritten.next ⟨⟨orderly_other (by simp), (by rintro _ _ ⟨⟩)⟩, (by trivial)⟩
    (.arrive (i := .channel 0) (frame 0 [b]) rfl List.prefix_rfl)
  exact ⟨_, harrived, rfl, rfl, rfl, rfl, rfl⟩

section next

variable {C : Conversation S R → ConversationAct → Prop} {s₀ : Conversation S R} {b : PeerAct}
  {p p' : Peer S} {q q' : Peer R}

theorem next_near (hr : Reachable Step C s₀ ⟨p, q⟩) (h : Acts p q b p' q') (hC : C ⟨p, q⟩ (.near b)) :
    Reachable Step C s₀ ⟨p', q'⟩ := hr.next hC (.near h)

theorem next_far (hr : Reachable Step C s₀ ⟨p, q⟩) (h : Acts q p b q' p') (hC : C ⟨p, q⟩ (.far b)) :
    Reachable Step C s₀ ⟨p', q'⟩ := hr.next hC (.far h)

end next

/-- A payload that has arrived is dispatched. -/
theorem exists_dispatched (near : S) (far : R) (b : U8) : ∃ s : Conversation S R,
    Reachable Step (fun s a ↦ Orderly 0 s a ∧ Hushed a)
      ⟨{ Peer.start near {} with delivery := sent near b }, .start far {}⟩ s ∧
      s.far.delivery.link.Alive ∧ s.far.dispatching = false ∧ s.far.Lossless 0 ∧
      (s.far.conn.internalReceivePayload 0).1 = some [b] ∧ s.far.handedOut 0 = [] ∧
      s.near.delivery.acceptedFor 0 = [[b]] ∧ s.far.conn.specific = far := by
  obtain ⟨d, hd, haccepted, hempty, halive, hreader, hspecific⟩ := exists_arrived near b
  have hfits : [b].length + 1 ≤ defaultMaxReliableFrameLen := Nat.le_add_left 2 (8 * 1024 * 1024 - 2)
  have hdecode := decode_frame (c := 0) (p := [b]) hfits (Nat.lt_of_le_of_lt hfits (by decide)) []
  rw [List.append_nil] at hdecode
  have hstep : Delivery.Step d (.enqueue (.channel 0)) _ :=
    .enqueue (Delivery.room_of_enqueued hempty) (by rw [hreader]; exact hdecode)
  have hway := quiet_run (s := ⟨{ Peer.start near {} with delivery := sent near b }, .start far {}⟩) hd
  have harrived : Reachable Step (fun s a ↦ Orderly 0 s a ∧ Hushed a) _
      ⟨{ Peer.start near {} with delivery := d }, .start far {}⟩ :=
    hway.mono fun ⟨_, ha, hC⟩ ↦ ha ▸ hC
  have henqueued := next_near harrived (.arrives hstep rfl ⟨rfl, rfl, rfl⟩ ⟨rfl, Nat.zero_lt_succ _⟩)
    ⟨orderly_other (d := d) (by simp), (by rintro _ _ ⟨⟩)⟩
  have hbegun := next_far henqueued (.reads (.beginDispatch rfl rfl)) ⟨trivial, trivial⟩
  have hturned := next_far hbegun (.reads (.turn rfl rfl)) ⟨trivial, trivial⟩
  have hended := next_far hturned (.reads (.endDispatch rfl rfl)) ⟨trivial, trivial⟩
  refine ⟨_, hended, rfl, rfl, ⟨rfl, fun e he ↦ absurd he List.not_mem_nil⟩, rfl, rfl, ?_, rfl⟩
  show (d.accepted.filter (·.1 = 0)).map Prod.snd = [[b]]
  rw [haccepted]
  rfl

/-- A channel is opened at the near end, a payload is sent on it, and it is read at the far end. -/
theorem exists_heard (near : S) (far : R) (b : U8) : ∃ s : Conversation S R,
    Reachable Step (Orderly 0) (start near {} far {}) s ∧ s.far.Lossless 0 ∧
      s.far.handedOut 0 = [[b]] ∧ s.near.delivery.acceptedFor 0 = [[b]] := by
  obtain ⟨⟨p, q⟩, hrest, halive, hdispatching, hlossless, hread, hnone, haccepted, -⟩ :=
    exists_dispatched near far b
  have hstart : Reachable Step (Orderly 0) (start near {} far {})
      ⟨Peer.start near {}, Peer.start far {}⟩ := .start
  have hopened := next_near hstart (acts_opened near _) (orderly_create 4 rfl)
  have hsent := next_near hopened (.quiet (.link (.send _ 0 [b] rfl)) rfl rfl ⟨rfl, rfl, rfl⟩)
    (orderly_send (fits_opened near b))
  have hdispatched := hsent.trans (hrest.mono And.left)
  have hheard := next_far hdispatched (.reads (.receive 0 halive hdispatching)) trivial
  refine ⟨_, hheard, ⟨hlossless.cleared, hlossless.errs⟩, ?_, haccepted⟩
  show Function.update q.handedOut 0 (q.handedOut 0 ++ _) 0 = [[b]]
  rw [Function.update_self, hnone, hread]
  rfl

/-- What was read is what had been accepted. -/
theorem payloads_in_order_heard : ∃ s : Conversation Unit Unit,
    Reachable Step (Orderly 0) (start () {} () {}) s ∧ s.far.handedOut 0 = [[7]] ∧
      (s.far.handedOut 0 ++ s.far.conn.buffer 0).Sublist (s.near.delivery.acceptedFor 0) ∧
      s.far.handedOut 0 ++ s.far.conn.buffer 0 ++ s.far.conn.waitingFor 0 <+:
        s.near.delivery.acceptedFor 0 := by
  obtain ⟨s, hr, hlossless, hheard, -⟩ := exists_heard () () 7
  obtain ⟨hsub, hle⟩ := payloads_in_order hr
  exact ⟨s, hr, hheard, hsub, hle hlossless⟩

end Conversation

end BevyIroh
