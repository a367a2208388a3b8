import BevyIroh.Lib.BoundedQueues
import BevyIroh.Shared.RecvChannels

/-!
# The buffers as bounded queues

What the receive channels are for: a fixed array of queues, one for each channel id below
`maxReceiveChannelsCount`, with room for `maxBufferedPayloadsCountPerChannel` payloads each.
`RecvChannelsConfiguration.limit` says which queues there are, and `AsQueues` what dispatching, reading
and clearing are to do to them.

The code keeps a vector that grows when a channel is first used, and has a branch of its own for the
first payload of a channel.  There it looks at the number of channels and not at the number of
payloads, so with room for none the first payload is stored all the same.  In every other configuration
the vector is the array of queues: `buffers_as_queues_iff`.
-/

set_option autoImplicit false

namespace BevyIroh

open Transition BoundedQueues

/-- The queues of a configuration. -/
def RecvChannelsConfiguration.limit (cfg : RecvChannelsConfiguration) (channelId : ChannelId) :
    Option ℕ :=
  if channelId.val < cfg.maxReceiveChannelsCount then some cfg.maxBufferedPayloadsCountPerChannel
  else none

/-- The error that reports a refusal. -/
def RecvChannelError.ofRefusal : ChannelId × Refusal → RecvChannelError
  | (channelId, .full) => .recvChannelFull channelId
  | (channelId, .noQueue) => .maxRecvChannelCountReached channelId

@[simp] theorem RecvChannelError.channelId_ofRefusal (x : ChannelId × Refusal) :
    (RecvChannelError.ofRefusal x).channelId = x.1 := by
  obtain ⟨c, r⟩ := x
  cases r <;> rfl

open RecvChannelError

namespace PeerConnection

variable {S : Type} {s s' : PeerConnection S} {cfg : RecvChannelsConfiguration}
  {ms : List (ChannelId × Bytes)} {errs : List RecvChannelError}

/-! ## One payload -/

/-- A payload is stored when its queue has room for it, and else reported for the right reason; unless
there is a buffer to be made that has no room for anything. -/
theorem storeReceivedPayload_fst (hcfg : s.recvChannelsCfg = cfg) (hs : s.BuffersBounded)
    {c : ChannelId} (hc : 0 < cfg.maxBufferedPayloadsCountPerChannel ∨
      cfg.maxReceiveChannelsCount ≤ c.val) (p : Bytes) :
    (s.storeReceivedPayload c p).1 =
      if 0 < room cfg.limit s.buffer c then none else some (ofRefusal (c, reason cfg.limit c)) := by
  subst hcfg
  rw [BuffersBounded] at hs
  rw [storeReceivedPayload, room, reason, RecvChannelsConfiguration.limit, buffer]
  split <;> rename_i hb <;> rw [hb]
  · -- a buffer that is there is below the number of channels
    have hlt : c.val < s.recvChannelsPayloads.length := (List.getElem?_eq_some_iff.1 hb).1
    rw [if_pos (Nat.lt_of_lt_of_le hlt hs)]
    simp only [Option.getD_some, Option.elim_some, Nat.sub_pos_iff_lt]
    split_ifs <;> rfl
  · split_ifs with hlt hroom hroom
    · rfl
    · simp only [Option.getD_some, Option.getD_none, List.length_nil] at hroom
      omega
    · simp at hroom
    · rfl

/-- **Storing a payload is offering it to the queue of its channel.** -/
theorem storeReceivedPayload_eq_offer (hcfg : s.recvChannelsCfg = cfg) (hs : s.BuffersBounded)
    {m : ChannelId × Bytes} (hm : 0 < cfg.maxBufferedPayloadsCountPerChannel ∨
      cfg.maxReceiveChannelsCount ≤ m.1.val) :
    (s.storeReceivedPayload m.1 m.2).1 =
        (offer cfg.limit s.buffer m).1.map (fun r ↦ ofRefusal (m.1, r)) ∧
      (s.storeReceivedPayload m.1 m.2).2.buffer = (offer cfg.limit s.buffer m).2 := by
  have hfst := storeReceivedPayload_fst hcfg hs hm m.2
  rcases Nat.eq_zero_or_pos (room cfg.limit s.buffer m.1) with hroom | hroom
  · rw [hroom, if_neg (Nat.lt_irrefl 0)] at hfst
    rw [offer_of_no_room hroom]
    refine ⟨hfst, ?_⟩
    rcases s.storeReceivedPayload_cases m.1 m.2 with ⟨hnone, -⟩ | ⟨e, -, hreport⟩
    · cases hnone.symm.trans hfst
    · rw [hreport]
  · rw [if_pos hroom] at hfst
    rw [offer_of_room hroom]
    refine ⟨hfst, funext fun j ↦ ?_⟩
    rcases s.storeReceivedPayload_cases m.1 m.2 with ⟨-, hbuf⟩ | ⟨e, -, hreport⟩
    · rw [hbuf j]
      simp only [Function.update_apply]
      split_ifs with hj
      · rw [hj]
      · rw [List.append_nil]
    · rw [hreport] at hfst
      cases hfst

/-- A first payload is stored whatever the limit. -/
theorem storeReceivedPayload_first (hnil : s.recvChannelsPayloads = []) {c : ChannelId}
    (hc : c.val < s.recvChannelsCfg.maxReceiveChannelsCount) (p : Bytes) :
    (s.storeReceivedPayload c p).1 = none := by
  rw [storeReceivedPayload, hnil]
  simp [hc]

theorem storeReceivedPayload_out_of_range (hnil : s.recvChannelsPayloads = []) {c : ChannelId}
    (hc : s.recvChannelsCfg.maxReceiveChannelsCount ≤ c.val) (p : Bytes) :
    s.storeReceivedPayload c p = (some (.maxRecvChannelCountReached c), s) := by
  rw [storeReceivedPayload, hnil]
  simp [Nat.not_lt.2 hc]

/-! ## One call -/

/-- **Dispatching is offering the payloads to their queues**, one after the other. -/
theorem DispatchLoop.eq_offerAll (h : DispatchLoop s ms errs s') (hcfg : s.recvChannelsCfg = cfg)
    (hs : s.BuffersBounded) (hms : 0 < cfg.maxBufferedPayloadsCountPerChannel ∨
      ∀ m ∈ ms, cfg.maxReceiveChannelsCount ≤ m.1.val) :
    errs = (offerAll cfg.limit s.buffer ms).1.map ofRefusal ∧
      s'.buffer = (offerAll cfg.limit s.buffer ms).2 := by
  induction h with
  | done => exact ⟨rfl, rfl⟩
  | arrive m _ ih => exact ih hcfg hs hms
  | @turn s s₁ s' m ms errs hd _ ih =>
    obtain ⟨-, -, hbufs, hcfg₁⟩ := dequeue_frame hd
    have hs₁ : s₁.BuffersBounded := by
      rw [BuffersBounded, hbufs, hcfg₁]
      exact hs
    rw [List.forall_mem_cons] at hms
    obtain ⟨hfst, hsnd⟩ := storeReceivedPayload_eq_offer (hcfg₁.trans hcfg) hs₁
      (m := m) (hms.imp_right fun h ↦ h.1)
    obtain ⟨herrs, hbuf⟩ := ih ((storeReceivedPayload_frame _ _ _).2.trans (hcfg₁.trans hcfg))
      (hs₁.storeReceivedPayload m.1 m.2) (hms.imp_right fun h ↦ h.2)
    rw [buffer_congr hbufs] at hfst hsnd
    rw [hsnd] at herrs hbuf
    refine ⟨?_, hbuf⟩
    rw [offerAll_cons, List.map_append, ← herrs, hfst]
    cases (offer cfg.limit s.buffer m).1 <;> rfl

theorem DispatchLoop.length_errs_le (h : DispatchLoop s ms errs s') : errs.length ≤ ms.length := by
  obtain ⟨outcomes, rfl, rfl, -⟩ := h.outcomes
  rw [List.length_map]
  exact List.length_filterMap_le _ _

/-- As long as there is no buffer: if all payloads are reported then none is for a channel that could
have one, and no buffer is made. -/
theorem DispatchLoop.all_reported_iff (h : DispatchLoop s ms errs s') (hcfg : s.recvChannelsCfg = cfg)
    (hnil : s.recvChannelsPayloads = []) :
    (errs.length = ms.length → ∀ m ∈ ms, cfg.maxReceiveChannelsCount ≤ m.1.val) ∧
      ((∀ m ∈ ms, cfg.maxReceiveChannelsCount ≤ m.1.val) → s'.recvChannelsPayloads = []) := by
  induction h with
  | done => exact ⟨fun _ ↦ by simp, fun _ ↦ hnil⟩
  | arrive m _ ih => exact ih hcfg hnil
  | @turn s s₁ s' m ms errs hd hloop ih =>
    obtain ⟨-, -, hbufs, hcfg₁⟩ := dequeue_frame hd
    have hcfg₁ : s₁.recvChannelsCfg = cfg := hcfg₁.trans hcfg
    have hnil₁ : s₁.recvChannelsPayloads = [] := hbufs.trans hnil
    rcases Nat.lt_or_ge m.1.val cfg.maxReceiveChannelsCount with hlt | hge
    · -- the payload is stored, so there is an error too few
      have hnone := storeReceivedPayload_first hnil₁ (hcfg₁ ▸ hlt) m.2
      have hle := hloop.length_errs_le
      rw [hnone, Option.toList_none, List.nil_append, List.length_cons]
      exact ⟨fun hlen ↦ by omega, fun hms ↦
        absurd (hms m List.mem_cons_self) (Nat.not_le.2 hlt)⟩
    · have hout := storeReceivedPayload_out_of_range hnil₁ (hcfg₁ ▸ hge) m.2
      rw [hout] at ih ⊢
      obtain ⟨hreported, hkept⟩ := ih hcfg₁ hnil₁
      rw [List.forall_mem_cons]
      exact ⟨fun hlen ↦ ⟨hge, hreported (Nat.succ.inj hlen)⟩, fun hms ↦ hkept hms.2⟩

end PeerConnection

/-! ## Runs -/

namespace Receiving

open PeerConnection

variable {S : Type} {r r' : Receiving S} {a : Action} {cfg : RecvChannelsConfiguration}

/-- The step does to the queues what it should. -/
def AsQueues (cfg : RecvChannelsConfiguration) (r : Receiving S) (a : Action) (r' : Receiving S) :
    Prop :=
  match a with
  | .arrive _ => r'.conn.buffer = r.conn.buffer
  | .dispatch ms errs =>
    errs = (offerAll cfg.limit r.conn.buffer ms).1.map ofRefusal ∧
      r'.conn.buffer = (offerAll cfg.limit r.conn.buffer ms).2
  | .receive c =>
    r'.handedOut = Function.update r.handedOut c
        (r.handedOut c ++ (take r.conn.buffer c).1.toList) ∧
      r'.conn.buffer = (take r.conn.buffer c).2
  | .clear => r'.conn.buffer = fun _ ↦ []

/-- What becomes of the payloads of a channel depends on its own queue only: it takes as many as it has
room for, and the others are reported. -/
def OwnOnly (cfg : RecvChannelsConfiguration) (r : Receiving S) (a : Action) (r' : Receiving S) :
    Prop :=
  ∀ ms errs, a = .dispatch ms errs → ∀ c,
    r'.conn.buffer c = r.conn.buffer c ++ (offeredTo c ms).take (room cfg.limit r.conn.buffer c) ∧
    errs.filter (·.channelId = c) =
      List.replicate ((offeredTo c ms).length - room cfg.limit r.conn.buffer c)
        (ofRefusal (c, reason cfg.limit c))

/-- No buffer is longer than its limit. -/
def Bounded (cfg : RecvChannelsConfiguration) (r : Receiving S) : Prop :=
  BoundedQueues.Bounded cfg.limit r.conn.buffer

/-- There is room for a payload in each buffer, or none of those dispatched is for a buffer. -/
def RoomForOne (cfg : RecvChannelsConfiguration) (_r : Receiving S) (a : Action) : Prop :=
  ∀ ms errs, a = .dispatch ms errs → 0 < cfg.maxBufferedPayloadsCountPerChannel ∨
    ∀ m ∈ ms, cfg.maxReceiveChannelsCount ≤ m.1.val

/-- What the steps keep.  With room for no payload there are no buffers. -/
structure Sized (cfg : RecvChannelsConfiguration) (r : Receiving S) : Prop where
  cfg_eq : r.conn.recvChannelsCfg = cfg
  bounded : r.conn.BuffersBounded
  nil : cfg.maxBufferedPayloadsCountPerChannel = 0 → r.conn.recvChannelsPayloads = []

theorem AsQueues.ownOnly (h : AsQueues cfg r a r') : OwnOnly cfg r a r' := by
  rintro ms errs rfl c
  obtain ⟨rfl, hbuf⟩ := h
  refine ⟨by rw [hbuf, offerAll_at], ?_⟩
  have hfilter := congrArg (List.map ofRefusal) (refusals_at cfg.limit r.conn.buffer ms c)
  rw [List.map_replicate] at hfilter
  rw [← hfilter, List.filter_map]
  congr 2
  funext x
  simp

theorem AsQueues.bounded (h : AsQueues cfg r a r') (hr : Bounded cfg r) : Bounded cfg r' := by
  rw [Bounded] at hr ⊢
  cases a with
  | arrive m =>
    rw [show r'.conn.buffer = r.conn.buffer from h]
    exact hr
  | dispatch ms errs =>
    rw [h.2]
    exact hr.offerAll ms
  | receive c =>
    rw [h.2]
    exact hr.take c
  | clear =>
    rw [show r'.conn.buffer = fun _ ↦ [] from h]
    exact bounded_nil _

theorem asQueues_receive (r : Receiving S) (c : ChannelId) :
    (r.conn.internalReceivePayload c).1 = (take r.conn.buffer c).1 ∧
      (r.conn.internalReceivePayload c).2.buffer = (take r.conn.buffer c).2 := by
  rcases r.conn.internalReceivePayload_cases c with ⟨hb, hnone, hbuf⟩ | ⟨p, rest, hb, hp, hbuf⟩
  · rw [hnone, hbuf, take, hb]
    refine ⟨rfl, ?_⟩
    rw [List.tail_nil, ← hb, Function.update_eq_self]
  · rw [hp, take, hb]
    refine ⟨rfl, funext fun j ↦ ?_⟩
    rw [hbuf j]
    simp only [Function.update_apply, List.tail_cons]

/-- With room for a payload each step is one of the queues. -/
theorem Sized.step (h : r.Sized cfg) (hc : RoomForOne cfg r a) (hs : Step r a r') :
    AsQueues cfg r a r' ∧ r'.Sized cfg := by
  obtain ⟨hcfg, hb⟩ := BuffersBounded.step h.bounded hs
  have hcfg := hcfg.trans h.cfg_eq
  cases hs with
  | arrive m => exact ⟨rfl, hcfg, hb, h.nil⟩
  | dispatch hloop =>
    refine ⟨hloop.eq_offerAll h.cfg_eq h.bounded (hc _ _ rfl), hcfg, hb, fun hzero ↦ ?_⟩
    refine (hloop.all_reported_iff h.cfg_eq (h.nil hzero)).2 ((hc _ _ rfl).resolve_left ?_)
    exact Nat.not_lt.2 (Nat.le_of_eq hzero)
  | receive c =>
    obtain ⟨hfst, hsnd⟩ := asQueues_receive r c
    refine ⟨⟨by rw [hfst], hsnd⟩, hcfg, hb, fun hzero ↦ ?_⟩
    simp [internalReceivePayload, h.nil hzero]
  | clear =>
    refine ⟨funext fun c ↦ buffer_clearReceivedPayloads _ c, hcfg, hb, fun hzero ↦ ?_⟩
    simp [clearReceivedPayloads, h.nil hzero]

/-- Without room for a payload, a step of the queues dispatches nothing that is for a buffer. -/
theorem Sized.roomForOne (h : r.Sized cfg) (hs : Step r a r') (hq : AsQueues cfg r a r') :
    RoomForOne cfg r a := by
  rintro ms errs rfl
  rcases Nat.eq_zero_or_pos cfg.maxBufferedPayloadsCountPerChannel with hzero | hpos
  · right
    cases hs with
    | dispatch hloop =>
      refine (hloop.all_reported_iff h.cfg_eq (h.nil hzero)).1 ?_
      rw [hq.1, List.length_map]
      refine length_refusals (fun c ↦ ?_) _ _
      rw [RecvChannelsConfiguration.limit, hzero]
      split_ifs <;> rfl
  · exact .inl hpos

/-- **When the buffers are bounded queues.**  From a new connection, each step of a run does to the
buffers what it should do to an array of bounded queues, the payloads of a channel are treated as if
there were no other channel, and no buffer is ever longer than its limit, exactly when the configuration
has room for a payload or nothing is dispatched that is for a buffer. -/
theorem buffers_as_queues_iff {specific : S} {capacity : ℕ} {closeSend : Broadcast CloseReason}
    {fromChannels : Mpsc ChannelAsyncMessage} {toChannels : Mpsc ChannelSyncMessage}
    {cfg : RecvChannelsConfiguration} {tr : List (Action × Receiving S)}
    (h : Run Step (start (.new specific { capacity } closeSend fromChannels toChannels cfg)) tr) :
    (Run (AsQueues cfg) (start (.new specific { capacity } closeSend fromChannels toChannels cfg)) tr ∧
      Run (OwnOnly cfg) (start (.new specific { capacity } closeSend fromChannels toChannels cfg)) tr ∧
      Always (Bounded cfg)
        (start (.new specific { capacity } closeSend fromChannels toChannels cfg)) tr) ↔
    EachStep (RoomForOne cfg)
      (start (.new specific { capacity } closeSend fromChannels toChannels cfg)) tr := by
  have hstart : (start (.new specific { capacity } closeSend fromChannels toChannels cfg)).Sized cfg :=
    ⟨rfl, Nat.zero_le _, fun _ ↦ rfl⟩
  rw [← h.refines_iff hstart Sized.step Sized.roomForOne]
  exact ⟨fun hr ↦ hr.1, fun hr ↦
    ⟨hr, hr.mono AsQueues.ownOnly, hr.always (bounded_nil _) fun hb hq ↦ hq.bounded hb⟩⟩

/-! ## Payloads dispatched -/

/-- Two channels, with room for one payload on each. -/
def twoOfOne : RecvChannelsConfiguration where
  maxReceiveChannelsCount := 2
  maxBufferedPayloadsCountPerChannel := 1

def twoChannels : PeerConnection Unit :=
  .new () { capacity := 4 } { capacity := 1 } { capacity := 1 } { capacity := 1 } twoOfOne

/-- Four payloads have arrived: the third one finds the queue of its channel full, and the channel of the
last one is out of range. -/
def fourArrived : PeerConnection Unit :=
  (((twoChannels.arrive (1, [5])).arrive (0, [7])).arrive (0, [8])).arrive (2, [9])

/-- They are dispatched in one call, and a channel is read. -/
def fourDispatched : List (Action × Receiving Unit) :=
  let dispatched := fourArrived.dispatchReceivedPayloadsToChannelBuffers.2
  let errs := [.recvChannelFull 0, .maxRecvChannelCountReached 2]
  [(.arrive (1, [5]), start (twoChannels.arrive (1, [5]))),
    (.arrive (0, [7]), start ((twoChannels.arrive (1, [5])).arrive (0, [7]))),
    (.arrive (0, [8]), start (((twoChannels.arrive (1, [5])).arrive (0, [7])).arrive (0, [8]))),
    (.arrive (2, [9]), start fourArrived),
    (.dispatch fourArrived.bytesFromPeer.queued errs, { start dispatched with errs }),
    (.receive 0, { start (dispatched.internalReceivePayload 0).2 with
      errs, handedOut := Function.update (fun _ ↦ []) 0 [[7]] })]

theorem run_fourDispatched : Run Step (start twoChannels) fourDispatched := by
  obtain ⟨errs, hloop, hresult⟩ := dispatchLoop_of_dispatch fourArrived
  have herror : fourArrived.dispatchReceivedPayloadsToChannelBuffers.1 =
      .error [.recvChannelFull 0, .maxRecvChannelCountReached 2] := rfl
  rw [herror] at hresult
  split_ifs at hresult
  obtain rfl := Except.error.inj hresult
  exact .cons (.arrive _ _) (.cons (.arrive _ _) (.cons (.arrive _ _) (.cons (.arrive _ _)
    (.cons (.dispatch hloop) (.cons (.receive _ 0) (.nil _))))))

/-- Two of the payloads are refused; the others are in their queues, and one of them is read. -/
theorem buffers_as_queues_one :
    (last (start twoChannels) fourDispatched).conn.buffer 0 = [] ∧
      (last (start twoChannels) fourDispatched).handedOut 0 = [[7]] ∧
      (last (start twoChannels) fourDispatched).conn.buffer 1 = [[5]] ∧
      (last (start twoChannels) fourDispatched).errs =
        [.recvChannelFull 0, .maxRecvChannelCountReached 2] ∧
      Run (AsQueues twoOfOne) (start twoChannels) fourDispatched ∧
      Run (OwnOnly twoOfOne) (start twoChannels) fourDispatched ∧
      Always (Bounded twoOfOne) (start twoChannels) fourDispatched := by
  have hroom : ∀ (r : Receiving Unit) a, RoomForOne twoOfOne r a := fun _ _ _ _ _ ↦ .inl Nat.one_pos
  exact ⟨rfl, rfl, rfl, rfl, (buffers_as_queues_iff run_fourDispatched).2
    ⟨hroom _ _, hroom _ _, hroom _ _, hroom _ _, hroom _ _, hroom _ _, trivial⟩⟩

/-- A new connection with room for so many payloads on each channel. -/
def withRoom (room : ℕ) : PeerConnection Unit :=
  .new () { capacity := 1 } { capacity := 1 } { capacity := 1 } { capacity := 1 }
    { maxBufferedPayloadsCountPerChannel := room }

/-- A payload arrives and is dispatched. -/
def oneDispatched (room : ℕ) : List (Action × Receiving Unit) :=
  let arrived := (withRoom room).arrive (0, [7])
  [(.arrive (0, [7]), start arrived),
    (.dispatch [(0, [7])] [], start arrived.dispatchReceivedPayloadsToChannelBuffers.2)]

theorem run_oneDispatched (room : ℕ) : Run Step (start (withRoom room)) (oneDispatched room) := by
  obtain ⟨errs, hloop, hresult⟩ := dispatchLoop_of_dispatch ((withRoom room).arrive (0, [7]))
  have hok : ((withRoom room).arrive (0, [7])).dispatchReceivedPayloadsToChannelBuffers.1 =
      .ok () := rfl
  rw [hok] at hresult
  split_ifs at hresult with herrs
  subst herrs
  exact .cons (.arrive _ _) (.cons (.dispatch hloop) (.nil _))

/-- With room for no payload at all, the first one is stored and not reported. -/
theorem first_payload_exceeds_limit :
    Run Step (start (withRoom 0)) (oneDispatched 0) ∧
      (last (start (withRoom 0)) (oneDispatched 0)).conn.buffer 0 = [[7]] ∧
      (offerAll (RecvChannelsConfiguration.limit { maxBufferedPayloadsCountPerChannel := 0 })
        (withRoom 0).buffer [(0, [7])]).1 = [(0, .full)] ∧
      ¬ Always (Bounded { maxBufferedPayloadsCountPerChannel := 0 }) (start (withRoom 0))
        (oneDispatched 0) ∧
      ¬ Run (AsQueues { maxBufferedPayloadsCountPerChannel := 0 }) (start (withRoom 0))
        (oneDispatched 0) := by
  have hqueues : ¬ Run (AsQueues { maxBufferedPayloadsCountPerChannel := 0 }) (start (withRoom 0))
      (oneDispatched 0) := by
    rintro (_ | ⟨-, _ | ⟨hdispatch, -⟩⟩)
    exact absurd hdispatch.1 (by decide)
  refine ⟨run_oneDispatched 0, rfl, by decide, fun h ↦ ?_, hqueues⟩
  have hlast := h.2 _ (List.mem_cons_of_mem _ List.mem_cons_self) 0
  exact absurd hlast (by decide)

end Receiving

end BevyIroh
