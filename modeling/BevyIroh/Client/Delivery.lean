import BevyIroh.Client.Session
import BevyIroh.Shared.Delivery

/-!
# Delivery from a client

The connection of a client with the tasks, the streams and the receiving end behind it
(`BevyIroh.Shared.Delivery`).  Here the steps of the application are the calls it makes: the pool of
ids decides which id a channel gets, and it hands out the smallest one it has, so an id that was given
back is soon used again.

Each call is none, one or two steps of the general system (`called_run`), so that what holds of all
its runs holds of those of a client.
-/

set_option autoImplicit false

namespace BevyIroh

open Transition

namespace ClientSideConnection

/-- The payloads that this call puts into the queue of a channel. -/
def accepts (self : ClientSideConnection) : ClientCall → List (ChannelId × Bytes)
  | .sendPayloadOn id payload =>
    match (self.sendPayloadOn id payload).1 with
    | .ok () => [(id, payload)]
    | .error _ => []
  | .sendPayload payload =>
    match self.defaultChannel, (self.sendPayload payload).1 with
    | some id, .ok () => [(id, payload)]
    | _, _ => []
  | _ => []

/-- Without a channel to use `sendPayload` is `sendPayloadOn` on the default channel. -/
theorem sendPayload_cases (self : ClientSideConnection) (payload : Bytes) :
    self.defaultChannel = none ∧ (self.call (.sendPayload payload) = self ∧
        self.accepts (.sendPayload payload) = []) ∨
      ∃ id, self.defaultChannel = some id ∧
        self.call (.sendPayload payload) = self.call (.sendPayloadOn id payload) ∧
        self.accepts (.sendPayload payload) = self.accepts (.sendPayloadOn id payload) := by
  cases hd : self.defaultChannel with
  | none =>
    have hd' : self.specific.sendChannelIds.defaultChannel = none := hd
    refine .inl ⟨rfl, ?_, ?_⟩
    · simp only [call, sendPayload, hd']
    · simp only [accepts, hd]
  | some id =>
    have hd' : self.specific.sendChannelIds.defaultChannel = some id := hd
    refine .inr ⟨id, rfl, ?_, ?_⟩
    · simp only [call, sendPayload, hd']
      split <;> rename_i hsend <;> rw [hsend]
    · simp only [accepts, hd, sendPayload, hd']
      rcases self.sendPayloadOn id payload with ⟨r, conn⟩
      cases r <;> rfl

end ClientSideConnection

namespace Delivery

/-- The connection as the application sees it. -/
def conn (s : Delivery ClientConnection) : ClientSideConnection := s.link.conn

/-- After a call of the application. -/
def called (s : Delivery ClientConnection) (c : ClientCall) : Delivery ClientConnection :=
  { s with
    link.conn := s.conn.call c
    accepted := s.accepted ++ s.conn.accepts c }

inductive ClientAct where
  | call (c : ClientCall)
  | setState (state : InternalConnectionState)
  | other (a : DeliveryAct)
deriving DecidableEq, Repr

/-- The steps of the general system that a client takes by one of its calls, or by `setState`. -/
def OfCalls : DeliveryAct → Prop
  | .link (.create _ _) => True
  | .link (.send _ _) => True
  | .link (.closeChannel _) => True
  | .link .owner => True
  | _ => False

inductive ClientStep : Delivery ClientConnection → ClientAct → Delivery ClientConnection → Prop
  | call {s : Delivery ClientConnection} (c : ClientCall) (ha : s.link.Alive) :
      ClientStep s (.call c) (s.called c)
  /-- The client learns that it is connected, or that it is not. -/
  | setState {s : Delivery ClientConnection} (state : InternalConnectionState) :
      ClientStep s (.setState state)
        { s with link.conn := s.conn.setState state }
  | other {s s' : Delivery ClientConnection} {a : DeliveryAct} (ha : ¬ OfCalls a)
      (h : Step s a s') : ClientStep s (.other a) s'

/-- The call opens a channel under this id. -/
def CallOpens (id : ChannelId) (s : Delivery ClientConnection) (config : ChannelConfig)
    (a : ClientAct) : Prop :=
  a = .call (.openChannel config) ∧
    (s.conn.openChannel config).1 = .ok id

/-- No step is a fault, each payload fits its channel and the receiver, and the id is that of ordered
channels only. -/
structure ClientHealthy (id : ChannelId) (s : Delivery ClientConnection) (a : ClientAct) : Prop where
  fitting : ∀ b, a = .other (.link b) → s.link.Fitting b
  sendPayloadOn : ∀ i p, a = .call (.sendPayloadOn i p) → s.Fits i p
  sendPayload : ∀ i p, a = .call (.sendPayload p) →
    s.conn.defaultChannel = some i → s.Fits i p
  ordered : ∀ config, CallOpens id s config a → ∃ m, config = .orderedReliable m

/-- A channel is opened under this id only when everything accepted under it was enqueued. -/
def ClientSettled (id : ChannelId) (s : Delivery ClientConnection) (a : ClientAct) : Prop :=
  ∀ config, CallOpens id s config a → s.enqueuedFor id = s.acceptedFor id

/-! ## Calls are steps -/

section Calls

variable {s : Delivery ClientConnection} {C : Delivery ClientConnection → DeliveryAct → Prop}

theorem owner_run (hC : ∀ s, C s (.link .owner)) {conn : ClientSideConnection}
    (h : Link.SameLink s.link.conn conn) : Reachable Step C s { s with link.conn := conn } := by
  have hstep := Step.link (s := s) (.owner h)
  have hnone : s.link.accepts .owner = [] := rfl
  rw [hnone, List.append_nil] at hstep
  exact Reachable.start.next (hC s) hstep

theorem sendPayloadOn_run {i : ChannelId} {p : Bytes} (ha : s.link.Alive)
    (hC : C s (.link (.send i p))) : Reachable Step C s (s.called (.sendPayloadOn i p)) := by
  rcases s.conn.sendPayloadOn_cases i p with ⟨hr, hconn⟩ | ⟨hr, hconn⟩
  · have hsame : s.called (.sendPayloadOn i p) = s := by
      have hnone : s.conn.accepts (.sendPayloadOn i p) = [] := by
        cases hres : (s.conn.sendPayloadOn i p).1 with
        | ok => exact absurd hres hr
        | error => simp only [ClientSideConnection.accepts, hres]
      have hcall : s.conn.call (.sendPayloadOn i p) = s.conn := hconn
      rw [called, hnone, List.append_nil, hcall]
      rfl
    rw [hsame]
    exact .start
  · have haccepts : s.conn.accepts (.sendPayloadOn i p) = s.link.accepts (.send i p) := by
      have hr' : (s.conn.sendPayloadOn i p).1 = .ok () ↔
          (s.link.conn.internalSendPayload i p).1 = .ok () := hr
      rw [ClientSideConnection.accepts, Link.accepts]
      split <;> split <;> simp_all
    have hcall : s.conn.call (.sendPayloadOn i p) = (s.link.conn.internalSendPayload i p).2 := hconn
    rw [called, haccepts, hcall]
    exact Reachable.start.next hC (.link (.send s.link i p ha))

theorem openChannel_run {config : ChannelConfig} (ha : s.link.Alive)
    (hC : ∀ s, C s (.link .owner))
    (hcreate : ∀ i ids, s.conn.specific.sendChannelIds.takeId = (.ok i, ids) →
      C { s with link.conn := s.conn.withIds ids } (.link (.create i config))) :
    Reachable Step C s (s.called (.openChannel config)) := by
  have hnone : s.conn.accepts (.openChannel config) = [] := rfl
  rw [called, hnone, List.append_nil]
  rcases htake : s.conn.specific.sendChannelIds.takeId with ⟨r, ids⟩
  cases r with
  | error e =>
    refine owner_run hC ?_
    have hcall : s.conn.call (.openChannel config) = s.conn.withIds ids := by
      simp only [ClientSideConnection.call, ClientSideConnection.openChannel, htake]
    rw [hcall]
    exact ⟨rfl, rfl, rfl, rfl, rfl⟩
  | ok i =>
    have hcall : s.conn.call (.openChannel config) = _ :=
      (ClientSideConnection.openChannel_of_takeId_ok htake config).1
    have hids : Reachable Step C s { s with link.conn := s.conn.withIds ids } :=
      owner_run hC ⟨rfl, rfl, rfl, rfl, rfl⟩
    rw [hcall]
    have hstep := Step.link (s := { s with link.conn := s.conn.withIds ids }) (.create _ i config ha)
    have hnone : Link.accepts { s.link with conn := s.conn.withIds ids } (.create i config) = [] := rfl
    rw [hnone, List.append_nil] at hstep
    exact hids.next (hcreate i ids htake) hstep

theorem closeChannel_run {i : ChannelId} (ha : s.link.Alive) (hC : ∀ s, C s (.link .owner))
    (hclose : C s (.link (.closeChannel i))) :
    Reachable Step C s (s.called (.closeChannel i)) := by
  have hnone : s.conn.accepts (.closeChannel i) = [] := rfl
  rw [called, hnone, List.append_nil]
  have hstep := Step.link (s := s) (.closeChannel s.link i ha)
  have hnone : s.link.accepts (.closeChannel i) = [] := rfl
  rw [hnone, List.append_nil] at hstep
  have hclosed := Reachable.start.next hclose hstep
  rcases s.conn.closeChannel_snd_eq i with hcall | ⟨ids, hcall⟩
  · have hcall : s.conn.call (.closeChannel i) = _ := hcall
    rw [hcall]
    exact hclosed
  · have hcall : s.conn.call (.closeChannel i) = _ := hcall
    rw [hcall]
    exact hclosed.trans (owner_run hC ⟨rfl, rfl, rfl, rfl, rfl⟩)

/-- Steps that neither open a channel nor send. -/
theorem healthy_of_ne {id : ChannelId} {K : Prop} {a : LinkAct}
    (hcreate : ∀ config, a ≠ .create id config) (hsend : ∀ i p, a ≠ .send i p)
    (ha : s.link.Fitting a) : Healthy id s (.link a) ∧ (K → Settled id s (.link a)) where
  left :=
    { fitting := fun _ hb ↦ DeliveryAct.link.inj hb ▸ ha
      fits := fun i p h ↦ absurd (DeliveryAct.link.inj h) (hsend i p)
      ordered := fun config h ↦ absurd h.1 (hcreate config) }
  right _ config h := absurd h.1 (hcreate config)

theorem healthy_owner {id : ChannelId} {K : Prop} (s : Delivery ClientConnection) :
    Healthy id s (.link .owner) ∧ (K → Settled id s (.link .owner)) :=
  healthy_of_ne (by simp) (by simp) trivial

theorem healthy_create {id : ChannelId} {K : Prop} {config : ChannelConfig} {i : ChannelId}
    {ids : ChannelsIdsPool} (hc : ClientHealthy id s (.call (.openChannel config)))
    (hK : K → ClientSettled id s (.call (.openChannel config)))
    (htake : s.conn.specific.sendChannelIds.takeId = (.ok i, ids)) :
    Healthy id { s with link.conn := s.conn.withIds ids } (.link (.create i config)) ∧
      (K → Settled id { s with link.conn := s.conn.withIds ids } (.link (.create i config))) := by
  have hopens : ∀ config', Opens id { s with link.conn := s.conn.withIds ids } config'
      (.link (.create i config)) → CallOpens id s config' (.call (.openChannel config)) := by
    rintro config' ⟨heq, hok⟩
    obtain ⟨rfl, rfl⟩ := LinkAct.create.inj heq
    exact ⟨rfl, ((ClientSideConnection.openChannel_of_takeId_ok htake config).2 i).2 ⟨rfl, hok⟩⟩
  refine ⟨⟨fun b hb ↦ DeliveryAct.link.inj hb ▸ trivial, fun i' p h ↦ ?_, fun config' h ↦ ?_⟩,
    fun hk config' h ↦ hK hk config' (hopens config' h)⟩
  · cases DeliveryAct.link.inj h
  · exact hc.ordered config' (hopens config' h)

theorem healthy_send {id : ChannelId} {K : Prop} {i : ChannelId} {p : Bytes} (hp : s.Fits i p) :
    Healthy id s (.link (.send i p)) ∧ (K → Settled id s (.link (.send i p))) := by
  refine ⟨⟨fun b hb ↦ DeliveryAct.link.inj hb ▸ hp.1, fun i' p' h ↦ ?_, fun config h ↦ ?_⟩,
    fun _ config h ↦ ?_⟩
  · obtain ⟨rfl, rfl⟩ := LinkAct.send.inj (DeliveryAct.link.inj h)
    exact hp
  · cases h.1
  · cases h.1

/-- **A call is none, one or two steps of the general system.** -/
theorem called_run {id : ChannelId} {K : Prop} {c : ClientCall} (ha : s.link.Alive)
    (hc : ClientHealthy id s (.call c)) (hK : K → ClientSettled id s (.call c)) :
    Reachable Step (fun s a ↦ Healthy id s a ∧ (K → Settled id s a)) s (s.called c) := by
  cases c with
  | openChannel config =>
    exact openChannel_run ha healthy_owner fun i ids htake ↦ healthy_create hc hK htake
  | closeChannel i => exact closeChannel_run ha healthy_owner (healthy_of_ne (by simp) (by simp) trivial)
  | sendPayloadOn i p => exact sendPayloadOn_run ha (healthy_send (hc.sendPayloadOn i p rfl))
  | sendPayload p =>
    rcases s.conn.sendPayload_cases p with ⟨-, hcall, haccepts⟩ | ⟨i, hd, hcall, haccepts⟩
    · rw [called, hcall, haccepts, List.append_nil]
      exact .start
    · rw [called, hcall, haccepts]
      exact sendPayloadOn_run ha (healthy_send (hc.sendPayload i p rfl hd))
  | setDefaultChannel i =>
    have hnone : s.conn.accepts (.setDefaultChannel i) = [] := rfl
    rw [called, hnone, List.append_nil]
    exact owner_run healthy_owner ⟨rfl, rfl, rfl, rfl, rfl⟩

end Calls

/-- A run of a client is one of the general system. -/
theorem run_of_client {id : ChannelId} {K : Prop} {s₀ s : Delivery ClientConnection}
    (hr : Reachable ClientStep (fun s a ↦ ClientHealthy id s a ∧ (K → ClientSettled id s a)) s₀ s) :
    Reachable Step (fun s a ↦ Healthy id s a ∧ (K → Settled id s a)) s₀ s := by
  refine hr.invariant .start fun {s a s'} hrun ⟨hc, hK⟩ hstep ↦ hrun.trans ?_
  cases hstep with
  | call c ha => exact called_run ha hc hK
  | setState state =>
    exact owner_run healthy_owner ⟨rfl, rfl, rfl, rfl, rfl⟩
  | @other _ a ha h =>
    have hopens : ∀ config, ¬ Opens id s config a := fun config hopens ↦ by
      cases a with
      | link b =>
        obtain ⟨rfl, -⟩ := hopens
        exact ha trivial
      | _ => exact hopens
    refine Reachable.start.next ⟨⟨fun b hb ↦ hc.fitting b (congrArg _ hb), fun i p hb ↦ ?_,
      fun config h ↦ absurd h (hopens config)⟩, fun _ config h ↦ absurd h (hopens config)⟩ h
    subst hb
    exact absurd trivial ha

/-- **Ordered delivery.**  On a healthy connection, in every run and whatever happens between the
calls of the client, its tasks, the streams and the receiving tasks, an id that is used for ordered
channels only is in order for each channel opened under it.  If moreover it is used again only when
everything accepted under it was enqueued, what is enqueued under it is always the beginning of what
was accepted under it. -/
theorem ordered_delivery (specific : ClientConnection) (cfg : RecvChannelsConfiguration)
    (id : ChannelId) :
    (∀ s, Reachable ClientStep (ClientHealthy id) (start specific cfg) s → OrderedPerOpening id s) ∧
      ∀ s, Reachable ClientStep (fun s a ↦ ClientHealthy id s a ∧ ClientSettled id s a)
          (start specific cfg) s →
        s.enqueuedFor id <+: s.acceptedFor id := by
  constructor
  · intro s hr
    have hrun := run_of_client (K := False) (hr.mono fun h ↦ ⟨h, False.elim⟩)
    exact orderedPerOpening_of_reachable (hrun.mono And.left)
  · intro s hr
    have hrun := run_of_client (K := True) (hr.mono fun h ↦ ⟨h.1, fun _ ↦ h.2⟩)
    exact enqueuedFor_isPrefix_of_reachable (hrun.mono fun h ↦ ⟨h.1, h.2 trivial⟩)

/-! ## An id that is used twice -/

section Reopened

open ClientSideConnection

/-- The pool once its first id is taken. -/
def oneTaken : ChannelsIdsPool := ⟨Finset.univ.erase 0, some 0⟩

theorem call_openChannel {c : ClientSideConnection} (hids : c.specific.sendChannelIds = .new)
    (config : ChannelConfig) :
    c.call (.openChannel config) = ((c.withIds oneTaken).createConnectionChannel 0 config).2 :=
  (openChannel_of_takeId_ok (hids ▸ ChannelsIdsPool.takeId_new) config).1

/-- The channel with id 0 is closed. -/
def closedZero (c : ClientSideConnection) : ClientSideConnection :=
  withIds (c.internalCloseChannel 0).2 .new

theorem call_closeChannel {c : ClientSideConnection} (hids : c.specific.sendChannelIds = oneTaken)
    (hclose : (c.internalCloseChannel 0).1 = .ok ()) : c.call (.closeChannel 0) = closedZero c := by
  have hspecific := PeerConnection.specific_internalCloseChannel (s := c) (i := 0)
  have hpool : oneTaken.releaseId 0 = .new := by
    rw [ChannelsIdsPool.releaseId, oneTaken, Finset.insert_erase (Finset.mem_univ 0), if_pos rfl,
      ChannelsIdsPool.new]
  rw [call, ClientSideConnection.closeChannel]
  rcases hc : c.internalCloseChannel 0 with ⟨r, c'⟩
  rw [hc] at hclose hspecific
  obtain rfl : r = .ok () := hclose
  have hids' : c'.specific.sendChannelIds = oneTaken := (congrArg _ hspecific).trans hids
  simp only [closedZero, hc, hids', hpool]

/-- The conditions of `ordered_delivery` on a step; `K` says whether the second one is wanted, too. -/
def Good (K : Prop) (s : Delivery ClientConnection) (a : ClientAct) : Prop :=
  ClientHealthy 0 s a ∧ (K → ClientSettled 0 s a)

variable {K : Prop} {s : Delivery ClientConnection}

theorem good_open (m : ℕ) (hK : K → s.enqueuedFor 0 = s.acceptedFor 0) :
    Good K s (.call (.openChannel (.orderedReliable m))) :=
  ⟨⟨by rintro _ ⟨⟩, by rintro _ _ ⟨⟩, by rintro _ _ ⟨⟩, fun config h ↦ by cases h.1; exact ⟨m, rfl⟩⟩,
    fun hk _ _ ↦ hK hk⟩

theorem good_close : Good K s (.call (.closeChannel 0)) :=
  ⟨⟨by rintro _ ⟨⟩, by rintro _ _ ⟨⟩, by rintro _ _ ⟨⟩, fun config h ↦ by cases h.1⟩,
    fun _ config h ↦ by cases h.1⟩

theorem good_send {p : Bytes} (hp : s.Fits 0 p) : Good K s (.call (.sendPayloadOn 0 p)) :=
  ⟨⟨by rintro _ ⟨⟩, by rintro _ _ ⟨⟩; exact hp, by rintro _ _ ⟨⟩, fun config h ↦ by cases h.1⟩,
    fun _ config h ↦ by cases h.1⟩

theorem good_other {a : DeliveryAct} (h : ∀ b, a = .link b → s.link.Fitting b) :
    Good K s (.other a) :=
  ⟨⟨fun b hb ↦ h b (ClientAct.other.inj hb), by rintro _ _ ⟨⟩, by rintro _ _ ⟨⟩,
    fun config h ↦ by cases h.1⟩, fun _ config h ↦ by cases h.1⟩

/-- The connection once a channel is opened under id 0 and a payload sent on it. -/
def openSend (c : ClientSideConnection) (p : Bytes) : ClientSideConnection :=
  (((c.withIds oneTaken).createConnectionChannel 0 (.orderedReliable 4)).2.internalSendPayload 0 p).2

/-- The calls that do this. -/
theorem openSend_run {p : Bytes} {c : ClientSideConnection} (ha : s.link.Alive)
    (hids : s.conn.specific.sendChannelIds = .new) (hK : K → s.enqueuedFor 0 = s.acceptedFor 0)
    (hc : c = ((s.conn.withIds oneTaken).createConnectionChannel 0 (.orderedReliable 4)).2)
    (halive : c.toChannels.sender = true) (hstate : c.specific.state = .connecting)
    (hp : Fits { s with link.conn := c } 0 p) (hok : (c.internalSendPayload 0 p).1 = .ok ()) :
    Reachable ClientStep (Good K) s
      { s with link.conn := openSend s.conn p, accepted := s.accepted ++ [(0, p)] } := by
  have hopened := Reachable.start.next (good_open 4 hK)
    (ClientStep.call (.openChannel (.orderedReliable 4)) ha)
  have hcalled : s.called (.openChannel (.orderedReliable 4)) = { s with link.conn := c } := by
    have hnone : s.conn.accepts (.openChannel (.orderedReliable 4)) = [] := rfl
    rw [called, call_openChannel hids, hc, hnone, List.append_nil]
  rw [hcalled] at hopened
  have hsent := hopened.next (good_send hp) (ClientStep.call (.sendPayloadOn 0 p) halive)
  have hsend : c.sendPayloadOn 0 p = (.ok (), (c.internalSendPayload 0 p).2) := by
    rw [ClientSideConnection.sendPayloadOn, hstate]
    rcases hres : c.internalSendPayload 0 p with ⟨r, c'⟩
    rw [hres] at hok
    obtain rfl : r = .ok () := hok
    rfl
  have hcalled' : called { s with link.conn := c } (.sendPayloadOn 0 p) =
      { s with link.conn := openSend s.conn p, accepted := s.accepted ++ [(0, p)] } := by
    have haccepts : c.accepts (.sendPayloadOn 0 p) = [(0, p)] := by
      rw [ClientSideConnection.accepts, hsend]
    have hcall : c.call (.sendPayloadOn 0 p) = openSend s.conn p := by
      rw [ClientSideConnection.call, hsend, openSend, ← hc]
    simp only [called, conn]
    rw [haccepts, hcall]
    rfl
  exact hcalled' ▸ hsent

theorem close_run (ha : s.link.Alive) (hids : s.conn.specific.sendChannelIds = oneTaken)
    (hclose : (s.conn.internalCloseChannel 0).1 = .ok ()) :
    Reachable ClientStep (Good K) s { s with link.conn := closedZero s.conn } := by
  have hclosed := Reachable.start.next (good_close (K := K))
    (ClientStep.call (.closeChannel 0) ha)
  have hnone : s.conn.accepts (.closeChannel 0) = [] := rfl
  rwa [called, call_closeChannel hids hclose, hnone, List.append_nil] at hclosed

theorem fits_four {p : Bytes} (hp : p.length ≤ 4)
    (hconfigs : ∀ msg ∈ s.link.conn.toChannels.sent, msg.config = .orderedReliable 4) :
    s.Fits 0 p := by
  refine ⟨fun c config _ hmsg ↦ ?_, Nat.le_trans (Nat.succ_le_succ hp) (by decide)⟩
  obtain rfl : config = .orderedReliable 4 := hconfigs _ hmsg
  exact hp

/-- One channel, and a payload on it. -/
def sentOnce : Delivery ClientConnection :=
  { start opened.specific {} with link.conn := openSend opened [1], accepted := [(0, [1])] }

theorem reachable_sentOnce :
    Reachable ClientStep (Good K) (start opened.specific {}) sentOnce :=
  openSend_run (p := [1]) (c := _) rfl rfl (fun _ ↦ rfl) rfl rfl rfl
    (fits_four (by decide) (by decide)) rfl

/-- The channel is closed, another one has got its id, and a payload was sent on this one. -/
def sentTwice : Delivery ClientConnection :=
  { sentOnce with
    link.conn := openSend (closedZero sentOnce.conn) [2]
    accepted := [(0, [1]), (0, [2])] }

theorem reachable_sentTwice :
    Reachable ClientStep (Good False) (start opened.specific {}) sentTwice := by
  have hrun : ∀ s : Delivery ClientConnection, s.conn = openSend opened [1] →
      Reachable ClientStep (Good False) s { s with
        link.conn := openSend (closedZero s.conn) [2]
        accepted := s.accepted ++ [(0, [2])] } := by
    intro s hconn
    have halive : s.conn.toChannels.sender = true := by rw [hconn]; rfl
    have hids : s.conn.specific.sendChannelIds = oneTaken := by rw [hconn]; rfl
    have hclosed : Reachable ClientStep (Good False) s { s with link.conn := closedZero s.conn } :=
      close_run halive hids (by rw [hconn]; rfl)
    rw [hconn] at hclosed ⊢
    have hconfigs : ∀ msg ∈ (((closedZero (openSend opened [1])).withIds oneTaken).createConnectionChannel
        0 (.orderedReliable 4)).2.toChannels.sent, msg.config = .orderedReliable 4 := by decide
    exact hclosed.trans (openSend_run (p := [2]) (c := _) rfl rfl False.elim rfl rfl rfl
      (fits_four (by decide) hconfigs) rfl)
  exact reachable_sentOnce.trans (hrun sentOnce rfl)

/-- A step of the tasks behind the connection. -/
theorem next_link {s₀ : Delivery ClientConnection} (hr : Reachable ClientStep (Good K) s₀ s)
    {a : LinkAct} {l : Link ClientConnection} (hstep : Link.Step s.link a l)
    (hfit : s.link.Fitting a) (ha : ¬ OfCalls (.link a)) :
    Reachable ClientStep (Good K) s₀ { s with link := l } := by
  have hnone : s.link.accepts a = [] := by
    cases a with
    | send => exact absurd trivial ha
    | _ => rfl
  have hnext := hr.next (good_other (by rintro _ ⟨⟩; exact hfit)) (.other ha (.link hstep))
  rwa [hnone, List.append_nil] at hnext

/-- A channel task goes on. -/
theorem next_task {s₀ : Delivery ClientConnection} {h : ℕ} {v v' : TaskView}
    (hr : Reachable ClientStep (Good K) s₀ { s with link := s.link.withView h v })
    (hstep : TaskStep s.link.conn.closeSend v false v') :
    Reachable ClientStep (Good K) s₀ { s with link := s.link.withView h v' } := by
  have ht : (s.link.withView h v).tasks h = some v.task := Function.update_self ..
  have hview : (s.link.withView h v).view h v.task = v := by
    simp [Link.view, Link.withView]
  have htask : TaskStep (s.link.withView h v).conn.closeSend ((s.link.withView h v).view h v.task)
      false v' := by
    rw [hview]
    exact hstep
  have hnext := next_link hr (.task ht htask) rfl id
  have hsame : (s.link.withView h v).withView h v' = s.link.withView h v' := by
    simp [Link.withView]
  rwa [hsame] at hnext

/-- The task of a channel opens its stream and writes a payload, which arrives and is enqueued. -/
theorem deliver_run {s₀ : Delivery ClientConnection} (hs : Reachable ClientStep (Good K) s₀ s)
    {h : ℕ} {b : U8} {closeRecv : Cursor} {q : Mpsc Bytes}
    (ht : s.link.tasks h = some (.new 0 (.orderedReliable 4) closeRecv))
    (hq : (s.link.conn.queues h).bytes.recv = some ([b], q)) (hr : s.readers (.channel h) = {})
    (hroom : s.Room) : ∃ s', Reachable ClientStep (Good K) s₀ s' ∧
      s'.conn = { s.conn with
        queues := Function.update s.conn.queues h { s.conn.queues h with bytes := q } } ∧
      s'.accepted = s.accepted ∧
      s'.enqueued = s.enqueued ++ [⟨some (.channel h), 0, [b]⟩] := by
  have hview : s.link.withView h (s.link.view h (.new 0 (.orderedReliable 4) closeRecv)) = s.link := by
    simp [Link.withView, Link.view, ← ht]
  have hstart : Reachable ClientStep (Good K) s₀ { s with
      link := s.link.withView h (s.link.view h (.new 0 (.orderedReliable 4) closeRecv)) } := by
    rwa [hview]
  have hopened := next_task hstart (.opened rfl rfl)
  have hsending := next_task hopened (.recv rfl hq (.ordered rfl rfl))
  have hwritten := next_task hsending
    (.sending rfl rfl rfl (.write (n := 6) (by decide) (Nat.le_refl 6)))
  have hfits : [b].length + 1 ≤ defaultMaxReliableFrameLen := Nat.le_add_left 2 (8 * 1024 * 1024 - 2)
  have harrived := hwritten.next (good_other (by rintro _ ⟨⟩))
    (.other id (.arrive (i := .channel h) (w := ⟨⟨frame 0 [b], false⟩, []⟩) (frame 0 [b])
      (Link.sender_withView ..) (by rw [hr]; exact List.prefix_rfl)))
  have henqueued := harrived.next (good_other (by rintro _ ⟨⟩))
    (.other id (.enqueue (i := .channel h) hroom (by
      simpa [withReader, hr, QuinnetProtocolCodecDecoder.new] using
        decode_frame (c := 0) (p := [b]) hfits (Nat.lt_of_le_of_lt hfits (by decide)) [])))
  exact ⟨_, henqueued, rfl, rfl, rfl⟩

/-- The spawner starts a task for each of two channels, and the second one is faster. -/
theorem overtake_run {s₀ : Delivery ClientConnection} (hs : Reachable ClientStep (Good K) s₀ s)
    {b : U8} {q : Mpsc Bytes} (hspawner : s.link.spawner = .absent)
    (hcreations : s.conn.toChannels =
      { capacity := defaultQchannelMessagesChannelSize
        queued := [.createChannel 0 (.orderedReliable 4) 0, .createChannel 0 (.orderedReliable 4) 1] })
    (hq : (s.conn.queues 1).bytes.recv = some ([b], q)) (hr : s.readers (.channel 1) = {})
    (hroom : s.Room) : ∃ s', Reachable ClientStep (Good K) s₀ s' ∧ s'.accepted = s.accepted ∧
      s'.enqueued = s.enqueued ++ [⟨some (.channel 1), 0, [b]⟩] := by
  have hspawned := next_link hs (.spawn 0 hspawner) trivial id
  have hfirst := next_link hspawned
    (.listenCreate rfl (congrArg Mpsc.recv hcreations)) trivial id
  have hsecond := next_link hfirst (.listenCreate rfl rfl) trivial id
  obtain ⟨s', hs', -, haccepted, henqueued⟩ := deliver_run hsecond (h := 1) rfl hq hr hroom
  exact ⟨s', hs', haccepted, henqueued⟩

/-- **An id that is opened again can be overtaken by its new channel.**  The task of the second channel
sends while that of the first one has not even opened its stream. -/
theorem reopened_id_overtakes :
    ∃ s, Reachable ClientStep (ClientHealthy 0) (start opened.specific {}) s ∧
      s.acceptedFor 0 = [[1], [2]] ∧ s.enqueuedFor 0 = [[2]] ∧
      ¬ s.enqueuedFor 0 <+: s.acceptedFor 0 := by
  have hrecv : (sentTwice.conn.queues 1).bytes.recv =
      some ([2], { capacity := defaultMessageQueueSize, received := [[2]] }) := by
    decide +kernel
  obtain ⟨s, hs, haccepted, henqueued⟩ := overtake_run reachable_sentTwice rfl (by decide +kernel)
    hrecv rfl (room_of_enqueued rfl)
  have hfor : s.acceptedFor 0 = [[1], [2]] := by rw [acceptedFor, haccepted]; rfl
  have hen : s.enqueuedFor 0 = [[2]] := by rw [enqueuedFor, henqueued]; rfl
  refine ⟨s, hs.mono And.left, hfor, hen, ?_⟩
  rw [hfor, hen]
  decide

/-- The connection of `sentOnce` when the payload was taken from its queue. -/
def takenOnce : ClientSideConnection :=
  { sentOnce.conn with
    toChannels :=
      { capacity := defaultQchannelMessagesChannelSize
        received := [.createChannel 0 (.orderedReliable 4) 0] }
    queues := Function.update sentOnce.conn.queues 0 { sentOnce.conn.queues 0 with
      bytes := { capacity := defaultMessageQueueSize, received := [[1]] } } }

/-- In the same way a payload is enqueued before its channel is closed. -/
theorem reachable_takenOnce : ∃ s, Reachable ClientStep (Good K) (start opened.specific {}) s ∧
    s.conn = takenOnce ∧ s.acceptedFor 0 = [[1]] ∧ s.enqueuedFor 0 = [[1]] := by
  have hspawned := next_link (reachable_sentOnce (K := K)) (.spawn 0 rfl) trivial id
  have hcreated := next_link hspawned (.listenCreate rfl rfl) trivial id
  obtain ⟨s, hs, hconn, haccepted, henqueued⟩ := deliver_run hcreated (h := 0) rfl rfl rfl
    (room_of_enqueued rfl)
  exact ⟨s, hs, hconn, by rw [acceptedFor, haccepted]; rfl, by rw [enqueuedFor, henqueued]; rfl⟩

/-- Then the id is opened again, and the payload of the second channel comes second. -/
theorem ordered_delivery_reopened :
    ∃ s : Delivery ClientConnection, s.acceptedFor 0 = [[1], [2]] ∧ s.enqueuedFor 0 = [[1]] ∧
      OrderedPerOpening 0 s ∧ s.enqueuedFor 0 <+: s.acceptedFor 0 := by
  obtain ⟨s, hs, hconn, hfor, hen⟩ := reachable_takenOnce (K := True)
  have halive : s.conn.toChannels.sender = true := by rw [hconn]; rfl
  have hids : s.conn.specific.sendChannelIds = oneTaken := by rw [hconn]; rfl
  have hclosed := hs.trans (close_run halive hids (by rw [hconn]; rfl))
  rw [hconn] at hclosed
  have hconfigs : ∀ msg ∈ (((closedZero takenOnce).withIds oneTaken).createConnectionChannel 0
      (.orderedReliable 4)).2.toChannels.sent, msg.config = .orderedReliable 4 := by decide
  have hsent := hclosed.trans (openSend_run (p := [2]) (c := _) rfl rfl
    (fun _ ↦ hen.trans hfor.symm) rfl rfl rfl (fits_four (by decide) hconfigs) rfl)
  have hordered := (ordered_delivery opened.specific {} 0).1 _ (hsent.mono And.left)
  have hprefix := (ordered_delivery opened.specific {} 0).2 _
    (hsent.mono fun h ↦ ⟨h.1, h.2 trivial⟩)
  refine ⟨_, ?_, ?_, hordered, hprefix⟩
  · simp only [acceptedFor, List.filter_append, List.map_append] at hfor ⊢
    rw [hfor]
    rfl
  · exact hen

end Reopened

end Delivery

end BevyIroh
