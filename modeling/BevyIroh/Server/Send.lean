import BevyIroh.Lib.Attempts
import BevyIroh.Server.Endpoint

/-!
# Sending to several clients

`send_group_payload_on`, `broadcast_payload_on` and `send_group_message_on` are three loops with three
error types.  The first and the last go through a list of ids and look each of them up, so that an id
may be unknown, or listed twice; the second goes through the entries of the map.  None of them stops
at a client it cannot send to: the errors are collected and returned together at the end.

`group_sends_agree` says that the three are the same, and the same as one `send_payload_on` for each
id; what it says of one client and of the order of the ids comes from `Attempts.Local`, as a send to
one client looks at nothing but the connection of this client.
-/

set_option autoImplicit false

namespace BevyIroh

open Attempts

/-! ## Errors -/

inductive ServerSendError where
  | unknownClient (clientId : ClientId)
  | connectionSendError (err : ConnectionSendError)
deriving DecidableEq, Repr

inductive ServerPayloadSendError where
  | noDefaultChannel
  | sendError (err : ServerSendError)
deriving DecidableEq, Repr

/-- Error while sending to multiple recipients. -/
structure ServerGroupSendError where
  errs : List (ClientId × ServerSendError)
deriving DecidableEq, Repr

inductive ServerGroupPayloadSendError where
  | noDefaultChannel
  | groupSendError (err : ServerGroupSendError)
deriving DecidableEq, Repr

inductive ServerGroupMessageSendError where
  | serialization
  | noDefaultChannel
  | groupSendError (err : ServerGroupSendError)
deriving DecidableEq, Repr

/-- How each of the loops ends: `Ok` when no error was collected, and otherwise all of them. -/
def groupResult {ε : Type} (wrap : ServerGroupSendError → ε) (errs : List (ClientId × ServerSendError)) :
    Except ε Unit :=
  match errs.isEmpty with
  | true => .ok ()
  | false => .error (wrap ⟨errs⟩)

/-! ## Operations -/

namespace ServerEndpoint

def sendPayloadOn (self : ServerEndpoint) (clientId : ClientId) (channelId : ChannelId)
    (payload : Bytes) : Except ServerSendError Unit × ServerEndpoint :=
  match self.clients.lookup clientId with
  | some clientConnection =>
    let (r, clientConnection) := clientConnection.internalSendPayload channelId payload
    (r.mapError .connectionSendError,
      { self with clients := self.clients.insert clientId clientConnection })
  | none => (.error (.unknownClient clientId), self)

def sendGroupPayloadOn (self : ServerEndpoint) (clientIds : List ClientId) (channelId : ChannelId)
    (payload : Bytes) : Except ServerGroupPayloadSendError Unit × ServerEndpoint :=
  let (errs, self) := attemptEach (fun clientId self ↦ self.sendPayloadOn clientId channelId payload)
    clientIds self
  (groupResult .groupSendError errs, self)

/-- The loop of `broadcastPayloadOn`, over the entries of the map. -/
def broadcastEach (channelId : ChannelId) (payload : Bytes) :
    List ClientId → HashMap ClientId ServerSideConnection →
      List (ClientId × ServerSendError) × HashMap ClientId ServerSideConnection
  | [], clients => ([], clients)
  | clientId :: order, clients =>
    match clients.lookup clientId with
    | none => broadcastEach channelId payload order clients
    | some connection =>
      match connection.internalSendPayload channelId payload with
      | (.ok (), connection) =>
        broadcastEach channelId payload order (clients.insert clientId connection)
      | (.error e, connection) =>
        let (errs, clients) :=
          broadcastEach channelId payload order (clients.insert clientId connection)
        ((clientId, .connectionSendError e) :: errs, clients)

def broadcastPayloadOn (self : ServerEndpoint) (order : List ClientId) (channelId : ChannelId)
    (payload : Bytes) : Except ServerGroupSendError Unit × ServerEndpoint :=
  let (errs, clients) := broadcastEach channelId payload order self.clients
  (groupResult id errs, { self with clients })

/-! The same on the default channel. -/

def sendPayload (self : ServerEndpoint) (clientId : ClientId) (payload : Bytes) :
    Except ServerPayloadSendError Unit × ServerEndpoint :=
  match self.sendChannelIds.defaultChannel with
  | some channel =>
    let (r, self) := self.sendPayloadOn clientId channel payload
    (r.mapError .sendError, self)
  | none => (.error .noDefaultChannel, self)

def sendGroupPayload (self : ServerEndpoint) (clientIds : List ClientId) (payload : Bytes) :
    Except ServerGroupPayloadSendError Unit × ServerEndpoint :=
  match self.sendChannelIds.defaultChannel with
  | some channel => self.sendGroupPayloadOn clientIds channel payload
  | none => (.error .noDefaultChannel, self)

def broadcastPayload (self : ServerEndpoint) (order : List ClientId) (payload : Bytes) :
    Except ServerGroupPayloadSendError Unit × ServerEndpoint :=
  match self.sendChannelIds.defaultChannel with
  | some channel =>
    let (r, self) := self.broadcastPayloadOn order channel payload
    (r.mapError .groupSendError, self)
  | none => (.error .noDefaultChannel, self)

/-- `encode` is the serialization of the messages. -/
def sendGroupMessageOn {T E : Type} (encode : T → Except E Bytes) (self : ServerEndpoint)
    (clientIds : List ClientId) (channelId : ChannelId) (message : T) :
    Except ServerGroupMessageSendError Unit × ServerEndpoint :=
  match encode message with
  | .error _ => (.error .serialization, self)
  | .ok bytes =>
    let (errs, self) := attemptEach (fun clientId self ↦ self.sendPayloadOn clientId channelId bytes)
      clientIds self
    (groupResult .groupSendError errs, self)

/-- One `sendPayloadOn` for each of the ids, and nothing else. -/
def sendEach (self : ServerEndpoint) (clientIds : List ClientId) (channelId : ChannelId)
    (payload : Bytes) : List (ClientId × Except ServerSendError Unit) × ServerEndpoint :=
  calls (fun clientId self ↦ self.sendPayloadOn clientId channelId payload) clientIds self

end ServerEndpoint

theorem groupResult_eq_ok {ε : Type} {wrap : ServerGroupSendError → ε}
    {errs : List (ClientId × ServerSendError)} : groupResult wrap errs = .ok () ↔ errs = [] := by
  cases errs <;> simp [groupResult]

/-! ## A send to one connection, repeated -/

/-- The queue of the channel has so many copies of the payload more than before, and nothing else was
put into any queue. -/
structure Gains {S : Type} (channelId : ChannelId) (payload : Bytes) (n : ℕ)
    (conn conn' : PeerConnection S) : Prop where
  channel : 0 < n → ∃ c, conn.slot channelId = some c
  own : ∀ c, conn.slot channelId = some c →
    conn'.queues c.queues = { conn.queues c.queues with
      bytes.queued := (conn.queues c.queues).bytes.queued ++ List.replicate n payload }
  other : ∀ h, (∀ c, conn.slot channelId = some c → c.queues ≠ h) → conn'.queues h = conn.queues h

section Gains

variable {S : Type} {channelId : ChannelId} {payload : Bytes} {n : ℕ}
  {conn conn' conn'' : PeerConnection S}

theorem Gains.zero (h : conn'.queues = conn.queues) : Gains channelId payload 0 conn conn' where
  channel := fun h0 ↦ absurd h0 (Nat.lt_irrefl 0)
  own := fun c _ ↦ by rw [h, List.replicate_zero, List.append_nil]
  other := fun k _ ↦ by rw [h]

/-- What one send puts into the queues: the payload, unless the send is refused. -/
theorem gains_internalSendPayload (conn : PeerConnection S) (channelId : ChannelId) (payload : Bytes) :
    Gains channelId payload (if (conn.internalSendPayload channelId payload).1 = .ok () then 1 else 0)
      conn (conn.internalSendPayload channelId payload).2 := by
  rcases conn.internalSendPayload_cases (i := channelId) payload with
    ⟨c, hc, -, hok, hq⟩ | ⟨-, hnot, hq⟩
  · rw [if_pos hok]
    refine ⟨fun _ ↦ ⟨c, hc⟩, fun c' hc' ↦ ?_, fun h hother ↦ ?_⟩
    · obtain rfl : c = c' := Option.some.inj (hc.symm.trans hc')
      rw [hq, Function.update_self]
      rfl
    · rw [hq, Function.update_of_ne (Ne.symm (hother c hc))]
  · rw [if_neg hnot]
    exact .zero hq

theorem Gains.trans {m : ℕ} (h : Gains channelId payload m conn conn')
    (hslot : conn'.slot channelId = conn.slot channelId)
    (h' : Gains channelId payload n conn' conn'') : Gains channelId payload (m + n) conn conn'' where
  channel := by
    intro h0
    rcases Nat.eq_zero_or_pos m with rfl | hm
    · rw [Nat.zero_add] at h0
      rw [← hslot]
      exact h'.channel h0
    · exact h.channel hm
  own := by
    intro c hc
    rw [h'.own c (hslot.trans hc), h.own c hc, List.replicate_add, List.append_assoc]
  other := by
    intro k hk
    rw [h'.other k (by rwa [hslot]), h.other k hk]

end Gains

/-- The send to one client, on the entry of this client alone. -/
def sendAt (channelId : ChannelId) (payload : Bytes) (clientId : ClientId) :
    Option ServerSideConnection → Except ServerSendError Unit × Option ServerSideConnection
  | some conn =>
    ((conn.internalSendPayload channelId payload).1.mapError .connectionSendError,
      some (conn.internalSendPayload channelId payload).2)
  | none => (.error (.unknownClient clientId), none)

section sendAt

variable {channelId : ChannelId} {payload : Bytes} {clientId : ClientId}

theorem repeats_sendAt_none (n : ℕ) :
    repeats (sendAt channelId payload clientId) n none =
      (List.replicate n (.unknownClient clientId), none) := by
  induction n with
  | zero => rfl
  | succ n ih => rw [repeats, sendAt]; simp only [ih]; rfl

/-- Of so many sends to a connection, some put the payload into the queue and the others fail. -/
theorem repeats_sendAt_some (channelId : ChannelId) (payload : Bytes) (clientId : ClientId) (n : ℕ)
    (conn : ServerSideConnection) :
    ∃ errs conn' gained, repeats (sendAt channelId payload clientId) n (some conn) =
        (errs, some conn') ∧ gained + errs.length = n ∧ Gains channelId payload gained conn conn' := by
  induction n generalizing conn with
  | zero => exact ⟨[], conn, 0, rfl, rfl, .zero rfl⟩
  | succ n ih =>
    have hgains := gains_internalSendPayload conn channelId payload
    have hslot := PeerConnection.slot_congr (i := channelId)
      (conn.internalSendPayload_frame (i := channelId) payload).1
    obtain ⟨errs, conn', gained, heq, hsum, hrest⟩ := ih (conn.internalSendPayload channelId payload).2
    rw [repeats, sendAt]
    rcases hr : (conn.internalSendPayload channelId payload).1 with e | ⟨⟨⟩⟩
    · rw [hr, if_neg (by simp)] at hgains
      refine ⟨.connectionSendError e :: errs, conn', 0 + gained, ?_, ?_, hgains.trans hslot hrest⟩
      · simp only [Except.mapError, heq]
      · rw [List.length_cons]
        omega
    · rw [hr, if_pos rfl] at hgains
      refine ⟨errs, conn', 1 + gained, ?_, ?_, hgains.trans hslot hrest⟩
      · simp only [Except.mapError, heq]
      · omega

end sendAt

/-! ## The loops -/

namespace ServerEndpoint

section

variable {channelId : ChannelId} {payload : Bytes}

/-- A send to one client looks at the connection of this client and changes nothing else. -/
theorem local_sendPayloadOn (channelId : ChannelId) (payload : Bytes) :
    Local (fun clientId (self : ServerEndpoint) ↦ self.sendPayloadOn clientId channelId payload)
      (fun clientId self ↦ self.clients.lookup clientId) (sendAt channelId payload) where
  answer := by
    intro k self
    rw [sendPayloadOn]
    cases self.clients.lookup k <;> rfl
  own := by
    intro k self
    rw [sendPayloadOn]
    cases hk : self.clients.lookup k with
    | none => exact hk
    | some conn => exact Finmap.lookup_insert _
  other := by
    intro k k' self hne
    rw [sendPayloadOn]
    cases hk : self.clients.lookup k with
    | none => rfl
    | some conn => exact Finmap.lookup_insert_of_ne _ hne

theorem sendPayloadOn_frame (self : ServerEndpoint) (channelId : ChannelId) (payload : Bytes)
    (k : ClientId) :
    (self.sendPayloadOn k channelId payload).2 =
      { self with clients := (self.sendPayloadOn k channelId payload).2.clients } := by
  rw [sendPayloadOn]
  cases self.clients.lookup k <;> rfl

/-- The loop changes nothing but the connections. -/
theorem attemptEach_frame (self : ServerEndpoint) (channelId : ChannelId) (payload : Bytes)
    (ids : List ClientId) :
    (attemptEach (fun k (self : ServerEndpoint) ↦ self.sendPayloadOn k channelId payload) ids self).2 =
      { self with clients := (attemptEach (fun k (self : ServerEndpoint) ↦
        self.sendPayloadOn k channelId payload) ids self).2.clients } := by
  induction ids generalizing self with
  | nil => rfl
  | cons k ids ih =>
    have hk := self.sendPayloadOn_frame channelId payload k
    have hrest := ih (self.sendPayloadOn k channelId payload).2
    rw [attemptEach]
    rcases hsend : self.sendPayloadOn k channelId payload with ⟨e | ⟨⟨⟩⟩, self'⟩ <;>
    · rw [hsend] at hk hrest
      simp only at hk hrest ⊢
      rw [hrest, hk]

/-- The broadcast meets each client as a group send to the same clients does. -/
theorem broadcastEach_eq (self : ServerEndpoint) (order : List ClientId)
    (horder : ∀ k ∈ order, k ∈ self.clients) :
    broadcastEach channelId payload order self.clients =
      ((attemptEach (fun k (self : ServerEndpoint) ↦ self.sendPayloadOn k channelId payload)
          order self).1,
        (attemptEach (fun k (self : ServerEndpoint) ↦ self.sendPayloadOn k channelId payload)
          order self).2.clients) := by
  induction order generalizing self with
  | nil => rfl
  | cons k order ih =>
    obtain ⟨conn, hconn⟩ := Finmap.mem_iff.1 (horder k List.mem_cons_self)
    have hrest := ih
      { self with
        clients := self.clients.insert k (conn.internalSendPayload channelId payload).2 }
      fun j hj ↦ Finmap.mem_insert.2 (.inr (horder j (List.mem_cons_of_mem _ hj)))
    rw [broadcastEach, attemptEach, sendPayloadOn, hconn]
    dsimp only
    rcases hsend : conn.internalSendPayload channelId payload with ⟨e | ⟨⟨⟩⟩, conn'⟩ <;>
    · rw [hsend] at hrest
      simp only [hrest, Except.mapError]

theorem attemptEach_perm (self : ServerEndpoint) (channelId : ChannelId) (payload : Bytes)
    {ids ids' : List ClientId} (h : ids'.Perm ids) :
    (attemptEach (fun k (self : ServerEndpoint) ↦ self.sendPayloadOn k channelId payload)
        ids' self).2 =
      (attemptEach (fun k (self : ServerEndpoint) ↦ self.sendPayloadOn k channelId payload)
        ids self).2 := by
  have hclients := Finmap.ext_lookup ((local_sendPayloadOn channelId payload).attemptEach_perm h self).1
  rw [attemptEach_frame self channelId payload ids', attemptEach_frame self channelId payload ids]
  exact congrArg (fun clients ↦ { self with clients }) hclients

theorem sendEach_eq (self : ServerEndpoint) (ids : List ClientId) :
    attemptEach (fun k (self : ServerEndpoint) ↦ self.sendPayloadOn k channelId payload) ids self =
      (failures (self.sendEach ids channelId payload).1, (self.sendEach ids channelId payload).2) :=
  Attempts.attemptEach_eq _ ids self

theorem sendGroupPayloadOn_eq (self : ServerEndpoint) (ids : List ClientId) :
    self.sendGroupPayloadOn ids channelId payload =
      (groupResult .groupSendError (failures (self.sendEach ids channelId payload).1),
        (self.sendEach ids channelId payload).2) := by
  rw [sendGroupPayloadOn, sendEach_eq]

theorem broadcastPayloadOn_eq (self : ServerEndpoint) {order : List ClientId}
    (horder : self.clients.IsOrder order) :
    self.broadcastPayloadOn order channelId payload =
      (groupResult id (failures (self.sendEach order channelId payload).1),
        (self.sendEach order channelId payload).2) := by
  have hframe := attemptEach_frame self channelId payload order
  rw [broadcastPayloadOn, broadcastEach_eq self order fun k hk ↦ horder.mem_iff.1 hk]
  rw [sendEach_eq] at hframe ⊢
  exact Prod.ext rfl hframe.symm

theorem sendEach_perm (self : ServerEndpoint) (channelId : ChannelId) (payload : Bytes)
    {ids ids' : List ClientId} (h : ids'.Perm ids) :
    (self.sendEach ids' channelId payload).2 = (self.sendEach ids channelId payload).2 ∧
      (failures (self.sendEach ids' channelId payload).1).Perm
        (failures (self.sendEach ids channelId payload).1) := by
  have hstate := attemptEach_perm self channelId payload h
  have herrs := ((local_sendPayloadOn channelId payload).attemptEach_perm h self).2
  rw [sendEach_eq, sendEach_eq] at hstate herrs
  exact ⟨hstate, herrs⟩

/-- An id of no client is reported each time it is listed. -/
theorem failures_of_unknown (self : ServerEndpoint) (ids : List ClientId) {k : ClientId}
    (hk : k ∉ self.clients) :
    (failures (self.sendEach ids channelId payload).1).filter (·.1 = k) =
      List.replicate (ids.count k) (k, .unknownClient k) := by
  have herrs := ((local_sendPayloadOn channelId payload).attemptEach ids k self).2
  rw [sendEach_eq, Finmap.lookup_eq_none.2 hk, repeats_sendAt_none, List.map_replicate] at herrs
  exact herrs

/-- Each time a client is listed its queue gains the payload or the client is reported. -/
theorem gains_sendEach (self : ServerEndpoint) (ids : List ClientId) {k : ClientId}
    {conn : ServerSideConnection} (hk : self.clients.lookup k = some conn) :
    ∃ conn' gained, (self.sendEach ids channelId payload).2.clients.lookup k = some conn' ∧
      Gains channelId payload gained conn conn' ∧
      gained + ((failures (self.sendEach ids channelId payload).1).filter (·.1 = k)).length =
        ids.count k := by
  obtain ⟨hentry, herrs⟩ := (local_sendPayloadOn channelId payload).attemptEach ids k self
  obtain ⟨errs, conn', gained, hrepeats, hsum, hgains⟩ := repeats_sendAt_some channelId payload k
    (ids.count k) conn
  rw [sendEach_eq, hk, hrepeats] at hentry herrs
  refine ⟨conn', gained, hentry, hgains, ?_⟩
  rw [herrs, List.length_map, hsum]

/-- **The sends to several clients agree.**  Each of them is one send for each of the clients it is
for: `self'` is the endpoint after these single sends and `sends` are their answers.

The order of the ids does not matter, nor the order in which a broadcast meets the clients.  An id of
no client is reported as often as it is listed, and each time a client is listed its queue gains the
payload or the client is reported. -/
theorem group_sends_agree {T E : Type} (encode : T → Except E Bytes) (self : ServerEndpoint)
    (ids : List ClientId) (channelId : ChannelId) (payload : Bytes) :
    let sends := (self.sendEach ids channelId payload).1
    let self' := (self.sendEach ids channelId payload).2
    sends.map Prod.fst = ids ∧
      self.sendGroupPayloadOn ids channelId payload =
        (groupResult .groupSendError (failures sends), self') ∧
      (∀ message, encode message = .ok payload →
        sendGroupMessageOn encode self ids channelId message =
          (groupResult .groupSendError (failures sends), self')) ∧
      (∀ message e, encode message = .error e →
        sendGroupMessageOn encode self ids channelId message = (.error .serialization, self)) ∧
      (self.clients.IsOrder ids →
        self.broadcastPayloadOn ids channelId payload = (groupResult id (failures sends), self') ∧
        ∀ order, self.clients.IsOrder order → ∃ errs, errs.Perm (failures sends) ∧
          self.broadcastPayloadOn order channelId payload = (groupResult id errs, self')) ∧
      (∀ (ε : Type) (wrap : ServerGroupSendError → ε),
        groupResult wrap (failures sends) = .ok () ↔ ∀ x ∈ sends, x.2 = .ok ()) ∧
      (∀ ids', ids'.Perm ids →
        (self.sendEach ids' channelId payload).2 = self' ∧
        (failures (self.sendEach ids' channelId payload).1).Perm (failures sends)) ∧
      (∀ k, k ∉ self.clients →
        (failures sends).filter (·.1 = k) = List.replicate (ids.count k) (k, .unknownClient k)) ∧
      ∀ k conn, self.clients.lookup k = some conn → ∃ conn' gained,
        self'.clients.lookup k = some conn' ∧ Gains channelId payload gained conn conn' ∧
          gained + ((failures sends).filter (·.1 = k)).length = ids.count k := by
  intro sends self'
  refine ⟨map_fst_calls, self.sendGroupPayloadOn_eq ids, fun message hm ↦ ?_, fun message e hm ↦ ?_,
    fun hids ↦ ⟨self.broadcastPayloadOn_eq hids, fun order horder ↦ ?_⟩, fun ε wrap ↦ ?_,
    fun ids' h ↦ self.sendEach_perm channelId payload h, fun k hk ↦ self.failures_of_unknown ids hk,
    fun k conn hk ↦ self.gains_sendEach ids hk⟩
  · rw [sendGroupMessageOn, hm]
    dsimp only
    rw [sendEach_eq]
  · rw [sendGroupMessageOn, hm]
  · have hperm : order.Perm ids := (List.perm_ext_iff_of_nodup horder.nodup hids.nodup).2 fun k ↦ by
      rw [horder.mem_iff, hids.mem_iff]
    obtain ⟨hstate, herrs⟩ := self.sendEach_perm channelId payload hperm
    exact ⟨_, herrs, (self.broadcastPayloadOn_eq horder).trans (by rw [hstate])⟩
  · exact groupResult_eq_ok.trans failures_eq_nil

end

end ServerEndpoint

end BevyIroh
