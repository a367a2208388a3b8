import BevyIroh.Client.Ended
import BevyIroh.Client.Told

/-!
# What the state of a connection says

The tasks of a session report to the sync side what they have come to, through a queue, and
`handle_client_events` makes the state of it: `Connected` and `ConnectionFailed` come from the task that
connects, `ConnectionClosed` from the one that watches the transport.  So the state is behind, and it is
not the transport that it is about but the messages.

It says the truth once everything has been said (`Sessions.state_agrees_at_rest`): when the tasks of the
current session are at rest and their messages are handled, a connection that is connected has a
transport that is up, watched, and with a spawner that listens, and one that is connecting waits for the
network.  `Reported` is what the messages say of the tasks, `Believes` what the state says of the
messages.
-/

set_option autoImplicit false

namespace BevyIroh

open Transition

/-! ## What the sync side does -/

namespace ClientSideConnection

variable {c c' c'' : ClientSideConnection}

/-- Nothing of what the state is made from has changed, and nothing that the tasks of the session go
by. -/
structure SameStanding (c c' : ClientSideConnection) : Prop where
  state : c'.specific.state = c.specific.state
  reports : c'.specific.fromAsyncClient = c.specific.fromAsyncClient
  closeSend : c'.closeSend = c.closeSend
  sender : c'.toChannels.sender = c.toChannels.sender

theorem SameStanding.refl (c : ClientSideConnection) : c.SameStanding c := ⟨rfl, rfl, rfl, rfl⟩

theorem SameStanding.trans (h : c.SameStanding c') (h' : c'.SameStanding c'') : c.SameStanding c'' :=
  ⟨h'.state.trans h.state, h'.reports.trans h.reports, h'.closeSend.trans h.closeSend,
    h'.sender.trans h.sender⟩

/-- The specific part of the connection is as it was. -/
theorem SameStanding.of_specific (hspecific : c'.specific = c.specific)
    (hclose : c'.closeSend = c.closeSend) (hsender : c'.toChannels.sender = c.toChannels.sender) :
    c.SameStanding c' :=
  ⟨by rw [hspecific], by rw [hspecific], hclose, hsender⟩

theorem sameStanding_createConnectionChannel (c : ClientSideConnection) (id : ChannelId)
    (config : ChannelConfig) : c.SameStanding (c.createConnectionChannel id config).2 := by
  have hspecific := PeerConnection.specific_createConnectionChannel (s := c) (i := id) config
  by_cases hr : c.toChannels.Ready
  · obtain ⟨hto, hclose, -⟩ := PeerConnection.createConnectionChannel_of_ready (i := id) hr config
    exact .of_specific hspecific hclose (by rw [hto]; rfl)
  · rw [PeerConnection.createConnectionChannel_of_not_ready hr]
    exact .refl c

theorem sameStanding_call (c : ClientSideConnection) (a : ClientCall) : c.SameStanding (c.call a) :=
  call_invariant (P := c.SameStanding) (fun _ _ h ↦ h.trans ⟨rfl, rfl, rfl, rfl⟩)
    (fun c id config h ↦ h.trans (c.sameStanding_createConnectionChannel id config))
    (fun c id h ↦ by
      obtain ⟨hto, hclose, -⟩ := PeerConnection.internalCloseChannel_frame (s := c) (i := id)
      exact h.trans (.of_specific PeerConnection.specific_internalCloseChannel hclose
        (congrArg Mpsc.sender hto)))
    (fun c id payload h ↦ by
      obtain ⟨-, hto, hclose, -⟩ := PeerConnection.internalSendPayload_frame (s := c) (i := id) payload
      exact h.trans (.of_specific (PeerConnection.specific_internalSendPayload payload) hclose
        (congrArg Mpsc.sender hto))) (.refl c) a

theorem sameStanding_openConfiguredChannels {configs : List ChannelConfig}
    {r : Except AsyncChannelError Unit} (h : openConfiguredChannels configs c = some (r, c')) :
    c.SameStanding c' :=
  openConfiguredChannels_invariant (P := c.SameStanding) (fun _ _ h ↦ h.trans ⟨rfl, rfl, rfl, rfl⟩)
    (fun c id config h ↦ h.trans (c.sameStanding_createConnectionChannel id config)) (.refl c) h

theorem sameStanding_of_dispatchLoop {ms : List (ChannelId × Bytes)} {errs : List RecvChannelError}
    (h : c.DispatchLoop ms errs c') : c.SameStanding c' := by
  induction h with
  | done => exact .refl _
  | @arrive c c' ms errs m _ ih =>
    have harrived : SameStanding c (c.arrive m) := ⟨rfl, rfl, rfl, rfl⟩
    exact harrived.trans ih
  | @turn c c₁ c' m ms errs hd _ ih =>
    obtain ⟨q, -, rfl⟩ := PeerConnection.dequeue_eq_some.1 hd
    refine .trans ?_ ih
    rw [PeerConnection.storeReceivedPayload]
    split <;> split_ifs <;> exact ⟨rfl, rfl, rfl, rfl⟩

theorem sameStanding_receivePayload (c : ClientSideConnection) (id : ChannelId) :
    c.SameStanding (c.receivePayload id).2 := by
  rw [receivePayload, PeerConnection.internalReceivePayload]
  split
  · exact .refl c
  · simp only
    split <;> exact ⟨rfl, rfl, rfl, rfl⟩

theorem sameStanding_otherCall (h : c.OtherCall c') : c.SameStanding c' := by
  obtain ⟨clear, hc'⟩ := h.frame
  rw [hc']
  exact ⟨rfl, rfl, rfl, rfl⟩

/-- What a step of the sync side makes of the state, with the message it has taken from the queue. -/
inductive Hears (c c' : ClientSideConnection) : Prop
  | nothing (h : c.SameStanding c')
  | connected {clientId : Option ClientId} {q : Mpsc ClientAsyncMessage}
      (hq : c.specific.fromAsyncClient.recv = some (.connected clientId, q))
      (hstate : c.specific.state ≠ .disconnected)
      (h : c' = (c.withFromAsyncClient q).setState (.connected clientId))
  /-- However it ends, an order to close is not taken back. -/
  | ended (hstate : c'.specific.state = .disconnected)
      (hsent : c'.specific.fromAsyncClient.sent = c.specific.fromAsyncClient.sent)
      (hends : c'.specific.fromAsyncClient.capacity = c.specific.fromAsyncClient.capacity ∧
        c'.specific.fromAsyncClient.receiver = c.specific.fromAsyncClient.receiver)
      (hclose : c'.closeSend.sender = c.closeSend.sender)
      (hlog : c.closeSend.log ≠ [] → c'.closeSend.log ≠ [])
      (hsender : c'.toChannels.sender = c.toChannels.sender)

/-- A disconnect, after a message of the task or one of a channel was taken. -/
theorem hears_internalDisconnect (receivers : Bool) (reason : CloseReason)
    (hsent : c'.specific.fromAsyncClient.sent = c.specific.fromAsyncClient.sent)
    (hends : c'.specific.fromAsyncClient.capacity = c.specific.fromAsyncClient.capacity ∧
      c'.specific.fromAsyncClient.receiver = c.specific.fromAsyncClient.receiver)
    (hclose : c'.closeSend = c.closeSend) (hto : c'.toChannels = c.toChannels) :
    c.Hears (c'.internalDisconnect receivers reason).2 := by
  have hspecific := c'.specific_internalDisconnect receivers reason
  refine .ended (by rw [hspecific]) (by rw [hspecific]; exact hsent) (by rw [hspecific]; exact hends)
    ?_ (fun hlog ↦ ?_) ?_
  · rw [closeSender_internalDisconnect, hclose]
  · rw [internalDisconnect_eq]
    simp only
    rw [← hclose] at hlog
    split_ifs
    · exact hlog
    · exact List.append_ne_nil_of_left_ne_nil hlog _
  · rw [internalDisconnect_eq, ← hto]
    rfl

/-- The loss of a connection is a disconnect, on the orders of the peer. -/
theorem handleLost_fst (c : ClientSideConnection) (receivers : Bool) :
    (c.handleLost receivers).1 = (c.internalDisconnect receivers .peerClosed).2 := by
  rw [handleLost]
  split
  · rename_i h
    rw [internalDisconnect_snd, if_pos h]
  · rfl

end ClientSideConnection

/-- **What every step of the sync side is, to the state**, if a connection that is disconnected takes no
`Connected`. -/
theorem ClientReceiving.Step.hears {sharedClientId : Bool} {r r' : ClientReceiving} {a : Action}
    (h : Step sharedClientId r a r') (ha : a.OfSync)
    (hguard : r.session.Disconnected → r.TakesNoConnected a) : r.conn.Hears r'.conn := by
  cases h with
  | session h =>
    cases h.1 with
    | call a => exact .nothing (r.conn.sameStanding_call a)
    | disconnect receivers =>
      exact ClientSideConnection.hears_internalDisconnect receivers .localOrder rfl ⟨rfl, rfl⟩ rfl rfl
    | reconnect | reconnectFailed => exact absurd rfl ha.2
    | @handleAsync receivers message q hf hq hr =>
      have hsent := Mpsc.sent_of_recv hq
      have hends : q.capacity = r.conn.specific.fromAsyncClient.capacity ∧
          q.receiver = r.conn.specific.fromAsyncClient.receiver := by
        obtain ⟨rest, -, rfl⟩ := Mpsc.recv_eq_some.1 hq
        exact ⟨rfl, rfl⟩
      cases message with
      | connected clientId => exact .connected hq (fun hdis ↦ hguard hdis clientId q hq) rfl
      | connectionFailed err => exact .ended rfl hsent hends rfl id rfl
      | connectionClosed =>
        show r.conn.Hears ((r.conn.withFromAsyncClient q).handleLost receivers).1
        rw [ClientSideConnection.handleLost_fst]
        exact ClientSideConnection.hears_internalDisconnect receivers .peerClosed hsent hends rfl rfl
    | @handleChannels receivers message q hf hq hr =>
      cases message with
      | lostConnection =>
        show r.conn.Hears ((r.conn.withFromChannels q).handleLost receivers).1
        rw [ClientSideConnection.handleLost_fst]
        exact ClientSideConnection.hears_internalDisconnect receivers .peerClosed rfl ⟨rfl, rfl⟩ rfl rfl
    | beginFrame | endAsync | endFrame | reconnectIgnored => exact .nothing (.refl r.conn)
    | _ => exact absurd trivial ha.1
  | arrive => exact ha.elim
  | dispatch hf hs hloop => exact .nothing (ClientSideConnection.sameStanding_of_dispatchLoop hloop)
  | dispatchSkipped => exact .nothing (.refl r.conn)
  | clear => exact .nothing ⟨rfl, rfl, rfl, rfl⟩
  | receive c => exact .nothing (r.conn.sameStanding_receivePayload c)

/-! ## What the state says of the messages -/

namespace ClientSideConnection

variable {c c' : ClientSideConnection}

/-- The state is what the messages that were handled say, as long as nobody has closed the
connection. -/
structure Believes (c : ClientSideConnection) : Prop where
  connecting : c.specific.state = .connecting → c.specific.fromAsyncClient.received = []
  connected : ∀ {clientId}, c.specific.state = .connected clientId →
    .connected clientId ∈ c.specific.fromAsyncClient.received
  undisturbed : c.specific.state ≠ .disconnected →
    c.closeSend.log = [] ∧ .connectionClosed ∉ c.specific.fromAsyncClient.received

/-- What the tasks do is not known before it is handled. -/
theorem Believes.congr (h : c.Believes) (hstate : c'.specific.state = c.specific.state)
    (hreceived : c'.specific.fromAsyncClient.received = c.specific.fromAsyncClient.received)
    (hclose : c'.closeSend = c.closeSend) : c'.Believes where
  connecting hc := hreceived.trans (h.connecting (hstate ▸ hc))
  connected hc := hreceived ▸ h.connected (hstate ▸ hc)
  undisturbed hc := by
    rw [hclose, hreceived]
    exact h.undisturbed (hstate ▸ hc)

/-- **Every step of the sync side keeps it.** -/
theorem Believes.hears (h : c.Believes) (hheard : c.Hears c') : c'.Believes := by
  cases hheard with
  | nothing hsame => exact h.congr hsame.state (congrArg Mpsc.received hsame.reports) hsame.closeSend
  | @connected clientId q hq hstate heq =>
    subst heq
    obtain ⟨hlog, hopen⟩ := h.undisturbed hstate
    have hreceived := Mpsc.received_of_recv hq
    refine ⟨nofun, ?_, fun _ ↦ ⟨hlog, ?_⟩⟩
    · rintro _ ⟨⟩
      show .connected clientId ∈ q.received
      rw [hreceived]
      exact List.mem_append_right _ List.mem_cons_self
    · show .connectionClosed ∉ q.received
      rw [hreceived]
      simpa using hopen
  | ended hstate =>
    exact ⟨fun hc ↦ (nomatch hstate.symm.trans hc), fun hc ↦ (nomatch hstate.symm.trans hc),
      fun hc ↦ absurd hstate hc⟩

end ClientSideConnection

/-! ## What the messages say of the tasks -/

/-- The task that connects has spawned the others before it says `Connected`, and says nothing but how
it has ended. -/
def Attempt.Backed (sharedClientId : Bool) (watcher : Watcher) (spawner : Spawner) : Attempt → Prop
  | .watched => watcher ≠ .absent
  | .receiving => watcher ≠ .absent
  | .receivingClientId => sharedClientId = true ∧ watcher ≠ .absent ∧ spawner ≠ .absent
  | .signaling (.connected clientId) =>
    clientId.isSome = sharedClientId ∧ watcher ≠ .absent ∧ spawner ≠ .absent
  | .signaling .connectionClosed => False
  | _ => True

theorem Attempt.Backed.mono {sharedClientId : Bool} {attempt : Attempt} {watcher watcher' : Watcher}
    {spawner spawner' : Spawner} (h : attempt.Backed sharedClientId watcher spawner)
    (hwatcher : watcher ≠ .absent → watcher' ≠ .absent) (hspawner : spawner ≠ .absent → spawner' ≠ .absent) :
    attempt.Backed sharedClientId watcher' spawner' := by
  cases attempt with
  | watched | receiving => exact hwatcher h
  | receivingClientId => exact ⟨h.1, hwatcher h.2.1, hspawner h.2.2⟩
  | signaling message =>
    cases message with
    | connected clientId => exact ⟨h.1, hwatcher h.2.1, hspawner h.2.2⟩
    | connectionFailed => trivial
    | connectionClosed => exact h.elim
  | _ => trivial

namespace Session

variable {sharedClientId : Bool} {s s' : Session} {a : SessionAct}

/-- The tasks change neither the state nor what it was made from. -/
theorem Step.believes (ha : a.OfTasks) (h : Step sharedClientId s a s') (hs : s.conn.Believes) :
    s'.conn.Believes := by
  cases h with
  | @signal message hatt hq =>
    have hspecific := specific_attemptEnded (s.withConn (s.conn.withFromAsyncClient
      (s.conn.specific.fromAsyncClient.push message)))
    obtain ⟨-, -, -, hclose⟩ := attemptEnded_ends (s.withConn (s.conn.withFromAsyncClient
      (s.conn.specific.fromAsyncClient.push message)))
    exact hs.congr (by rw [hspecific]; rfl) (by rw [hspecific]; rfl) (by rw [hclose]; rfl)
  | link hb hlink =>
    obtain ⟨hclose, -⟩ := hlink.async_frame hb
    have hspecific := hlink.specific_eq hb
    exact hs.congr (congrArg ClientConnection.state hspecific)
      (congrArg (fun c : ClientConnection ↦ c.fromAsyncClient.received) hspecific) hclose
  | established | connectFailed | spawnWatcher | spawnRecv | spawnSpawner | receiveClientId
  | transportClosed | watcherSignal | peerClose => exact hs.congr rfl rfl rfl
  | _ => exact ha.elim

/-- The messages of the tasks are what they have come to. -/
structure Reported (sharedClientId : Bool) (s : Session) : Prop where
  receiver : s.conn.specific.fromAsyncClient.receiver = true
  capacity : 0 < s.conn.specific.fromAsyncClient.capacity
  closeSender : s.conn.closeSend.sender = true
  sender : s.conn.toChannels.sender = true
  attempt : s.attempt.Backed sharedClientId s.watcher s.link.spawner
  connected : ∀ {clientId}, .connected clientId ∈ s.conn.specific.fromAsyncClient.sent →
    s.attempt = .ended ∧ clientId.isSome = sharedClientId ∧ s.watcher ≠ .absent ∧ s.link.spawner ≠ .absent
  /-- The task is interrupted only by an order to close. -/
  ended : s.attempt = .ended → s.conn.closeSend.log ≠ [] ∨
    ∃ message ∈ s.conn.specific.fromAsyncClient.sent, message ≠ .connectionClosed
  lost : s.watcher = .ended → .connectionClosed ∈ s.conn.specific.fromAsyncClient.sent
  ordered : s.link.spawner = .waiting ∨ s.link.spawner = .closed → s.conn.closeSend.log ≠ []

/-- The tasks are as they were, and nothing was reported or taken back. -/
theorem Reported.of_tasks (h : s.Reported sharedClientId)
    (htasks : SessionTasks.ofSession s' = .ofSession s)
    (hsent : s'.conn.specific.fromAsyncClient.sent = s.conn.specific.fromAsyncClient.sent)
    (hends : s'.conn.specific.fromAsyncClient.capacity = s.conn.specific.fromAsyncClient.capacity ∧
      s'.conn.specific.fromAsyncClient.receiver = s.conn.specific.fromAsyncClient.receiver)
    (hclose : s'.conn.closeSend.sender = s.conn.closeSend.sender)
    (hlog : s.conn.closeSend.log ≠ [] → s'.conn.closeSend.log ≠ [])
    (hsender : s'.conn.toChannels.sender = s.conn.toChannels.sender) : s'.Reported sharedClientId := by
  have hattempt : s'.attempt = s.attempt := congrArg SessionTasks.attempt htasks
  have hwatcher : s'.watcher = s.watcher := congrArg SessionTasks.watcher htasks
  have hspawner : s'.link.spawner = s.link.spawner := congrArg SessionTasks.spawner htasks
  refine ⟨hends.2.trans h.receiver, hends.1 ▸ h.capacity, hclose.trans h.closeSender,
    hsender.trans h.sender, ?_, ?_, fun ha ↦ ?_, ?_, fun hs ↦ ?_⟩
  all_goals simp only [hattempt, hwatcher, hspawner, hsent] at *
  · exact h.attempt
  · exact h.connected
  · exact (h.ended ha).imp_left hlog
  · exact h.lost
  · exact hlog (h.ordered hs)

/-- The sync side reports nothing. -/
theorem Reported.hears (h : s.Reported sharedClientId)
    (htasks : SessionTasks.ofSession s' = .ofSession s) (hheard : s.conn.Hears s'.conn) :
    s'.Reported sharedClientId := by
  cases hheard with
  | nothing hsame =>
    have hlog : s'.conn.closeSend.log = s.conn.closeSend.log := congrArg Broadcast.log hsame.closeSend
    exact h.of_tasks htasks (congrArg Mpsc.sent hsame.reports)
      ⟨congrArg Mpsc.capacity hsame.reports, congrArg Mpsc.receiver hsame.reports⟩
      (congrArg Broadcast.sender hsame.closeSend) (fun hne ↦ hlog ▸ hne) hsame.sender
  | @connected clientId q hq _ heq =>
    have hends : q.capacity = s.conn.specific.fromAsyncClient.capacity ∧
        q.receiver = s.conn.specific.fromAsyncClient.receiver := by
      obtain ⟨rest, -, rfl⟩ := Mpsc.recv_eq_some.1 hq
      exact ⟨rfl, rfl⟩
    have hsent := Mpsc.sent_of_recv hq
    refine h.of_tasks htasks ?_ ?_ ?_ ?_ ?_ <;> rw [heq]
    · exact hsent
    · exact hends
    · rfl
    · exact id
    · rfl
  | ended hstate hsent hends hclose hlog hsender =>
    exact h.of_tasks htasks hsent hends hclose hlog hsender

/-- A task can send, when all messages were handled. -/
theorem Reported.ready (h : s.Reported sharedClientId)
    (hread : s.conn.specific.fromAsyncClient.queued = []) : s.conn.specific.fromAsyncClient.Ready := by
  refine ⟨h.receiver, ?_⟩
  rw [hread]
  exact h.capacity

/-- The task that connects goes on, to what comes next. -/
theorem Reported.next (h : s.Reported sharedClientId) (hne : s.attempt ≠ .ended) {attempt : Attempt}
    (hnext : attempt.Backed sharedClientId s.watcher s.link.spawner)
    (hended : attempt = .ended → s.conn.closeSend.log ≠ []) :
    Reported sharedClientId { s with attempt } :=
  { h with
    attempt := hnext
    connected := fun hmem ↦ absurd (h.connected hmem).1 hne
    ended := fun hc ↦ .inl (hended hc) }

/-- The watcher is there, and goes on. -/
theorem Reported.watch (h : s.Reported sharedClientId) {watcher : Watcher} (hwatcher : watcher ≠ .absent)
    (hended : watcher ≠ .ended) : Reported sharedClientId { s with watcher } :=
  { h with
    attempt := h.attempt.mono (fun _ ↦ hwatcher) id
    connected := fun hmem ↦ by
      obtain ⟨hatt, hid, -, hspawner⟩ := h.connected hmem
      exact ⟨hatt, hid, hwatcher, hspawner⟩
    lost := fun hc ↦ absurd hc hended }

/-- The task that connects has sent its message, and returns. -/
theorem Reported.signaled (h : s.Reported sharedClientId) {message : ClientAsyncMessage}
    (hatt : s.attempt = .signaling message) :
    (attemptEnded (s.withConn (s.conn.withFromAsyncClient
      (s.conn.specific.fromAsyncClient.push message)))).Reported sharedClientId := by
  set q := s.conn.specific.fromAsyncClient.push message with hq
  have hsent : q.sent = s.conn.specific.fromAsyncClient.sent ++ [message] := Mpsc.sent_push _ _
  have hbacked := h.attempt
  rw [hatt] at hbacked
  have hended : Reported sharedClientId
      { s.withConn (s.conn.withFromAsyncClient q) with attempt := .ended } := by
    refine ⟨h.receiver, h.capacity, h.closeSender, h.sender, trivial, fun {clientId} hmem ↦ ?_,
      fun _ ↦ .inr ⟨message, ?_, ?_⟩, fun hc ↦ ?_, h.ordered⟩
    · have hmem : .connected clientId ∈ q.sent := hmem
      rw [hsent] at hmem
      rcases List.mem_append.1 hmem with hmem | hmem
      · cases hatt.symm.trans (h.connected hmem).1
      · obtain rfl := List.mem_singleton.1 hmem
        exact ⟨rfl, hbacked⟩
    · show message ∈ q.sent
      rw [hsent]
      exact List.mem_append_right _ List.mem_cons_self
    · rintro rfl
      exact hbacked
    · show _ ∈ q.sent
      rw [hsent]
      exact List.mem_append_left _ (h.lost hc)
  have hspecific := specific_attemptEnded (s.withConn (s.conn.withFromAsyncClient q))
  obtain ⟨hto, -, -, hclose⟩ := attemptEnded_ends (s.withConn (s.conn.withFromAsyncClient q))
  refine hended.of_tasks (SessionTasks.ofSession_attemptEnded _) ?_ ?_ (by rw [hclose]; rfl) ?_ hto
  · rw [hspecific]
    rfl
  · rw [hspecific]
    exact ⟨rfl, rfl⟩
  · rw [hclose]
    exact id

/-- **Every step of the tasks keeps it.** -/
theorem Reported.step (h : s.Reported sharedClientId) (ha : a.OfTasks)
    (hstep : Step sharedClientId s a s') : s'.Reported sharedClientId := by
  cases hstep with
  | established hatt =>
    have hnext : Reported sharedClientId { s with attempt := .connected } :=
      h.next (by rw [hatt]; nofun) trivial nofun
    exact { hnext with }
  | connectFailed err hatt => exact h.next (by rw [hatt]; nofun) trivial nofun
  | spawnWatcher hatt =>
    have hwatched : Reported sharedClientId { s with watcher := .waiting } := h.watch nofun nofun
    exact hwatched.next (by rw [hatt]; nofun) nofun nofun
  | spawnRecv hatt =>
    have hbacked := h.attempt
    rw [hatt] at hbacked
    exact h.next (by rw [hatt]; nofun) hbacked nofun
  | spawnSpawner hatt =>
    have hbacked := h.attempt
    rw [hatt] at hbacked
    have hspawned : Reported sharedClientId
        { s with link.spawner := .listening s.conn.closeSend.resubscribe } :=
      { h with
        attempt := h.attempt.mono id fun _ ↦ nofun
        connected := fun hmem ↦ by
          obtain ⟨hended, hid, hwatcher, -⟩ := h.connected hmem
          exact ⟨hended, hid, hwatcher, nofun⟩
        ordered := fun hc ↦ by rcases hc with hc | hc <;> cases hc }
    cases sharedClientId <;>
      exact hspawned.next (by rw [hatt]; nofun) ⟨rfl, hbacked, nofun⟩ nofun
  | receiveClientId r hatt hr =>
    have hne : s.attempt ≠ .ended := by rw [hatt]; nofun
    have hbacked := h.attempt
    rw [hatt] at hbacked
    obtain ⟨hshared, hup⟩ := hbacked
    cases r with
    | retrieved clientId => exact h.next hne ⟨hshared.symm, hup⟩ nofun
    | failed err => exact h.next hne trivial nofun
    | interrupted =>
      obtain ⟨r, hr⟩ := Option.isSome_iff_exists.1 (hr rfl)
      refine h.next hne trivial fun _ ↦ ?_
      exact (Broadcast.log_ne_nil_of_recv hr).resolve_right fun hc ↦ (nomatch h.closeSender.symm.trans hc)
  | @signal message hatt hq => exact h.signaled hatt
  | transportClosed hw ht => exact h.watch nofun nofun
  | watcherSignal hw hq =>
    have hmem : ∀ {m}, m ∈ s.conn.specific.fromAsyncClient.sent →
        m ∈ (s.conn.specific.fromAsyncClient.push .connectionClosed).sent := fun hm ↦ by
      rw [Mpsc.sent_push]
      exact List.mem_append_left _ hm
    refine ⟨h.receiver, h.capacity, h.closeSender, h.sender, h.attempt.mono (fun _ ↦ nofun) id,
      fun {clientId} hc ↦ ?_, fun hc ↦ (h.ended hc).imp_right fun ⟨m, hm, hne⟩ ↦ ⟨m, hmem hm, hne⟩,
      fun _ ↦ ?_, h.ordered⟩
    · have hc : .connected clientId ∈ (s.conn.specific.fromAsyncClient.push .connectionClosed).sent := hc
      rw [Mpsc.sent_push, List.mem_append, List.mem_singleton] at hc
      obtain ⟨hended, hid, -, hspawner⟩ := h.connected (hc.resolve_right nofun)
      exact ⟨hended, hid, nofun, hspawner⟩
    · show _ ∈ (s.conn.specific.fromAsyncClient.push .connectionClosed).sent
      rw [Mpsc.sent_push]
      exact List.mem_append_right _ List.mem_cons_self
  | @link b l hb hlink =>
    obtain ⟨hclose, hsender, -⟩ := hlink.async_frame hb
    have hreports : l.conn.specific.fromAsyncClient = s.conn.specific.fromAsyncClient :=
      congrArg ClientConnection.fromAsyncClient (hlink.specific_eq hb)
    have habsent : s.link.spawner ≠ .absent → l.spawner ≠ .absent :=
      mt (hlink.spawner_absent_iff hb).1
    have hlog : l.spawner = .waiting ∨ l.spawner = .closed → s.conn.closeSend.log ≠ [] := fun hc ↦ by
      rcases spawner_cases hlink hb h.sender with ⟨-, hsame | ⟨c, r, -, hr, -⟩⟩ | ⟨-, hwaiting⟩
      · exact h.ordered (hsame ▸ hc)
      · exact (Broadcast.log_ne_nil_of_recv hr).resolve_right fun hc ↦
          (nomatch h.closeSender.symm.trans hc)
      · exact h.ordered (.inl hwaiting)
    refine ⟨congrArg Mpsc.receiver hreports ▸ h.receiver, congrArg Mpsc.capacity hreports ▸ h.capacity,
      congrArg Broadcast.sender hclose ▸ h.closeSender, hsender.trans h.sender,
      h.attempt.mono id habsent, fun {clientId} hc ↦ ?_, fun hc ↦ ?_, fun hc ↦ ?_, fun hc ↦ ?_⟩
    · obtain ⟨hended, hid, hwatcher, hspawner⟩ := h.connected (congrArg Mpsc.sent hreports ▸ hc)
      exact ⟨hended, hid, hwatcher, habsent hspawner⟩
    · show l.conn.closeSend.log ≠ [] ∨ ∃ m ∈ l.conn.specific.fromAsyncClient.sent, _
      rw [hclose, hreports]
      exact h.ended hc
    · show _ ∈ l.conn.specific.fromAsyncClient.sent
      rw [hreports]
      exact h.lost hc
    · show l.conn.closeSend.log ≠ []
      rw [hclose]
      exact hlog hc
  | peerClose ht => exact { h with }
  | _ => exact ha.elim

end Session

/-! ## The current session -/

/-- The session is up: its transport is, and it is watched, and the spawner listens for channels to
create and for an order to close. -/
structure SessionTasks.Up (t : SessionTasks) : Prop where
  transport : t.transport = .established
  watcher : t.watcher = .waiting
  spawner : ∃ c, t.spawner = .listening c

namespace Sessions

variable {sharedClientId : Bool} {s s' : Sessions} {a : Action}

/-- The handler takes no `Connected` while the connection is disconnected. -/
def TakesNoConnected (s : Sessions) : Action → Prop
  | .sync a => s.held.state = .disconnected → s.receiving.TakesNoConnected a
  | _ => True

/-- What is known of the current session is what was reported of it, and that is what has become of
it. -/
structure Standing (sharedClientId : Bool) (s : Sessions) : Prop where
  refers : s.Refers
  believes : s.conn.Believes
  reported : s.receiving.session.Reported sharedClientId

/-- A session begins. -/
theorem standing_of_openConnection {localId : ConnectionLocalId} {cfg : SendChannelsConfiguration}
    {recvCfg : RecvChannelsConfiguration}
    (hrefers : s.Refers) (hopen : openConnection localId cfg recvCfg createClientConnectionAsyncChannels =
      some (.ok (), s.conn)) (htasks : s.tasks s.current = .start) : s.Standing sharedClientId := by
  have hsame := ClientSideConnection.sameStanding_openConfiguredChannels hopen
  have hattempt : s.receiving.session.attempt = .connecting := congrArg SessionTasks.attempt htasks
  have hwatcher : s.receiving.session.watcher = .absent := congrArg SessionTasks.watcher htasks
  have hspawner : s.receiving.session.link.spawner = .absent := congrArg SessionTasks.spawner htasks
  have hconn : s.receiving.session.conn = s.conn := rfl
  refine ⟨hrefers, ⟨fun _ ↦ ?_, fun hc ↦ ?_, fun _ ↦ ?_⟩, ?_, ?_, ?_, ?_, ?_, fun {clientId} hc ↦ ?_,
    fun hc ↦ ?_, fun hc ↦ ?_, fun hc ↦ ?_⟩
  · rw [hsame.reports]
    rfl
  · cases hsame.state.symm.trans hc
  · rw [hsame.reports, hsame.closeSend]
    exact ⟨rfl, List.not_mem_nil⟩
  · rw [hconn, hsame.reports]
    rfl
  · rw [hconn, hsame.reports]
    exact Nat.succ_pos _
  · rw [hconn, hsame.closeSend]
    rfl
  · rw [hconn, hsame.sender]
    rfl
  · rw [hattempt]
    trivial
  · rw [hconn, hsame.reports] at hc
    exact absurd hc List.not_mem_nil
  · cases hattempt.symm.trans hc
  · cases hwatcher.symm.trans hc
  · rcases hc with hc | hc <;> cases hspawner.symm.trans hc

theorem standing_of_opened (h : s.Opened) : s.Standing sharedClientId := by
  obtain ⟨localId, cfg, recvCfg, conn, hopen, rfl⟩ := h
  rw [← show (start localId cfg recvCfg conn).conn = conn from conn_storeConn _ conn] at hopen
  exact standing_of_openConnection (refers_start localId cfg recvCfg conn) hopen rfl

/-- Nothing that the sync side sees has changed. -/
theorem Standing.of_receiving (h : s.Standing sharedClientId) (hrefers : s'.Refers)
    (hreceiving : s'.receiving = s.receiving) : s'.Standing sharedClientId := by
  have hconn : s'.conn = s.conn := congrArg ClientReceiving.conn hreceiving
  refine ⟨hrefers, ?_, ?_⟩
  · rw [hconn]
    exact h.believes
  · rw [hreceiving]
    exact h.reported

/-- A session is never begun again. -/
theorem current_le (h : Step sharedClientId s a s') : s.current ≤ s'.current := by
  by_cases hc : s.SameSession a
  · exact (current_of_sameSession hc h).ge
  · obtain ⟨rfl, hdis⟩ := Classical.not_imp.1 hc
    obtain ⟨s₁, conn, h₁, -, rfl⟩ := reconnect_of_disconnected (not_not.1 hdis)
    cases h with
    | reconnect hf hr =>
      obtain ⟨-, rfl⟩ := Prod.mk.inj (Option.some.inj (h₁.symm.trans hr))
      exact Nat.le_succ _

/-- **Every step of a client keeps it**, if a connection that is disconnected takes no `Connected`. -/
theorem Standing.step (h : s.Standing sharedClientId) (ha : s.TakesNoConnected a)
    (hstep : Step sharedClientId s a s') : s'.Standing sharedClientId := by
  have hrefers := h.refers.step hstep
  have hcurrent : s.taskSession s.current = s.receiving.session := by
    rw [taskSession, show s.held.on s.current = s.held from h.refers]
    rfl
  cases hstep with
  | @sync b r hb hstep =>
    have htasks := ofSession_of_sync hb hstep
    have hheard : s.conn.Hears r.conn := hstep.hears hb ha
    have hconn : (s.storeSync r).conn = r.conn := HeldConnection.load_store
    refine ⟨hrefers, ?_, ?_⟩
    · rw [hconn]
      exact h.believes.hears hheard
    · rw [receiving_storeSync htasks]
      exact h.reported.hears htasks hheard
  | @other conn hf hcall =>
    have hheard : s.conn.Hears conn := .nothing (ClientSideConnection.sameStanding_otherCall hcall)
    refine ⟨hrefers, ?_, ?_⟩
    · rw [conn_storeConn]
      exact h.believes.hears hheard
    · rw [receiving_storeConn]
      exact h.reported.hears rfl hheard
  | reconnect hf hr =>
    by_cases hdis : s.held.state = .disconnected
    · obtain ⟨s₁, conn, h₁, hopen, rfl⟩ := reconnect_of_disconnected hdis
      obtain ⟨-, rfl⟩ := Prod.mk.inj (Option.some.inj (h₁.symm.trans hr))
      rw [← show (s.reset.storeConn conn).spawn.conn = conn from s.reset.conn_storeConn conn] at hopen
      exact standing_of_openConnection hrefers hopen (Function.update_self ..)
    · rw [reconnect_of_not_disconnected hdis] at hr
      obtain ⟨-, rfl⟩ := Prod.mk.inj (Option.some.inj hr)
      exact h
  | @task n b t hn hb hstep =>
    by_cases hne : n = s.current
    · subst hne
      rw [hcurrent] at hstep
      have hreceiving := receiving_storeTasks h.refers (store_of_tasks hb hstep s.held)
      have hconn : (s.storeTasks s.current t).conn = t.conn :=
        congrArg ClientReceiving.conn hreceiving
      refine ⟨hrefers, ?_, ?_⟩
      · rw [hconn]
        exact hstep.believes hb h.believes
      · rw [hreceiving]
        exact h.reported.step hb hstep
    · exact h.of_receiving hrefers (receiving_storeTasks_of_ne h.refers hne t)
  | @signalFailed n message hn hatt hr =>
    have hne : n ≠ s.current := fun hne ↦
      hr ((congrArg HeldConnection.fromAsyncClientRecv h.refers).symm.trans hne.symm)
    exact h.of_receiving hrefers (receiving_storeTasks_of_ne h.refers hne _)
  | @watcherFailed n hn hw hr =>
    have hne : n ≠ s.current := fun hne ↦
      hr ((congrArg HeldConnection.fromAsyncClientRecv h.refers).symm.trans hne.symm)
    exact h.of_receiving hrefers (receiving_storeTasks_of_ne h.refers hne _)
  | @arrive n m hn hr =>
    by_cases hne : n = s.current
    · subst hne
      rw [hcurrent] at hrefers ⊢
      have hreceiving := receiving_storeTasks h.refers (t := s.receiving.session.withConn
        (s.receiving.session.conn.arrive m)) ⟨rfl, rfl, rfl⟩
      have hconn := congrArg ClientReceiving.conn hreceiving
      refine ⟨hrefers, ?_, ?_⟩
      · rw [show Sessions.conn _ = _ from hconn]
        exact h.believes.congr rfl rfl rfl
      · rw [hreceiving]
        exact h.reported.of_tasks rfl rfl ⟨rfl, rfl⟩ rfl id rfl
    · exact h.of_receiving hrefers (receiving_storeTasks_of_ne h.refers hne _)

/-! ## At rest -/

/-- What the state says of the current session is so. -/
structure Agrees (sharedClientId : Bool) (s : Sessions) : Prop where
  /-- It waits for the network: for the connection, or for the client id. -/
  connecting : s.held.state = .connecting →
    (s.tasks s.current).attempt = .connecting ∧ (s.tasks s.current).transport = .absent ∨
      sharedClientId = true ∧ (s.tasks s.current).attempt = .receivingClientId ∧ (s.tasks s.current).Up
  connected : ∀ {clientId}, s.held.state = .connected clientId →
    clientId.isSome = sharedClientId ∧ (s.tasks s.current).attempt = .ended ∧ (s.tasks s.current).Up
  closed : (s.tasks s.current).transport = .closed → s.held.state = .disconnected
  /-- Each channel that was asked for has its task. -/
  created : (s.tasks s.current).Up → s.conn.toChannels.queued = []

/-- With everything handled, a session that is watched and has its spawner is up, unless the connection is
disconnected. -/
theorem Standing.up (h : s.Standing sharedClientId) (hsteady : (s.tasks s.current).Steady)
    (hrest : ∀ a t, a.Internal → a.OfTasks → ¬ Session.Step sharedClientId s.receiving.session a t)
    (hread : s.conn.specific.fromAsyncClient.queued = []) (hopen : s.held.state ≠ .disconnected)
    (hwatcher : (s.tasks s.current).watcher ≠ .absent)
    (hspawner : (s.tasks s.current).spawner ≠ .absent) : (s.tasks s.current).Up := by
  obtain ⟨hlog, hnever⟩ := h.believes.undisturbed hopen
  have hwaiting : (s.tasks s.current).watcher = .waiting := by
    cases hw : (s.tasks s.current).watcher with
    | absent => exact absurd hw hwatcher
    | waiting => rfl
    | signaling => exact (hrest _ _ (by trivial) (by trivial) (.watcherSignal hw (h.reported.ready hread))).elim
    | ended =>
      have hlost := h.reported.lost hw
      rw [Mpsc.sent, show s.receiving.session.conn.specific.fromAsyncClient.queued = _ from hread,
        List.append_nil] at hlost
      exact absurd hlost hnever
  refine ⟨?_, hwaiting, ?_⟩
  · cases ht : (s.tasks s.current).transport with
    | absent => exact absurd (hsteady.absent ht).2 hwatcher
    | established => rfl
    | closed => exact (hrest _ _ (by trivial) (by trivial) (.transportClosed hwaiting ht)).elim
  · cases hs : (s.tasks s.current).spawner with
    | absent => exact absurd hs hspawner
    | listening c => exact ⟨c, rfl⟩
    | waiting => exact absurd hlog (h.reported.ordered (.inl hs))
    | closed => exact absurd hlog (h.reported.ordered (.inr hs))

/-- **So it is at rest**, when the messages of the tasks are handled. -/
theorem Standing.agrees (h : s.Standing sharedClientId) (hsteady : (s.tasks s.current).Steady)
    (hrest : ∀ a s', a.InternalTo s.current → ¬ Step sharedClientId s a s')
    (hread : s.conn.specific.fromAsyncClient.queued = []) : s.Agrees sharedClientId := by
  have hgoes : ∀ b t, b.Internal → b.OfTasks → ¬ Session.Step sharedClientId s.receiving.session b t := by
    intro b t hb hb' hstep
    have hcurrent : s.taskSession s.current = s.receiving.session := by
      rw [taskSession, show s.held.on s.current = s.held from h.refers]
      rfl
    exact hrest (.task s.current b) _ ⟨rfl, hb⟩ (.task le_rfl hb' (hcurrent.symm ▸ hstep))
  have hsent : s.conn.specific.fromAsyncClient.sent = s.conn.specific.fromAsyncClient.received := by
    rw [Mpsc.sent, hread, List.append_nil]
  have hconnecting : s.held.state = .connecting →
      (s.tasks s.current).attempt = .connecting ∧ (s.tasks s.current).transport = .absent ∨
        sharedClientId = true ∧ (s.tasks s.current).attempt = .receivingClientId ∧
          (s.tasks s.current).Up := by
    intro hstate
    have hopen : s.held.state ≠ .disconnected := by simp [hstate]
    have hbacked := h.reported.attempt
    cases hatt : (s.tasks s.current).attempt with
    | connecting => exact .inl ⟨rfl, hsteady.connecting hatt⟩
    | connected => exact (hgoes _ _ (by trivial) (by trivial) (.spawnWatcher hatt)).elim
    | watched => exact (hgoes _ _ (by trivial) (by trivial) (.spawnRecv hatt)).elim
    | receiving => exact (hgoes _ _ (by trivial) (by trivial) (.spawnSpawner hatt)).elim
    | receivingClientId =>
      rw [show s.receiving.session.attempt = _ from hatt] at hbacked
      obtain ⟨hshared, hwatcher, hspawner⟩ := hbacked
      exact .inr ⟨hshared, rfl, h.up hsteady hgoes hread hopen hwatcher hspawner⟩
    | signaling message =>
      exact (hgoes _ _ (by trivial) (by trivial) (.signal hatt (h.reported.ready hread))).elim
    | ended =>
      -- it would have said how it ended, or there would be an order to close
      rcases h.reported.ended hatt with hlog | ⟨message, hmem, -⟩
      · exact absurd (h.believes.undisturbed hopen).1 hlog
      · rw [show s.receiving.session.conn.specific.fromAsyncClient.sent = _ from hsent,
          h.believes.connecting hstate] at hmem
        cases hmem
  have hconnected : ∀ {clientId}, s.held.state = .connected clientId →
      clientId.isSome = sharedClientId ∧ (s.tasks s.current).attempt = .ended ∧
        (s.tasks s.current).Up := by
    intro clientId hstate
    obtain ⟨hended, hid, hwatcher, hspawner⟩ := h.reported.connected (hsent ▸ h.believes.connected hstate)
    exact ⟨hid, hended, h.up hsteady hgoes hread (by simp [hstate]) hwatcher hspawner⟩
  refine ⟨hconnecting, hconnected, fun hclosed ↦ ?_, fun hup ↦ ?_⟩
  · cases hstate : s.held.state with
    | connecting =>
      rcases hconnecting hstate with ⟨-, habsent⟩ | ⟨-, -, hup⟩
      · cases habsent.symm.trans hclosed
      · cases hup.transport.symm.trans hclosed
    | connected clientId => cases (hconnected hstate).2.2.transport.symm.trans hclosed
    | disconnected => rfl
  · obtain ⟨c, hlistening⟩ := hup.spawner
    cases hq : s.conn.toChannels.queued with
    | nil => rfl
    | cons message rest =>
      exact (hgoes (.link .listenCreate) _ (by trivial) (by trivial) (.link trivial
        (.listenCreate hlistening (Mpsc.recv_eq_some.2 ⟨rest, hq, rfl⟩)))).elim

/-- **The state of a connection is true at rest.**  After any history of a client connection, with any
number of sessions and whatever their tasks do, as long as no `Connected` was handled while it was
disconnected: when the tasks of the current session are at rest and their messages handled, a connection
that is connected is up, one that is connecting waits for the network, and one whose transport is closed is
disconnected. -/
theorem state_agrees_at_rest {s₀ : Sessions} (h₀ : s₀.Opened)
    (h : Reachable (Step sharedClientId) TakesNoConnected s₀ s)
    (hrest : ∀ a s', a.InternalTo s.current → ¬ Step sharedClientId s a s')
    (hread : s.conn.specific.fromAsyncClient.queued = []) : s.Agrees sharedClientId := by
  have hstanding : s.Standing sharedClientId :=
    h.invariant (standing_of_opened h₀) fun hs ha hstep ↦ hs.step ha hstep
  have hkept : s.Kept := by
    refine h.invariant ?_ fun hs _ hstep ↦ hs.step hstep
    obtain ⟨localId, cfg, recvCfg, conn, -, rfl⟩ := h₀
    exact kept_start localId cfg recvCfg conn
  exact hstanding.agrees (hkept.steady s.current le_rfl) hrest hread

/-- Nothing is there of a session that was not begun. -/
theorem not_step_of_lt {n : ℕ} (hn : s.current < n) (ha : a.InternalTo n) : ¬ Step sharedClientId s a s' := by
  intro h
  cases h with
  | task hn' => exact absurd hn' (ha.1 ▸ Nat.not_le.2 hn)
  | signalFailed hn' | watcherFailed hn' => exact absurd hn' (ha ▸ Nat.not_le.2 hn)
  | _ => exact ha.elim

/-- The attempt succeeds, and `Connected` is handled. -/
theorem state_agrees_at_rest_connected : ∃ s, Reachable (Step false) TakesNoConnected
    (start 0 .new {} .opened) s ∧ s.held.state = .connected none ∧ s.Agrees false := by
  have hopened : Opened (start 0 .new {} .opened) :=
    ⟨0, .new, {}, .opened, ClientSideConnection.openConnection_opened, rfl⟩
  have h : Reachable (Step false) TakesNoConnected (start 0 .new {} .opened) _ := .start
  have h := h.next (by trivial) (.task (n := 0) le_rfl (by trivial) (.established rfl))
  have h := h.next (by trivial) (.task (n := 0) le_rfl (by trivial) (.spawnWatcher rfl))
  have h := h.next (by trivial) (.task (n := 0) le_rfl (by trivial) (.spawnRecv rfl))
  have h := h.next (by trivial) (.task (n := 0) le_rfl (by trivial) (.spawnSpawner rfl))
  have h := h.next (by trivial) (.task (n := 0) le_rfl (by trivial) (.signal rfl (by decide)))
  have h := h.next (by nofun) (.sync (by exact ⟨id, nofun⟩) (.session ⟨.beginFrame rfl, nofun⟩))
  have h := h.next (by nofun)
    (.sync (by exact ⟨id, nofun⟩) (.session ⟨.handleAsync true rfl rfl fun _ ↦ rfl, nofun⟩))
  refine ⟨_, h, rfl, state_agrees_at_rest hopened h (fun a s' ha ↦ ?_) rfl⟩
  exact not_step_of_idle (.inr rfl) (.inr (.inr ⟨rfl, rfl⟩))
    ⟨.inr (.inr ⟨0, rfl, rfl, rfl, rfl⟩), fun _ ↦ rfl⟩ ha

end Sessions

end BevyIroh
