import BevyIroh.Client.Reconnect

/-!
# Where a client has its id from

With the feature `shared-client-id` the task of a session receives the client's id and reports it with
`Connected`, and `handle_client_events` makes it part of the state.  So the id passes through the task,
the queue between the two, and the state; `Sessions.Told` says that wherever it is, it is one that was
received by the current session of the connection.
-/

set_option autoImplicit false

namespace BevyIroh

open Transition

/-- A connection that is lost is disconnected, or already was. -/
theorem ClientSideConnection.specific_handleLost (self : ClientSideConnection) (receivers : Bool) :
    (self.handleLost receivers).1.specific = self.specific ∨
      (self.handleLost receivers).1.specific = { self.specific with state := .disconnected } := by
  rcases self.handleLost_cases receivers with ⟨-, heq⟩ | ⟨-, hlost, -⟩
  · exact .inl (by rw [heq])
  · exact .inr hlost

namespace Session

variable {sharedClientId : Bool} {s s' : Session} {a : SessionAct} {told : ClientId → Prop}

/-- Whatever id the session has, it was told. -/
structure Told (told : ClientId → Prop) (s : Session) : Prop where
  attempt : ∀ {id}, s.attempt = .signaling (.connected (some id)) → told id
  queued : ∀ {id}, .connected (some id) ∈ s.conn.specific.fromAsyncClient.queued → told id
  state : ∀ {id}, s.conn.specific.state = .connected (some id) → told id

/-- Nothing is reported, and the connection is in no new state unless it is disconnected. -/
theorem Told.quiet (h : s.Told told) (hattempt : s'.attempt = s.attempt)
    (hqueued : s'.conn.specific.fromAsyncClient.queued ⊆ s.conn.specific.fromAsyncClient.queued)
    (hstate : s'.conn.specific.state = s.conn.specific.state ∨
      s'.conn.specific.state = .disconnected) : s'.Told told where
  attempt hs' := h.attempt (hattempt ▸ hs')
  queued hs' := h.queued (hqueued hs')
  state hs' := by
    rcases hstate with hstate | hstate
    · exact h.state (hstate ▸ hs')
    · cases hstate.symm.trans hs'

/-- The specific part of the connection is as it was, or disconnected. -/
theorem Told.quiet_of_specific (h : s.Told told) (hattempt : s'.attempt = s.attempt)
    (hspecific : s'.conn.specific = s.conn.specific ∨
      s'.conn.specific = { s.conn.specific with state := .disconnected }) : s'.Told told := by
  have hqueue : s'.conn.specific.fromAsyncClient = s.conn.specific.fromAsyncClient := by
    rcases hspecific with hspecific | hspecific <;> rw [hspecific]
  exact h.quiet hattempt (fun _ hm ↦ congrArg Mpsc.queued hqueue ▸ hm)
    (hspecific.imp (congrArg ClientConnection.state) (congrArg ClientConnection.state))

/-- A message of the task is handled: only `Connected` has an id. -/
theorem Told.handleAsync (h : s.Told told) (receivers : Bool) {message : ClientAsyncMessage}
    {q : Mpsc ClientAsyncMessage} (hq : s.conn.specific.fromAsyncClient.recv = some (message, q)) :
    (s.handled ((s.conn.withFromAsyncClient q).handleAsyncMessage receivers message)).Told told := by
  have hrest : q.queued ⊆ s.conn.specific.fromAsyncClient.queued := by
    obtain ⟨rest, hqueued, rfl⟩ := Mpsc.recv_eq_some.1 hq
    rw [hqueued]
    exact List.subset_cons_self _ _
  cases message with
  | connected clientId =>
    refine ⟨h.attempt, fun hmem ↦ h.queued (hrest hmem), fun {id} hstate ↦ h.queued ?_⟩
    obtain rfl : clientId = some id := InternalConnectionState.connected.inj hstate
    exact Mpsc.mem_queued_of_recv hq
  | connectionFailed err => exact h.quiet rfl hrest (.inr rfl)
  | connectionClosed =>
    have htaken : (s.withConn (s.conn.withFromAsyncClient q)).Told told := h.quiet rfl hrest (.inl rfl)
    exact htaken.quiet_of_specific rfl
      ((s.conn.withFromAsyncClient q).specific_handleLost receivers)

/-- **Every step keeps it**, if the id that is received was told. -/
theorem Told.step (h : s.Told told) (hstep : SessionStep sharedClientId s a s')
    (ha : ∀ id, a = .receiveClientId (.retrieved id) → told id) : s'.Told told := by
  obtain ⟨hstep, hreconnect⟩ := hstep
  cases hstep with
  | call c hf =>
    have hqueue := s.conn.fromAsyncClient_call c
    exact h.quiet rfl (fun _ hm ↦ congrArg Mpsc.queued hqueue ▸ hm) (.inl (s.conn.state_call c))
  | disconnect receivers hf hr =>
    exact h.quiet_of_specific rfl (.inr (s.conn.specific_internalDisconnect receivers .localOrder))
  | reconnect hf hr =>
    rw [ClientSideConnection.reconnect_of_not_disconnected (hreconnect rfl)] at hr
    cases hr
  | reconnectFailed hf hr =>
    rw [ClientSideConnection.reconnect_of_not_disconnected (hreconnect rfl)] at hr
    cases hr
  | handleAsync receivers hf hq hr => exact h.handleAsync receivers hq
  | @handleChannels receivers message q hf hq hr =>
    cases message with
    | lostConnection =>
      exact h.quiet_of_specific rfl ((s.conn.withFromChannels q).specific_handleLost receivers)
  | established hatt | connectFailed err hatt | spawnWatcher hatt | spawnRecv hatt =>
    exact { h with attempt := by rintro _ ⟨⟩ }
  | spawnSpawner hatt =>
    refine { h with attempt := fun {id} hnew ↦ ?_ }
    cases sharedClientId <;> cases hnew
  | receiveClientId r hatt hr =>
    refine { h with attempt := fun {id} hnew ↦ ?_ }
    cases r with
    | retrieved clientId =>
      cases hnew
      exact ha id rfl
    | interrupted | failed => cases hnew
  | @signal message hatt hq =>
    have hspecific := specific_attemptEnded (s.withConn (s.conn.withFromAsyncClient
      (s.conn.specific.fromAsyncClient.push message)))
    refine ⟨by rintro _ ⟨⟩, fun {id} hmem ↦ ?_, fun {id} hstate ↦ ?_⟩
    · rw [hspecific] at hmem
      rcases List.mem_append.1 hmem with hmem | hmem
      · exact h.queued hmem
      · exact h.attempt (hatt.trans (congrArg Attempt.signaling (List.mem_singleton.1 hmem).symm))
    · rw [hspecific] at hstate
      exact h.state hstate
  | watcherSignal hw hq =>
    refine { h with queued := fun {id} hmem ↦ ?_ }
    rcases List.mem_append.1 hmem with hmem | hmem
    · exact h.queued hmem
    · cases List.mem_singleton.1 hmem
  | link hl hlink => exact h.quiet_of_specific rfl (.inl (hlink.specific_eq hl))
  | _ => exact { h with }

end Session

/-- Payloads that arrive or are read do not matter. -/
theorem ClientReceiving.told_step {sharedClientId : Bool} {told : ClientId → Prop}
    {r r' : ClientReceiving} {a : Action} (h : r.session.Told told)
    (hstep : Step sharedClientId r a r')
    (ha : ∀ id, a = .session (.receiveClientId (.retrieved id)) → told id) : r'.session.Told told := by
  cases hstep with
  | session hstep => exact h.step hstep fun id hid ↦ ha id (congrArg _ hid)
  | arrive | clear => exact h.quiet_of_specific rfl (.inl rfl)
  | dispatch hf hs hloop => exact h.quiet_of_specific rfl (.inl hloop.drained.2)
  | dispatchSkipped hf hs => exact h
  | receive c hf =>
    refine h.quiet_of_specific rfl (.inl ?_)
    show (r.conn.receivePayload c).2.specific = r.conn.specific
    rw [ClientSideConnection.receivePayload, PeerConnection.internalReceivePayload]
    split
    · rfl
    · simp only
      split <;> rfl

theorem ClientReceiving.told_anyStep {sharedClientId : Bool} {told : ClientId → Prop}
    {r r' : ClientReceiving} {a : Option Action} (h : r.session.Told told)
    (hstep : AnyStep sharedClientId r a r')
    (ha : ∀ id, a = some (.session (.receiveClientId (.retrieved id))) → told id) :
    r'.session.Told told := by
  cases hstep with
  | step hstep => exact told_step h hstep fun id hid ↦ ha id (congrArg some hid)
  | @other conn hf hcall =>
    obtain ⟨clear, hconn⟩ := hcall.frame
    have hspecific : conn.specific = r.conn.specific := by rw [hconn]
    exact h.quiet_of_specific rfl (.inl hspecific)

namespace Sessions

variable {sharedClientId : Bool} {s s' : Sessions} {a : Action} {told : ℕ → ClientId → Prop}

/-- The connection has the ends of its own session, and whatever id it has, that session was told. -/
structure Told (told : ℕ → ClientId → Prop) (s : Sessions) : Prop where
  refers : s.Refers
  session : s.receiving.session.Told (told s.current)

theorem Told.mono {told' : ℕ → ClientId → Prop} (h : s.Told told)
    (hle : ∀ {n id}, told n id → told' n id) : s.Told told' where
  refers := h.refers
  session :=
    { attempt := fun hs ↦ hle (h.session.attempt hs)
      queued := fun hs ↦ hle (h.session.queued hs)
      state := fun hs ↦ hle (h.session.state hs) }

/-- A session that begins has no id. -/
theorem told_of_openConnection {localId : ConnectionLocalId} {cfg : SendChannelsConfiguration}
    {recvCfg : RecvChannelsConfiguration} {conn : ClientSideConnection}
    (h : openConnection localId cfg recvCfg createClientConnectionAsyncChannels =
      some (.ok (), conn)) {t : Session} (hconn : t.conn = conn) (hattempt : t.attempt = .connecting)
    (told : ClientId → Prop) : t.Told told := by
  obtain ⟨hstate, hqueued⟩ : conn.specific.state = .connecting ∧
      conn.specific.fromAsyncClient.queued = [] :=
    ClientSideConnection.openConfiguredChannels_invariant
      (P := fun c ↦ c.specific.state = .connecting ∧ c.specific.fromAsyncClient.queued = [])
      (fun _ _ hc ↦ hc) (fun _ _ _ hc ↦ by rwa [PeerConnection.specific_createConnectionChannel])
      ⟨rfl, rfl⟩ h
  subst hconn
  refine ⟨fun hs ↦ ?_, fun hs ↦ ?_, fun hs ↦ ?_⟩
  · cases hattempt.symm.trans hs
  · rw [hqueued] at hs
    cases hs
  · cases hstate.symm.trans hs

/-- A client connection that was opened, with its first session. -/
def Opened (s : Sessions) : Prop :=
  ∃ localId cfg recvCfg conn, openConnection localId cfg recvCfg createClientConnectionAsyncChannels =
    some (.ok (), conn) ∧ s = start localId cfg recvCfg conn

theorem told_of_opened (h : s.Opened) (told : ℕ → ClientId → Prop) : s.Told told := by
  obtain ⟨localId, cfg, recvCfg, conn, hopen, rfl⟩ := h
  refine ⟨refers_start localId cfg recvCfg conn, told_of_openConnection hopen ?_ rfl _⟩
  rw [start]
  exact conn_storeConn _ conn

/-- Only `reconnect` begins a session. -/
theorem current_of_sameSession (hc : s.SameSession a) (h : Step sharedClientId s a s') :
    s'.current = s.current := by
  cases h with
  | reconnect hf h =>
    rw [reconnect_of_not_disconnected (hc rfl)] at h
    obtain ⟨-, rfl⟩ := Prod.mk.inj (Option.some.inj h)
    rfl
  | _ => rfl

/-- **Every step of a client keeps it**, if the ids that are received were told to the sessions that
receive them. -/
theorem Told.step (h : s.Told told) (hstep : Step sharedClientId s a s')
    (ha : ∀ n id, a = .task n (.receiveClientId (.retrieved id)) → told n id) : s'.Told told := by
  refine ⟨h.refers.step hstep, ?_⟩
  by_cases hc : s.SameSession a
  · rw [current_of_sameSession hc hstep]
    rcases h.refers.simulates hc hstep with hsame | ⟨b, hb, htask⟩
    · rw [hsame]
      exact h.session
    · refine ClientReceiving.told_anyStep h.session hb fun id hid ↦ ha _ id ?_
      exact htask _ hid trivial
  · obtain ⟨rfl, hdis⟩ := Classical.not_imp.1 hc
    obtain ⟨s₁, conn, h₁, hopen, rfl⟩ := reconnect_of_disconnected (not_not.1 hdis)
    cases hstep with
    | reconnect hf hr =>
      obtain ⟨-, rfl⟩ := Prod.mk.inj (Option.some.inj (h₁.symm.trans hr))
      have hconn : (s.reset.storeConn conn).spawn.conn = conn := s.reset.conn_storeConn conn
      have htask : (s.reset.storeConn conn).spawn.tasks s.reset.current = .start := by
        rw [spawn]
        exact Function.update_self ..
      exact told_of_openConnection hopen (t := (s.reset.storeConn conn).spawn.receiving.session) hconn
        (congrArg SessionTasks.attempt htask) _

end Sessions

end BevyIroh
