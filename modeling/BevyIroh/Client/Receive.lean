import BevyIroh.Client.Events
import BevyIroh.Shared.Reading

/-!
# Reading on the client

`dispatch_received_payloads` passes over a connection that is disconnected, and `receive_payload`
refuses one.  So the peer's payloads can be read until the notification that it has closed the
connection is handled, however late that is, and not after it: what was not read by then stays in the
queue and in the buffers, out of reach (`ReadUntilClosed`).

`handle_client_events` and `dispatch_received_payloads` run in any order in a frame, so the latter may
be called whenever the former is not running; the application reads and clears then, too.  Payloads
arrive at any time.
-/

set_option autoImplicit false

namespace BevyIroh

open Transition PeerConnection

/-- The client connection is closed. -/
inductive ConnectionClosed where
  | connectionClosed
deriving DecidableEq, Repr

/-- What a call of `receive_payload` has handed out. -/
def handed {ε : Type} : Except ε (Option Bytes) → List Bytes
  | .ok payload => payload.toList
  | .error _ => []

namespace ClientSideConnection

def receivePayload (self : ClientSideConnection) (channelId : ChannelId) :
    Except ConnectionClosed (Option Bytes) × ClientSideConnection :=
  match self.specific.state with
  | .disconnected => (.error .connectionClosed, self)
  | _ =>
    let (payload, self) := self.internalReceivePayload channelId
    (.ok payload, self)

/-- `dispatch_received_payloads`, for one connection. -/
def dispatchReceivedPayloads (self : ClientSideConnection) :
    List RecvChannelError × ClientSideConnection :=
  match self.specific.state with
  | .disconnected => ([], self)
  | _ =>
    match self.dispatchReceivedPayloadsToChannelBuffers with
    | (.ok (), self) => ([], self)
    | (.error errs, self) => (errs, self)

variable {self : ClientSideConnection} {c : ChannelId}

theorem receivePayload_of_disconnected (h : self.specific.state = .disconnected) :
    self.receivePayload c = (.error .connectionClosed, self) := by
  rw [receivePayload, h]

theorem receivePayload_of_not_disconnected (h : self.specific.state ≠ .disconnected) :
    self.receivePayload c =
      (.ok (self.internalReceivePayload c).1, (self.internalReceivePayload c).2) := by
  rw [receivePayload]
  split
  · rename_i hs
    exact absurd hs h
  · rfl

end ClientSideConnection

/-! ## Runs -/

/-- A session whose channels are read, with what has come out of it so far. -/
structure ClientReceiving where
  session : Session
  /-- What `receivePayload` has handed out on each channel. -/
  handedOut : ChannelId → List Bytes
  /-- What was in the buffer of each channel when the buffers were cleared. -/
  cleared : ChannelId → List Bytes
  /-- The errors of all the runs of `dispatch_received_payloads`. -/
  errs : List RecvChannelError

namespace ClientReceiving

def conn (r : ClientReceiving) : ClientSideConnection := r.session.conn

/-- The same with another connection. -/
def withConn (r : ClientReceiving) (conn : ClientSideConnection) : ClientReceiving :=
  { r with session := r.session.withConn conn }

def start (session : Session) : ClientReceiving where
  session := session
  handedOut _ := []
  cleared _ := []
  errs := []

/-- After a call of `receivePayload`. -/
def received (r : ClientReceiving) (c : ChannelId) : ClientReceiving :=
  { r.withConn (r.conn.receivePayload c).2 with
    handedOut := Function.update r.handedOut c (r.handedOut c ++ handed (r.conn.receivePayload c).1) }

inductive Action where
  | session (a : SessionAct)
  | arrive (message : ChannelId × Bytes)
  | dispatch
  | receive (channelId : ChannelId)
  | clear
deriving DecidableEq, Repr

inductive Step (sharedClientId : Bool) : ClientReceiving → Action → ClientReceiving → Prop
  | session {r : ClientReceiving} {a : SessionAct} {session : Session}
      (h : Session.SessionStep sharedClientId r.session a session) :
      Step sharedClientId r (.session a) { r with session }
  | arrive (r : ClientReceiving) (m : ChannelId × Bytes) :
      Step sharedClientId r (.arrive m) (r.withConn (r.conn.arrive m))
  /-- More payloads may arrive while the loop runs. -/
  | dispatch {r : ClientReceiving} {ms : List (ChannelId × Bytes)} {errs : List RecvChannelError}
      {conn : ClientSideConnection} (hf : r.session.frame = .outside)
      (hs : ¬ r.session.Disconnected) (h : r.conn.DispatchLoop ms errs conn) :
      Step sharedClientId r .dispatch { r.withConn conn with errs := r.errs ++ errs }
  | dispatchSkipped {r : ClientReceiving} (hf : r.session.frame = .outside)
      (hs : r.session.Disconnected) : Step sharedClientId r .dispatch r
  | receive {r : ClientReceiving} (c : ChannelId) (hf : r.session.frame = .outside) :
      Step sharedClientId r (.receive c) (r.received c)
  /-- The system `clear_stale_received_payloads`, or the application. -/
  | clear {r : ClientReceiving} (hf : r.session.frame = .outside) :
      Step sharedClientId r .clear
        { r.withConn r.conn.clearReceivedPayloads with
          cleared := fun c ↦ r.cleared c ++ r.conn.buffer c }

/-- Such a step, or another call of the application. -/
inductive AnyStep (sharedClientId : Bool) : ClientReceiving → Option Action → ClientReceiving → Prop
  | step {r r' : ClientReceiving} {a : Action} (h : Step sharedClientId r a r') :
      AnyStep sharedClientId r (some a) r'
  | other {r : ClientReceiving} {conn : ClientSideConnection} (hf : r.session.frame = .outside)
      (h : r.conn.OtherCall conn) : AnyStep sharedClientId r none (r.withConn conn)

variable {sharedClientId : Bool} {r r' : ClientReceiving}

/-- Running `dispatch_received_payloads` is such a step. -/
theorem step_dispatchReceivedPayloads (hf : r.session.frame = .outside) :
    Step sharedClientId r .dispatch
      { r.withConn r.conn.dispatchReceivedPayloads.2 with
        errs := r.errs ++ r.conn.dispatchReceivedPayloads.1 } := by
  by_cases hs : r.session.Disconnected
  · have hskip : r.conn.dispatchReceivedPayloads = ([], r.conn) := by
      rw [ClientSideConnection.dispatchReceivedPayloads, show r.conn.specific.state = _ from hs]
    rw [hskip]
    simpa [withConn, Session.withConn, conn, Session.conn] using Step.dispatchSkipped hf hs
  · obtain ⟨errs, hloop, herrs⟩ := dispatchLoop_of_dispatch r.conn
    have hdispatch : r.conn.dispatchReceivedPayloads =
        (errs, r.conn.dispatchReceivedPayloadsToChannelBuffers.2) := by
      rw [ClientSideConnection.dispatchReceivedPayloads]
      split
      · rename_i h
        exact absurd h hs
      · split <;> rename_i heq <;> rw [heq] at herrs ⊢ <;> split_ifs at herrs with hnil
        · rw [hnil]
        · rw [Except.error.inj herrs]
    rw [hdispatch]
    exact .dispatch hf hs hloop

end ClientReceiving

/-! ## What a session leaves alone -/

namespace ClientSideConnection

variable (self : ClientSideConnection)

theorem sameReceived_internalDisconnect (receivers : Bool) (reason : CloseReason) :
    self.SameReceived (self.internalDisconnect receivers reason).2 := by
  rw [internalDisconnect_eq]
  exact ⟨rfl, rfl⟩

theorem sameReceived_handleLost (receivers : Bool) :
    self.SameReceived (self.handleLost receivers).1 := by
  rw [handleLost]
  split
  · exact .refl _
  · exact self.sameReceived_internalDisconnect receivers .peerClosed

/-- A connection that is lost is disconnected. -/
theorem state_handleLost (receivers : Bool) :
    (self.handleLost receivers).1.specific.state = .disconnected := by
  rcases self.handleLost_cases receivers with ⟨hs, heq⟩ | ⟨-, hs, -⟩
  · rw [heq]
    exact hs
  · rw [hs]

/-- The calls on channels do nothing to what was received. -/
theorem sameReceived_call (c : ClientCall) : self.SameReceived (self.call c) :=
  call_invariant (P := fun c' ↦ self.SameReceived c') (fun _ _ h ↦ h.trans ⟨rfl, rfl⟩)
    (fun c' id config h ↦ h.trans (c'.sameReceived_createConnectionChannel id config))
    (fun c' id h ↦ h.trans (c'.sameReceived_internalCloseChannel id))
    (fun c' id payload h ↦ h.trans (c'.sameReceived_internalSendPayload id payload)) (.refl self) c

end ClientSideConnection

theorem Link.Step.sameReceived {S : Type} {l l' : Link S} {a : LinkAct} (h : Link.Step l a l')
    (ha : a.OfTasks) : l.conn.SameReceived l'.conn := by
  cases h <;> first | exact ⟨rfl, rfl⟩ | exact ha.elim

namespace Session

variable {sharedClientId : Bool} {s s' : Session} {a : SessionAct}

theorem sameReceived_attemptEnded (s : Session) : s.conn.SameReceived (attemptEnded s).conn := by
  by_cases h : s.link.spawner = .absent <;> simp only [conn, attemptEnded, h] <;> exact ⟨rfl, rfl⟩

/-- Nothing a session does touches what was received. -/
theorem SessionStep.sameReceived (h : SessionStep sharedClientId s a s') :
    s.conn.SameReceived s'.conn := by
  obtain ⟨hstep, hreconnect⟩ := h
  cases hstep with
  | call c hf => exact s.conn.sameReceived_call c
  | disconnect receivers hf hr => exact s.conn.sameReceived_internalDisconnect receivers .localOrder
  | reconnect hf hr =>
    rw [ClientSideConnection.reconnect_of_not_disconnected (hreconnect rfl)] at hr
    cases hr
  | reconnectFailed hf hr =>
    rw [ClientSideConnection.reconnect_of_not_disconnected (hreconnect rfl)] at hr
    cases hr
  | @handleAsync receivers message q hf hq hr =>
    cases message with
    | connected clientId => exact ⟨rfl, rfl⟩
    | connectionFailed err => exact ⟨rfl, rfl⟩
    | connectionClosed =>
      have htaken : s.conn.SameReceived (s.conn.withFromAsyncClient q) := ⟨rfl, rfl⟩
      exact htaken.trans (ClientSideConnection.sameReceived_handleLost _ receivers)
  | @handleChannels receivers message q hf hq hr =>
    cases message with
    | lostConnection =>
      have htaken : s.conn.SameReceived (s.conn.withFromChannels q) := ⟨rfl, rfl⟩
      exact htaken.trans (ClientSideConnection.sameReceived_handleLost _ receivers)
  | @signal message hatt hq =>
    let signaled := s.conn.withFromAsyncClient (s.conn.specific.fromAsyncClient.push message)
    have hsignaled : s.conn.SameReceived signaled := ⟨rfl, rfl⟩
    exact hsignaled.trans (sameReceived_attemptEnded (s.withConn signaled))
  | watcherSignal hw hq => exact ⟨rfl, rfl⟩
  | link hl hlink => exact hlink.sameReceived hl
  | _ => exact .refl _

/-- The session is over and its outcome is known: no message changes its state any more. -/
structure Over (s : Session) : Prop where
  disconnected : s.Disconnected
  attempt : s.attempt = .ended
  queued : ∀ m ∈ s.conn.specific.fromAsyncClient.queued, m.isOutcome = false

theorem Over.takesNoConnected (h : s.Over) (a : SessionAct) : s.TakesNoConnected a := by
  cases a with
  | handleAsync receivers =>
    intro clientId q hq
    obtain ⟨rest, hrest, -⟩ := Mpsc.recv_eq_some.1 hq
    have hout := h.queued (.connected clientId) (by rw [hrest]; exact List.mem_cons_self)
    cases hout
  | _ => trivial

theorem Over.step (h : s.Over) (hstep : SessionStep sharedClientId s a s') : s'.Over := by
  have hne : a ≠ .reconnect := fun ha ↦ hstep.2 ha h.disconnected
  have hdis := (disconnected_step_iff h.disconnected hne hstep.1).2 (h.takesNoConnected a)
  have hatt := h.attempt
  have hlost : ∀ {c : ClientSideConnection} (receivers : Bool),
      (c.handleLost receivers).1.specific.fromAsyncClient = c.specific.fromAsyncClient := by
    intro c receivers
    rcases c.handleLost_cases receivers with ⟨-, heq⟩ | ⟨-, hspecific, -⟩
    · rw [heq]
    · rw [hspecific]
  cases hstep.1 with
  | call c hf => exact ⟨hdis, hatt, (s.conn.fromAsyncClient_call c).symm ▸ h.queued⟩
  | disconnect receivers hf hr =>
    have hspecific := s.conn.specific_internalDisconnect receivers .localOrder
    exact ⟨hdis, hatt, (congrArg ClientConnection.fromAsyncClient hspecific).symm ▸ h.queued⟩
  | reconnect | reconnectFailed | reconnectIgnored => exact absurd rfl hne
  | @handleAsync receivers message q hf hq hr =>
    obtain ⟨rest, hrest, rfl⟩ := Mpsc.recv_eq_some.1 hq
    refine ⟨hdis, hatt, fun m hm ↦ h.queued m ?_⟩
    rw [hrest]
    refine List.mem_cons_of_mem _ ?_
    cases message with
    | connected clientId => exact hm
    | connectionFailed err => exact hm
    | connectionClosed =>
      exact (hlost (c := s.conn.withFromAsyncClient _) receivers ▸ hm :)
  | @handleChannels receivers message q hf hq hr =>
    cases message with
    | lostConnection =>
      exact ⟨hdis, hatt, (hlost (c := s.conn.withFromChannels q) receivers).symm ▸ h.queued⟩
  | watcherSignal hw hq =>
    refine ⟨hdis, hatt, fun m hm ↦ ?_⟩
    rcases List.mem_append.1 hm with hm | hm
    · exact h.queued m hm
    · rw [List.mem_singleton.1 hm]
      rfl
  | link hl hlink =>
    have hq := congrArg ClientConnection.fromAsyncClient (hlink.specific_eq hl)
    exact ⟨hdis, hatt, hq.symm ▸ h.queued⟩
  | beginFrame | endAsync | endFrame | transportClosed | peerClose => exact ⟨hdis, hatt, h.queued⟩
  | established hb | connectFailed _ hb | spawnWatcher hb | spawnRecv hb | spawnSpawner hb
  | receiveClientId _ hb | signal hb =>
    rw [hatt] at hb
    cases hb

theorem Begins.untouched (h : Begins s) : s.conn.Untouched := by
  have hopen : ∀ {configs : List ChannelConfig} {c c' : ClientSideConnection}
      {e : Except AsyncChannelError Unit}, c.Untouched →
      ClientSideConnection.openConfiguredChannels configs c = some (e, c') → c'.Untouched :=
    fun {configs c c' e} ↦ ClientSideConnection.openConfiguredChannels_invariant
      (P := PeerConnection.Untouched) (fun c ids hc ↦ ⟨hc.1, hc.2, hc.3⟩)
      (fun c id config hc ↦ hc.congr (c.sameReceived_createConnectionChannel id config))
  cases h with
  | opened h => exact hopen ⟨rfl, rfl, rfl⟩ h
  | reconnected h =>
    obtain ⟨hr, -⟩ | ⟨_, h, -⟩ := ClientSideConnection.reconnect_cases h
    · cases hr
    · exact hopen ⟨rfl, rfl, rfl⟩ h
  | reconnectFailed h =>
    obtain ⟨hr, -⟩ | ⟨_, h, -⟩ := ClientSideConnection.reconnect_cases h
    · cases hr
    · exact hopen ⟨rfl, rfl, rfl⟩ h

end Session

/-! ## Until the notification, and after it -/

open Ledger

namespace ClientReceiving

variable {sharedClientId : Bool} {r r' : ClientReceiving} {a : Action}

/-- The connection with the accounts kept of it. -/
def view (r : ClientReceiving) : Receiving ClientConnection where
  conn := r.conn
  handedOut := r.handedOut
  cleared := r.cleared
  errs := r.errs

/-- A disconnected connection hands out nothing. -/
theorem received_of_disconnected (hs : r.session.Disconnected) (c : ChannelId) : r.received c = r := by
  have hreceive : r.conn.receivePayload c = _ := ClientSideConnection.receivePayload_of_disconnected hs
  rw [received, hreceive, handed, List.append_nil, Function.update_eq_self]
  rfl

/-- Another connection hands out the first payload of the channel's buffer. -/
theorem view_received (hs : ¬ r.session.Disconnected) (c : ChannelId) : (r.received c).view =
    { r.view with
      conn := (r.view.conn.internalReceivePayload c).2
      handedOut := Function.update r.view.handedOut c
        (r.view.handedOut c ++ (r.view.conn.internalReceivePayload c).1.toList) } := by
  have hreceive : r.conn.receivePayload c = _ :=
    ClientSideConnection.receivePayload_of_not_disconnected hs
  rw [received, hreceive]
  rfl

/-- Some ledger accounts for all payloads of the session. -/
def Accounted (r : ClientReceiving) : Prop := ∃ l, r.view.Accounts l

theorem Accounted.step (h : r.Accounted) (hs : Step sharedClientId r a r') : r'.Accounted := by
  obtain ⟨l, hl⟩ := h
  cases hs with
  | session h => exact ⟨l, hl.congr h.sameReceived⟩
  | arrive m => exact hl.arrive m
  | dispatch hf hs hloop => exact Receiving.Accounts.dispatch hloop hl rfl
  | dispatchSkipped hf hs => exact ⟨l, hl⟩
  | receive c hf =>
    by_cases hs : r.session.Disconnected
    · exact (received_of_disconnected hs c).symm ▸ ⟨l, hl⟩
    · rw [Accounted, view_received hs]
      exact hl.receive c
  | clear hf => exact hl.clear

/-- It dispatches or reads. -/
def Reads : Action → Prop
  | .dispatch => True
  | .receive _ => True
  | _ => False

/-- The handler does not take a `Connected` in this step. -/
def TakesNoConnected (r : ClientReceiving) : Action → Prop
  | .session a => r.session.TakesNoConnected a
  | _ => True

/-- A connection that is not disconnected can be dispatched and read. -/
theorem lift_reads {v : Receiving ClientConnection}
    (h : Reachable Receiving.Step (fun _ ↦ Receiving.Reads) r.view v)
    (hf : r.session.frame = .outside) (hs : ¬ r.session.Disconnected) :
    ∃ r', Reachable (Step sharedClientId) (fun _ ↦ Reads) r r' ∧ r'.view = v ∧
      r'.session.frame = .outside ∧ ¬ r'.session.Disconnected := by
  refine h.invariant (P := fun v ↦ ∃ r', Reachable (Step sharedClientId) (fun _ ↦ Reads) r r' ∧
    r'.view = v ∧ r'.session.frame = .outside ∧ ¬ r'.session.Disconnected) ⟨r, .start, rfl, hf, hs⟩ ?_
  rintro _ b v' ⟨r₁, hreach, rfl, hf₁, hs₁⟩ hb hstep
  cases hstep with
  | arrive | clear => exact hb.elim
  | dispatch hloop =>
    refine ⟨_, hreach.next (a := .dispatch) hb (.dispatch hf₁ hs₁ hloop), rfl, hf₁, fun hdis ↦ hs₁ ?_⟩
    exact (congrArg ClientConnection.state hloop.drained.2).symm.trans hdis
  | receive c =>
    have hview := view_received hs₁ c
    have hspecific : (r₁.received c).conn.specific = r₁.conn.specific :=
      (congrArg (·.conn.specific) hview).trans (r₁.view.sameArrivals_receive c).1.specific
    refine ⟨_, hreach.next (a := .receive c) hb (.receive c hf₁), hview, hf₁, fun hdis ↦ hs₁ ?_⟩
    exact (congrArg ClientConnection.state hspecific).symm.trans hdis

/-- How the payloads of a session fare around the notification that the peer has closed it. -/
structure ReadUntilClosed (sharedClientId : Bool) (r : ClientReceiving) : Prop where
  /-- Until the connection is disconnected, all that has arrived can be read, each payload on its
  channel and in order, but for what was cleared and what dispatching reports. -/
  readable : ¬ r.session.Disconnected → r.session.frame = .outside →
    ∃ r' l, Reachable (Step sharedClientId) (fun _ ↦ Reads) r r' ∧
      arrivals l = r.conn.bytesFromPeer.sent ∧
      (∀ x ∈ l, x.fate = .taken ∨ x.fate = .cleared ∨ ∃ e, x.fate = .reported e) ∧
      (∀ c, taken l c = r'.handedOut c ∧ Ledger.cleared l c = r.cleared c) ∧
      reports l = r'.errs.map fun e ↦ (e.channelId, e)
  /-- The notification disconnects the connection and touches nothing that was received. -/
  closed : ∀ receivers q r', r.conn.specific.fromAsyncClient.recv = some (.connectionClosed, q) →
    Step sharedClientId r (.session (.handleAsync receivers)) r' →
    r'.session.Disconnected ∧ r.conn.SameReceived r'.conn ∧ r'.handedOut = r.handedOut
  /-- From then on nothing can be read. -/
  refused : r.session.Disconnected → ∀ r', Reachable (Step sharedClientId) TakesNoConnected r r' →
    r'.session.Disconnected ∧ r'.handedOut = r.handedOut ∧
      ∀ c, r'.conn.receivePayload c = (.error .connectionClosed, r'.conn)

theorem exists_readAll (h : r.Accounted) (hs : ¬ r.session.Disconnected)
    (hf : r.session.frame = .outside) :
    ∃ r' l, Reachable (Step sharedClientId) (fun _ ↦ Reads) r r' ∧
      arrivals l = r.conn.bytesFromPeer.sent ∧
      (∀ x ∈ l, x.fate = .taken ∨ x.fate = .cleared ∨ ∃ e, x.fate = .reported e) ∧
      (∀ c, taken l c = r'.handedOut c ∧ Ledger.cleared l c = r.cleared c) ∧
      reports l = r'.errs.map fun e ↦ (e.channelId, e) := by
  obtain ⟨v, hreach, hsame, hqueued, hbuffer⟩ := r.view.exists_readAll
  obtain ⟨r', hreach', rfl, -⟩ : ∃ r', Reachable (Step sharedClientId) (fun _ ↦ Reads) r r' ∧ _ :=
    lift_reads hreach hf hs
  obtain ⟨l, hl⟩ := hreach'.invariant h fun hr _ hstep ↦ hr.step hstep
  exact ⟨r', l, hreach', hl.arrivals.trans hsame.sent, fun x hx ↦
    settled_of_empty (hl.waiting.trans hqueued) (fun c ↦ (hl.buffered c).trans (hbuffer c)) hx,
    fun c ↦ ⟨hl.taken c, (hl.cleared c).trans (congrFun hsame.cleared c)⟩, hl.reports⟩

/-- A step in which the handler takes no `Connected` hands out nothing of a disconnected connection. -/
theorem Step.refused (h : Step sharedClientId r a r') (hs : r.session.Disconnected)
    (ha : r.TakesNoConnected a) : r'.session.Disconnected ∧ r'.handedOut = r.handedOut := by
  cases h with
  | session h =>
    exact ⟨(Session.disconnected_step_iff hs (fun hr ↦ h.2 hr hs) h.1).2 ha, rfl⟩
  | arrive m => exact ⟨hs, rfl⟩
  | dispatch hf hnot => exact absurd hs hnot
  | dispatchSkipped => exact ⟨hs, rfl⟩
  | receive c hf =>
    rw [received_of_disconnected hs]
    exact ⟨hs, rfl⟩
  | clear hf => exact ⟨hs, rfl⟩

/-- **A session is read until it is closed.** -/
theorem readUntilClosed {s₀ : Session} (h₀ : s₀.Begins)
    (h : Reachable (Step sharedClientId) (fun _ _ ↦ True) (start s₀) r) :
    r.ReadUntilClosed sharedClientId where
  readable := exists_readAll <| h.invariant (P := Accounted)
    ⟨[], Receiving.accounts_start h₀.untouched⟩ fun hr _ hstep ↦ hr.step hstep
  closed receivers q r' hq hstep := by
    cases hstep with
    | session h =>
      refine ⟨?_, h.sameReceived, rfl⟩
      cases h.1 with
      | @handleAsync _ message q' hf hq' hr =>
        obtain ⟨rfl, rfl⟩ : message = .connectionClosed ∧ q' = q := by simpa using hq'.symm.trans hq
        exact ClientSideConnection.state_handleLost _ receivers
  refused hs r' hreach := by
    obtain ⟨hdis, hout⟩ := hreach.invariant
      (P := fun r' ↦ r'.session.Disconnected ∧ r'.handedOut = r.handedOut) ⟨hs, rfl⟩
      fun hr ha hstep ↦ (hstep.refused hr.1 ha).imp_right fun hout ↦ hout.trans hr.2
    exact ⟨hdis, hout, fun c ↦ ClientSideConnection.receivePayload_of_disconnected hdis⟩

end ClientReceiving

end BevyIroh
