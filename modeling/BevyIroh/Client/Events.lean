import BevyIroh.Client.Disconnect

/-!
# The client's connection events

A session should be reported as connected at most once, and as ended (failed or lost) at most once and
last.  Its task sends the outcome of the attempt, `Connected` or `ConnectionFailed`, and its watcher and
its channels report that the connection is gone, each on its own; while the client id is awaited the
watcher can be first.  The handlers of `ConnectionClosed` and `LostConnection` do nothing for a
connection that is disconnected, but those of the outcome do not look at the state:
`client_events_well_formed_iff` says that an outcome handled after a `ConnectionLostEvent` is what
breaks the rule, and the only thing that does.
-/

set_option autoImplicit false

namespace BevyIroh

open Transition

/-! ## Well-formed events -/

namespace ClientEvent

def isConnection : ClientEvent → Bool
  | .connection _ _ => true
  | _ => false

/-- The session is over. -/
def isTerminal : ClientEvent → Bool
  | .connection _ _ => false
  | .connectionFailed _ _ => true
  | .connectionLost _ => true

/-- The attempt to connect has come to its end. -/
def isOutcome : ClientEvent → Bool
  | .connectionLost _ => false
  | _ => true

end ClientEvent

/-- It tells how the attempt to connect has ended. -/
def ClientAsyncMessage.isOutcome : ClientAsyncMessage → Bool
  | .connected _ => true
  | .connectionFailed _ => true
  | .connectionClosed => false

/-- The events of one session: one `ConnectionEvent` at most, one terminal event at most, and nothing
after it. -/
structure WellFormed (events : List ClientEvent) : Prop where
  connection : events.countP ClientEvent.isConnection ≤ 1
  terminal : events.countP ClientEvent.isTerminal ≤ 1
  last : ∀ l₁ e l₂, events = l₁ ++ e :: l₂ → e.isTerminal = true → l₂ = []

theorem wellFormed_nil : WellFormed [] where
  connection := Nat.zero_le _
  terminal := Nat.zero_le _
  last l₁ e l₂ h := by simp at h

variable {events : List ClientEvent} {e : ClientEvent}

/-- A session that has not ended may get one more event. -/
theorem WellFormed.append (h : WellFormed events) (hopen : ∀ x ∈ events, ¬ x.isTerminal = true)
    (hc : e.isConnection = true → events.countP ClientEvent.isConnection = 0) :
    WellFormed (events ++ [e]) where
  connection := by
    rw [List.countP_append, List.countP_singleton]
    split_ifs with he
    · rw [hc he]
    · exact h.connection
  terminal := by
    rw [List.countP_append, List.countP_eq_zero.2 hopen, List.countP_singleton]
    split_ifs <;> decide
  last l₁ x l₂ hsplit hx := by
    rcases List.eq_nil_or_concat l₂ with rfl | ⟨l, y, rfl⟩
    · rfl
    · have heq : events ++ [e] = (l₁ ++ x :: l) ++ [y] := by simpa using hsplit
      have hmem : x ∈ events := by
        rw [(List.append_inj' heq rfl).1]
        simp
      exact absurd hx (hopen x hmem)

/-- Nothing may follow a terminal event. -/
theorem WellFormed.not_append (h : WellFormed (events ++ [e])) : ∀ x ∈ events, ¬ x.isTerminal = true := by
  intro x hx hterm
  obtain ⟨l₁, l₂, rfl⟩ := List.append_of_mem hx
  have hnil := h.last l₁ x (l₂ ++ [e]) (by simp) hterm
  simp at hnil

namespace ClientSideConnection

/-- A connection that is not disconnected is lost, which is reported once. -/
theorem handleLost_cases (self : ClientSideConnection) (receivers : Bool) :
    (self.specific.state = .disconnected ∧ self.handleLost receivers = (self, [])) ∨
    (self.specific.state ≠ .disconnected ∧
      (self.handleLost receivers).1.specific = { self.specific with state := .disconnected } ∧
      (self.handleLost receivers).2 = [.connectionLost self.specific.localId]) := by
  rw [handleLost]
  split
  · rename_i hs
    exact .inl ⟨hs, rfl⟩
  · rename_i hs
    exact .inr ⟨hs, specific_internalDisconnect _ _ _, rfl⟩

/-- The queues of a connection whose configured channels were opened are the ones it was given. -/
theorem fromAsyncClient_openConfiguredChannels {configs : List ChannelConfig}
    {c c' : ClientSideConnection} {r : Except AsyncChannelError Unit}
    (h : openConfiguredChannels configs c = some (r, c')) :
    c'.specific.fromAsyncClient = c.specific.fromAsyncClient :=
  openConfiguredChannels_invariant
    (P := fun c' ↦ c'.specific.fromAsyncClient = c.specific.fromAsyncClient) (fun _ _ hc ↦ hc)
    (fun _ _ _ hc ↦ by rw [PeerConnection.specific_createConnectionChannel, hc]) rfl h

end ClientSideConnection

namespace Session

variable {sharedClientId : Bool} {s s' : Session} {a : SessionAct}

/-! ## One session -/

/-- The steps of one session: `reconnect` may be called, but does nothing. -/
def SessionStep (sharedClientId : Bool) (s : Session) (a : SessionAct) (s' : Session) : Prop :=
  Step sharedClientId s a s' ∧ (a = .reconnect → ¬ s.Disconnected)

/-- How a session begins. -/
inductive Begins : Session → Prop
  | opened {localId : ConnectionLocalId} {cfg : SendChannelsConfiguration}
      {recvCfg : RecvChannelsConfiguration} {conn : ClientSideConnection}
      (h : openConnection localId cfg recvCfg createClientConnectionAsyncChannels =
        some (.ok (), conn)) : Begins (start conn [])
  | reconnected {old conn : ClientSideConnection} (h : old.reconnect = some (.ok true, conn)) :
      Begins (start conn [])
  | reconnectFailed {old conn : ClientSideConnection} {e : AsyncChannelError}
      (h : old.reconnect = some (.error e, conn)) : Begins { start conn [] with attempt := .ended }

/-- The handler takes the outcome of the attempt in this step only if the session has not ended. -/
def TakesNoOutcomeAfterEnd (s : Session) : SessionAct → Prop
  | .handleAsync _ => ∀ message q, s.conn.specific.fromAsyncClient.recv = some (message, q) →
      message.isOutcome = true → ∀ e ∈ s.events, ¬ e.isTerminal = true
  | _ => True

/-! ## The invariant -/

structure EventsSound (s : Session) : Prop where
  wellFormed : WellFormed s.events
  /-- The task sends one outcome, as the last thing it does. -/
  once : s.conn.specific.fromAsyncClient.sent.countP ClientAsyncMessage.isOutcome ≤ 1
  pending : s.attempt ≠ .ended →
    s.conn.specific.fromAsyncClient.sent.countP ClientAsyncMessage.isOutcome = 0
  /-- Each outcome that was received has been reported. -/
  reported : s.events.countP ClientEvent.isOutcome =
    s.conn.specific.fromAsyncClient.received.countP ClientAsyncMessage.isOutcome
  terminal : ∀ e ∈ s.events, e.isTerminal = true → s.Disconnected

theorem Begins.eventsSound (h : Begins s) : s.EventsSound := by
  have hall : ∀ {conn : ClientSideConnection} {att : Attempt},
      conn.specific.fromAsyncClient = createClientConnectionAsyncChannels.toSyncClient →
      EventsSound { start conn [] with attempt := att } := fun {conn att} hq ↦ by
    have hq : ({ start conn [] with attempt := att } : Session).conn.specific.fromAsyncClient =
      createClientConnectionAsyncChannels.toSyncClient := hq
    refine ⟨wellFormed_nil, ?_, fun _ ↦ ?_, ?_, fun e he ↦ absurd he List.not_mem_nil⟩
    · rw [hq]
      decide
    · rw [hq]
      rfl
    · rw [hq]
      rfl
  cases h with
  | opened h => exact hall (ClientSideConnection.fromAsyncClient_openConfiguredChannels h)
  | reconnected h =>
    obtain ⟨hr, -⟩ | ⟨_, hopen, -⟩ := ClientSideConnection.reconnect_cases h
    · cases hr
    · exact hall (ClientSideConnection.fromAsyncClient_openConfiguredChannels hopen)
  | reconnectFailed h =>
    obtain ⟨hr, -⟩ | ⟨_, hopen, -⟩ := ClientSideConnection.reconnect_cases h
    · cases hr
    · exact hall (ClientSideConnection.fromAsyncClient_openConfiguredChannels hopen)

/-- Steps that write no event and send no outcome. -/
theorem EventsSound.quiet (h : s.EventsSound) (hevents : s'.events = s.events)
    (hreceived : s'.conn.specific.fromAsyncClient.received = s.conn.specific.fromAsyncClient.received)
    (hsent : s'.conn.specific.fromAsyncClient.sent.countP ClientAsyncMessage.isOutcome =
      s.conn.specific.fromAsyncClient.sent.countP ClientAsyncMessage.isOutcome)
    (hattempt : s'.attempt ≠ .ended → s.attempt ≠ .ended)
    (hstate : s.Disconnected → s'.Disconnected) : s'.EventsSound where
  wellFormed := hevents ▸ h.wellFormed
  once := hsent ▸ h.once
  pending ha := hsent.trans (h.pending (hattempt ha))
  reported := by rw [hevents, hreceived, h.reported]
  terminal e he hterm := hstate (h.terminal e (hevents ▸ he) hterm)

/-- The loss of the connection is reported, unless it is disconnected already. -/
theorem EventsSound.lost (h : s.EventsSound) {c : ClientSideConnection} {receivers : Bool}
    (hstate : c.specific.state = s.conn.specific.state)
    (hsent : c.specific.fromAsyncClient.sent = s.conn.specific.fromAsyncClient.sent)
    (hreceived : c.specific.fromAsyncClient.received.countP ClientAsyncMessage.isOutcome =
      s.conn.specific.fromAsyncClient.received.countP ClientAsyncMessage.isOutcome) :
    (s.handled (c.handleLost receivers)).EventsSound := by
  rcases c.handleLost_cases receivers with ⟨hdis, hlost⟩ | ⟨hdis, hspecific, hlost⟩
  · have hevents : (s.handled (c, [])).events = s.events := List.append_nil _
    rw [hlost]
    refine ⟨hevents ▸ h.wellFormed, hsent ▸ h.once, fun ha ↦ hsent ▸ h.pending ha, ?_,
      fun _ _ _ ↦ hdis⟩
    rw [hevents, h.reported]
    exact hreceived.symm
  · have hopen : ∀ x ∈ s.events, ¬ x.isTerminal = true := fun x hx hterm ↦
      hdis (hstate.trans (h.terminal x hx hterm))
    have hq : (s.handled (c.handleLost receivers)).conn.specific.fromAsyncClient =
        c.specific.fromAsyncClient := by
      show (c.handleLost receivers).1.specific.fromAsyncClient = _
      rw [hspecific]
    have hevents : (s.handled (c.handleLost receivers)).events =
        s.events ++ [.connectionLost c.specific.localId] := congrArg (s.events ++ ·) hlost
    refine ⟨?_, ?_, fun ha ↦ ?_, ?_, fun _ _ _ ↦ congrArg ClientConnection.state hspecific⟩
    · rw [hevents]
      exact h.wellFormed.append hopen (by rintro ⟨⟩)
    · rw [hq, hsent]
      exact h.once
    · rw [hq, hsent]
      exact h.pending ha
    · rw [hevents, hq, List.countP_append, h.reported, hreceived]
      rfl

/-- The outcome of the attempt is reported, in a session that has not ended. -/
theorem EventsSound.outcome (h : s.EventsSound) {c : ClientSideConnection} {e : ClientEvent}
    {message : ClientAsyncMessage} {q : Mpsc ClientAsyncMessage}
    (hq : s.conn.specific.fromAsyncClient.recv = some (message, q))
    (hc : c.specific.fromAsyncClient = q) (hm : message.isOutcome = true) (he : e.isOutcome = true)
    (hopen : ∀ x ∈ s.events, ¬ x.isTerminal = true)
    (hterm : e.isTerminal = true → c.specific.state = .disconnected) :
    (s.handled (c, [e])).EventsSound := by
  have hsent : q.sent = s.conn.specific.fromAsyncClient.sent := Mpsc.sent_of_recv hq
  have hreceived : q.received = s.conn.specific.fromAsyncClient.received ++ [message] :=
    Mpsc.received_of_recv hq
  have hconn : (s.handled (c, [e])).conn.specific.fromAsyncClient = q := hc
  have hevents : (s.handled (c, [e])).events = s.events ++ [e] := rfl
  -- there is one outcome in all, so none was reported before
  have hnone : s.events.countP ClientEvent.isOutcome = 0 := by
    have hle := h.once
    rw [← hsent, Mpsc.sent, List.countP_append, hreceived, List.countP_append, ← h.reported,
      List.countP_singleton, if_pos hm] at hle
    omega
  have hconnection : s.events.countP ClientEvent.isConnection = 0 := by
    rw [List.countP_eq_zero] at hnone ⊢
    intro x hx hcon
    refine hnone x hx ?_
    cases x <;> first | rfl | cases hcon
  refine ⟨?_, ?_, fun ha ↦ ?_, ?_, fun x hx hxterm ↦ ?_⟩
  · rw [hevents]
    exact h.wellFormed.append hopen fun _ ↦ hconnection
  · rw [hconn, hsent]
    exact h.once
  · rw [hconn, hsent]
    exact h.pending ha
  · rw [hevents, hconn, hreceived, List.countP_append, List.countP_append, h.reported,
      List.countP_singleton, List.countP_singleton, if_pos he, if_pos hm]
  · rw [hevents, List.mem_append, List.mem_singleton] at hx
    rcases hx with hx | rfl
    · exact absurd hxterm (hopen x hx)
    · exact hterm hxterm

/-! ## One step -/

/-- What a message of the task or the watcher does. -/
theorem EventsSound.handleAsync (h : s.EventsSound) (receivers : Bool) {message : ClientAsyncMessage}
    {q : Mpsc ClientAsyncMessage} (hq : s.conn.specific.fromAsyncClient.recv = some (message, q))
    (hopen : message.isOutcome = true → ∀ e ∈ s.events, ¬ e.isTerminal = true) :
    (s.handled ((s.conn.withFromAsyncClient q).handleAsyncMessage receivers message)).EventsSound := by
  cases message with
  | connected clientId =>
    exact h.outcome (c := (s.conn.withFromAsyncClient q).setState (.connected clientId)) hq rfl rfl rfl
      (hopen rfl) (by rintro ⟨⟩)
  | connectionFailed err =>
    exact h.outcome (c := (s.conn.withFromAsyncClient q).setState .disconnected) hq rfl rfl rfl
      (hopen rfl) fun _ ↦ rfl
  | connectionClosed =>
    refine h.lost (c := s.conn.withFromAsyncClient q) rfl (Mpsc.sent_of_recv hq) ?_
    show q.received.countP ClientAsyncMessage.isOutcome = _
    rw [Mpsc.received_of_recv hq, List.countP_append]
    rfl

theorem EventsSound.step (h : s.EventsSound) (hc : s.TakesNoOutcomeAfterEnd a)
    (hstep : SessionStep sharedClientId s a s') : s'.EventsSound := by
  obtain ⟨hstep, hreconnect⟩ := hstep
  cases hstep with
  | call c hf =>
    have hq := s.conn.fromAsyncClient_call c
    exact h.quiet rfl (congrArg Mpsc.received hq)
      (congrArg (fun q ↦ q.sent.countP ClientAsyncMessage.isOutcome) hq) id (s.conn.state_call c).trans
  | disconnect receivers hf hr =>
    have hspecific := s.conn.specific_internalDisconnect receivers .localOrder
    have hq := congrArg ClientConnection.fromAsyncClient hspecific
    exact h.quiet rfl (congrArg Mpsc.received hq)
      (congrArg (fun q ↦ q.sent.countP ClientAsyncMessage.isOutcome) hq) id
      fun _ ↦ congrArg ClientConnection.state hspecific
  | reconnect hf hr =>
    rw [ClientSideConnection.reconnect_of_not_disconnected (hreconnect rfl)] at hr
    cases hr
  | reconnectFailed hf hr =>
    rw [ClientSideConnection.reconnect_of_not_disconnected (hreconnect rfl)] at hr
    cases hr
  | handleAsync receivers hf hq hr => exact h.handleAsync receivers hq (hc _ _ hq)
  | @handleChannels receivers message q hf hq hr =>
    cases message with
    | lostConnection => exact h.lost (c := s.conn.withFromChannels q) rfl rfl rfl
  | established hatt => exact h.quiet rfl rfl rfl (fun _ ↦ by rw [hatt]; rintro ⟨⟩) id
  | connectFailed err hatt => exact h.quiet rfl rfl rfl (fun _ ↦ by rw [hatt]; rintro ⟨⟩) id
  | spawnWatcher hatt => exact h.quiet rfl rfl rfl (fun _ ↦ by rw [hatt]; rintro ⟨⟩) id
  | spawnRecv hatt => exact h.quiet rfl rfl rfl (fun _ ↦ by rw [hatt]; rintro ⟨⟩) id
  | spawnSpawner hatt => exact h.quiet rfl rfl rfl (fun _ ↦ by rw [hatt]; rintro ⟨⟩) id
  | receiveClientId r hatt hr => exact h.quiet rfl rfl rfl (fun _ ↦ by rw [hatt]; rintro ⟨⟩) id
  | @signal message hatt hq =>
    have hspecific := specific_attemptEnded (s.withConn (s.conn.withFromAsyncClient
      (s.conn.specific.fromAsyncClient.push message)))
    have hqueue := congrArg ClientConnection.fromAsyncClient hspecific
    have hnone := h.pending (by rw [hatt]; rintro ⟨⟩)
    refine ⟨h.wellFormed, ?_, fun hne ↦ absurd rfl hne, ?_, fun e he hterm ↦ ?_⟩
    · rw [hqueue]
      show (s.conn.specific.fromAsyncClient.push message).sent.countP _ ≤ 1
      rw [Mpsc.sent_push, List.countP_append, hnone, List.countP_singleton]
      split_ifs <;> decide
    · rw [hqueue]
      exact h.reported
    · exact (congrArg ClientConnection.state hspecific).trans (h.terminal e he hterm)
  | watcherSignal hw hq =>
    refine h.quiet rfl rfl ?_ id id
    show (s.conn.specific.fromAsyncClient.push .connectionClosed).sent.countP _ = _
    rw [Mpsc.sent_push, List.countP_append]
    rfl
  | link hl hlink =>
    have hspecific := hlink.specific_eq hl
    have hq := congrArg ClientConnection.fromAsyncClient hspecific
    exact h.quiet rfl (congrArg Mpsc.received hq)
      (congrArg (fun q ↦ q.sent.countP ClientAsyncMessage.isOutcome) hq) id
      (congrArg ClientConnection.state hspecific).trans
  | _ => exact h.quiet rfl rfl rfl id id

/-- An outcome that is handled after the end is an event too many. -/
theorem takesNoOutcomeAfterEnd_of_wellFormed (hstep : SessionStep sharedClientId s a s')
    (hwf : WellFormed s'.events) : s.TakesNoOutcomeAfterEnd a := by
  cases hstep.1 with
  | @handleAsync receivers message q hf hq hr =>
    intro message' q' hq' hm
    obtain ⟨rfl, rfl⟩ : message = message' ∧ q = q' := by simpa [hq] using hq'
    cases message with
    | connected clientId => exact hwf.not_append
    | connectionFailed err => exact hwf.not_append
    | connectionClosed => cases hm
  | _ => trivial

/-- **When the client's connection events are well formed**: exactly when the handler never takes the
outcome of the attempt after it has reported the session as ended.  Until the outcome is handled it can
have reported only a loss. -/
theorem client_events_well_formed_iff (hb : Begins s) {tr : List (SessionAct × Session)}
    (h : Run (SessionStep sharedClientId) s tr) :
    Always (fun s ↦ WellFormed s.events) s tr ↔ EachStep TakesNoOutcomeAfterEnd s tr :=
  h.always_iff_of_invariant hb.eventsSound (fun hs ↦ hs.wellFormed)
    (fun hs hc hstep ↦ hs.step hc hstep) fun _ hstep hwf ↦
      takesNoOutcomeAfterEnd_of_wellFormed hstep hwf

/-- A session that connects, and whose peer leaves. -/
theorem client_events_connected_then_lost : ∃ tr, Run (SessionStep false) (start .opened []) tr ∧
    (last (start .opened []) tr).events = [.connection 0 none, .connectionLost 0] ∧
    Always (fun s ↦ WellFormed s.events) (start .opened []) tr := by
  have hrun : Run (SessionStep false) (start .opened []) _ :=
    .cons ⟨.established rfl, by rintro ⟨⟩⟩ (.cons ⟨.spawnWatcher rfl, by rintro ⟨⟩⟩
      (.cons ⟨.spawnRecv rfl, by rintro ⟨⟩⟩ (.cons ⟨.spawnSpawner rfl, by rintro ⟨⟩⟩
        (.cons ⟨.signal rfl (by decide), by rintro ⟨⟩⟩ (.cons ⟨.peerClose rfl, by rintro ⟨⟩⟩
          (.cons ⟨.transportClosed rfl rfl, by rintro ⟨⟩⟩
            (.cons ⟨.watcherSignal rfl (by decide), by rintro ⟨⟩⟩
              (.cons ⟨.beginFrame rfl, by rintro ⟨⟩⟩
                (.cons ⟨.handleAsync true rfl rfl fun _ ↦ rfl, by rintro ⟨⟩⟩
                  (.cons ⟨.handleAsync true rfl rfl fun _ ↦ rfl, by rintro ⟨⟩⟩ (.nil _)))))))))))
  refine ⟨_, hrun, rfl, (client_events_well_formed_iff (.opened
    ClientSideConnection.openConnection_opened) hrun).2 ⟨trivial, trivial, trivial, trivial, trivial,
      trivial, trivial, trivial, trivial, fun _ _ _ _ e he ↦ absurd he List.not_mem_nil, ?_, trivial⟩⟩
  rintro message q ⟨⟩ ⟨⟩

/-- A connection that dies while the client id is awaited: the watcher is first, and the session is
reported lost and then failed. -/
theorem lost_then_failed : Begins (start .opened []) ∧ ∃ tr, Run (SessionStep true) (start .opened []) tr ∧
    (last (start .opened []) tr).events =
      [.connectionLost 0, .connectionFailed 0 .clientIdNotReceived] ∧
    ¬ Always (fun s ↦ WellFormed s.events) (start .opened []) tr := by
  have hrun : Run (SessionStep true) (start .opened []) _ :=
    .cons ⟨.established rfl, by rintro ⟨⟩⟩ (.cons ⟨.spawnWatcher rfl, by rintro ⟨⟩⟩
      (.cons ⟨.spawnRecv rfl, by rintro ⟨⟩⟩ (.cons ⟨.spawnSpawner rfl, by rintro ⟨⟩⟩
        (.cons ⟨.peerClose rfl, by rintro ⟨⟩⟩ (.cons ⟨.transportClosed rfl rfl, by rintro ⟨⟩⟩
          (.cons ⟨.watcherSignal rfl (by decide), by rintro ⟨⟩⟩
            (.cons ⟨.receiveClientId (.failed .clientIdNotReceived) rfl (by rintro ⟨⟩), by rintro ⟨⟩⟩
              (.cons ⟨.signal rfl (by decide), by rintro ⟨⟩⟩
                (.cons ⟨.beginFrame rfl, by rintro ⟨⟩⟩
                  (.cons ⟨.handleAsync true rfl rfl fun _ ↦ rfl, by rintro ⟨⟩⟩
                    (.cons ⟨.handleAsync true rfl rfl fun _ ↦ rfl, by rintro ⟨⟩⟩
                      (.nil _))))))))))))
  refine ⟨.opened ClientSideConnection.openConnection_opened, _, hrun, rfl, fun hall ↦ ?_⟩
  have hwf := hall.2 _ (List.getLast_mem (List.cons_ne_nil _ _))
  have hterminal : 2 ≤ 1 := hwf.terminal
  exact absurd hterminal (by decide)

end Session

end BevyIroh
