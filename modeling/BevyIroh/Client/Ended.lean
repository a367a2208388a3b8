import BevyIroh.Client.Reconnect
import BevyIroh.Client.Transport

/-!
# Sessions that a connection has left

A connection leaves a session when it reconnects, and its last one when it is removed from the client.
Then the ends of the queues that it had of the session are dropped, and the tasks of the session go on
with their own.  A close order may never have been sent, or too early for some of them to see it; but the
connection had the only sender of it, so that each task that waits for an order now sees the end of the
broadcast.

So a session that was left comes to its end, when its tasks are at rest: its transport is closed, by its
spawner, and nothing else of it is there (`Sessions.Kept.finished_of_atRest`).  Only the attempt to connect
may still be waiting for the network.
-/

set_option autoImplicit false

namespace BevyIroh

open Transition

/-! ## The tasks of a session -/

/-- Connected, and on the way to the spawner. -/
def Attempt.Spawning : Attempt → Prop
  | .connected => True
  | .watched => True
  | .receiving => True
  | _ => False

namespace SessionTasks

variable {sharedClientId : Bool} {s s' : Session} {a : SessionAct} {t t' : SessionTasks}

/-- What the tasks of a session have done so far fits together. -/
structure Steady (t : SessionTasks) : Prop where
  proper : ∀ {h c}, t.channelTasks h = some c → c.Proper
  connecting : t.attempt = .connecting → t.transport = .absent
  spawning : t.attempt.Spawning → t.spawner = .absent ∧ t.transport ≠ .absent
  /-- Without a transport there is nothing to watch or to send on. -/
  absent : t.transport = .absent → t.spawner = .absent ∧ t.watcher = .absent
  spawner : t.spawner = .absent → t.transport = .absent ∨ t.attempt.Spawning
  closed : t.spawner = .closed → t.transport = .closed

/-- The attempt to connect is at its beginning, or has failed. -/
theorem steady_start {attempt : Attempt} (h : ¬ attempt.Spawning) :
    Steady { start with attempt } where
  proper := by rintro _ _ ⟨⟩
  connecting _ := rfl
  spawning hc := absurd hc h
  absent _ := ⟨rfl, rfl⟩
  spawner _ := .inl rfl
  closed := by rintro ⟨⟩

/-- The attempt goes on with the spawner spawned, or without a transport. -/
theorem Steady.of_attempt (ht : t.Steady) (h : ¬ t.attempt.Spawning) {attempt : Attempt}
    (hattempt : ¬ attempt.Spawning ∧ attempt ≠ .connecting) : Steady { t with attempt } :=
  { ht with
    connecting := fun hc ↦ absurd hc hattempt.2
    spawning := fun hc ↦ absurd hc hattempt.1
    spawner := fun hc ↦ .inl ((ht.spawner hc).resolve_right h) }

theorem ofSession_attemptEnded (s : Session) :
    ofSession (Session.attemptEnded s) = { ofSession s with attempt := .ended } := by
  simp only [ofSession, Session.attemptEnded]
  split <;> rfl

/-- **Every step of the tasks keeps it.** -/
theorem Steady.step (hs : (ofSession s).Steady) (ha : a.OfTasks)
    (h : Session.Step sharedClientId s a s') : (ofSession s').Steady := by
  cases h with
  | established h =>
    have habsent := (hs.absent (hs.connecting h)).1
    exact
      { proper := hs.proper
        connecting := by rintro ⟨⟩
        spawning := fun _ ↦ ⟨habsent, by rintro ⟨⟩⟩
        absent := by rintro ⟨⟩
        spawner := fun _ ↦ .inr trivial
        closed := fun hclosed ↦ by cases habsent.symm.trans hclosed }
  | connectFailed err h =>
    have hphase : ¬ (ofSession s).attempt.Spawning := by
      show ¬ s.attempt.Spawning
      rw [h]
      exact id
    exact hs.of_attempt hphase ⟨id, by rintro ⟨⟩⟩
  | spawnWatcher h =>
    have hphase : s.attempt.Spawning := by rw [h]; trivial
    obtain ⟨hspawner, htransport⟩ := hs.spawning hphase
    exact
      { hs with
        connecting := by rintro ⟨⟩
        spawning := fun _ ↦ ⟨hspawner, htransport⟩
        absent := fun hc ↦ absurd hc htransport
        spawner := fun _ ↦ .inr trivial }
  | spawnRecv h =>
    have hphase : s.attempt.Spawning := by rw [h]; trivial
    exact
      { hs with
        connecting := by rintro ⟨⟩
        spawning := fun _ ↦ hs.spawning hphase
        spawner := fun _ ↦ .inr trivial }
  | spawnSpawner h =>
    have hphase : s.attempt.Spawning := by rw [h]; trivial
    obtain ⟨-, htransport⟩ := hs.spawning hphase
    have hphase' : ¬ (Session.afterSpawn sharedClientId).Spawning ∧
        Session.afterSpawn sharedClientId ≠ .connecting := by
      cases sharedClientId <;> exact ⟨id, by rintro ⟨⟩⟩
    exact
      { proper := hs.proper
        connecting := fun hc ↦ absurd hc hphase'.2
        spawning := fun hc ↦ absurd hc hphase'.1
        absent := fun hc ↦ absurd hc htransport
        spawner := by rintro ⟨⟩
        closed := by rintro ⟨⟩ }
  | receiveClientId r h =>
    have hphase : ¬ (ofSession s).attempt.Spawning := by
      show ¬ s.attempt.Spawning
      rw [h]
      exact id
    refine hs.of_attempt hphase ?_
    cases r <;> exact ⟨id, by rintro ⟨⟩⟩
  | @signal message h =>
    have hphase : ¬ (ofSession s).attempt.Spawning := by
      show ¬ s.attempt.Spawning
      rw [h]
      exact id
    rw [ofSession_attemptEnded]
    exact hs.of_attempt hphase ⟨id, by rintro ⟨⟩⟩
  | transportClosed h | watcherSignal h =>
    exact { hs with absent := fun hc ↦ by cases (hs.absent hc).2.symm.trans h }
  | @link b l hb h =>
    have hproper : l.Proper := Link.Proper.step hs.proper hb h
    by_cases hclose : b = .closeConnection
    · subst hclose
      cases h with
      | closeConnection h =>
        exact
          { proper := hproper
            connecting := fun hc ↦ by cases (hs.absent (hs.connecting hc)).1.symm.trans h
            spawning := fun hc ↦ by cases (hs.spawning hc).1.symm.trans h
            absent := by rintro ⟨⟩
            spawner := by rintro ⟨⟩
            closed := fun _ ↦ rfl }
    · have habsent := h.spawner_absent_iff hb
      have htransport : (if b = .closeConnection then Transport.closed else s.transport) = s.transport :=
        if_neg hclose
      exact
        { proper := hproper
          connecting := fun hc ↦ htransport.trans (hs.connecting hc)
          spawning := fun hc ↦ ⟨habsent.2 (hs.spawning hc).1, htransport.symm ▸ (hs.spawning hc).2⟩
          absent := fun hc ↦ (hs.absent (htransport.symm.trans hc)).imp_left habsent.2
          spawner := fun hc ↦ (hs.spawner (habsent.1 hc)).imp_left htransport.trans
          closed := fun hc ↦
            htransport.trans (hs.closed ((h.of_spawner_closed hb hc).resolve_left hclose)) }
  | peerClose h =>
    exact
      { hs with
        connecting := fun hc ↦ by cases (hs.connecting hc).symm.trans h
        spawning := fun hc ↦ ⟨(hs.spawning hc).1, by rintro ⟨⟩⟩
        absent := by rintro ⟨⟩
        spawner := fun hc ↦ .inr ((hs.spawner hc).resolve_left fun habsent ↦ by
          cases habsent.symm.trans h)
        closed := fun _ ↦ rfl }
  | _ => exact ha.elim

/-- Nothing of the session is there, unless it still waits for the network to connect it. -/
structure Finished (t : SessionTasks) : Prop where
  attempt : t.attempt = .connecting ∨ t.attempt = .ended
  transport : t.transport ≠ .established
  spawner : t.spawner = .absent ∨ t.spawner = .closed
  watcher : t.watcher = .absent ∨ t.watcher = .ended
  channelTasks : ∀ h c, t.channelTasks h = some c → c.Done

end SessionTasks

/-! ## The queues of a session -/

/-- The ends that the connection had of the queues are dropped. -/
structure SessionQueues.Abandoned (q : SessionQueues) : Prop where
  toChannels : q.chans.toChannels.sender = false
  fromChannels : q.chans.fromChannels.receiver = false
  bytesFromServer : q.chans.bytesFromServer.receiver = false
  close : q.chans.close.sender = false

namespace Session

variable {sharedClientId : Bool} {s s' : Session} {a : SessionAct}

theorem attemptEnded_ends (s : Session) :
    (attemptEnded s).conn.toChannels.sender = s.conn.toChannels.sender ∧
      (attemptEnded s).conn.fromChannels = s.conn.fromChannels ∧
      (attemptEnded s).conn.bytesFromPeer = s.conn.bytesFromPeer ∧
      (attemptEnded s).conn.closeSend = s.conn.closeSend := by
  simp only [attemptEnded, conn]
  split <;> exact ⟨rfl, rfl, rfl, rfl⟩

/-- The tasks leave alone the ends of the sync side. -/
theorem Step.ends_eq (ha : a.OfTasks) (h : Step sharedClientId s a s') :
    s'.conn.toChannels.sender = s.conn.toChannels.sender ∧
      s'.conn.fromChannels.receiver = s.conn.fromChannels.receiver ∧
      s'.conn.bytesFromPeer.receiver = s.conn.bytesFromPeer.receiver ∧
      s'.conn.closeSend.sender = s.conn.closeSend.sender := by
  cases h with
  | @signal message h =>
    obtain ⟨hto, hfrom, hbytes, hclose⟩ := attemptEnded_ends (s.withConn (s.conn.withFromAsyncClient
      (s.conn.specific.fromAsyncClient.push message)))
    exact ⟨hto, by rw [hfrom]; rfl, by rw [hbytes]; rfl, by rw [hclose]; rfl⟩
  | link hb h =>
    obtain ⟨hclose, hsender, hreceiver⟩ := h.async_frame hb
    exact ⟨hsender, hreceiver, congrArg Mpsc.receiver (h.bytesFromPeer_eq hb),
      congrArg Broadcast.sender hclose⟩
  | established | connectFailed | spawnWatcher | spawnRecv | spawnSpawner | receiveClientId
  | transportClosed | watcherSignal | peerClose => exact ⟨rfl, rfl, rfl, rfl⟩
  | _ => exact ha.elim

end Session

/-! ## Connections that leave their sessions -/

theorem LinkAct.Internal.session {b : LinkAct} (hb : b.Internal) : SessionAct.Internal (.link b) := by
  cases b <;> first | exact hb | trivial

namespace Sessions

variable {sharedClientId : Bool} {s s' : Sessions} {a : Action} {n : ℕ}

/-- The connection is dropped, and the ends it has with it.  What is left in its place has an end of
no queue that a task works on. -/
def drop (s : Sessions) : Sessions :=
  { s with
    heap := s.held.storeQueues s.heap s.conn.dropEnds
    held := s.held.on (s.current + 1) }

/-- What holds of all sessions of a connection: it has all ends of one of them, or none, and those that
it has left are abandoned. -/
structure Kept (s : Sessions) : Prop where
  held : s.held.on s.held.fromAsyncClientRecv = s.held
  steady : ∀ n ≤ s.current, (s.tasks n).Steady
  abandoned : ∀ n ≤ s.current, n ≠ s.held.fromAsyncClientRecv → (s.heap n).Abandoned

/-- The connection changes, and its ends are those they were. -/
theorem storeQueues_of_ne {held : HeldConnection} {heap : ℕ → SessionQueues} {conn : ClientSideConnection}
    (hheld : held.on held.fromAsyncClientRecv = held) (hn : n ≠ held.fromAsyncClientRecv) :
    held.storeQueues heap conn n = heap n := by
  rw [← hheld]
  exact HeldConnection.storeQueues_on_of_ne hn

/-- The tasks of a session have done something. -/
theorem Kept.storeTasks (hs : s.Kept) {t : Session} (ht : (SessionTasks.ofSession t).Steady)
    (hends : t.conn.toChannels.sender = (s.heap n).chans.toChannels.sender ∧
      t.conn.fromChannels.receiver = (s.heap n).chans.fromChannels.receiver ∧
      t.conn.bytesFromPeer.receiver = (s.heap n).chans.bytesFromServer.receiver ∧
      t.conn.closeSend.sender = (s.heap n).chans.close.sender) : (s.storeTasks n t).Kept := by
  refine ⟨hs.held, fun m hm ↦ ?_, fun m hm hne ↦ ?_⟩
  · simp only [Sessions.storeTasks, Function.update_apply]
    split_ifs
    · exact ht
    · exact hs.steady m hm
  · by_cases hmn : m = n
    · subst hmn
      obtain ⟨hto, hfrom, hbytes, hclose⟩ := hs.abandoned m hm hne
      simp only [Sessions.storeTasks, HeldConnection.storeQueues, HeldConnection.on, if_true]
      exact ⟨hends.1.trans hto, hends.2.1.trans hfrom, hends.2.2.1.trans hbytes,
        hends.2.2.2.trans hclose⟩
    · simp only [Sessions.storeTasks, HeldConnection.storeQueues_on_of_ne hmn]
      exact hs.abandoned m hm hne

/-- The ends that the connection has are dropped. -/
theorem Kept.abandoned_dropEnds (hs : s.Kept) (hn : n ≤ s.current) :
    (s.held.storeQueues s.heap s.conn.dropEnds n).Abandoned := by
  by_cases hne : n = s.held.fromAsyncClientRecv
  · rw [← hs.held, ← hne]
    simp only [HeldConnection.storeQueues, HeldConnection.on, if_true]
    exact ⟨rfl, rfl, rfl, rfl⟩
  · rw [storeQueues_of_ne hs.held hne]
    exact hs.abandoned n hn hne

/-- A new session begins, and the connection leaves the one it was in. -/
theorem Kept.renew (hs : s.Kept) (conn : ClientSideConnection) : (s.reset.storeConn conn).spawn.Kept := by
  have hheld : s.reset.held.on (s.current + 1) = s.reset.held := rfl
  refine ⟨rfl, fun m hm ↦ ?_, fun m hm hne ↦ ?_⟩
  · by_cases hnew : m = s.current + 1
    · subst hnew
      simp only [spawn, storeConn, reset, Function.update_self]
      exact SessionTasks.steady_start id
    · have hold : (s.reset.storeConn conn).spawn.tasks m = s.tasks m := by
        simp only [spawn, storeConn, reset, Function.update_of_ne hnew]
      rw [hold]
      exact hs.steady m (Nat.le_of_lt_succ (lt_of_le_of_ne hm hnew))
  · have hne : m ≠ s.current + 1 := hne
    have hold : (s.reset.storeConn conn).spawn.heap m =
        s.held.storeQueues s.heap s.conn.dropEnds m := by
      show s.reset.held.storeQueues s.reset.heap conn m = _
      rw [storeQueues_of_ne hheld hne]
      exact Function.update_of_ne hne _ _
    rw [hold]
    exact hs.abandoned_dropEnds (Nat.le_of_lt_succ (lt_of_le_of_ne hm hne))

/-- The sync side has done something to the connection. -/
theorem Kept.storeConn (hs : s.Kept) (conn : ClientSideConnection) : (s.storeConn conn).Kept := by
  refine ⟨congrArg (HeldConnection.store · conn) hs.held, hs.steady, fun m hm hne ↦ ?_⟩
  have hsame : s.held.storeQueues s.heap conn m = s.heap m := storeQueues_of_ne hs.held hne
  show (s.held.storeQueues s.heap conn m).Abandoned
  rw [hsame]
  exact hs.abandoned m hm hne

/-- **Every step keeps it.** -/
theorem Kept.step (hs : s.Kept) (h : Step sharedClientId s a s') : s'.Kept := by
  cases h with
  | @sync b r ha h => exact { hs.storeConn r.conn with }
  | @other conn hf h => exact hs.storeConn conn
  | reconnect hf h =>
    by_cases hdis : s.held.state = .disconnected
    · obtain ⟨s₁, conn, h₁, -, rfl⟩ := reconnect_of_disconnected hdis
      obtain ⟨-, rfl⟩ := Prod.mk.inj (Option.some.inj (h₁.symm.trans h))
      exact hs.renew conn
    · rw [reconnect_of_not_disconnected hdis] at h
      obtain ⟨-, rfl⟩ := Prod.mk.inj (Option.some.inj h)
      exact hs
  | @task n b t hn ha h =>
    exact hs.storeTasks (SessionTasks.Steady.step (s := s.taskSession n) (hs.steady n hn) ha h)
      (h.ends_eq ha)
  | @signalFailed n message hn h hr =>
    obtain ⟨hto, hfrom, hbytes, hclose⟩ := (s.taskSession n).attemptEnded_ends
    refine hs.storeTasks ?_ ⟨hto, by rw [hfrom]; rfl, by rw [hbytes]; rfl, by rw [hclose]; rfl⟩
    rw [SessionTasks.ofSession_attemptEnded]
    refine (hs.steady n hn).of_attempt ?_ ⟨id, by rintro ⟨⟩⟩
    rw [h]
    exact id
  | @watcherFailed n hn h hr =>
    refine hs.storeTasks ?_ ⟨rfl, rfl, rfl, rfl⟩
    have hsteady := hs.steady n hn
    exact { hsteady with absent := fun hc ↦ by cases (hsteady.absent hc).2.symm.trans h }
  | arrive m hn hr => exact hs.storeTasks (hs.steady _ hn) ⟨rfl, rfl, rfl, rfl⟩

theorem Kept.drop (hs : s.Kept) : s.drop.Kept where
  held := rfl
  steady := hs.steady
  abandoned _ hm _ := hs.abandoned_dropEnds hm

theorem kept_start (localId : ConnectionLocalId) (cfg : SendChannelsConfiguration)
    (recvCfg : RecvChannelsConfiguration) (conn : ClientSideConnection) :
    (start localId cfg recvCfg conn).Kept where
  held := rfl
  steady _ _ := SessionTasks.steady_start id
  abandoned _ hm hne := absurd (Nat.le_zero.1 hm) hne

/-! ## A session at rest -/

/-- The steps of the tasks of session `n` that need nothing from the network. -/
def Action.InternalTo (n : ℕ) : Action → Prop
  | .task m a => m = n ∧ a.Internal
  | .signalFailed m => m = n
  | .watcherFailed m => m = n
  | _ => False

/-- **A session that the connection has left is finished**, when its tasks are at rest. -/
theorem Kept.finished_of_atRest (hs : s.Kept) (hn : n ≤ s.current) (hleft : n ≠ s.held.fromAsyncClientRecv)
    (hrest : ∀ a s', a.InternalTo n → ¬ Step sharedClientId s a s') : (s.tasks n).Finished := by
  obtain ⟨hto, hfrom, -, hclose⟩ := hs.abandoned n hn hleft
  have hsteady := hs.steady n hn
  have hgoes : ∀ {b : SessionAct} {t : Session}, b.Internal → b.OfTasks →
      ¬ Session.Step sharedClientId (s.taskSession n) b t := fun hb hb' h ↦
    hrest (.task n _) _ ⟨rfl, hb⟩ (.task hn hb' h)
  have hsees : ∀ c, ((s.taskSession n).conn.closeSend.recv c).isSome :=
    Broadcast.recv_isSome_of_closed hclose
  have hattempt : (s.tasks n).attempt = .connecting ∨ (s.tasks n).attempt = .ended := by
    cases h : (s.tasks n).attempt with
    | connecting => exact .inl rfl
    | connected => exact (hgoes (by trivial) (by trivial) (.spawnWatcher h)).elim
    | watched => exact (hgoes (by trivial) (by trivial) (.spawnRecv h)).elim
    | receiving => exact (hgoes (by trivial) (by trivial) (.spawnSpawner h)).elim
    | receivingClientId =>
      exact (hgoes (by rfl) (by trivial) (.receiveClientId .interrupted h fun _ ↦ hsees 0)).elim
    | signaling message => exact (hrest (.signalFailed n) _ rfl (.signalFailed hn h hleft.symm)).elim
    | ended => exact .inr rfl
  have hdone : ∀ h c, (s.tasks n).channelTasks h = some c → c.Done := by
    by_contra hall
    push Not at hall
    obtain ⟨h, c, hc, hnot⟩ := hall
    obtain ⟨b, l, hb, hstep⟩ :=
      Link.Proper.exists_step (l := (s.taskSession n).link) hsteady.proper hfrom hsees hc hnot
    exact hgoes (b := .link b) hb.session trivial (.link hb.ofTasks hstep)
  have hspawner : (s.tasks n).spawner = .absent ∨ (s.tasks n).spawner = .closed := by
    cases h : (s.tasks n).spawner with
    | absent => exact .inl rfl
    | listening c =>
      obtain ⟨r, hr⟩ := Option.isSome_iff_exists.1 (hsees c)
      exact (hgoes (b := .link .listenClose) trivial trivial (.link trivial (.listenClose h hr))).elim
    | waiting =>
      exact (hgoes (b := .link .closeConnection) trivial trivial
        (.link trivial (.closeConnection h hdone))).elim
    | closed => exact .inr rfl
  have htransport : (s.tasks n).transport ≠ .established := by
    intro hopen
    rcases hspawner with h | h
    · rcases hsteady.spawner h with habsent | hspawning
      · cases habsent.symm.trans hopen
      · rcases hattempt with hattempt | hattempt <;> rw [hattempt] at hspawning <;> exact hspawning
    · cases (hsteady.closed h).symm.trans hopen
  refine ⟨hattempt, htransport, hspawner, ?_, hdone⟩
  cases h : (s.tasks n).watcher with
  | absent => exact .inl rfl
  | waiting =>
    cases ht : (s.tasks n).transport with
    | absent => cases (hsteady.absent ht).2.symm.trans h
    | established => exact absurd ht htransport
    | closed => exact (hgoes (by trivial) (by trivial) (.transportClosed h ht)).elim
  | signaling => exact (hrest (.watcherFailed n) _ rfl (.watcherFailed hn h hleft.symm)).elim
  | ended => exact .inr rfl

/-- A session does not go on where its attempt waits for the network or has ended, its watcher waits for a
transport that is up, or is not there, and the link is idle. -/
theorem not_step_of_idle (hattempt : (s.tasks n).attempt = .connecting ∨ (s.tasks n).attempt = .ended)
    (hwatcher : (s.tasks n).watcher = .absent ∨ (s.tasks n).watcher = .ended ∨
      (s.tasks n).watcher = .waiting ∧ (s.tasks n).transport = .established)
    (hlink : (s.taskSession n).link.Idle) (ha : a.InternalTo n) : ¬ Step sharedClientId s a s' := by
  intro h
  cases h with
  | task hn _ h =>
    obtain ⟨rfl, ha⟩ := ha
    cases h with
    | spawnWatcher h | spawnRecv h | spawnSpawner h | receiveClientId r h | signal h =>
      rcases hattempt with hs | hs <;> cases hs.symm.trans h
    | transportClosed h ht =>
      rcases hwatcher with hs | hs | ⟨-, hs⟩
      · cases hs.symm.trans h
      · cases hs.symm.trans h
      · cases hs.symm.trans ht
    | watcherSignal h => rcases hwatcher with hs | hs | ⟨hs, -⟩ <;> cases hs.symm.trans h
    | link hb h => exact hlink.not_step hb h
    | _ => exact ha.elim
  | signalFailed hn h =>
    obtain rfl := ha
    rcases hattempt with hs | hs <;> cases hs.symm.trans h
  | watcherFailed hn h =>
    obtain rfl := ha
    rcases hwatcher with hs | hs | ⟨hs, -⟩ <;> cases hs.symm.trans h
  | _ => exact ha.elim

end Sessions

end BevyIroh
