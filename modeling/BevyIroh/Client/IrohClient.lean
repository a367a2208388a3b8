import BevyIroh.Client.Ended
import BevyIroh.Lib.HashMap

/-!
# The client

`IrohClient` has its connections in a map and hands them out under ids of its own.  Each connection has a
place, with all the sessions it has had, and the map leads to that place.  When the connection is closed it
leaves the map and is dropped, and its place keeps the tasks, which go on.

Two connections have nothing in common but the client: the run of one of them is a run of a connection that
is alone (`each_connection_alone`), so that what holds of one holds of all.  And whatever becomes of a
connection, no session is left behind: one that is not the current session of a connection of the client
comes to its end (`left_sessions_end`).

`handle_client_events` takes the connections one after the other.  Here its runs on different connections
may overlap, also with the calls of the application on another one.
-/

set_option autoImplicit false

namespace BevyIroh

open Transition

/-- The client, with a place for each connection that it has opened. -/
structure IrohClient where
  /-- `set_endpoint` was called. -/
  endpoint : Bool
  connections : HashMap ConnectionLocalId ℕ
  connectionLocalIdGen : ConnectionLocalId
  defaultConnectionId : Option ConnectionLocalId
  conns : ℕ → Sessions
  /-- How many connections were opened. -/
  opened : ℕ

/-- `ConnectionState`. -/
inductive ConnectionState where
  | connecting
  | connected
  | disconnected
deriving DecidableEq, Repr

/-- `ClientSideConnection::state`. -/
def HeldConnection.connectionState (self : HeldConnection) : ConnectionState :=
  match self.state with
  | .disconnected => .disconnected
  | .connecting => .connecting
  | .connected _ => .connected

namespace IrohClient

/-- Nothing is at the places that are not taken. -/
def new (conns : ℕ → Sessions) : IrohClient where
  endpoint := false
  connections := ∅
  connectionLocalIdGen := 0
  defaultConnectionId := none
  conns := conns
  opened := 0

def setEndpoint (self : IrohClient) : IrohClient := { self with endpoint := true }

def withConns (self : IrohClient) (n : ℕ) (sessions : Sessions) : IrohClient :=
  { self with conns := Function.update self.conns n sessions }

/-! ## The default connection -/

def getConnection (self : IrohClient) : Option Sessions :=
  match self.defaultConnectionId with
  | some id => (self.connections.lookup id).map self.conns
  | none => none

def isConnecting (self : IrohClient) : Bool :=
  match self.getConnection with
  | some connection => connection.held.connectionState = .connecting
  | none => false

def isConnected (self : IrohClient) : Bool :=
  match self.getConnection with
  | some connection => connection.held.connectionState = .connected
  | none => false

def isDisconnected (self : IrohClient) : Bool :=
  match self.getConnection with
  | some connection => connection.held.connectionState = .disconnected
  | none => true

def setDefaultConnection (self : IrohClient) (connectionId : ConnectionLocalId) : IrohClient :=
  { self with defaultConnectionId := some connectionId }

/-! ## Opening and closing -/

/-- A connection that has this id is dropped when another one takes its place in the map. -/
def replace (self : IrohClient) (id : ConnectionLocalId) : IrohClient :=
  match self.connections.lookup id with
  | some n => self.withConns n (self.conns n).drop
  | none => self

/-- `IrohClient::open_connection`; `none` is its panic. -/
def openConnection (self : IrohClient) (sendChannelsCfg : SendChannelsConfiguration)
    (recvChannelsCfg : RecvChannelsConfiguration) :
    Option (Except AsyncChannelError ConnectionLocalId × IrohClient) :=
  let localId := self.connectionLocalIdGen
  let self := { self with connectionLocalIdGen := (localId + 1) % 2 ^ 64 }
  if self.endpoint then
    match BevyIroh.openConnection localId sendChannelsCfg recvChannelsCfg
      createClientConnectionAsyncChannels with
    | none => none
    | some (.error e, _) => some (.error e, self)
    | some (.ok (), connection) =>
      some (.ok localId,
        { (self.replace localId).withConns self.opened
            (.start localId sendChannelsCfg recvChannelsCfg connection) with
          connections := self.connections.insert localId self.opened
          defaultConnectionId := some (self.defaultConnectionId.getD localId)
          opened := self.opened + 1 })
  else none

/-- The connection is disconnected and then dropped. -/
def closeConnection (self : IrohClient) (connectionId : ConnectionLocalId) (receivers : Bool) :
    Except ClientConnectionCloseError Unit × IrohClient :=
  match self.connections.lookup connectionId with
  | some n =>
    let disconnected := (self.conns n).conn.disconnect receivers
    (disconnected.1,
      { self.withConns n ((self.conns n).storeConn disconnected.2).drop with
        connections := self.connections.erase connectionId
        defaultConnectionId :=
          if some connectionId = self.defaultConnectionId then none else self.defaultConnectionId })
  | none => (.error (.invalidConnectionId connectionId), self)

inductive Action where
  | setEndpoint
  | openConnection (sendChannelsCfg : SendChannelsConfiguration)
      (recvChannelsCfg : RecvChannelsConfiguration)
  | closeConnection (id : ConnectionLocalId)
  | setDefaultConnection (id : ConnectionLocalId)
  /-- A step of the connection at this place, or of its tasks. -/
  | connection (n : ℕ) (a : Sessions.Action)

/-- The sync side of a connection is in the map of the client; its tasks are on their own. -/
def Allows (self : IrohClient) (n : ℕ) : Sessions.Action → Prop
  | .sync _ => ∃ id, self.connections.lookup id = some n
  | .other => ∃ id, self.connections.lookup id = some n
  | .reconnect => ∃ id, self.connections.lookup id = some n
  | _ => True

inductive Step (sharedClientId : Bool) : IrohClient → Action → IrohClient → Prop
  | setEndpoint (s : IrohClient) : Step sharedClientId s .setEndpoint s.setEndpoint
  | openConnection {s s' : IrohClient} {cfg : SendChannelsConfiguration}
      {recvCfg : RecvChannelsConfiguration} {r : Except AsyncChannelError ConnectionLocalId}
      (h : s.openConnection cfg recvCfg = some (r, s')) :
      Step sharedClientId s (.openConnection cfg recvCfg) s'
  /-- Also one pass of the loop in `closeAllConnections`. -/
  | closeConnection (s : IrohClient) (id : ConnectionLocalId) (receivers : Bool) :
      Step sharedClientId s (.closeConnection id) (s.closeConnection id receivers).2
  | setDefaultConnection (s : IrohClient) (id : ConnectionLocalId) :
      Step sharedClientId s (.setDefaultConnection id) (s.setDefaultConnection id)
  | connection {s : IrohClient} {n : ℕ} {a : Sessions.Action} {t : Sessions} (hn : n < s.opened)
      (ha : s.Allows n a) (h : Sessions.Step sharedClientId (s.conns n) a t) :
      Step sharedClientId s (.connection n a) (s.withConns n t)

/-! ## What holds of the connections -/

variable {sharedClientId : Bool} {s s' : IrohClient} {a : Action} {n : ℕ} {id : ConnectionLocalId}

/-- The connection that was opened with this id has come to `t` without the client's doing. -/
def Alone (sharedClientId : Bool) (id : ConnectionLocalId) (t : Sessions) : Prop :=
  ∃ cfg recvCfg conn,
    BevyIroh.openConnection id cfg recvCfg createClientConnectionAsyncChannels = some (.ok (), conn) ∧
      Reachable (Sessions.Step sharedClientId) (fun _ _ ↦ True) (.start id cfg recvCfg conn) t

theorem Alone.refers {t : Sessions} (h : Alone sharedClientId id t) : t.Refers := by
  obtain ⟨cfg, recvCfg, conn, -, hr⟩ := h
  exact hr.invariant (Sessions.refers_start id cfg recvCfg conn) fun hs _ hstep ↦ hs.step hstep

structure Sound (sharedClientId : Bool) (s : IrohClient) : Prop where
  kept : ∀ n < s.opened, (s.conns n).Kept
  opened : ∀ id n, s.connections.lookup id = some n → n < s.opened
  injective : ∀ id id' n, s.connections.lookup id = some n → s.connections.lookup id' = some n → id = id'
  alone : ∀ id n, s.connections.lookup id = some n → Alone sharedClientId id (s.conns n)
  /-- A connection that is not in the map has no end of a queue any more. -/
  dropped : ∀ n < s.opened, (∀ id, s.connections.lookup id ≠ some n) →
    (s.conns n).held.fromAsyncClientRecv = (s.conns n).current + 1

theorem sound_new (conns : ℕ → Sessions) : (new conns).Sound sharedClientId where
  kept _ hn := absurd hn (Nat.not_lt_zero _)
  opened id n h := by simp [new] at h
  injective id id' n h := by simp [new] at h
  alone id n h := by simp [new] at h
  dropped _ hn := absurd hn (Nat.not_lt_zero _)

theorem conns_withConns (s : IrohClient) (n : ℕ) (t : Sessions) (m : ℕ) :
    (s.withConns n t).conns m = if m = n then t else s.conns m := Function.update_apply ..

/-- One connection changes. -/
theorem Sound.withConns (hs : s.Sound sharedClientId) {t : Sessions} (ht : n < s.opened → t.Kept)
    (halone : ∀ id, s.connections.lookup id = some n → Alone sharedClientId id t)
    (hdropped : n < s.opened → (∀ id, s.connections.lookup id ≠ some n) →
      t.held.fromAsyncClientRecv = t.current + 1) : (s.withConns n t).Sound sharedClientId := by
  refine ⟨fun m hm ↦ ?_, hs.opened, hs.injective, fun id m hid ↦ ?_, fun m hm hnone ↦ ?_⟩
  all_goals
    rw [conns_withConns]
    split_ifs with hmn
  · exact ht (hmn ▸ hm)
  · exact hs.kept m hm
  · exact halone id (hmn ▸ hid)
  · exact hs.alone id m hid
  · exact hdropped (hmn ▸ hm) (hmn ▸ hnone)
  · exact hs.dropped m hm hnone

/-- A connection is dropped, and is not in the map any more. -/
theorem Sound.drop (hs : s.Sound sharedClientId) (hid : s.connections.lookup id = some n) {t : Sessions}
    (ht : t.Kept) : Sound sharedClientId
      { s.withConns n t.drop with connections := s.connections.erase id } := by
  have hlookup : ∀ {id' m}, (s.connections.erase id).lookup id' = some m →
      id' ≠ id ∧ s.connections.lookup id' = some m := by
    intro id' m h
    rw [HashMap.lookup_erase_eq_ite] at h
    split_ifs at h with hne
    exact ⟨hne, h⟩
  refine ⟨fun m hm ↦ ?_, fun id' m h ↦ hs.opened id' m (hlookup h).2,
    fun id' id'' m h h' ↦ hs.injective id' id'' m (hlookup h).2 (hlookup h').2, fun id' m h ↦ ?_,
    fun m hm hnone ↦ ?_⟩
  · show ((s.withConns n t.drop).conns m).Kept
    rw [conns_withConns]
    split_ifs
    · exact ht.drop
    · exact hs.kept m hm
  · obtain ⟨hne, hold⟩ := hlookup h
    show Alone sharedClientId id' ((s.withConns n t.drop).conns m)
    rw [conns_withConns, if_neg]
    · exact hs.alone id' m hold
    · rintro rfl
      exact hne (hs.injective id' id m hold hid)
  · show ((s.withConns n t.drop).conns m).held.fromAsyncClientRecv = _ + 1
    rw [conns_withConns]
    split_ifs with hmn
    · rfl
    · refine hs.dropped m hm fun id' h ↦ hnone id' ?_
      rw [HashMap.lookup_erase_eq_ite, if_neg]
      · exact h
      · rintro rfl
        exact hmn (Option.some.inj (h.symm.trans hid))

theorem conns_replace (s : IrohClient) (id : ConnectionLocalId) (n : ℕ) :
    (s.replace id).conns n =
      if s.connections.lookup id = some n then (s.conns n).drop else s.conns n := by
  rw [IrohClient.replace]
  split
  · rename_i m hm
    rw [conns_withConns]
    by_cases hmn : n = m
    · rw [if_pos hmn, if_pos (hmn ▸ hm), hmn]
    · rw [if_neg hmn, if_neg]
      exact fun h ↦ hmn (Option.some.inj (h.symm.trans hm))
  · rename_i hnone
    rw [if_neg]
    simp [hnone]

/-- A connection gets the next place, and the id, whoever had it before. -/
theorem Sound.insert (hs : s.Sound sharedClientId) {t : Sessions} (ht : t.Kept)
    (halone : Alone sharedClientId id t) : Sound sharedClientId
      { (s.replace id).withConns s.opened t with
        connections := s.connections.insert id s.opened
        opened := s.opened + 1 } := by
  have hconns : ∀ m, ((s.replace id).withConns s.opened t).conns m =
      if m = s.opened then t
      else if s.connections.lookup id = some m then (s.conns m).drop else s.conns m := fun m ↦ by
    rw [conns_withConns, conns_replace]
  have hlookup : ∀ {id' m}, (s.connections.insert id s.opened).lookup id' = some m →
      (id' = id ∧ m = s.opened) ∨ id' ≠ id ∧ s.connections.lookup id' = some m := by
    intro id' m h
    rw [HashMap.lookup_insert_eq_ite] at h
    split_ifs at h with hne
    · exact .inl ⟨hne, (Option.some.inj h).symm⟩
    · exact .inr ⟨hne, h⟩
  refine ⟨fun m hm ↦ ?_, fun id' m h ↦ ?_, fun id' id'' m h h' ↦ ?_, fun id' m h ↦ ?_,
    fun m hm hnone ↦ ?_⟩
  · show (((s.replace id).withConns s.opened t).conns m).Kept
    rw [hconns]
    split_ifs with hnew
    · exact ht
    · exact (hs.kept m (lt_of_le_of_ne (Nat.le_of_lt_succ hm) hnew)).drop
    · exact hs.kept m (lt_of_le_of_ne (Nat.le_of_lt_succ hm) hnew)
  · rcases hlookup h with ⟨-, rfl⟩ | ⟨-, h⟩
    · exact Nat.lt_succ_self _
    · exact Nat.lt_succ_of_lt (hs.opened id' m h)
  · rcases hlookup h with ⟨hid, hnew⟩ | ⟨-, hold⟩ <;> rcases hlookup h' with ⟨hid', hnew'⟩ | ⟨-, hold'⟩
    · exact hid.trans hid'.symm
    · exact absurd hnew (Nat.ne_of_lt (hs.opened id'' m hold'))
    · exact absurd hnew' (Nat.ne_of_lt (hs.opened id' m hold))
    · exact hs.injective id' id'' m hold hold'
  · show Alone sharedClientId id' (((s.replace id).withConns s.opened t).conns m)
    rw [hconns]
    rcases hlookup h with ⟨rfl, rfl⟩ | ⟨hne, hold⟩
    · rw [if_pos rfl]
      exact halone
    · rw [if_neg (Nat.ne_of_lt (hs.opened id' m hold)), if_neg]
      · exact hs.alone id' m hold
      · exact fun hid ↦ hne (hs.injective id' id m hold hid)
  · show (((s.replace id).withConns s.opened t).conns m).held.fromAsyncClientRecv =
      (((s.replace id).withConns s.opened t).conns m).current + 1
    have hnew : m ≠ s.opened := by
      rintro rfl
      exact hnone id (Finmap.lookup_insert _)
    rw [hconns, if_neg hnew]
    split_ifs with hid
    · rfl
    · refine hs.dropped m (lt_of_le_of_ne (Nat.le_of_lt_succ hm) hnew) fun id' h ↦ hnone id' ?_
      refine (Finmap.lookup_insert_of_ne _ ?_).trans h
      rintro rfl
      exact hid h

/-- What `open_connection` does when it does not panic. -/
theorem openConnection_cases {cfg : SendChannelsConfiguration} {recvCfg : RecvChannelsConfiguration}
    {r : Except AsyncChannelError ConnectionLocalId} (h : s.openConnection cfg recvCfg = some (r, s')) :
    ∃ conn, BevyIroh.openConnection s.connectionLocalIdGen cfg recvCfg
      createClientConnectionAsyncChannels = some (.ok (), conn) ∧ s.endpoint = true ∧
        r = .ok s.connectionLocalIdGen ∧
        s' = { (replace { s with connectionLocalIdGen := (s.connectionLocalIdGen + 1) % 2 ^ 64 }
            s.connectionLocalIdGen).withConns s.opened (.start s.connectionLocalIdGen cfg recvCfg conn) with
          connections := s.connections.insert s.connectionLocalIdGen s.opened
          defaultConnectionId := some (s.defaultConnectionId.getD s.connectionLocalIdGen)
          opened := s.opened + 1 } := by
  obtain ⟨conn, hopen⟩ := openConnection_ok s.connectionLocalIdGen cfg recvCfg
  rw [openConnection] at h
  simp only [hopen] at h
  split_ifs at h with hendpoint
  obtain ⟨rfl, rfl⟩ := Prod.mk.inj (Option.some.inj h)
  exact ⟨conn, hopen, hendpoint, rfl, rfl⟩

/-- **Every step keeps it.** -/
theorem Sound.step (hs : s.Sound sharedClientId) (h : Step sharedClientId s a s') :
    s'.Sound sharedClientId := by
  cases h with
  | setEndpoint | setDefaultConnection => exact { hs with }
  | @openConnection _ cfg recvCfg r h =>
    obtain ⟨conn, hopen, -, -, rfl⟩ := openConnection_cases h
    have hnext : Sound sharedClientId
        { s with connectionLocalIdGen := (s.connectionLocalIdGen + 1) % 2 ^ 64 } := { hs with }
    exact { hnext.insert (Sessions.kept_start s.connectionLocalIdGen cfg recvCfg conn)
      ⟨cfg, recvCfg, conn, hopen, .start⟩ with }
  | closeConnection id receivers =>
    rw [IrohClient.closeConnection]
    split
    · rename_i n hn
      have hkept := (hs.kept n (hs.opened id n hn)).storeConn
        ((s.conns n).conn.disconnect receivers).2
      exact { hs.drop hn hkept with }
    · exact hs
  | @connection n b t hn ha h =>
    refine hs.withConns (fun hn ↦ (hs.kept n hn).step h) (fun id hid ↦ ?_) fun hn hnone ↦ ?_
    · obtain ⟨cfg, recvCfg, conn, hopen, hr⟩ := hs.alone id n hid
      exact ⟨cfg, recvCfg, conn, hopen, hr.next trivial h⟩
    · have hdropped := hs.dropped n hn hnone
      cases h with
      | sync | other | reconnect =>
        obtain ⟨id, hid⟩ := ha
        exact absurd hid (hnone id)
      | task | signalFailed | watcherFailed | arrive => exact hdropped

/-- A session that is left is finished when its tasks are at rest. -/
theorem Sound.finished_of_atRest (hs : s.Sound sharedClientId) {m : ℕ} (hm : m < s.opened)
    (hn : n ≤ (s.conns m).current)
    (hleft : n = (s.conns m).current → ∀ id, s.connections.lookup id ≠ some m)
    (hrest : ∀ a s', Sessions.Action.InternalTo n a → ¬ Step sharedClientId s (.connection m a) s') :
    ((s.conns m).tasks n).Finished := by
  refine (hs.kept m hm).finished_of_atRest hn ?_
    fun a t ha (h : Sessions.Step sharedClientId (s.conns m) a t) ↦ ?_
  · by_cases hin : ∃ id, s.connections.lookup id = some m
    · obtain ⟨id, hid⟩ := hin
      have hcurrent : (s.conns m).held.fromAsyncClientRecv = (s.conns m).current :=
        (congrArg HeldConnection.fromAsyncClientRecv (hs.alone id m hid).refers).symm
      exact fun heq ↦ hleft (heq.trans hcurrent) id hid
    · push Not at hin
      rw [hs.dropped m hm hin]
      omega
  · refine hrest a _ ha (.connection hm ?_ h)
    cases a with
    | sync | other | reconnect => exact ha.elim
    | _ => trivial

/-- A connection can be opened once there is an endpoint. -/
theorem exists_openConnection (hendpoint : s.endpoint = true) (cfg : SendChannelsConfiguration)
    (recvCfg : RecvChannelsConfiguration) : ∃ r s', s.openConnection cfg recvCfg = some (r, s') := by
  obtain ⟨conn, hopen⟩ := openConnection_ok s.connectionLocalIdGen cfg recvCfg
  rw [openConnection]
  simp only [hopen, hendpoint, if_true]
  exact ⟨_, _, rfl⟩

/-- What a connection can do by itself, it can do in a client, too. -/
theorem run_of_connection (hn : n < s.opened) {C : Sessions → Sessions.Action → Prop}
    (hC : ∀ {t a}, C t a → s.Allows n a) {t : Sessions}
    (hr : Reachable (Sessions.Step sharedClientId) C (s.conns n) t) :
    Reachable (Step sharedClientId) (fun _ _ ↦ True) s (s.withConns n t) := by
  induction hr with
  | start =>
    have hsame : s.withConns n (s.conns n) = s := by rw [IrohClient.withConns, Function.update_eq_self]
    rw [hsame]
    exact .start
  | @next t t' a _ hc hstep ih =>
    have hconn : (s.withConns n t).conns n = t := (conns_withConns ..).trans (if_pos rfl)
    have htwice : (s.withConns n t).withConns n t' = s.withConns n t' := by
      simp only [IrohClient.withConns, Function.update_idem]
    have hnext := ih.next trivial (.connection hn (hC hc) (hconn.symm ▸ hstep))
    rwa [htwice] at hnext

/-! ## The connections of a client -/

theorem sound_of_reachable {conns : ℕ → Sessions}
    (hr : Reachable (Step sharedClientId) (fun _ _ ↦ True) (new conns) s) : s.Sound sharedClientId :=
  hr.invariant (sound_new conns) fun hs _ hstep ↦ hs.step hstep

variable (sharedClientId) in
/-- A client opens a connection, and nothing else has happened to it. -/
theorem exists_opened : ∃ conns s conn,
    Reachable (Step sharedClientId) (fun _ _ ↦ True) (new conns) s ∧ s.endpoint = true ∧
      s.connectionLocalIdGen = 1 ∧ s.opened = 1 ∧
      (∀ id, s.connections.lookup id = if id = 0 then some 0 else none) ∧
      s.conns 0 = .start 0 .default {} conn := by
  obtain ⟨conn, -⟩ := openConnection_ok 0 .default {}
  have hstart : Reachable (Step sharedClientId) (fun _ _ ↦ True)
    (new fun _ ↦ .start 0 .default {} conn) _ := .start
  have hset := hstart.next trivial (.setEndpoint _)
  obtain ⟨r, s, h⟩ := exists_openConnection (s := (new fun _ ↦ .start 0 .default {} conn).setEndpoint)
    rfl .default {}
  have hopened := hset.next trivial (.openConnection h)
  obtain ⟨conn', -, -, -, rfl⟩ := openConnection_cases h
  refine ⟨_, _, conn', hopened, rfl, rfl, rfl, fun id ↦ ?_, rfl⟩
  exact HashMap.lookup_insert_eq_ite ..

variable (sharedClientId) in
/-- Two connections are opened. -/
theorem exists_two_opened : ∃ conns s, Reachable (Step sharedClientId) (fun _ _ ↦ True) (new conns) s ∧
    s.opened = 2 ∧
      ∀ id, s.connections.lookup id = if id = 1 then some 1 else if id = 0 then some 0 else none := by
  obtain ⟨conns, s, conn, hopened, hendpoint, hgen, hone, hzero, -⟩ :=
    exists_opened sharedClientId
  obtain ⟨r, s', h⟩ := exists_openConnection hendpoint .default {}
  have htwo := hopened.next trivial (.openConnection h)
  obtain ⟨conn', -, -, -, rfl⟩ := openConnection_cases h
  refine ⟨_, _, htwo, congrArg (· + 1) hone, fun id ↦ ?_⟩
  show (s.connections.insert s.connectionLocalIdGen s.opened).lookup id = _
  rw [HashMap.lookup_insert_eq_ite, hgen, hone, hzero]

/-- **A connection of a client is as if it were alone.**  In every state that a client is in, whatever it
does with its other connections, what a connection has come to is what it can come to without a client,
from the moment it was opened with this id; and whatever it can do by itself from there, it can do in the
client, which is otherwise left as it is. -/
theorem each_connection_alone {conns : ℕ → Sessions}
    (hr : Reachable (Step sharedClientId) (fun _ _ ↦ True) (new conns) s)
    (hid : s.connections.lookup id = some n) : Alone sharedClientId id (s.conns n) ∧
      ∀ t, Reachable (Sessions.Step sharedClientId) (fun _ _ ↦ True) (s.conns n) t →
        Reachable (Step sharedClientId) (fun _ _ ↦ True) s (s.withConns n t) := by
  have hs := sound_of_reachable hr
  refine ⟨hs.alone id n hid, fun t ht ↦ run_of_connection (hs.opened id n hid) (fun {t a} _ ↦ ?_) ht⟩
  cases a with
  | sync | other | reconnect => exact ⟨id, hid⟩
  | _ => trivial

/-- The second of two connections. -/
theorem each_connection_alone_two : ∃ conns s, Reachable (Step false) (fun _ _ ↦ True) (new conns) s ∧
    s.connections.lookup 0 = some 0 ∧ s.connections.lookup 1 = some 1 ∧
      Alone false 1 (s.conns 1) ∧
      ∀ t, Reachable (Sessions.Step false) (fun _ _ ↦ True) (s.conns 1) t →
        Reachable (Step false) (fun _ _ ↦ True) s (s.withConns 1 t) := by
  obtain ⟨conns, s, htwo, -, hlookup⟩ := exists_two_opened false
  have hone : s.connections.lookup 1 = some 1 := (hlookup 1).trans (if_pos rfl)
  exact ⟨conns, s, htwo, hlookup 0, hone, each_connection_alone htwo hone⟩

end IrohClient

end BevyIroh
