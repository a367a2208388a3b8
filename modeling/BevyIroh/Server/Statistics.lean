import BevyIroh.Server.Events

/-!
# The statistics of a server endpoint

An endpoint counts the clients that join and the clients that leave.  `Attendance` is the system that
handles the server's events, with the number of connections that were offered to it; besides the frames
of `handle_server_events` the endpoint is called in between.

A client that leaves by `internalDisconnectClient` is counted.  One that `disconnectAllClients` sends
away is not, so the counters balance as long as that is called on an endpoint without clients:
`stats_balanced_iff`.
-/

set_option autoImplicit false

namespace BevyIroh

open Transition

namespace ServerEndpoint

/-- The clients that have joined are those that have left and those that are there. -/
def Balanced (s : ServerEndpoint) : Prop :=
  s.stats.connectCount = s.stats.disconnectCount + s.clients.size

/-- The same of an endpoint that has been offered `n` connections, with what makes it last. -/
structure Counted (n : ℕ) (s : ServerEndpoint) : Prop where
  balanced : s.Balanced
  /-- No connection has used up two ids. -/
  gen_le : s.clientIdGen ≤ n
  /-- The next id is new. -/
  mem_le : ∀ {k}, k ∈ s.clients → k ≤ s.clientIdGen
  connects_le : s.stats.connectCount ≤ n

/-- The connections a step offers. -/
def Action.connections : Action → ℕ
  | .handleNewConnection _ _ => 1
  | _ => 0

/-! ## What the operations do to the counters -/

variable {s s' : ServerEndpoint} {n : ℕ}

theorem openChannel_stats {order visit : List ClientId} {channelType : ChannelConfig}
    {r : Except ChannelCreationError ChannelId}
    (h : s.openChannel order visit channelType = some (r, s')) : s'.stats = s.stats := by
  rw [openChannel_frame h]

theorem closeChannel_stats {order : List ClientId} {id : ChannelId} :
    (s.closeChannel order id).2.stats = s.stats := by
  rw [closeChannel]
  split
  · simp only
    split <;> rfl
  · rfl

/-- Nothing that is counted changes. -/
theorem Counted.congr (h : s.Counted n) (hmem : ∀ {k}, k ∈ s'.clients ↔ k ∈ s.clients)
    (hgen : s'.clientIdGen = s.clientIdGen) (hstats : s'.stats = s.stats) : s'.Counted n where
  balanced := by
    rw [Balanced, hstats, HashMap.size_congr fun _ ↦ hmem]
    exact h.balanced
  gen_le := hgen ▸ h.gen_le
  mem_le hk := hgen ▸ h.mem_le (hmem.1 hk)
  connects_le := hstats ▸ h.connects_le

/-- A connection that is refused is not counted, one that is accepted is counted once. -/
theorem Counted.handleNewConnection (h : s.Counted n) (hn : n + 1 < 2 ^ 32) (order : List ChannelId)
    (connection : ServerSideConnection) :
    (s.handleNewConnection order connection).2.Counted (n + 1) := by
  obtain ⟨hbalanced, hgen, hmem, hconnects⟩ := h
  have hid : (s.clientIdGen + 1) % 2 ^ 64 = s.clientIdGen + 1 :=
    Nat.mod_eq_of_lt (Nat.lt_of_le_of_lt (Nat.succ_le_succ hgen) (by omega))
  rw [ServerEndpoint.handleNewConnection]
  split
  · exact ⟨hbalanced, Nat.le_succ_of_le hgen, hmem, Nat.le_succ_of_le hconnects⟩
  · simp only [hid]
    split
    · have hnew : s.clientIdGen + 1 ∉ s.clients := fun hk ↦
        absurd (hmem hk) (Nat.not_le.2 (Nat.lt_succ_self _))
      have hcount : (s.stats.connectCount + 1) % 2 ^ 32 = s.stats.connectCount + 1 :=
        Nat.mod_eq_of_lt (by omega)
      simp only [hcount]
      refine ⟨?_, Nat.succ_le_succ hgen, fun {k} hk ↦ ?_, Nat.succ_le_succ hconnects⟩
      · simp only [Balanced, HashMap.size_insert_of_notMem hnew]
        rw [hbalanced, Nat.add_assoc]
      · rcases Finmap.mem_insert.1 hk with rfl | hk
        · exact Nat.le_refl _
        · exact Nat.le_succ_of_le (hmem hk)
    · exact ⟨hbalanced, Nat.succ_le_succ hgen, fun hk ↦ Nat.le_succ_of_le (hmem hk),
        Nat.le_succ_of_le hconnects⟩

/-- A client that is disconnected is counted, whether or not its tasks were told; an unknown one is
not. -/
theorem Counted.internalDisconnectClient (h : s.Counted n) (hn : n < 2 ^ 32) (clientId : ClientId)
    (receivers : Bool) (reason : CloseReason) :
    (s.internalDisconnectClient clientId receivers reason).2.Counted n := by
  obtain ⟨hbalanced, hgen, hmem, hconnects⟩ := h
  rw [ServerEndpoint.internalDisconnectClient]
  split
  · rename_i c hc
    have hsize := HashMap.size_erase_of_mem (Finmap.mem_of_lookup_eq_some hc)
    have hcount : (s.stats.disconnectCount + 1) % 2 ^ 32 = s.stats.disconnectCount + 1 := by
      rw [Balanced] at hbalanced
      exact Nat.mod_eq_of_lt (by omega)
    have hleft : Counted n { s with
        clients := s.clients.erase clientId
        stats.disconnectCount := (s.stats.disconnectCount + 1) % 2 ^ 32 } := by
      refine ⟨?_, hgen, fun hk ↦ hmem (Finmap.mem_erase.1 hk).2, hconnects⟩
      simp only [Balanced, hcount]
      rw [hbalanced]
      omega
    simp only
    split <;> exact hleft
  · exact ⟨hbalanced, hgen, hmem, hconnects⟩

/-- **Disconnecting all clients keeps the balance exactly when there are none.** -/
theorem Counted.disconnectAllClients_iff (h : s.Counted n) :
    s.disconnectAllClients.Balanced ↔ s.clients = ∅ := by
  have hbalanced := h.balanced
  have hempty : (∅ : HashMap ClientId ServerSideConnection).size = 0 := rfl
  rw [Balanced] at hbalanced
  simp only [Balanced, disconnectAllClients, hempty]
  rw [← HashMap.size_eq_zero_iff, hbalanced]
  omega

theorem Counted.disconnectAllClients (h : s.Counted n) (hs : s.clients = ∅) :
    s.disconnectAllClients.Counted n :=
  h.congr (by rw [hs]; exact Iff.rfl) rfl rfl

/-- `disconnectAllClients` finds no client. -/
def AllClientsGone (s : ServerEndpoint) (a : Action) : Prop :=
  a = .disconnectAllClients → s.clients = ∅

theorem Counted.step {a : Action} (h : s.Counted n) (hn : n + a.connections < 2 ^ 32)
    (hc : s.AllClientsGone a) (hs : Step s a s') : s'.Counted (n + a.connections) := by
  cases hs with
  | openChannel ho hv hopen =>
    have hmem : ∀ {k}, k ∈ s'.clients ↔ k ∈ s.clients := by
      intro k
      rcases openChannel_cases ho hv hopen with ⟨-, -, rfl⟩ | ⟨id, ids, -, h | h⟩
      · exact Iff.rfl
      · exact h.2.2.1.mem_iff
      · exact h.2.1.mem_iff
    exact h.congr hmem (openChannel_clientIdGen hopen) (openChannel_stats hopen)
  | closeChannel channelId ho =>
    refine h.congr (fun {k} ↦ ?_) closeChannel_clientIdGen closeChannel_stats
    rcases hclose : s.closeChannel _ channelId with ⟨err | u, s'⟩
    · rcases closeChannel_error ho.nodup hclose with ⟨-, rfl⟩ | ⟨-, -, hclients, -⟩
      · exact Iff.rfl
      · exact hclients.mem_iff
    · exact (closeChannel_ok ho hclose).2.1.mem_iff
  | setDefaultChannel channelId => exact h.congr Iff.rfl rfl rfl
  | handleNewConnection ho hnew => exact h.handleNewConnection hn _ _
  | disconnectClient clientId receivers reason =>
    exact h.internalDisconnectClient hn clientId receivers reason
  | disconnectAllClients => exact h.disconnectAllClients (hc rfl)
  | tasks htasks => exact h.congr htasks.clients.mem_iff htasks.clientIdGen htasks.stats

end ServerEndpoint

/-! ## Runs -/

/-- The system that handles the server's events, and how many connections it was offered. -/
structure Attendance where
  system : ServerSystem
  connections : ℕ

namespace Attendance

open ServerEndpoint

def start (endpoint : ServerEndpoint) : Attendance where
  system := .start endpoint
  connections := 0

/-- The connections that a part of a frame offers. -/
def offered : ServerSystem.Action → ℕ
  | .message (.clientConnected _) => 1
  | _ => 0

/-- The actions that `handle_server_events` consists of. -/
def InFrame : ServerSystem.Action → Prop
  | .app _ => False
  | .tasks => False
  | _ => True

inductive Step : Attendance → ServerSystem.Action → Attendance → Prop
  /-- Between two frames any operation of the endpoint is called, `handleNewConnection` included. -/
  | call {t : Attendance} {a : ServerEndpoint.Action} {endpoint : ServerEndpoint}
      (hp : t.system.phase = .idle) (h : ServerEndpoint.Step t.system.endpoint a endpoint) :
      Step t (.app a) ⟨t.system.withEndpoint endpoint, t.connections + a.connections⟩
  | tasks {t : Attendance} {endpoint : ServerEndpoint} (h : t.system.endpoint.SameTables endpoint) :
      Step t .tasks ⟨t.system.withEndpoint endpoint, t.connections⟩
  | frame {t : Attendance} {a : ServerSystem.Action} {system : ServerSystem} (ha : InFrame a)
      (h : ServerSystem.Step t.system a system) : Step t a ⟨system, t.connections + offered a⟩

/-- A step with which the connections stay below `2 ^ 32`. -/
def FittingStep (t : Attendance) (a : ServerSystem.Action) (t' : Attendance) : Prop :=
  Step t a t' ∧ t'.connections < 2 ^ 32

/-- `connectCount` minus `disconnectCount` is the number of clients. -/
def Balanced (t : Attendance) : Prop := t.system.endpoint.Balanced

/-- `disconnectAllClients` is called on an endpoint without clients only. -/
def AllClientsGone (t : Attendance) (a : ServerSystem.Action) : Prop :=
  a = .app .disconnectAllClients → t.system.endpoint.clients = ∅

variable {t t' : Attendance} {a : ServerSystem.Action}

/-- The part of a frame that handles a message. -/
theorem counted_handleMessage {s : ServerSystem} {n : ℕ} (h : s.endpoint.Counted n)
    {m : ServerAsyncMessage} (hn : n + offered (.message m) < 2 ^ 32) (order : List ChannelId)
    (receivers : Bool) :
    (s.handleMessage order receivers m).endpoint.Counted (n + offered (.message m)) := by
  cases m with
  | clientConnected connection =>
    have hnew := h.handleNewConnection hn order connection
    rw [ServerSystem.handleMessage]
    split <;> rename_i hr <;> rw [hr] at hnew <;> exact hnew
  | clientConnectionClosed clientId =>
    rw [ServerSystem.handleMessage]
    split_ifs
    · exact h.internalDisconnectClient hn clientId receivers .peerClosed
    · exact h

/-- **What a part of a frame does is counted.** -/
theorem counted_frame {s s' : ServerSystem} {n : ℕ} (h : s.endpoint.Counted n) (ha : InFrame a)
    (hn : n + offered a < 2 ^ 32) (hs : ServerSystem.Step s a s') :
    s'.endpoint.Counted (n + offered a) := by
  cases hs with
  | app => exact ha.elim
  | tasks => exact ha.elim
  | @message _ q order receivers =>
    exact counted_handleMessage (s := s.withEndpoint { s.endpoint with fromAsyncEndpoint := q })
      (h.congr Iff.rfl rfl rfl) hn order receivers
  | lostConnection hp hc hq =>
    have hmem := Finmap.mem_of_lookup_eq_some hc
    rw [ServerSystem.handleLostConnection]
    split_ifs
    all_goals
      refine h.congr (fun {k} ↦ Finmap.mem_insert.trans ⟨?_, .inr⟩) rfl rfl
      rintro (rfl | hk)
      · exact hmem
      · exact hk
  | @disconnect clientId todo receivers hp =>
    exact h.internalDisconnectClient hn clientId receivers .localOrder
  | _ => exact h

theorem counted_step (h : t.system.endpoint.Counted t.connections) (hc : t.AllClientsGone a)
    (hs : FittingStep t a t') : t'.system.endpoint.Counted t'.connections := by
  obtain ⟨hs, hn⟩ := hs
  cases hs with
  | call hp hs => exact h.step hn (fun ha ↦ hc (congrArg _ ha)) hs
  | tasks hs => exact h.congr hs.clients.mem_iff hs.clientIdGen hs.stats
  | frame ha hs => exact counted_frame h ha hn hs

/-- A step that breaks the condition breaks the balance. -/
theorem allClientsGone_of_balanced (h : t.system.endpoint.Counted t.connections) (hs : Step t a t')
    (hb : t'.Balanced) : t.AllClientsGone a := by
  rintro rfl
  cases hs with
  | call hp hs =>
    cases hs
    exact h.disconnectAllClients_iff.1 hb
  | frame ha => exact ha.elim

/-- **When the endpoint's statistics balance.**  Along any run with fewer than `2 ^ 32` connections
`connectCount` minus `disconnectCount` is the number of clients exactly when `disconnectAllClients` is
never called on an endpoint that has clients. -/
theorem stats_balanced_iff {cfg : SendChannelsConfiguration} {recvCfg : RecvChannelsConfiguration}
    {e₀ : ServerEndpoint} {tr : List (ServerSystem.Action × Attendance)}
    (h₀ : startEndpoint cfg recvCfg = some (.ok (), e₀)) (h : Run FittingStep (start e₀) tr) :
    Always Balanced (start e₀) tr ↔ EachStep AllClientsGone (start e₀) tr := by
  obtain ⟨hclients, hgen, hstats, -⟩ := startEndpoint_frame h₀
  have hstart : e₀.Counted 0 := by
    refine ⟨?_, Nat.le_of_eq hgen, fun {k} hk ↦ ?_, by rw [hstats]⟩
    · rw [ServerEndpoint.Balanced, hclients, hstats]
      rfl
    · rw [hclients] at hk
      exact absurd hk Finmap.notMem_empty
  exact h.always_iff_of_invariant (I := fun t ↦ t.system.endpoint.Counted t.connections) hstart
    (fun ht ↦ ht.balanced) counted_step fun ht hs hb ↦ allClientsGone_of_balanced ht hs.1 hb

/-! ## All clients are sent away -/

/-- A client joins, and then the clients leave: it alone, or all of them. -/
def joinedAndLeft (all : Bool) : List (ServerSystem.Action × Attendance) :=
  let joined := (started.handleNewConnection [0] newConnection).2
  [(.app (.handleNewConnection [0] newConnection), ⟨.start joined, 1⟩),
    if all then (.app .disconnectAllClients, ⟨.start joined.disconnectAllClients, 1⟩)
    else (.app (.disconnectClient 1 true .localOrder),
      ⟨.start (joined.internalDisconnectClient 1 true .localOrder).2, 1⟩)]

theorem run_joinedAndLeft (all : Bool) : Run FittingStep (start started) (joinedAndLeft all) := by
  refine .cons ⟨.call rfl (.handleNewConnection isOrder_started rfl), by decide⟩ ?_
  cases all
  · exact .cons ⟨.call rfl (.disconnectClient _ 1 true .localOrder), by decide⟩ (.nil _)
  · exact .cons ⟨.call rfl (.disconnectAllClients _), by decide⟩ (.nil _)

theorem stats_balanced_one :
    (last (start started) (joinedAndLeft false)).system.endpoint.stats = ⟨1, 1⟩ ∧
      Always Balanced (start started) (joinedAndLeft false) :=
  ⟨by decide, (stats_balanced_iff startEndpoint_default (run_joinedAndLeft false)).2
    ⟨by rintro ⟨⟩, by rintro ⟨⟩, trivial⟩⟩

/-- A client sent away with all the others is not counted: one has joined, none has left, and none is
there. -/
theorem disconnect_all_is_not_counted :
    startEndpoint .default {} = some (.ok (), started) ∧
      Run FittingStep (start started) (joinedAndLeft true) ∧
      (last (start started) (joinedAndLeft true)).system.endpoint.stats = ⟨1, 0⟩ ∧
      (last (start started) (joinedAndLeft true)).system.endpoint.clients = ∅ ∧
      ¬ Always Balanced (start started) (joinedAndLeft true) := by
  refine ⟨startEndpoint_default, run_joinedAndLeft true, by decide, rfl, fun h ↦ ?_⟩
  have hlast : 1 = 0 := h.2 _ (List.mem_cons_of_mem _ List.mem_cons_self)
  exact absurd hlast (by decide)

end Attendance

end BevyIroh
