import BevyIroh.Client.Standing
import BevyIroh.ClientIds
import BevyIroh.Server.Listed

/-!
# Both ends agree

A client's state is made of what its tasks have reported (`Client.Standing`), and the endpoint's map of
clients of what the tasks of its connections have (`Server.Listed`).  Nothing that the two ends send each
other is about either, except the id.  They agree all the same, when nothing is on its way any more: a
client that is connected under an id is listed under it, on the connection of its session, and whoever is
listed and came from a client came from the session that the client is in (`Network.both_ends_agree`).

That a connection which is closed at one end gets closed at the other is up to the transport, so it is
assumed of the state (`SameTransports`).
-/

set_option autoImplicit false

namespace BevyIroh

open Transition

namespace Network

variable {codec : LengthDelimitedCodec} {s s' : Network} {a : Action}

/-! ## What each end does -/

/-- No task of a connection is dropped, and no client takes a `Connected` while it is disconnected. -/
def Undisturbed (s : Network) : Action → Prop
  | .abandon _ => False
  | .client c a => (s.clients c).TakesNoConnected a
  | _ => True

/-- The endpoint takes steps of its own. -/
theorem Step.server_cases (h : Step codec s a s') (ha : s.Undisturbed a) :
    s'.server = s.server ∨ ∃ b, ServerSessions.Step true s.server b s'.server := by
  cases h with
  | accept origin hnew h => exact .inr ⟨_, h⟩
  | handleNewConnection receivers hq ho hgen => exact .inr ⟨_, .handle receivers hq ho⟩
  | idWrite | client => exact .inl rfl
  | idSend hid hb h => exact .inr ⟨_, h⟩
  | abandon => exact ha.elim
  | server hb h => exact .inr ⟨_, h⟩

/-- So does each client. -/
theorem Step.client_cases (h : Step codec s a s') (c : ℕ) : s'.clients c = s.clients c ∨
    ∃ b, a = .client c b ∧ Sessions.Step true (s.clients c) b (s'.clients c) := by
  cases h with
  | @client c' b t ha h =>
    by_cases hc : c = c'
    · subst hc
      refine .inr ⟨b, rfl, ?_⟩
      show Sessions.Step true _ b (Function.update s.clients c t c)
      rw [Function.update_self]
      exact h
    · exact .inl (Function.update_of_ne hc t s.clients)
  | _ => exact .inl rfl

/-- What holds at both ends. -/
structure Coherent (s : Network) : Prop where
  sound : s.server.Sound
  lists : s.server.Lists
  standing : ∀ c, (s.clients c).Standing true
  kept : ∀ c, (s.clients c).Kept
  /-- A connection comes from a session that was begun. -/
  begun : ∀ {k c n}, s.origin k = some (c, n) → n ≤ (s.clients c).current

theorem coherent_start {recvChannelsCfg : RecvChannelsConfiguration}
    {openedChannels : HashMap ChannelId ChannelConfig} {clients : ℕ → Sessions}
    (h : ∀ c, (clients c).Opened) : (start recvChannelsCfg openedChannels clients).Coherent where
  sound := ServerSessions.sound_start recvChannelsCfg openedChannels
  lists := ServerSessions.lists_start recvChannelsCfg openedChannels
  standing c := Sessions.standing_of_opened (h c)
  kept c := by
    obtain ⟨localId, cfg, recvCfg, conn, -, heq⟩ := h c
    show (clients c).Kept
    rw [heq]
    exact Sessions.kept_start localId cfg recvCfg conn
  begun := nofun

/-- **Every step of an undisturbed network keeps it.** -/
theorem Coherent.step (h : s.Coherent) (ha : s.Undisturbed a) (hstep : Step codec s a s') :
    s'.Coherent := by
  have hcurrent : ∀ c, (s.clients c).current ≤ (s'.clients c).current := fun c ↦ by
    rcases hstep.client_cases c with hsame | ⟨b, -, hb⟩
    · rw [hsame]
    · exact Sessions.current_le hb
  have hserver : s'.server.Sound ∧ s'.server.Lists := by
    rcases hstep.server_cases ha with hsame | ⟨b, hb⟩
    · rw [hsame]
      exact ⟨h.sound, h.lists⟩
    · exact ⟨h.sound.step hb, h.lists.step h.sound hb⟩
  refine ⟨hserver.1, hserver.2, fun c ↦ ?_, fun c ↦ ?_, fun {k c n} hk ↦ ?_⟩
  · rcases hstep.client_cases c with hsame | ⟨b, rfl, hb⟩
    · rw [hsame]
      exact h.standing c
    · exact (h.standing c).step ha hb
  · rcases hstep.client_cases c with hsame | ⟨b, -, hb⟩
    · rw [hsame]
      exact h.kept c
    · exact (h.kept c).step hb
  · have hold : s.origin k = some (c, n) ∨ n ≤ (s.clients c).current := by
      cases hstep with
      | accept origin hnew =>
        rcases update_eq_some hk with ⟨-, horigin⟩ | hk
        · exact .inr (hnew c n horigin).1
        · exact .inl hk
      | _ => exact .inl hk
    exact (hold.elim h.begun id).trans (hcurrent c)

/-! ## At rest -/

/-- All tasks are at rest, and all they have reported is handled. -/
structure AtRest (s : Network) : Prop where
  server : ∀ k, s.server.Quiescent true k
  fromAsyncEndpoint : s.server.fromAsyncEndpoint.queued = []
  clients : ∀ c n a t, Sessions.Action.InternalTo n a → ¬ Sessions.Step true (s.clients c) a t
  fromAsyncClient : ∀ c, (s.clients c).conn.specific.fromAsyncClient.queued = []

/-- A connection is up at both ends or at none. -/
def SameTransports (s : Network) : Prop := ∀ k c n, s.origin k = some (c, n) →
  ((s.server.conns k).transport = .established ↔ ((s.clients c).tasks n).transport = .established)

/-- With one connection from a client, this is about that connection. -/
theorem sameTransports_of_one {k c n : ℕ}
    (horigin : s.origin = Function.update (fun _ ↦ none) k (some (c, n)))
    (hends : (s.server.conns k).transport = .established ↔
      ((s.clients c).tasks n).transport = .established) : s.SameTransports := by
  intro k' c' n' hk'
  rw [horigin] at hk'
  rcases update_eq_some hk' with ⟨rfl, hk⟩ | hk
  · obtain ⟨rfl, rfl⟩ := Prod.mk.inj (Option.some.inj hk)
    exact hends
  · cases hk

/-- The connection whose transport is up is the client's current one. -/
theorem Coherent.current_of_established (h : s.Coherent) (hrest : s.AtRest) {c n : ℕ}
    (hn : n ≤ (s.clients c).current) (hopen : ((s.clients c).tasks n).transport = .established) :
    (s.clients c).current = n := by
  have hheld : (s.clients c).current = (s.clients c).held.fromAsyncClientRecv :=
    congrArg HeldConnection.fromAsyncClientRecv (h.standing c).refers
  by_contra hne
  exact ((h.kept c).finished_of_atRest hn (fun heq ↦ hne (hheld.trans heq.symm))
    (hrest.clients c n)).transport hopen

theorem Coherent.listed_connected (h : s.Coherent) (hrest : s.AtRest) {k : ℕ} {id : ClientId}
    (hk : s.server.clients.lookup id = some k) : (s.server.conns k).Connected id :=
  h.lists.connected h.sound hk (hrest.server k) hrest.fromAsyncEndpoint

/-- **Both ends agree.**  After any run of an endpoint and its clients in which no task is dropped and no
client takes a `Connected` while it is disconnected, when all tasks are at rest and all they have reported
is handled, and what is closed at one end is closed at the other: a client that is connected under an id
is listed under it, on the connection of its session; and a connection that is listed and came from a
client came from its current session, and the client is connected under the same id, unless it still waits
for the id or was disconnected. -/
theorem both_ends_agree {recvChannelsCfg : RecvChannelsConfiguration}
    {openedChannels : HashMap ChannelId ChannelConfig} {clients : ℕ → Sessions}
    (hcodec : codec.RoundTrips) (hclients : ∀ c, (clients c).Opened)
    (h : Reachable (Step codec) Undisturbed (start recvChannelsCfg openedChannels clients) s)
    (hrest : s.AtRest) (hends : s.SameTransports) :
    (∀ c n id, s.Holds c n id → ∃ k, s.origin k = some (c, n) ∧ s.server.clients.lookup id = some k) ∧
    ∀ id k c n, s.server.clients.lookup id = some k → s.origin k = some (c, n) →
      (s.clients c).current = n ∧ ((s.clients c).held.state ≠ .disconnected →
        s.Holds c n id ∨ ((s.clients c).tasks n).attempt = .receivingClientId) := by
  have hagreed := ((agreed_start hclients).reachable hcodec (h.mono fun _ ↦ trivial)).1
  have hcoherent : s.Coherent :=
    h.invariant (coherent_start hclients) fun hs ha hstep ↦ hs.step ha hstep
  have hstate : ∀ c, (s.clients c).Agrees true := fun c ↦
    (hcoherent.standing c).agrees ((hcoherent.kept c).steady _ le_rfl) (hrest.clients c _)
      (hrest.fromAsyncClient c)
  refine ⟨fun c n id hholds ↦ ?_, fun id k c n hk horigin ↦ ?_⟩
  · obtain ⟨k, horigin, hassigned⟩ := hagreed.tells_of_holds hholds
    obtain ⟨rfl, hconnected⟩ := hholds
    have hopen : (s.server.conns k).transport = .established :=
      (hends k c _ horigin).2 ((hstate c).connected hconnected).2.2.transport
    by_cases hlisted : ∃ id', s.server.clients.lookup id' = some k
    · obtain ⟨id', hk⟩ := hlisted
      obtain rfl : id' = id :=
        Option.some.inj ((hagreed.answered.clients hk).symm.trans hassigned)
      exact ⟨k, horigin, hk⟩
    · have hclosed := hcoherent.lists.closed hcoherent.sound (hagreed.accepted horigin)
        (not_exists.1 hlisted) (hrest.server k) hrest.fromAsyncEndpoint
      cases hclosed.transport.symm.trans hopen
  · have hopen := (hends k c n horigin).1 (hcoherent.listed_connected hrest hk).transport
    have hcurrent := hcoherent.current_of_established hrest (hcoherent.begun horigin) hopen
    refine ⟨hcurrent, fun hne ↦ ?_⟩
    subst hcurrent
    cases hs : (s.clients c).held.state with
    | connecting =>
      rcases (hstate c).connecting hs with ⟨-, habsent⟩ | ⟨-, hawaiting, -⟩
      · cases habsent.symm.trans hopen
      · exact .inr hawaiting
    | connected clientId =>
      obtain ⟨id', rfl⟩ := Option.isSome_iff_exists.1 ((hstate c).connected hs).1
      obtain ⟨k', horigin', hassigned⟩ := hagreed.tells_of_holds (c := c) ⟨rfl, hs⟩
      obtain rfl : k' = k := hagreed.injective horigin' horigin
      obtain rfl : id' = id :=
        Option.some.inj (hassigned.symm.trans (hagreed.answered.clients hk))
      exact .inl ⟨rfl, hs⟩
    | disconnected => exact absurd hs hne

/-- A client connects, and is told its id. -/
theorem both_ends_agree_one : ∃ s,
    Reachable (Step .new) Undisturbed (start {} ∅ fun _ ↦ .start 0 .new {} .opened) s ∧
      s.Holds 0 0 1 ∧ ∃ k, s.origin k = some (0, 0) ∧ s.server.clients.lookup 1 = some k := by
  have hstart : Reachable (Step .new) Undisturbed (start {} ∅ fun _ ↦ .start 0 .new {} .opened) _ := .start
  have hestablished := hstart.next (by trivial)
    (.client (c := 0) (by rintro _ _ ⟨⟩) (.task (n := 0) le_rfl (by trivial) (.established rfl)))
  have hwatched := hestablished.next (by trivial)
    (.client (c := 0) (by rintro _ _ ⟨⟩) (.task (n := 0) le_rfl (by trivial) (.spawnWatcher rfl)))
  have hreceiving := hwatched.next (by trivial)
    (.client (c := 0) (by rintro _ _ ⟨⟩) (.task (n := 0) le_rfl (by trivial) (.spawnRecv rfl)))
  have hspawned := hreceiving.next (by trivial)
    (.client (c := 0) (by rintro _ _ ⟨⟩) (.task (n := 0) le_rfl (by trivial) (.spawnSpawner rfl)))
  have haccepted := hspawned.next (by trivial) (.accept (some (0, 0))
    (by rintro _ _ ⟨⟩; exact ⟨le_rfl, nofun⟩) (.accept _))
  have hsignaled := haccepted.next (by trivial)
    (.server (by trivial) (.signal (n := 0) Nat.one_pos rfl (by decide)))
  have hassigned := hsignaled.next (by trivial)
    (.handleNewConnection true rfl HashMap.isOrder_empty (by decide))
  have hacked := hassigned.next (by trivial)
    (.server (by trivial) (.session (n := 0) Nat.one_pos (.recvAck rfl rfl)))
  have hsender := hacked.next (by trivial)
    (.server (by trivial) (.session (n := 0) Nat.one_pos (.spawnIdSender rfl)))
  have hopened := hsender.next (by trivial)
    (.server (by trivial) (.session (n := 0) Nat.one_pos (.idOpen false rfl)))
  have hwritten := hopened.next (by trivial)
    (.idWrite (k := 0) rfl rfl List.nil_prefix List.prefix_rfl)
  have hsent := hwritten.next (by trivial)
    (.idSend (k := 0) rfl rfl (.session Nat.one_pos (.idSend false rfl)))
  have hwatching := hsent.next (by trivial)
    (.server (by trivial) (.session (n := 0) Nat.one_pos (.spawnWatcher rfl)))
  have hstreams := hwatching.next (by trivial)
    (.server (by trivial) (.session (n := 0) Nat.one_pos (.spawnStreams rfl)))
  have hdatagrams := hstreams.next (by trivial)
    (.server (by trivial) (.session (n := 0) Nat.one_pos (.spawnDatagrams rfl)))
  have hlistening := hdatagrams.next (by trivial)
    (.server (by trivial) (.session (n := 0) Nat.one_pos (.spawnSpawner rfl)))
  have hreturned := hlistening.next (by trivial)
    (.server (by trivial) (.session (n := 0) Nat.one_pos (.returns rfl)))
  have hreceived := hreturned.next (by trivial)
    (.client (c := 0) (a := .task 0 (.receiveClientId (.retrieved 1)))
      (by
        rintro _ _ ⟨⟩
        exact .message (k := 0) rfl List.prefix_rfl (by decide) rfl rfl)
      (.task le_rfl (by trivial) (.receiveClientId _ rfl nofun)))
  have hreported := hreceived.next (by trivial)
    (.client (c := 0) (by rintro _ _ ⟨⟩)
      (.task (n := 0) le_rfl (by trivial) (.signal rfl (by decide))))
  have hbegun := hreported.next (by nofun)
    (.client (c := 0) (a := .sync (.session .beginFrame)) (by rintro _ _ ⟨⟩)
      (.sync ⟨id, by rintro ⟨⟩⟩ (.session ⟨.beginFrame rfl, by rintro ⟨⟩⟩)))
  have hconnected := hbegun.next (by nofun)
    (.client (c := 0) (a := .sync (.session (.handleAsync true))) (by rintro _ _ ⟨⟩)
      (.sync ⟨id, by rintro ⟨⟩⟩ (.session ⟨.handleAsync true rfl rfl fun _ ↦ rfl, by rintro ⟨⟩⟩)))
  obtain ⟨s, hrun, hrest, hends, hholds⟩ : ∃ s,
      Reachable (Step .new) Undisturbed (start {} ∅ fun _ ↦ .start 0 .new {} .opened) s ∧
        s.AtRest ∧ s.SameTransports ∧ s.Holds 0 0 1 := by
    refine ⟨_, hconnected, ⟨fun k ↦ ?_, rfl, fun c n a t ha ↦ ?_, fun c ↦ ?_⟩,
      sameTransports_of_one (k := 0) (c := 0) (n := 0) rfl (iff_of_true rfl rfl), rfl, rfl⟩
    · rcases k with _ | k
      · exact ServerSessions.quiescent_of_idle rfl (.inl rfl) nofun (.inr ⟨rfl, rfl⟩) (by decide)
          ⟨.inr (.inr ⟨0, rfl, rfl, rfl, rfl⟩), fun _ ↦ rfl⟩
      · exact ServerSessions.quiescent_of_not_accepted (Nat.succ_pos k)
    · rcases n with _ | n
      · rcases c with _ | c
        · exact Sessions.not_step_of_idle (.inr rfl) (.inr (.inr ⟨rfl, rfl⟩))
            ⟨.inr (.inr ⟨0, rfl, rfl, rfl, rfl⟩), fun _ ↦ rfl⟩ ha
        · exact Sessions.not_step_of_idle (.inl rfl) (.inl rfl) ⟨.inl rfl, fun _ ↦ rfl⟩ ha
      · rcases c with _ | c <;> exact Sessions.not_step_of_lt (Nat.succ_pos n) ha
    · rcases c with _ | c <;> rfl
  have hopened : ∀ c : ℕ, ((fun _ ↦ .start 0 .new {} .opened : ℕ → Sessions) c).Opened := fun _ ↦
    ⟨0, .new, {}, .opened, ClientSideConnection.openConnection_opened, rfl⟩
  exact ⟨s, hrun, hholds, (both_ends_agree LengthDelimitedCodec.roundTrips_new hopened hrun hrest
    hends).1 0 0 1 hholds⟩

end Network

end BevyIroh
