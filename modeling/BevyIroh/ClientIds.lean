import BevyIroh.Client.Told
import BevyIroh.Server.Answers

/-!
# The ids of the clients

With the feature `shared-client-id` a client learns the id that the endpoint has given it.  The id is the
answer of `handle_new_connection`; `client_connection_task` receives it and has it sent over a stream of
its own; on the other side the task of the session reads it and reports it with `Connected`.  Meanwhile
connections are refused, which may use up ids, and lost, and clients reconnect, while the tasks of their
sessions before still run.

`Network` is the endpoint and its clients as one system, in which anyone may take the next step.  A
connection of the endpoint comes from one session of one client, or from somebody else.  How messages are
framed on the stream is left to a `LengthDelimitedCodec`, of which it is assumed that it makes no other
message out of what has arrived.  Whatever has happened, a client that is connected under an id is one
that the endpoint has given this id to, on this very connection, and nobody else has ever had it
(`client_ids_agree`).

The counter of ids is a `u64`, and adding to it past the end is a panic; so there is no such step.
-/

set_option autoImplicit false

namespace BevyIroh

open Bytes Transition

/-! ## The message -/

/-- `CLIENT_ID_LEN`. -/
def clientIdLen : ℕ := 8

/-- What `spawn_client_id_sender` sends. -/
def clientIdMessage (clientId : ClientId) : Bytes := putUint [] clientId clientIdLen

/-- What `receive_client_id` makes of a message; `none` is the panic of a read past the end. -/
def ClientIdReception.ofMessage (msgBytes : Bytes) : Option ClientIdReception :=
  if clientIdLen ≤ msgBytes.length then
    (getUint clientIdLen msgBytes).map fun (clientId, _) ↦ .retrieved clientId
  else some (.failed .invalidClientId)

theorem length_clientIdMessage (clientId : ClientId) :
    (clientIdMessage clientId).length = clientIdLen := length_beBytes clientId clientIdLen

/-- **An id is read as it was written**, whatever `u64` it is. -/
theorem ofMessage_clientIdMessage {clientId : ClientId} (h : clientId < 2 ^ 64) :
    ClientIdReception.ofMessage (clientIdMessage clientId) = some (.retrieved clientId) := by
  have hlen := length_clientIdMessage clientId
  have hread : beNat ((clientIdMessage clientId).take clientIdLen) = clientId := by
    rw [List.take_of_length_le hlen.le, clientIdMessage, putUint, List.nil_append, beNat_beBytes]
    exact Nat.mod_eq_of_lt h
  rw [ClientIdReception.ofMessage, if_pos hlen.ge, getUint_of_le hlen.ge, hread]
  rfl

/-! ## Frames on a stream -/

/-- How messages are put on a stream and taken from it. -/
structure LengthDelimitedCodec where
  /-- What the sender writes for a message. -/
  encode : Bytes → Bytes
  /-- The first message that the receiver takes from what has arrived; it waits if there is none. -/
  next : Bytes → Option Bytes

namespace LengthDelimitedCodec

/-- The longest message that is allowed by default. -/
def maxFrameLength : ℕ := 8 * 1024 * 1024

/-- A message is taken from the stream when all of its frame has arrived, and nothing before. -/
structure RoundTrips (codec : LengthDelimitedCodec) : Prop where
  next_encode : ∀ {msg}, msg.length ≤ maxFrameLength → codec.next (codec.encode msg) = some msg
  next_of_incomplete : ∀ {msg b}, msg.length ≤ maxFrameLength → b <+: codec.encode msg →
    b ≠ codec.encode msg → codec.next b = none

variable {codec : LengthDelimitedCodec}

/-- What is taken from the beginning of a frame is the message. -/
theorem RoundTrips.eq_of_next (h : codec.RoundTrips) {msg msg' b : Bytes}
    (hlen : msg.length ≤ maxFrameLength) (hb : b <+: codec.encode msg) (hnext : codec.next b = some msg') :
    msg' = msg := by
  by_cases hall : b = codec.encode msg
  · rw [hall, h.next_encode hlen] at hnext
    exact (Option.some.inj hnext).symm
  · rw [h.next_of_incomplete hlen hb hall] at hnext
    cases hnext

/-- The codec by default: a frame is the length of the message, in four bytes, and the message. -/
def new : LengthDelimitedCodec where
  encode msg := putUint [] msg.length 4 ++ msg
  next b :=
    match getUint 4 b with
    | none => none
    | some (n, rest) => if maxFrameLength < n then none else (splitTo n rest).map Prod.fst

/-- The length is known with the fourth byte. -/
theorem next_new {msg b : Bytes} (hlen : msg.length ≤ maxFrameLength) (hb : b <+: new.encode msg)
    (hhead : 4 ≤ b.length) : new.next b = (splitTo msg.length (b.drop 4)).map Prod.fst := by
  have htake : b.take 4 = beBytes msg.length 4 := by
    obtain ⟨rest, hrest⟩ := hb
    have hfirst : (b ++ rest).take 4 = b.take 4 := List.take_append_of_le_length hhead
    rw [← hfirst, hrest]
    exact List.take_left' (length_beBytes msg.length 4)
  have hlength : beNat (b.take 4) = msg.length := by
    rw [htake, beNat_beBytes]
    exact Nat.mod_eq_of_lt (hlen.trans_lt (by decide))
  simp only [new, getUint_of_le hhead, hlength, if_neg (Nat.not_lt.2 hlen)]

theorem roundTrips_new : new.RoundTrips := by
  have hlength : ∀ msg : Bytes, (new.encode msg).length = 4 + msg.length := fun msg ↦ by
    simp [new, putUint]
  refine ⟨fun {msg} hlen ↦ ?_, fun {msg b} hlen hb hne ↦ ?_⟩
  · have hmsg : (new.encode msg).drop 4 = msg := List.drop_left' (length_beBytes msg.length 4)
    rw [next_new hlen List.prefix_rfl (by rw [hlength]; exact Nat.le_add_right 4 _), hmsg,
      splitTo_of_le le_rfl, List.take_length]
    rfl
  · by_cases hhead : 4 ≤ b.length
    · have hlt : b.length < 4 + msg.length := by
        rw [← hlength]
        exact lt_of_le_of_ne hb.length_le fun heq ↦ hne (hb.eq_of_length heq)
      rw [next_new hlen hb hhead, splitTo, if_neg (by rw [List.length_drop]; omega)]
      rfl
    · simp only [new, getUint, if_neg hhead]

end LengthDelimitedCodec

/-! ## The endpoint and its clients -/

/-- A server endpoint and its clients. -/
structure Network where
  server : ServerSessions
  /-- The connections that clients open, each with its sessions.  One that is opened later has taken no
  step before. -/
  clients : ℕ → Sessions
  /-- The client and the session that a connection of the endpoint comes from, if it is one of them. -/
  origin : ℕ → Option (ℕ × ℕ)
  /-- The id that a connection of the endpoint was given. -/
  assigned : ℕ → Option ClientId
  /-- What has been written to the stream of a connection on which the id is sent. -/
  idStream : ℕ → Bytes

namespace Network

/-- The beginning: no client has reached the endpoint. -/
def start (recvChannelsCfg : RecvChannelsConfiguration)
    (openedChannels : HashMap ChannelId ChannelConfig) (clients : ℕ → Sessions) : Network where
  server := .start recvChannelsCfg openedChannels
  clients := clients
  origin _ := none
  assigned _ := none
  idStream _ := []

/-- What `receive_client_id` may return in session `n` of client `c`.  The stream is seen when something
has been written to it, and of what was written the beginning has arrived. -/
inductive Receives (codec : LengthDelimitedCodec) (s : Network) (c n : ℕ) : ClientIdReception → Prop
  | interrupted : Receives codec s c n .interrupted
  /-- There is no stream, or no message on it. -/
  | failed {err : IrohConnectionError} (herr : err ≠ .invalidClientId) : Receives codec s c n (.failed err)
  | message {k : ℕ} {b msgBytes : Bytes} {r : ClientIdReception} (hk : s.origin k = some (c, n))
      (hb : b <+: s.idStream k) (hne : b ≠ []) (hnext : codec.next b = some msgBytes)
      (hr : ClientIdReception.ofMessage msgBytes = some r) : Receives codec s c n r

inductive Action where
  | accept (origin : Option (ℕ × ℕ))
  | handleNewConnection (k : ℕ)
  | idWrite (k : ℕ)
  | idSend (k : ℕ)
  | abandon (k : ℕ)
  | server (a : ServerSessions.Action)
  | client (c : ℕ) (a : Sessions.Action)

/-- What the endpoint and the tasks of its connections do, but for what is an action of its own. -/
def OfServer : ServerSessions.Action → Prop
  | .accept => False
  | .handle (.clientConnected _) => False
  | .session _ (.idSend false) => False
  | _ => True

inductive Step (codec : LengthDelimitedCodec) : Network → Action → Network → Prop
  /-- A connection comes in.  No session has more than one. -/
  | accept {s : Network} {server : ServerSessions} (origin : Option (ℕ × ℕ))
      (hnew : ∀ c n, origin = some (c, n) → n ≤ (s.clients c).current ∧ ∀ k, s.origin k ≠ some (c, n))
      (h : ServerSessions.Step true s.server .accept server) :
      Step codec s (.accept origin)
        { s with server, origin := Function.update s.origin s.server.accepted origin }
  | handleNewConnection {s : Network} {k : ℕ} {q : Mpsc EndpointMessage} {order : List ChannelId}
      (receivers : Bool) (hq : s.server.fromAsyncEndpoint.recv = some (.clientConnected k, q))
      (ho : s.server.openedChannels.IsOrder order)
      (hgen : s.server.CountsOn
        (ServerSessions.handleNewConnection { s.server with fromAsyncEndpoint := q } order receivers k).2) :
      Step codec s (.handleNewConnection k)
        { s with
          server := (ServerSessions.handleNewConnection { s.server with fromAsyncEndpoint := q }
            order receivers k).2
          assigned := ServerSessions.assign s.assigned k
            (ServerSessions.handleNewConnection { s.server with fromAsyncEndpoint := q }
              order receivers k).1 }
  /-- More of the frame is written. -/
  | idWrite {s : Network} {k : ℕ} {clientId : ClientId} {b : Bytes}
      (h : (s.server.conns k).idSender = .sending) (hid : (s.server.conns k).clientId = some clientId)
      (hb : s.idStream k <+: b) (hframe : b <+: codec.encode (clientIdMessage clientId)) :
      Step codec s (.idWrite k) { s with idStream := Function.update s.idStream k b }
  /-- All of it was written. -/
  | idSend {s : Network} {k : ℕ} {clientId : ClientId} {server : ServerSessions}
      (hid : (s.server.conns k).clientId = some clientId)
      (hb : s.idStream k = codec.encode (clientIdMessage clientId))
      (h : ServerSessions.Step true s.server (.session k (.idSend false)) server) :
      Step codec s (.idSend k) { s with server }
  /-- `client_connection_task` is dropped before it has an answer. -/
  | abandon {s : Network} {k : ℕ} (hk : k < s.server.accepted)
      (h : (s.server.conns k).task = .signaling ∨ (s.server.conns k).task = .waiting) :
      Step codec s (.abandon k)
        { s with server := s.server.withSession k (s.server.conns k).taskEnded }
  | server {s : Network} {a : ServerSessions.Action} {server : ServerSessions} (ha : OfServer a)
      (h : ServerSessions.Step true s.server a server) : Step codec s (.server a) { s with server }
  | client {s : Network} {c : ℕ} {a : Sessions.Action} {t : Sessions}
      (ha : ∀ n r, a = .task n (.receiveClientId r) → s.Receives codec c n r)
      (h : Sessions.Step true (s.clients c) a t) :
      Step codec s (.client c a) { s with clients := Function.update s.clients c t }

variable {codec : LengthDelimitedCodec} {s s' : Network} {a : Action}

/-! ## What a step keeps -/

/-- Connections stay where they come from, and keep their ids. -/
structure Grows (s s' : Network) : Prop where
  origin : ∀ {k c n}, s.origin k = some (c, n) → s'.origin k = some (c, n)
  assigned : ∀ {k id}, s.assigned k = some id → s'.assigned k = some id

/-- The session was told the id that its connection was given. -/
def Tells (s : Network) (c n : ℕ) (id : ClientId) : Prop :=
  ∃ k, s.origin k = some (c, n) ∧ s.assigned k = some id

theorem Grows.tells (h : s.Grows s') {c n : ℕ} {id : ClientId} : s.Tells c n id → s'.Tells c n id :=
  fun ⟨k, hk, hid⟩ ↦ ⟨k, h.origin hk, h.assigned hid⟩

theorem Grows.trans {s'' : Network} (h : s.Grows s') (h' : s'.Grows s'') : s.Grows s'' :=
  ⟨fun hk ↦ h'.origin (h.origin hk), fun hid ↦ h'.assigned (h.assigned hid)⟩

/-- On its way from the endpoint to the client an id stays with its connection. -/
structure Agreed (codec : LengthDelimitedCodec) (s : Network) : Prop where
  answered : s.server.Answered s.assigned
  idStream : ∀ {k}, s.idStream k ≠ [] → ∃ id, s.assigned k = some id ∧
    s.idStream k <+: codec.encode (clientIdMessage id)
  /-- Only connections that have come in come from somewhere. -/
  accepted : ∀ {k c n}, s.origin k = some (c, n) → k < s.server.accepted
  injective : ∀ {k k' c n}, s.origin k = some (c, n) → s.origin k' = some (c, n) → k = k'
  told : ∀ c, (s.clients c).Told (s.Tells c)

theorem agreed_start {recvChannelsCfg : RecvChannelsConfiguration}
    {openedChannels : HashMap ChannelId ChannelConfig} {clients : ℕ → Sessions}
    (h : ∀ c, (clients c).Opened) : (start recvChannelsCfg openedChannels clients).Agreed codec where
  answered := ServerSessions.answered_start recvChannelsCfg openedChannels
  idStream h := absurd rfl h
  accepted := nofun
  injective := nofun
  told c := Sessions.told_of_opened (h c) _

/-- What a session receives is the id that its connection was given. -/
theorem Agreed.tells_of_receives (h : s.Agreed codec) (hcodec : codec.RoundTrips) {c n : ℕ}
    {id : ClientId} (hr : s.Receives codec c n (.retrieved id)) : s.Tells c n id := by
  cases hr with
  | @message k b msgBytes _ hk hb hne hnext hr =>
    obtain ⟨id', hid', hframe⟩ := h.idStream fun hnil ↦ hne (List.prefix_nil.1 (hnil ▸ hb))
    have hlen : (clientIdMessage id').length ≤ LengthDelimitedCodec.maxFrameLength := by
      rw [length_clientIdMessage]
      decide
    rw [hcodec.eq_of_next hlen (hb.trans hframe) hnext,
      ofMessage_clientIdMessage (h.answered.fits hid')] at hr
    obtain rfl : id' = id := by simpa using hr
    exact ⟨k, hk, hid'⟩

/-- The connections that a step does not give an id, and the sessions that it leaves alone. -/
theorem Agreed.withServer (h : s.Agreed codec) {server : ServerSessions}
    (hserver : server.Answered s.assigned) (haccepted : server.accepted = s.server.accepted) :
    Agreed codec { s with server } :=
  { h with answered := hserver, accepted := fun hk ↦ haccepted ▸ h.accepted hk }

/-- A step that the endpoint and its connections take among themselves. -/
theorem Agreed.server (h : s.Agreed codec) {a : ServerSessions.Action} {server : ServerSessions}
    (ha : ∀ n, a ≠ .handle (.clientConnected n)) (haccept : a ≠ .accept)
    (hstep : ServerSessions.Step true s.server a server) : Agreed codec { s with server } :=
  h.withServer (h.answered.step hstep ha) (ServerSessions.accepted_step hstep haccept)

/-- A connection comes in, from a session that has none. -/
theorem Agreed.accept (h : s.Agreed codec) {server : ServerSessions} {origin : Option (ℕ × ℕ)}
    (hnew : ∀ c n, origin = some (c, n) → ∀ k, s.origin k ≠ some (c, n))
    (hstep : ServerSessions.Step true s.server .accept server) :
    Agreed codec { s with server, origin := Function.update s.origin s.server.accepted origin } ∧
      s.Grows { s with server, origin := Function.update s.origin s.server.accepted origin } := by
  have hnone : s.origin s.server.accepted = none := by
    cases horigin : s.origin s.server.accepted with
    | none => rfl
    | some p => exact absurd (h.accepted (c := p.1) (n := p.2) horigin) (Nat.lt_irrefl _)
  have hgrows : s.Grows
      { s with server, origin := Function.update s.origin s.server.accepted origin } :=
    ⟨update_eq_some_of_none hnone, id⟩
  have haccepted : server.accepted = s.server.accepted + 1 := by
    cases hstep
    rfl
  refine ⟨⟨h.answered.step hstep (by rintro n ⟨⟩), h.idStream, fun hk ↦ ?_, fun hk hk' ↦ ?_,
    fun c ↦ (h.told c).mono hgrows.tells⟩, hgrows⟩
  · rw [haccepted]
    rcases update_eq_some hk with ⟨rfl, -⟩ | hk
    · exact Nat.lt_succ_self _
    · exact Nat.lt_succ_of_lt (h.accepted hk)
  · rcases update_eq_some hk with ⟨hka, horigin⟩ | hk <;>
      rcases update_eq_some hk' with ⟨hka', horigin'⟩ | hk'
    · exact hka.trans hka'.symm
    · exact absurd hk' (hnew _ _ horigin _)
    · exact absurd hk (hnew _ _ horigin' _)
    · exact h.injective hk hk'

/-- A connection is accepted or refused. -/
theorem Agreed.assign (h : s.Agreed codec) {server : ServerSessions} {k : ℕ}
    {result : Except AsyncChannelError ClientId} (hnone : s.assigned k = none)
    (hserver : server.Answered (ServerSessions.assign s.assigned k result))
    (haccepted : server.accepted = s.server.accepted) :
    Agreed codec { s with server, assigned := ServerSessions.assign s.assigned k result } ∧
      s.Grows { s with server, assigned := ServerSessions.assign s.assigned k result } := by
  have hgrows : s.Grows { s with server, assigned := ServerSessions.assign s.assigned k result } :=
    ⟨id, ServerSessions.assign_eq_some hnone result⟩
  refine ⟨⟨hserver, fun hk ↦ ?_, fun hk ↦ haccepted ▸ h.accepted hk, h.injective,
    fun c ↦ (h.told c).mono hgrows.tells⟩, hgrows⟩
  exact (h.idStream hk).imp fun id hid ↦ hid.imp_left hgrows.assigned

/-- More of the frame for the id is written. -/
theorem Agreed.idWrite (h : s.Agreed codec) {k : ℕ} {clientId : ClientId} {b : Bytes}
    (hid : (s.server.conns k).clientId = some clientId)
    (hframe : b <+: codec.encode (clientIdMessage clientId)) :
    Agreed codec { s with idStream := Function.update s.idStream k b } := by
  refine { h with idStream := fun {k'} (hk' : Function.update s.idStream k b k' ≠ []) ↦ ?_ }
  show ∃ id, s.assigned k' = some id ∧ Function.update s.idStream k b k' <+: _
  rw [Function.update_apply] at hk' ⊢
  split_ifs at hk' ⊢ with hkk
  · exact ⟨clientId, hkk ▸ (h.answered.each k).clientId hid, hframe⟩
  · exact h.idStream hk'

/-- **What one step does.** -/
theorem Agreed.step (h : s.Agreed codec) (hcodec : codec.RoundTrips) (hstep : Step codec s a s') :
    s'.Agreed codec ∧ s.Grows s' := by
  cases hstep with
  | accept origin hnew hserver => exact h.accept (fun c n horigin ↦ (hnew c n horigin).2) hserver
  | handleNewConnection receivers hq ho hgen =>
    have hhandled : ServerSessions.Step true s.server (.handle (.clientConnected _)) _ :=
      .handle receivers hq ho
    exact h.assign (h.answered.not_assigned hq) (h.answered.handleNewConnection hq hgen)
      (ServerSessions.accepted_step hhandled (by rintro ⟨⟩))
  | idWrite hsending hid hb hframe => exact ⟨h.idWrite hid hframe, id, id⟩
  | idSend hid hb hserver => exact ⟨h.server (by rintro n ⟨⟩) (by rintro ⟨⟩) hserver, id, id⟩
  | @abandon k hk htask =>
    refine ⟨h.withServer (h.answered.withSession (h.answered.each k).taskEnded ?_) rfl, id, id⟩
    rintro ⟨⟩
  | @server a server ha hserver =>
    refine ⟨h.server ?_ ?_ hserver, id, id⟩
    · rintro n rfl
      exact ha
    · rintro rfl
      exact ha
  | @client c a t ha hclient =>
    refine ⟨{ h with told := fun c' ↦ ?_ }, id, id⟩
    show (Function.update s.clients c t c').Told (s.Tells c')
    rw [Function.update_apply]
    split_ifs with hc
    · subst hc
      exact (h.told c').step hclient fun n id hid ↦ h.tells_of_receives hcodec (ha n _ hid)
    · exact h.told c'

/-! ## All runs -/

/-- The client is connected, in its session `n` and under this id. -/
def Holds (s : Network) (c n : ℕ) (id : ClientId) : Prop :=
  (s.clients c).current = n ∧ (s.clients c).held.state = .connected (some id)

theorem Agreed.tells_of_holds (h : s.Agreed codec) {c n : ℕ} {id : ClientId} (hs : s.Holds c n id) :
    s.Tells c n id := by
  obtain ⟨rfl, hstate⟩ := hs
  exact (h.told c).session.state hstate

theorem Agreed.reachable (h : s.Agreed codec) (hcodec : codec.RoundTrips)
    (hs : Reachable (Step codec) (fun _ _ ↦ True) s s') : s'.Agreed codec ∧ s.Grows s' :=
  hs.invariant (P := fun s' ↦ s'.Agreed codec ∧ s.Grows s') ⟨h, id, id⟩ fun hs _ hstep ↦
    (hs.1.step hcodec hstep).imp_right hs.2.trans

/-- **Client ids agree.**  In every state of every run a client that is connected under an id was given
that id by the endpoint, on the connection of its session; and from then on no other connection has the
id, and no other session of any client is connected under it. -/
theorem client_ids_agree {recvChannelsCfg : RecvChannelsConfiguration}
    {openedChannels : HashMap ChannelId ChannelConfig} {clients : ℕ → Sessions}
    (hcodec : codec.RoundTrips) (hclients : ∀ c, (clients c).Opened)
    (h : Reachable (Step codec) (fun _ _ ↦ True) (start recvChannelsCfg openedChannels clients) s) :
    (∀ c n id, s.Holds c n id →
      ∃ k, (∀ k', s.origin k' = some (c, n) ↔ k' = k) ∧ s.assigned k = some id) ∧
    (∀ id k, s.server.clients.lookup id = some k → s.assigned k = some id) ∧
    ∀ s', Reachable (Step codec) (fun _ _ ↦ True) s s' →
      (∀ k id, s.assigned k = some id → ∀ k', s'.assigned k' = some id ↔ k' = k) ∧
      ∀ c n c' n' id, s.Holds c n id → s'.Holds c' n' id → c' = c ∧ n' = n := by
  have hs := ((agreed_start hclients).reachable hcodec h).1
  refine ⟨fun c n id hholds ↦ ?_, fun _ _ ↦ hs.answered.clients, fun s' h' ↦ ?_⟩
  · obtain ⟨k, hk, hid⟩ := hs.tells_of_holds hholds
    exact ⟨k, fun k' ↦ ⟨fun hk' ↦ hs.injective hk' hk, fun hk' ↦ hk' ▸ hk⟩, hid⟩
  · obtain ⟨hs', hgrows⟩ := hs.reachable hcodec h'
    refine ⟨fun k id hid k' ↦ ⟨fun hid' ↦ ?_, fun hk' ↦ hk' ▸ hgrows.assigned hid⟩,
      fun c n c' n' id hholds hholds' ↦ ?_⟩
    · exact hs'.answered.issued.injective hid' (hgrows.assigned hid)
    · obtain ⟨k, hk, hid⟩ := hs.tells_of_holds hholds
      obtain ⟨k', hk', hid'⟩ := hs'.tells_of_holds hholds'
      obtain rfl : k' = k := hs'.answered.issued.injective hid' (hgrows.assigned hid)
      have hsame := Option.some.inj (hk'.symm.trans (hgrows.origin hk))
      exact ⟨congrArg Prod.fst hsame, congrArg Prod.snd hsame⟩

/-- A connection is refused and uses up an id; then a client gets the next one. -/
theorem client_ids_agree_refused : ∃ s,
    Reachable (Step .new) (fun _ _ ↦ True) (start {} ∅ fun _ ↦ .start 0 .new {} .opened) s ∧
      s.Holds 0 0 2 ∧ s.assigned 0 = none ∧ s.assigned 1 = some 2 ∧
      ∀ s', Reachable (Step .new) (fun _ _ ↦ True) s s' →
        ∀ c n, s'.Holds c n 2 → c = 0 ∧ n = 0 := by
  have hstart : Reachable (Step .new) (fun _ _ ↦ True)
    (start {} ∅ fun _ ↦ .start 0 .new {} .opened) _ := .start
  have haccepted := hstart.next trivial (.accept none nofun (.accept _))
  have hsignaled := haccepted.next trivial
    (.server (by trivial) (.signal (n := 0) Nat.one_pos rfl (by decide)))
  have habandoned := hsignaled.next trivial (.abandon (k := 0) Nat.one_pos (.inr rfl))
  have hrefused := habandoned.next trivial (.handleNewConnection true rfl HashMap.isOrder_empty (by decide))
  have hestablished := hrefused.next trivial
    (.client (c := 0) (by rintro _ _ ⟨⟩) (.task (n := 0) le_rfl (by trivial) (.established rfl)))
  have hwatched := hestablished.next trivial
    (.client (c := 0) (by rintro _ _ ⟨⟩) (.task (n := 0) le_rfl (by trivial) (.spawnWatcher rfl)))
  have hreceiving := hwatched.next trivial
    (.client (c := 0) (by rintro _ _ ⟨⟩) (.task (n := 0) le_rfl (by trivial) (.spawnRecv rfl)))
  have hspawned := hreceiving.next trivial
    (.client (c := 0) (by rintro _ _ ⟨⟩) (.task (n := 0) le_rfl (by trivial) (.spawnSpawner rfl)))
  have haccepted' := hspawned.next trivial (.accept (some (0, 0))
    (by rintro _ _ ⟨⟩; exact ⟨le_rfl, fun _ hk ↦ (update_eq_some hk).elim nofun nofun⟩) (.accept _))
  have hsignaled' := haccepted'.next trivial
    (.server (by trivial) (.signal (n := 1) Nat.one_lt_two rfl (by decide)))
  have hassigned := hsignaled'.next trivial (.handleNewConnection true rfl HashMap.isOrder_empty (by decide))
  have hacked := hassigned.next trivial
    (.server (by trivial) (.session (n := 1) Nat.one_lt_two (.recvAck rfl rfl)))
  have hsender := hacked.next trivial
    (.server (by trivial) (.session (n := 1) Nat.one_lt_two (.spawnIdSender rfl)))
  have hopened := hsender.next trivial
    (.server (by trivial) (.session (n := 1) Nat.one_lt_two (.idOpen false rfl)))
  have hwritten := hopened.next trivial (.idWrite (k := 1) rfl rfl List.nil_prefix List.prefix_rfl)
  have hsent := hwritten.next trivial
    (.idSend (k := 1) rfl rfl (.session Nat.one_lt_two (.idSend false rfl)))
  have hreceived := hsent.next trivial
    (.client (c := 0) (a := .task 0 (.receiveClientId (.retrieved 2)))
      (by
        rintro _ _ ⟨⟩
        exact .message (k := 1) rfl List.prefix_rfl (by decide) rfl rfl)
      (.task le_rfl (by trivial) (.receiveClientId _ rfl nofun)))
  have hreported := hreceived.next trivial
    (.client (c := 0) (by rintro _ _ ⟨⟩)
      (.task (n := 0) le_rfl (by trivial) (.signal rfl (by decide))))
  have hbegun := hreported.next trivial
    (.client (c := 0) (a := .sync (.session .beginFrame)) (by rintro _ _ ⟨⟩)
      (.sync ⟨id, by rintro ⟨⟩⟩ (.session ⟨.beginFrame rfl, by rintro ⟨⟩⟩)))
  have hconnected := hbegun.next trivial
    (.client (c := 0) (a := .sync (.session (.handleAsync true))) (by rintro _ _ ⟨⟩)
      (.sync ⟨id, by rintro ⟨⟩⟩ (.session ⟨.handleAsync true rfl rfl fun _ ↦ rfl, by rintro ⟨⟩⟩)))
  obtain ⟨s, hrun, hholds, hnone, hid⟩ : ∃ s,
      Reachable (Step .new) (fun _ _ ↦ True) (start {} ∅ fun _ ↦ .start 0 .new {} .opened) s ∧
        s.Holds 0 0 2 ∧ s.assigned 0 = none ∧ s.assigned 1 = some 2 :=
    ⟨_, hconnected, ⟨rfl, rfl⟩, rfl, rfl⟩
  refine ⟨s, hrun, hholds, hnone, hid, fun s' h' c n ↦ ?_⟩
  exact ((client_ids_agree LengthDelimitedCodec.roundTrips_new
    (fun _ ↦ ⟨0, .new, {}, .opened, ClientSideConnection.openConnection_opened, rfl⟩) hrun).2.2 s' h').2
    0 0 c n 2 hholds

end Network

end BevyIroh
