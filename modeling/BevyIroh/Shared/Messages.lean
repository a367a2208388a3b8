import BevyIroh.Shared.Conversation

/-!
# Messages of a type

On both sides of a connection there are calls that send a message of some type and calls that read
one.  A message is serialized before it is sent as a payload, and a payload is deserialized after it
was read; so the errors of these calls are those of the payload calls, and one more.  The serializer is
a parameter (`MessageCodec`).

`MessageCalls` is what is common to the two sides, and `MessageCalls.Faithful` says what becomes of a
connection in such a call: it is left as it is, or a payload is sent, or read, with the serializer
between the two.  `Chat` is a conversation (`BevyIroh.Shared.Conversation`) in which one channel is used
for messages of one type.
-/

set_option autoImplicit false

namespace BevyIroh

open Transition PeerConnection

/-- The serialization of the messages of a type.  `decode` also says how many bytes it has read. -/
structure MessageCodec (T E D : Type) where
  encode : T → Except E Bytes
  decode : Bytes → Except D (T × ℕ)

namespace MessageCodec

variable {T E D : Type}

/-- What was serialized is deserialized to what it was. -/
def RoundTrip (codec : MessageCodec T E D) : Prop :=
  ∀ message payload, codec.encode message = .ok payload → ∃ n, codec.decode payload = .ok (message, n)

/-- The message in a payload, if there is one. -/
def read (codec : MessageCodec T E D) (payload : Bytes) : Option T :=
  match codec.decode payload with
  | .ok (message, _) => some message
  | .error _ => none

theorem RoundTrip.read {codec : MessageCodec T E D} (h : codec.RoundTrip) {message : T}
    {payload : Bytes} (hm : codec.encode message = .ok payload) :
    codec.read payload = some message := by
  obtain ⟨n, hn⟩ := h message payload hm
  rw [MessageCodec.read, hn]

end MessageCodec

/-! ## Calls -/

/-- The calls that send a message on a channel of a connection, and those that read one. -/
structure MessageCalls (S T : Type) where
  /-- The connection before the call, whether the message was accepted, and the connection after it. -/
  Sends : PeerConnection S → ChannelId → T → Bool → PeerConnection S → Prop
  /-- What was read: no message, or one, or a payload that is not a message. -/
  Receives : PeerConnection S → ChannelId → Option (Option T) → PeerConnection S → Prop

/-- The calls do nothing to a connection but send the serialized message, and read a payload and
deserialize it. -/
structure MessageCalls.Faithful {S T E D : Type} (calls : MessageCalls S T)
    (codec : MessageCodec T E D) : Prop where
  sends : ∀ {c c' : PeerConnection S} {id : ChannelId} {message : T} {ok : Bool},
    calls.Sends c id message ok c' → ok = false ∧ c' = c ∨
      ∃ payload, codec.encode message = .ok payload ∧ c' = (c.internalSendPayload id payload).2 ∧
        (ok = true ↔ (c.internalSendPayload id payload).1 = .ok ())
  receives : ∀ {c c' : PeerConnection S} {id : ChannelId} {read : Option (Option T)},
    calls.Receives c id read c' → read = none ∧ c' = c ∨
      c' = (c.internalReceivePayload id).2 ∧ read = (c.internalReceivePayload id).1.map codec.read

/-! ## The system -/

/-- A conversation in which the near end sends messages on a channel, and the far end reads them. -/
structure Chat (S R T : Type) where
  conversation : Conversation S R
  /-- The messages that were accepted, oldest first. -/
  said : List T := []
  /-- What was read: `none` is a payload that is not a message. -/
  heard : List (Option T) := []

inductive ChatAct (T : Type) where
  | say (message : T)
  | hear
  | other (a : ConversationAct)

/-- Not by the calls that are for the messages of this channel. -/
def ConversationAct.Apart (id : ChannelId) : ConversationAct → Prop
  | .near (.delivery (.link (.send i _))) => i ≠ id
  | .far (.reads (.receive i)) => i ≠ id
  | _ => True

namespace Chat

variable {S R T E D : Type}

def start (near : S) (nearCfg : RecvChannelsConfiguration) (far : R)
    (farCfg : RecvChannelsConfiguration) : Chat S R T where
  conversation := .start near nearCfg far farCfg

def near (c : Chat S R T) : Peer S := c.conversation.near

def far (c : Chat S R T) : Peer R := c.conversation.far

/-- After a message was accepted, or refused. -/
def afterSaying (c : Chat S R T) (codec : MessageCodec T E D) (id : ChannelId) (message : T) (ok : Bool)
    (conn : PeerConnection S) : Chat S R T :=
  { c with
    conversation.near.delivery.link.conn := conn
    conversation.near.delivery.accepted := c.near.delivery.accepted ++
      if ok then ((codec.encode message).toOption.map (id, ·)).toList else []
    said := c.said ++ if ok then [message] else [] }

/-- After something was read, or nothing. -/
def afterHearing (c : Chat S R T) (id : ChannelId) (read : Option (Option T))
    (conn : PeerConnection R) : Chat S R T :=
  { c with
    conversation.far.delivery.link.conn := conn
    conversation.far.handedOut := Function.update c.far.handedOut id (c.far.handedOut id ++
      if read.isSome then (c.far.conn.internalReceivePayload id).1.toList else [])
    heard := c.heard ++ read.toList }

inductive Step (sends : MessageCalls S T) (receives : MessageCalls R T) (codec : MessageCodec T E D)
    (id : ChannelId) : Chat S R T → ChatAct T → Chat S R T → Prop
  | say {c : Chat S R T} {message : T} {ok : Bool} {conn : PeerConnection S}
      (ha : c.near.delivery.link.Alive) (h : sends.Sends c.near.conn id message ok conn) :
      Step sends receives codec id c (.say message) (c.afterSaying codec id message ok conn)
  | hear {c : Chat S R T} {read : Option (Option T)} {conn : PeerConnection R}
      (ha : c.far.delivery.link.Alive) (hd : c.far.dispatching = false)
      (h : receives.Receives c.far.conn id read conn) :
      Step sends receives codec id c .hear (c.afterHearing id read conn)
  | other {c : Chat S R T} {a : ConversationAct} {conversation : Conversation S R} (ha : a.Apart id)
      (h : Conversation.Step c.conversation a conversation) :
      Step sends receives codec id c (.other a) { c with conversation }

/-- All that was read on the channel are messages, and they were said, in this order and each of them
once; and if no payload was lost at the far end they are the first that were said. -/
structure HeardInOrder (c : Chat S R T) (id : ChannelId) : Prop where
  said : ∃ messages : List T, c.heard = messages.map some ∧ messages.Sublist c.said
  lossless : c.far.Lossless id → ∃ messages : List T, c.heard = messages.map some ∧ messages <+: c.said

/-- As `Conversation.Orderly`: a message that is said fits, too. -/
def Orderly (codec : MessageCodec T E D) (id : ChannelId) (c : Chat S R T) : ChatAct T → Prop
  | .say message => ∀ payload, codec.encode message = .ok payload → c.near.delivery.Fits id payload
  | .hear => True
  | .other a => Conversation.Orderly id c.conversation a

/-! ## Runs -/

variable {sends : MessageCalls S T} {receives : MessageCalls R T} {codec : MessageCodec T E D}
  {id : ChannelId} {c c' : Chat S R T} {near : S} {far : R} {nearCfg farCfg : RecvChannelsConfiguration}

/-- What was said is what was accepted on the channel, and what was heard is what was read from it. -/
structure Told (codec : MessageCodec T E D) (id : ChannelId) (c : Chat S R T) : Prop where
  said : (c.near.delivery.acceptedFor id).map codec.read = c.said.map some
  heard : (c.far.handedOut id).map codec.read = c.heard

/-- A message that is sent is a payload that is sent. -/
theorem step_say {message : T} {payload : Bytes} {ok : Bool} (ha : c.near.delivery.link.Alive)
    (hm : codec.encode message = .ok payload)
    (hok : ok = true ↔ (c.near.conn.internalSendPayload id payload).1 = .ok ()) :
    Conversation.Step c.conversation (.near (.delivery (.link (.send id payload))))
      (c.afterSaying codec id message ok (c.near.conn.internalSendPayload id payload).2).conversation := by
  have hacts : Acts c.near c.far (.delivery (.link (.send id payload))) _ c.far :=
    .quiet (.link (.send _ id payload ha)) rfl rfl
      (c.near.conn.sameReceived_internalSendPayload id payload).sameArrived
  have haccepts : c.near.delivery.link.accepts (.send id payload) =
      if ok then ((codec.encode message).toOption.map (id, ·)).toList else [] := by
    rw [hm, Link.accepts]
    split <;> rename_i heq
    · rw [if_pos (hok.2 heq)]
      rfl
    · have hne : ¬ (c.near.conn.internalSendPayload id payload).1 = .ok () := by
        intro h
        cases h.symm.trans heq
      rw [if_neg fun h ↦ hne (hok.1 h)]
  rw [haccepts] at hacts
  exact .near hacts

/-- A message that is read is a payload that is read. -/
theorem step_hear (ha : c.far.delivery.link.Alive) (hd : c.far.dispatching = false) :
    Conversation.Step c.conversation (.far (.reads (.receive id)))
      (c.afterHearing id ((c.far.conn.internalReceivePayload id).1.map codec.read)
        (c.far.conn.internalReceivePayload id).2).conversation := by
  have hacts : Acts c.far c.near (.reads (.receive id)) _ c.near := .reads (.receive id ha hd)
  have hread : (if ((c.far.conn.internalReceivePayload id).1.map codec.read).isSome then
      (c.far.conn.internalReceivePayload id).1.toList else []) =
        (c.far.conn.internalReceivePayload id).1.toList := by
    cases (c.far.conn.internalReceivePayload id).1 <;> rfl
  rw [afterHearing, hread]
  exact .far hacts

/-- A call that is refused leaves everything as it was. -/
theorem afterSaying_refused (codec : MessageCodec T E D) (id : ChannelId) (message : T) :
    c.afterSaying codec id message false c.near.conn = c := by
  simp [afterSaying, near, Peer.conn]

theorem afterHearing_refused (id : ChannelId) : c.afterHearing id none c.far.conn = c := by
  simp [afterHearing, far, Peer.conn]

/-- What a step says or hears, it says or hears in a step of the conversation. -/
theorem Step.conversation {a : ChatAct T} (hs : sends.Faithful codec) (hr : receives.Faithful codec)
    (h : Step sends receives codec id c a c') : c'.conversation = c.conversation ∨
      ∃ b, Conversation.Step c.conversation b c'.conversation ∧
        (Orderly codec id c a → Conversation.Orderly id c.conversation b) := by
  cases h with
  | say ha h =>
    rcases hs.sends h with ⟨rfl, rfl⟩ | ⟨payload, hm, rfl, hok⟩
    · rw [afterSaying_refused]
      exact .inl rfl
    · exact .inr ⟨_, step_say ha hm hok, fun ho ↦ Conversation.orderly_send (ho payload hm)⟩
  | hear ha hd h =>
    rcases hr.receives h with ⟨rfl, rfl⟩ | ⟨rfl, rfl⟩
    · rw [afterHearing_refused]
      exact .inl rfl
    · exact .inr ⟨_, step_hear ha hd, fun _ ↦ trivial⟩
  | other ha h => exact .inr ⟨_, h, fun ho ↦ ho⟩

/-! ### What was said and heard -/

theorem acceptedFor_of_ne_send {d d' : Delivery S} {a : DeliveryAct} (h : Delivery.Step d a d')
    (ha : ∀ i p, a = .link (.send i p) → i ≠ id) : d'.acceptedFor id = d.acceptedFor id := by
  cases h with
  | @link b l h =>
    have hnone : (d.link.accepts b).filter (·.1 = id) = [] := by
      cases b with
      | send i p =>
        rw [Link.accepts]
        split
        · simp [ha i p rfl]
        · rfl
      | _ => rfl
    rw [Delivery.acceptedFor, List.filter_append, hnone, List.append_nil]
    rfl
  | _ => rfl

theorem handedOut_of_ne_receive {p p' : Peer S} {q q' : Peer R} {a : PeerAct} (h : Acts p q a p' q')
    (ha : ∀ i, a = .reads (.receive i) → i ≠ id) : p'.handedOut id = p.handedOut id := by
  cases h with
  | quiet | arrives => rfl
  | reads h =>
    cases h with
    | receive i => exact Function.update_of_ne (Ne.symm (ha i rfl)) _ _
    | _ => rfl

theorem handedOut_back {p p' : Peer S} {q q' : Peer R} {a : PeerAct} (h : Acts p q a p' q') :
    q'.handedOut = q.handedOut := by
  cases h with
  | quiet | arrives => rfl
  | reads => exact congrArg Receiving.handedOut (q.seen_receiving _)

/-- Nobody else says anything on this channel, or hears anything. -/
theorem told_of_apart {s s' : Conversation S R} {a : ConversationAct} (ha : a.Apart id)
    (h : Conversation.Step s a s') :
    s'.near.delivery.acceptedFor id = s.near.delivery.acceptedFor id ∧
      s'.far.handedOut id = s.far.handedOut id := by
  have howned : ∀ {d : Delivery S} {conn : PeerConnection S},
      { d with link.conn := conn }.acceptedFor id = d.acceptedFor id := rfl
  cases h with
  | near h =>
    refine ⟨?_, congrFun (handedOut_back h) id⟩
    rcases h.delivery_cases with ⟨b, rfl, hb⟩ | heq | ⟨conn, -, heq⟩
    · exact acceptedFor_of_ne_send hb fun i p hi ↦ by subst hi; exact ha
    · rw [heq]
    · rw [heq, howned]
  | far h =>
    refine ⟨?_, handedOut_of_ne_receive h fun i hi ↦ by subst hi; exact ha⟩
    rcases h.delivery_cases_back with heq | ⟨-, heq⟩ | ⟨conn, -, heq⟩
    · rw [heq]
    · rw [heq]
      rfl
    · rw [heq, howned]

theorem told_say {message : T} {ok : Bool} {conn : PeerConnection S} (hcodec : codec.RoundTrip)
    (hs : sends.Faithful codec) (ht : c.Told codec id) (h : sends.Sends c.near.conn id message ok conn) :
    (c.afterSaying codec id message ok conn).Told codec id := by
  refine ⟨?_, ht.heard⟩
  show (((c.near.delivery.accepted ++ _).filter (·.1 = id)).map Prod.snd).map codec.read =
    (c.said ++ _).map some
  rw [List.filter_append, List.map_append, List.map_append, List.map_append]
  refine congrArg₂ (· ++ ·) ht.said ?_
  rcases hs.sends h with ⟨rfl, -⟩ | ⟨payload, hm, -, -⟩
  · rfl
  · cases ok with
    | false => rfl
    | true => simp [hm, Except.toOption, hcodec.read hm]

theorem told_hear {read : Option (Option T)} {conn : PeerConnection R} (hr : receives.Faithful codec)
    (ht : c.Told codec id) (h : receives.Receives c.far.conn id read conn) :
    (c.afterHearing id read conn).Told codec id := by
  refine ⟨ht.said, ?_⟩
  show (Function.update c.far.handedOut id _ id).map codec.read = c.heard ++ read.toList
  rw [Function.update_self, List.map_append, ht.heard]
  refine congrArg (c.heard ++ ·) ?_
  rcases hr.receives h with ⟨rfl, -⟩ | ⟨-, rfl⟩
  · rfl
  · cases (c.far.conn.internalReceivePayload id).1 <;> rfl

theorem Step.told {a : ChatAct T} (hcodec : codec.RoundTrip) (hs : sends.Faithful codec)
    (hr : receives.Faithful codec) (ht : c.Told codec id) (h : Step sends receives codec id c a c') :
    c'.Told codec id := by
  cases h with
  | say ha h => exact told_say hcodec hs ht h
  | hear ha hd h => exact told_hear hr ht h
  | other ha h =>
    obtain ⟨haccepted, hhanded⟩ := told_of_apart ha h
    exact ⟨(congrArg _ haccepted).trans ht.said, (congrArg _ hhanded).trans ht.heard⟩

/-- What is said and heard in a chat is told in a run of its conversation. -/
theorem conversation_of_reachable (hcodec : codec.RoundTrip) (hs : sends.Faithful codec)
    (hr : receives.Faithful codec)
    (hrun : Reachable (Step sends receives codec id) (Orderly codec id)
      (start near nearCfg far farCfg) c) :
    Reachable Conversation.Step (Conversation.Orderly id) (.start near nearCfg far farCfg)
      c.conversation ∧ c.Told codec id := by
  refine hrun.invariant (P := fun c ↦ Reachable Conversation.Step (Conversation.Orderly id)
    (.start near nearCfg far farCfg) c.conversation ∧ c.Told codec id) ⟨.start, rfl, rfl⟩ ?_
  rintro c a c' ⟨hconversation, htold⟩ horderly hstep
  refine ⟨?_, hstep.told hcodec hs hr htold⟩
  rcases hstep.conversation hs hr with heq | ⟨b, hb, ho⟩
  · rwa [heq]
  · exact hconversation.next (ho horderly) hb

theorem heardInOrder_of_reachable (hcodec : codec.RoundTrip) (hs : sends.Faithful codec)
    (hr : receives.Faithful codec)
    (hrun : Reachable (Step sends receives codec id) (Orderly codec id)
      (start near nearCfg far farCfg) c) : c.HeardInOrder id := by
  obtain ⟨hconversation, htold⟩ := conversation_of_reachable hcodec hs hr hrun
  have hsaid : (c.conversation.near.delivery.acceptedFor id).map codec.read = c.said.map some :=
    htold.said
  refine ⟨?_, fun hl ↦ ?_⟩ <;> rw [← htold.heard]
  · have hsub := (Conversation.read_sublist_of_reachable hconversation).map codec.read
    rw [List.map_append, hsaid] at hsub
    obtain ⟨ms, hms, heq⟩ := List.sublist_map_iff.1 ((List.sublist_append_left _ _).trans hsub)
    exact ⟨ms, heq, hms⟩
  · have hle := (Conversation.read_isPrefix_of_reachable hconversation hl).map codec.read
    rw [List.append_assoc, List.map_append, hsaid] at hle
    obtain ⟨ms, hms, heq⟩ := List.prefix_map_iff.1 ((List.prefix_append _ _).trans hle)
    exact ⟨ms, heq, hms⟩

/-! ### One message is heard -/

section next

variable {c₀ : Chat S R T}

/-- What nobody says or hears is a part of the chat all the same. -/
theorem next_other {s : Conversation S R} {a : ConversationAct}
    (hr : Reachable (Step sends receives codec id) (Orderly codec id) c₀ c) (ha : a.Apart id)
    (ho : Conversation.Orderly id c.conversation a) (h : Conversation.Step c.conversation a s) :
    Reachable (Step sends receives codec id) (Orderly codec id) c₀ { c with conversation := s } :=
  hr.next (a := .other a) ho (.other ha h)

theorem next_hushed {s : Conversation S R}
    (hr : Reachable (Step sends receives codec id) (Orderly codec id) c₀ c)
    (hs : Reachable Conversation.Step (fun s a ↦ Conversation.Orderly id s a ∧ Conversation.Hushed a)
      c.conversation s) :
    Reachable (Step sends receives codec id) (Orderly codec id) c₀ { c with conversation := s } := by
  refine hs.invariant (P := fun s ↦ Reachable (Step sends receives codec id) (Orderly codec id) c₀
    { c with conversation := s }) hr ?_
  rintro s a s' hrun ⟨ho, hhushed⟩ hstep
  refine next_other (c := { c with conversation := s }) hrun ?_ ho hstep
  rcases a with (a | a) | (a | a)
  · cases a with
    | link b =>
      cases b with
      | send i payload => exact absurd rfl (hhushed i payload)
      | _ => trivial
    | _ => trivial
  · trivial
  · trivial
  · cases a with
    | receive i => exact hhushed.elim
    | _ => trivial

theorem next_say {message : T} {ok : Bool} {conn : PeerConnection S}
    (hr : Reachable (Step sends receives codec id) (Orderly codec id) c₀ c)
    (ha : c.near.delivery.link.Alive)
    (ho : ∀ payload, codec.encode message = .ok payload → c.near.delivery.Fits id payload)
    (h : sends.Sends c.near.conn id message ok conn) :
    Reachable (Step sends receives codec id) (Orderly codec id) c₀
      (c.afterSaying codec id message ok conn) :=
  hr.next (a := .say message) ho (.say ha h)

theorem next_hear {read : Option (Option T)} {conn : PeerConnection R}
    (hr : Reachable (Step sends receives codec id) (Orderly codec id) c₀ c)
    (ha : c.far.delivery.link.Alive) (hd : c.far.dispatching = false)
    (h : receives.Receives c.far.conn id read conn) :
    Reachable (Step sends receives codec id) (Orderly codec id) c₀ (c.afterHearing id read conn) :=
  hr.next (a := .hear) trivial (.hear ha hd h)

end next

/-- A channel is opened, and a message is said on it, if the calls do what they do on a connection that
works. -/
theorem exists_said (receives : MessageCalls R T) (near : S) (far : R) {message : T} {b : U8}
    (hm : codec.encode message = .ok [b])
    (hs : ∀ conn : PeerConnection S, conn.specific = near → sends.Sends conn 0 message
      (conn.internalSendPayload 0 [b]).1.isOk (conn.internalSendPayload 0 [b]).2) :
    ∃ c : Chat S R T, Reachable (Step sends receives codec 0) (Orderly codec 0)
      (start near {} far {}) c ∧ c.said = [message] ∧ c.heard = [] ∧ c.conversation =
        ⟨{ Peer.start near {} with delivery := Conversation.sent near b }, .start far {}⟩ := by
  have hopened : Reachable (Step sends receives codec 0) (Orderly codec 0) (start near {} far {}) _ :=
    next_other (s := ⟨{ Peer.start near {} with delivery := Conversation.opened near }, .start far {}⟩)
      (a := .near (.delivery (.link (.create 0 (.orderedReliable 4))))) .start (by trivial)
      (Conversation.orderly_create (d := .start near {}) 4 rfl) (.near (Conversation.acts_opened near _))
  have hsaid := next_say hopened rfl (fun payload h ↦ ?_) (hs _ rfl)
  · refine ⟨_, hsaid, rfl, rfl, ?_⟩
    rw [afterSaying, hm]
    rfl
  · obtain rfl : [b] = payload := Except.ok.inj (hm.symm.trans h)
    exact Conversation.fits_opened near b

/-- And it is heard. -/
theorem exists_heard (sends : MessageCalls S T) (receives : MessageCalls R T)
    (codec : MessageCodec T E D) (near : S) (far : R) {message : T} {b : U8} (hm : codec.encode message = .ok [b])
    (hs : ∀ conn : PeerConnection S, conn.specific = near → sends.Sends conn 0 message
      (conn.internalSendPayload 0 [b]).1.isOk (conn.internalSendPayload 0 [b]).2)
    (hr : ∀ conn : PeerConnection R, conn.specific = far → receives.Receives conn 0
      ((conn.internalReceivePayload 0).1.map codec.read) (conn.internalReceivePayload 0).2) :
    ∃ c : Chat S R T, Reachable (Step sends receives codec 0) (Orderly codec 0)
      (start near {} far {}) c ∧ c.far.Lossless 0 ∧ c.said = [message] ∧ c.heard = [codec.read [b]] := by
  obtain ⟨c, hsaid, hmessage, hnone, hc⟩ := exists_said receives near far hm hs
  obtain ⟨⟨p, q⟩, hrest, halive, hdispatching, hlossless, hread, -, -, hspecific⟩ :=
    Conversation.exists_dispatched near far b
  rw [← hc] at hrest
  have hheard := next_hear (next_hushed hsaid hrest) halive hdispatching (hr q.conn hspecific)
  refine ⟨_, hheard, ⟨hlossless.cleared, hlossless.errs⟩, ?_, ?_⟩
  · exact hmessage
  · show c.heard ++ ((q.conn.internalReceivePayload 0).1.map codec.read).toList = _
    rw [hnone, show (q.conn.internalReceivePayload 0).1 = _ from hread]
    rfl

end Chat

end BevyIroh
