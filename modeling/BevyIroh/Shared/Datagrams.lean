import BevyIroh.Shared.Delivery

/-!
# Datagrams

An unreliable channel sends each payload as a datagram of its own: the channel id and the payload.
Datagrams are lost and overtake each other, so what arrives is any list made of those that were sent,
and `unreliableChannelReceiverTask` is given that list; among them may be datagrams that are too short
to hold a channel id (`Datagram`).

The two paths do not agree on what a message is.  A reliable stream delivers an empty payload
(`drain_frames`), while the datagram of an empty payload is skipped, as one without a channel id
is: `datagrams_agree_iff`.
-/

set_option autoImplicit false

namespace BevyIroh

open Bytes FramedRead

/-- The datagram of a payload, as `send_unreliable_message` builds it. -/
def sendUnreliableMessage (msgBytes : Bytes) (channelId : ChannelId) : Bytes :=
  extendFromSlice (putU8 [] channelId) msgBytes

theorem sendUnreliableMessage_eq (msgBytes : Bytes) (channelId : ChannelId) :
    sendUnreliableMessage msgBytes channelId = channelId :: msgBytes := rfl

/-- The loop of `unreliable_channel_receiver_task`, over the datagrams in the order they arrive: what is enqueued, or a panic. -/
def unreliableChannelReceiverTask : List Bytes → Option (List (ChannelId × Bytes))
  | [] => some []
  | msgBytes :: rest =>
    match receiveUnreliableMessage msgBytes with
    | none => none
    | some enqueued => (unreliableChannelReceiverTask rest).map (enqueued.toList ++ ·)

/-- A datagram that arrives. -/
inductive Datagram where
  /-- Sent by an unreliable channel. -/
  | message (channelId : ChannelId) (payload : Bytes)
  /-- Too short for a channel id. -/
  | malformed (msgBytes : Bytes) (h : msgBytes.length < channelIdLen)

namespace Datagram

def bytes : Datagram → Bytes
  | .message channelId payload => sendUnreliableMessage payload channelId
  | .malformed msgBytes _ => msgBytes

/-- The pair that was sent. -/
def pair : Datagram → Option (ChannelId × Bytes)
  | .message channelId payload => some (channelId, payload)
  | .malformed _ _ => none

end Datagram

/-! ## What one datagram is taken for -/

theorem receiveUnreliableMessage_of_length_le {msgBytes : Bytes}
    (h : msgBytes.length ≤ channelIdLen) : receiveUnreliableMessage msgBytes = some none := if_pos h

theorem receiveUnreliableMessage_of_ne_nil {payload : Bytes} (h : payload ≠ [])
    (channelId : ChannelId) :
    receiveUnreliableMessage (sendUnreliableMessage payload channelId) =
      some (some (channelId, payload)) := by
  have hlen := List.length_pos_of_ne_nil h
  rw [sendUnreliableMessage_eq, receiveUnreliableMessage,
    if_neg (by rw [List.length_cons, channelIdLen]; omega)]
  simp [splitOff, getU8]

/-- **A datagram comes out as it was sent exactly when its payload is not empty.** -/
theorem receiveUnreliableMessage_eq_iff (channelId : ChannelId) (payload : Bytes) :
    receiveUnreliableMessage (sendUnreliableMessage payload channelId) =
      some (some (channelId, payload)) ↔ payload ≠ [] := by
  refine ⟨?_, fun h ↦ receiveUnreliableMessage_of_ne_nil h channelId⟩
  rintro h rfl
  rw [receiveUnreliableMessage_of_length_le (Nat.le_refl _)] at h
  cases h

/-- No datagram makes the task panic. -/
theorem exists_receiveUnreliableMessage (msgBytes : Bytes) :
    ∃ enqueued, receiveUnreliableMessage msgBytes = some enqueued := by
  rcases Nat.lt_or_ge channelIdLen msgBytes.length with hlen | hlen
  · obtain ⟨c, p, rfl⟩ := List.exists_cons_of_length_pos (Nat.zero_lt_of_lt hlen)
    have hp : p ≠ [] := by
      rintro rfl
      exact Nat.lt_irrefl _ hlen
    exact ⟨_, receiveUnreliableMessage_of_ne_nil hp c⟩
  · exact ⟨none, receiveUnreliableMessage_of_length_le hlen⟩

/-- The task enqueues what it takes the datagrams for, one after the other. -/
theorem unreliableChannelReceiverTask_eq (datagrams : List Bytes) :
    unreliableChannelReceiverTask datagrams =
      some (datagrams.filterMap fun d ↦ (receiveUnreliableMessage d).join) := by
  induction datagrams with
  | nil => rfl
  | cons d datagrams ih =>
    obtain ⟨enqueued, hd⟩ := exists_receiveUnreliableMessage d
    rw [unreliableChannelReceiverTask, hd, ih, List.filterMap_cons, hd]
    cases enqueued <;> rfl

/-! ## What is enqueued for what arrives -/

section filterMap

variable {α β : Type} {f g : α → Option β} {l : List α}

/-- A selection that agrees with another wherever it selects anything. -/
theorem filterMap_sublist_filterMap (h : ∀ a ∈ l, f a = g a ∨ f a = none) :
    (l.filterMap f).Sublist (l.filterMap g) := by
  induction l with
  | nil => exact .slnil
  | cons a l ih =>
    rw [List.forall_mem_cons] at h
    have hrest := ih h.2
    rw [List.filterMap_cons, List.filterMap_cons]
    rcases h.1 with heq | hnone
    · rw [heq]
      cases g a with
      | none => exact hrest
      | some b => exact hrest.cons_cons b
    · rw [hnone]
      cases g a with
      | none => exact hrest
      | some b => exact hrest.cons b

/-- If it selects as much, it agrees everywhere. -/
theorem filterMap_eq_filterMap_iff (h : ∀ a ∈ l, f a = g a ∨ f a = none) :
    l.filterMap f = l.filterMap g ↔ ∀ a ∈ l, f a = g a := by
  refine ⟨fun heq ↦ ?_, List.filterMap_congr⟩
  induction l with
  | nil => simp
  | cons a l ih =>
    rw [List.forall_mem_cons] at h ⊢
    rw [List.filterMap_cons, List.filterMap_cons] at heq
    rcases h.1 with hsame | hnone
    · refine ⟨hsame, ih h.2 ?_⟩
      rw [hsame] at heq
      cases hg : g a with
      | none => rwa [hg] at heq
      | some b =>
        rw [hg] at heq
        exact (List.cons.inj heq).2
    · rw [hnone] at heq ⊢
      cases hg : g a with
      | none =>
        rw [hg] at heq
        exact ⟨rfl, ih h.2 heq⟩
      | some b =>
        -- one value is missing, and none can make up for it
        have hle := (filterMap_sublist_filterMap h.2).length_le
        rw [hg] at heq
        simp [heq] at hle

end filterMap

/-- The reliable path delivers every payload that leaves room for the channel id, the empty one
included. -/
theorem reliableStreamReceiverTask_frame {channelId : ChannelId} {payload : Bytes}
    (h : payload.length + 1 ≤ defaultMaxReliableFrameLen) :
    (reliableStreamReceiverTask [frame channelId payload]).1 = [(channelId, payload)] := by
  have hM : ∀ p ∈ [payload], p.length + 1 ≤ defaultMaxReliableFrameLen := by simpa using h
  have hdrain := drain_frames (c := channelId) hM
    (fun p hp ↦ Nat.lt_of_le_of_lt (hM p hp) (by decide)) []
  rw [Decoder.drain_more (decode_receiver_nil _)] at hdrain
  have hstream : [frame channelId payload].flatten = frames channelId [payload] ++ [] := by
    simp [frames]
  rw [reliableStreamReceiverTask_fst, hstream, hdrain]
  rfl

/-- **When datagrams and streams agree on what a message is.**  Whatever part of the datagrams arrives
in whatever order, malformed ones among them: the pairs that were sent are enqueued unchanged and none
is skipped, what the reliable path would deliver of them is delivered here as well, and a datagram too
short for a channel id is ignored, exactly when no payload that arrives is empty. -/
theorem datagrams_agree_iff (arrivals : List Datagram) :
    (unreliableChannelReceiverTask (arrivals.map Datagram.bytes) =
        some (arrivals.filterMap Datagram.pair) ∧
      (∀ channelId payload, .message channelId payload ∈ arrivals → ∀ maxFrameSize chunks,
        chunks.flatten = (QuinnetProtocolCodecEncoder.new channelId maxFrameSize).encodeAll [payload] [] →
        (channelId, payload) ∈ (reliableStreamReceiverTask chunks).1 →
        receiveUnreliableMessage (sendUnreliableMessage payload channelId) =
          some (some (channelId, payload))) ∧
      ∀ msgBytes h, .malformed msgBytes h ∈ arrivals →
        receiveUnreliableMessage msgBytes = some none) ↔
    ∀ channelId payload, .message channelId payload ∈ arrivals → payload ≠ [] := by
  have htake : ∀ d : Datagram, (receiveUnreliableMessage d.bytes).join = d.pair ↔
      ∀ channelId payload, d = .message channelId payload → payload ≠ [] := by
    rintro (⟨channelId, payload⟩ | ⟨msgBytes, h⟩)
    · have hiff := receiveUnreliableMessage_eq_iff channelId payload
      simpa [Datagram.bytes, Datagram.pair, Option.join_eq_some_iff] using hiff
    · have hnone := receiveUnreliableMessage_of_length_le (Nat.le_of_lt h)
      simp [Datagram.bytes, Datagram.pair, hnone]
  have hskip : ∀ d ∈ arrivals, (receiveUnreliableMessage d.bytes).join = d.pair ∨
      (receiveUnreliableMessage d.bytes).join = none := by
    rintro (⟨channelId, payload⟩ | ⟨msgBytes, h⟩) -
    · by_cases hp : payload = []
      · right
        rw [Datagram.bytes, hp, receiveUnreliableMessage_of_length_le (Nat.le_refl _)]
        rfl
      · left
        rw [Datagram.bytes, receiveUnreliableMessage_of_ne_nil hp]
        rfl
    · right
      rw [Datagram.bytes, receiveUnreliableMessage_of_length_le (Nat.le_of_lt h)]
      rfl
  have htask : unreliableChannelReceiverTask (arrivals.map Datagram.bytes) =
      some (arrivals.filterMap Datagram.pair) ↔
        ∀ channelId payload, .message channelId payload ∈ arrivals → payload ≠ [] := by
    rw [unreliableChannelReceiverTask_eq, Option.some_inj, List.filterMap_map]
    refine (filterMap_eq_filterMap_iff hskip).trans ⟨fun h channelId payload hmem ↦ ?_, ?_⟩
    · exact (htake _).1 (h _ hmem) channelId payload rfl
    · rintro h d hd
      exact (htake d).2 fun channelId payload heq ↦ h channelId payload (heq ▸ hd)
  refine ⟨fun h ↦ htask.1 h.1, fun h ↦ ⟨htask.2 h, fun channelId payload hmem _ _ _ _ ↦ ?_, ?_⟩⟩
  · exact receiveUnreliableMessage_of_ne_nil (h channelId payload hmem) channelId
  · rintro msgBytes hlen -
    exact receiveUnreliableMessage_of_length_le (Nat.le_of_lt hlen)

/-- The datagram of an empty payload is skipped; the reliable path delivers that payload. -/
theorem empty_payload_skipped :
    unreliableChannelReceiverTask [sendUnreliableMessage [] 5] = some [] ∧
      (reliableStreamReceiverTask [frame 5 []]).1 = [(5, [])] ∧
      unreliableChannelReceiverTask ([Datagram.message 5 []].map Datagram.bytes) ≠
        some ([Datagram.message 5 []].filterMap Datagram.pair) :=
  ⟨rfl, reliableStreamReceiverTask_frame (by decide), by decide⟩

end BevyIroh
