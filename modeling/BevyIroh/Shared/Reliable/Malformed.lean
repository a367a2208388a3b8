import BevyIroh.Shared.Reliable.RoundTrip

/-!
# Malformed input

What a peer can do to the receiving task of a stream by writing bytes of its own choosing.  The
decoder itself never reads past the end of its buffer, whatever the bytes.  But it checks the length
field against an upper limit only, so that a length of zero makes it hand over an empty frame, and
`decodeIncomingReliableMessage` reads a channel id that is not there.

`EmptyFrameReached` says of a byte string that the decoder gets that far: a zero length field, and
the one byte behind it that the decoder waits for, after nothing but complete non-empty frames.
`receiver_safe_iff` says that this is the only way to make the task panic, for any chunking.
-/

set_option autoImplicit false

namespace BevyIroh

open Bytes FramedRead QuinnetProtocolCodecDecoder

/-- After zero or more complete, non-empty frames within the limit there is a zero length field
and at least one byte more. -/
def EmptyFrameReached (maxFrameLen : ℕ) (s : Bytes) : Prop :=
  ∃ (fs : List Bytes) (b : U8) (rest : Bytes), (∀ f ∈ fs, f ≠ [] ∧ f.length ≤ maxFrameLen) ∧
    s = (fs.map block).flatten ++ (block [] ++ b :: rest)

variable {M : ℕ}

/-- **What the decoder took for a frame was one**: the block and its length stood at the head of
the buffer. -/
theorem decoded_head_item {d' : QuinnetProtocolCodecDecoder} {src src' f : Bytes}
    (h : decoded ⟨.head, M⟩ src = .item f d' src') :
    d' = ⟨.head, M⟩ ∧ src = block f ++ src' ∧ f.length ≤ M ∧
      reliableFrameTotalHeaderLen ≤ src.length := by
  rcases head_cases M src with hs | ⟨hs, hM⟩ | ⟨hs, hM⟩
  · rw [decoded_head_short hs] at h; cases h
  · rw [decoded_head_fail hs hM] at h; cases h
  · rw [decoded_head hs hM] at h
    rcases Nat.lt_or_ge (src.drop reliableFrameLengthFieldLen).length (lengthField src)
      with hn | hn
    · rw [decoded_data_short hn] at h; cases h
    · rw [decoded_data hn] at h
      cases h
      have hlen : ((src.drop reliableFrameLengthFieldLen).take (lengthField src)).length =
          lengthField src := by rw [List.length_take, Nat.min_eq_left hn]
      refine ⟨rfl, ?_, by rwa [hlen], hs⟩
      rw [block, hlen, beBytes_lengthField hs, List.append_assoc, List.take_append_drop, List.take_append_drop]

/-- An empty frame in front of the receiver makes it panic. -/
theorem decode_empty_panic (b : U8) (rest : Bytes) :
    reliableStreamReceiver.decode ⟨.head, M⟩ (block [] ++ b :: rest) = .panic := by
  have hfield : lengthField (block [] ++ b :: rest) = 0 := rfl
  have hitem : decoded ⟨.head, M⟩ (block [] ++ b :: rest) =
      .item [] ⟨.head, M⟩ (b :: rest) := by
    have hlen : reliableFrameTotalHeaderLen ≤ (block [] ++ b :: rest).length := by
      rw [List.length_append, List.length_cons]
      exact Nat.add_le_add_left (Nat.le_add_left 1 rest.length) 4
    rw [decoded_head hlen (hfield ▸ Nat.zero_le M), hfield, decoded_data (Nat.zero_le _)]
    rfl
  simp only [reliableStreamReceiver, Decoder.andThen, codec, hitem,
    decodeIncomingReliableMessage_eq_none.2]

/-- **The receiver panics on the byte strings that reach an empty frame, and on no others.** -/
theorem drain_panic_iff (h32 : M < 2 ^ 32) (s : Bytes) :
    (reliableStreamReceiver.drain ⟨.head, M⟩ s).2 = .panic ↔ EmptyFrameReached M s := by
  constructor
  · suffices ∀ d src, d = ⟨.head, M⟩ → (reliableStreamReceiver.drain d src).2 = .panic →
        EmptyFrameReached M src from this _ _ rfl
    intro d src hd h
    induction d, src using Decoder.drain.induct reliableStreamReceiver with
    | case1 d src m d' src' hdec ih =>
      subst hd
      obtain ⟨hd', rfl, hlen, -⟩ := decoded_head_item (receiver_item hdec)
      rw [Decoder.drain_item hdec] at h
      obtain ⟨fs, b, rest, hfs, rfl⟩ := ih hd' h
      refine ⟨(m.1 :: m.2) :: fs, b, rest, ?_, by simp⟩
      exact List.forall_mem_cons.2 ⟨⟨List.cons_ne_nil _ _, hlen⟩, hfs⟩
    | case2 d src d' src' hdec => rw [Decoder.drain_more hdec] at h; cases h
    | case3 d src e d' src' hdec => rw [Decoder.drain_fail hdec] at h; cases h
    | case4 d src hdec =>
      subst hd
      cases hitem : decoded ⟨.head, M⟩ src with
      | item f d' src' =>
        simp only [reliableStreamReceiver, Decoder.andThen, codec, hitem] at hdec
        cases hf : decodeIncomingReliableMessage f with
        | some g => simp [hf] at hdec
        | none =>
          obtain ⟨-, rfl, -, hlen⟩ := decoded_head_item hitem
          obtain rfl := decodeIncomingReliableMessage_eq_none.1 hf
          cases src' with
          | nil => exact absurd hlen (by decide)
          | cons b rest => exact ⟨[], b, rest, by simp, rfl⟩
      | panic => exact absurd hitem (decoded_ne_panic _ _)
      | _ => simp [reliableStreamReceiver, Decoder.andThen, codec, hitem] at hdec
  · rintro ⟨fs, b, rest, hfs, rfl⟩
    induction fs with
    | nil => rw [List.map_nil, List.flatten_nil, List.nil_append,
        Decoder.drain_panic (decode_empty_panic b rest)]
    | cons f fs ih =>
      rw [List.forall_mem_cons] at hfs
      obtain ⟨c, p, rfl⟩ := List.exists_cons_of_ne_nil hfs.1.1
      have hcons : (((c :: p) :: fs).map block).flatten ++ (block [] ++ b :: rest) =
          frame c p ++ ((fs.map block).flatten ++ (block [] ++ b :: rest)) := by
        rw [frame_eq_block, List.map_cons, List.flatten_cons, List.append_assoc]
      rw [hcons, Decoder.drain_item (decode_frame hfs.1.2 (Nat.lt_of_le_of_lt hfs.1.2 h32) _)]
      exact ih hfs.2

/-! ## The receiving task -/

/-- The task panics on the chunks exactly when its loop panics on the whole stream. -/
theorem reliableStreamReceiverTask_panic_iff (chunks : List Bytes) :
    (reliableStreamReceiverTask chunks).2.1 = .panic ↔
      EmptyFrameReached defaultMaxReliableFrameLen chunks.flatten := by
  have h := Decoder.drain_flatten (decode_receiver_nil defaultMaxReliableFrameLen) chunks
  rw [List.nil_append] at h
  rw [← drain_panic_iff (by decide), h, Stop.append_eq_panic]
  rfl

/-- **When no input makes the receiver panic.**  For every stream and every chunking, all frames
the decoder hands over hold a channel id, and neither the decoder nor the task reads out of bounds,
exactly when the stream does not reach an empty frame. -/
theorem receiver_safe_iff (chunks : List Bytes) :
    ((∀ f ∈ (codec.feed (QuinnetProtocolCodecDecoder.new defaultMaxReliableFrameLen) [] chunks).1,
          channelIdLen ≤ f.length) ∧
        (codec.feed (QuinnetProtocolCodecDecoder.new defaultMaxReliableFrameLen) [] chunks).2.1 ≠
          .panic ∧
        (reliableStreamReceiverTask chunks).2.1 ≠ .panic) ↔
      ¬ EmptyFrameReached defaultMaxReliableFrameLen chunks.flatten := by
  have hfeed := Decoder.drain_flatten (decode_codec_nil defaultMaxReliableFrameLen) chunks
  have hne := drain_codec_ne_panic ⟨.head, defaultMaxReliableFrameLen⟩ chunks.flatten
  rw [List.nil_append] at hfeed
  rw [hfeed, Ne, Stop.append_eq_panic] at hne
  rw [Ne, Ne, reliableStreamReceiverTask_panic_iff]
  refine ⟨fun h ↦ h.2.2, fun h ↦ ⟨fun f hf ↦ List.length_pos_of_ne_nil ?_, hne, h⟩⟩
  -- an empty frame handed over is one the composition refuses
  rintro rfl
  refine h ((drain_panic_iff (by decide) _).1 (Decoder.drain_andThen_panic.2 (Or.inl ⟨[], ?_, rfl⟩)))
  rw [hfeed]
  exact hf

/-- **Five bytes make the receiver panic**: a zero length field, and the byte behind it that the
decoder waits for. -/
theorem empty_frame_panics : (reliableStreamReceiverTask [[0, 0, 0, 0], [7]]).2.1 = .panic :=
  (reliableStreamReceiverTask_panic_iff _).2 ⟨[], 7, [], by simp, rfl⟩

end BevyIroh
