import BevyIroh.Shared.Reliable.OneShot

/-!
# Decoding is undone by encoding

`RoundTrip` goes from payloads to bytes and back; this file goes from bytes to frames and back.  The
decoder takes a frame apart in two calls, and between them four bytes are neither in its buffer nor in
a frame: it has the length field in its state, as a number.  The field has four bytes, so the number
gives them back (`beBytes_lengthField`), and nothing is lost (`conserves_codec`).

Frames that begin with the same byte are then what the encoder of a channel with this id would have
written, whatever its limit, as long as the payloads are within it.
-/

set_option autoImplicit false

namespace BevyIroh

open Bytes FramedRead QuinnetProtocolCodecDecoder

/-! ## The decoder loses nothing -/

/-- A frame is made of its length field and itself, and a field that was read is pending. -/
theorem conserves_codec : codec.Conserves block fun d ↦ d.state.pending where
  item := by
    intro d src f d' src' h
    have hdata : ∀ {n M src}, decoded ⟨.data n, M⟩ src = .item f d' src' →
        beBytes n reliableFrameLengthFieldLen ++ src = block f ++ (d'.state.pending ++ src') := by
      intro n M src h
      rcases Nat.lt_or_ge src.length n with hn | hn
      · rw [decoded_data_short hn] at h
        cases h
      · rw [decoded_data hn] at h
        cases h
        rw [block, List.length_take, Nat.min_eq_left hn, List.append_assoc]
        exact congrArg _ (List.take_append_drop n src).symm
    obtain ⟨_ | n, M⟩ := d
    · have h : decoded ⟨.head, M⟩ src = .item f d' src' := h
      rcases head_cases M src with hs | ⟨hs, hM⟩ | ⟨hs, hM⟩
      · rw [decoded_head_short hs] at h
        cases h
      · rw [decoded_head_fail hs hM] at h
        cases h
      · rw [decoded_head hs hM] at h
        have hrest := hdata h
        rwa [beBytes_lengthField hs, List.take_append_drop] at hrest
    · exact hdata h
  more := by
    intro d src d' src' h
    obtain ⟨_ | n, M⟩ := d
    · have h : decoded ⟨.head, M⟩ src = .more d' src' := h
      rcases head_cases M src with hs | ⟨hs, hM⟩ | ⟨hs, hM⟩
      · rw [decoded_head_short hs] at h
        cases h
        rfl
      · rw [decoded_head_fail hs hM] at h
        cases h
      · rw [decoded_head hs hM] at h
        rcases Nat.lt_or_ge (src.drop reliableFrameLengthFieldLen).length (lengthField src) with hn | hn
        · rw [decoded_data_short hn] at h
          cases h
          -- the field goes from the buffer to the state
          show src = beBytes (lengthField src) reliableFrameLengthFieldLen ++
            src.drop reliableFrameLengthFieldLen
          rw [beBytes_lengthField hs, List.take_append_drop]
        · rw [decoded_data hn] at h
          cases h
    · have h : decoded ⟨.data n, M⟩ src = .more d' src' := h
      rcases Nat.lt_or_ge src.length n with hn | hn
      · rw [decoded_data_short hn] at h
        cases h
        rfl
      · rw [decoded_data hn] at h
        cases h
  fail := by
    intro d src e d' src' h
    obtain ⟨-, -, -, -, rfl, rfl⟩ := decoded_fail h
    rfl

/-- What has arrived is the frames behind their length fields, the field that is pending, and what is
unread. -/
theorem stream_of_reads {M : ℕ} {s buf : Bytes} {fs : List Bytes} {d : QuinnetProtocolCodecDecoder}
    (h : codec.Reads (.new M) s fs d buf) : s = (fs.map block).flatten ++ (d.state.pending ++ buf) :=
  conserves_codec.reads rfl h

/-- The receiving loop only ever calls the decoder and waits, whatever chunks the stream comes in. -/
theorem reads_of_feed (M : ℕ) (chunks : List Bytes) : ∃ fed d buf,
    chunks = fed ++ (codec.feed (.new M) [] chunks).2.2 ∧
      (codec.feed (.new M) [] chunks).2.1.stands = some (d, buf) ∧
      codec.Reads (.new M) fed.flatten (codec.feed (.new M) [] chunks).1 d buf := by
  obtain ⟨⟨-, -, -, hne, -⟩, -⟩ := feed_eq_greedyParse M chunks
  have hstands : ∃ d buf, (codec.feed (.new M) [] chunks).2.1.stands = some (d, buf) := by
    cases hstop : (codec.feed (QuinnetProtocolCodecDecoder.new M) [] chunks).2.1 with
    | more d buf => exact ⟨d, buf, rfl⟩
    | fail e d buf => exact ⟨d, buf, rfl⟩
    | panic => exact absurd hstop hne
  obtain ⟨d, buf, hd⟩ := hstands
  obtain ⟨fed, hfed, hreads⟩ := Decoder.Reads.start.feed hd
  exact ⟨fed, d, buf, hfed, hd, hreads⟩

/-! ## Encoding the frames again -/

/-- Blocks that begin with the same byte are frames of one channel. -/
theorem frames_tail_eq {c : ChannelId} {fs : List Bytes} (h : ∀ f ∈ fs, f.head? = some c) :
    frames c (fs.map List.tail) = (fs.map block).flatten := by
  rw [frames, List.map_map]
  refine congrArg List.flatten (List.map_congr_left fun f hf ↦ ?_)
  rw [Function.comp_apply, frame_eq_block, List.cons_head?_tail (h f hf)]

/-- **Decoding is undone by encoding.**  At every point of a reading, however the stream arrives and
whatever the limit of the decoder, the frames so far, if they all begin with the byte `c`, are encoded
again without it to the bytes they were decoded from: the stream without what is unread and without a
length field that is pending.  So those bytes are determined by the frames. -/
theorem encode_undoes_decode {M : ℕ} {s buf : Bytes} {fs : List Bytes}
    {d : QuinnetProtocolCodecDecoder} (h : codec.Reads (.new M) s fs d buf) :
    (∀ c L, (∀ f ∈ fs, f.head? = some c) → (∀ f ∈ fs, f.tail.length ≤ L) →
      (∀ f ∈ fs, ((QuinnetProtocolCodecEncoder.new c L).encode f.tail []).1 = .ok ()) ∧
      s = (QuinnetProtocolCodecEncoder.new c L).encodeAll (fs.map List.tail) [] ++
        (d.state.pending ++ buf)) ∧
    ∀ M' s' d' buf', codec.Reads (.new M') s' fs d' buf' →
      (∃ consumed, s = consumed ++ (d.state.pending ++ buf) ∧
        s' = consumed ++ (d'.state.pending ++ buf')) ∧
      (d.state.pending ++ buf = d'.state.pending ++ buf' → s = s') := by
  refine ⟨fun c L hc hL ↦ ?_, fun M' s' d' buf' h' ↦ ?_⟩
  · have haccepts : ∀ f ∈ fs, ((QuinnetProtocolCodecEncoder.new c L).encode f.tail []).1 = .ok () :=
      fun f hf ↦ QuinnetProtocolCodecEncoder.encode_eq_ok.2 (hL f hf)
    have hall : (QuinnetProtocolCodecEncoder.new c L).encodeAll (fs.map List.tail) [] =
        frames c (fs.map List.tail) :=
      QuinnetProtocolCodecEncoder.encodeAll_of_accepts (List.forall_mem_map.2 haccepts)
    rw [hall, frames_tail_eq hc]
    exact ⟨haccepts, stream_of_reads h⟩
  · have hs := stream_of_reads h
    have hs' := stream_of_reads h'
    refine ⟨⟨_, hs, hs'⟩, fun hrest ↦ ?_⟩
    rw [hs, hs', hrest]

/-- A stream in three chunks, of which the last one ends in the middle of a frame: its field is pending. -/
theorem encode_undoes_decode_chunked :
    ([[0, 0], [0, 2, 9], [7, 0, 0, 0, 3, 9, 1]] : List Bytes).flatten =
      (QuinnetProtocolCodecEncoder.new 9 1).encodeAll [[7]] [] ++
        (beBytes 3 reliableFrameLengthFieldLen ++ [9, 1]) := by
  have hshort : codec.Reads (.new 4) [0, 0] [] (.new 4) [0, 0] :=
    .more (Decoder.Reads.start.arrive [0, 0]) rfl
  have hfirst : codec.Reads (.new 4) [0, 0, 0, 2, 9] [] ⟨.data 2, 4⟩ [9] :=
    .more (hshort.arrive [0, 2, 9]) rfl
  have hframe : codec.Reads (.new 4) [0, 0, 0, 2, 9, 7, 0, 0, 0, 3, 9, 1] [[9, 7]] (.new 4)
      [0, 0, 0, 3, 9, 1] :=
    .item (hfirst.arrive [7, 0, 0, 0, 3, 9, 1]) rfl
  have hpending : codec.Reads (.new 4) [0, 0, 0, 2, 9, 7, 0, 0, 0, 3, 9, 1] [[9, 7]] ⟨.data 3, 4⟩
      [9, 1] := .more hframe rfl
  exact ((encode_undoes_decode hpending).1 9 1 (by decide) (by decide)).2

end BevyIroh
