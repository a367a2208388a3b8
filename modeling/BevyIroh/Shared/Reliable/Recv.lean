import BevyIroh.Shared.Reliable.Codec

/-!
# The receiving end of a reliable stream

`reliable_stream_receiver_task` drives the decoder over the bytes of one stream, splits each frame
into channel id and payload and enqueues the pair.  Here the decoder becomes an incremental decoder
in the sense of `BevyIroh.Lib.FramedRead`: `codec` is the decoder alone, `reliableStreamReceiver`
the decoder followed by `decodeIncomingReliableMessage`, and `reliableStreamReceiverTask` the loop
over the chunks a stream arrives in.

Behind the definitions stand the three equations the decoder is used by from here on.  A decoder in
state `data n` waits for `n` bytes (`decoded_data`).  A decoder in state `head` waits for five bytes
(`decoded_head_short`), then fails on a length field above the limit (`decoded_head_fail`) or
behaves as a decoder in state `data` behind the field (`decoded_head`).  None of them panics: the
only panic of the receiving loop is that of `decodeIncomingReliableMessage` on an empty frame.
-/

set_option autoImplicit false

namespace BevyIroh

open Bytes FramedRead

/-! ## One call of the decoder -/

namespace QuinnetProtocolCodecDecoder

/-- One call of the decoder, as the loop of a framed reader sees it. -/
def decoded (self : QuinnetProtocolCodecDecoder) (src : Bytes) :
    Decoded QuinnetProtocolCodecDecoder Bytes IoError :=
  match self.decode src with
  | some (.ok (some data), self, src) => .item data self src
  | some (.ok none, self, src) => .more self src
  | some (.error e, self, src) => .fail e self src
  | none => .panic

/-- The length field at the head of a buffer. -/
def lengthField (src : Bytes) : ℕ := beNat (src.take reliableFrameLengthFieldLen)

variable {M n : ℕ} {src : Bytes}

theorem decoded_data_short (h : src.length < n) :
    decoded ⟨.data n, M⟩ src = .more ⟨.data n, M⟩ src := by
  simp [decoded, decode, decodeRest, decodeData, h]

theorem decoded_data (h : n ≤ src.length) :
    decoded ⟨.data n, M⟩ src = .item (src.take n) ⟨.head, M⟩ (src.drop n) := by
  simp [decoded, decode, decodeRest, decodeData, Nat.not_lt.2 h, splitTo_of_le h]

theorem decoded_head_short (h : src.length < reliableFrameTotalHeaderLen) :
    decoded ⟨.head, M⟩ src = .more ⟨.head, M⟩ src := by
  simp [decoded, decode, decodeHead, h]

theorem decodeHead_of_le {self : QuinnetProtocolCodecDecoder}
    (h : reliableFrameTotalHeaderLen ≤ src.length) :
    self.decodeHead src =
      if self.maxFrameLen < lengthField src then
        some (.error ⟨.invalidData, .frameSizeTooBig⟩, src)
      else some (.ok (some (lengthField src)), src.drop reliableFrameLengthFieldLen) := by
  have h4 : reliableFrameLengthFieldLen ≤ src.length := Nat.le_trans (by decide) h
  rw [decodeHead, if_neg (Nat.not_lt.2 h), getUint_of_le h4, advance_of_le h4]
  rfl

theorem decoded_head_fail (h : reliableFrameTotalHeaderLen ≤ src.length)
    (hM : M < lengthField src) :
    decoded ⟨.head, M⟩ src = .fail ⟨.invalidData, .frameSizeTooBig⟩ ⟨.head, M⟩ src := by
  simp [decoded, decode, decodeHead_of_le h, hM]

/-- **A complete header**: the decoder goes on behind the length field. -/
theorem decoded_head (h : reliableFrameTotalHeaderLen ≤ src.length) (hM : lengthField src ≤ M) :
    decoded ⟨.head, M⟩ src =
      decoded ⟨.data (lengthField src), M⟩ (src.drop reliableFrameLengthFieldLen) := by
  simp [decoded, decode, decodeHead_of_le h, Nat.not_lt.2 hM]

theorem lengthField_append (h : reliableFrameTotalHeaderLen ≤ src.length) (x : Bytes) :
    lengthField (src ++ x) = lengthField src := by
  rw [lengthField, lengthField, List.take_append_of_le_length (Nat.le_trans (by decide) h)]

/-- The length field is what is at the head of the buffer. -/
theorem beBytes_lengthField (h : reliableFrameTotalHeaderLen ≤ src.length) :
    beBytes (lengthField src) reliableFrameLengthFieldLen =
      src.take reliableFrameLengthFieldLen := by
  have hback := beBytes_beNat (src.take reliableFrameLengthFieldLen)
  rwa [List.length_take, Nat.min_eq_left (Nat.le_trans (by decide) h)] at hback

/-- The three situations of a decoder in state `head`. -/
theorem head_cases (M : ℕ) (src : Bytes) :
    src.length < reliableFrameTotalHeaderLen ∨
      reliableFrameTotalHeaderLen ≤ src.length ∧ M < lengthField src ∨
      reliableFrameTotalHeaderLen ≤ src.length ∧ lengthField src ≤ M := by
  omega

/-! ## The laws of an incremental decoder -/

/-- A pending length field counts as one byte. -/
def weight : QuinnetProtocolCodecDecoder → ℕ
  | ⟨.head, _⟩ => 0
  | ⟨.data _, _⟩ => 1

theorem decoded_append_of_data (x : Bytes) (h : n ≤ src.length) :
    decoded ⟨.data n, M⟩ (src ++ x) = .item (src.take n) ⟨.head, M⟩ (src.drop n ++ x) := by
  rw [decoded_data (by rw [List.length_append]; omega), List.take_append_of_le_length h,
    List.drop_append_of_le_length h]

theorem decoded_append_of_head (x : Bytes) (h : reliableFrameTotalHeaderLen ≤ src.length)
    (hM : lengthField src ≤ M) :
    decoded ⟨.head, M⟩ (src ++ x) =
      decoded ⟨.data (lengthField src), M⟩ (src.drop reliableFrameLengthFieldLen ++ x) := by
  rw [decoded_head (by rw [List.length_append]; omega) (by rwa [lengthField_append h]),
    lengthField_append h, List.drop_append_of_le_length (Nat.le_trans (by decide) h)]

theorem decoded_progress {d d' : QuinnetProtocolCodecDecoder} {f src' : Bytes}
    (h : d.decoded src = .item f d' src') : src'.length + d'.weight < src.length + d.weight := by
  obtain ⟨_ | n, M⟩ := d
  · rcases head_cases M src with hs | ⟨hs, hM⟩ | ⟨hs, hM⟩
    · rw [decoded_head_short hs] at h; cases h
    · rw [decoded_head_fail hs hM] at h; cases h
    · rw [decoded_head hs hM] at h
      rcases Nat.lt_or_ge (src.drop reliableFrameLengthFieldLen).length (lengthField src)
        with hn | hn
      · rw [decoded_data_short hn] at h; cases h
      · rw [decoded_data hn] at h
        cases h
        have : reliableFrameTotalHeaderLen = 5 := rfl
        have : reliableFrameLengthFieldLen = 4 := rfl
        simp only [weight, List.length_drop]
        omega
  · rcases Nat.lt_or_ge src.length n with hn | hn
    · rw [decoded_data_short hn] at h; cases h
    · rw [decoded_data hn] at h
      cases h
      simp only [weight, List.length_drop]
      omega

/-- A decoder that asks for more has read the length field, or nothing. -/
theorem decoded_more_cases {d d' : QuinnetProtocolCodecDecoder} {src' : Bytes}
    (h : d.decoded src = .more d' src') :
    d' = d ∧ src' = src ∨ src'.length + d'.weight < src.length + d.weight := by
  obtain ⟨_ | n, M⟩ := d
  · rcases head_cases M src with hs | ⟨hs, hM⟩ | ⟨hs, hM⟩
    · rw [decoded_head_short hs] at h
      cases h
      exact .inl ⟨rfl, rfl⟩
    · rw [decoded_head_fail hs hM] at h
      cases h
    · rw [decoded_head hs hM] at h
      rcases Nat.lt_or_ge (src.drop reliableFrameLengthFieldLen).length (lengthField src)
        with hn | hn
      · rw [decoded_data_short hn] at h
        cases h
        right
        have : reliableFrameTotalHeaderLen = 5 := rfl
        have : reliableFrameLengthFieldLen = 4 := rfl
        simp only [weight, List.length_drop]
        omega
      · rw [decoded_data hn] at h
        cases h
  · rcases Nat.lt_or_ge src.length n with hn | hn
    · rw [decoded_data_short hn] at h
      cases h
      exact .inl ⟨rfl, rfl⟩
    · rw [decoded_data hn] at h
      cases h

theorem decoded_item_append {d d' : QuinnetProtocolCodecDecoder} {f src' : Bytes} (x : Bytes)
    (h : d.decoded src = .item f d' src') : d.decoded (src ++ x) = .item f d' (src' ++ x) := by
  have hdata : ∀ {n M src}, decoded ⟨.data n, M⟩ src = .item f d' src' →
      decoded ⟨.data n, M⟩ (src ++ x) = .item f d' (src' ++ x) := by
    intro n M src h
    rcases Nat.lt_or_ge src.length n with hn | hn
    · rw [decoded_data_short hn] at h; cases h
    · rw [decoded_data hn] at h
      rw [decoded_append_of_data x hn]
      cases h; rfl
  obtain ⟨_ | n, M⟩ := d
  · rcases head_cases M src with hs | ⟨hs, hM⟩ | ⟨hs, hM⟩
    · rw [decoded_head_short hs] at h; cases h
    · rw [decoded_head_fail hs hM] at h; cases h
    · rw [decoded_head hs hM] at h
      rw [decoded_append_of_head x hs hM]
      exact hdata h
  · exact hdata h

theorem decoded_more_append {d d' : QuinnetProtocolCodecDecoder} {src' : Bytes} (x : Bytes)
    (h : d.decoded src = .more d' src') : d.decoded (src ++ x) = d'.decoded (src' ++ x) := by
  have hdata : ∀ {n M src}, decoded ⟨.data n, M⟩ src = .more d' src' →
      decoded ⟨.data n, M⟩ (src ++ x) = d'.decoded (src' ++ x) := by
    intro n M src h
    rcases Nat.lt_or_ge src.length n with hn | hn
    · rw [decoded_data_short hn] at h; cases h; rfl
    · rw [decoded_data hn] at h; cases h
  obtain ⟨_ | n, M⟩ := d
  · rcases head_cases M src with hs | ⟨hs, hM⟩ | ⟨hs, hM⟩
    · rw [decoded_head_short hs] at h; cases h; rfl
    · rw [decoded_head_fail hs hM] at h; cases h
    · rw [decoded_head hs hM] at h
      rw [decoded_append_of_head x hs hM]
      exact hdata h
  · exact hdata h

/-- A decoder in state `data` neither fails nor panics. -/
theorem decoded_data_ne (M n : ℕ) (src : Bytes) :
    (∀ e d' src', decoded ⟨.data n, M⟩ src ≠ .fail e d' src') ∧
      decoded ⟨.data n, M⟩ src ≠ .panic := by
  rcases Nat.lt_or_ge src.length n with hn | hn
  · rw [decoded_data_short hn]
    exact ⟨fun _ _ _ ↦ by rintro ⟨⟩, by rintro ⟨⟩⟩
  · rw [decoded_data hn]
    exact ⟨fun _ _ _ ↦ by rintro ⟨⟩, by rintro ⟨⟩⟩

/-- **The decoder fails only on a length field above the limit**, and leaves decoder and buffer as
they were. -/
theorem decoded_fail {d d' : QuinnetProtocolCodecDecoder} {src' : Bytes} {e : IoError}
    (h : d.decoded src = .fail e d' src') :
    d.state = .head ∧ reliableFrameTotalHeaderLen ≤ src.length ∧ d.maxFrameLen < lengthField src ∧
      e = ⟨.invalidData, .frameSizeTooBig⟩ ∧ d' = d ∧ src' = src := by
  obtain ⟨_ | n, M⟩ := d
  · rcases head_cases M src with hs | ⟨hs, hM⟩ | ⟨hs, hM⟩
    · rw [decoded_head_short hs] at h; cases h
    · rw [decoded_head_fail hs hM] at h
      cases h
      exact ⟨rfl, hs, hM, rfl, rfl, rfl⟩
    · rw [decoded_head hs hM] at h
      exact absurd h ((decoded_data_ne M _ _).1 _ _ _)
  · exact absurd h ((decoded_data_ne M n src).1 _ _ _)

/-- **The decoder never reads past the end of its buffer.** -/
theorem decoded_ne_panic (d : QuinnetProtocolCodecDecoder) (src : Bytes) :
    d.decoded src ≠ .panic := by
  obtain ⟨_ | n, M⟩ := d
  · rcases head_cases M src with hs | ⟨hs, hM⟩ | ⟨hs, hM⟩
    · rw [decoded_head_short hs]; rintro ⟨⟩
    · rw [decoded_head_fail hs hM]; rintro ⟨⟩
    · rw [decoded_head hs hM]
      exact (decoded_data_ne M _ _).2
  · exact (decoded_data_ne M n src).2

theorem decoded_fail_append {d d' : QuinnetProtocolCodecDecoder} {src' : Bytes} {e : IoError}
    (x : Bytes) (h : d.decoded src = .fail e d' src') :
    d.decoded (src ++ x) = .fail e d' (src' ++ x) := by
  obtain ⟨hh, hs, hM, rfl, rfl, rfl⟩ := decoded_fail h
  obtain ⟨st, M⟩ := d'
  subst hh
  exact decoded_head_fail (by rw [List.length_append]; omega) (by rwa [lengthField_append hs])

end QuinnetProtocolCodecDecoder

open QuinnetProtocolCodecDecoder

/-- The decoder as an incremental decoder. -/
def codec : Decoder QuinnetProtocolCodecDecoder Bytes IoError where
  decode := QuinnetProtocolCodecDecoder.decoded
  weight := QuinnetProtocolCodecDecoder.weight
  progress := decoded_progress
  item_append := decoded_item_append
  more_append := decoded_more_append
  fail_append := decoded_fail_append
  panic_append _ h := absurd h (decoded_ne_panic _ _)

/-! ## The receiving loop -/

/-- The decoder with its frames handed to `decodeIncomingReliableMessage`: the body of the
receiving loop. -/
def reliableStreamReceiver : Decoder QuinnetProtocolCodecDecoder (ChannelId × Bytes) IoError :=
  codec.andThen decodeIncomingReliableMessage

/-- So has the receiver. -/
theorem receiver_more_cases {d d' : QuinnetProtocolCodecDecoder} {src src' : Bytes}
    (h : reliableStreamReceiver.decode d src = .more d' src') : d' = d ∧ src' = src ∨
      src'.length + reliableStreamReceiver.weight d' < src.length + reliableStreamReceiver.weight d :=
  decoded_more_cases (Decoder.decode_andThen_more.1 h)

/-- `reliable_stream_receiver_task` on a stream that arrives in the given chunks: what it enqueues,
where it stops, and the chunks it does not read any more. -/
def reliableStreamReceiverTask (chunks : List Bytes) :
    List (ChannelId × Bytes) × Stop QuinnetProtocolCodecDecoder IoError × List Bytes :=
  reliableStreamReceiver.feed (QuinnetProtocolCodecDecoder.new defaultMaxReliableFrameLen) [] chunks

end BevyIroh
