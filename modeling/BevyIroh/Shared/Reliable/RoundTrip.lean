import BevyIroh.Shared.Reliable.Recv

/-!
# What the reliable path delivers

The encoder and the decoder meet here.  A payload that fits both limits comes back as it was sent
(`decode_frame`), so a list of them does (`drain_frames`), and since chunk boundaries do not matter
so does what the receiving task makes of the list however it arrives.

The two limits do not agree.  The encoder accepts a payload of `max_frame_len` bytes, which makes a
frame one byte longer; the receiving task allows frames of `DEFAULT_MAX_RELIABLE_FRAME_LEN` bytes
whatever the sender's channel was configured with.  So the round trip holds exactly as long as
every payload the encoder accepts leaves room for the channel id in the receiver's limit
(`reliable_roundtrip_iff`), and it already fails for a payload of the default limit on a channel
of the default configuration (`default_limit_payload_lost`): what the receiver emits is never longer
than its own limit (`drain_receiver_length`).
-/

set_option autoImplicit false

namespace BevyIroh

open Bytes FramedRead QuinnetProtocolCodecDecoder

/-! ## Frames -/

/-- A block of bytes behind its length, which is what the decoder reads as one frame. -/
def block (b : Bytes) : Bytes := beBytes b.length reliableFrameLengthFieldLen ++ b

/-- The bytes of one frame, as the encoder writes them. -/
def frame (c : ChannelId) (p : Bytes) : Bytes :=
  beBytes (protocolHeaderLen + p.length) reliableFrameLengthFieldLen ++ c :: p

theorem frame_eq_block (c : ChannelId) (p : Bytes) : frame c p = block (c :: p) := by
  rw [frame, block, List.length_cons, Nat.add_comm]
  rfl

@[simp] theorem length_frame (c : ChannelId) (p : Bytes) :
    (frame c p).length = reliableFrameTotalHeaderLen + p.length := by
  simp only [frame, List.length_append, length_beBytes, List.length_cons,
    reliableFrameTotalHeaderLen, protocolHeaderLen, channelIdLen]
  omega

/-- The frames of several payloads, one after the other. -/
def frames (c : ChannelId) (ps : List Bytes) : Bytes := (ps.map (frame c)).flatten

theorem frames_nil (c : ChannelId) : frames c [] = [] := rfl

theorem frames_cons (c : ChannelId) (p : Bytes) (ps : List Bytes) :
    frames c (p :: ps) = frame c p ++ frames c ps := rfl

theorem frames_append (c : ChannelId) (ps qs : List Bytes) :
    frames c (ps ++ qs) = frames c ps ++ frames c qs := by
  simp [frames]

namespace QuinnetProtocolCodecEncoder

/-- The encoder takes a payload. -/
def Accepts (enc : QuinnetProtocolCodecEncoder) (p : Bytes) : Prop := p.length ≤ enc.maxFrameLen

instance (enc : QuinnetProtocolCodecEncoder) : DecidablePred enc.Accepts :=
  fun p ↦ inferInstanceAs (Decidable (p.length ≤ enc.maxFrameLen))

variable {enc : QuinnetProtocolCodecEncoder} {p : Bytes}

theorem encode_of_accepts (h : enc.Accepts p) (dst : Bytes) :
    enc.encode p dst = (.ok (), dst ++ frame enc.rawChannelId p) := by
  rw [encode, if_neg (Nat.not_lt.2 h)]
  simp [putUint, putU8, extendFromSlice, frame]

theorem encode_of_not_accepts (h : ¬ enc.Accepts p) (dst : Bytes) :
    enc.encode p dst = (.error ⟨.invalidInput, .frameSizeTooBig⟩, dst) := by
  rw [encode, if_pos (Nat.lt_of_not_le h)]

theorem encode_eq_ok {dst : Bytes} : (enc.encode p dst).1 = .ok () ↔ enc.Accepts p := by
  by_cases h : enc.Accepts p
  · simp [encode_of_accepts h, h]
  · simp [encode_of_not_accepts h, h]

/-- **A list of payloads leaves the frames of those the encoder takes**; a payload that it rejects
leaves nothing. -/
theorem encodeAll_eq (enc : QuinnetProtocolCodecEncoder) (ps : List Bytes) (dst : Bytes) :
    enc.encodeAll ps dst = dst ++ frames enc.rawChannelId (ps.filter enc.Accepts) := by
  induction ps generalizing dst with
  | nil => simp [encodeAll, frames]
  | cons p ps ih =>
    rw [encodeAll, List.foldl_cons, ← encodeAll, ih]
    by_cases h : enc.Accepts p
    · simp [encode_of_accepts h, h, frames]
    · simp [encode_of_not_accepts h, h]

theorem encodeAll_of_accepts {ps : List Bytes} (h : ∀ p ∈ ps, (enc.encode p []).1 = .ok ()) :
    enc.encodeAll ps [] = frames enc.rawChannelId ps := by
  rw [encodeAll_eq, List.filter_eq_self.2 fun p hp ↦ by simpa using encode_eq_ok.1 (h p hp)]
  rfl

end QuinnetProtocolCodecEncoder

/-! ## Splitting a frame -/

theorem decodeIncomingReliableMessage_cons (c : ChannelId) (p : Bytes) :
    decodeIncomingReliableMessage (c :: p) = some (c, p) := by
  simp [decodeIncomingReliableMessage, getU8, splitOff, channelIdLen]

theorem decodeIncomingReliableMessage_eq_some {f : Bytes} {m : ChannelId × Bytes} :
    decodeIncomingReliableMessage f = some m ↔ f = m.1 :: m.2 := by
  cases f with
  | nil => simp [decodeIncomingReliableMessage, getU8]
  | cons c p =>
    rw [decodeIncomingReliableMessage_cons, Option.some_inj, Prod.ext_iff, List.cons.injEq]

theorem decodeIncomingReliableMessage_eq_none {f : Bytes} :
    decodeIncomingReliableMessage f = none ↔ f = [] := by
  cases f with
  | nil => simp [decodeIncomingReliableMessage, getU8]
  | cons c p => simp [decodeIncomingReliableMessage_cons]

/-! ## One frame through the receiver -/

variable {M : ℕ} {c : ChannelId} {p : Bytes}

theorem lengthField_beBytes_append {n : ℕ} (h : n < 2 ^ 32) (rest : Bytes) :
    lengthField (beBytes n reliableFrameLengthFieldLen ++ rest) = n := by
  rw [lengthField, List.take_left' (by simp), beNat_beBytes]
  exact Nat.mod_eq_of_lt h

/-- A non-empty block within the limit is taken for a frame. -/
theorem decoded_block {b : Bytes} (hb : b ≠ []) (hM : b.length ≤ M) (h32 : b.length < 2 ^ 32)
    (rest : Bytes) :
    decoded ⟨.head, M⟩ (block b ++ rest) = .item b ⟨.head, M⟩ rest := by
  have hlen := List.length_pos_of_ne_nil hb
  have h5 : reliableFrameTotalHeaderLen = 5 := rfl
  have h4 : reliableFrameLengthFieldLen = 4 := rfl
  have hfield := lengthField_beBytes_append h32 (b ++ rest)
  rw [block, List.append_assoc, decoded_head (by simp; omega) (by rwa [hfield]), hfield,
    List.drop_left' (by simp), decoded_data (by simp), List.take_left' rfl, List.drop_left' rfl]

/-- **One frame**: the receiver finds the payload and stands behind the frame. -/
theorem decode_frame (hM : p.length + 1 ≤ M) (h32 : p.length + 1 < 2 ^ 32) (rest : Bytes) :
    reliableStreamReceiver.decode ⟨.head, M⟩ (frame c p ++ rest) =
      .item (c, p) ⟨.head, M⟩ rest := by
  have hb := decoded_block (b := c :: p) (List.cons_ne_nil c p) hM h32 rest
  rw [frame_eq_block]
  simp only [reliableStreamReceiver, Decoder.andThen, codec, hb,
    decodeIncomingReliableMessage_cons]

/-- Five bytes of a frame are its length and its channel id. -/
theorem lengthField_of_prefix {x y : Bytes} (h32 : p.length + 1 < 2 ^ 32) (hx : x <+: frame c p ++ y)
    (h5 : reliableFrameTotalHeaderLen ≤ x.length) : lengthField x = p.length + 1 := by
  obtain ⟨z, hz⟩ := hx
  rw [← lengthField_append h5 z, hz, frame, List.append_assoc, protocolHeaderLen, channelIdLen,
    Nat.add_comm 1, lengthField_beBytes_append h32]

/-- A header alone, with a length above the limit, ends the stream; the failing call changes neither
the decoder nor the buffer. -/
theorem decode_too_long {x y : Bytes} (hM : M < p.length + 1) (h32 : p.length + 1 < 2 ^ 32)
    (hx : x <+: frame c p ++ y) (h5 : reliableFrameTotalHeaderLen ≤ x.length) :
    reliableStreamReceiver.decode ⟨.head, M⟩ x =
      .fail ⟨.invalidData, .frameSizeTooBig⟩ ⟨.head, M⟩ x := by
  have hfield := lengthField_of_prefix h32 hx h5
  simp only [reliableStreamReceiver, Decoder.andThen, codec, decoded_head_fail h5 (hfield ▸ hM)]

/-- **Several frames**: the receiver finds the payloads and goes on behind them. -/
theorem drain_frames {ps : List Bytes} (hM : ∀ p ∈ ps, p.length + 1 ≤ M)
    (h32 : ∀ p ∈ ps, p.length + 1 < 2 ^ 32) (rest : Bytes) :
    reliableStreamReceiver.drain ⟨.head, M⟩ (frames c ps ++ rest) =
      (ps.map (Prod.mk c) ++ (reliableStreamReceiver.drain ⟨.head, M⟩ rest).1,
        (reliableStreamReceiver.drain ⟨.head, M⟩ rest).2) := by
  induction ps with
  | nil => rfl
  | cons p ps ih =>
    rw [List.forall_mem_cons] at hM h32
    rw [frames_cons, List.append_assoc, Decoder.drain_item (decode_frame hM.1 h32.1 _), ih hM.2 h32.2]
    rfl

theorem decode_codec_nil (M : ℕ) : codec.decode ⟨.head, M⟩ [] = .more ⟨.head, M⟩ [] := by
  have h : ([] : Bytes).length < reliableFrameTotalHeaderLen := by decide
  exact decoded_head_short h

/-- The loop of the decoder alone never panics. -/
theorem drain_codec_ne_panic (d : QuinnetProtocolCodecDecoder) (src : Bytes) :
    (codec.drain d src).2 ≠ .panic := by
  induction d, src using Decoder.drain.induct codec with
  | case1 d src f d' src' h ih => rw [Decoder.drain_item h]; exact ih
  | case2 d src d' src' h => rw [Decoder.drain_more h]; rintro ⟨⟩
  | case3 d src e d' src' h => rw [Decoder.drain_fail h]; rintro ⟨⟩
  | case4 d src h => exact absurd h (decoded_ne_panic d src)

theorem decode_receiver_nil (M : ℕ) :
    reliableStreamReceiver.decode ⟨.head, M⟩ [] = .more ⟨.head, M⟩ [] := by
  simp only [reliableStreamReceiver, Decoder.andThen, decode_codec_nil]

/-! ## What the receiver can emit at all -/

/-- A pending length is within the limit. -/
def QuinnetProtocolCodecDecoder.Fits (d : QuinnetProtocolCodecDecoder) : Prop :=
  ∀ n, d.state = .data n → n ≤ d.maxFrameLen

theorem fits_head (M : ℕ) : Fits ⟨.head, M⟩ := fun _ h ↦ by cases h

/-- A frame the decoder emits is within its limit. -/
theorem decoded_item_length {d d' : QuinnetProtocolCodecDecoder} {src src' f : Bytes}
    (hd : d.Fits) (h : d.decoded src = .item f d' src') :
    f.length ≤ d.maxFrameLen ∧ d' = ⟨.head, d.maxFrameLen⟩ := by
  have hdata : ∀ {n M src}, n ≤ M → decoded ⟨.data n, M⟩ src = .item f d' src' →
      f.length ≤ M ∧ d' = ⟨.head, M⟩ := by
    intro n M src hn h
    rcases Nat.lt_or_ge src.length n with hs | hs
    · rw [decoded_data_short hs] at h; cases h
    · rw [decoded_data hs] at h
      cases h
      exact ⟨by rw [List.length_take]; omega, rfl⟩
  obtain ⟨_ | n, M⟩ := d
  · rcases head_cases M src with hs | ⟨hs, hM⟩ | ⟨hs, hM⟩
    · rw [decoded_head_short hs] at h; cases h
    · rw [decoded_head_fail hs hM] at h; cases h
    · rw [decoded_head hs hM] at h
      exact hdata hM h
  · exact hdata (hd n rfl) h

theorem receiver_item {d d' : QuinnetProtocolCodecDecoder} {src src' : Bytes}
    {m : ChannelId × Bytes} (h : reliableStreamReceiver.decode d src = .item m d' src') :
    d.decoded src = .item (m.1 :: m.2) d' src' := by
  simp only [reliableStreamReceiver, Decoder.andThen, codec] at h
  cases hd : d.decoded src with
  | item f t tgt =>
    rw [hd] at h
    cases hf : decodeIncomingReliableMessage f with
    | some g =>
      simp only [hf] at h
      cases h
      rw [decodeIncomingReliableMessage_eq_some.1 hf]
    | none => simp [hf] at h
  | _ => rw [hd] at h; cases h

/-- **The receiver emits nothing longer than its limit**, channel id included. -/
theorem drain_receiver_length {d : QuinnetProtocolCodecDecoder} {src : Bytes} (hd : d.Fits) :
    ∀ m ∈ (reliableStreamReceiver.drain d src).1, m.2.length + 1 ≤ d.maxFrameLen := by
  induction d, src using Decoder.drain.induct reliableStreamReceiver with
  | case1 d src m d' src' h ih =>
    obtain ⟨hlen, rfl⟩ := decoded_item_length hd (receiver_item h)
    rw [Decoder.drain_item h, List.forall_mem_cons]
    exact ⟨hlen, ih (fits_head _)⟩
  | case2 d src d' src' h => rw [Decoder.drain_more h]; simp
  | case3 d src e d' src' h => rw [Decoder.drain_fail h]; simp
  | case4 d src h => rw [Decoder.drain_panic h]; simp

/-! ## The receiving task -/

/-- The receiving task does on the chunks what its loop does on the whole stream. -/
theorem reliableStreamReceiverTask_fst (chunks : List Bytes) :
    (reliableStreamReceiverTask chunks).1 =
      (reliableStreamReceiver.drain ⟨.head, defaultMaxReliableFrameLen⟩ chunks.flatten).1 := by
  have h := Decoder.drain_flatten (decode_receiver_nil defaultMaxReliableFrameLen) chunks
  rw [List.nil_append] at h
  rw [h]
  rfl

/-- **The reliable round trip.**  The receiver enqueues exactly what the encoder accepted, in
order, and a rejected payload leaves no trace in the stream, exactly when each accepted payload
leaves room for the channel id in the receiver's limit. -/
theorem reliable_roundtrip_iff (c : ChannelId) (m : ℕ) (ps chunks : List Bytes)
    (hcut : chunks.flatten = (QuinnetProtocolCodecEncoder.new c m).encodeAll ps []) :
    ((reliableStreamReceiverTask chunks).1 = (ps.filter (·.length ≤ m)).map (Prod.mk c) ∧
        (QuinnetProtocolCodecEncoder.new c m).encodeAll ps [] =
          (QuinnetProtocolCodecEncoder.new c m).encodeAll (ps.filter (·.length ≤ m)) []) ↔
      ∀ p ∈ ps, p.length ≤ m → p.length + 1 ≤ defaultMaxReliableFrameLen := by
  have hstream : ∀ qs, (QuinnetProtocolCodecEncoder.new c m).encodeAll qs [] =
      frames c (qs.filter (·.length ≤ m)) :=
    fun qs ↦ QuinnetProtocolCodecEncoder.encodeAll_eq _ qs []
  rw [hstream] at hcut
  have hmem : (∀ p ∈ ps.filter (·.length ≤ m), p.length + 1 ≤ defaultMaxReliableFrameLen) ↔
      ∀ p ∈ ps, p.length ≤ m → p.length + 1 ≤ defaultMaxReliableFrameLen := by
    simp only [List.mem_filter, decide_eq_true_eq, and_imp]
  rw [hstream, hstream, List.filter_filter, ← hmem, reliableStreamReceiverTask_fst, hcut]
  simp only [Bool.and_self, and_true]
  constructor
  · intro h p hp
    have hdel : (c, p) ∈ (ps.filter (·.length ≤ m)).map (Prod.mk c) := List.mem_map.2 ⟨p, hp, rfl⟩
    rw [← h] at hdel
    exact drain_receiver_length (fits_head _) _ hdel
  · intro h
    have hd := drain_frames (c := c) h (fun p hp ↦ Nat.lt_of_le_of_lt (h p hp) (by decide)) []
    rw [List.append_nil, Decoder.drain_more (decode_receiver_nil _), List.append_nil] at hd
    rw [hd]

/-- Two payloads on a channel with a limit of two bytes, cut in the middle of a header; the first
is rejected. -/
theorem reliable_roundtrip_small :
    ([[0, 0], [0, 2, 9, 7]] : List Bytes).flatten =
        (QuinnetProtocolCodecEncoder.new 9 2).encodeAll [[1, 2, 3], [7]] [] ∧
      (reliableStreamReceiverTask [[0, 0], [0, 2, 9, 7]]).1 = [(9, [7])] := by
  have hcut : ([[0, 0], [0, 2, 9, 7]] : List Bytes).flatten =
      (QuinnetProtocolCodecEncoder.new 9 2).encodeAll [[1, 2, 3], [7]] [] := by decide
  exact ⟨hcut, ((reliable_roundtrip_iff 9 2 [[1, 2, 3], [7]] _ hcut).2 (by decide)).1⟩

/-- A payload one byte too long for the receiver, alone on a channel that accepts it, is not
delivered at all. -/
theorem payload_lost {m : ℕ} (hm : p.length ≤ m) (hp : p.length = defaultMaxReliableFrameLen) :
    ((QuinnetProtocolCodecEncoder.new c m).encode p []).1 = .ok () ∧
      (reliableStreamReceiverTask [(QuinnetProtocolCodecEncoder.new c m).encodeAll [p] []]).1 =
        [] := by
  have hacc : (QuinnetProtocolCodecEncoder.new c m).Accepts p := hm
  have hlen : reliableFrameTotalHeaderLen ≤ (frame c p ++ []).length := by simp
  have hfail := decode_too_long (M := defaultMaxReliableFrameLen) (c := c) (p := p) (y := [])
    (by omega) (by rw [hp]; decide) List.prefix_rfl hlen
  have hstream : (QuinnetProtocolCodecEncoder.new c m).encodeAll [p] [] = frame c p ++ [] := by
    have hfilter : [p].filter (QuinnetProtocolCodecEncoder.new c m).Accepts = [p] := by simp [hacc]
    rw [QuinnetProtocolCodecEncoder.encodeAll_eq, hfilter]
    simp [frames, QuinnetProtocolCodecEncoder.new]
  refine ⟨by rw [QuinnetProtocolCodecEncoder.encode_of_accepts hacc], ?_⟩
  rw [reliableStreamReceiverTask_fst, hstream, List.flatten_singleton]
  exact congrArg Prod.fst (Decoder.drain_fail hfail)

/-- **The default limits lose a payload.**  On a channel of the default configuration the encoder
accepts a payload of `DEFAULT_MAX_RELIABLE_FRAME_LEN` bytes, and the receiver enqueues nothing. -/
theorem default_limit_payload_lost :
    ((QuinnetProtocolCodecEncoder.new 0 defaultMaxReliableFrameLen).encode
        (List.replicate defaultMaxReliableFrameLen 0) []).1 = .ok () ∧
      (reliableStreamReceiverTask
          [(QuinnetProtocolCodecEncoder.new 0 defaultMaxReliableFrameLen).encodeAll
            [List.replicate defaultMaxReliableFrameLen 0] []]).1 = [] :=
  payload_lost (List.length_replicate ..).le (List.length_replicate ..)

end BevyIroh
