import BevyIroh.Shared.Reliable.RoundTrip

/-!
# The incremental decoder and a parse in one piece

The decoder of a reliable stream works on a buffer that is still filling up: it takes the length field
out of the buffer before the data is there, and waits for one byte more than the field.  What it should
amount to is much simpler.  `greedyParse` reads a byte string that is there as a whole, from the front,
one frame after the other.  `feed_eq_greedyParse` says that the two agree, however the byte string is
cut into chunks: on the frames, on whether there is an error, and on the input that is left, of which
the decoder may hold the length field in its state.
-/

set_option autoImplicit false

namespace BevyIroh

open Bytes FramedRead QuinnetProtocolCodecDecoder

/-! ## The parse in one piece -/

/-- What a parse gives. -/
structure Parse where
  frames : List Bytes
  error : Option IoError
  /-- The input behind the frames. -/
  unread : Bytes
deriving DecidableEq, Repr

/-- While there are five bytes: a length of four bytes, and as many bytes of data. -/
def greedyParse (maxFrameLen : ℕ) (s : Bytes) : Parse :=
  if _h : s.length < 5 then ⟨[], none, s⟩
  else
    let n := beNat (s.take 4)
    let rest := s.drop 4
    if maxFrameLen < n then ⟨[], some ⟨.invalidData, .frameSizeTooBig⟩, s⟩
    else if rest.length < n then ⟨[], none, s⟩
    else
      let p := greedyParse maxFrameLen (rest.drop n)
      { p with frames := rest.take n :: p.frames }
termination_by s.length
decreasing_by
  simp only [List.length_drop]
  omega

example : greedyParse 4 [0, 0, 0, 2, 7, 1, 0, 0, 0, 0, 9] = ⟨[[7, 1], []], none, [9]⟩ := by
  simp [greedyParse, beNat]

section Equations

variable {M : ℕ} {s : Bytes}

theorem greedyParse_short (h : s.length < 5) : greedyParse M s = ⟨[], none, s⟩ := by
  rw [greedyParse, dif_pos h]

theorem greedyParse_fail (h : 5 ≤ s.length) (hM : M < lengthField s) :
    greedyParse M s = ⟨[], some ⟨.invalidData, .frameSizeTooBig⟩, s⟩ := by
  rw [greedyParse, dif_neg (Nat.not_lt.2 h)]
  exact if_pos hM

theorem greedyParse_incomplete (h : 5 ≤ s.length) (hM : lengthField s ≤ M)
    (hn : (s.drop 4).length < lengthField s) : greedyParse M s = ⟨[], none, s⟩ := by
  rw [greedyParse, dif_neg (Nat.not_lt.2 h)]
  exact (if_neg (Nat.not_lt.2 hM)).trans (if_pos hn)

theorem greedyParse_frame (h : 5 ≤ s.length) (hM : lengthField s ≤ M)
    (hn : lengthField s ≤ (s.drop 4).length) :
    greedyParse M s =
      let p := greedyParse M ((s.drop 4).drop (lengthField s))
      { p with frames := (s.drop 4).take (lengthField s) :: p.frames } := by
  rw [greedyParse, dif_neg (Nat.not_lt.2 h)]
  exact (if_neg (Nat.not_lt.2 hM)).trans (if_neg (Nat.not_lt.2 hn))

end Equations

/-! ## What the decoder is left with -/

/-- The length field the decoder has taken out of the buffer. -/
def DecodeState.pending : DecodeState → Bytes
  | .head => []
  | .data payloadLength => beBytes payloadLength reliableFrameLengthFieldLen

/-- The input a stopped decoder holds. -/
def held : Stop QuinnetProtocolCodecDecoder IoError → Bytes
  | .more d src => d.state.pending ++ src
  | .fail _ d src => d.state.pending ++ src
  | .panic => []

/-- The error it stopped with. -/
def stopError : Stop QuinnetProtocolCodecDecoder IoError → Option IoError
  | .fail e _ _ => some e
  | _ => none

theorem held_append {t : Stop QuinnetProtocolCodecDecoder IoError} (ht : t ≠ .panic) (x : Bytes) :
    held (t.append x) = held t ++ x := by
  cases t with
  | panic => exact absurd rfl ht
  | _ => simp [held, Stop.append]

theorem stopError_append (t : Stop QuinnetProtocolCodecDecoder IoError) (x : Bytes) :
    stopError (t.append x) = stopError t := by
  cases t <;> rfl

/-! ## The loop is the parse -/

variable {M : ℕ}

/-- The loop on a whole buffer. -/
theorem drain_eq_greedyParse (M : ℕ) (s : Bytes) :
    (codec.drain ⟨.head, M⟩ s).1 = (greedyParse M s).frames ∧
      stopError (codec.drain ⟨.head, M⟩ s).2 = (greedyParse M s).error ∧
      held (codec.drain ⟨.head, M⟩ s).2 = (greedyParse M s).unread := by
  induction hn : s.length using Nat.strong_induction_on generalizing s with
  | _ len ih =>
    subst hn
    rcases head_cases M s with hs | ⟨hs, hM⟩ | ⟨hs, hM⟩
    · rw [Decoder.drain_more (D := codec) (decoded_head_short hs), greedyParse_short hs]
      exact ⟨rfl, rfl, rfl⟩
    · rw [Decoder.drain_fail (D := codec) (decoded_head_fail hs hM), greedyParse_fail hs hM]
      exact ⟨rfl, rfl, rfl⟩
    · rcases Nat.lt_or_ge (s.drop 4).length (lengthField s) with hn | hn
      · have hdec : codec.decode ⟨.head, M⟩ s = .more ⟨.data (lengthField s), M⟩ (s.drop 4) :=
          (decoded_head hs hM).trans (decoded_data_short hn)
        rw [Decoder.drain_more hdec, greedyParse_incomplete hs hM hn]
        -- the field is in the state of the decoder
        refine ⟨rfl, rfl, ?_⟩
        rw [held, DecodeState.pending, beBytes_lengthField hs]
        exact List.take_append_drop 4 s
      · have hdec : codec.decode ⟨.head, M⟩ s = .item ((s.drop 4).take (lengthField s)) ⟨.head, M⟩
            ((s.drop 4).drop (lengthField s)) := (decoded_head hs hM).trans (decoded_data hn)
        have hlt : ((s.drop 4).drop (lengthField s)).length < s.length := by
          have h5 : 5 ≤ s.length := hs
          simp only [List.length_drop]
          omega
        obtain ⟨hframes, herror, hheld⟩ := ih _ hlt _ rfl
        rw [Decoder.drain_item hdec, greedyParse_frame hs hM hn]
        exact ⟨congrArg _ hframes, herror, hheld⟩

/-- **The incremental decoder is the parse in one piece.**  Whatever the limit, the bytes and the
chunks they come in, the decoder hands over the frames of the parse, stops with its error or without
one, and leaves unread what the parse leaves: the length field in its state, its buffer and the chunks
it was not fed, of which there are none without an error.  The loop that calls it always ends. -/
theorem feed_eq_greedyParse (M : ℕ) (chunks : List Bytes) :
    ((codec.feed (QuinnetProtocolCodecDecoder.new M) [] chunks).1 =
        (greedyParse M chunks.flatten).frames ∧
      stopError (codec.feed (QuinnetProtocolCodecDecoder.new M) [] chunks).2.1 =
        (greedyParse M chunks.flatten).error ∧
      held (codec.feed (QuinnetProtocolCodecDecoder.new M) [] chunks).2.1 ++
          (codec.feed (QuinnetProtocolCodecDecoder.new M) [] chunks).2.2.flatten =
        (greedyParse M chunks.flatten).unread ∧
      (codec.feed (QuinnetProtocolCodecDecoder.new M) [] chunks).2.1 ≠ .panic ∧
      ((greedyParse M chunks.flatten).error = none →
        (codec.feed (QuinnetProtocolCodecDecoder.new M) [] chunks).2.2 = [])) ∧
      WellFounded fun b a : QuinnetProtocolCodecDecoder × Bytes ↦
        ∃ f, codec.decode a.1 a.2 = .item f b.1 b.2 := by
  refine ⟨?_, codec.wellFounded_calls⟩
  have hwhole := Decoder.drain_flatten (decode_codec_nil M) chunks
  have hne := drain_codec_ne_panic ⟨.head, M⟩ chunks.flatten
  obtain ⟨hframes, herror, hheld⟩ := drain_eq_greedyParse M chunks.flatten
  rw [List.nil_append] at hwhole
  rw [hwhole, Ne, Stop.append_eq_panic] at hne
  rw [hwhole] at hframes herror hheld
  rw [stopError_append] at herror
  rw [held_append hne] at hheld
  refine ⟨hframes, herror, hheld, hne, fun hnone ↦ ?_⟩
  rcases codec.feed_cases (.new M) [] chunks with ⟨d, buf, h⟩ | ⟨fed, c, rest, d, buf, -, -, hstop, h⟩
  · rw [h]
  · -- a decoder that neither fails nor panics waits for more
    have h : (codec.feed ⟨.head, M⟩ [] chunks).2 = _ := h
    rw [← herror, h] at hnone
    rw [h] at hne
    cases hd : (codec.drain d (buf ++ c)).2 with
    | more d' buf' => exact absurd hd (hstop d' buf')
    | fail e d' buf' =>
      rw [hd] at hnone
      cases hnone
    | panic => exact absurd hd hne

end BevyIroh
